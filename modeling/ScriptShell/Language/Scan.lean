import ScriptShell.Decimal.Read
import ScriptShell.Language.Letters
import ScriptShell.Language.Token

/-!
# Reading tokens

`Lexeme.scan` reads a source text as lexemes. Each part of it takes a cursor and gives the cursor
behind what it read. Inside a template an embedded expression ends at the closing brace that
belongs to it, so the scanner keeps the number of open braces for each template it is inside of.
-/

namespace ScriptShell.Language

/-- What is left of a source text, and where it stands. -/
structure Cursor where
  rest : List Char
  position : Position

namespace Cursor

/-- The cursor behind one character. A carriage return and a newline together end one line. -/
def advance (cursor : Cursor) : Cursor :=
  match cursor.rest with
  | [] => cursor
  | c :: rest =>
    let ends := isLineBreak c && !(c = '\r' && rest.head? = some '\n')
    if ends then ⟨rest, ⟨cursor.position.line + 1, 1⟩⟩
    else ⟨rest, ⟨cursor.position.line, cursor.position.column + 1⟩⟩

/-- The cursor behind so many characters. -/
def advanceBy (cursor : Cursor) : Nat → Cursor
  | 0 => cursor
  | count + 1 => cursor.advance.advanceBy count

/-- The characters up to the first that fails a test, and the cursor there. -/
def takeWhile (test : Char → Bool) (cursor : Cursor) : List Char × Cursor :=
  let taken := cursor.rest.takeWhile test
  (taken, cursor.advanceBy taken.length)

end Cursor

/-! ## Blanks and comments -/

/-- The cursor behind a comment whose opening was read, and whether a line ended in it. -/
def skipComment : Nat → Cursor → Bool → Except SyntaxError (Cursor × Bool)
  | 0, _, _ => .error .abruptEnd
  | bound + 1, cursor, broken =>
    match cursor.rest with
    | [] => .error (.general "unterminated multiline comment" cursor.position)
    | '*' :: '/' :: _ => .ok (cursor.advanceBy 2, broken)
    | c :: _ => skipComment bound cursor.advance (broken || isLineBreak c)

/-- The cursor behind blanks and comments, and whether a line ended among them. -/
def skipBlanks : Nat → Cursor → Bool → Except SyntaxError (Cursor × Bool)
  | 0, _, _ => .error .abruptEnd
  | bound + 1, cursor, broken =>
    match cursor.rest with
    | '/' :: '/' :: _ =>
      skipBlanks bound (cursor.takeWhile fun c => !isLineBreak c).2 broken
    | '/' :: '*' :: _ => do
      let (cursor, broken) ← skipComment bound (cursor.advanceBy 2) broken
      skipBlanks bound cursor broken
    | c :: _ =>
      if isLineBreak c then skipBlanks bound cursor.advance true
      else if isBlank c then skipBlanks bound cursor.advance broken
      else .ok (cursor, broken)
    | [] => .ok (cursor, broken)

/-! ## Escapes and texts -/

/-- The number of some hexadecimal digits, if there are that many. -/
def readHex? (count : Nat) (digits : List Char) : Option Nat :=
  let taken := digits.take count
  if taken.length = count then
    taken.foldl (fun value c => do return (← value) * 16 + (← digitValue? 16 c)) (some 0)
  else none

/-- The units of a code point, which may be a lone surrogate. -/
def unitsOfPoint (point : Nat) : List UInt16 :=
  if point < 0x10000 then [point.toUInt16]
  else
    [(0xD800 + (point - 0x10000) / 0x400).toUInt16,
      (0xDC00 + (point - 0x10000) % 0x400).toUInt16]

/-- Reads an escape whose backslash was read; `start` is the place of the backslash. -/
def readEscape (cursor : Cursor) (start : Position) :
    Except SyntaxError (List UInt16 × Cursor) :=
  match cursor.rest with
  | [] => .error (.unterminated "string literal")
  | 'n' :: _ => .ok ([10], cursor.advance)
  | 't' :: _ => .ok ([9], cursor.advance)
  | 'r' :: _ => .ok ([13], cursor.advance)
  | 'b' :: _ => .ok ([8], cursor.advance)
  | 'v' :: _ => .ok ([11], cursor.advance)
  | 'f' :: _ => .ok ([12], cursor.advance)
  | '\r' :: '\n' :: _ => .ok ([], cursor.advanceBy 2)
  | 'x' :: digits =>
    match readHex? 2 digits with
    | some value => .ok ([value.toUInt16], cursor.advanceBy 3)
    | none => .error (.general "invalid hexadecimal escape sequence" start)
  | 'u' :: '{' :: rest =>
    let digits := rest.takeWhile (· != '}')
    match readHex? digits.length digits with
    | some value =>
      if digits.isEmpty || digits.length = rest.length then
        .error (.general "malformed Unicode character escape sequence" start)
      else if 0x10FFFF < value then
        .error (.general "Unicode codepoint must not be greater than 0x10FFFF in escape sequence"
          start)
      else .ok (unitsOfPoint value, cursor.advanceBy (digits.length + 3))
    | none => .error (.general "malformed Unicode character escape sequence" start)
  | 'u' :: digits =>
    match readHex? 4 digits with
    | some value => .ok ([value.toUInt16], cursor.advanceBy 5)
    | none => .error (.general "invalid Unicode escape sequence" start)
  | c :: _ =>
    if isLineBreak c then .ok ([], cursor.advance)
    else if '0' ≤ c && c ≤ '7' then
      let digits := (cursor.rest.take (if c ≤ '3' then 3 else 2)).takeWhile fun c =>
        '0' ≤ c && c ≤ '7'
      let value := digits.foldl (fun value c => value * 8 + (c.toNat - '0'.toNat)) 0
      .ok ([value.toUInt16], cursor.advanceBy digits.length)
    else .ok (WideText.encodeChar c, cursor.advance)

/-- Reads a text up to its closing quote, onto the units already read, the last one first. -/
def readText (quote : Char) : Nat → Cursor → List UInt16 →
    Except SyntaxError (WideText × Cursor)
  | 0, _, _ => .error .abruptEnd
  | bound + 1, cursor, units =>
    match cursor.rest with
    | [] => .error (.unterminated "string literal")
    | '\\' :: _ => do
      let (escaped, next) ← readEscape cursor.advance cursor.position
      readText quote bound next (escaped.reverse ++ units)
    | c :: _ =>
      if c = quote then .ok (⟨units.reverse⟩, cursor.advance)
      else if c = '\n' || c = '\r' then .error (.unterminated "string literal")
      else readText quote bound cursor.advance ((WideText.encodeChar c).reverse ++ units)

/-- Reads a template up to its end or its next embedded expression; the answer tells whether it
was the end. -/
def readTemplate : Nat → Cursor → List UInt16 → Except SyntaxError (WideText × Bool × Cursor)
  | 0, _, _ => .error .abruptEnd
  | bound + 1, cursor, units =>
    match cursor.rest with
    | [] => .error (.unterminated "template literal")
    | '\x60' :: _ => .ok (⟨units.reverse⟩, true, cursor.advance)
    | '$' :: '{' :: _ => .ok (⟨units.reverse⟩, false, cursor.advanceBy 2)
    | '\\' :: _ => do
      let (escaped, next) ← readEscape cursor.advance cursor.position
      readTemplate bound next (escaped.reverse ++ units)
    | '\r' :: rest =>
      let width := if rest.head? = some '\n' then 2 else 1
      readTemplate bound (cursor.advanceBy width) (10 :: units)
    | c :: _ => readTemplate bound cursor.advance ((WideText.encodeChar c).reverse ++ units)

/-! ## Numbers -/

/-- Reads digits in a base, between which single underscores may stand. -/
def readDigits (base : Nat) (cursor : Cursor) : List Char × Cursor :=
  let (taken, next) := cursor.takeWhile fun c => (digitValue? base c).isSome || c = '_'
  (taken.filter (· != '_'), next)

/-- The value of digits in a base. -/
def valueOfDigits (base : Nat) (digits : List Char) : Nat :=
  digits.foldl (fun value c => value * base + (digitValue? base c).getD 0) 0

/-- Reads an integer whose base was named by a prefix. -/
def readPrefixed (base : Nat) (name : String) (cursor : Cursor) :
    Except SyntaxError (Token × Cursor) :=
  let cursor := cursor.advanceBy 2
  let (digits, next) := readDigits base cursor
  if digits = [] then
    .error (.general ("expected " ++ name ++ " digit after number base prefix") cursor.position)
  else
    let value := valueOfDigits base digits
    match next.rest with
    | 'n' :: _ => .ok (.bigint value, next.advance)
    | _ => .ok (.number (Decimal.nearest value 0), next)

/-- Reads the digits of a fraction, if a point stands here. -/
def readFraction (cursor : Cursor) : List Char × Cursor :=
  match cursor.rest with
  | '.' :: _ => readDigits 10 cursor.advance
  | _ => ([], cursor)

/-- Reads a power of ten, if its mark stands here. -/
def readPower (cursor : Cursor) : Except SyntaxError (Int × Cursor) :=
  match cursor.rest with
  | c :: rest =>
    if c = 'e' || c = 'E' then
      let (negative, start) := match rest with
        | '-' :: _ => (true, cursor.advanceBy 2)
        | '+' :: _ => (false, cursor.advanceBy 2)
        | _ => (false, cursor.advance)
      let (digits, next) := readDigits 10 start
      if digits = [] then .error (.general "exponent part has no digits" start.position)
      else
        let value : Int := valueOfDigits 10 digits
        .ok (if negative then -value else value, next)
    else .ok (0, cursor)
  | [] => .ok (0, cursor)

/-- Reads a decimal number. -/
def readDecimal (cursor : Cursor) : Except SyntaxError (Token × Cursor) := do
  let (whole, next) := readDigits 10 cursor
  match next.rest with
  | 'n' :: _ => return (.bigint (valueOfDigits 10 whole), next.advance)
  | _ =>
    let (fraction, next) := readFraction next
    let (power, next) ← readPower next
    let coefficient := valueOfDigits 10 (whole ++ fraction)
    return (.number (Decimal.nearest coefficient (power - fraction.length)), next)

/-- Reads a number that starts with a zero and goes on with a digit: an octal, unless a digit is
too large for one. -/
def readLegacy (cursor : Cursor) : Except SyntaxError (Token × Cursor) :=
  let (digits, next) := cursor.takeWhile Char.isDigit
  if next.rest.head? = some 'n' then
    .error (.general "'n' suffix not allowed in octal representation" next.position)
  else
    let base := if digits.all fun c => c ≤ '7' then 8 else 10
    .ok (.legacyNumber (Decimal.nearest (valueOfDigits base digits) 0), next)

/-- Reads a number. -/
def readNumber (cursor : Cursor) : Except SyntaxError (Token × Cursor) := do
  let (token, next) ← match cursor.rest with
    | '0' :: 'x' :: _ | '0' :: 'X' :: _ => readPrefixed 16 "hexadecimal" cursor
    | '0' :: 'o' :: _ | '0' :: 'O' :: _ => readPrefixed 8 "octal" cursor
    | '0' :: 'b' :: _ | '0' :: 'B' :: _ => readPrefixed 2 "binary" cursor
    | '0' :: c :: _ => if c.isDigit then readLegacy cursor else readDecimal cursor
    | _ => readDecimal cursor
  if next.rest.head?.any continuesName then
    .error (.general "a number literal must not be immediately followed by an identifier or digit"
      next.position)
  else return (token, next)

/-! ## Tokens -/

/-- The punctuators, longer ones before their beginnings. -/
def punctuators : List String :=
  [">>>=", "...", "===", "!==", ">>>", "**=", "<<=", ">>=", "&&=", "||=", "??=", "=>", "==", "!=",
    "<=", ">=", "&&", "||", "??", "++", "--", "+=", "-=", "*=", "/=", "%=", "&=", "|=", "^=", "<<",
    ">>", "**", "\x7b", "\x7d", "(", ")", "[", "]", ".", ";", ",", "<", ">", "+", "-", "*", "/",
    "%", "&", "|", "^", "!", "~", "?", ":", "="]

/-- Reads one token other than a template. -/
def readToken (bound : Nat) (cursor : Cursor) : Except SyntaxError (Token × Cursor) :=
  match cursor.rest with
  | [] => .error .abruptEnd
  | c :: rest =>
    if beginsName c then
      let (name, next) := cursor.takeWhile continuesName
      .ok (.word (String.ofList name), next)
    else if c.isDigit || (c = '.' && rest.head?.any Char.isDigit) then readNumber cursor
    else if c = '"' || c = '\'' then do
      let (value, next) ← readText c bound cursor.advance []
      return (.text value, next)
    else if c = '#' then
      .error (.general "Abrupt end: Expecting private identifier" cursor.position)
    else
      match punctuators.find? fun spelling => spelling.toList.isPrefixOf cursor.rest with
      | some spelling => .ok (.punctuator spelling, cursor.advanceBy spelling.length)
      | none =>
        .error (.general
          ("unexpected '" ++ String.ofList [c] ++ "' at line " ++ cursor.position.line.repr ++
            ", column " ++ cursor.position.column.repr)
          cursor.position)

/-- The open braces of each template after a punctuator. -/
def trackBraces (spelling : String) : List Nat → List Nat
  | [] => []
  | depth :: rest =>
    if spelling = "\x7b" then (depth + 1) :: rest
    else if spelling = "\x7d" then (depth - 1) :: rest
    else depth :: rest

/-- Reads lexemes onto those already read, the last one first. The list `open` holds, for each
template around this place, the braces open in its embedded expression. -/
def scanOnto : Nat → Cursor → List Nat → List Lexeme → List Lexeme
  | 0, _, _, read => read.reverse
  | bound + 1, cursor, templates, read =>
    match skipBlanks (bound + 1) cursor false with
    | .error error => (⟨.failure error, cursor.position, cursor.position, false⟩ :: read).reverse
    | .ok (cursor, broken) =>
      let start := cursor.position
      let failed := fun error => (⟨.failure error, start, start, broken⟩ :: read).reverse
      let chunk := fun (opening : Cursor) (outer : List Nat) =>
        match readTemplate (bound + 1) opening [] with
        | .error error => failed error
        | .ok (text, last, next) =>
          scanOnto bound next (if last then outer else 0 :: outer)
            (⟨.template text last, start, next.position, broken⟩ :: read)
      match cursor.rest, templates with
      | [], _ => read.reverse
      | '\x60' :: _, _ => chunk cursor.advance templates
      | '}' :: _, 0 :: outer => chunk cursor.advance outer
      | _, _ =>
        match readToken (bound + 1) cursor with
        | .error error => failed error
        | .ok (token, next) =>
          let templates := match token with
            | .punctuator spelling => trackBraces spelling templates
            | _ => templates
          scanOnto bound next templates (⟨token, start, next.position, broken⟩ :: read)

/-- The lexemes of a source text. A first line that starts with `#!` is a comment. -/
def Lexeme.scan (source : String) : List Lexeme :=
  let cursor : Cursor := ⟨source.toList, .first⟩
  let start := match cursor.rest with
    | '#' :: '!' :: _ => (cursor.takeWhile fun c => !isLineBreak c).2
    | _ => cursor
  scanOnto (cursor.rest.length + 1) start [] []

end ScriptShell.Language
