import ScriptShell.Language.Jumps
import ScriptShell.Language.Token

/-!
# Reading lexemes by a grammar

The state of a parse is the list of lexemes still to be read and what is known of the place: whether
it is strict mode code, inside a function, inside an async function. A grammar refers to itself;
`Grammar` holds the rules that other rules call, and each step into one of them uses up a part of
a bound that the number of lexemes gives.
-/

namespace ScriptShell.Language

/-- The state of a parse. -/
structure ParseState where
  rest : List Lexeme
  /-- The place behind the last token read. -/
  behind : Position := .first
  strict : Bool := false
  inFunction : Bool := false
  inAsync : Bool := false

/-- A rule of the grammar. -/
abbrev Parse := StateT ParseState (Except SyntaxError)

/-- The rules that other rules call. -/
structure Grammar where
  /-- An assignment expression; the flag allows the operator `in`. -/
  assignment : Bool → Parse Expression
  /-- An expression of binary operators from a level on. -/
  binary : Nat → Bool → Parse Expression
  unary : Parse Expression
  member : Parse Expression
  pattern : Parse Pattern
  statement : Parse Statement

namespace Parse

/-- The next lexeme, if there is one. A place where no token can be read is an error here. -/
def peek? : Parse (Option Lexeme) := do
  match (← get).rest with
  | [] => return none
  | lexeme :: _ =>
    match lexeme.token with
    | .failure error => throw error
    | _ => return some lexeme

/-- The next lexeme, where there has to be one. -/
def peek : Parse Lexeme := do
  match ← peek? with
  | some lexeme => return lexeme
  | none => throw .abruptEnd

/-- Reads the next lexeme. -/
def next : Parse Lexeme := do
  let lexeme ← peek
  modify fun state => { state with rest := state.rest.tail, behind := lexeme.finish }
  return lexeme

/-- Whether a lexeme is a punctuator. -/
def isPunctuator (spelling : String) (lexeme : Lexeme) : Bool :=
  match lexeme.token with
  | .punctuator other => other = spelling
  | _ => false

/-- Whether a lexeme is a word. -/
def isWord (spelling : String) (lexeme : Lexeme) : Bool :=
  match lexeme.token with
  | .word other => other = spelling
  | _ => false

/-- Whether the next lexeme is a punctuator. -/
def sees (spelling : String) : Parse Bool := do
  return (← peek?).any (isPunctuator spelling)

/-- Whether the next lexeme is a word. -/
def seesWord (spelling : String) : Parse Bool := do
  return (← peek?).any (isWord spelling)

/-- Reads a punctuator if it stands here. -/
def accept (spelling : String) : Parse Bool := do
  if ← sees spelling then
    discard next
    return true
  else return false

/-- Reads a word if it stands here. -/
def acceptWord (spelling : String) : Parse Bool := do
  if ← seesWord spelling then
    discard next
    return true
  else return false

/-- Reads a punctuator that has to stand here. -/
def expect (spelling context : String) : Parse Unit := do
  let lexeme ← peek
  if isPunctuator spelling lexeme then discard next
  else throw (.expected [spelling] lexeme.token.spelling context lexeme.start)

/-- Reads a word that has to stand here. -/
def expectWord (spelling context : String) : Parse Unit := do
  let lexeme ← peek
  if isWord spelling lexeme then discard next
  else throw (.expected [spelling] lexeme.token.spelling context lexeme.start)

/-- The error of a token that cannot stand here. -/
def refuse {α : Type} (lexeme : Lexeme) (context : String) : Parse α :=
  throw (.unexpected lexeme.token.spelling context lexeme.start)

/-- Reads the end of a statement: a semicolon, or nothing before a closing brace, after a line
break and at the end. -/
def endStatement (context : String) : Parse Unit := do
  match ← peek? with
  | none => return ()
  | some lexeme =>
    if isPunctuator ";" lexeme then discard next
    else if isPunctuator "\x7d" lexeme || lexeme.afterBreak then return ()
    else throw (.expected [";"] lexeme.token.spelling context lexeme.start)

/-- Repeats a rule until it gives an answer, at most as often as there are lexemes, and once. -/
def repeatWith {α β : Type} (step : α → Parse (α ⊕ β)) : Nat → α → Parse β
  | 0, _ => throw .abruptEnd
  | bound + 1, state => do
    match ← step state with
    | .inl state => repeatWith step bound state
    | .inr answer => return answer

/-- Repeats a rule until it gives an answer. -/
def untilDone {α β : Type} (start : α) (step : α → Parse (α ⊕ β)) : Parse β := do
  repeatWith step ((← get).rest.length + 2) start

/-! ## Names -/

/-- The words that are no names. -/
def reserved : List String :=
  ["break", "case", "catch", "class", "const", "continue", "debugger", "default", "delete", "do",
    "else", "enum", "export", "extends", "false", "finally", "for", "function", "if", "import",
    "in", "instanceof", "new", "null", "return", "super", "switch", "this", "throw", "true", "try",
    "typeof", "var", "void", "while", "with"]

/-- The words that are no names in strict mode code. -/
def reservedInStrict : List String :=
  ["implements", "interface", "let", "package", "private", "protected", "public", "static",
    "yield"]

/-- Whether a word is a name here. -/
def isName (word : String) : Parse Bool := do
  let state ← get
  return !(reserved.contains word || (state.strict && reservedInStrict.contains word) ||
    (state.inAsync && word = "await"))

/-- Reads a name that is being bound. -/
def bindingName : Parse String := do
  let lexeme ← peek
  match lexeme.token with
  | .word word =>
    if ← isName word then
      discard next
      return word
    else throw (.expected ["identifier"] word "identifier parsing" lexeme.start)
  | token => throw (.expected ["identifier"] token.spelling "identifier parsing" lexeme.start)

/-- Does something with the properties of the place changed, and restores them. -/
def inPlace {α : Type} (change : ParseState → ParseState) (rule : Parse α) : Parse α := do
  let before ← get
  set (change before)
  let result ← rule
  modify fun state =>
    { state with
      strict := before.strict, inFunction := before.inFunction, inAsync := before.inAsync }
  return result

end Parse

end ScriptShell.Language
