import Mathlib.Data.List.TakeWhile
import ScriptShell.Profile.Json

/-!
# The tokens of JSON texts

A JSON text consists of marks, words, numbers and texts in quotes, with blanks around them as one
likes. `Json.Spells` says which texts a list of tokens may be written as: inside quotes a character
may stand for itself, behind a backslash or as one or two `\u` escapes. `Json.lex?` reads the tokens
of a text, and it reads exactly those that the text spells (`Json.tokens?_eq_some_iff`). So a text
spells one list of tokens at most, however its blanks and its escapes were chosen.
-/

namespace ScriptShell

namespace Json

/-- The marks that hold a document together. -/
inductive Mark where
  | openItems
  | closeItems
  | openFields
  | closeFields
  | comma
  | colon
  deriving DecidableEq

/-- The character of a mark. -/
def Mark.char : Mark → Char
  | .openItems => '['
  | .closeItems => ']'
  | .openFields => '{'
  | .closeFields => '}'
  | .comma => ','
  | .colon => ':'

/-- The mark of a character. -/
def mark? (c : Char) : Option Mark :=
  [Mark.openItems, .closeItems, .openFields, .closeFields, .comma, .colon].find? (·.char = c)

theorem char_of_mark? {c : Char} {mark : Mark} (h : mark? c = some mark) : mark.char = c := by
  simpa using List.find?_some h

/-- What a JSON text consists of, apart from its blanks. -/
inductive Token where
  | mark (mark : Mark)
  | boolean (value : Bool)
  | number (token : String)
  | text (value : String)
  deriving DecidableEq

def isBlank (c : Char) : Bool :=
  c = ' ' || c = '\t' || c = '\n' || c = '\r'

/-! ## Numbers -/

/-- How far a number has been read. -/
inductive NumberPart where
  | start
  | minus
  | zero
  | whole
  | point
  | fraction
  | letter
  | sign
  | power

namespace NumberPart

/-- What may follow the whole digits of a number. -/
def behindWhole? (c : Char) : Option NumberPart :=
  if c = '.' then some .point else if c = 'e' || c = 'E' then some .letter else none

/-- One character more of a number: a minus or none, zero or digits that begin with another one,
digits behind a point or none, and a power of ten or none. -/
def step? : NumberPart → Char → Option NumberPart
  | .start, c =>
    if c = '-' then some .minus
    else if c = '0' then some .zero
    else if c.isDigit then some .whole
    else none
  | .minus, c =>
    if c = '0' then some .zero else if c.isDigit then some .whole else none
  | .zero, c => behindWhole? c
  | .whole, c => if c.isDigit then some .whole else behindWhole? c
  | .point, c => if c.isDigit then some .fraction else none
  | .fraction, c =>
    if c.isDigit then some .fraction else if c = 'e' || c = 'E' then some .letter else none
  | .letter, c =>
    if c = '+' || c = '-' then some .sign else if c.isDigit then some .power else none
  | .sign, c => if c.isDigit then some .power else none
  | .power, c => if c.isDigit then some .power else none

/-- Whether a number may end here. -/
def complete : NumberPart → Bool
  | .zero | .whole | .fraction | .power => true
  | _ => false

end NumberPart

/-- Whether characters are a JSON number. -/
def isNumber (chars : List Char) : Bool :=
  (chars.foldlM NumberPart.step? .start).any NumberPart.complete

/-- The characters that numbers are written with. -/
def isNumeric (c : Char) : Bool :=
  c.isDigit || c = '-' || c = '+' || c = '.' || c = 'e' || c = 'E'

theorem NumberPart.isNumeric_of_step? {part next : NumberPart} {c : Char}
    (hstep : part.step? c = some next) : isNumeric c = true := by
  by_contra hnumeric
  simp only [isNumeric, Bool.or_eq_true, decide_eq_true_eq, not_or] at hnumeric
  obtain ⟨⟨⟨⟨⟨hdigit, hminus⟩, hplus⟩, hpoint⟩, hsmall⟩, hlarge⟩ := hnumeric
  have hzero : c ≠ '0' := by
    rintro rfl
    exact hdigit rfl
  cases part <;>
    simp [NumberPart.step?, NumberPart.behindWhole?, hdigit, hminus, hplus, hpoint, hsmall, hlarge,
      hzero] at hstep

theorem isNumeric_of_foldlM {chars : List Char} {part last : NumberPart}
    (hread : chars.foldlM NumberPart.step? part = some last) : ∀ c ∈ chars, isNumeric c = true := by
  induction chars generalizing part with
  | nil => exact List.forall_mem_nil _
  | cons c chars ih =>
      rw [List.foldlM_cons] at hread
      obtain ⟨next, hstep, hread⟩ := Option.bind_eq_some_iff.mp hread
      exact List.forall_mem_cons.mpr ⟨NumberPart.isNumeric_of_step? hstep, ih hread⟩

theorem isNumeric_of_isNumber {chars : List Char} (h : isNumber chars = true) :
    ∀ c ∈ chars, isNumeric c = true := by
  obtain ⟨last, hread, -⟩ := (Option.any_eq_true _ _).mp h
  exact isNumeric_of_foldlM hread

theorem ne_nil_of_isNumber {chars : List Char} (h : isNumber chars = true) : chars ≠ [] := by
  rintro rfl
  cases h

theorem isNumeric_of_isBlank {c : Char} (hc : isBlank c = true) : isNumeric c = false := by
  simp only [isBlank, Bool.or_eq_true, decide_eq_true_eq] at hc
  rcases hc with ((rfl | rfl) | rfl) | rfl <;> rfl

theorem isNumeric_char (mark : Mark) : isNumeric mark.char = false := by
  cases mark <;> rfl

/-! ## Texts in quotes -/

/-- What stands inside quotes: a character or, behind `\u`, a code unit of UTF-16. -/
inductive Piece where
  | plain (c : Char)
  | unit (code : Nat)

/-- The character that a letter behind a backslash stands for. -/
def shortEscape? (letter : Char) : Option Char :=
  match letter with
  | '"' => some '"'
  | '\\' => some '\\'
  | '/' => some '/'
  | 'b' => some '\x08'
  | 'f' => some '\x0c'
  | 'n' => some '\n'
  | 'r' => some '\r'
  | 't' => some '\t'
  | _ => none

/-- The number of a hexadecimal digit. -/
def hexValue? (c : Char) : Option Nat :=
  if c.isDigit then some (c.toNat - 48)
  else if 'a' ≤ c ∧ c ≤ 'f' then some (c.toNat - 87)
  else if 'A' ≤ c ∧ c ≤ 'F' then some (c.toNat - 55)
  else none

/-- The number of four hexadecimal digits. -/
def unit? (first second third fourth : Char) : Option Nat := do
  let first ← hexValue? first
  let second ← hexValue? second
  let third ← hexValue? third
  let fourth ← hexValue? fourth
  return ((first * 16 + second) * 16 + third) * 16 + fourth

/-- The ways to write a piece. -/
inductive Piece.Spelled : Piece → List Char → Prop
  | plain {c : Char} (hquote : c ≠ '"') (hslash : c ≠ '\\') (hcontrol : 0x20 ≤ c.toNat) :
      Spelled (.plain c) [c]
  | short {letter c : Char} (hletter : shortEscape? letter = some c) :
      Spelled (.plain c) ['\\', letter]
  | unit {first second third fourth : Char} {code : Nat}
      (hcode : unit? first second third fourth = some code) :
      Spelled (.unit code) ['\\', 'u', first, second, third, fourth]

/-- The ways to write pieces one after another. -/
inductive Literal : List Piece → List Char → Prop
  | nil : Literal [] []
  | cons {piece : Piece} {pieces : List Piece} {chars body : List Char}
      (hpiece : piece.Spelled chars) (hpieces : Literal pieces body) :
      Literal (piece :: pieces) (chars ++ body)

def isHigh (code : Nat) : Bool := 0xD800 ≤ code && code < 0xDC00

def isLow (code : Nat) : Bool := 0xDC00 ≤ code && code < 0xE000

/-- The characters of pieces: a code unit stands for a character, or a high one and a low one behind
it do together. -/
def characters? : List Piece → Option (List Char)
  | [] => some []
  | .plain c :: rest => (characters? rest).map (c :: ·)
  | .unit code :: rest =>
    if isHigh code then
      match rest with
      | .unit low :: rest =>
        if isLow low then
          (characters? rest).map
            (Char.ofNat (0x10000 + (code - 0xD800) * 0x400 + (low - 0xDC00)) :: ·)
        else none
      | _ => none
    else if isLow code then none
    else (characters? rest).map (Char.ofNat code :: ·)

/-- Pieces and a rest with a piece more in front. -/
def behind (piece : Piece) : List Piece × List Char → List Piece × List Char
  | (pieces, rest) => (piece :: pieces, rest)

/-- Reads the pieces up to a closing quote. -/
def literal? : List Char → Option (List Piece × List Char)
  | '"' :: rest => some ([], rest)
  | '\\' :: 'u' :: first :: second :: third :: fourth :: rest => do
    let code ← unit? first second third fourth
    (literal? rest).map (behind (.unit code))
  -- A `\u` with too little behind it comes here, and it is no escape.
  | '\\' :: letter :: rest => do
    let c ← shortEscape? letter
    (literal? rest).map (behind (.plain c))
  | c :: rest =>
    if c ≠ '\\' ∧ 0x20 ≤ c.toNat then (literal? rest).map (behind (.plain c)) else none
  | [] => none

theorem literal?_append {pieces : List Piece} {body : List Char} (h : Literal pieces body)
    (rest : List Char) : literal? (body ++ '"' :: rest) = some (pieces, rest) := by
  induction h with
  | nil => rfl
  | cons hpiece _ ih =>
      cases hpiece with
      | plain hquote hslash hcontrol =>
          rw [List.append_assoc, List.singleton_append, literal?]
          · simp [hslash, hcontrol, ih, behind]
          · exact hquote
          · simp [hslash]
          · simp [hslash]
      | short hletter =>
          simp only [List.cons_append, List.nil_append]
          rw [literal?]
          · simp [hletter, ih, behind]
          · rintro first second third fourth rest rfl
            cases hletter
      | unit hcode => simp [literal?, hcode, ih, behind]

theorem map_behind_eq_some {read : Option (List Piece × List Char)} {piece : Piece}
    {pieces : List Piece} {rest : List Char}
    (h : read.map (behind piece) = some (pieces, rest)) :
    ∃ others, read = some (others, rest) ∧ pieces = piece :: others := by
  obtain ⟨⟨others, other⟩, hread, heq⟩ := Option.map_eq_some_iff.mp h
  cases heq
  exact ⟨others, hread, rfl⟩

theorem literal_of_literal? {chars rest : List Char} {pieces : List Piece}
    (h : literal? chars = some (pieces, rest)) :
    ∃ body, Literal pieces body ∧ chars = body ++ '"' :: rest := by
  fun_induction literal? chars generalizing pieces with
  | case1 rest =>
      cases h
      exact ⟨[], .nil, rfl⟩
  | case2 first second third fourth others ih =>
      obtain ⟨code, hcode, hothers⟩ := Option.bind_eq_some_iff.mp h
      obtain ⟨found, hread, rfl⟩ := map_behind_eq_some hothers
      obtain ⟨body, hbody, rfl⟩ := ih hread
      exact ⟨_, .cons (.unit hcode) hbody, rfl⟩
  | case3 letter others hletter ih =>
      obtain ⟨c, hc, hothers⟩ := Option.bind_eq_some_iff.mp h
      obtain ⟨found, hread, rfl⟩ := map_behind_eq_some hothers
      obtain ⟨body, hbody, rfl⟩ := ih hread
      exact ⟨_, .cons (.short hc) hbody, rfl⟩
  | case4 c others hquote _ _ hc ih =>
      obtain ⟨found, hread, rfl⟩ := map_behind_eq_some h
      obtain ⟨body, hbody, rfl⟩ := ih hread
      exact ⟨_, .cons (.plain hquote hc.1 hc.2) hbody, rfl⟩
  | case5 => cases h
  | case6 => cases h

/-! ## Tokens and blanks -/

/-- The ways to write a token. -/
inductive Token.Spelled : Token → List Char → Prop
  | mark (mark : Mark) : Spelled (.mark mark) [mark.char]
  | boolean (value : Bool) : Spelled (.boolean value) (word value)
  | number {token : String} (hnumber : isNumber token.toList = true) :
      Spelled (.number token) token.toList
  | text {pieces : List Piece} {body : List Char} {value : String} (hbody : Literal pieces body)
      (hvalue : characters? pieces = some value.toList) :
      Spelled (.text value) ('"' :: (body ++ ['"']))

/-- Nothing that a number would go on with. -/
def Apart (rest : List Char) : Prop :=
  ∀ c, rest.head? = some c → isNumeric c = false

/-- Whether a token ends before a rest: a number goes on as long as it can. -/
def Token.EndsBefore : Token → List Char → Prop
  | .number _, rest => Apart rest
  | _, _ => True

/-- The characters are the tokens one after another, with blanks around them. -/
inductive Spells : List Token → List Char → Prop
  | nil : Spells [] []
  | blank {c : Char} {tokens : List Token} {rest : List Char} (hblank : isBlank c = true)
      (hrest : Spells tokens rest) : Spells tokens (c :: rest)
  | token {token : Token} {tokens : List Token} {chars rest : List Char}
      (htoken : token.Spelled chars) (hends : token.EndsBefore rest)
      (hrest : Spells tokens rest) : Spells (token :: tokens) (chars ++ rest)

/-- Reads the token that a text begins with. -/
def token? : List Char → Option (Token × List Char)
  | '"' :: rest => do
    let (pieces, rest) ← literal? rest
    let value ← characters? pieces
    return (.text (String.ofList value), rest)
  | 't' :: 'r' :: 'u' :: 'e' :: rest => some (.boolean true, rest)
  | 'f' :: 'a' :: 'l' :: 's' :: 'e' :: rest => some (.boolean false, rest)
  | [] => none
  | c :: rest =>
    match mark? c with
    | some mark => some (.mark mark, rest)
    | none =>
      -- What looks like a number is taken to its end before it is judged.
      let digits := (c :: rest).takeWhile isNumeric
      if isNumber digits then
        some (.number (String.ofList digits), (c :: rest).dropWhile isNumeric)
      else none

/-- Reads the tokens of a text of so many characters at most. -/
def lex? : Nat → List Char → Option (List Token)
  | _, [] => some []
  | 0, _ :: _ => none
  | bound + 1, c :: rest =>
    if isBlank c then lex? bound rest
    else do
      let (token, rest) ← token? (c :: rest)
      (lex? bound rest).map (token :: ·)

/-- Reads the tokens of a text. -/
def tokens? (chars : List Char) : Option (List Token) :=
  lex? chars.length chars

theorem Token.Spelled.exists_cons {token : Token} {chars : List Char} (h : token.Spelled chars) :
    ∃ c rest, chars = c :: rest ∧ isBlank c = false := by
  cases h with
  | mark mark => exact ⟨_, _, rfl, by cases mark <;> rfl⟩
  | boolean value => cases value <;> exact ⟨_, _, rfl, rfl⟩
  | @number token hnumber =>
      cases hchars : token.toList with
      | nil => exact absurd hchars (ne_nil_of_isNumber hnumber)
      | cons c rest =>
          refine ⟨c, rest, rfl, Bool.eq_false_iff.mpr fun hblank => ?_⟩
          rw [hchars] at hnumber
          have hnumeric := isNumeric_of_isNumber hnumber c List.mem_cons_self
          rw [isNumeric_of_isBlank hblank] at hnumeric
          cases hnumeric
  | text => exact ⟨_, _, rfl, rfl⟩

/-- Characters of numbers before something else are taken to the last one. -/
theorem takeWhile_isNumeric {chars rest : List Char} (hchars : ∀ c ∈ chars, isNumeric c = true)
    (hrest : Apart rest) :
    (chars ++ rest).takeWhile isNumeric = chars ∧ (chars ++ rest).dropWhile isNumeric = rest := by
  rw [List.takeWhile_append_of_pos hchars, List.dropWhile_append_of_pos hchars]
  cases rest with
  | nil => simp
  | cons c rest => simp [hrest c rfl]

theorem token?_append {token : Token} {chars rest : List Char} (h : token.Spelled chars)
    (hends : token.EndsBefore rest) : token? (chars ++ rest) = some (token, rest) := by
  cases h with
  | mark mark => cases mark <;> rfl
  | boolean value => cases value <;> rfl
  | @number token hnumber =>
      have hnumeric := isNumeric_of_isNumber hnumber
      obtain ⟨htake, hdrop⟩ := takeWhile_isNumeric hnumeric hends
      cases hchars : token.toList with
      | nil => exact absurd hchars (ne_nil_of_isNumber hnumber)
      | cons c others =>
          rw [hchars] at hnumeric hnumber htake hdrop
          have hc := hnumeric c List.mem_cons_self
          have hmark : mark? c = none := by
            cases hmark : mark? c with
            | none => rfl
            | some mark =>
                rw [← char_of_mark? hmark, isNumeric_char] at hc
                cases hc
          rw [List.cons_append] at htake hdrop ⊢
          rw [token?]
          · simp only [hmark, htake, hdrop]
            rw [if_pos hnumber, ← hchars, String.ofList_toList]
          all_goals
            intros
            subst_vars
            cases hc
  | text hbody hvalue => simp [token?, literal?_append hbody, hvalue]

theorem spelled_of_token? {token : Token} {chars rest : List Char}
    (h : token? chars = some (token, rest)) :
    ∃ spelled, token.Spelled spelled ∧ token.EndsBefore rest ∧ chars = spelled ++ rest := by
  revert h
  fun_cases token? chars with
  | case1 others =>
      intro h
      obtain ⟨⟨pieces, behind⟩, hread, h⟩ := Option.bind_eq_some_iff.mp h
      obtain ⟨value, hvalue, h⟩ := Option.bind_eq_some_iff.mp h
      cases h
      obtain ⟨body, hbody, rfl⟩ := literal_of_literal? hread
      exact ⟨_, .text hbody (by simpa using hvalue), trivial, by simp⟩
  | case2 others =>
      rintro ⟨⟩
      exact ⟨_, .boolean true, trivial, rfl⟩
  | case3 others =>
      rintro ⟨⟩
      exact ⟨_, .boolean false, trivial, rfl⟩
  | case4 => exact nofun
  | case5 c others _ _ _ mark hmark =>
      rintro ⟨⟩
      rw [← char_of_mark? hmark]
      exact ⟨_, .mark mark, trivial, rfl⟩
  | case6 c others _ _ _ _ digits hdigits =>
      rintro ⟨⟩
      refine ⟨digits, ?_, fun d hd => ?_, List.takeWhile_append_dropWhile.symm⟩
      · have hnumber : isNumber (String.ofList digits).toList = true := by simpa using hdigits
        simpa using Token.Spelled.number hnumber
      · rw [← List.find?_not_eq_head?_dropWhile] at hd
        simpa using List.find?_some hd
  | case7 => exact nofun

theorem lex?_of_spells {tokens : List Token} {chars : List Char} (h : Spells tokens chars) :
    ∀ bound, chars.length ≤ bound → lex? bound chars = some tokens := by
  induction h with
  | nil =>
      intro bound hbound
      cases bound <;> rfl
  | blank hblank _ ih =>
      intro bound hbound
      cases bound with
      | zero => cases hbound
      | succ bound =>
          rw [lex?, if_pos hblank]
          exact ih bound (Nat.le_of_succ_le_succ hbound)
  | token htoken hends _ ih =>
      intro bound hbound
      obtain ⟨c, others, rfl, hblank⟩ := htoken.exists_cons
      cases bound with
      | zero => cases hbound
      | succ bound =>
          have hread := token?_append htoken hends
          rw [List.cons_append] at hread hbound ⊢
          have hshorter : (others ++ _).length ≤ bound := Nat.le_of_succ_le_succ hbound
          rw [List.length_append] at hshorter
          rw [lex?, hread, if_neg (Bool.eq_false_iff.mp hblank)]
          exact congrArg (Option.map _) (ih bound (by omega))

theorem spells_of_lex? {bound : Nat} {chars : List Char} {tokens : List Token}
    (h : lex? bound chars = some tokens) : Spells tokens chars := by
  induction bound generalizing chars tokens with
  | zero =>
      cases chars with
      | nil =>
          cases h
          exact .nil
      | cons => cases h
  | succ bound ih =>
      cases chars with
      | nil =>
          cases h
          exact .nil
      | cons c chars =>
          rw [lex?] at h
          split at h
          · exact .blank ‹_› (ih h)
          · obtain ⟨⟨token, rest⟩, htoken, h⟩ := Option.bind_eq_some_iff.mp h
            obtain ⟨others, hothers, rfl⟩ := Option.map_eq_some_iff.mp h
            obtain ⟨spelled, hspelled, hends, heq⟩ := spelled_of_token? htoken
            rw [heq]
            exact .token hspelled hends (ih hothers)

/-- The tokens that are read are those that the text spells. -/
theorem tokens?_eq_some_iff {chars : List Char} {tokens : List Token} :
    tokens? chars = some tokens ↔ Spells tokens chars :=
  ⟨spells_of_lex?, fun h => lex?_of_spells h _ (Nat.le_refl _)⟩

example : tokens? "[ \"\\u00e9\\uD83D\\ude00\\/\" ,-0.5E+1\n]".toList =
    some [.mark .openItems, .text "é😀/", .mark .comma, .number "-0.5E+1", .mark .closeItems] := by
  decide +kernel

end Json

end ScriptShell
