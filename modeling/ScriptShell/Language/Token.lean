import ScriptShell.Decimal.Layout
import ScriptShell.Text.Wide

/-!
# Tokens of scripts

A source text is read as a list of *lexemes*, tokens with their places. Where no token can be read
the list ends with the error that says why; the parser reports it when it comes to that place, so
an earlier error of the grammar comes first.
-/

namespace ScriptShell.Language

/-- A place in a source text, both numbers from one on. -/
structure Position where
  line : Nat
  column : Nat
  deriving DecidableEq, Repr, Inhabited

/-- The first place. -/
def Position.first : Position := ⟨1, 1⟩

/-- A place in words. -/
def Position.describe (position : Position) : String :=
  "line " ++ position.line.repr ++ ", col " ++ position.column.repr

/-- Why a source text is no script. -/
inductive SyntaxError where
  /-- The text ends too early. -/
  | abruptEnd
  /-- A literal is not ended. -/
  | unterminated (what : String)
  /-- A token stands where another is needed. -/
  | expected (tokens : List String) (found context : String) (position : Position)
  /-- A token stands where it cannot. -/
  | unexpected (found context : String) (position : Position)
  /-- Any other rule is broken. -/
  | general (text : String) (position : Position)
  deriving DecidableEq, Repr

/-- A choice of tokens in words. -/
def describeChoice : List String → String
  | [] => ""
  | [last] => "' or '" ++ last
  | token :: rest => "', '" ++ token ++ describeChoice rest

/-- An error in words. -/
def SyntaxError.message : SyntaxError → String
  | .abruptEnd => "abrupt end"
  | .unterminated what => "unterminated " ++ what
  | .expected tokens found context position =>
    let wanted := match tokens with
      | [] => "token ''"
      | [token] => "token '" ++ token ++ "'"
      | token :: rest => "one of '" ++ token ++ describeChoice rest ++ "'"
    "expected " ++ wanted ++ ", got '" ++ found ++ "' in " ++ context ++ " at " ++
      position.describe
  | .unexpected found context position =>
    "unexpected token '" ++ found ++ "', " ++ context ++ " at " ++ position.describe
  | .general text position => text ++ " at " ++ position.describe

/-- A token. -/
inductive Token where
  /-- A name or a keyword. -/
  | word (spelling : String)
  | punctuator (spelling : String)
  | number (value : Float)
  /-- A number written as an octal without a prefix or with a leading zero. -/
  | legacyNumber (value : Float)
  | bigint (value : Nat)
  | text (value : WideText)
  /-- The text of a template up to its end or to an embedded expression. -/
  | template (text : WideText) (last : Bool)
  /-- The place where no token can be read. -/
  | failure (error : SyntaxError)

/-- The spelling of a token in error texts. -/
def Token.spelling : Token → String
  | .word spelling => spelling
  | .punctuator spelling => spelling
  | .number value => Decimal.Layout.script.float value
  | .legacyNumber value => Decimal.Layout.script.float value
  | .bigint value => value.repr
  | .text value => value.escaped
  | .template chunk _ => chunk.escaped
  | .failure _ => ""

/-- A token with its place. -/
structure Lexeme where
  token : Token
  start : Position
  /-- The place just behind the token. -/
  finish : Position
  /-- Whether a line break stands between the token and the one before. -/
  afterBreak : Bool

instance : Inhabited Lexeme := ⟨⟨.punctuator "", .first, .first, false⟩⟩

end ScriptShell.Language
