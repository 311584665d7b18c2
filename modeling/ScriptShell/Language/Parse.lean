import ScriptShell.Language.Grammar.Statement
import ScriptShell.Language.Scan

/-!
# Parsing scripts

`Code.parse` reads a source text as a script. The grammar is tied together here: each rule that
calls another through `Grammar` takes one off a bound, and between two such calls on the way down
a token is read or one of a few levels passed, so a multiple of the number of lexemes suffices.

What the grammar alone does not see is checked on the tree: jumps need a target around them, and
a script declares no lexical name twice.
-/

namespace ScriptShell.Language

/-! ## The knot -/

/-- The rules of the grammar, with a bound on the steps from one into another. -/
def grammar : Nat → Grammar
  | 0 =>
    { assignment := fun _ => throw .abruptEnd
      binary := fun _ _ => throw .abruptEnd
      unary := throw .abruptEnd
      member := throw .abruptEnd
      pattern := throw .abruptEnd
      statement := throw .abruptEnd }
  | bound + 1 =>
    { assignment := fun inAllowed => do
        discard Parse.peek
        Grammar.assignmentExpression (grammar bound) inAllowed
      binary := fun level inAllowed => Grammar.binaryExpression (grammar bound) level inAllowed
      unary := fun state => Grammar.unaryExpression (grammar bound) state
      member := fun state => Grammar.memberExpression (grammar bound) state
      pattern := fun state => Grammar.bindingPattern (grammar bound) state
      statement := fun state => Grammar.statementRule (grammar bound) state }

/-- A parsed script. -/
structure Code where
  strict : Bool
  body : List Statement

namespace Code

/-- The statements up to the end. -/
def statements (grammar : Grammar) : Parse (List Statement) :=
  Parse.untilDone ([] : List Statement) fun statements => do
    match ← Parse.peek? with
    | none => return .inr statements.reverse
    | some _ => return .inl ((← grammar.statement) :: statements)

/-- A whole script. -/
def rule (grammar : Grammar) : Parse Code := do
  let directive ← Grammar.seesStrictDirective
  modify fun state => { state with strict := state.strict || directive }
  let body ← statements grammar
  let lexical := (lexicalNames body).map (·.1)
  let functions := (declaredFunctions body).map (·.name)
  if Grammar.lexicalConflict lexical (varNames body ++ functions) then
    throw (.general Grammar.duplicateText .first)
  match illegalJump? {} body with
  | some text => throw (.general text .first)
  | none => return ⟨(← get).strict, body⟩

/-- Reads a source text as a script, which is strict mode code if it says so or is to be. -/
def parse (strict : Bool) (source : String) : Except SyntaxError Code := do
  let lexemes := Lexeme.scan source
  let (code, _) ← (rule (grammar (4 * lexemes.length + 8))).run
    { rest := lexemes, strict := strict }
  return code

end Code

end ScriptShell.Language
