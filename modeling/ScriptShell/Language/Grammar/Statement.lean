import ScriptShell.Language.Grammar.Expression

/-!
# The grammar of statements

One rule for each kind of statement, and the rule `statement` that tells them apart by their first
token.
-/

namespace ScriptShell.Language.Grammar

open Parse

variable (grammar : Grammar)

/-! ## Declarations -/

/-- The value that a declaration gives to its pattern, if there is one. -/
def initializer (inAllowed : Bool) (pattern : Pattern) : Parse (Option Expression) := do
  if ← accept "=" then
    return some (nameByPattern pattern (← grammar.assignment inAllowed))
  else return none

/-- The declarations behind `var`. -/
def varDeclarations (inAllowed : Bool) : Parse (List (Pattern × Option Expression)) :=
  untilDone [] fun declarations => do
    let pattern ← grammar.pattern
    let value ← initializer grammar inAllowed pattern
    let declarations := (pattern, value) :: declarations
    if ← accept "," then return .inl declarations else return .inr declarations.reverse

/-- One declaration behind `let` or `const`; a constant has to have a value. -/
def lexicalDeclaration (constant inAllowed : Bool) : Parse (Pattern × Option Expression) := do
  let pattern ← grammar.pattern
  let value ← initializer grammar inAllowed pattern
  if constant && value.isNone then
    let lexeme ← peek
    if inAllowed || !(isWord "of" lexeme || isWord "in" lexeme) then
      throw (.expected ["="] lexeme.token.spelling "const declaration" lexeme.start)
  return (pattern, value)

/-- The declarations behind `let` or `const`. -/
def lexicalDeclarations (constant inAllowed : Bool) :
    Parse (List (Pattern × Option Expression)) :=
  untilDone [] fun declarations => do
    let declarations := (← lexicalDeclaration grammar constant inAllowed) :: declarations
    if ← accept "," then return .inl declarations else return .inr declarations.reverse

/-- The end of a statement of `let` or `const`. -/
def endLexical : Parse Unit := do
  match ← peek? with
  | none => return ()
  | some lexeme =>
    if isPunctuator ";" lexeme then discard next
    else if isPunctuator "\x7d" lexeme || lexeme.afterBreak then return ()
    else
      throw (.expected [";", "line terminator"] lexeme.token.spelling
        "lexical declaration binding list" lexeme.start)

/-- A function declaration behind its keyword. -/
def functionDeclaration (isAsync : Bool) : Parse Statement := do
  let lexeme ← peek
  match lexeme.token with
  | .word _ =>
    let name ← bindingName
    return .function (← functionRest grammar name .ordinary isAsync)
  | _ => refuse lexeme "function declaration"

/-! ## Blocks -/

/-- Whether some name occurs twice. -/
def hasDuplicates : List String → Bool
  | [] => false
  | name :: rest => rest.contains name || hasDuplicates rest

/-- Whether the lexical names of a block collide with each other or with its other names. -/
def lexicalConflict (lexical others : List String) : Bool :=
  hasDuplicates lexical || lexical.any others.contains

/-- The text of the error for colliding names. -/
def duplicateText : String := "lexical name declared multiple times"

/-- The statements of a block behind its brace. -/
def blockRest (start : Position) : Parse (List Statement) := do
  let body ← statementsToBrace grammar
  let lexical := (lexicalNames body).map (·.1)
  let functions := (declaredFunctions body).map (·.name)
  if lexicalConflict lexical (varNames body ++ functions) then
    throw (.general duplicateText start)
  return body

/-- A block with its braces. -/
def block (context : String) : Parse (List Statement) := do
  let lexeme ← peek
  expect "\x7b" context
  blockRest grammar lexeme.start

/-! ## Loops -/

/-- A loop over the keys or the values of what stands behind its keyword. -/
def forEachRest (overValues : Bool) (kind : Option VariableKind) (pattern : Pattern) :
    Parse Statement := do
  let subject ← if overValues then grammar.assignment true else expression grammar true
  expect ")" "for statement"
  return .forEach overValues kind pattern subject (← grammar.statement)

/-- A loop with a test, behind its first semicolon. -/
def forRest (start : Option Statement) : Parse Statement := do
  let test ← if ← accept ";" then pure none else do
      let test ← expression grammar true
      expect ";" "for statement"
      pure (some test)
  let step ← if ← accept ")" then pure none else do
      let step ← expression grammar true
      expect ")" "for statement"
      pure (some step)
  return .forLoop start test step (← grammar.statement)

/-- What follows the first part of the head of a loop, when that part is a declaration. -/
def forDeclared (kind : VariableKind) (declarations : List (Pattern × Option Expression)) :
    Parse Statement := do
  match declarations with
  | [(pattern, none)] =>
    if ← acceptWord "of" then return ← forEachRest grammar true (some kind) pattern
    if ← acceptWord "in" then return ← forEachRest grammar false (some kind) pattern
  | _ => pure ()
  expect ";" "for statement"
  forRest grammar (some (.declares kind declarations))

/-- A `for` statement behind its keyword. -/
def forStatement : Parse Statement := do
  expect "(" "for statement"
  discard peek
  if ← acceptWord "var" then forDeclared grammar .var (← varDeclarations grammar false)
  else if ← acceptWord "let" then
    forDeclared grammar .lexical (← lexicalDeclarations grammar false false)
  else if ← acceptWord "const" then
    forDeclared grammar .constant (← lexicalDeclarations grammar true false)
  else if ← accept ";" then forRest grammar none
  else
    let start ← expression grammar false
    let overValues ← seesWord "of"
    if overValues || (← seesWord "in") then
      match patternOf? start with
      | none => invalidTarget (← peek).start
      | some pattern =>
        discard next
        forEachRest grammar overValues none pattern
    else
      expect ";" "for statement"
      forRest grammar (some (.expression start))

/-! ## Other statements -/

/-- The test of a statement in parentheses. -/
def parenthesized (context : String) : Parse Expression := do
  expect "(" context
  let value ← expression grammar true
  expect ")" context
  return value

/-- The label behind a jump, if there is one. -/
def jumpLabel (context : String) : Parse (Option String) := do
  match ← peek? with
  | none => return none
  | some lexeme =>
    match lexeme.token with
    | .word word =>
      if !lexeme.afterBreak && (← isName word) then
        discard next
        endStatement context
        return some word
    | _ => pure ()
    endStatement context
    return none

/-- Whether a statement ends here. -/
def statementEnds : Parse Bool := do
  match ← peek? with
  | none => return true
  | some lexeme =>
    return isPunctuator ";" lexeme || isPunctuator "\x7d" lexeme || lexeme.afterBreak

/-- The cases of a switch behind its brace. -/
def cases : Parse (List (Option Expression × List Statement)) :=
  untilDone ([] : List (Option Expression × List Statement)) fun cases => do
    if ← accept "\x7d" then return .inr cases.reverse
    let test ← if ← acceptWord "default" then pure none else do
        expectWord "case" "switch"
        pure (some (← expression grammar true))
    expect ":" "switch case"
    let body ← untilDone ([] : List Statement) fun body => do
      if (← sees "\x7d") || (← seesWord "case") || (← seesWord "default") then
        return .inr body.reverse
      else
        discard peek
        return .inl ((← grammar.statement) :: body)
    return .inl ((test, body) :: cases)

/-- A `try` statement behind its keyword. -/
def tryStatement : Parse Statement := do
  let body ← block grammar "try block"
  let handler ← if ← acceptWord "catch" then do
      let pattern ← if ← accept "(" then do
          let pattern ← grammar.pattern
          expect ")" "catch in try statement"
          pure (some pattern)
        else pure none
      pure (some (pattern, ← block grammar "catch block"))
    else pure none
  let finalizer ← if ← acceptWord "finally" then do
      pure (some (← block grammar "finally block"))
    else pure none
  if handler.isNone && finalizer.isNone then
    let lexeme ← peek
    throw (.expected ["catch", "finally"] lexeme.token.spelling "try statement" lexeme.start)
  return .attempt body handler finalizer

/-- A statement that starts with an expression; a name and a colon are a label. -/
def expressionStatement : Parse Statement := do
  let value ← expression grammar true
  match value with
  | .name name =>
    if ← accept ":" then return .labelled name (← grammar.statement)
  | _ => pure ()
  endStatement "expression statement"
  return .expression value

/-- A statement whose first token is a keyword, if the word is one. -/
def keywordStatement? (lexeme : Lexeme) (word : String) : Option (Parse Statement) :=
  match word with
  | "var" => some do
    discard next
    let declarations ← varDeclarations grammar true
    endStatement "variable statement"
    return .declares .var declarations
  | "let" => some do
    discard next
    let declarations ← lexicalDeclarations grammar false true
    endLexical
    return .declares .lexical declarations
  | "const" => some do
    discard next
    let declarations ← lexicalDeclarations grammar true true
    endLexical
    return .declares .constant declarations
  | "function" => some do
    discard next
    functionDeclaration grammar false
  | "class" => some do
    discard next
    let name ← peek
    match name.token with
    | .word _ => refuse lexeme "class declaration"
    | token =>
      throw (.general ("unexpected token '" ++ token.spelling ++ "', expected class identifier")
        name.start)
  | "if" => some do
    discard next
    let test ← parenthesized grammar "if statement"
    let consequent ← grammar.statement
    if ← acceptWord "else" then return .branch test consequent (some (← grammar.statement))
    else return .branch test consequent none
  | "for" => some do
    discard next
    forStatement grammar
  | "while" => some do
    discard next
    let test ← parenthesized grammar "while statement"
    return .whileLoop test (← grammar.statement)
  | "do" => some do
    discard next
    let body ← grammar.statement
    expectWord "while" "do while statement"
    let test ← parenthesized grammar "do while statement"
    discard (accept ";")
    return .doLoop body test
  | "break" => some do
    discard next
    return .breaks (← jumpLabel "break statement")
  | "continue" => some do
    discard next
    return .continues (← jumpLabel "continue statement")
  | "return" => some do
    if !(← get).inFunction then refuse lexeme "statement"
    discard next
    if ← statementEnds then
      endStatement "return statement"
      return .returns none
    else
      let value ← expression grammar true
      endStatement "return statement"
      return .returns (some value)
  | "throw" => some do
    discard next
    let value ← expression grammar true
    endStatement "throw statement"
    return .throws value
  | "try" => some do
    discard next
    tryStatement grammar
  | "switch" => some do
    discard next
    let subject ← parenthesized grammar "switch statement"
    expect "\x7b" "switch block"
    return .switch subject (← cases grammar)
  | "with" => some do
    if (← get).strict then
      throw (.general "with statement not allowed in strict mode" lexeme.start)
    discard next
    let object ← parenthesized grammar "with statement"
    return .scoped object (← grammar.statement)
  | "debugger" => some do
    discard next
    endStatement "debugger statement"
    return .empty
  | _ => none

/-- A statement. -/
def statementRule : Parse Statement := do
  let lexeme ← peek
  match lexeme.token with
  | .punctuator ";" =>
    discard next
    return .empty
  | .punctuator "\x7b" =>
    discard next
    return .block (← blockRest grammar lexeme.start)
  | .word "async" =>
    match (← get).rest.tail with
    | following :: _ =>
      if isWord "function" following && !following.afterBreak then
        discard next
        discard next
        functionDeclaration grammar true
      else expressionStatement grammar
    | [] => expressionStatement grammar
  | .word word =>
    match keywordStatement? grammar lexeme word with
    | some rule => rule
    | none => expressionStatement grammar
  | _ => expressionStatement grammar

end ScriptShell.Language.Grammar
