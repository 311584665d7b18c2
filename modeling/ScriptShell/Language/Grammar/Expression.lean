import ScriptShell.Language.Grammar.Basic

/-!
# The grammar of expressions

Operators are read by levels: a rule for a level reads operands of the next one and the operators
of its own. An arrow function is told from a parenthesized expression by the arrow behind its
closing parenthesis. A pattern of an assignment is read as an expression first.
-/

namespace ScriptShell.Language.Grammar

open Parse

/-! ## Patterns out of expressions -/

mutual

/-- The pattern that an expression is on the left of an assignment. -/
def patternOf? : Expression → Option Pattern
  | .name name => some (.target (.name name))
  | .member object key => some (.target (.member object key))
  | .index object key => some (.target (.index object key))
  | .array elements => (elementPatterns? elements).map .array
  | .object members => do
    let (fields, rest) ← memberPatterns? members
    return .object fields rest
  | _ => none

/-- The elements of a pattern out of those of an array. -/
def elementPatterns? : List Element → Option (List PatternElement)
  | [] => some []
  | .hole :: rest => do return .hole :: (← elementPatterns? rest)
  | .item (.assign pattern value) :: rest => do
    return .item pattern (some value) :: (← elementPatterns? rest)
  | .item value :: rest => do
    let pattern ← patternOf? value
    return .item pattern none :: (← elementPatterns? rest)
  | .spread value :: rest => do
    let pattern ← patternOf? value
    return .rest pattern :: (← elementPatterns? rest)

/-- The fields of a pattern, and what takes the rest, out of the members of an object. -/
def memberPatterns? : List Member → Option (List PatternField × Option Pattern)
  | [] => some ([], none)
  | .field name (.assign pattern value) :: rest => do
    let (fields, remainder) ← memberPatterns? rest
    return (.field name pattern (some value) :: fields, remainder)
  | .field name value :: rest => do
    let pattern ← patternOf? value
    let (fields, remainder) ← memberPatterns? rest
    return (.field name pattern none :: fields, remainder)
  | .spread value :: _ => do return ([], some (← patternOf? value))
  | _ :: _ => none

end

/-- Whether an expression names a place that one value can be stored in. -/
def isSimpleTarget : Expression → Bool
  | .name _ | .member _ _ | .index _ _ => true
  | _ => false

/-- An anonymous function that is bound to a name takes that name. -/
def nameFunction (name : String) : Expression → Expression
  | .function definition bindsName => .function (definition.named name) bindsName
  | value => value

/-- An anonymous function that is assigned to a name takes that name. -/
def nameByPattern (pattern : Pattern) (value : Expression) : Expression :=
  match pattern with
  | .target (.name name) => nameFunction name value
  | _ => value

/-! ## Functions -/

variable (grammar : Grammar)

/-- Whether the directive for strict mode stands here. -/
def seesStrictDirective : Parse Bool := do
  match (← get).rest with
  | lexeme :: rest =>
    match lexeme.token with
    | .text value =>
      return value = WideText.ofString "use strict" && match rest with
        | [] => true
        | following :: _ =>
          isPunctuator ";" following || isPunctuator "\x7d" following || following.afterBreak
    | _ => return false
  | [] => return false

/-- The statements up to a closing brace, which is read. -/
def statementsToBrace : Parse (List Statement) :=
  untilDone [] fun statements => do
    if ← accept "\x7d" then return .inr statements.reverse
    else
      discard peek
      return .inl ((← grammar.statement) :: statements)

/-- The body of a function between braces. -/
def functionBody (isAsync : Bool) : Parse (Bool × List Statement) := do
  expect "\x7b" "function body"
  inPlace (fun state => { state with inFunction := true, inAsync := isAsync }) do
    let directive ← seesStrictDirective
    modify fun state => { state with strict := state.strict || directive }
    let start := (← get).behind
    let body ← statementsToBrace grammar
    match illegalJump? {} body with
    | some text => throw (.general text start)
    | none => return ((← get).strict, body)

/-- A pattern with the default that may follow it. -/
def patternWithDefault : Parse PatternElement := do
  let pattern ← grammar.pattern
  if ← accept "=" then
    return .item pattern (some (nameByPattern pattern (← grammar.assignment true)))
  else return .item pattern none

/-- The elements of an array pattern or a parameter list up to a closing punctuator, which is
read. -/
def patternElements (closing : String) : Parse (List PatternElement) :=
  untilDone [] fun elements => do
    if ← accept closing then return .inr elements.reverse
    else if ← accept "," then return .inl (.hole :: elements)
    else
      let element ← if ← accept "..." then
          pure (PatternElement.rest (← grammar.pattern))
        else patternWithDefault grammar
      if !(← sees closing) then expect "," "binding pattern"
      return .inl (element :: elements)

/-- The parameters and the body of a function. -/
def functionRest (name : String) (kind : FunctionKind) (isAsync : Bool) :
    Parse FunctionSyntax := do
  expect "(" "function parameters"
  let parameters ← inPlace (fun state => { state with inAsync := isAsync })
    (patternElements grammar ")")
  let (strict, body) ← functionBody grammar isAsync
  return .define name kind isAsync strict parameters body

/-- A function expression behind its keyword. -/
def functionExpression (isAsync : Bool) : Parse Expression := do
  let lexeme ← peek
  match lexeme.token with
  | .word _ =>
    let name ← bindingName
    return .function (← functionRest grammar name .ordinary isAsync) true
  | _ => return .function (← functionRest grammar "" .ordinary isAsync) false

/-- An arrow function from its arrow on. -/
def arrowRest (isAsync : Bool) (parameters : List PatternElement) : Parse Expression := do
  expect "=>" "arrow function"
  if ← sees "\x7b" then
    let (strict, body) ← functionBody grammar isAsync
    return .function (.define "" .arrow isAsync strict parameters body) false
  else
    inPlace (fun state => { state with inAsync := isAsync }) do
      let value ← grammar.assignment true
      return .function
        (.define "" .arrow isAsync (← get).strict parameters [.returns (some value)]) false

/-- What follows the parenthesis that closes the one before these lexemes. -/
def behindParentheses : Nat → List Lexeme → List Lexeme
  | _, [] => []
  | depth, lexeme :: rest =>
    match lexeme.token with
    | .punctuator spelling =>
      if spelling = "(" || spelling = "[" || spelling = "\x7b" then
        behindParentheses (depth + 1) rest
      else if spelling = ")" || spelling = "]" || spelling = "\x7d" then
        match depth with
        | 0 => rest
        | depth + 1 => behindParentheses depth rest
      else behindParentheses depth rest
    | _ => behindParentheses depth rest

/-- Whether an arrow comes first. -/
def startsWithArrow : List Lexeme → Bool
  | lexeme :: _ => isPunctuator "=>" lexeme && !lexeme.afterBreak
  | [] => false

/-- Whether an arrow function starts at these lexemes, with one name or in parentheses. -/
def startsArrow : List Lexeme → Bool
  | lexeme :: rest =>
    match lexeme.token with
    | .word word => !reserved.contains word && startsWithArrow rest
    | .punctuator "(" => startsWithArrow (behindParentheses 0 rest)
    | _ => false
  | [] => false

/-- An arrow function. -/
def arrowFunction (isAsync : Bool) : Parse Expression := do
  if ← accept "(" then
    let parameters ← patternElements grammar ")"
    arrowRest grammar isAsync parameters
  else
    let name ← bindingName
    arrowRest grammar isAsync [.item (.target (.name name)) none]

/-! ## Primary expressions -/

/-- An expression of assignments with commas between them. -/
def expression (inAllowed : Bool) : Parse Expression := do
  let first ← grammar.assignment inAllowed
  untilDone first fun left => do
    if ← accept "," then return .inl (.sequence left (← grammar.assignment inAllowed))
    else return .inr left

/-- The elements of an array or an argument list up to a closing punctuator, which is read. -/
def elements (closing context : String) (holes : Bool) : Parse (List Element) :=
  untilDone [] fun elements => do
    if ← accept closing then return .inr elements.reverse
    else if holes && (← sees ",") then
      discard next
      return .inl (.hole :: elements)
    else
      let element ← if ← accept "..." then
          pure (Element.spread (← grammar.assignment true))
        else pure (Element.item (← grammar.assignment true))
      if !(← sees closing) then
        let lexeme ← peek
        if isPunctuator "," lexeme then discard next
        else throw (.expected [",", closing] lexeme.token.spelling context lexeme.start)
      return .inl (element :: elements)

/-- The name of a property, and its word if it is one. -/
def propertyName : Parse (PropertyName × Option String) := do
  let lexeme ← next
  match lexeme.token with
  | .word word => return (.fixed (WideText.ofString word), some word)
  | .text value => return (.fixed value, none)
  | .number value | .legacyNumber value =>
    return (.fixed (WideText.ofString (Decimal.Layout.script.float value)), none)
  | .bigint value => return (.fixed (WideText.ofString value.repr), none)
  | .punctuator "[" =>
    let name ← grammar.assignment true
    expect "]" "computed property name"
    return (.computed name, none)
  | _ => refuse lexeme "object literal"

/-- The word of a property name, for the name of a function. -/
def functionNameOf : PropertyName → String
  | .fixed name => name.escaped
  | .computed _ => ""

/-- A field of an object expression behind its name. -/
def fieldRest (name : PropertyName) (word : Option String) (place : Lexeme) : Parse Member := do
  if ← accept ":" then
    let value ← grammar.assignment true
    match name with
    | .fixed key =>
      if key = WideText.ofString "__proto__" then return .prototype value
      else return .field name (nameFunction key.escaped value)
    | .computed _ => return .field name value
  else if ← sees "(" then
    return .field name
      (.function (← functionRest grammar (functionNameOf name) .method false) false)
  else
    match word with
    | some word =>
      if ← isName word then
        if ← accept "=" then
          return .field name (.assign (.target (.name word)) (← grammar.assignment true))
        else return .field name (.name word)
      else refuse place "object literal"
    | none =>
      let lexeme ← peek
      throw (.expected [":"] lexeme.token.spelling "property definition" lexeme.start)

/-- Whether a word stands alone as the name of a property. -/
def standsAlone : Parse Bool := do
  return (← sees "(") || (← sees ":") || (← sees ",") || (← sees "\x7d") || (← sees "=")

/-- A member of an object expression. -/
def objectMember : Parse Member := do
  if ← accept "..." then return .spread (← grammar.assignment true)
  else
    let place ← peek
    let (name, word) ← propertyName grammar
    match word with
    | some "get" =>
      if ← standsAlone then fieldRest grammar name word place
      else
        let (name, _) ← propertyName grammar
        return .getter name (← functionRest grammar (functionNameOf name) .getter false)
    | some "set" =>
      if ← standsAlone then fieldRest grammar name word place
      else
        let (name, _) ← propertyName grammar
        return .setter name (← functionRest grammar (functionNameOf name) .setter false)
    | some "async" =>
      if ← standsAlone then fieldRest grammar name word place
      else
        let (name, _) ← propertyName grammar
        return .field name
          (.function (← functionRest grammar (functionNameOf name) .method true) false)
    | _ => fieldRest grammar name word place

/-- The members of an object expression behind its brace. -/
def members : Parse (List Member) :=
  untilDone [] fun members => do
    if ← accept "\x7d" then return .inr members.reverse
    else
      discard peek
      let member ← objectMember grammar
      if !(← sees "\x7d") then expect "," "object literal"
      return .inl (member :: members)

/-- The rest of a template behind its first part. -/
def templateRest (head : WideText) : Parse Expression :=
  untilDone ([] : List (Expression × WideText)) fun parts => do
    let value ← expression grammar true
    let lexeme ← next
    match lexeme.token with
    | .template text true => return .inr (.template head (((value, text) :: parts).reverse))
    | .template text false => return .inl ((value, text) :: parts)
    | _ => refuse lexeme "template literal"

/-- An expression that is no operation. -/
def primary : Parse Expression := do
  let lexeme ← peek
  match lexeme.token with
  | .number value =>
    discard next
    return .number value
  | .legacyNumber value =>
    if (← get).strict then
      throw (.general "implicit octal literals are not allowed in strict mode" lexeme.start)
    discard next
    return .number value
  | .bigint value =>
    discard next
    return .bigint value
  | .text value =>
    discard next
    return .text value
  | .template text last =>
    discard next
    if last then return .template text [] else templateRest grammar text
  | .punctuator "(" =>
    discard next
    let value ← expression grammar true
    expect ")" "parenthesized expression"
    return value
  | .punctuator "[" =>
    discard next
    return .array (← elements grammar "]" "array literal" true)
  | .punctuator "\x7b" =>
    discard next
    return .object (← members grammar)
  | .word "this" =>
    discard next
    return .this
  | .word "null" =>
    discard next
    return .null
  | .word "true" =>
    discard next
    return .boolean true
  | .word "false" =>
    discard next
    return .boolean false
  | .word "function" =>
    discard next
    functionExpression grammar false
  | .word word =>
    if !(← isName word) then refuse lexeme "primary expression"
    discard next
    if word = "async" then
      match ← peek? with
      | some following =>
        if isWord "function" following && !following.afterBreak then
          discard next
          return ← functionExpression grammar true
      | none => pure ()
    return .name word
  | _ => refuse lexeme "primary expression"

/-! ## Members and calls -/

/-- The name behind a dot. -/
def memberName : Parse WideText := do
  let lexeme ← next
  match lexeme.token with
  | .word word => return WideText.ofString word
  | _ => refuse lexeme "expected identifier"

/-- A primary expression or a construction, with the members behind it. -/
def memberExpression : Parse Expression := do
  let start ← if ← acceptWord "new" then do
      let callee ← grammar.member
      if ← accept "(" then
        pure (Expression.construct callee (← elements grammar ")" "argument list" false))
      else pure (Expression.construct callee [])
    else primary grammar
  untilDone start fun object => do
    if ← accept "." then return .inl (.member object (← memberName))
    else if ← accept "[" then
      let key ← expression grammar true
      expect "]" "member expression"
      return .inl (.index object key)
    else return .inr object

/-- A member expression with the calls and members behind it. -/
def callExpression : Parse Expression := do
  let start ← memberExpression grammar
  untilDone start fun callee => do
    if ← accept "(" then
      return .inl (.call callee (← elements grammar ")" "argument list" false))
    else if ← accept "." then return .inl (.member callee (← memberName))
    else if ← accept "[" then
      let key ← expression grammar true
      expect "]" "member expression"
      return .inl (.index callee key)
    else return .inr callee

/-! ## Operators -/

/-- The error of an operator that changes what it cannot. -/
def invalidTarget {α : Type} (place : Position) : Parse α :=
  throw (.general "Invalid left-hand side in assignment" place)

/-- An expression with an increment or a decrement behind it. -/
def postfixExpression : Parse Expression := do
  let place ← peek
  let target ← callExpression grammar
  match ← peek? with
  | some lexeme =>
    if lexeme.afterBreak then return target
    else if isPunctuator "++" lexeme || isPunctuator "--" lexeme then
      if !isSimpleTarget target then invalidTarget place.start
      discard next
      return .update (isPunctuator "++" lexeme) false target
    else return target
  | none => return target

/-- The operator that a lexeme is before an operand. -/
def unaryOperator? (lexeme : Lexeme) : Option UnaryOperator :=
  match lexeme.token with
  | .punctuator "+" => some .plus
  | .punctuator "-" => some .minus
  | .punctuator "~" => some .bitNot
  | .punctuator "!" => some .not
  | .word "typeof" => some .typeOf
  | .word "void" => some .void
  | .word "delete" => some .delete
  | _ => none

/-- An operand with the operators before it. -/
def unaryExpression : Parse Expression := do
  let lexeme ← peek
  match unaryOperator? lexeme with
  | some operator =>
    discard next
    let operand ← grammar.unary
    match operator, operand with
    | .delete, .name _ =>
      if (← get).strict then
        throw (.general "cannot delete variables in strict mode" lexeme.start)
      return .unary operator operand
    | _, _ => return .unary operator operand
  | none =>
    if isPunctuator "++" lexeme || isPunctuator "--" lexeme then
      discard next
      let target ← grammar.unary
      if !isSimpleTarget target then invalidTarget lexeme.start
      return .update (isPunctuator "++" lexeme) true target
    else if isWord "await" lexeme && (← get).inAsync then
      discard next
      return .await (← grammar.unary)
    else postfixExpression grammar

/-- An operator between two operands. -/
inductive Infix where
  | binary (operator : BinaryOperator)
  | logical (operator : LogicalOperator)

/-- The level of the operator that a lexeme is between operands, and the operator. -/
def infixOperator? (inAllowed : Bool) (lexeme : Lexeme) : Option (Nat × Infix) :=
  match lexeme.token with
  | .punctuator spelling =>
    match spelling with
    | "??" => some (1, .logical .coalesce)
    | "||" => some (2, .logical .or)
    | "&&" => some (3, .logical .and)
    | "|" => some (4, .binary .bitOr)
    | "^" => some (5, .binary .bitXor)
    | "&" => some (6, .binary .bitAnd)
    | "==" => some (7, .binary .equal)
    | "!=" => some (7, .binary .notEqual)
    | "===" => some (7, .binary .same)
    | "!==" => some (7, .binary .notSame)
    | "<" => some (8, .binary .less)
    | "<=" => some (8, .binary .lessEqual)
    | ">" => some (8, .binary .greater)
    | ">=" => some (8, .binary .greaterEqual)
    | "<<" => some (9, .binary .shiftLeft)
    | ">>" => some (9, .binary .shiftRight)
    | ">>>" => some (9, .binary .shiftRightUnsigned)
    | "+" => some (10, .binary .add)
    | "-" => some (10, .binary .subtract)
    | "*" => some (11, .binary .multiply)
    | "/" => some (11, .binary .divide)
    | "%" => some (11, .binary .remainder)
    | "**" => some (12, .binary .power)
    | _ => none
  | .word "in" => if inAllowed then some (8, .binary .isIn) else none
  | .word "instanceof" => some (8, .binary .instanceOf)
  | _ => none

/-- Two operands with the operator between them. -/
def Infix.apply : Infix → Expression → Expression → Expression
  | .binary operator => .binary operator
  | .logical operator => .logical operator

/-- Operands with operators of a level and of higher ones between them. -/
def binaryExpression (level : Nat) (inAllowed : Bool) : Parse Expression := do
  let first ← unaryExpression grammar
  untilDone first fun left => do
    match ← peek? with
    | none => return .inr left
    | some lexeme =>
      match infixOperator? inAllowed lexeme with
      | none => return .inr left
      | some (found, operator) =>
        if found < level then return .inr left
        else
          discard next
          if (← peek?).isNone then
            throw (.general
              "abrupt end - could not preview next value as part of the operator" lexeme.finish)
          let right ← grammar.binary (if found = 12 then 12 else found + 1) inAllowed
          return .inl (operator.apply left right)

/-- The operator that an assignment combines its target with. -/
def compoundOperator? (lexeme : Lexeme) : Option Infix :=
  match lexeme.token with
  | .punctuator spelling =>
    match spelling with
    | "+=" => some (.binary .add)
    | "-=" => some (.binary .subtract)
    | "*=" => some (.binary .multiply)
    | "/=" => some (.binary .divide)
    | "%=" => some (.binary .remainder)
    | "**=" => some (.binary .power)
    | "<<=" => some (.binary .shiftLeft)
    | ">>=" => some (.binary .shiftRight)
    | ">>>=" => some (.binary .shiftRightUnsigned)
    | "&=" => some (.binary .bitAnd)
    | "|=" => some (.binary .bitOr)
    | "^=" => some (.binary .bitXor)
    | "&&=" => some (.logical .and)
    | "||=" => some (.logical .or)
    | "??=" => some (.logical .coalesce)
    | _ => none
  | _ => none

/-- A conditional expression or an assignment. -/
def assignmentRest (inAllowed : Bool) : Parse Expression := do
  let place ← peek
  let left ← binaryExpression grammar 0 inAllowed
  if ← accept "?" then
    let consequent ← grammar.assignment true
    expect ":" "conditional expression"
    return .conditional left consequent (← grammar.assignment inAllowed)
  else
    match ← peek? with
    | none => return left
    | some lexeme =>
      if isPunctuator "=" lexeme then
        match patternOf? left with
        | none => invalidTarget place.start
        | some pattern =>
          discard next
          return .assign pattern (nameByPattern pattern (← grammar.assignment inAllowed))
      else
        match compoundOperator? lexeme with
        | none => return left
        | some operator =>
          if !isSimpleTarget left then invalidTarget place.start
          discard next
          let value ← grammar.assignment inAllowed
          match operator with
          | .binary operator => return .compound operator left value
          | .logical operator => return .logicalAssign operator left value

/-- An assignment expression. -/
def assignmentExpression (inAllowed : Bool) : Parse Expression := do
  let lexemes := (← get).rest
  if startsArrow lexemes then arrowFunction grammar false
  else
    match lexemes with
    | lexeme :: following :: _ =>
      if isWord "async" lexeme && !following.afterBreak && startsArrow lexemes.tail then
        discard next
        arrowFunction grammar true
      else assignmentRest grammar inAllowed
    | _ => assignmentRest grammar inAllowed

/-! ## Binding patterns -/

/-- A field of an object pattern. -/
def patternField : Parse PatternField := do
  let place ← peek
  let (name, word) ← propertyName grammar
  let pattern ← if ← accept ":" then grammar.pattern
    else match word with
      | some word =>
        if ← isName word then pure (Pattern.target (.name word))
        else throw (.expected ["identifier"] word "identifier parsing" place.start)
      | none => refuse place "object binding pattern"
  if ← accept "=" then
    return .field name pattern (some (nameByPattern pattern (← grammar.assignment true)))
  else return .field name pattern none

/-- The fields of an object pattern behind its brace. -/
def patternFields : Parse (List PatternField × Option Pattern) :=
  untilDone ([] : List PatternField) fun fields => do
    if ← accept "\x7d" then return .inr (fields.reverse, none)
    else if ← accept "..." then
      let pattern ← grammar.pattern
      expect "\x7d" "object binding pattern"
      return .inr (fields.reverse, some pattern)
    else
      let field ← patternField grammar
      if !(← sees "\x7d") then expect "," "object binding pattern"
      return .inl (field :: fields)

/-- A pattern that binds names. -/
def bindingPattern : Parse Pattern := do
  if ← accept "[" then return .array (← patternElements grammar "]")
  else if ← accept "\x7b" then
    let (fields, rest) ← patternFields grammar
    return .object fields rest
  else return .target (.name (← bindingName))

end ScriptShell.Language.Grammar
