import ScriptShell.Text.Wide

/-!
# The syntax of scripts

Expressions, patterns, statements and functions as trees. A method, a getter and an arrow differ
from an ordinary function only in how they are made and called, so all are of one type with a
kind.
-/

namespace ScriptShell.Language

/-! ## Operators and kinds -/

/-- Operators on two values. -/
inductive BinaryOperator where
  | add | subtract | multiply | divide | remainder | power
  | shiftLeft | shiftRight | shiftRightUnsigned
  | bitAnd | bitOr | bitXor
  | equal | notEqual | same | notSame
  | less | lessEqual | greater | greaterEqual
  | isIn | instanceOf
  deriving DecidableEq, Repr

/-- Operators that evaluate their second operand only where the first does not decide. -/
inductive LogicalOperator where
  | and | or | coalesce
  deriving DecidableEq, Repr

/-- Operators on one operand. -/
inductive UnaryOperator where
  | plus | minus | bitNot | not | typeOf | void | delete
  deriving DecidableEq, Repr

/-- The three ways to declare a variable. -/
inductive VariableKind where
  | var | lexical | constant
  deriving DecidableEq, Repr

/-- How a function is made and called. -/
inductive FunctionKind where
  | ordinary | arrow | method | getter | setter
  deriving DecidableEq, Repr

/-! ## Trees -/

mutual

/-- An expression. -/
inductive Expression where
  | number (value : Float)
  | bigint (value : Nat)
  | text (value : WideText)
  | boolean (value : Bool)
  | null
  | template (head : WideText) (parts : List (Expression × WideText))
  | name (name : String)
  | this
  | array (elements : List Element)
  | object (members : List Member)
  /-- A function; one that has a name of its own may refer to itself by it. -/
  | function (definition : FunctionSyntax) (bindsName : Bool)
  | unary (operator : UnaryOperator) (operand : Expression)
  /-- An increment or a decrement, whose value is the new one if it stands before its target. -/
  | update (increment before : Bool) (target : Expression)
  | binary (operator : BinaryOperator) (left right : Expression)
  | logical (operator : LogicalOperator) (left right : Expression)
  | conditional (test consequent alternative : Expression)
  | assign (target : Pattern) (value : Expression)
  | compound (operator : BinaryOperator) (target value : Expression)
  | logicalAssign (operator : LogicalOperator) (target value : Expression)
  | sequence (first second : Expression)
  | member (object : Expression) (key : WideText)
  | index (object key : Expression)
  | call (callee : Expression) (arguments : List Element)
  | construct (callee : Expression) (arguments : List Element)
  | await (operand : Expression)

/-- An element of an array or an argument list. -/
inductive Element where
  | hole
  | item (value : Expression)
  | spread (values : Expression)

/-- The name of a property in an object expression or pattern. -/
inductive PropertyName where
  | fixed (name : WideText)
  | computed (name : Expression)

/-- A member of an object expression. -/
inductive Member where
  | field (name : PropertyName) (value : Expression)
  | prototype (value : Expression)
  | getter (name : PropertyName) (definition : FunctionSyntax)
  | setter (name : PropertyName) (definition : FunctionSyntax)
  | spread (value : Expression)

/-- What a value can be assigned to. -/
inductive Pattern where
  | target (expression : Expression)
  | array (elements : List PatternElement)
  | object (fields : List PatternField) (rest : Option Pattern)

/-- An element of an array pattern or a parameter. -/
inductive PatternElement where
  | hole
  | item (pattern : Pattern) (default : Option Expression)
  | rest (pattern : Pattern)

/-- A field of an object pattern. -/
inductive PatternField where
  | field (name : PropertyName) (pattern : Pattern) (default : Option Expression)

/-- A function. -/
inductive FunctionSyntax where
  | define (name : String) (kind : FunctionKind) (isAsync strict : Bool)
      (parameters : List PatternElement) (body : List Statement)

/-- A statement. -/
inductive Statement where
  | empty
  | expression (value : Expression)
  | declares (kind : VariableKind) (declarations : List (Pattern × Option Expression))
  | function (definition : FunctionSyntax)
  | returns (value : Option Expression)
  | branch (test : Expression) (consequent : Statement) (alternative : Option Statement)
  | whileLoop (test : Expression) (body : Statement)
  | doLoop (body : Statement) (test : Expression)
  | forLoop (start : Option Statement) (test step : Option Expression) (body : Statement)
  /-- A loop over the keys of an object, or over the values of an iterable. -/
  | forEach (overValues : Bool) (kind : Option VariableKind) (pattern : Pattern)
      (subject : Expression) (body : Statement)
  | breaks (label : Option String)
  | continues (label : Option String)
  | throws (value : Expression)
  | attempt (body : List Statement) (handler : Option (Option Pattern × List Statement))
      (finalizer : Option (List Statement))
  | block (body : List Statement)
  | switch (subject : Expression) (cases : List (Option Expression × List Statement))
  | labelled (label : String) (body : Statement)
  | scoped (object : Expression) (body : Statement)

end

instance : Inhabited Expression := ⟨.null⟩
instance : Inhabited Statement := ⟨.empty⟩
instance : Inhabited FunctionSyntax := ⟨.define "" .ordinary false false [] []⟩

namespace FunctionSyntax

/-- The name of a function, empty if it has none. -/
def name : FunctionSyntax → String
  | .define name _ _ _ _ _ => name

/-- How a function is made and called. -/
def kind : FunctionSyntax → FunctionKind
  | .define _ kind _ _ _ _ => kind

/-- Whether a function answers with a promise. -/
def isAsync : FunctionSyntax → Bool
  | .define _ _ isAsync _ _ _ => isAsync

/-- Whether a function is strict mode code. -/
def strict : FunctionSyntax → Bool
  | .define _ _ _ strict _ _ => strict

/-- The parameters of a function. -/
def parameters : FunctionSyntax → List PatternElement
  | .define _ _ _ _ parameters _ => parameters

/-- The statements of a function. -/
def body : FunctionSyntax → List Statement
  | .define _ _ _ _ _ body => body

/-- A function under a name, if it has none of its own. -/
def named (name : String) : FunctionSyntax → FunctionSyntax
  | .define "" kind isAsync strict parameters body =>
    .define name kind isAsync strict parameters body
  | definition => definition

/-- The number of parameters before the first with a default or a rest. -/
def arity (definition : FunctionSyntax) : Nat :=
  (definition.parameters.takeWhile fun
    | .item _ none => true
    | _ => false).length

end FunctionSyntax

/-! ## Declared names -/

mutual

/-- The names that a pattern binds. -/
def Pattern.names : Pattern → List String
  | .target (.name name) => [name]
  | .target _ => []
  | .array elements => patternElementNames elements
  | .object fields rest =>
    patternFieldNames fields ++ match rest with
      | some pattern => pattern.names
      | none => []

/-- The names that the elements of a pattern bind. -/
def patternElementNames : List PatternElement → List String
  | [] => []
  | .hole :: rest => patternElementNames rest
  | .item pattern _ :: rest => pattern.names ++ patternElementNames rest
  | .rest pattern :: rest => pattern.names ++ patternElementNames rest

/-- The names that the fields of a pattern bind. -/
def patternFieldNames : List PatternField → List String
  | [] => []
  | .field _ pattern _ :: rest => pattern.names ++ patternFieldNames rest

end

/-- The names that declarations bind. -/
def declaredNames (declarations : List (Pattern × Option Expression)) : List String :=
  declarations.flatMap fun declaration => declaration.1.names

mutual

/-- The names that a statement declares with `var`, nested statements included. -/
def Statement.varNames : Statement → List String
  | .declares .var declarations => declaredNames declarations
  | .branch _ consequent alternative =>
    consequent.varNames ++ match alternative with
      | some statement => statement.varNames
      | none => []
  | .whileLoop _ body => body.varNames
  | .doLoop body _ => body.varNames
  | .forLoop start _ _ body =>
    (match start with
      | some statement => statement.varNames
      | none => []) ++ body.varNames
  | .forEach _ kind pattern _ body =>
    (if kind = some .var then pattern.names else []) ++ body.varNames
  | .attempt body handler finalizer =>
    varNames body ++
      (match handler with
        | some (_, body) => varNames body
        | none => []) ++
      match finalizer with
      | some body => varNames body
      | none => []
  | .block body => varNames body
  | .switch _ cases => caseVarNames cases
  | .labelled _ body => body.varNames
  | .scoped _ body => body.varNames
  | _ => []

/-- The names that statements declare with `var`. -/
def varNames : List Statement → List String
  | [] => []
  | statement :: rest => statement.varNames ++ varNames rest

/-- The names that the cases of a switch declare with `var`. -/
def caseVarNames : List (Option Expression × List Statement) → List String
  | [] => []
  | (_, body) :: rest => varNames body ++ caseVarNames rest

end

/-- The names that the statements of a block declare with `let` and `const`, with whether they may
be assigned to. -/
def lexicalNames (body : List Statement) : List (String × Bool) :=
  body.flatMap fun
    | .declares .lexical declarations => (declaredNames declarations).map fun name => (name, true)
    | .declares .constant declarations =>
      (declaredNames declarations).map fun name => (name, false)
    | _ => []

/-- A statement without its labels. -/
def Statement.unlabelled : Statement → Statement
  | .labelled _ body => body.unlabelled
  | statement => statement

/-- The functions that the statements of a block declare. -/
def declaredFunctions (body : List Statement) : List FunctionSyntax :=
  body.filterMap fun statement =>
    match statement.unlabelled with
    | .function definition => some definition
    | _ => none

end ScriptShell.Language
