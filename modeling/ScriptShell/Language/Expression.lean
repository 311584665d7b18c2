import ScriptShell.Language.Functions
import ScriptShell.Language.Operators

/-!
# Expressions

What an expression computes. A rule goes back into the evaluator for the operands, from left to
right. While the operands of an operation are computed, those already there take up places on the
stack of values.
-/

namespace ScriptShell.Language.Run

/-! ## Lists of elements -/

/-- The values of the elements of an array; a hole has none. -/
def elementValues : List Element → Run (List (Option Value))
  | [] => return []
  | .hole :: rest => do return none :: (← elementValues rest)
  | .item expression :: rest => do
    let value ← evaluate expression
    return some value :: (← elementValues rest)
  | .spread expression :: rest => do
    let values ← valuesOf (← evaluate expression)
    return values.map some ++ (← elementValues rest)

/-- The values of arguments, each of which takes up a place once it is there. -/
def argumentValues : List Element → Run (List Value)
  | [] => return []
  | .hole :: rest => argumentValues rest
  | .item expression :: rest => do
    let value ← evaluate expression
    return value :: (← withSlots 1 (argumentValues rest))
  | .spread expression :: rest => do
    let values ← valuesOf (← evaluate expression)
    return values ++ (← withSlots 1 (argumentValues rest))

/-- The text of a template behind some text. -/
def templateText (head : WideText) : List (Expression × WideText) → Run WideText
  | [] => return head
  | (expression, text) :: rest => do
    let value ← withSlots 1 (evaluate expression)
    templateText (head ++ (← toText value) ++ text) rest

/-! ## Members of objects -/

/-- Puts a getter or a setter on an object, beside the other one if it is there. -/
def defineAccessor (object : ObjectId) (key : Key) (isGetter : Bool) (function : ObjectId) :
    Run Unit :=
  modifyStore fun store =>
    let (getter, setter) := match (store.ownProperty? object key).map (·.slot) with
      | some (.accessor getter setter) => (getter, setter)
      | _ => (none, none)
    let slot := if isGetter then Slot.accessor (some function) setter
      else Slot.accessor getter (some function)
    store.putProperty object key ⟨slot, true, true⟩

/-- Makes the getter or the setter of a property. -/
def makeAccessor (object : ObjectId) (name : PropertyName) (isGetter : Bool)
    (definition : FunctionSyntax) : Run Unit := do
  let key ← keyOf name
  let word := WideText.ofString (if isGetter then "get " else "set ")
  let function ← makeNamed definition (word ++ key.functionName)
  defineAccessor object key isGetter function

/-- The value of a field. A function without a name of its own takes that of the field. -/
def fieldValue (key : Key) : Expression → Run Value
  | .function (.define "" kind isAsync strict parameters body) _ => do
    return .object (← makeNamed (.define "" kind isAsync strict parameters body) key.functionName)
  | expression => evaluate expression

/-- Copies the properties of a value that are listed. -/
def copyProperties (object : ObjectId) (value : Value) : Run Unit := do
  if value.isNullish then return ()
  else
    let source ← toObject value
    let keys := (← store).ownKeys source
    copyKeys source keys
where
  /-- Copies properties under some keys. -/
  copyKeys (source : ObjectId) : List Key → Run Unit
    | [] => return ()
    | key :: rest => do
      match (← store).ownProperty? source key with
      | some property =>
        if property.enumerable then define object key (← getOf source key)
      | none => pure ()
      copyKeys source rest

/-- Puts a member of an object expression on the object. -/
def addMember (object : ObjectId) : Member → Run Unit
  | .field name value => do
    let key ← keyOf name
    define object key (← fieldValue key value)
  | .prototype expression => do
    match ← evaluate expression with
    | .object prototype => setPrototype object (some prototype)
    | .null => setPrototype object none
    | _ => return ()
  | .getter name definition => makeAccessor object name true definition
  | .setter name definition => makeAccessor object name false definition
  | .spread expression => do copyProperties object (← evaluate expression)

/-- Puts the members of an object expression on the object. -/
def addMembers (object : ObjectId) : List Member → Run Unit
  | [] => return ()
  | member :: rest => do
    addMember object member
    addMembers object rest

/-! ## Calls -/

/-- The function that an expression names, and the value of `this` for its call. -/
def calleeOf : Expression → Run (Value × Value)
  | .member object key => do
    let object ← evaluate object
    return (← get object (.ofText key), object)
  | .index object key => do
    let object ← evaluate object
    let key ← withSlots 1 (evaluate key)
    if object.isNullish then typeError nullishText
    else return (← get object (← toKey key), object)
  | .name name => do
    let reference ← resolve name
    let callee ← readReference name reference
    match reference with
    | .property object =>
      if object = (← globalObject) then return (callee, .undefined)
      else return (callee, .object object)
    | _ => return (callee, .undefined)
  | expression => do return (← evaluate expression, .undefined)

/-- A call. -/
def callExpression (callee : Expression) (arguments : List Element) : Run Value := do
  let (function, this) ← calleeOf callee
  let values ← withSlots 2 (argumentValues arguments)
  call function this values

/-- A construction. -/
def constructExpression (callee : Expression) (arguments : List Element) : Run Value := do
  let function ← evaluate callee
  let values ← withSlots 2 (argumentValues arguments)
  construct function values function

/-! ## Assignments -/

/-- Where a single value is read and written. -/
inductive Place where
  | name (name : String) (reference : Reference)
  | property (object : Value) (key : Key)

/-- The place that an expression names. -/
def placeOf : Expression → Run Place
  | .name name => do return .name name (← resolve name)
  | .member object key => do return .property (← evaluate object) (.ofText key)
  | .index object key => do
    let object ← evaluate object
    let key ← withSlots 1 (evaluate key)
    if object.isNullish then typeError nullishText
    else return .property object (← toKey key)
  | _ => fail .reference "invalid assignment left-hand side"

/-- The value at a place. -/
def readPlace : Place → Run Value
  | .name name reference => readReference name reference
  | .property object key => get object key

/-- Writes a value at a place. A name that led nowhere before its value was computed still does. -/
def writePlace (value : Value) : Place → Run Unit
  | .name name .unresolved => writeReference name value .unresolved
  | .name name _ => writeName name value
  | .property object key => do set object key value (← site).strict

/-- The stack places that a place takes up. -/
def Place.slots : Place → Nat
  | .name _ _ => 0
  | .property _ _ => 2

/-- An assignment. -/
def assignment (target : Pattern) (value : Expression) : Run Value := do
  match target with
  | .target expression =>
    let place ← placeOf expression
    let result ← withSlots place.slots (evaluate value)
    writePlace result place
    return result
  | pattern =>
    let result ← evaluate value
    bindPattern .assign pattern result
    return result

/-- An assignment of what an operator gives for the old value and another one. -/
def compoundAssignment (operator : BinaryOperator) (target value : Expression) : Run Value := do
  let place ← placeOf target
  let old ← readPlace place
  let right ← withSlots (place.slots + 1) (evaluate value)
  let result ← binaryOperation operator old right
  writePlace result place
  return result

/-- Whether an operator needs its second operand. -/
def needsSecond (operator : LogicalOperator) (left : Value) : Bool :=
  match operator with
  | .and => left.truthy
  | .or => !left.truthy
  | .coalesce => left.isNullish

/-- An assignment that happens only where an operator needs its second operand. -/
def logicalAssignment (operator : LogicalOperator) (target value : Expression) : Run Value := do
  let place ← placeOf target
  let old ← readPlace place
  if needsSecond operator old then
    let result ← withSlots place.slots (evaluate value)
    writePlace result place
    return result
  else return old

/-- An increment or a decrement. -/
def updateExpression (increment before : Bool) (target : Expression) : Run Value := do
  let place ← placeOf target
  let old ← toNumeric (← readPlace place)
  let new ← step increment old
  writePlace new place
  return if before then new else old

/-! ## Operators on places -/

/-- What `delete` gives for an expression. -/
def deletion : Expression → Run Value
  | .member object key => do
    let object ← evaluate object
    deleteProperty object (.ofText key)
  | .index object key => do
    let object ← evaluate object
    let key ← withSlots 1 (evaluate key)
    deleteProperty object (← toKey key)
  | .name name => do
    match ← resolve name with
    | .binding _ _ => return .boolean false
    | .property object => return .boolean (← delete object (.ofString name))
    | .unresolved => return .boolean true
  | expression => do
    discard (evaluate expression)
    return .boolean true
where
  /-- Removes a property, which strict mode code has to succeed in. -/
  deleteProperty (object : Value) (key : Key) : Run Value := do
    let done ← delete (← toObject object) key
    if !done && (← site).strict then typeError "Cannot delete property"
    else return .boolean done

/-- What `typeof` gives for an expression; a name may lead nowhere. -/
def typeOfExpression : Expression → Run Value
  | .name name => do
    match ← resolve name with
    | .unresolved => return .ofString "undefined"
    | reference => return .ofString (← typeOf (← readReference name reference))
  | expression => do return .ofString (← typeOf (← evaluate expression))

/-! ## All expressions -/

/-- The value of an expression. -/
def expressionValue : Expression → Run Value
  | .number value => return .number value
  | .bigint value => return .bigint value
  | .text value => return .text value
  | .boolean value => return .boolean value
  | .null => return .null
  | .template head parts => do return .text (← templateText head parts)
  | .name name => readName name
  | .this => thisValue
  | .array elements => do
    let values ← withSlots 1 (elementValues elements)
    let realm ← realm
    return .object (← makeIn fun store => store.newArray realm values)
  | .object members => do
    let object ← newObject
    withSlots 1 (addMembers object members)
    return .object object
  | .function definition bindsName =>
    if bindsName then makeSelfNamed definition else makeFunction definition
  | .unary .typeOf operand => typeOfExpression operand
  | .unary .delete operand => deletion operand
  | .unary operator operand => do unaryOperation operator (← evaluate operand)
  | .update increment before target => updateExpression increment before target
  | .binary operator left right => do
    let left ← evaluate left
    let right ← withSlots 1 (evaluate right)
    binaryOperation operator left right
  | .logical operator left right => do
    let left ← evaluate left
    if needsSecond operator left then evaluate right else return left
  | .conditional test consequent alternative => do
    if (← evaluate test).truthy then evaluate consequent else evaluate alternative
  | .assign target value => assignment target value
  | .compound operator target value => compoundAssignment operator target value
  | .logicalAssign operator target value => logicalAssignment operator target value
  | .sequence first second => do
    discard (evaluate first)
    evaluate second
  | .member object key => do get (← evaluate object) (.ofText key)
  | .index object key => do
    let object ← evaluate object
    let key ← withSlots 1 (evaluate key)
    if object.isNullish then typeError nullishText else get object (← toKey key)
  | .call callee arguments => callExpression callee arguments
  | .construct callee arguments => constructExpression callee arguments
  | .await _ => fail .syntaxError "await is only supported as a statement of its own"

end ScriptShell.Language.Run
