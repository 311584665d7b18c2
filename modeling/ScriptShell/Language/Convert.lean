import ScriptShell.Language.Numerals
import ScriptShell.Language.Run

/-!
# Properties and conversions

Reading and writing properties may call getters and setters, and conversions of objects call their
methods, so these are computations and not functions of the store.
-/

namespace ScriptShell.Language.Run

/-- An argument of a call; one that is missing is `undefined`. -/
def argument (arguments : List Value) (place : Nat) : Value :=
  arguments[place]?.getD .undefined

/-! ## Reading properties -/

/-- Reads a property of an object on behalf of a receiver. -/
def getFrom (id : ObjectId) (key : Key) (receiver : Value) : Run Value := do
  match (← store).property? id key with
  | some ⟨.data value _, _, _⟩ => return value
  | some ⟨.accessor (some getter) _, _, _⟩ => call (.object getter) receiver []
  | _ => return .undefined

/-- Reads a property of an object. -/
def getOf (id : ObjectId) (key : Key) : Run Value :=
  getFrom id key (.object id)

/-- The class whose prototype a primitive value inherits from. -/
def classOfPrimitive? : Value → Option ClassName
  | .boolean _ => some .boolean
  | .number _ => some .number
  | .bigint _ => some .bigint
  | .text _ => some .string
  | .symbol _ => some .symbol
  | _ => none

/-- The text of the error for a property of `undefined` or `null`. -/
def nullishText : String := "cannot convert 'null' or 'undefined' to object"

/-- Reads a property of any value. -/
def get (value : Value) (key : Key) : Run Value := do
  match value with
  | .object id => getOf id key
  | .text text =>
    match key with
    | .index index =>
      match text.units[index]? with
      | some unit => return .text ⟨[unit]⟩
      | none => getFrom (← intrinsic (.prototype .string)) key value
    | _ =>
      if key = .ofString "length" then return .ofNat text.length
      else getFrom (← intrinsic (.prototype .string)) key value
  | _ =>
    match classOfPrimitive? value with
    | some className => getFrom (← intrinsic (.prototype className)) key value
    | none => typeError nullishText

/-- Reads a property of any value by its name. -/
def getNamed (value : Value) (name : String) : Run Value :=
  get value (.ofString name)

/-- Reads a method of a value; there may be none. -/
def getMethod? (value : Value) (key : Key) : Run (Option Value) := do
  let method ← get value key
  if method.isNullish then return none
  else if ← isCallable method then return some method
  else typeError "value returned for property of object is not a function"

/-! ## Conversions -/

/-- Calls the first of some methods that gives a primitive value. -/
def firstPrimitive (value : Value) : List String → Run Value
  | [] => typeError "cannot convert object to primitive value"
  | name :: rest => do
    let method ← getNamed value name
    if ← isCallable method then
      let result ← call method value []
      if result.isObject then firstPrimitive value rest else return result
    else firstPrimitive value rest

/-- What a conversion to a primitive value is for. -/
inductive Hint where
  | none | text | number
  deriving DecidableEq

/-- The word for a hint. -/
def Hint.word : Hint → String
  | .none => "default"
  | .text => "string"
  | .number => "number"

/-- The primitive value of a value. -/
def toPrimitive (hint : Hint) (value : Value) : Run Value := do
  match value with
  | .object _ =>
    match ← getMethod? value (.symbol .toPrimitive) with
    | some method =>
      let result ← call method value [.ofString hint.word]
      if result.isObject then typeError "Symbol.toPrimitive cannot return an object"
      else return result
    | .none =>
      firstPrimitive value
        (if hint = .text then ["toString", "valueOf"] else ["valueOf", "toString"])
  | value => return value

/-- The text of a primitive value. -/
def primitiveToText : Value → Run WideText
  | .undefined => return WideText.ofString "undefined"
  | .null => return WideText.ofString "null"
  | .boolean value => return WideText.ofString (if value then "true" else "false")
  | .number value => return Numerals.toText value
  | .bigint value => return Numerals.integerToText 10 value
  | .text value => return value
  | .symbol _ | .object _ => typeError "can't convert symbol to string"

/-- The text of a value. -/
def toText (value : Value) : Run WideText := do
  primitiveToText (← toPrimitive .text value)

/-- The number of a primitive value. -/
def primitiveToNumber : Value → Run Float
  | .undefined => return 0.0 / 0.0
  | .null => return 0.0
  | .boolean value => return if value then 1.0 else 0.0
  | .number value => return value
  | .bigint _ => typeError "argument must not be a bigint"
  | .text value => return Numerals.ofText value
  | .symbol _ | .object _ => typeError "argument must not be a symbol"

/-- The number of a value. -/
def toNumber (value : Value) : Run Float := do
  primitiveToNumber (← toPrimitive .number value)

/-- The number or the integer of unbounded size that a value is. -/
def toNumeric (value : Value) : Run Value := do
  match ← toPrimitive .number value with
  | .bigint value => return .bigint value
  | value => return .number (← primitiveToNumber value)

/-- The key of a property that a value names. -/
def toKey (value : Value) : Run Key := do
  match ← toPrimitive .text value with
  | .symbol symbol => return .symbol symbol
  | value => return .ofText (← primitiveToText value)

/-- The object of a value. -/
def toObject (value : Value) : Run ObjectId := do
  match value with
  | .object id => return id
  | _ =>
    match classOfPrimitive? value with
    | some className => newBoxed (← intrinsic (.prototype className)) value
    | none => typeError nullishText

/-- A length: the whole part of a number, at least zero. -/
def toLength (value : Value) : Run Nat := do
  let number := Numerals.toInteger (← toNumber value)
  if number ≤ 0.0 then return 0
  else if 9007199254740991.0 < number then return 9007199254740991
  else return number.toUInt64.toNat

/-- The length of an object that is like an array. -/
def lengthOf (id : ObjectId) : Run Nat := do
  toLength (← getOf id (.ofString "length"))

/-- The word that `typeof` gives for a value. -/
def typeOf (value : Value) : Run String := do
  if ← isCallable value then return "function" else return value.typeName

/-! ## Writing properties -/

/-- Sets the length of an array. -/
def setArrayLength (id : ObjectId) (value : Value) : Run Unit := do
  let number ← toNumber value
  let length := Numerals.toUnsigned 32 number
  if Float.ofNat length != number then fail .range "invalid array length"
  else modifyStore fun store => store.setLength id length

/-- Puts a property on an object; the answer tells whether the object takes it. -/
def addProperty (id : ObjectId) (key : Key) (value : Value) : Run Bool := do
  let object ← object id
  match object.kind, key with
  | .elements kind values, .index index =>
    let number ← toNumber value
    if index < values.size then
      modifyStore fun store => store.modifyObject id fun object =>
        match object.kind with
        | .elements _ values =>
          { object with
            kind := .elements kind (values.setIfInBounds index (Numerals.toElement kind number)) }
        | _ => object
    return true
  | .array, _ =>
    if key = .ofString "length" then
      setArrayLength id value
      return true
    else addOrdinary object
  | _, _ => addOrdinary object
where
  /-- Puts a property on an object without rules of its own. -/
  addOrdinary (object : Object) : Run Bool := do
    match object.property? key with
    | some ⟨.data _ true, enumerable, configurable⟩ =>
      modifyStore fun store =>
        store.putProperty id key ⟨.data value true, enumerable, configurable⟩
      return true
    | some _ => return false
    | none =>
      if object.extensible then
        modifyStore fun store => store.putProperty id key (.plain value)
        return true
      else return false

/-- Writes a property of a value; the answer tells whether that was possible. -/
def put (target : Value) (key : Key) (value : Value) : Run Bool := do
  let start ← match target with
    | .object id => pure id
    | _ =>
      match classOfPrimitive? target with
      | some className => intrinsic (.prototype className)
      | none => typeError nullishText
  match (← store).property? start key, target with
  | some ⟨.accessor _ (some setter), _, _⟩, _ =>
    discard (call (.object setter) target [value])
    return true
  | some ⟨.accessor _ none, _, _⟩, _ => return false
  | some ⟨.data _ false, _, _⟩, _ => return false
  | _, .object id => addProperty id key value
  | _, _ => return false

/-- Writes a property of a value, which strict mode code has to succeed in. -/
def set (target : Value) (key : Key) (value : Value) (strict : Bool) : Run Unit := do
  let done ← put target key value
  if !done && strict then
    failWith .type (WideText.ofString "cannot set non-writable property: " ++ key.describe)

/-- Makes a property with a value, as an object expression does. -/
def define (id : ObjectId) (key : Key) (value : Value) : Run Unit :=
  modifyStore fun store => store.putProperty id key (.plain value)

/-- Removes a property of an object; the answer tells whether it is gone. -/
def delete (id : ObjectId) (key : Key) : Run Bool := do
  match (← store).ownProperty? id key with
  | none => return true
  | some property =>
    if property.configurable then
      modifyStore fun store => store.modifyObject id fun object => object.remove key
      return true
    else return false

/-- Whether an object has a property, its own or an inherited one. -/
def hasProperty (id : ObjectId) (key : Key) : Run Bool := do
  return ((← store).property? id key).isSome

/-! ## New objects -/

/-- A new object without properties. -/
def newObject : Run ObjectId := do
  let realm ← realm
  makeIn fun store => store.newObject realm .object .ordinary

/-- A new array. -/
def newArray (values : List Value) : Run Value := do
  let realm ← realm
  return .object (← makeIn fun store => store.newArray realm (values.map some))

/-- The prototype for an object that some constructor makes: what the constructor says, or else an
intrinsic. -/
def prototypeFor (target : Value) (className : ClassName) : Run ObjectId := do
  match target with
  | .object _ =>
    match ← getNamed target "prototype" with
    | .object prototype => return prototype
    | _ => intrinsic (.prototype className)
  | _ => intrinsic (.prototype className)

/-- A new object of a class, as some constructor makes it. -/
def newOf (target : Value) (className : ClassName) (kind : ObjectKind) : Run ObjectId := do
  let prototype ← prototypeFor target className
  makeIn fun store => store.allocate { kind := kind, prototype := some prototype }

/-! ## Iteration -/

/-- The error for a value that cannot be iterated. -/
def notIterable {α : Type} (value : Value) : Run α := do
  typeError ("value with type `" ++ (← typeOf value) ++ "` is not iterable")

/-- The iterator of a value. -/
def iteratorOf (value : Value) : Run Value := do
  if value.isNullish then notIterable value
  else
    let method ← get value (.symbol .iterator)
    if ← isCallable method then
      let iterator ← call method value []
      if iterator.isObject then return iterator
      else typeError "the iterator is not an object"
    else notIterable value

/-- The next value of an iterator, if there is one. -/
def nextOf (iterator : Value) : Run (Option Value) := do
  let result ← call (← getNamed iterator "next") iterator []
  if !result.isObject then typeError "the next value should be an object"
  else if (← getNamed result "done").truthy then return none
  else return some (← getNamed result "value")

/-- Tells an iterator that no more of its values are wanted. -/
def closeIterator (iterator : Value) : Run Unit := do
  match ← getMethod? iterator (.ofString "return") with
  | some method => discard (call method iterator [])
  | none => return ()

/-- All values of an iterable. -/
def valuesOf (value : Value) : Run (List Value) := do
  let iterator ← iteratorOf value
  untilDone [] fun values => do
    match ← nextOf iterator with
    | some value => return .inl (value :: values)
    | none => return .inr values.reverse

/-- The elements of an object that is like an array, from some place on. -/
def elementsFrom (id : ObjectId) (length : Nat) : Nat → Run (List Value)
  | 0 => return []
  | left + 1 => do
    let value ← getOf id (.ofNat (length - (left + 1)))
    return value :: (← elementsFrom id length left)

/-- The elements of an object that is like an array. -/
def elementsOf (id : ObjectId) : Run (List Value) := do
  let length ← lengthOf id
  elementsFrom id length length

end ScriptShell.Language.Run
