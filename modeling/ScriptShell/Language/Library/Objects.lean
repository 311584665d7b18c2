import ScriptShell.Language.Convert

/-!
# Objects in general

The functions on `Object` and on the prototype that all objects have in the end.
-/

namespace ScriptShell.Language.Run

/-! ## Listing properties -/

/-- The keys of an object that are texts and are listed. -/
def listedTexts (id : ObjectId) : Run (List Key) := do
  let store ← store
  return (store.ownKeys id).filter fun key =>
    match key with
    | .symbol _ => false
    | key => (store.ownProperty? id key).any (·.enumerable)

/-- What some rule makes of each key. -/
def eachKey (make : Key → Run Value) : List Key → Run (List Value)
  | [] => return []
  | key :: rest => do
    let value ← make key
    return value :: (← eachKey make rest)

/-- An array of what some rule makes of each listed property of a value. -/
def listProperties (value : Value) (make : ObjectId → Key → Run Value) : Run Value := do
  let id ← toObject value
  newArray (← eachKey (make id) (← listedTexts id))

/-- The keys of the listed properties of a value. -/
def objectKeys (arguments : List Value) : Run Value :=
  listProperties (argument arguments 0) fun _ key => return key.toValue

/-- The values of the listed properties of a value. -/
def objectValues (arguments : List Value) : Run Value :=
  listProperties (argument arguments 0) fun id key => getOf id key

/-- The listed properties of a value as pairs. -/
def objectEntries (arguments : List Value) : Run Value :=
  listProperties (argument arguments 0) fun id key => do
    newArray [key.toValue, ← getOf id key]

/-- The keys of all properties of a value that are texts. -/
def objectGetOwnPropertyNames (arguments : List Value) : Run Value := do
  let id ← toObject (argument arguments 0)
  let keys := ((← store).ownKeys id).filter fun key =>
    match key with
    | .symbol _ => false
    | _ => true
  newArray (keys.map Key.toValue)

/-! ## Descriptors -/

/-- The value of a function that may be missing. -/
def functionOrUndefined : Option ObjectId → Value
  | some id => .object id
  | none => .undefined

/-- The object that describes a property. -/
def describeProperty (property : Property) : Run Value := do
  let id ← newObject
  match property.slot with
  | .data value writable =>
    define id (.ofString "value") value
    define id (.ofString "writable") (.boolean writable)
  | .accessor getter setter =>
    define id (.ofString "get") (functionOrUndefined getter)
    define id (.ofString "set") (functionOrUndefined setter)
  define id (.ofString "enumerable") (.boolean property.enumerable)
  define id (.ofString "configurable") (.boolean property.configurable)
  return .object id

/-- The description of a property that a value has of its own. -/
def objectGetOwnPropertyDescriptor (arguments : List Value) : Run Value := do
  let id ← toObject (argument arguments 0)
  let key ← toKey (argument arguments 1)
  match (← store).ownProperty? id key with
  | some property => describeProperty property
  | none => return .undefined

/-- A field of a description, if it is there. -/
def descriptionField? (description : ObjectId) (name : String) : Run (Option Value) := do
  if ← hasProperty description (.ofString name) then
    return some (← getOf description (.ofString name))
  else return none

/-- A getter or a setter in a description. -/
def accessorField (description : ObjectId) (name : String) (old : Option ObjectId) :
    Run (Option ObjectId) := do
  match ← descriptionField? description name with
  | none => return old
  | some .undefined => return none
  | some value =>
    match value, ← isCallable value with
    | .object id, true => return some id
    | _, _ => typeError ("property descriptor " ++ name ++ " is not callable")

/-- The property that a description makes of an old one. -/
def describedProperty (description : ObjectId) (old : Option Property) : Run Property := do
  let enumerable ← descriptionField? description "enumerable"
  let configurable ← descriptionField? description "configurable"
  let value ← descriptionField? description "value"
  let writable ← descriptionField? description "writable"
  let (oldGetter, oldSetter) := match old.map (·.slot) with
    | some (.accessor getter setter) => (getter, setter)
    | _ => (none, none)
  let (oldValue, oldWritable) := match old.map (·.slot) with
    | some (.data value writable) => (value, writable)
    | _ => (.undefined, false)
  let getter ← accessorField description "get" oldGetter
  let setter ← accessorField description "set" oldSetter
  let isAccessor := value.isNone && writable.isNone && (getter.isSome || setter.isSome)
  let slot := if isAccessor then Slot.accessor getter setter
    else Slot.data (value.getD oldValue) ((writable.map Value.truthy).getD oldWritable)
  return {
    slot := slot
    enumerable := (enumerable.map Value.truthy).getD (old.any (·.enumerable))
    configurable := (configurable.map Value.truthy).getD (old.any (·.configurable)) }

/-- Whether a property that cannot be redefined may still become another one. -/
def propertyAdmits (old new : Property) : Bool :=
  old.configurable || (!new.configurable && old.enumerable = new.enumerable &&
    match old.slot, new.slot with
    | .data _ true, .data _ _ => true
    | .data a false, .data b false => a.same b
    | .accessor a b, .accessor c d => a = c && b = d
    | _, _ => false)

/-- Defines a property as a value describes it. -/
def defineDescribed (id : ObjectId) (key : Key) (description : Value) : Run Unit := do
  match description with
  | .object description =>
    let old := (← store).ownProperty? id key
    let new ← describedProperty description old
    if old.all fun old => propertyAdmits old new then
      modifyStore fun store => store.putProperty id key new
    else failWith .type (WideText.ofString "cannot redefine property: " ++ key.describe)
  | _ => typeError "property descriptor should be an object"

/-- Defines a property of an object. -/
def objectDefineProperty (arguments : List Value) : Run Value := do
  match argument arguments 0 with
  | .object id =>
    let key ← toKey (argument arguments 1)
    defineDescribed id key (argument arguments 2)
    return .object id
  | _ => typeError "Object.defineProperty called on non-object"

/-- Defines properties under some keys as the properties of an object describe them. -/
def defineAll (id source : ObjectId) : List Key → Run Unit
  | [] => return ()
  | key :: rest => do
    defineDescribed id key (← getOf source key)
    defineAll id source rest

/-! ## Prototypes -/

/-- A new object that inherits from a given one, or from none. -/
def objectCreate (arguments : List Value) : Run Value := do
  let prototype ← match argument arguments 0 with
    | .object id => pure (some id)
    | .null => pure none
    | _ => typeError "Object prototype may only be an Object or null"
  let id ← makeIn fun store => store.allocate { prototype := prototype }
  match argument arguments 1 with
  | .undefined => return .object id
  | properties =>
    let source ← toObject properties
    defineAll id source (← listedTexts source)
    return .object id

/-- The object that a value inherits from. -/
def objectGetPrototypeOf (arguments : List Value) : Run Value := do
  match (← object (← toObject (argument arguments 0))).prototype with
  | some id => return .object id
  | none => return .null

/-- Has an object inherit from another one, or from none. -/
def objectSetPrototypeOf (arguments : List Value) : Run Value := do
  let prototype ← match argument arguments 1 with
    | .object id => pure (some id)
    | .null => pure none
    | _ => typeError "prototype must be an object or null"
  match argument arguments 0 with
  | .object id =>
    setPrototype id prototype
    return .object id
  | value => return value

/-- Whether an object is among those that a value inherits from. -/
def objectIsPrototypeOf (this : Value) (arguments : List Value) : Run Value := do
  match argument arguments 0 with
  | .object id =>
    let ancestor ← toObject this
    let store ← store
    return .boolean (inherits store ancestor (store.objects.size + 1) id)
  | _ => return .boolean false
where
  /-- Whether an object inherits from another one in some number of steps. -/
  inherits (store : Store) (ancestor : ObjectId) : Nat → ObjectId → Bool
    | 0, _ => false
    | bound + 1, id =>
      match (store.object id).prototype with
      | none => false
      | some prototype => prototype = ancestor || inherits store ancestor bound prototype

/-! ## Copies and frozen objects -/

/-- Assigns the listed properties of an object under some keys to another one. -/
def assignKeys (target source : ObjectId) : List Key → Run Unit
  | [] => return ()
  | key :: rest => do
    if ((← store).ownProperty? source key).any (·.enumerable) then
      set (.object target) key (← getOf source key) true
    assignKeys target source rest

/-- Assigns the listed properties of values to an object. -/
def assignSources (target : ObjectId) : List Value → Run Unit
  | [] => return ()
  | value :: rest => do
    if !value.isNullish then
      let source ← toObject value
      assignKeys target source ((← store).ownKeys source)
    assignSources target rest

/-- Assigns the listed properties of the other arguments to the first one. -/
def objectAssign (arguments : List Value) : Run Value := do
  let target ← toObject (argument arguments 0)
  assignSources target arguments.tail
  return .object target

/-- A property that is never to change. -/
def frozenProperty (property : Property) : Property :=
  match property.slot with
  | .data value _ => ⟨.data value false, property.enumerable, false⟩
  | .accessor getter setter => ⟨.accessor getter setter, property.enumerable, false⟩

/-- Has no property of an object change any more. -/
def objectFreeze (arguments : List Value) : Run Value := do
  match argument arguments 0 with
  | .object id =>
    modifyStore fun store => store.modifyObject id fun object =>
      { object with
        extensible := false
        indexed := object.indexed.map fun _ property => frozenProperty property
        named := object.named.map fun entry => (entry.1, frozenProperty entry.2) }
    return .object id
  | value => return value

/-! ## Methods of all objects -/

/-- Whether a value has a property of its own. -/
def objectHasOwnProperty (this : Value) (arguments : List Value) : Run Value := do
  let key ← toKey (argument arguments 0)
  let id ← toObject this
  return .boolean ((← store).ownProperty? id key).isSome

/-- Whether a value has a property of its own that is listed. -/
def objectPropertyIsEnumerable (this : Value) (arguments : List Value) : Run Value := do
  let key ← toKey (argument arguments 0)
  let id ← toObject this
  return .boolean (((← store).ownProperty? id key).any (·.enumerable))

/-- The word for what an object is. -/
def kindWord (object : Object) : String :=
  match object.kind with
  | .array => "Array"
  | .arguments => "Arguments"
  | .error => "Error"
  | .boxed (.boolean _) => "Boolean"
  | .boxed (.number _) => "Number"
  | .boxed (.text _) => "String"
  | .date _ => "Date"
  | _ => if object.isCallable then "Function" else "Object"

/-- The text of a value that says only what it is. -/
def objectToString (this : Value) : Run Value := do
  match this with
  | .undefined => return .ofString "[object Undefined]"
  | .null => return .ofString "[object Null]"
  | _ =>
    let id ← toObject this
    let word := kindWord (← object id)
    let tag := match ← getOf id (.symbol .toStringTag) with
      | .text tag => tag
      | _ => WideText.ofString word
    return .text (WideText.ofString "[object " ++ tag ++ WideText.ofString "]")

/-- The text of a value by its own method. -/
def objectToLocaleString (this : Value) : Run Value := do
  call (← getNamed this "toString") this []

/-- The object of a value. -/
def objectValueOf (this : Value) : Run Value := do
  return .object (← toObject this)

/-- What the constructor of objects makes of its argument. -/
def objectFrom (arguments : List Value) : Run Value := do
  let value := argument arguments 0
  if value.isNullish then return .object (← newObject)
  else return .object (← toObject value)

end ScriptShell.Language.Run
