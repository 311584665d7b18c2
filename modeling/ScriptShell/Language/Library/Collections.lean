import ScriptShell.Language.Library.Arrays

/-!
# Maps, sets and typed arrays

Collections keep their entries in the order in which they came. A typed array holds numbers of one
kind; what is stored in it is converted.
-/

namespace ScriptShell.Language.Run

/-! ## Maps -/

/-- A key of a collection, where a negative zero is a zero. -/
def plainKey : Value → Value
  | .number number => .number (number + 0.0)
  | value => value

/-- The entries with the value of a key replaced in its place, or with one more. -/
def putEntry (key value : Value) : List (Value × Value) → List (Value × Value)
  | [] => [(plainKey key, value)]
  | (other, old) :: rest =>
    if other.sameKey key then (other, value) :: rest else (other, old) :: putEntry key value rest

/-- Puts the pairs of an iterable into a map. -/
def addPairs (id : ObjectId) : List Value → Run Unit
  | [] => return ()
  | .object pair :: rest => do
    let key ← getOf pair (.index 0)
    let value ← getOf pair (.index 1)
    modifyStore fun store => store.modifyObject id fun object =>
      match object.kind with
      | .map entries => { object with kind := .map (putEntry key value entries) }
      | _ => object
    addPairs id rest
  | _ :: _ => typeError "cannot get key and value from primitive item of `iterable`"

/-- What the constructor of maps makes. -/
def constructMap (arguments : List Value) (target : Value) : Run Value := do
  let id ← newOf target .map (.map [])
  let source := argument arguments 0
  if !source.isNullish then addPairs id (← valuesOf source)
  return .object id

/-- The map of `this` with its entries. -/
def thisMap (this : Value) : Run (ObjectId × List (Value × Value)) := do
  match this with
  | .object id =>
    match (← object id).kind with
    | .map entries => return (id, entries)
    | _ => typeError "`this` is not a Map"
  | _ => typeError "`this` is not a Map"

/-- Puts a collection into another state. -/
def setKind (id : ObjectId) (kind : ObjectKind) : Run Unit :=
  modifyStore fun store => store.modifyObject id fun object => { object with kind := kind }

/-- The value of a key. -/
def mapGet (this : Value) (arguments : List Value) : Run Value := do
  let (_, entries) ← thisMap this
  match entries.find? fun entry => entry.1.sameKey (argument arguments 0) with
  | some entry => return entry.2
  | none => return .undefined

/-- Sets the value of a key. -/
def mapSet (this : Value) (arguments : List Value) : Run Value := do
  let (id, entries) ← thisMap this
  setKind id (.map (putEntry (argument arguments 0) (argument arguments 1) entries))
  return this

/-- Whether there is a key. -/
def mapHas (this : Value) (arguments : List Value) : Run Value := do
  let (_, entries) ← thisMap this
  return .boolean (entries.any fun entry => entry.1.sameKey (argument arguments 0))

/-- Removes a key and tells whether it was there. -/
def mapDelete (this : Value) (arguments : List Value) : Run Value := do
  let (id, entries) ← thisMap this
  let kept := entries.filter fun entry => !entry.1.sameKey (argument arguments 0)
  setKind id (.map kept)
  return .boolean (kept.length != entries.length)

/-- The number of keys. -/
def mapSize (this : Value) : Run Value := do
  return .ofNat (← thisMap this).2.length

/-! ## Sets -/

/-- The entries with one more, unless it is there. -/
def putMember (entries : List Value) (value : Value) : List Value :=
  if entries.any (·.sameKey value) then entries else entries ++ [plainKey value]

/-- What the constructor of sets makes. -/
def constructSet (arguments : List Value) (target : Value) : Run Value := do
  let id ← newOf target .set (.set [])
  let source := argument arguments 0
  if !source.isNullish then
    setKind id (.set ((← valuesOf source).foldl putMember []))
  return .object id

/-- The set of `this` with its entries. -/
def thisSet (this : Value) : Run (ObjectId × List Value) := do
  match this with
  | .object id =>
    match (← object id).kind with
    | .set entries => return (id, entries)
    | _ => typeError "`this` is not a Set"
  | _ => typeError "`this` is not a Set"

/-- Adds a value. -/
def setAdd (this : Value) (arguments : List Value) : Run Value := do
  let (id, entries) ← thisSet this
  setKind id (.set (putMember entries (argument arguments 0)))
  return this

/-- Whether there is a value. -/
def setHas (this : Value) (arguments : List Value) : Run Value := do
  let (_, entries) ← thisSet this
  return .boolean (entries.any (·.sameKey (argument arguments 0)))

/-- Removes a value and tells whether it was there. -/
def setDelete (this : Value) (arguments : List Value) : Run Value := do
  let (id, entries) ← thisSet this
  let kept := entries.filter (!·.sameKey (argument arguments 0))
  setKind id (.set kept)
  return .boolean (kept.length != entries.length)

/-- The number of values. -/
def setSize (this : Value) : Run Value := do
  return .ofNat (← thisSet this).2.length

/-! ## Typed arrays -/

/-- The numbers of values as elements. -/
def elementNumbers (kind : ElementKind) : List Value → Run (List Float)
  | [] => return []
  | value :: rest => do
    let number := Numerals.toElement kind (← toNumber value)
    return number :: (← elementNumbers kind rest)

/-- The values that a typed array is made of: those of an iterable or of an object that is like an
array. -/
def sourceValues (id : ObjectId) : Run (List Value) := do
  let method ← getOf id (.symbol .iterator)
  if ← isCallable method then valuesOf (.object id) else elementsOf id

/-- What the constructor of typed arrays of a kind makes: zeros, or the elements of an object. -/
def constructElements (kind : ElementKind) (arguments : List Value) (target : Value) :
    Run Value := do
  let values ← match argument arguments 0 with
    | .object source => do elementNumbers kind (← sourceValues source)
    | .undefined => pure []
    | value => do
      let length := Numerals.toInteger (← toNumber value)
      if length < 0.0 || 4294967296.0 < length then fail .range "invalid typed array length"
      else pure (List.replicate length.toUInt64.toNat 0.0)
  return .object (← newOf target (.elements kind) (.elements kind values.toArray))

/-- The number of elements. -/
def typedArrayLength (this : Value) : Run Value := do
  match this with
  | .object id =>
    match (← object id).kind with
    | .elements _ values => return .ofNat values.size
    | _ => typeError "`this` is not a typed array object"
  | _ => typeError "`this` is not a typed array object"

/-- The texts of the elements with a separator between each two. -/
def typedArrayJoin (this : Value) (arguments : List Value) : Run Value := do
  discard (typedArrayLength this)
  arrayJoin this arguments

end ScriptShell.Language.Run
