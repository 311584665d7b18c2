import ScriptShell.Language.Convert

/-!
# Arrays

The methods of arrays. They work on everything that has a length and elements; a hole counts as
`undefined` for some of them and is left out by others.
-/

namespace ScriptShell.Language.Run

/-! ## Going through elements -/

/-- Goes through the elements of an object from some place on, holes left out, until a step gives
an answer. -/
def scanFrom {σ α : Type} (id : ObjectId) (length : Nat)
    (step : σ → Value → Nat → Run (σ ⊕ α)) : Nat → σ → Run (σ ⊕ α)
  | 0, state => return .inl state
  | left + 1, state => do
    let index := length - (left + 1)
    if ← hasProperty id (.ofNat index) then
      match ← step state (← getOf id (.ofNat index)) index with
      | .inl state => scanFrom id length step left state
      | .inr answer => return .inr answer
    else scanFrom id length step left state

/-- Goes through all elements of an object, holes left out. -/
def scan {σ α : Type} (id : ObjectId) (start : σ) (step : σ → Value → Nat → Run (σ ⊕ α)) :
    Run (σ ⊕ α) := do
  let length ← lengthOf id
  scanFrom id length step length start

/-- Calls a function for an element. -/
def callFor (callback : Value) (arguments : List Value) (id : ObjectId) (value : Value)
    (index : Nat) : Run Value :=
  call callback (argument arguments 1) [value, .ofNat index, .object id]

/-- The function that is to be called for elements. -/
def callbackOf (arguments : List Value) (message : String) : Run Value := do
  let callback := argument arguments 0
  if ← isCallable callback then return callback else typeError message

/-! ## Methods that call a function for each element -/

/-- Calls a function for each element. -/
def arrayForEach (this : Value) (arguments : List Value) : Run Value := do
  let id ← toObject this
  let callback ← callbackOf arguments "Array.prototype.forEach: invalid callback function"
  discard (scan id () fun _ value index => do
    discard (callFor callback arguments id value index)
    return (.inl () : Unit ⊕ Unit))
  return .undefined

/-- The values that a function gives for each element, holes in their places. -/
def arrayMap (this : Value) (arguments : List Value) : Run Value := do
  let id ← toObject this
  let length ← lengthOf id
  let callback ← callbackOf arguments "Array.prototype.map: Callbackfn is not callable"
  let realm ← realm
  let result ← makeIn fun store => store.newArray realm (List.replicate length none)
  discard (scanFrom id length (fun _ value index => do
    define result (.ofNat index) (← callFor callback arguments id value index)
    return (.inl () : Unit ⊕ Unit)) length ())
  return .object result

/-- The elements that a function accepts. -/
def arrayFilter (this : Value) (arguments : List Value) : Run Value := do
  let id ← toObject this
  let callback ← callbackOf arguments
    "Array.prototype.filter: `callback` must be callable"
  let kept ← scan id [] fun kept value index => do
    let accepted := (← callFor callback arguments id value index).truthy
    return (.inl (if accepted then value :: kept else kept) : List Value ⊕ Unit)
  match kept with
  | .inl kept => newArray kept.reverse
  | .inr () => newArray []

/-- Whether a function accepts every element. -/
def arrayEvery (this : Value) (arguments : List Value) : Run Value := do
  let id ← toObject this
  let callback ← callbackOf arguments "Array.prototype.every: callback is not callable"
  let result ← scan id () fun _ value index => do
    let accepted := (← callFor callback arguments id value index).truthy
    return if accepted then .inl () else .inr ()
  return .boolean (result matches .inl _)

/-- Whether a function accepts some element. -/
def arraySome (this : Value) (arguments : List Value) : Run Value := do
  let id ← toObject this
  let callback ← callbackOf arguments "Array.prototype.some: callback is not callable"
  let result ← scan id () fun _ value index => do
    let accepted := (← callFor callback arguments id value index).truthy
    return if accepted then .inr () else .inl ()
  return .boolean (result matches .inr _)

/-- Combines the elements by a function, from a first value or from the first element on. -/
def arrayReduce (this : Value) (arguments : List Value) : Run Value := do
  let id ← toObject this
  let callback ← callbackOf arguments
    "Array.prototype.reduce: callback function is not callable"
  let start := arguments[1]?
  let result ← scan id start fun total value index => do
    match total with
    | none => return (.inl (some value) : Option Value ⊕ Unit)
    | some total =>
      return .inl (some
        (← call callback .undefined [total, value, .ofNat index, .object id]))
  match result with
  | .inl (some total) => return total
  | _ =>
    typeError "Array.prototype.reduce: called on an empty array and with no initial value"

/-! ## Text -/

/-- The text of an element in a list; `undefined` and `null` have none. -/
def elementText (value : Value) : Run WideText := do
  if value.isNullish then return .empty else toText value

/-- The texts of the elements, in their order. -/
def elementTexts (id : ObjectId) (length : Nat) : Nat → Run (List WideText)
  | 0 => return []
  | left + 1 => do
    let text ← elementText (← getOf id (.ofNat (length - (left + 1))))
    return text :: (← elementTexts id length left)

/-- The texts of the elements with a separator between each two, a comma if none is given. -/
def arrayJoin (this : Value) (arguments : List Value) : Run Value := do
  let id ← toObject this
  let length ← lengthOf id
  let separator ← match argument arguments 0 with
    | .undefined => pure (WideText.ofString ",")
    | value => toText value
  return .text (WideText.join separator (← elementTexts id length length))

/-- The text of an array by its method `join`. -/
def arrayToString (this : Value) (otherwise : Value → Run Value) : Run Value := do
  let id ← toObject this
  let method ← getOf id (.ofString "join")
  if ← isCallable method then call method (.object id) [] else otherwise (.object id)

/-! ## Searching -/

/-- The place from which a search goes forward. -/
def searchStart (arguments : List Value) (length : Nat) : Run Nat := do
  return Numerals.placeIn length (Numerals.toInteger (← toNumber (argument arguments 1)))

/-- The first place of an element that is equal to a value, or -1. -/
def arrayIndexOf (this : Value) (arguments : List Value) : Run Value := do
  let id ← toObject this
  let length ← lengthOf id
  let start ← searchStart arguments length
  let found ← scanFrom id length (fun _ value index =>
    return (if value.same (argument arguments 0) then .inr index else .inl ())) (length - start) ()
  match found with
  | .inl () => return .number (-1.0)
  | .inr index => return .ofNat index

/-- Whether an element is equal to a value; a NaN equals itself here. -/
def arrayIncludes (this : Value) (arguments : List Value) : Run Value := do
  let id ← toObject this
  let values ← elementsOf id
  let start ← searchStart arguments values.length
  return .boolean ((values.drop start).any fun value => value.sameKey (argument arguments 0))

/-! ## Changing an array -/

/-- Sets the length of an object. -/
def writeLength (id : ObjectId) (length : Nat) : Run Unit :=
  set (.object id) (.ofString "length") (.ofNat length) true

/-- Writes values into consecutive places. -/
def writeElements (id : ObjectId) (place : Nat) : List Value → Run Unit
  | [] => return ()
  | value :: rest => do
    set (.object id) (.ofNat place) value true
    writeElements id (place + 1) rest

/-- Puts values behind the elements and gives the new length. -/
def arrayPush (this : Value) (arguments : List Value) : Run Value := do
  let id ← toObject this
  let length ← lengthOf id
  writeElements id length arguments
  writeLength id (length + arguments.length)
  return .ofNat (length + arguments.length)

/-- Takes the last element away. -/
def arrayPop (this : Value) : Run Value := do
  let id ← toObject this
  match ← lengthOf id with
  | 0 =>
    writeLength id 0
    return .undefined
  | length + 1 =>
    let value ← getOf id (.ofNat length)
    discard (delete id (.ofNat length))
    writeLength id length
    return value

/-- Takes the first element away; the others move down. -/
def arrayShift (this : Value) : Run Value := do
  let id ← toObject this
  match ← elementsOf id with
  | [] =>
    writeLength id 0
    return .undefined
  | first :: rest =>
    writeElements id 0 rest
    discard (delete id (.ofNat rest.length))
    writeLength id rest.length
    return first

/-- Reverses the elements in their places. -/
def arrayReverse (this : Value) : Run Value := do
  let id ← toObject this
  writeElements id 0 (← elementsOf id).reverse
  return .object id

/-! ## New arrays -/

/-- The elements between two places. -/
def arraySlice (this : Value) (arguments : List Value) : Run Value := do
  let id ← toObject this
  let values ← elementsOf id
  let place := fun value : Value => do
    return Numerals.placeIn values.length (Numerals.toInteger (← toNumber value))
  let start ← place (argument arguments 0)
  let stop ← match argument arguments 1 with
    | .undefined => pure values.length
    | value => place value
  newArray ((values.take stop).drop start)

/-- The elements of arrays and all other values, in a row. -/
def concatenated : List Value → Run (List Value)
  | [] => return []
  | value :: rest => do
    let own ← match value with
      | .object id =>
        match (← object id).kind with
        | .array => elementsOf id
        | _ => pure [value]
      | _ => pure [value]
    return own ++ (← concatenated rest)

/-- An array of the elements of this one and the arguments. -/
def arrayConcat (this : Value) (arguments : List Value) : Run Value := do
  newArray (← concatenated (.object (← toObject this) :: arguments))

/-- Whether a value is an array. -/
def arrayIsArray (arguments : List Value) : Run Value := do
  match argument arguments 0 with
  | .object id =>
    match (← object id).kind with
    | .array => return .boolean true
    | _ => return .boolean false
  | _ => return .boolean false

/-- What the constructor of arrays makes: an array of some length, or of some elements. -/
def constructArray (arguments : List Value) (target : Value) : Run Value := do
  let realm ← realm
  let elements ← match arguments with
    | [.number length] =>
      if Float.ofNat (Numerals.toUnsigned 32 length) == length then
        pure (List.replicate (Numerals.toUnsigned 32 length) none)
      else fail .range "invalid array length"
    | values => pure (values.map some)
  let id ← makeIn fun store => store.newArray realm elements
  setPrototype id (some (← prototypeFor target .array))
  return .object id

/-! ## Iterators -/

/-- An iterator over values. -/
def newIterator (values : List Value) : Run Value := do
  let prototype ← intrinsic .iteratorPrototype
  return .object (← makeIn fun store =>
    store.allocate { kind := .iterator values, prototype := some prototype })

/-- An iterator over the elements. -/
def arrayValues (this : Value) : Run Value := do
  let id ← toObject this
  newIterator (← elementsOf id)

/-- What an iterator gives next. -/
def iteratorNext (this : Value) : Run Value := do
  let answer := fun (value : Value) (done : Bool) => do
    let id ← newObject
    define id (.ofString "value") value
    define id (.ofString "done") (.boolean done)
    return Value.object id
  match this with
  | .object id =>
    match (← object id).kind with
    | .iterator (value :: rest) =>
      modifyStore fun store => store.modifyObject id fun object =>
        { object with kind := .iterator rest }
      answer value false
    | .iterator [] => answer .undefined true
    | _ => typeError "`this` is not an iterator"
  | _ => typeError "`this` is not an iterator"

end ScriptShell.Language.Run
