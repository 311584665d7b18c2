import ScriptShell.Language.Scopes

/-!
# Realms

What a realm is born with: its classes with their methods, its global object, and the two outermost
scopes, the one that shows the global object and the one for `let` and `const` of scripts. The
objects of a realm lie next to each other in the store, each intrinsic at its own place.

`Store.createRealm` makes a realm; `Store.install` adds the natives of the shell and the array
`arguments` to its global object.
-/

namespace ScriptShell.Language

/-! ## What the classes offer -/

/-- A function of the library as a property: its name, the number of its parameters, and what it
does. -/
structure Method where
  name : String
  arity : Nat
  function : Builtin

/-- The functions on the constructor of a class. -/
def ClassName.statics : ClassName → List Method
  | .object =>
    [⟨"assign", 2, .objectAssign⟩, ⟨"create", 2, .objectCreate⟩,
      ⟨"defineProperty", 3, .objectDefineProperty⟩, ⟨"entries", 1, .objectEntries⟩,
      ⟨"freeze", 1, .objectFreeze⟩,
      ⟨"getOwnPropertyDescriptor", 2, .objectGetOwnPropertyDescriptor⟩,
      ⟨"getOwnPropertyNames", 1, .objectGetOwnPropertyNames⟩,
      ⟨"getPrototypeOf", 1, .objectGetPrototypeOf⟩, ⟨"keys", 1, .objectKeys⟩,
      ⟨"setPrototypeOf", 2, .objectSetPrototypeOf⟩, ⟨"values", 1, .objectValues⟩]
  | .array => [⟨"isArray", 1, .arrayIsArray⟩, ⟨"of", 0, .arrayOf⟩]
  | .string => [⟨"fromCharCode", 1, .stringFromCharCode⟩]
  | .promise => [⟨"reject", 1, .promiseReject⟩, ⟨"resolve", 1, .promiseResolve⟩]
  | .date => [⟨"now", 0, .dateNow⟩]
  | _ => []

/-- The methods on the prototype of a class. -/
def ClassName.methods : ClassName → List Method
  | .object =>
    [⟨"hasOwnProperty", 1, .objectHasOwnProperty⟩, ⟨"isPrototypeOf", 1, .objectIsPrototypeOf⟩,
      ⟨"propertyIsEnumerable", 1, .objectPropertyIsEnumerable⟩,
      ⟨"toLocaleString", 0, .objectToLocaleString⟩, ⟨"toString", 0, .objectToString⟩,
      ⟨"valueOf", 0, .objectValueOf⟩]
  | .function =>
    [⟨"apply", 2, .functionApply⟩, ⟨"bind", 1, .functionBind⟩, ⟨"call", 1, .functionCall⟩,
      ⟨"toString", 0, .functionToString⟩]
  | .array =>
    [⟨"concat", 1, .arrayConcat⟩, ⟨"every", 1, .arrayEvery⟩, ⟨"filter", 1, .arrayFilter⟩,
      ⟨"forEach", 1, .arrayForEach⟩, ⟨"includes", 1, .arrayIncludes⟩,
      ⟨"indexOf", 1, .arrayIndexOf⟩, ⟨"join", 1, .arrayJoin⟩, ⟨"map", 1, .arrayMap⟩,
      ⟨"pop", 0, .arrayPop⟩, ⟨"push", 1, .arrayPush⟩, ⟨"reduce", 1, .arrayReduce⟩,
      ⟨"reverse", 0, .arrayReverse⟩, ⟨"shift", 0, .arrayShift⟩, ⟨"slice", 2, .arraySlice⟩,
      ⟨"some", 1, .arraySome⟩, ⟨"toString", 0, .arrayToString⟩, ⟨"values", 0, .arrayValues⟩]
  | .string =>
    [⟨"charAt", 1, .stringCharAt⟩, ⟨"charCodeAt", 1, .stringCharCodeAt⟩,
      ⟨"concat", 1, .stringConcat⟩, ⟨"includes", 1, .stringIncludes⟩,
      ⟨"indexOf", 1, .stringIndexOf⟩, ⟨"repeat", 1, .stringRepeat⟩, ⟨"slice", 2, .stringSlice⟩,
      ⟨"toString", 0, .stringToString⟩, ⟨"valueOf", 0, .stringToString⟩]
  | .number => [⟨"toString", 1, .numberToString⟩, ⟨"valueOf", 0, .numberValueOf⟩]
  | .boolean => [⟨"toString", 0, .booleanToString⟩, ⟨"valueOf", 0, .booleanValueOf⟩]
  | .symbol => [⟨"toString", 0, .symbolToString⟩, ⟨"valueOf", 0, .symbolValueOf⟩]
  | .bigint => [⟨"toString", 0, .bigintToString⟩, ⟨"valueOf", 0, .bigintValueOf⟩]
  | .promise =>
    [⟨"catch", 1, .promiseCatch⟩, ⟨"finally", 1, .promiseFinally⟩, ⟨"then", 2, .promiseThen⟩]
  | .map =>
    [⟨"delete", 1, .mapDelete⟩, ⟨"get", 1, .mapGet⟩, ⟨"has", 1, .mapHas⟩, ⟨"set", 2, .mapSet⟩]
  | .set => [⟨"add", 1, .setAdd⟩, ⟨"delete", 1, .setDelete⟩, ⟨"has", 1, .setHas⟩]
  | .typedArray => [⟨"join", 1, .typedArrayJoin⟩, ⟨"toString", 0, .arrayToString⟩]
  | .date =>
    [⟨"getTime", 0, .dateGetTime⟩, ⟨"toISOString", 0, .dateToIsoString⟩,
      ⟨"toString", 0, .dateToString⟩, ⟨"valueOf", 0, .dateGetTime⟩]
  | .error .error => [⟨"toString", 0, .errorToString⟩]
  | _ => []

/-- The properties on the prototype of a class that a function computes. -/
def ClassName.getters : ClassName → List Method
  | .symbol => [⟨"description", 0, .symbolDescription⟩]
  | .map => [⟨"size", 0, .mapSize⟩]
  | .set => [⟨"size", 0, .setSize⟩]
  | .typedArray => [⟨"length", 0, .typedArrayLength⟩]
  | _ => []

/-- The function that iterates over the objects of a class. -/
def ClassName.iteration? : ClassName → Option Method
  | .array | .typedArray => some ⟨"values", 0, .arrayValues⟩
  | .string => some ⟨"[Symbol.iterator]", 0, .stringIterator⟩
  | _ => none

/-- The values on the constructor of a class. -/
def ClassName.constants : ClassName → List (String × Value)
  | .number =>
    [("EPSILON", .number (Float.scaleB 1.0 (-52))),
      ("MAX_SAFE_INTEGER", .number 9007199254740991.0),
      ("MIN_SAFE_INTEGER", .number (-9007199254740991.0)),
      ("MAX_VALUE", .number 1.7976931348623157e308),
      ("MIN_VALUE", .number 5e-324),
      ("NEGATIVE_INFINITY", .number (-1.0 / 0.0)),
      ("POSITIVE_INFINITY", .number (1.0 / 0.0)),
      ("NaN", .number (0.0 / 0.0))]
  | .symbol =>
    [("hasInstance", .symbol .hasInstance), ("iterator", .symbol .iterator),
      ("toPrimitive", .symbol .toPrimitive), ("toStringTag", .symbol .toStringTag)]
  | .elements kind => [("BYTES_PER_ELEMENT", .ofNat kind.size)]
  | _ => []

/-- The values on the prototype of a class. -/
def ClassName.traits : ClassName → List (Key × Property)
  | .error kind =>
    [(.ofString "name", .hidden (.ofString kind.name)),
      (.ofString "message", .hidden (.ofString ""))]
  | .elements kind => [(.ofString "BYTES_PER_ELEMENT", .fixed (.ofNat kind.size))]
  | .promise => [(.symbol .toStringTag, .readOnly (.ofString "Promise"))]
  | .symbol => [(.symbol .toStringTag, .readOnly (.ofString "Symbol"))]
  | .bigint => [(.symbol .toStringTag, .readOnly (.ofString "BigInt"))]
  | .map => [(.symbol .toStringTag, .readOnly (.ofString "Map"))]
  | .set => [(.symbol .toStringTag, .readOnly (.ofString "Set"))]
  | _ => []

/-- The class that a class extends. -/
def ClassName.parent? : ClassName → Option ClassName
  | .object => none
  | .error .error => some .object
  | .error _ => some (.error .error)
  | .elements _ => some .typedArray
  | _ => some .object

/-- What the prototype of a class is besides its properties. -/
def ClassName.prototypeKind (realm : Realm) : ClassName → ObjectKind
  | .function => .builtin .nothing realm
  | .array => .array
  | .string => .boxed (.text .empty)
  | .number => .boxed (.number 0.0)
  | .boolean => .boxed (.boolean false)
  | _ => .ordinary

/-- The properties that come first on the prototype of a class. -/
def ClassName.prototypeStart : ClassName → List (Key × Property)
  | .function =>
    [(.ofString "length", .readOnly (.ofNat 0)), (.ofString "name", .readOnly (.ofString ""))]
  | .array => [(.ofString "length", ⟨.data (.ofNat 0) true, false, false⟩)]
  | .string => [(.ofString "length", .fixed (.ofNat 0))]
  | _ => []

/-- Whether a class is a property of the global object. -/
def ClassName.isGlobal : ClassName → Bool
  | .typedArray => false
  | _ => true

namespace Store

/-! ## Making classes -/

/-- Puts a new function of the library on an object. -/
def addMethod (realm : Realm) (owner : ObjectId) (key : Key) (store : Store) (method : Method) :
    Store :=
  let (id, store) := store.newFunction realm (.builtin method.function realm)
    (WideText.ofString method.name) method.arity
  store.putProperty owner key (.hidden (.object id))

/-- Puts new functions of the library on an object, under their names. -/
def addMethods (realm : Realm) (owner : ObjectId) (methods : List Method) (store : Store) :
    Store :=
  methods.foldl (fun store method => store.addMethod realm owner (.ofString method.name) method)
    store

/-- Puts a property on an object that a function of the library computes. -/
def addGetter (realm : Realm) (owner : ObjectId) (store : Store) (method : Method) : Store :=
  let (id, store) := store.newFunction realm (.builtin method.function realm)
    (WideText.ofString ("get " ++ method.name)) 0
  store.putProperty owner (.ofString method.name) ⟨.accessor (some id) none, false, true⟩

/-- Puts properties on an object. -/
def putProperties (owner : ObjectId) (properties : List (Key × Property)) (store : Store) :
    Store :=
  properties.foldl (fun store entry => store.putProperty owner entry.1 entry.2) store

/-- Makes the prototype of a class. -/
def makePrototype (realm : Realm) (className : ClassName) (store : Store) : Store :=
  let id := store.intrinsic realm (.prototype className)
  let store := store.setObject id
    { kind := className.prototypeKind realm
      prototype := className.parent?.map fun parent => store.intrinsic realm (.prototype parent)
      named := className.prototypeStart }
  let constructor := store.intrinsic realm (.constructor className)
  let store := store.putProperty id (.ofString "constructor") (.hidden (.object constructor))
  let store := store.addMethods realm id className.methods
  let store := className.getters.foldl (fun store method => store.addGetter realm id method) store
  let store := match className.iteration? with
    | some method => store.addMethod realm id (.symbol .iterator) method
    | none => store
  store.putProperties id className.traits

/-- Makes the constructor of a class. -/
def makeConstructor (realm : Realm) (className : ClassName) (store : Store) : Store :=
  let id := store.intrinsic realm (.constructor className)
  let parent := match className.parent? with
    | some (.error kind) => Intrinsic.constructor (.error kind)
    | some .typedArray => .constructor .typedArray
    | _ => .prototype .function
  let prototype := store.intrinsic realm (.prototype className)
  let store := store.setObject id
    { kind := .builtin (.constructor className) realm
      prototype := some (store.intrinsic realm parent)
      named :=
        [(.ofString "length", .readOnly (.ofNat className.arity)),
          (.ofString "name", .readOnly (.ofString className.name)),
          (.ofString "prototype", .fixed (.object prototype))] }
  let store := store.addMethods realm id className.statics
  store.putProperties id
    (className.constants.map fun entry => (.ofString entry.1, .fixed entry.2))

/-- Makes a class. -/
def makeClass (realm : Realm) (store : Store) (className : ClassName) : Store :=
  (store.makePrototype realm className).makeConstructor realm className

/-! ## Making realms -/

/-- Makes the prototype of iterators. -/
def makeIterators (realm : Realm) (store : Store) : Store :=
  let id := store.intrinsic realm .iteratorPrototype
  let store := store.setObject id
    { prototype := some (store.intrinsic realm (.prototype .object)) }
  let store := store.addMethod realm id (.ofString "next") ⟨"next", 0, .iteratorNext⟩
  store.addMethod realm id (.symbol .iterator) ⟨"[Symbol.iterator]", 0, .returnThis⟩

/-- Makes the global object. -/
def makeGlobal (realm : Realm) (store : Store) : Store :=
  let id := store.intrinsic realm .global
  let classes := (ClassName.all.filter ClassName.isGlobal).map fun className =>
    (Key.ofString className.name,
      Property.hidden (.object (store.intrinsic realm (.constructor className))))
  let store := store.setObject id
    { prototype := some (store.intrinsic realm (.prototype .object)) }
  store.putProperties id
    ((.ofString "globalThis", .hidden (.object id)) ::
      (.ofString "undefined", .fixed .undefined) ::
      (.ofString "NaN", .fixed (.number (0.0 / 0.0))) ::
      (.ofString "Infinity", .fixed (.number (1.0 / 0.0))) :: classes)

/-- Sets a number of places aside for objects. -/
def reserve (store : Store) (count : Nat) : Store :=
  { store with nextObject := store.nextObject + count }

/-- Makes a realm under a name. -/
def createRealm (realm : Realm) (store : Store) : Store :=
  let base := store.nextObject
  let store := store.reserve Intrinsic.count
  let global := base + Intrinsic.global.place
  let (outermost, store) := store.allocateScope
    { parent := none, object := some global, this := some (.object global) }
  let (scope, store) := store.allocateScope { parent := some outermost }
  let store := store.modifyRealm realm fun _ => { base := base, scope := scope }
  let store := ClassName.all.foldl (fun store className => store.makeClass realm className) store
  (store.makeIterators realm).makeGlobal realm

/-! ## What the shell adds -/

/-- Puts a native of the shell on the global object of a realm. -/
def installNative (realm : Realm) (store : Store) (native : Native) : Store :=
  let (id, store) := store.newFunction realm (.host native realm) (WideText.ofString native.name)
    native.arity
  store.putProperty (store.intrinsic realm .global) (.ofString native.name) (.hidden (.object id))

/-- Puts natives of the shell and the array `arguments` on the global object of a realm. -/
def install (realm : Realm) (natives : List Native) (arguments : List String) (store : Store) :
    Store :=
  let store := natives.foldl (fun store native => store.installNative realm native) store
  let (id, store) := store.newArray realm (arguments.map fun text => some (.ofString text))
  store.putProperty (store.intrinsic realm .global) (.ofString "arguments") (.plain (.object id))

end Store

end ScriptShell.Language
