import ScriptShell.Engine

/-!
# The objects and functions that every realm has

An `Intrinsic` is an object that a realm is born with; a `Builtin` is a function of the library,
told apart by what it computes. Both are names only: a realm gives each intrinsic its place in the
store, and the library says what each builtin does.
-/

namespace ScriptShell.Language

/-- The classes of errors. -/
inductive ErrorKind where
  | error | type | range | reference | syntaxError | eval | uri
  deriving DecidableEq, Repr

/-- The name of a class of errors. -/
def ErrorKind.name : ErrorKind → String
  | .error => "Error"
  | .type => "TypeError"
  | .range => "RangeError"
  | .reference => "ReferenceError"
  | .syntaxError => "SyntaxError"
  | .eval => "EvalError"
  | .uri => "URIError"

/-- The classes of errors, the general one first. -/
def ErrorKind.all : List ErrorKind :=
  [.error, .type, .range, .reference, .syntaxError, .eval, .uri]

/-- The kinds of elements of typed arrays. -/
inductive ElementKind where
  | uint8 | uint8Clamped | uint16 | uint32 | int8 | int16 | int32 | float32 | float64
  deriving DecidableEq, Repr

namespace ElementKind

/-- The kinds of elements. -/
def all : List ElementKind :=
  [.uint8, .uint8Clamped, .uint16, .uint32, .int8, .int16, .int32, .float32, .float64]

/-- The name of the typed arrays of a kind. -/
def name : ElementKind → String
  | .uint8 => "Uint8Array"
  | .uint8Clamped => "Uint8ClampedArray"
  | .uint16 => "Uint16Array"
  | .uint32 => "Uint32Array"
  | .int8 => "Int8Array"
  | .int16 => "Int16Array"
  | .int32 => "Int32Array"
  | .float32 => "Float32Array"
  | .float64 => "Float64Array"

/-- The octets of an element. -/
def size : ElementKind → Nat
  | .uint8 | .uint8Clamped | .int8 => 1
  | .uint16 | .int16 => 2
  | .uint32 | .int32 | .float32 => 4
  | .float64 => 8

end ElementKind

/-! ## Classes -/

/-- The classes whose constructor and prototype a realm is born with. -/
inductive ClassName where
  | object | function | array | string | number | boolean | symbol | bigint | promise | map | set
  | date | typedArray
  | error (kind : ErrorKind)
  | elements (kind : ElementKind)
  deriving DecidableEq, Repr

namespace ClassName

/-- The classes, in the order of their places in a realm. -/
def all : List ClassName :=
  [.object, .function, .array, .string, .number, .boolean, .symbol, .bigint, .promise, .map, .set,
    .date, .typedArray] ++ ErrorKind.all.map .error ++ ElementKind.all.map .elements

/-- The place of a class. -/
def place (className : ClassName) : Nat :=
  all.idxOf className

/-- The name of a class. -/
def name : ClassName → String
  | .object => "Object"
  | .function => "Function"
  | .array => "Array"
  | .string => "String"
  | .number => "Number"
  | .boolean => "Boolean"
  | .symbol => "Symbol"
  | .bigint => "BigInt"
  | .promise => "Promise"
  | .map => "Map"
  | .set => "Set"
  | .date => "Date"
  | .typedArray => "TypedArray"
  | .error kind => kind.name
  | .elements kind => kind.name

/-- The number of parameters that a constructor reports. -/
def arity : ClassName → Nat
  | .symbol | .map | .set | .typedArray => 0
  | .date => 7
  | .elements _ => 3
  | _ => 1

end ClassName

/-- An object that a realm is born with. -/
inductive Intrinsic where
  | prototype (className : ClassName)
  | constructor (className : ClassName)
  | iteratorPrototype
  | global
  deriving DecidableEq, Repr

namespace Intrinsic

/-- The place of an intrinsic among those of its realm. -/
def place : Intrinsic → Nat
  | .iteratorPrototype => 0
  | .global => 1
  | .prototype className => 2 + 2 * className.place
  | .constructor className => 3 + 2 * className.place

/-- The number of intrinsics of a realm. -/
def count : Nat :=
  2 + 2 * ClassName.all.length

end Intrinsic

/-! ## Functions -/

/-- A function of the library. -/
inductive Builtin where
  | constructor (className : ClassName)
  | nothing
  | returnThis
  -- objects
  | objectKeys | objectValues | objectEntries | objectCreate | objectAssign
  | objectGetOwnPropertyDescriptor | objectGetOwnPropertyNames | objectDefineProperty
  | objectGetPrototypeOf | objectSetPrototypeOf | objectFreeze
  | objectHasOwnProperty | objectIsPrototypeOf | objectPropertyIsEnumerable
  | objectToString | objectToLocaleString | objectValueOf
  -- functions
  | functionCall | functionApply | functionBind | functionToString
  -- arrays
  | arrayIsArray | arrayOf
  | arrayConcat | arrayEvery | arrayFilter | arrayForEach | arrayIncludes | arrayIndexOf
  | arrayJoin | arrayMap | arrayPop | arrayPush | arrayReduce | arrayReverse | arrayShift
  | arraySlice | arraySome | arrayToString | arrayValues
  | iteratorNext
  -- strings
  | stringFromCharCode
  | stringCharAt | stringCharCodeAt | stringConcat | stringIncludes | stringIndexOf
  | stringRepeat | stringSlice | stringToString | stringIterator
  -- other primitive values
  | numberToString | numberValueOf
  | booleanToString | booleanValueOf
  | symbolToString | symbolValueOf | symbolDescription
  | bigintToString | bigintValueOf
  -- errors
  | errorToString
  -- promises
  | promiseThen | promiseCatch | promiseFinally | promiseResolve | promiseReject
  -- collections
  | mapGet | mapSet | mapHas | mapDelete | mapSize
  | setAdd | setHas | setDelete | setSize
  -- typed arrays
  | typedArrayJoin | typedArrayLength
  -- dates
  | dateNow | dateGetTime | dateToString | dateToIsoString
  deriving DecidableEq, Repr

end ScriptShell.Language
