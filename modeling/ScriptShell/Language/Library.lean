import ScriptShell.Language.Display
import ScriptShell.Language.Library.Collections
import ScriptShell.Language.Library.Dates
import ScriptShell.Language.Library.Errors
import ScriptShell.Language.Library.Functions
import ScriptShell.Language.Library.Objects
import ScriptShell.Language.Library.Promises
import ScriptShell.Language.Library.Scalars
import ScriptShell.Language.Library.Texts

/-!
# The library

What each function of the library does when it is called, and what each class makes when it is
constructed.
-/

namespace ScriptShell.Language.Run

/-! ## Classes -/

/-- What a class does when its constructor is called like a function. -/
def callClass (className : ClassName) (arguments : List Value) : Run Value := do
  match className with
  | .object => objectFrom arguments
  | .array => constructArray arguments .undefined
  | .string => return .text (← textFrom arguments)
  | .number => numberFrom arguments
  | .boolean => return .boolean (argument arguments 0).truthy
  | .symbol => newSymbol arguments
  | .bigint => bigintFrom arguments
  | .error kind => constructError kind arguments .undefined
  | .date =>
    match Numerals.truncate? (← presentTime) with
    | some milliseconds => return .ofString (CalendarTime.ofMilliseconds milliseconds).words
    | none => return .undefined
  | .promise => typeError "promise NewTarget cannot be undefined"
  | .function => typeError "functions cannot be made from text"
  | .map | .set | .typedArray | .elements _ =>
    typeError ("calling a builtin " ++ className.name ++ " constructor without new is forbidden")

/-- What a class makes when its constructor is used to construct. -/
def constructClass (className : ClassName) (arguments : List Value) (target : Value) :
    Run Value := do
  match className with
  | .object => objectFrom arguments
  | .array => constructArray arguments target
  | .string => constructString arguments target
  | .number => constructBoxed .number (← numberFrom arguments) target
  | .boolean => constructBoxed .boolean (.boolean (argument arguments 0).truthy) target
  | .error kind => constructError kind arguments target
  | .promise => constructPromise arguments target
  | .map => constructMap arguments target
  | .set => constructSet arguments target
  | .date => constructDate arguments target
  | .elements kind => constructElements kind arguments target
  | .function => typeError "functions cannot be made from text"
  | .symbol | .bigint | .typedArray => typeError (className.name ++ " is not a constructor")

/-! ## Functions -/

/-- What a function of the library does. -/
def callBuiltin (function : Builtin) (this : Value) (arguments : List Value) : Run Value :=
  match function with
  | .constructor className => callClass className arguments
  | .nothing => return .undefined
  | .returnThis => return this
  | .objectKeys => objectKeys arguments
  | .objectValues => objectValues arguments
  | .objectEntries => objectEntries arguments
  | .objectCreate => objectCreate arguments
  | .objectAssign => objectAssign arguments
  | .objectGetOwnPropertyDescriptor => objectGetOwnPropertyDescriptor arguments
  | .objectGetOwnPropertyNames => objectGetOwnPropertyNames arguments
  | .objectDefineProperty => objectDefineProperty arguments
  | .objectGetPrototypeOf => objectGetPrototypeOf arguments
  | .objectSetPrototypeOf => objectSetPrototypeOf arguments
  | .objectFreeze => objectFreeze arguments
  | .objectHasOwnProperty => objectHasOwnProperty this arguments
  | .objectIsPrototypeOf => objectIsPrototypeOf this arguments
  | .objectPropertyIsEnumerable => objectPropertyIsEnumerable this arguments
  | .objectToString => objectToString this
  | .objectToLocaleString => objectToLocaleString this
  | .objectValueOf => objectValueOf this
  | .functionCall => functionCall this arguments
  | .functionApply => functionApply this arguments
  | .functionBind => functionBind this arguments
  | .functionToString => functionToString this
  | .arrayIsArray => arrayIsArray arguments
  | .arrayOf => newArray arguments
  | .arrayConcat => arrayConcat this arguments
  | .arrayEvery => arrayEvery this arguments
  | .arrayFilter => arrayFilter this arguments
  | .arrayForEach => arrayForEach this arguments
  | .arrayIncludes => arrayIncludes this arguments
  | .arrayIndexOf => arrayIndexOf this arguments
  | .arrayJoin => arrayJoin this arguments
  | .arrayMap => arrayMap this arguments
  | .arrayPop => arrayPop this
  | .arrayPush => arrayPush this arguments
  | .arrayReduce => arrayReduce this arguments
  | .arrayReverse => arrayReverse this
  | .arrayShift => arrayShift this
  | .arraySlice => arraySlice this arguments
  | .arraySome => arraySome this arguments
  | .arrayToString => arrayToString this objectToString
  | .arrayValues => arrayValues this
  | .iteratorNext => iteratorNext this
  | .stringFromCharCode => stringFromCharCode arguments
  | .stringCharAt => stringCharAt this arguments
  | .stringCharCodeAt => stringCharCodeAt this arguments
  | .stringConcat => stringConcat this arguments
  | .stringIncludes => stringIncludes this arguments
  | .stringIndexOf => stringIndexOf this arguments
  | .stringRepeat => stringRepeat this arguments
  | .stringSlice => stringSlice this arguments
  | .stringToString => stringToString this
  | .stringIterator => stringIterator this
  | .numberToString => numberToString this arguments
  | .numberValueOf => numberValueOf this
  | .booleanToString => booleanToString this
  | .booleanValueOf => booleanValueOf this
  | .symbolToString => symbolToString this
  | .symbolValueOf => symbolValueOf this
  | .symbolDescription => symbolDescription this
  | .bigintToString => bigintToString this arguments
  | .bigintValueOf => bigintValueOf this
  | .errorToString => errorToString this
  | .promiseThen => promiseThen this arguments
  | .promiseCatch => promiseCatch this arguments
  | .promiseFinally => promiseFinally this arguments
  | .promiseResolve => promiseResolve arguments
  | .promiseReject => promiseReject arguments
  | .mapGet => mapGet this arguments
  | .mapSet => mapSet this arguments
  | .mapHas => mapHas this arguments
  | .mapDelete => mapDelete this arguments
  | .mapSize => mapSize this
  | .setAdd => setAdd this arguments
  | .setHas => setHas this arguments
  | .setDelete => setDelete this arguments
  | .setSize => setSize this
  | .typedArrayJoin => typedArrayJoin this arguments
  | .typedArrayLength => typedArrayLength this
  | .dateNow => dateNow
  | .dateGetTime => dateGetTime this
  | .dateToString => dateToString this
  | .dateToIsoString => dateToIsoString this

end ScriptShell.Language.Run
