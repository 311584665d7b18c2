import ScriptShell.Language.Convert
import ScriptShell.Language.Display

/-!
# Functions as objects

The methods of functions.
-/

namespace ScriptShell.Language.Run

/-- Fails for a value that cannot be called. -/
def needCallable (value : Value) : Run Unit := do
  if ← isCallable value then return ()
  else typeError (Display.value (← store) value ++ " is not a function")

/-- Calls a function with a value for `this` and arguments. -/
def functionCall (this : Value) (arguments : List Value) : Run Value := do
  needCallable this
  call this (argument arguments 0) arguments.tail

/-- Calls a function with a value for `this` and an object that holds the arguments. -/
def functionApply (this : Value) (arguments : List Value) : Run Value := do
  needCallable this
  match argument arguments 1 with
  | .undefined | .null => call this (argument arguments 0) []
  | .object id => do call this (argument arguments 0) (← elementsOf id)
  | _ => typeError "cannot create list from non-object"

/-- A function that calls another one with a fixed value for `this` and some arguments in front. -/
def functionBind (this : Value) (arguments : List Value) : Run Value := do
  needCallable this
  let name ← match ← getNamed this "name" with
    | .text name => pure name
    | _ => pure .empty
  let length ← toLength (← getNamed this "length")
  let realm ← realm
  let kind := ObjectKind.bound this (argument arguments 0) arguments.tail
  return .object (← makeIn fun store =>
    store.newFunction realm kind (WideText.ofString "bound " ++ name)
      (length - arguments.tail.length))

/-- The name that a function shows; one that is bound to another shows none. -/
def shownName (function : Value) : Run WideText := do
  match function with
  | .object id =>
    match (← object id).kind with
    | .bound _ _ _ => return .empty
    | _ =>
      match ← getOf id (.ofString "name") with
      | .text name => return name
      | _ => return .empty
  | _ => return .empty

/-- The text of a function, which shows its name and not its code. -/
def functionToString (this : Value) : Run Value := do
  if ← isCallable this then
    return .text (WideText.ofString "function " ++ (← shownName this) ++
      WideText.ofString "() \x7b [native code] \x7d")
  else typeError "this is not a function"

end ScriptShell.Language.Run
