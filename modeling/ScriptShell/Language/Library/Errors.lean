import ScriptShell.Language.Convert

/-!
# Errors

Making errors and their texts.
-/

namespace ScriptShell.Language.Run

/-- What the constructor of a class of errors makes: an error with a message, if one is given, and
the cause that an option names. -/
def constructError (kind : ErrorKind) (arguments : List Value) (target : Value) : Run Value := do
  let id ← newOf target (.error kind) .error
  match argument arguments 0 with
  | .undefined => pure ()
  | message =>
    let text ← toText message
    modifyStore fun store => store.putProperty id (.ofString "message") (.hidden (.text text))
  match argument arguments 1 with
  | .object options =>
    if ← hasProperty options (.ofString "cause") then
      let cause ← getOf options (.ofString "cause")
      modifyStore fun store => store.putProperty id (.ofString "cause") (.hidden cause)
  | _ => pure ()
  return .object id

/-- The text of a part of an error, or a text for a missing one. -/
def errorPart (id : ObjectId) (name : String) (missing : WideText) : Run WideText := do
  match ← getOf id (.ofString name) with
  | .undefined => return missing
  | value => toText value

/-- The text of an error: its name and its message, or the only one that is not empty. -/
def errorToString (this : Value) : Run Value := do
  match this with
  | .object id =>
    let name ← errorPart id "name" (WideText.ofString "Error")
    let message ← errorPart id "message" .empty
    if name = .empty then return .text message
    else if message = .empty then return .text name
    else return .text (name ++ WideText.ofString ": " ++ message)
  | _ => typeError "'this' is not an Object"

end ScriptShell.Language.Run
