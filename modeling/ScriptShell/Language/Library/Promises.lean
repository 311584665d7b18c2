import ScriptShell.Language.Promise

/-!
# Promises in the library

The constructor and the methods of promises.
-/

namespace ScriptShell.Language.Run

/-- What the constructor of promises makes: a promise that the two arguments of a function settle.
What that function throws rejects the promise. -/
def constructPromise (arguments : List Value) (target : Value) : Run Value := do
  let executor := argument arguments 0
  if ← isCallable executor then
    let promise ← newOf target .promise (.promise (.pending []))
    let (resolve, reject) ← resolvers promise
    handling (discard (call executor .undefined [resolve, reject])) fun reason =>
      discard (call reject .undefined [reason])
    return .object promise
  else typeError "Promise executor is not callable"

/-- The promise of `this`. -/
def thisPromise (this : Value) (message : String) : Run ObjectId := do
  match this with
  | .object id =>
    match (← object id).kind with
    | .promise _ => return id
    | _ => typeError message
  | _ => typeError message

/-- A promise that follows from this one by way of handlers. -/
def promiseThen (this : Value) (arguments : List Value) : Run Value := do
  let promise ← thisPromise this "Promise.prototype.then: this is not a promise"
  chain promise (argument arguments 0) (argument arguments 1)

/-- Waits for a rejection. -/
def promiseCatch (this : Value) (arguments : List Value) : Run Value := do
  call (← getNamed this "then") this [.undefined, argument arguments 0]

/-- Calls a function whatever the outcome, which is passed on. -/
def promiseFinally (this : Value) (arguments : List Value) : Run Value := do
  let callback := argument arguments 0
  let realm ← realm
  let step := fun rejects => do
    if ← isCallable callback then
      return Value.object (← makeIn fun store =>
        store.newFunction realm (.finallyCall callback rejects realm) .empty 1)
    else return callback
  let onFulfilled ← step false
  let onRejected ← step true
  call (← getNamed this "then") this [onFulfilled, onRejected]

/-- A promise of a value. -/
def promiseResolve (arguments : List Value) : Run Value := do
  return .object (← promiseOf (argument arguments 0))

/-- A promise that is rejected. -/
def promiseReject (arguments : List Value) : Run Value := do
  let promise ← newPromise
  settle promise true (argument arguments 0)
  return .object promise

end ScriptShell.Language.Run
