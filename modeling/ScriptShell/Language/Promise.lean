import ScriptShell.Language.Convert

/-!
# Promises

A promise is pending until it settles, once: it is fulfilled with a value or rejected with a reason.
What waits for it are reactions, each of which becomes a job when the promise has settled. To
resolve a promise is to fulfil it with a value or, where the value is an object with a method
`then`, to have it follow that object.
-/

namespace ScriptShell.Language.Run

/-! ## Settling -/

/-- A new pending promise. -/
def newPromise : Run ObjectId := do
  let realm ← realm
  makeIn fun store => store.newObject realm .promise (.promise (.pending []))

/-- Puts a promise into a state. -/
def setPromise (promise : ObjectId) (state : PromiseState) : Run Unit :=
  modifyStore fun store => store.modifyObject promise fun object =>
    { object with kind := .promise state }

/-- Queues the job that a reaction to an outcome is. -/
def schedule (rejected : Bool) (value : Value) (reaction : Reaction) : Run Unit :=
  enqueue (.react (if rejected then reaction.onRejected else reaction.onFulfilled)
    reaction.follower rejected value)

/-- Queues the jobs of reactions, in their order. -/
def scheduleAll (rejected : Bool) (value : Value) : List Reaction → Run Unit
  | [] => return ()
  | reaction :: rest => do
    schedule rejected value reaction
    scheduleAll rejected value rest

/-- Settles a promise, if it is still pending. -/
def settle (promise : ObjectId) (rejected : Bool) (value : Value) : Run Unit := do
  match (← object promise).kind with
  | .promise (.pending reactions) =>
    setPromise promise (if rejected then .rejected value else .fulfilled value)
    scheduleAll rejected value reactions
  | _ => return ()

/-- Has a reaction wait for a promise. -/
def react (promise : ObjectId) (reaction : Reaction) : Run Unit := do
  match (← object promise).kind with
  | .promise (.pending reactions) => setPromise promise (.pending (reactions ++ [reaction]))
  | .promise (.fulfilled value) => schedule false value reaction
  | .promise (.rejected reason) => schedule true reason reaction
  | _ => return ()

/-- Resolves a promise with an object: the promise follows it, if it has a method `then`. -/
def resolveWithObject (promise : ObjectId) (value : Value) : Run Unit :=
  handling
    (do
      let method ← getNamed value "then"
      if ← isCallable method then enqueue (.follow promise value method (← realm))
      else settle promise false value)
    fun reason => settle promise true reason

/-- Resolves a promise with a value. -/
def resolvePromise (promise : ObjectId) (value : Value) : Run Unit := do
  match value with
  | .object id =>
    if id = promise then
      handling (typeError "cannot resolve a promise to itself") fun reason =>
        settle promise true reason
    else resolveWithObject promise value
  | _ => settle promise false value

/-! ## The functions that settle a promise -/

/-- The two functions that resolve and reject a promise. Only the first call of either counts. -/
def resolvers (promise : ObjectId) : Run (Value × Value) := do
  let realm ← realm
  let latch ← makeIn fun store => store.allocate { kind := .latch false }
  let make := fun rejects => makeIn fun store =>
    store.newFunction realm (.resolver promise latch rejects realm) .empty 1
  return (.object (← make false), .object (← make true))

/-- A call of one of the functions that settle a promise. -/
def useResolver (promise latch : ObjectId) (rejects : Bool) (value : Value) : Run Unit := do
  match (← object latch).kind with
  | .latch false =>
    modifyStore fun store => store.modifyObject latch fun object =>
      { object with kind := .latch true }
    if rejects then settle promise true value else resolvePromise promise value
  | _ => return ()

/-! ## Promises of values -/

/-- A value that is a promise already, or a promise that is resolved with the value. -/
def promiseOf (value : Value) : Run ObjectId := do
  let fresh : Run ObjectId := do
    let promise ← newPromise
    resolvePromise promise value
    return promise
  match value with
  | .object id =>
    match (← object id).kind with
    | .promise _ =>
      let constructor ← getNamed value "constructor"
      if constructor.same (.object (← intrinsic (.constructor .promise))) then return id
      else fresh
    | _ => fresh
  | _ => fresh

/-- The handler that a value stands for: a function is called, anything else passes on. -/
def handlerOf (value : Value) : Run Handler := do
  return if ← isCallable value then .call value else .pass

/-- A promise that follows from another one by way of two handlers. -/
def chain (promise : ObjectId) (onFulfilled onRejected : Value) : Run Value := do
  let follower ← newPromise
  react promise ⟨← handlerOf onFulfilled, ← handlerOf onRejected, some follower⟩
  return .object follower

/-- The promise behind a call that runs before an outcome is passed on. -/
def finallyCall (callee value : Value) (rejects : Bool) : Run Value := do
  let promise ← promiseOf (← call callee .undefined [])
  let realm ← realm
  let step ← makeIn fun store =>
    store.newFunction realm (.finallyStep value rejects realm) .empty 0
  chain promise (.object step) .undefined

/-! ## Jobs -/

/-- Does something whose outcome a promise takes over, if there is one. -/
def decide (promise : Option ObjectId) (action : Run Value) : Run Unit :=
  handling
    (do
      let value ← action
      match promise with
      | some id => resolvePromise id value
      | none => return ())
    fun reason =>
      match promise with
      | some id => settle id true reason
      | none => return ()

/-- Has a promise follow an object with a method `then`. -/
def follow (promise : ObjectId) (thenable callee : Value) : Run Unit := do
  let (resolve, reject) ← resolvers promise
  handling (discard (call callee thenable [resolve, reject])) fun reason =>
    discard (call reject .undefined [reason])

end ScriptShell.Language.Run
