import ScriptShell.Language.Library
import ScriptShell.Language.Realm
import ScriptShell.Language.Script

/-!
# The interpreter

Here the evaluator is tied together: a call, a construction, an expression and a statement go back
into it through `evaluator`, one step of a bound at a time. The bound is beyond any run in practice;
it makes the evaluator a total function.

## Main definition

* `engine` is the interpreter as an engine of the shell.
-/

namespace ScriptShell.Language

namespace Run

/-! ## Calls of any function -/

/-- Calls a native of the shell. An error that has no realm yet gets that of the native. -/
def callNative (native : Native) (realm : Realm) (arguments : List Value) : Run Value := do
  match ← (callHost native realm arguments).outcome with
  | .ok value => return value
  | .error fault => raise (withRealm fault realm)

/-- Calls a function by what it is. -/
def callByKind (id : ObjectId) (kind : ObjectKind) (this : Value) (arguments : List Value) :
    Run Value := do
  match kind with
  | .closure closure => callClosure id closure this arguments
  | .builtin function realm => inSite { realm := realm } (callBuiltin function this arguments)
  | .host native realm => callNative native realm arguments
  | .bound target this' first => call target this' (first ++ arguments)
  | .resolver promise latch rejects realm =>
    inSite { realm := realm } (useResolver promise latch rejects (argument arguments 0))
    return .undefined
  | .finallyCall callee rejects realm =>
    inSite { realm := realm } (finallyCall callee (argument arguments 0) rejects)
  | .finallyStep value rejects _ => if rejects then raise (.thrown value) else return value
  | _ => typeError "not a callable function"

/-- The places of the stack that a call has in use. A function of script code finds its arguments
there, any other one has taken them off. -/
def callSlots (kind : ObjectKind) (arguments : List Value) : Nat :=
  match kind with
  | .closure _ => 2 + arguments.length
  | _ => 0

/-- Calls a value. -/
def callValue (callee this : Value) (arguments : List Value) : Run Value := do
  match callee with
  | .object id =>
    let object ← object id
    if object.isCallable then
      checkLimits (callSlots object.kind arguments)
      callByKind id object.kind this arguments
    else typeError "not a callable function"
  | _ => typeError "not a callable function"

/-- Constructs an object with a value. -/
def constructValue (callee : Value) (arguments : List Value) (target : Value) : Run Value := do
  match callee with
  | .object id =>
    let kind := (← object id).kind
    match kind with
    | .closure closure =>
      if closure.constructs then
        checkLimits (callSlots kind arguments)
        constructClosure id closure arguments target
      else typeError "not a constructor"
    | .builtin (.constructor className) realm =>
      checkLimits (callSlots kind arguments)
      inSite { realm := realm } (constructClass className arguments target)
    | .bound function _ first =>
      construct function (first ++ arguments) (if target.same callee then function else target)
    | _ => typeError "not a constructor"
  | _ => typeError "not a constructor"

end Run

/-! ## The knot -/

/-- The ways back into the evaluator, with a bound on the depth of calls and syntax. -/
def evaluator : Nat → Reentry
  | 0 =>
    { call := fun _ _ _ _ _ => .exhausted
      construct := fun _ _ _ _ _ => .exhausted
      expression := fun _ _ _ => .exhausted
      statement := fun _ _ _ => .exhausted }
  | bound + 1 =>
    { call := fun site callee this arguments store =>
        Run.callValue callee this arguments (evaluator bound) site store
      construct := fun site callee arguments target store =>
        Run.constructValue callee arguments target (evaluator bound) site store
      expression := fun site expression store =>
        Run.expressionValue expression (evaluator bound) site store
      statement := fun site statement store =>
        Run.completion statement (evaluator bound) site store }

/-- What a computation does in a realm. -/
def Run.actIn {α : Type} (realm : Realm) (action : Run α) (store : Store) : Act α :=
  action (evaluator Run.patience) { realm := realm } store

/-- The store as a script or a job begins with it: no bound is reached yet. -/
def Store.unlimited (store : Store) : Store :=
  { store with limited := false }

/-! ## The engine -/

/-- The store that the interpreter starts with under some options: it has one realm. -/
def Store.start (options : Options) : Store :=
  Store.createRealm 0
    { limits :=
        { loops := options.maxLoopIterations.toNat
          depth := options.maxRecursionDepth.toNat
          slots := options.maxStackSize.toNat } }

/-- Parses a source text as a script. -/
def parseScript (options : Options) (source : String) : Except Fault Code :=
  match Code.parse options.strictMode source with
  | .ok code => .ok code
  | .error error => .error (.error .syntaxError (WideText.ofString error.message) none)

/-- The value of something thrown, as a handler in a realm would get it. -/
def Fault.value (realm : Realm) (fault : Fault) (store : Store) : Value × Store :=
  let (value, store) := Run.valueOf? fault realm store
  (value.getD .undefined, store)

/-- What the shell says about a limit. -/
def Fault.limitText? : Fault → Option String
  | .limit message => some ("RuntimeLimit: " ++ message)
  | _ => none

/-- Something thrown in words. -/
def Fault.describe (fault : Fault) (store : Store) : String :=
  match fault with
  | .thrown value => Display.value store.idle value
  | .error kind message _ => Display.headed kind.name message.escaped
  | .limit message => "RuntimeLimit: " ++ message

/-- The interpreter as an engine of the shell. -/
def engine : Engine where
  Store := Store
  Value := Value
  Fault := Fault
  Job := Job
  Code := Code
  start := Store.start
  createRealm realm store := .ok (store.unloaded (Store.createRealm realm))
  install realm natives arguments store := (store.install realm natives arguments, .ok ())
  parse := parseScript
  evaluate realm code store := (Run.runScript code).actIn realm store.unlimited
  runJob realm job store := (Run.runJob job).actIn realm store.unlimited
  toText realm value store :=
    Run.actIn realm (do return (← Run.toText value).escaped) store
  toNumber realm value store :=
    Run.actIn realm (do return Numeric.ofFloat (← Run.toNumber value)) store
  stack realm value store := Run.actIn realm (Run.getNamed value "stack") store
  display value store := Display.value store.idle value
  thrown realm fault store := fault.value realm store
  limitText? := Fault.limitText?
  faultText := Fault.describe
  isObject := Value.isObject
  isNullish := Value.isNullish
  undefined := .undefined
  null := .null
  ofText := Value.ofString
  ofNumber := Value.number
  errorOf message := .error .error (WideText.ofString message) none

end ScriptShell.Language
