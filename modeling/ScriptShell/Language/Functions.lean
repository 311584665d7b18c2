import ScriptShell.Language.Promise
import ScriptShell.Language.Scopes

/-!
# Functions of script code

How functions are made, and what a call sets up: a scope with the parameters and everything the
body declares, the value of `this`, and a new activation with a loop counter of its own. An async
function runs up to a statement that waits, and what is left of its body goes on in a job.
-/

namespace ScriptShell.Language.Run

/-! ## Making functions -/

/-- Makes a function in the present scope, under a name. Only ordinary functions get a prototype
for the objects that they construct. -/
def makeNamed (definition : FunctionSyntax) (name : WideText) : Run ObjectId := do
  let site ← site
  let closure : Closure := ⟨definition, site.scope, site.realm⟩
  let id ← makeIn fun store =>
    store.newFunction site.realm (.closure closure) name definition.arity
  if closure.constructs then
    let prototype ← newObject
    modifyStore fun store =>
      (store.putProperty prototype (.ofString "constructor") (.hidden (.object id))).putProperty id
        (.ofString "prototype") ⟨.data (.object prototype) true, false, false⟩
  return id

/-- Makes a function in the present scope. -/
def makeFunction (definition : FunctionSyntax) : Run Value := do
  return .object (← makeNamed definition (WideText.ofString definition.name))

/-- Makes a function that may refer to itself by its name. -/
def makeSelfNamed (definition : FunctionSyntax) : Run Value :=
  inNewScope
    (fun parent => { parent := parent, bindings := [(definition.name, ⟨none, false⟩)] })
    (do
      let value ← makeFunction definition
      bindName definition.name value
      return value)

/-! ## Declarations -/

/-- Makes the functions that a block declares. -/
def declareFunctions : List FunctionSyntax → Run Unit
  | [] => return ()
  | definition :: rest => do
    bindName definition.name (← makeFunction definition)
    declareFunctions rest

/-- Declares in the present scope what the statements of a block declare. Names of `let` and `const`
have no value yet. -/
def declareBlock (body : List Statement) : Run Unit := do
  let scope := (← site).scope
  modifyStore (fun store => store.declareLexical scope (lexicalNames body))
    (Store.growsTo_declareLexical scope (lexicalNames body))
  declareFunctions (declaredFunctions body)

/-- Declares in the present scope names of `var` that are not there yet. -/
def declareVariables (names : List String) : Run Unit := do
  let scope := (← site).scope
  modifyStore (fun store => store.declareVariables scope names)
    (Store.growsTo_declareVariables scope names)

/-- Binds parameters to arguments; a missing argument is `undefined`. -/
def bindParameters : List PatternElement → List Value → Run Unit
  | [], _ => return ()
  | .hole :: rest, arguments => bindParameters rest arguments.tail
  | .item pattern default :: rest, arguments => do
    bindPattern .introduce pattern (← orDefault (arguments.headD .undefined) default)
    bindParameters rest arguments.tail
  | .rest pattern :: _, arguments => do
    bindPattern .introduce pattern (← newArray arguments)

/-- The object that holds the arguments of a call. -/
def argumentsObject (callee : ObjectId) (strict : Bool) (arguments : List Value) :
    Run ObjectId := do
  let values ← getOf (← intrinsic (.prototype .array)) (.ofString "values")
  let realm ← realm
  makeIn (fun store => store.newArguments realm arguments values (if strict then none else callee))
    (Store.growsTo_newArguments realm arguments values (if strict then none else callee))

/-! ## Statements in a row -/

/-- Executes statements in their order up to the first that does not end normally. The value is that
of the last statement that has one. -/
def executeFrom (value : Option Value) : List Statement → Run Completion
  | [] => return .normal value
  | statement :: rest => do
    match (← execute statement).orElse value with
    | .normal value => executeFrom value rest
    | completion => return completion

/-- Executes statements in their order. -/
def executeAll (body : List Statement) : Run Completion :=
  executeFrom none body

/-! ## Activations -/

/-- Fails where one more call would exceed a limit. The call itself has some places of the stack in
use. -/
def checkLimits (slots : Nat) : Run Unit :=
  spend fun limits load =>
    if limits.depth ≤ load.activations then
      .error "exceeded maximum number of recursive calls"
    else if limits.slots ≤ load.slots + slots then
      .error "exceeded maximum call stack length"
    else .ok load

/-- Does something as a script or a function of its own, with some places of the stack in use. -/
def activated {α : Type} (slots : Nat) (action : Run α) : Run α :=
  whileUsing
    (fun load => ⟨load.activations + 1, load.slots + slots, 0⟩)
    (fun before _ => before) action

/-- The value of `this` in a function that is called with some value for it. Outside strict mode
code it is always an object. -/
def thisFor (strict : Bool) (this : Value) : Run Value := do
  if strict then return this
  else if this.isNullish then return .object (← globalObject)
  else return .object (← toObject this)

/-- Does something in the scope of a call. -/
def inCall {α : Type} (id : ObjectId) (closure : Closure) (this : Value) (arguments : List Value)
    (action : Run α) : Run α := do
  let definition := closure.definition
  let strict := definition.strict
  inSite { realm := closure.realm, scope := closure.scope, strict := strict } do
    if definition.kind = .arrow then
      inNewScope (fun parent => { parent := parent }) do
        bindParameters definition.parameters arguments
        action
    else
      let this ← thisFor strict this
      let object ← argumentsObject id strict arguments
      inNewScope
        (fun parent =>
          { parent := parent
            bindings := [("arguments", ⟨some (.object object), true⟩)]
            this := some this })
        do
          bindParameters definition.parameters arguments
          action

/-- Declares what a function body declares. -/
def declareBody (body : List Statement) : Run Unit := do
  declareVariables (varNames body)
  declareBlock body

/-! ## Async functions -/

/-- A statement that waits: what takes the value, whether the function ends with it, and what is
waited for. -/
def waiting? : Statement → Option (Option (Option VariableKind × Pattern) × Bool × Expression)
  | .expression (.await operand) => some (none, false, operand)
  | .expression (.assign target (.await operand)) => some (some (none, target), false, operand)
  | .declares kind [(pattern, some (.await operand))] =>
    some (some (some kind, pattern), false, operand)
  | .returns (some (.await operand)) => some (none, true, operand)
  | _ => none

/-- Runs what is left of an async function up to the next statement that waits. -/
def runWaiting (promise : ObjectId) : List Statement → Run Unit
  | [] => resolvePromise promise .undefined
  | statement :: rest => do
    match waiting? statement with
    | some (receiver, returns, operand) =>
      let awaited ← promiseOf (← evaluate operand)
      let site ← site
      let handler := Handler.resume
        ⟨site.realm, site.scope, site.strict, receiver, returns, rest, promise⟩
      react awaited ⟨handler, handler, none⟩
    | none =>
      match ← execute statement with
      | .returned value => resolvePromise promise value
      | _ => runWaiting promise rest

/-- Runs a part of an async function; what it throws rejects the promise of the function. -/
def rejecting (promise : ObjectId) (action : Run Unit) : Run Unit :=
  handling action fun reason => settle promise true reason

/-- Stores the value that a statement waited for. -/
def receive (receiver : Option (Option VariableKind × Pattern)) (value : Value) : Run Unit :=
  match receiver with
  | none => return ()
  | some (some .lexical, pattern) | some (some .constant, pattern) =>
    bindPattern .introduce pattern value
  | some (_, pattern) => bindPattern .assign pattern value

/-- Goes on with an async function whose promise has settled. -/
def resume (suspension : Suspension) (rejected : Bool) (value : Value) : Run Unit := do
  inSite ⟨suspension.realm, suspension.scope, suspension.strict⟩ do
    activated 2 do
      rejecting suspension.promise do
        if rejected then raise (.thrown value)
        else if suspension.returns then resolvePromise suspension.promise value
        else
          receive suspension.receiver value
          runWaiting suspension.promise suspension.rest

/-! ## Calls -/

/-- Calls a function of script code. -/
def callClosure (id : ObjectId) (closure : Closure) (this : Value) (arguments : List Value) :
    Run Value := do
  let body := closure.definition.body
  activated (2 + arguments.length) do
    if closure.definition.isAsync then
      let promise ← inSite { realm := closure.realm } newPromise
      rejecting promise do
        inCall id closure this arguments do
          declareBody body
          runWaiting promise body
      return .object promise
    else
      inCall id closure this arguments do
        declareBody body
        match ← executeAll body with
        | .returned value => return value
        | _ => return .undefined

/-- Constructs an object with a function of script code: the object it returns, or the one it was
given as `this`. -/
def constructClosure (id : ObjectId) (closure : Closure) (arguments : List Value)
    (target : Value) : Run Value := do
  let object ← newOf target .object .ordinary
  let result ← callClosure id closure (.object object) arguments
  return if result.isObject then result else .object object

/-! ## Jobs -/

/-- Runs a promise job. -/
def runJob : Job → Run Unit
  | .follow promise thenable callee realm =>
    inSite { realm := realm } (follow promise thenable callee)
  | .react (.resume suspension) _ rejected value => resume suspension rejected value
  | .react (.call callee) follower _ value => decide follower (call callee .undefined [value])
  | .react .pass follower rejected value =>
    decide follower (if rejected then raise (.thrown value) else return value)

end ScriptShell.Language.Run
