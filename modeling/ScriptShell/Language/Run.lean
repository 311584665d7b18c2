import ScriptShell.Language.Store

/-!
# Running script code

A `Run` is a computation of the interpreter. It knows its `Site`, the realm and the scope it works
in, and ends like every operation of the engine: with a result, by throwing, or through a call of a
native on the way. Where a computation has to call a function or to evaluate another piece of
syntax it goes through `Reentry`, which `Interpreter` ties to the evaluator itself.

A computation carries two proofs, so that what is put together of computations needs none of its
own. It only lets the store grow (`Run.grows`): objects are made under new names, and realms stay
where they are. And as long as no bound is reached, what running scripts have used up so far makes
no difference (`Run.steady`).
-/

namespace ScriptShell.Language

/-! ## Faults and jobs -/

/-- What ends a computation other than its result. -/
inductive Fault where
  /-- A value that script code threw. -/
  | thrown (value : Value)
  /-- An error of the language. It becomes an object of its realm, or of the realm that handles
  it, only where script code sees it. -/
  | error (kind : ErrorKind) (message : WideText) (realm : Option Realm)
  /-- A bound on running scripts was reached; script code cannot catch this. -/
  | limit (message : String)

/-- A promise job. -/
inductive Job where
  /-- Runs a handler with the outcome of a promise. -/
  | react (handler : Handler) (follower : Option ObjectId) (rejected : Bool) (value : Value)
  /-- Has a promise follow an object that has a method `then`. -/
  | follow (promise : ObjectId) (thenable callee : Value) (realm : Realm)

/-- What the interpreter does in one operation. -/
abbrev Act (α : Type) := Behaviour Store Value Fault Job α

namespace Store

/-- From one store to another the store grows, and a bound that was reached stays reached. -/
structure LeadsTo (store after : Store) : Prop extends store.GrowsTo after where
  limited (h : store.limited = true) : after.limited = true

variable {store middle after : Store}

theorem LeadsTo.refl (store : Store) : store.LeadsTo store :=
  ⟨.refl store, id⟩

theorem LeadsTo.trans (hfirst : store.LeadsTo middle) (hsecond : middle.LeadsTo after) :
    store.LeadsTo after :=
  ⟨hfirst.toGrowsTo.trans hsecond.toGrowsTo, hsecond.limited ∘ hfirst.limited⟩

theorem leadsTo_load (store : Store) (load : Load) :
    store.LeadsTo { store with load := load } :=
  ⟨⟨Nat.le_refl _, fun _ => rfl⟩, id⟩

/-- A change of what scripts can tell leaves a bound reached or not. -/
theorem leadsTo_usedAs {changed : Store} (h : store.idle.GrowsTo changed) :
    store.LeadsTo (changed.usedAs store) :=
  ⟨⟨h.nextObject_le, h.base_eq⟩, id⟩

end Store

namespace Act

variable {α β : Type} {store middle : Store} {act other : Act α}

/-! ### Growth -/

/-- Whenever the interpreter hands out a store, it is one to which the store grew that it was given
last. -/
abbrev Grows (store : Store) (act : Act α) : Prop :=
  Behaviour.Grows Store.LeadsTo store act

theorem Grows.trans (hstore : store.LeadsTo middle) (hact : Grows middle act) :
    Grows store act := by
  cases hact with
  | finish result hgrows => exact .finish result (hstore.trans hgrows)
  | native hgrows hresume => exact .native (hstore.trans hgrows) hresume
  | enqueue hgrows hresume => exact .enqueue (hstore.trans hgrows) hresume
  | exhausted => exact .exhausted

theorem Grows.andThen {next : Store → Except Fault α → Act β} (hact : Grows store act)
    (hnext : ∀ after result, Grows after (next after result)) :
    Grows store (act.andThen next) := by
  induction hact with
  | finish result hgrows => exact Grows.trans hgrows (hnext _ result)
  | native hgrows _ ih => exact .native hgrows ih
  | enqueue hgrows _ ih => exact .enqueue hgrows ih
  | exhausted => exact .exhausted

/-! ### Work in step -/

/-- A bound is reached before anything else is done. -/
def IsLimited : Act α → Prop
  | .finish store _ | .native store _ _ _ _ | .enqueue store _ _ => store.limited = true
  | .exhausted => True

/-- A bound that was reached stays reached. -/
theorem Grows.isLimited (hact : Grows store act) (hlimited : store.limited = true) :
    act.IsLimited := by
  cases hact with
  | finish result hgrows => exact hgrows.limited hlimited
  | native hgrows _ => exact hgrows.limited hlimited
  | enqueue hgrows _ => exact hgrows.limited hlimited
  | exhausted => trivial

theorem IsLimited.andThen {next : Store → Except Fault α → Act β} (hact : act.IsLimited)
    (hnext : ∀ after result, Grows after (next after result)) :
    IsLimited (act.andThen next) := by
  cases act with
  | finish store result => exact (hnext store result).isLimited hact
  | native | enqueue => exact hact
  | exhausted => trivial

/-- Two acts do the same with stores that differ in what is used up only, until a bound is
reached. -/
inductive InStep : Act α → Act α → Prop
  | finish {store twin : Store} (result : Except Fault α) (hstore : twin.idle = store.idle) :
      InStep (.finish store result) (.finish twin result)
  | native {store twin : Store} {realm : Realm} {callee : Native} {arguments : List Value}
      {resume resumeTwin : Store → Except Fault Value → Act α} (hstore : twin.idle = store.idle)
      (hresume : ∀ given givenTwin answer, givenTwin.idle = given.idle →
        InStep (resume given answer) (resumeTwin givenTwin answer)) :
      InStep (.native store realm callee arguments resume)
        (.native twin realm callee arguments resumeTwin)
  | enqueue {store twin : Store} {job : Job} {resume resumeTwin : Store → Act α}
      (hstore : twin.idle = store.idle)
      (hresume : ∀ given givenTwin, givenTwin.idle = given.idle →
        InStep (resume given) (resumeTwin givenTwin)) :
      InStep (.enqueue store job resume) (.enqueue twin job resumeTwin)
  | limited {act twin : Act α} (hact : act.IsLimited) : InStep act twin
  | twinLimited {act twin : Act α} (htwin : twin.IsLimited) : InStep act twin

theorem InStep.andThen {next nextTwin : Store → Except Fault α → Act β} (h : InStep act other)
    (hnext : ∀ store twin result, twin.idle = store.idle →
      InStep (next store result) (nextTwin twin result))
    (hgrows : ∀ after result, Grows after (next after result))
    (hgrowsTwin : ∀ after result, Grows after (nextTwin after result)) :
    InStep (act.andThen next) (other.andThen nextTwin) := by
  induction h with
  | finish result hstore => exact hnext _ _ result hstore
  | native hstore _ ih => exact .native hstore ih
  | enqueue hstore _ ih => exact .enqueue hstore ih
  | limited hact => exact .limited (hact.andThen hgrows)
  | twinLimited htwin => exact .twinLimited (htwin.andThen hgrowsTwin)

end Act

/-! ## Sites -/

/-- Where a computation takes place. -/
structure Site where
  realm : Realm
  scope : ScopeId := .made 0
  strict : Bool := false

/-- How a statement ended. A statement that has no value of its own leaves an earlier one. -/
inductive Completion where
  | normal (value : Option Value)
  | returned (value : Value)
  | broke (label : Option String) (value : Option Value)
  | continued (label : Option String) (value : Option Value)

/-- The completion with a value in place of none. -/
def Completion.orElse (value : Option Value) : Completion → Completion
  | .normal own => .normal (own.or value)
  | .returned value => .returned value
  | .broke label own => .broke label (own.or value)
  | .continued label own => .continued label (own.or value)

/-- What a script completes with that ended in a way. -/
def Completion.result : Completion → Value
  | .normal (some value) => value
  | _ => .undefined

/-- The ways in which a computation goes back into the evaluator. -/
structure Reentry where
  /-- Calls a function. -/
  call : Site → Value → Value → List Value → Store → Act Value
  /-- Constructs an object; the last value is the constructor that was asked for. -/
  construct : Site → Value → List Value → Value → Store → Act Value
  /-- Evaluates an expression. -/
  expression : Site → Expression → Store → Act Value
  /-- Executes a statement. -/
  statement : Site → Statement → Store → Act Completion

/-- All ways back into the evaluator let the store grow and are in step. -/
structure Reentry.Lawful (reentry : Reentry) : Prop where
  call (site : Site) (callee this : Value) (arguments : List Value) (store : Store) :
    Act.Grows store (reentry.call site callee this arguments store)
  construct (site : Site) (callee : Value) (arguments : List Value) (target : Value)
    (store : Store) : Act.Grows store (reentry.construct site callee arguments target store)
  expression (site : Site) (expression : Expression) (store : Store) :
    Act.Grows store (reentry.expression site expression store)
  statement (site : Site) (statement : Statement) (store : Store) :
    Act.Grows store (reentry.statement site statement store)
  callInStep (site : Site) (callee this : Value) (arguments : List Value) {store twin : Store}
    (hstore : twin.idle = store.idle) :
    Act.InStep (reentry.call site callee this arguments store)
      (reentry.call site callee this arguments twin)
  constructInStep (site : Site) (callee : Value) (arguments : List Value) (target : Value)
    {store twin : Store} (hstore : twin.idle = store.idle) :
    Act.InStep (reentry.construct site callee arguments target store)
      (reentry.construct site callee arguments target twin)
  expressionInStep (site : Site) (expression : Expression) {store twin : Store}
    (hstore : twin.idle = store.idle) :
    Act.InStep (reentry.expression site expression store) (reentry.expression site expression twin)
  statementInStep (site : Site) (statement : Statement) {store twin : Store}
    (hstore : twin.idle = store.idle) :
    Act.InStep (reentry.statement site statement store) (reentry.statement site statement twin)

/-- A computation of the interpreter. Whatever it does, the store only grows, and what is used up
makes no difference until a bound is reached. -/
structure Run (α : Type) where
  act : Reentry → Site → Store → Act α
  grows {reentry : Reentry} (hreentry : reentry.Lawful) (site : Site) (store : Store) :
    Act.Grows store (act reentry site store)
  steady {reentry : Reentry} (hreentry : reentry.Lawful) (site : Site) {store twin : Store}
    (hstore : twin.idle = store.idle) :
    Act.InStep (act reentry site store) (act reentry site twin)

instance {α : Type} : CoeFun (Run α) fun _ => Reentry → Site → Store → Act α := ⟨Run.act⟩

namespace Run

variable {α β : Type}

/-! ## Putting computations together -/

/-- One computation and then another, which sees the result of the first or what it threw. -/
def andThen (first : Run α) (next : Except Fault α → Run β) : Run β where
  act reentry site store :=
    (first reentry site store).andThen fun store result => next result reentry site store
  grows hreentry site store :=
    (first.grows hreentry site store).andThen fun store result =>
      (next result).grows hreentry site store
  steady hreentry site _ _ hstore :=
    (first.steady hreentry site hstore).andThen
      (fun _ _ result hstore => (next result).steady hreentry site hstore)
      (fun store result => (next result).grows hreentry site store)
      (fun store result => (next result).grows hreentry site store)

/-- Gives a result that depends on the site and on what scripts can tell of the store. -/
def look (read : Site → Store → Except Fault α) : Run α where
  act _ site store := .finish store (read site store.idle)
  grows _ _ store := .finish _ (.refl store)
  steady _ site store twin hstore := by
    rw [hstore]
    exact .finish _ hstore

instance : Monad Run where
  pure value := look fun _ _ => .ok value
  bind first next := first.andThen fun
    | .ok value => next value
    | .error fault => look fun _ _ => .error fault

/-- Throws. -/
def raise (fault : Fault) : Run α :=
  look fun _ _ => .error fault

/-- The result of a computation, or what it threw. -/
def outcome (action : Run α) : Run (Except Fault α) :=
  action.andThen fun result => look fun _ _ => .ok result

/-- The bounds of the evaluator are used up. -/
def exhausted : Run α where
  act _ _ _ := .exhausted
  grows _ _ _ := .exhausted
  steady _ _ _ _ _ := .limited trivial

/-- Where the computation takes place. -/
def site : Run Site :=
  look fun site _ => .ok site

/-- The realm of the computation. -/
def realm : Run Realm :=
  look fun site _ => .ok site.realm

/-- Does something elsewhere. -/
def inSite (site : Site) (action : Run α) : Run α where
  act reentry _ store := action reentry site store
  grows hreentry _ store := action.grows hreentry site store
  steady hreentry _ _ _ hstore := action.steady hreentry site hstore

/-- What scripts can tell of the store. -/
def store : Run Store :=
  look fun _ store => .ok store

/-- Changes what scripts can tell of the store and gives a value. -/
def makeIn (make : Store → α × Store)
    (hgrows : ∀ store : Store, store.GrowsTo (make store).2 := by
      first
      | exact fun _ => ⟨Nat.le_refl _, fun _ => rfl⟩
      | exact fun _ => ⟨Nat.le_succ _, fun _ => rfl⟩) : Run α where
  act _ _ store := .finish ((make store.idle).2.usedAs store) (.ok (make store.idle).1)
  grows _ _ store := .finish _ (Store.leadsTo_usedAs (hgrows store.idle))
  steady _ _ store twin hstore := by
    rw [hstore]
    exact .finish _ rfl

/-- Changes what scripts can tell of the store. -/
def modifyStore (change : Store → Store)
    (hgrows : ∀ store : Store, store.GrowsTo (change store) := by
      first
      | exact fun _ => ⟨Nat.le_refl _, fun _ => rfl⟩
      | exact fun _ => ⟨Nat.le_succ _, fun _ => rfl⟩) : Run Unit :=
  makeIn (fun store => ((), change store)) hgrows

/-- Queues a job. -/
def enqueue (job : Job) : Run Unit where
  act _ _ store := .enqueue store job fun store => .finish store (.ok ())
  grows _ _ store := .enqueue (.refl store) fun given => .finish _ (.refl given)
  steady _ _ _ _ hstore := .enqueue hstore fun _ _ hgiven => .finish _ hgiven

/-- Calls a native of the shell. -/
def callHost (native : Native) (realm : Realm) (arguments : List Value) : Run Value where
  act _ _ store :=
    .native store realm native arguments fun store result => .finish store result
  grows _ _ store := .native (.refl store) fun given answer => .finish answer (.refl given)
  steady _ _ _ _ hstore := .native hstore fun _ _ answer hgiven => .finish answer hgiven

/-! ## What is used up -/

/-- Uses something up, or fails where a bound is reached. -/
def spend (use : Limits → Load → Except String Load) : Run Unit where
  act _ _ store :=
    match use store.limits store.load with
    | .ok load => .finish { store with load := load } (.ok ())
    | .error message => .finish { store with limited := true } (.error (.limit message))
  grows _ _ store := by
    cases use store.limits store.load with
    | ok load => exact .finish _ ⟨⟨Nat.le_refl _, fun _ => rfl⟩, id⟩
    | error message => exact .finish _ ⟨⟨Nat.le_refl _, fun _ => rfl⟩, fun _ => rfl⟩
  steady _ _ store twin hstore := by
    cases use store.limits store.load with
    | error message => exact .limited rfl
    | ok load =>
      cases use twin.limits twin.load with
      | error message => exact .twinLimited rfl
      | ok loadTwin => exact .finish _ hstore

/-- Does something while more is in use. -/
def whileUsing (enter : Load → Load) (leave : Load → Load → Load) (action : Run α) : Run α where
  act reentry site store :=
    (action reentry site { store with load := enter store.load }).andThen fun after result =>
      .finish { after with load := leave store.load after.load } result
  grows hreentry site store := by
    refine .trans (store.leadsTo_load (enter store.load)) ?_
    exact (action.grows hreentry site _).andThen fun after result =>
      .finish result (after.leadsTo_load _)
  steady hreentry site store twin hstore := by
    have hentered : { twin with load := enter twin.load : Store }.idle =
        { store with load := enter store.load : Store }.idle := hstore
    exact (action.steady hreentry site hentered).andThen
      (fun _ _ result hafter => .finish result hafter)
      (fun after result => .finish result (after.leadsTo_load _))
      (fun after result => .finish result (after.leadsTo_load _))

/-- Does something while some more places of the stack of values are in use. -/
def withSlots (count : Nat) (action : Run α) : Run α :=
  whileUsing (fun load => { load with slots := load.slots + count })
    (fun before load => { load with slots := before.slots }) action

/-! ## Errors -/

/-- Throws an error of this realm. -/
def fail (kind : ErrorKind) (message : String) : Run α := do
  raise (.error kind (WideText.ofString message) (some (← realm)))

/-- Throws an error of this realm. -/
def failWith (kind : ErrorKind) (message : WideText) : Run α := do
  raise (.error kind message (some (← realm)))

/-- Throws an error for a value of the wrong type. -/
def typeError (message : String) : Run α :=
  fail .type message

/-- An error without a realm is one of this realm from here on. -/
def withRealm (fault : Fault) (realm : Realm) : Fault :=
  match fault with
  | .error kind message none => .error kind message (some realm)
  | fault => fault

/-- The value of something thrown, in a realm, if script code can see it. -/
def valueOf? (fault : Fault) (realm : Realm) (store : Store) : Option Value × Store :=
  match fault with
  | .thrown value => (some value, store)
  | .error kind message own =>
    let (id, store) := store.newError (own.getD realm) kind message
    (some (.object id), store)
  | .limit _ => (none, store)

theorem growsTo_valueOf? (fault : Fault) (realm : Realm) (store : Store) :
    store.GrowsTo (valueOf? fault realm store).2 := by
  cases fault with
  | thrown value => exact .refl store
  | error kind message own => exact ⟨Nat.le_succ _, fun _ => rfl⟩
  | limit message => exact .refl store

/-- Handles what a computation throws, as a value. A reached bound is not handled. -/
def handling (action : Run α) (handler : Value → Run α) : Run α := do
  match ← action.outcome with
  | .ok value => return value
  | .error fault =>
    let realm ← realm
    match ← makeIn (valueOf? fault realm) (growsTo_valueOf? fault realm) with
    | some value => handler value
    | none => raise fault

/-! ## Going back into the evaluator -/

/-- Calls a function. -/
def call (callee this : Value) (arguments : List Value) : Run Value where
  act reentry site store := reentry.call site callee this arguments store
  grows hreentry site store := hreentry.call site callee this arguments store
  steady hreentry site _ _ hstore := hreentry.callInStep site callee this arguments hstore

/-- Constructs an object. -/
def construct (callee : Value) (arguments : List Value) (target : Value) : Run Value where
  act reentry site store := reentry.construct site callee arguments target store
  grows hreentry site store := hreentry.construct site callee arguments target store
  steady hreentry site _ _ hstore := hreentry.constructInStep site callee arguments target hstore

/-- Evaluates an expression. -/
def evaluate (expression : Expression) : Run Value where
  act reentry site store := reentry.expression site expression store
  grows hreentry site store := hreentry.expression site expression store
  steady hreentry site _ _ hstore := hreentry.expressionInStep site expression hstore

/-- Executes a statement. -/
def execute (statement : Statement) : Run Completion where
  act reentry site store := reentry.statement site statement store
  grows hreentry site store := hreentry.statement site statement store
  steady hreentry site _ _ hstore := hreentry.statementInStep site statement hstore

/-! ## Repetition -/

/-- The number of repetitions after which the evaluator gives up. -/
def patience : Nat := Nat.pow 2 62

/-- Repeats a step until it gives an answer, up to a number of times. -/
def repeatWith (step : α → Run (α ⊕ β)) : Nat → α → Run β
  | 0, _ => exhausted
  | bound + 1, state => do
    match ← step state with
    | .inl state => repeatWith step bound state
    | .inr answer => return answer

/-- Repeats a step until it gives an answer. -/
def untilDone (start : α) (step : α → Run (α ⊕ β)) : Run β :=
  repeatWith step patience start

/-! ## Objects -/

/-- An object. -/
def object (id : ObjectId) : Run Object := do
  return (← store).object id

/-- A new object around a primitive value. -/
def newBoxed (prototype : ObjectId) (value : Value) : Run ObjectId :=
  makeIn fun store => store.newBoxed prototype value

/-- Has an object inherit from another one, or from none. -/
def setPrototype (id : ObjectId) (prototype : Option ObjectId) : Run Unit :=
  modifyStore fun store => store.modifyObject id fun object =>
    { object with prototype := prototype }

/-- An intrinsic of this realm. -/
def intrinsic (intrinsic : Intrinsic) : Run ObjectId := do
  return (← store).intrinsic (← realm) intrinsic

/-- Whether a value can be called. -/
def isCallable (value : Value) : Run Bool := do
  match value with
  | .object id => return (← object id).isCallable
  | _ => return false

end Run

end ScriptShell.Language
