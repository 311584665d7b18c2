import ScriptShell.Program

/-!
# Properties that composed actions share

Whatever the shell does is composed of a few basic actions, of evaluations and of syntax checks. A
property of actions that these have and that composing keeps is therefore one of every action.
`ScriptClosed` gathers what is to be shown of a property for that, as far as script code and the
natives go: `EngineClosed` is what of it the engine needs from one call of a native to the next,
`ServiceClosed` what the natives and the evaluations need besides. `JobClosed` does so as far as the
jobs at the end of an evaluation go, `ReportClosed` for what is read and reported around script code
and `ShellClosed` for the chores of the shell besides. The walk over all actions is made here, once
for all such properties; since natives evaluate files and evaluations call natives, it is an
induction on the budget that bounds how deep calls nest (`ServiceClosed.answer`).

A property may hold of all that the engine does without being one of each of its steps, such as one
of how the state of the engine develops. Then `ActClosed` takes the place of `EngineClosed`.

An evaluation and a syntax check have clauses of their own, in which the property is known of their
parts, since some properties hold of them only as a whole: an evaluation puts back the frames that
entering changes. What of a session decides about the next action is named in the clauses that look
at a session.
-/

namespace ScriptShell

variable {engine : Engine}

namespace Host

/-- The natives that have clauses of their own: one ends the process, two look at the frames. -/
def Unshared (native : Native) : Prop :=
  native = .quit ∨ native = .stackTrace ∨ native = .dumpCallFrame

/-- The call of a native that belongs to a realm. -/
def called {α : Type} (realm : Realm) (native : Native) (action : Host engine α) :
    Host engine α := do
  note (.called native (← get).frames)
  withRealm realm action

/-- What running a source text comes to once it was parsed. -/
def runParsed (answer : Answer engine) :
    Except engine.Fault engine.Code → Host engine (Except engine.Fault engine.Value)
  | .ok code => (act answer fun realm => engine.evaluate realm code).run
  | .error fault => return .error fault

theorem runSource_eq (answer : Answer engine) (source : String) :
    (runSource answer source).run =
      get >>= fun session => runParsed answer (engine.parse session.options source) := by
  unfold runSource
  rw [ExceptT.run_mk]
  refine bind_congr fun session => ?_
  cases engine.parse session.options source <;> rfl

/-- The property is kept where actions follow each other, in view of what the engine is given. -/
structure Composes (holds : ∀ ⦃α : Type⦄, Host engine α → Prop) : Prop where
  pure {α : Type} (value : α) : holds (pure value : Host engine α)
  bind {α β : Type} {action : Host engine α} {next : α → Host engine β}
    (haction : holds action) (hnext : ∀ value, holds (next value)) : holds (action >>= next)
  look {β : Type} (next : engine.Store → Realm → Options → Host engine β)
    (hnext : ∀ store realm options, holds (next store realm options)) :
    holds (get >>= fun session => next session.store session.realm session.options)

/-- The property is one of what the shell has the engine do, where natives are answered in some
way, and of reading what was thrown. -/
structure WorkClosed (answer : Answer engine) (holds : ∀ ⦃α : Type⦄, Host engine α → Prop) : Prop
    extends Composes holds where
  runCode (code : engine.Code) : holds (act answer fun realm => engine.evaluate realm code).run
  toText (value : engine.Value) : holds (toText answer value).run
  toNumber (value : engine.Value) : holds (act answer fun realm => engine.toNumber realm value).run
  readStack (value : engine.Value) : holds (act answer fun realm => engine.stack realm value).run
  thrownValue (fault : engine.Fault) : holds (thrownValue fault)

/-- The property is one of following the engine from one call of a native to the next. -/
structure EngineClosed (holds : ∀ ⦃α : Type⦄, Host engine α → Prop) : Prop
    extends Composes holds where
  exhausted {α : Type} : holds (throw .exhausted : Host engine α)
  setStore (store : engine.Store) : holds (setStore store)
  queueJob (job : engine.Job) : holds (queueJob job)
  thrownValue (fault : engine.Fault) : holds (thrownValue fault)

/-- However natives are answered, the property is one of what the shell has the engine do if it is
one of the answers. -/
structure ActClosed (holds : ∀ ⦃α : Type⦄, Host engine α → Prop) : Prop where
  work {answer : Answer engine}
    (hanswer : ∀ realm native arguments, holds (answer realm native arguments).run) :
    WorkClosed answer holds
  runJob {answer : Answer engine}
    (hanswer : ∀ realm native arguments, holds (answer realm native arguments).run)
    (job : engine.Job) : holds (act answer fun realm => engine.runJob realm job).run

/-- The property is one of what natives and evaluations do besides having the engine work. -/
structure ServiceClosed (holds : ∀ ⦃α : Type⦄, Host engine α → Prop) : Prop
    extends Composes holds where
  exhausted {α : Type} : holds (throw .exhausted : Host engine α)
  print {channel : Channel} (hchannel : channel ≠ .report) (text : String) :
    holds (write channel text)
  nowCall : holds (now .call)
  timeOfDay : holds timeOfDay
  readLine : holds readLine
  readFile (path : String) : holds (readFile path)
  changeFlags (change : SamplingFlags → SamplingFlags) :
    holds (modify fun session => { session with flags := change session.flags })
  createEnvironment (arguments : List String) : holds (createEnvironment arguments).run
  withRealm {α : Type} {action : Host engine α} (realm : Realm) (haction : holds action) :
    holds (withRealm realm action)
  called {α : Type} {action : Host engine α} (realm : Realm) {native : Native}
    (hnative : ¬ Unshared native) (haction : holds action) : holds (called realm native action)
  calledUnshared (budget : Nat) (realm : Realm) {native : Native} (hnative : Unshared native)
    (arguments : List engine.Value) :
    holds (Host.called realm native (respond (answer budget) budget native arguments).run)
  evaluate (budget : Nat) (source name : String)
    (hscript : holds (runSource (answer budget) source).run)
    (hjob : ∀ job, holds (act (answer budget) fun realm => engine.runJob realm job).run)
    (hreport : ∀ result, holds (evaluated (answer budget) result)) :
    holds (evaluate (answer budget) budget source name)
  checkSyntax (budget : Nat) (source name : String)
    (hreport : ∀ result, holds (evaluated (answer budget) result)) :
    holds (checkSyntax (answer budget) source name)

/-- The property is one of every action of script code. -/
structure ScriptClosed (holds : ∀ ⦃α : Type⦄, Host engine α → Prop) : Prop
    extends EngineClosed holds, ServiceClosed holds

/-- The property is one of evaluating what was read and of reporting on it. What the shell has the
engine do counts as a whole here. -/
structure ReportClosed (holds : ∀ ⦃α : Type⦄, Host engine α → Prop) : Prop where
  pure {α : Type} (value : α) : holds (pure value : Host engine α)
  bind {α β : Type} {action : Host engine α} {next : α → Host engine β}
    (haction : holds action) (hnext : ∀ value, holds (next value)) : holds (action >>= next)
  lookInput {β : Type} (next : Nat → Host engine β) (hnext : ∀ length, holds (next length)) :
    holds (get >>= fun session => next session.input.length)
  exhausted {α : Type} : holds (throw .exhausted : Host engine α)
  write (channel : Channel) (text : String) : holds (write channel text)
  readLine : holds readLine
  readFile (path : String) : holds (readFile path)
  evaluateIn (budget : Nat) (environment : Realm) (source name : String) :
    holds (evaluateIn budget environment source name)
  stringifyIn (budget : Nat) (environment : Realm) (value : engine.Value) :
    holds (stringifyIn budget environment value)

/-- The property is one of every action of the shell, its chores included. -/
structure ShellClosed (holds : ∀ ⦃α : Type⦄, Host engine α → Prop) : Prop
    extends ReportClosed holds where
  lookInstrumented {β : Type} (next : Bool → Host engine β) (hnext : ∀ flag, holds (next flag)) :
    holds (get >>= fun session => next (session.sampler.enabled || session.profile.isSome))
  log (event : LogEvent) : holds (log event)
  nowScript : holds (now .script)
  changeFlags (change : SamplingFlags → SamplingFlags) :
    holds (modify fun session => { session with flags := change session.flags })
  changeSampler {change : Sampler → Sampler}
    (hchange : ∀ sampler, (change sampler).enabled = sampler.enabled) :
    holds (modify fun session => { session with sampler := change session.sampler })
  openWindow (script : String) : holds (openWindow script)
  closeWindow (window : Window) : holds (closeWindow window)
  createEnvironment (arguments : List String) : holds (createEnvironment arguments).run
  checkSyntaxIn (budget : Nat) (environment : Realm) (source name : String) :
    holds (checkSyntaxIn budget environment source name)

variable {holds : ∀ ⦃α : Type⦄, Host engine α → Prop} {α β : Type}

namespace Composes

variable (closed : Composes holds)

include closed

theorem run_pure (value : α) : holds (Pure.pure value : Attempt engine α).run :=
  closed.pure _

theorem run_bind {action : Attempt engine α} {next : α → Attempt engine β}
    (haction : holds action.run) (hnext : ∀ value, holds (next value).run) :
    holds (action >>= next).run := by
  rw [ExceptT.run_bind]
  refine closed.bind haction fun result => ?_
  cases result with
  | ok value => exact hnext value
  | error fault => exact closed.pure _

theorem run_lift {action : Host engine α} (haction : holds action) : holds (lift action).run := by
  show holds (Except.ok <$> action)
  rw [map_eq_pure_bind]
  exact closed.bind haction fun value => closed.pure _

theorem loadSource (path : String) (hread : holds (readFile path)) :
    holds (loadSource path : Attempt engine String).run := by
  refine closed.run_bind (closed.run_lift hread) fun content => ?_
  cases content with
  | ok content => exact closed.run_pure _
  | error error => exact closed.pure _

theorem discard_settle (given : Except engine.Fault α) :
    holds (discard (settle given)).run := by
  cases given with
  | ok value => exact closed.pure _
  | error fault => exact closed.pure _

end Composes

/-! ## Reading what was thrown -/

namespace WorkClosed

variable {answer : Answer engine} (closed : WorkClosed answer holds)

include closed

theorem stringify (value : engine.Value) : holds (stringify answer value) := by
  refine closed.bind (closed.toText value) fun result => ?_
  cases result with
  | ok text => exact closed.pure _
  | error fault =>
      exact closed.look (fun store _ _ => Pure.pure (engine.display value store))
        fun _ _ _ => closed.pure _

theorem stackText (value : engine.Value) : holds (stackText answer value) := by
  unfold Host.stackText
  split
  · refine closed.bind (closed.readStack value) fun result => ?_
    cases result with
    | ok stack =>
        show holds (if _ then _ else _)
        split
        · exact closed.pure _
        · exact closed.bind (stringify closed stack) fun _ => closed.pure _
    | error fault => exact closed.pure _
  · exact closed.pure _

theorem exceptionInfo (fault : engine.Fault) : holds (exceptionInfo answer fault) := by
  unfold Host.exceptionInfo
  split
  · exact closed.pure _
  · refine closed.bind (closed.thrownValue fault) fun value => ?_
    refine closed.bind (stringify closed value) fun message => ?_
    refine closed.bind (stackText closed value) fun stack => ?_
    cases stack with
    | none => exact closed.pure _
    | some stack => exact closed.pure _

theorem evaluated (result : Except engine.Fault engine.Value) :
    holds (evaluated answer result) := by
  cases result with
  | ok value => exact closed.pure _
  | error fault => exact closed.bind (exceptionInfo closed fault) fun _ => closed.pure _

theorem runSource (source : String) : holds (runSource answer source).run := by
  rw [runSource_eq]
  refine closed.look (fun _ _ options => runParsed answer (engine.parse options source))
    fun _ _ options => ?_
  cases engine.parse options source with
  | ok code => exact closed.runCode code
  | error fault => exact closed.pure _

theorem texts (arguments : List engine.Value) : holds (texts answer arguments).run := by
  induction arguments with
  | nil => exact closed.run_pure _
  | cons value rest ih =>
      refine closed.run_bind (closed.toText value) fun text => ?_
      exact closed.run_bind ih fun texts => closed.run_pure _

theorem changeFlagsAll
    (hflags : ∀ change : SamplingFlags → SamplingFlags, holds (modify fun session =>
      { session with flags := change session.flags }))
    (change : SamplingFlags → UInt32 → SamplingFlags) (arguments : List engine.Value) :
    holds (changeFlags answer change arguments).run := by
  induction arguments with
  | nil => exact closed.run_pure _
  | cons value rest ih =>
      refine closed.run_bind (closed.toNumber value) fun number => ?_
      cases flagOf number with
      | none => exact ih
      | some flag =>
          refine closed.run_bind (closed.run_lift ?_) fun _ => ih
          exact hflags fun flags => change flags flag

end WorkClosed

/-! ## Following the engine -/

namespace EngineClosed

/-! `answer` is any way of answering natives of which the property holds. -/

variable (closed : EngineClosed holds) {answer : Answer engine}
  (hanswer : ∀ realm native arguments, holds (answer realm native arguments).run)

include closed hanswer

/-- A behaviour is followed node by node. -/
theorem perform (behaviour : Behaviour engine.Store engine.Value engine.Fault engine.Job α) :
    holds (perform answer behaviour).run := by
  induction behaviour with
  | finish store result => exact closed.bind (closed.setStore store) fun _ => closed.pure _
  | native store realm callee arguments resume ih =>
      refine closed.bind (closed.setStore store) fun _ => ?_
      refine closed.bind (hanswer realm callee arguments) fun result => ?_
      -- the native may have left another store, with which the behaviour goes on
      exact closed.look (fun store _ _ => (Host.perform answer (resume store result)).run)
        fun store _ _ => ih store result
  | enqueue store job resume ih =>
      refine closed.bind (closed.setStore store) fun _ => ?_
      exact closed.bind (closed.queueJob job) fun _ => ih store
  | exhausted => exact closed.exhausted

theorem act (operation : Realm → engine.Store → engine.Acts α) :
    holds (act answer operation).run :=
  closed.look (fun store realm _ => (Host.perform answer (operation realm store)).run)
    fun _ _ _ => perform closed hanswer _

theorem toText (value : engine.Value) : holds (toText answer value).run :=
  act closed hanswer _

theorem work : WorkClosed answer holds where
  toComposes := closed.toComposes
  runCode _ := act closed hanswer _
  toText := toText closed hanswer
  toNumber _ := act closed hanswer _
  readStack _ := act closed hanswer _
  thrownValue := closed.thrownValue

theorem exceptionInfo (fault : engine.Fault) : holds (exceptionInfo answer fault) :=
  (work closed hanswer).exceptionInfo fault

theorem evaluated (result : Except engine.Fault engine.Value) :
    holds (evaluated answer result) :=
  (work closed hanswer).evaluated result

theorem runSource (source : String) : holds (runSource answer source).run :=
  (work closed hanswer).runSource source

end EngineClosed

theorem EngineClosed.acts (closed : EngineClosed holds) : ActClosed holds where
  work hanswer := closed.work hanswer
  runJob hanswer _ := closed.act hanswer _

namespace ServiceClosed

section

variable (closed : ServiceClosed holds)

include closed

/-! ## Natives -/

theorem preciseTime : holds (preciseTime : Attempt engine engine.Value).run := by
  refine closed.run_bind (closed.run_lift closed.timeOfDay) fun time => ?_
  cases time with
  | some time => exact closed.run_pure _
  | none => exact closed.pure _

theorem elapsedNumber (began : Nat) : holds (elapsedNumber began : Host engine engine.Value) :=
  closed.bind (closed.bind closed.nowCall fun _ => closed.pure _) fun _ => closed.pure _

variable (acts : ActClosed holds)

include acts

section Budgeted

variable {budget : Nat}
  (hanswer : ∀ realm native arguments, holds (Host.answer budget realm native arguments).run)

include hanswer

theorem evaluation (source name : String) :
    holds (Host.evaluate (Host.answer budget) budget source name) :=
  closed.evaluate budget source name ((acts.work hanswer).runSource source) (acts.runJob hanswer)
    (acts.work hanswer).evaluated

theorem syntaxCheck (source name : String) :
    holds (Host.checkSyntax (Host.answer budget) source name) :=
  closed.checkSyntax budget source name (acts.work hanswer).evaluated

theorem runFile (argument : engine.Value) :
    holds (runFile (Host.answer budget) budget argument).run := by
  refine closed.run_bind ((acts.work hanswer).toText argument) fun path => ?_
  refine closed.run_bind (closed.loadSource path (closed.readFile path)) fun source => ?_
  refine closed.run_bind (closed.createEnvironment []) fun realm => ?_
  refine closed.run_bind (closed.run_lift closed.nowCall) fun began => ?_
  refine closed.run_bind (closed.run_lift
    (closed.withRealm realm (evaluation closed acts hanswer source path))) fun outcome => ?_
  refine closed.run_bind (closed.discard_settle _) fun _ => ?_
  exact closed.run_lift (elapsedNumber closed began)

theorem loadFile (argument : engine.Value) :
    holds (loadFile (Host.answer budget) budget argument).run := by
  refine closed.run_bind ((acts.work hanswer).toText argument) fun path => ?_
  refine closed.run_bind (closed.loadSource path (closed.readFile path)) fun source => ?_
  refine closed.run_bind (closed.run_lift (evaluation closed acts hanswer source path))
    fun outcome => ?_
  exact closed.pure _

theorem checkFile (argument : engine.Value) :
    holds (checkFile (Host.answer budget) argument).run := by
  refine closed.run_bind ((acts.work hanswer).toText argument) fun path => ?_
  refine closed.run_bind (closed.loadSource path (closed.readFile path)) fun source => ?_
  refine closed.run_bind (closed.run_lift closed.nowCall) fun began => ?_
  refine closed.run_bind (closed.run_lift (syntaxCheck closed acts hanswer source path))
    fun outcome => ?_
  refine closed.run_bind (closed.discard_settle _) fun _ => ?_
  exact closed.run_lift (elapsedNumber closed began)

theorem respond {native : Native} (hnative : ¬ Unshared native) (arguments : List engine.Value) :
    holds (respond (Host.answer budget) budget native arguments).run := by
  have hstdout : Channel.stdout ≠ .report := by decide
  have hstderr : Channel.stderr ≠ .report := by decide
  cases native with
  | print =>
      refine closed.run_bind ((acts.work hanswer).texts arguments) fun line => ?_
      exact closed.run_bind (closed.run_lift (closed.print hstdout _)) fun _ => closed.run_pure _
  | debug =>
      refine closed.run_bind ((acts.work hanswer).toText _) fun text => ?_
      exact closed.run_bind (closed.run_lift (closed.print hstderr _)) fun _ => closed.run_pure _
  | describe =>
      refine closed.look (fun store _ _ => (do
        lift (write .stderr ("--> " ++ engine.display (firstArgument arguments) store ++ "\n"))
        return engine.undefined : Attempt engine engine.Value).run) fun store _ _ => ?_
      exact closed.run_bind (closed.run_lift (closed.print hstderr _)) fun _ => closed.run_pure _
  | gc | releaseExecutableMemory | version => exact closed.run_pure _
  | run => exact runFile closed acts hanswer _
  | load => exact loadFile closed acts hanswer _
  | checkSyntax => exact checkFile closed acts hanswer _
  | readline => exact closed.run_bind (closed.run_lift closed.readLine) fun _ => closed.run_pure _
  | preciseTime => exact preciseTime closed
  | setSamplingFlags => exact (acts.work hanswer).changeFlagsAll closed.changeFlags _ _
  | clearSamplingFlags => exact (acts.work hanswer).changeFlagsAll closed.changeFlags _ _
  | quit => exact absurd (.inl rfl) hnative
  | stackTrace => exact absurd (.inr (.inl rfl)) hnative
  | dumpCallFrame => exact absurd (.inr (.inr rfl)) hnative

end Budgeted

/-- The property is one of every native, at every depth at which it is called. -/
theorem answer (budget : Nat) (realm : Realm) (native : Native) (arguments : List engine.Value) :
    holds (answer budget realm native arguments).run := by
  -- on the budget, since the files that a native evaluates call natives with one less
  induction budget generalizing realm native arguments with
  | zero => exact closed.exhausted
  | succ budget ih =>
      show holds (Host.called realm native
        (Host.respond (Host.answer budget) budget native arguments).run)
      by_cases hnative : Unshared native
      · exact closed.calledUnshared budget realm hnative arguments
      · exact closed.called realm hnative (respond closed acts ih hnative arguments)

/-! ## Environments in use -/

theorem evaluateIn (budget : Nat) (environment : Realm) (source name : String) :
    holds (evaluateIn budget environment source name) :=
  closed.withRealm environment (evaluation closed acts (answer closed acts budget) source name)

theorem checkSyntaxIn (budget : Nat) (environment : Realm) (source name : String) :
    holds (checkSyntaxIn budget environment source name) :=
  closed.withRealm environment (syntaxCheck closed acts (answer closed acts budget) source name)

theorem stringifyIn (budget : Nat) (environment : Realm) (value : engine.Value) :
    holds (stringifyIn budget environment value) :=
  closed.withRealm environment ((acts.work (answer closed acts budget)).stringify value)

end

end ServiceClosed

namespace ScriptClosed

variable (closed : ScriptClosed holds)

include closed

theorem answer (budget : Nat) (realm : Realm) (native : Native) (arguments : List engine.Value) :
    holds (answer budget realm native arguments).run :=
  closed.toServiceClosed.answer closed.acts budget realm native arguments

theorem evaluateIn (budget : Nat) (environment : Realm) (source name : String) :
    holds (evaluateIn budget environment source name) :=
  closed.toServiceClosed.evaluateIn closed.acts budget environment source name

theorem checkSyntaxIn (budget : Nat) (environment : Realm) (source name : String) :
    holds (checkSyntaxIn budget environment source name) :=
  closed.toServiceClosed.checkSyntaxIn closed.acts budget environment source name

theorem stringifyIn (budget : Nat) (environment : Realm) (value : engine.Value) :
    holds (stringifyIn budget environment value) :=
  closed.toServiceClosed.stringifyIn closed.acts budget environment value

end ScriptClosed

/-! ## Jobs -/

/-- The property is one of running the waiting jobs. -/
structure JobClosed (holds : ∀ ⦃α : Type⦄, Host engine α → Prop) : Prop where
  pure {α : Type} (value : α) : holds (pure value : Host engine α)
  bind {α β : Type} {action : Host engine α} {next : α → Host engine β}
    (haction : holds action) (hnext : ∀ value, holds (next value)) : holds (action >>= next)
  lookJobs {β : Type} (next : Bool → Host engine β) (hnext : ∀ empty, holds (next empty)) :
    holds (get >>= fun session => next session.jobs.isEmpty)
  lookFrames {β : Type} (next : Nat → Host engine β) (hnext : ∀ depth, holds (next depth)) :
    holds (get >>= fun session => next session.frames.length)
  exhausted {α : Type} : holds (throw .exhausted : Host engine α)
  takeJob : holds takeJob
  started (job : Nat) : holds (note (.started job))
  settled (job : Nat) : holds (note (.settled job))
  interrupted (job : Nat) : holds (note (.interrupted job))
  dropJobs : holds (modify fun session => { session with jobs := [] })

namespace JobClosed

variable {holds : ∀ ⦃α : Type⦄, Host engine α → Prop} (closed : JobClosed holds)
  {answer : Answer engine}
  (hjob : ∀ job, holds (act answer fun realm => engine.runJob realm job).run)

include closed hjob

theorem drain (bound : Nat) : holds (drain answer bound) := by
  induction bound with
  | zero =>
      refine closed.lookJobs (fun empty => if empty then return () else throw .exhausted)
        fun empty => ?_
      cases empty with
      | true => exact closed.pure _
      | false => exact closed.exhausted
  | succ bound ih =>
      refine closed.bind closed.takeJob fun taken => ?_
      rcases taken with _ | ⟨number, job⟩
      · exact closed.pure _
      refine closed.bind (closed.started number) fun _ => closed.bind (hjob job) fun result => ?_
      cases result with
      | ok done => exact closed.bind (closed.settled number) fun _ => ih
      | error fault => exact closed.bind (closed.interrupted number) fun _ => closed.dropJobs

theorem drainOutermost (bound : Nat) : holds (drainOutermost answer bound) := by
  refine closed.lookFrames (fun depth => if depth = 1 then Host.drain answer bound else return ())
    fun depth => ?_
  split
  · exact drain closed hjob bound
  · exact closed.pure _

end JobClosed

/-! ## The shell -/

namespace ReportClosed

variable {holds : ∀ ⦃α : Type⦄, Host engine α → Prop} (closed : ReportClosed holds) {budget : Nat}
  {environment : Realm} {out : Channel} {dump : Bool}

include closed

theorem openScript (script : Script) : holds (openScript script) := by
  cases script with
  | inline code => exact closed.pure _
  | file path =>
      refine closed.bind (closed.readFile path) fun content => ?_
      cases content with
      | ok content => exact closed.pure _
      | error error => exact closed.pure _

theorem report (source name : String) :
    holds (report budget environment out dump source name) := by
  refine closed.bind (closed.evaluateIn budget environment source name) fun outcome => ?_
  cases outcome with
  | threw fault info => exact closed.bind (closed.write out _) fun _ => closed.pure _
  | completed value =>
      show holds (if dump then _ else _)
      split
      · refine closed.bind (closed.stringifyIn budget environment value) fun text => ?_
        exact closed.bind (closed.write out _) fun _ => closed.pure _
      · exact closed.pure _

theorem evaluateLine (line : String) : holds (evaluateLine budget environment out line) := by
  refine closed.bind (closed.evaluateIn budget environment line interpreterSource) fun outcome => ?_
  cases outcome with
  | threw fault info => exact closed.write out _
  | completed value =>
      refine closed.bind (closed.stringifyIn budget environment value) fun text => ?_
      exact closed.write out _

theorem shellLines (lines : Nat) : holds (shellLines budget environment out lines) := by
  induction lines with
  | zero => exact closed.exhausted
  | succ lines ih =>
      refine closed.bind (closed.write out prompt) fun _ => ?_
      refine closed.bind closed.readLine fun line => ?_
      split
      · exact closed.write out _
      · exact closed.bind (closed.evaluateLine _) fun _ => ih

theorem shell : holds (shell budget environment out) :=
  closed.lookInput (fun length => Host.shellLines budget environment out (length + 1))
    fun length => closed.shellLines (length + 1)

theorem shellOnLines (lines : Nat) (input : Bytes) :
    holds (shellOnLines budget environment out lines input) := by
  induction lines generalizing input with
  | zero => exact closed.exhausted
  | succ lines ih =>
      refine closed.bind (closed.write out prompt) fun _ => ?_
      rcases input.takeChunk with ⟨chunk, rest⟩
      show holds (if chunk.chomp = [] then _ else _)
      split
      · exact closed.bind (closed.write out _) fun _ => closed.pure _
      · exact closed.bind (closed.evaluateLine _) fun _ => ih rest

theorem shellOn (input : Bytes) : holds (shellOn budget environment out input) :=
  closed.shellOnLines _ input

end ReportClosed

namespace ShellClosed

variable {holds : ∀ ⦃α : Type⦄, Host engine α → Prop} (closed : ShellClosed holds) {budget : Nat}
  {environment : Realm} {out : Channel} {dump : Bool}

include closed

theorem elapsedMillis (wanted : Bool) (began : Nat) :
    holds (elapsedMillis wanted began : Host engine (Option Nat)) := by
  cases wanted with
  | true => exact closed.bind closed.nowScript fun _ => closed.pure _
  | false => exact closed.pure _

theorem execute (script : Script) : holds (execute budget environment out dump script) := by
  refine closed.bind (closed.openScript script) fun opened => ?_
  rcases opened with failure | ⟨name, source⟩
  · exact closed.pure _
  refine closed.bind (closed.log _) fun _ => ?_
  refine closed.lookInstrumented (fun instrumented => (do
    let began ← Host.now .script
    let window ← Host.openWindow name
    let exception ← Host.report budget environment out dump source name
    Host.closeWindow window
    let millis ← Host.elapsedMillis instrumented began
    Host.log (.finished name exception.isNone)
    return .ok ⟨exception.isNone, millis, exception⟩ : Host engine (Except Failure Execution)))
    fun instrumented => ?_
  refine closed.bind closed.nowScript fun began => ?_
  refine closed.bind (closed.openWindow name) fun window => ?_
  refine closed.bind (closed.report source name) fun exception => ?_
  refine closed.bind (closed.closeWindow window) fun _ => ?_
  refine closed.bind (closed.elapsedMillis instrumented began) fun millis => ?_
  exact closed.bind (closed.log _) fun _ => closed.pure _

theorem executeAll (scripts : List Script) :
    holds (executeAll budget environment out dump scripts) := by
  induction scripts with
  | nil => exact closed.pure _
  | cons script rest ih =>
      refine closed.bind (closed.execute script) fun result => ?_
      cases result with
      | ok execution => exact closed.bind ih fun _ => closed.pure _
      | error failure =>
          refine closed.bind (closed.log _) fun _ => ?_
          exact closed.bind (closed.write .stderr _) fun _ => closed.pure _

theorem runScripts (scripts : List Script) :
    holds (runScripts budget environment out dump scripts) := by
  refine closed.bind (closed.changeSampler fun _ => rfl) fun _ => ?_
  refine closed.bind (closed.executeAll scripts) fun success => ?_
  exact closed.bind (closed.changeSampler fun _ => rfl) fun _ => closed.pure _

end ShellClosed

end Host

end ScriptShell
