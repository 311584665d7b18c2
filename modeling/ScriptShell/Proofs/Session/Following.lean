import ScriptShell.Proofs.Session.Closure
import ScriptShell.Proofs.Session.Course

/-!
# Actions that follow a course

Every action through which script code runs follows a course: the conversions and the report of
something thrown, an evaluation with its jobs, a syntax check, and the call of any native
(`follows_closed`).

An evaluation is taken apart once, in `evaluationRun`: whoever needs to know what happens between
its phases reads it off there.
-/

namespace ScriptShell

variable {engine : Engine}

namespace Host

variable {α β : Type} {session after : Session engine}

/-- Relations between sessions, with the entries in between, that hold step after step. -/
class Chained (relation : Session engine → List Entry → Session engine → Prop) : Prop where
  stay (session : Session engine) : relation session [] session
  append {session middle after : Session engine} {first second : List Entry}
    (hfirst : relation session first middle) (hsecond : relation middle second after) :
    relation session (first ++ second) after

instance : Chained (@Course engine .script) where
  stay _ := .stay
  append := .append

/-- Wherever the action comes to its end, the relation holds of the sessions around it. -/
def Traces (relation : Session engine → List Entry → Session engine → Prop)
    (action : Host engine α) : Prop :=
  ∀ ⦃session : Session engine⦄ ⦃result : α⦄ ⦃after : Session engine⦄,
    Ends action session result after → ∃ entries, relation session entries after

/-- Wherever the action comes to its end, it followed a course of script code. -/
abbrev Follows (action : Host engine α) : Prop :=
  Traces (Course .script) action

namespace Traces

variable {relation : Session engine → List Entry → Session engine → Prop} [Chained relation]

theorem pure (value : α) : Traces relation (pure value : Host engine α) := by
  intro session result after hends
  obtain ⟨-, rfl⟩ := ends_pure.mp hends
  exact ⟨[], Chained.stay after⟩

omit [Chained relation] in
theorem throw (halt : Halt) : Traces relation (throw halt : Host engine α) := by
  intro session result after hends
  exact (ends_throw.mp hends).elim

omit [Chained relation] in
theorem get_bind {next : Session engine → Host engine β}
    (hnext : ∀ session, Traces relation (next session)) : Traces relation (get >>= next) := by
  intro session result after hends
  exact hnext session (ends_get_bind.mp hends)

theorem bind {action : Host engine α} {next : α → Host engine β}
    (haction : Traces relation action) (hnext : ∀ value, Traces relation (next value)) :
    Traces relation (action >>= next) := by
  intro session result after hends
  obtain ⟨value, middle, hfirst, hsecond⟩ := ends_bind.mp hends
  obtain ⟨first, hfirst⟩ := haction hfirst
  obtain ⟨second, hsecond⟩ := hnext value hsecond
  exact ⟨first ++ second, Chained.append hfirst hsecond⟩

end Traces

theorem Follows.withRealm {realm : Realm} {action : Host engine α} (haction : Follows action) :
    Follows (withRealm realm action) := by
  intro session result after hends
  obtain ⟨inside, hinside, rfl⟩ := ends_withRealm.mp hends
  obtain ⟨entries, hcourse⟩ := haction hinside
  exact ⟨entries, .inRealm realm hcourse⟩

theorem follows_setStore (store : engine.Store) : Follows (setStore store) := by
  intro session result after hends
  rw [ends_modify.mp hends]
  exact ⟨[], .stroke (.work store)⟩

theorem follows_queueJob (job : engine.Job) : Follows (queueJob job) := by
  intro session result after hends
  rw [ends_queueJob.mp hends]
  exact ⟨_, .stroke (.queue job)⟩

theorem follows_write {channel : Channel} (hchannel : channel ≠ .report) (text : String) :
    Follows (write channel text : Host engine Unit) := by
  intro session result after hends
  rw [ends_note.mp hends]
  exact ⟨_, .stroke (.write hchannel text)⟩

theorem follows_now (look : Look) : Follows (now look : Host engine Nat) := by
  intro session result after hends
  rw [(ends_now.mp hends).2]
  exact ⟨[], .stroke (.look look)⟩

theorem follows_timeOfDay : Follows (timeOfDay : Host engine (Option Nat)) := by
  intro session result after hends
  rw [(ends_timeOfDay.mp hends).2]
  exact ⟨[], .stroke .day⟩

theorem follows_readLine : Follows (readLine : Host engine Bytes) := by
  intro session result after hends
  rw [(ends_readLine.mp hends).2]
  exact ⟨_, .stroke .readLine⟩

theorem follows_readFile (path : String) :
    Follows (readFile path : Host engine (Except IoError Bytes)) := by
  intro session result after hends
  rw [(ends_readFile.mp hends).2]
  exact ⟨_, .stroke (.readFile path)⟩

theorem follows_thrownValue (fault : engine.Fault) : Follows (thrownValue fault) := by
  intro session result after hends
  rw [(ends_thrownValue.mp hends).2]
  exact ⟨[], .stroke (.work _)⟩

theorem follows_changeFlags (change : SamplingFlags → SamplingFlags) :
    Follows (modify fun session => { session with flags := change session.flags } :
      Host engine PUnit) := by
  intro session result after hends
  rw [ends_modify.mp hends]
  exact ⟨[], .stroke (.flag _)⟩

/-! ### Jobs -/

section Jobs

variable {answer : Answer engine}
  (hjob : ∀ job, Follows (act answer fun realm => engine.runJob realm job).run)

include hjob

/-- Jobs are run one after another, until none waits or one ends in an error. -/
theorem course_drain (bound : Nat) {session after : Session engine}
    (hframes : session.frames.length = 1) (hends : Ends (drain answer bound) session () after) :
    ∃ entries, Course .jobs session entries after := by
  induction bound generalizing session with
  | zero =>
      unfold drain at hends
      rw [ends_get_bind] at hends
      cases hjobs : session.jobs with
      | nil =>
          simp only [hjobs, List.isEmpty_nil, if_true, ends_pure] at hends
          rw [hends.2]
          exact ⟨[], .drained hframes hjobs⟩
      | cons job rest => simp [hjobs, ends_throw] at hends
  | succ bound ih =>
      unfold drain at hends
      obtain ⟨first, taken, htake, hends⟩ := ends_bind.mp hends
      obtain ⟨rfl, rfl⟩ := ends_takeJob.mp htake
      cases hjobs : session.jobs with
      | nil =>
          simp only [hjobs, List.head?_nil, ends_pure] at hends
          have hsame : { session with jobs := [] } = session := by rw [← hjobs]
          rw [hends.2, List.tail_nil, hsame]
          exact ⟨[], .drained hframes hjobs⟩
      | cons job rest =>
          obtain ⟨number, job⟩ := job
          simp only [hjobs, List.head?_cons] at hends
          rw [ends_note_bind] at hends
          obtain ⟨result, settled, hbody, hends⟩ := ends_bind.mp hends
          have hstart : session.starting number =
              Session.note { session with jobs := rest } (.started number) := by
            simp [Session.starting, Session.note, hjobs]
          rw [List.tail_cons, ← hstart] at hbody
          obtain ⟨body, hcourse⟩ := hjob job hbody
          cases result with
          | ok value =>
              rw [ends_note_bind] at hends
              have hsettled : (settled.note (.settled number)).frames.length = 1 := by
                rw [Session.note_frames, hcourse.frames_eq]
                exact hframes
              obtain ⟨more, hmore⟩ := ih hsettled hends
              exact ⟨_, .job hframes hjobs hcourse hmore⟩
          | error fault =>
              rw [ends_note_bind, ends_modify] at hends
              rw [hends]
              exact ⟨_, .interrupted hframes hjobs hcourse⟩

theorem course_drainOutermost (bound : Nat) {session after : Session engine}
    (hends : Ends (drainOutermost answer bound) session () after) :
    ∃ entries, Course .jobs session entries after := by
  unfold drainOutermost at hends
  rw [ends_get_bind] at hends
  by_cases hframes : session.frames.length = 1
  · rw [if_pos hframes] at hends
    exact course_drain hjob bound hframes hends
  · rw [if_neg hframes, ends_pure] at hends
    rw [hends.2]
    exact ⟨[], .nested hframes⟩

end Jobs

/-! ### Evaluations and syntax checks -/

/-- The phases of an evaluation that came to its end, with the sessions between them. -/
structure EvaluationRun (answer : Answer engine) (source name : String) (session : Session engine)
    (outcome : Evaluated engine) (after : Session engine) where
  /-- What parsing and running the source text gave. -/
  result : Except engine.Fault engine.Value
  /-- The session behind the run of the source text. -/
  ran : Session engine
  /-- The session behind the jobs. -/
  drained : Session engine
  /-- The session behind the report. -/
  reported : Session engine
  record : ProfileRecord
  script : List Entry
  jobs : List Entry
  report : List Entry
  source_eq : record.source = name
  kind_eq : record.kind = .evaluate
  threw_eq : record.threw = !result.isOk
  ends_script : Ends (runSource answer source).run ((session.entering name).looked .evaluation)
    result ran
  ends_report : Ends (evaluated answer result) ((drained.looked .evaluation).recording record)
    outcome reported
  course_script : Course .script ((session.entering name).looked .evaluation) script ran
  course_jobs : Course .jobs ran jobs drained
  course_report : Course .script ((drained.looked .evaluation).recording record) report reported
  after_eq : after = reported.leaving name

namespace EvaluationRun

variable {answer : Answer engine} {source name : String} {outcome : Evaluated engine}

/-- The evaluation as it stands in the journal. -/
def evaluation (run : EvaluationRun answer source name session outcome after) : Evaluation :=
  ⟨name, run.script, run.jobs, run.drained.kept run.record, run.report⟩

theorem course (run : EvaluationRun answer source name session outcome after) :
    Course .script session run.evaluation.entries after := by
  obtain ⟨result, ran, drained, reported, record, script, jobs, report, rfl, hkind, -, -, -,
    hscript, hjobs, hreport, rfl⟩ := run
  exact .evaluated hkind hscript hjobs hreport

end EvaluationRun

/-- An evaluation whose parts keep to courses, phase by phase. -/
theorem evaluationRun_of_follows {answer : Answer engine} {bound : Nat} {source name : String}
    {outcome : Evaluated engine} (hscript : Follows (runSource answer source).run)
    (hjob : ∀ job, Follows (act answer fun realm => engine.runJob realm job).run)
    (hreport : ∀ result, Follows (evaluated answer result))
    (hends : Ends (evaluate answer bound source name) session outcome after) :
    ∃ run : EvaluationRun answer source name session outcome after,
      Ends (drainOutermost answer bound) run.ran () run.drained ∧
        run.record = ⟨name, .evaluate, Duration.ofNanos
          (run.drained.clock.instant .evaluation - session.clock.instant .evaluation),
          !run.result.isOk⟩ := by
  obtain ⟨result, ran, drained, _, reported, hran, hdrained, rfl, hreported, hleave⟩ :=
    ends_evaluate.mp hends
  obtain ⟨script, hscript⟩ := hscript hran
  obtain ⟨jobs, hjobs⟩ := course_drainOutermost hjob bound hdrained
  obtain ⟨report, hreport⟩ := hreport result hreported
  have hframes : reported.frames = name :: session.frames := by
    rw [hreport.frames_eq, Session.recording_frames, Session.looked_frames, hjobs.frames_eq,
      hscript.frames_eq, Session.looked_frames, Session.entering_frames]
  exact ⟨⟨result, ran, drained, reported, _, script, jobs, report, rfl, rfl, rfl, hran, hreported,
    hscript, hjobs, hreport, (ends_leave hframes).mp hleave⟩, hdrained, rfl⟩

/-- A syntax check parses, and only its report may run script code. -/
theorem course_checkSyntax_of_follows {answer : Answer engine} {source name : String}
    {outcome : Evaluated engine} (hreport : ∀ result, Follows (evaluated answer result))
    (hends : Ends (checkSyntax answer source name) session outcome after) :
    ∃ result record report reported,
      result = (engine.parse session.options source).map (fun _ => engine.undefined) ∧
      record = ⟨name, .checkSyntax, Duration.ofNanos
        ((session.clock.looked .evaluation).instant .evaluation -
          session.clock.instant .evaluation), !result.isOk⟩ ∧
      Ends (evaluated answer result)
        ((((session.entering name).looked .evaluation).looked .evaluation).recording record)
        outcome reported ∧
      Course .script
        ((((session.entering name).looked .evaluation).looked .evaluation).recording record)
        report reported ∧
      after = reported.leaving name := by
  obtain ⟨_, _, reported, rfl, rfl, hreported, hleave⟩ := ends_checkSyntax.mp hends
  obtain ⟨report, hcourse⟩ := hreport _ hreported
  have hframes : reported.frames = name :: session.frames := hcourse.frames_eq
  exact ⟨_, _, report, reported, rfl, rfl, hreported, hcourse, (ends_leave hframes).mp hleave⟩

/-! ### Environments -/

/-- A new environment is there unless the engine refuses the realm or what is bound in it. -/
theorem createEnvironment_cases {arguments : List String} {result : Except engine.Fault Realm}
    (hends : Ends (createEnvironment arguments : Attempt engine Realm).run session result after) :
    (∃ fault, result = .error fault ∧ after = session) ∨
    ∃ store bound,
      (∃ fault, result = .error fault ∧
        after = { session.withNewRealm store with store := bound }) ∨
      result = .ok session.realms ∧
        after = Session.note { session.withNewRealm store with store := bound }
          (.logged (.environmentCreated arguments.length)) := by
  unfold createEnvironment at hends
  rw [ExceptT.run_mk, ends_get_bind] at hends
  cases hmake : engine.createRealm session.realms session.store with
  | error fault =>
      simp only [hmake, ends_pure] at hends
      exact .inl ⟨fault, hends⟩
  | ok store =>
      simp only [hmake] at hends
      obtain ⟨_, _, hset, hends⟩ := ends_bind.mp hends
      rw [ends_set.mp hset, ends_note_bind] at hends
      obtain ⟨installed, _, hinstall, hends⟩ := ends_bind.mp hends
      obtain ⟨_, hinside, rfl⟩ := ends_withRealm.mp hinstall
      rw [ends_modifyGet, Prod.mk.injEq] at hinside
      obtain ⟨-, rfl⟩ := hinside
      refine .inr ⟨store, (engine.install session.realms (Native.available session.options)
        arguments store).1, ?_⟩
      cases installed with
      | error fault =>
          obtain ⟨rfl, rfl⟩ := ends_pure.mp hends
          exact .inl ⟨fault, rfl, rfl⟩
      | ok done =>
          obtain ⟨_, _, hlog, hends⟩ := ends_bind.mp hends
          obtain ⟨rfl, rfl⟩ := ends_pure.mp hends
          rw [ends_note.mp hlog]
          exact .inr ⟨rfl, rfl⟩

/-- A new environment leaves its realm and its announcement in the journal, as far as it gets. -/
theorem course_createEnvironment {arguments : List String} {result : Except engine.Fault Realm}
    (hends : Ends (createEnvironment arguments : Attempt engine Realm).run session result after) :
    ∃ entries, Course .script session entries after ∧
      entries <+: [.realmCreated session.realms,
        .logged (.environmentCreated arguments.length)] := by
  rcases createEnvironment_cases hends with ⟨_, -, rfl⟩ | ⟨store, bound, hbound⟩
  · exact ⟨[], .stay, List.nil_prefix⟩
  have hmade : Course .script session [.realmCreated session.realms]
      (session.withNewRealm store) := .stroke (.realm store)
  have hstored := hmade.append (.stroke (.work bound))
  rcases hbound with ⟨_, -, rfl⟩ | ⟨-, rfl⟩
  · exact ⟨_, hstored, by simp⟩
  · exact ⟨_, hstored.append (.stroke (.announce _)), List.prefix_refl _⟩

theorem follows_createEnvironment (arguments : List String) :
    Follows (createEnvironment arguments : Attempt engine Realm).run := by
  intro session result after hends
  obtain ⟨entries, hcourse, -⟩ := course_createEnvironment hends
  exact ⟨entries, hcourse⟩

/-! ### Natives -/

/-- `jscStack` shows the frames that are open where it is called. -/
theorem ends_respond_stackTrace {answer : Answer engine} {bound : Nat}
    {arguments : List engine.Value} {result : Except engine.Fault engine.Value} :
    Ends (respond answer bound .stackTrace arguments).run session result after ↔
      result = .ok engine.undefined ∧
        after = session.note (.wrote .stderr (stackTrace session.frames)) := by
  unfold respond
  rw [ends_run_get_bind, ends_run_lift_bind]
  constructor
  · rintro ⟨_, _, hwrite, hpure⟩
    rw [ends_note.mp hwrite] at hpure
    exact ends_run_pure.mp hpure
  · rintro ⟨rfl, rfl⟩
    exact ⟨(), _, ends_note.mpr rfl, ends_run_pure.mpr ⟨rfl, rfl⟩⟩

/-- `dumpCallFrame` shows the innermost of the frames that are open where it is called. -/
theorem ends_respond_dumpCallFrame {answer : Answer engine} {bound : Nat}
    {arguments : List engine.Value} {result : Except engine.Fault engine.Value} :
    Ends (respond answer bound .dumpCallFrame arguments).run session result after ↔
      result = .ok engine.undefined ∧
        after = session.noteAll (Native.shows .dumpCallFrame session.frames) := by
  unfold respond
  rw [ends_run_get_bind]
  cases session.frames with
  | nil => exact ends_run_pure
  | cons frame outer =>
      show Ends (lift (write .stderr _) >>= fun _ => pure engine.undefined).run _ _ _ ↔ _
      rw [ends_run_lift_bind]
      constructor
      · rintro ⟨_, _, hwrite, hpure⟩
        rw [ends_note.mp hwrite] at hpure
        exact ends_run_pure.mp hpure
      · rintro ⟨rfl, rfl⟩
        exact ⟨(), _, ends_note.mpr rfl, ends_run_pure.mpr ⟨rfl, rfl⟩⟩

theorem ends_called {realm : Realm} {native : Native} {action : Host engine α} {result : α} :
    Ends (called realm native action) session result after ↔
      ∃ inside, Ends action
          { session.note (.called native session.frames) with realm := realm } result inside ∧
        after = { inside with realm := session.realm } := by
  unfold called
  rw [ends_get_bind, ends_note_bind, ends_withRealm]
  exact Iff.rfl

/-- What a native shows of the frames stands right behind its call, so the natives that show some
make one stroke with it. -/
theorem follows_calledUnshared (budget : Nat) (realm : Realm) {native : Native}
    (hnative : Unshared native) (arguments : List engine.Value) :
    Follows (called realm native (respond (answer budget) budget native arguments).run) := by
  intro session result after hends
  obtain ⟨inside, hrespond, rfl⟩ := ends_called.mp hends
  rcases hnative with rfl | rfl | rfl
  · exact (ends_throw.mp hrespond).elim
  · rw [(ends_respond_stackTrace.mp hrespond).2]
    exact ⟨_, .stroke (.call .stackTrace)⟩
  · rw [(ends_respond_dumpCallFrame.mp hrespond).2]
    have hcall : Course .script session _ (session.calling .dumpCallFrame) :=
      .stroke (.call .dumpCallFrame)
    exact ⟨_, by simpa [Session.calling, Session.noteAll, Session.note] using hcall⟩

theorem follows_called {action : Host engine α} (realm : Realm) {native : Native}
    (hnative : ¬ Unshared native) (haction : Follows action) :
    Follows (called realm native action) := by
  intro session result after hends
  obtain ⟨inside, hinside, rfl⟩ := ends_called.mp hends
  obtain ⟨entries, hcourse⟩ := haction hinside
  obtain ⟨-, hstack, hframe⟩ : native ≠ .quit ∧ native ≠ .stackTrace ∧ native ≠ .dumpCallFrame := by
    simpa [Unshared] using hnative
  have hcall : Course .script session _ (session.calling native) := .stroke (.call native)
  have hcalling : session.calling native = session.note (.called native session.frames) := by
    unfold Session.calling
    rw [Native.shows_eq_nil hstack hframe]
    rfl
  rw [hcalling] at hcall
  exact ⟨_, hcall.append (.inRealm realm hcourse)⟩

/-! ### Script code -/

/-- Script code keeps to courses. -/
theorem follows_closed : @ScriptClosed engine fun _ action => Follows action where
  pure := .pure
  bind := .bind
  look _ hnext := .get_bind fun session => hnext session.store session.realm session.options
  exhausted := @fun _ => Traces.throw _
  setStore := follows_setStore
  queueJob := follows_queueJob
  print := follows_write
  nowCall := follows_now .call
  timeOfDay := follows_timeOfDay
  readLine := follows_readLine
  readFile := follows_readFile
  thrownValue := follows_thrownValue
  changeFlags := follows_changeFlags
  createEnvironment := follows_createEnvironment
  withRealm _ := Follows.withRealm
  called := follows_called
  calledUnshared := follows_calledUnshared
  evaluate _ _ _ hscript hjob hreport _ _ _ hends :=
    let ⟨run, _⟩ := evaluationRun_of_follows hscript hjob hreport hends
    ⟨_, run.course⟩
  checkSyntax _ _ _ hreport _ _ _ hends := by
    obtain ⟨_, _, _, _, -, rfl, -, hcourse, rfl⟩ := course_checkSyntax_of_follows hreport hends
    exact ⟨_, @Course.checked _ _ _ ⟨_, .checkSyntax, _, _⟩ _ rfl hcourse⟩

/-- Natives are answered along courses, at every depth. -/
theorem follows_answer (budget : Nat) (realm : Realm) (native : Native)
    (arguments : List engine.Value) : Follows (answer budget realm native arguments).run :=
  follows_closed.answer budget realm native arguments

section Answered

variable {answer : Answer engine}
  (hanswer : ∀ realm native arguments, Follows (answer realm native arguments).run)

include hanswer

/-- Reading what is reported of something thrown may run script code. -/
theorem follows_exceptionInfo (fault : engine.Fault) : Follows (exceptionInfo answer fault) :=
  follows_closed.exceptionInfo hanswer fault

theorem evaluationRun {bound : Nat} {source name : String} {outcome : Evaluated engine}
    (hends : Ends (evaluate answer bound source name) session outcome after) :
    Nonempty (EvaluationRun answer source name session outcome after) :=
  let ⟨run, _⟩ := evaluationRun_of_follows (follows_closed.runSource hanswer source)
    (fun _ => follows_closed.act hanswer _) (follows_closed.evaluated hanswer) hends
  ⟨run⟩

/-- A syntax check parses, and only its report may run script code. -/
theorem course_checkSyntax {source name : String} {outcome : Evaluated engine}
    (hends : Ends (checkSyntax answer source name) session outcome after) :
    ∃ record report reported, record.source = name ∧ record.kind = .checkSyntax ∧
      Course .script
        ((((session.entering name).looked .evaluation).looked .evaluation).recording record)
        report reported ∧
      after = reported.leaving name := by
  obtain ⟨_, record, report, reported, -, rfl, -, hcourse, hafter⟩ :=
    course_checkSyntax_of_follows (follows_closed.evaluated hanswer) hends
  exact ⟨_, report, reported, rfl, rfl, hcourse, hafter⟩

end Answered

/-! ### Environments in use -/

theorem follows_evaluateIn (budget : Nat) (environment : Realm) (source name : String) :
    Follows (evaluateIn budget environment source name : Host engine (Evaluated engine)) :=
  follows_closed.evaluateIn budget environment source name

theorem follows_checkSyntaxIn (budget : Nat) (environment : Realm) (source name : String) :
    Follows (checkSyntaxIn budget environment source name : Host engine (Evaluated engine)) :=
  follows_closed.checkSyntaxIn budget environment source name

theorem follows_stringifyIn (budget : Nat) (environment : Realm) (value : engine.Value) :
    Follows (stringifyIn budget environment value) :=
  follows_closed.stringifyIn budget environment value

end Host

end ScriptShell
