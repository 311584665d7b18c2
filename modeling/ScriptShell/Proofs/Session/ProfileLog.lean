import ScriptShell.Language.Interpreter
import ScriptShell.Proofs.Session.Execution
import ScriptShell.Proofs.Session.Halting
import ScriptShell.Proofs.Session.Loading
import ScriptShell.Proofs.Session.Reachable
import ScriptShell.Proofs.Session.Visits

/-!
# The profile is a log of visits

Whatever the shell does, the profile gains one record for each evaluation and each syntax check
that took place on the way and no other, in the order in which the engine was done with them. The
natives `load`, `run` and `checkSyntax`, the driver and the shell make one visit for each source
text that they get hold of, and none where they do not.

## Main results

* `Host.visiting_closed` and `Host.visiting_shell`: every action comes with its visits.
* `profile_log`: what that means for the profile and the journal.
-/

namespace ScriptShell

variable {engine : Engine}

namespace Host

variable {α : Type} {session after : Session engine}

/-- Wherever the action comes to its end, visits took place between the two sessions. -/
def Visiting (action : Host engine α) : Prop :=
  ∀ ⦃session : Session engine⦄ ⦃result : α⦄ ⦃after : Session engine⦄,
    Ends action session result after → ∃ visits : Visits engine, visits.Between session after

namespace Visiting

theorem of_quiet {action : Host engine α}
    (hquiet : ∀ ⦃session : Session engine⦄ ⦃result : α⦄ ⦃after : Session engine⦄,
      Ends action session result after → Quiet session after) : Visiting action :=
  fun _ _ _ hends => ⟨.none, hquiet hends⟩

theorem pure (value : α) : Visiting (pure value : Host engine α) := by
  refine .of_quiet fun session result after hends => ?_
  rw [(ends_pure.mp hends).2]
  exact .refl session

theorem bind {β : Type} {action : Host engine α} {next : α → Host engine β}
    (haction : Visiting action) (hnext : ∀ value, Visiting (next value)) :
    Visiting (action >>= next) := by
  intro session result after hends
  obtain ⟨value, middle, hfirst, hsecond⟩ := ends_bind.mp hends
  obtain ⟨visits, hvisits⟩ := haction hfirst
  obtain ⟨others, hothers⟩ := hnext value hsecond
  exact ⟨visits.append others, hvisits.append hothers⟩

theorem get_bind {β : Type} {next : Session engine → Host engine β}
    (hnext : ∀ session, Visiting (next session)) : Visiting (get >>= next) :=
  fun _ _ _ hends => hnext _ (ends_get_bind.mp hends)

theorem exhausted : Visiting (throw .exhausted : Host engine α) :=
  fun _ _ _ hends => (ends_throw.mp hends).elim

theorem note {entry : Entry} (hentry : entry.marks = false) :
    Visiting (note entry : Host engine Unit) := by
  refine .of_quiet fun session result after hends => ?_
  rw [ends_note.mp hends]
  exact .note hentry

theorem modify {change : Session engine → Session engine}
    (hprofile : ∀ session, (change session).profile = session.profile)
    (hhistory : ∀ session, (change session).history = session.history) :
    Visiting (modify change : Host engine PUnit) := by
  refine .of_quiet fun session result after hends => ?_
  rw [ends_modify.mp hends]
  exact .of_eq (hprofile session) (hhistory session)

theorem now (look : Look) : Visiting (now look : Host engine Nat) := by
  refine .of_quiet fun session result after hends => ?_
  rw [(ends_now.mp hends).2]
  exact .of_eq rfl rfl

theorem timeOfDay : Visiting (timeOfDay : Host engine (Option Nat)) := by
  refine .of_quiet fun session result after hends => ?_
  rw [(ends_timeOfDay.mp hends).2]
  exact .of_eq rfl rfl

theorem withRealm {action : Host engine α} (realm : Realm) (haction : Visiting action) :
    Visiting (withRealm realm action) := by
  intro session result after hends
  obtain ⟨inside, hinside, rfl⟩ := ends_withRealm.mp hends
  obtain ⟨visits, hvisits⟩ := haction hinside
  exact ⟨visits, hvisits.inRealm⟩

end Visiting

/-! ## Script code -/

theorem quiet_createEnvironment {arguments : List String} {result : Except engine.Fault Realm}
    (hends : Ends (createEnvironment arguments : Attempt engine Realm).run session result after) :
    Quiet session after := by
  rcases createEnvironment_cases hends with ⟨_, -, rfl⟩ | ⟨store, bound, ⟨_, -, rfl⟩ | ⟨-, rfl⟩⟩
  · exact .refl _
  · exact ⟨rfl, [.realmCreated session.realms], rfl, by simp [Entry.marks]⟩
  · exact ⟨rfl, [.realmCreated session.realms, .logged (.environmentCreated arguments.length)],
      rfl, by simp [Entry.marks]⟩

theorem visiting_queueJob (job : engine.Job) : Visiting (queueJob job) := by
  refine .of_quiet fun session result after hends => ?_
  rw [ends_queueJob.mp hends]
  exact ⟨rfl, [.queued session.jobCount], rfl, by simp [Entry.marks]⟩

theorem visiting_readLine : Visiting (readLine : Host engine Bytes) := by
  refine .of_quiet fun session result after hends => ?_
  rw [(ends_readLine.mp hends).2]
  exact ⟨rfl, [.lineRead session.input.takeChunk.1], rfl, by simp [Entry.marks]⟩

theorem visiting_readFile (path : String) :
    Visiting (readFile path : Host engine (Except IoError Bytes)) := by
  refine .of_quiet fun session result after hends => ?_
  rw [(ends_readFile.mp hends).2]
  exact .note rfl

theorem visiting_thrownValue (fault : engine.Fault) : Visiting (thrownValue fault) := by
  refine .of_quiet fun session result after hends => ?_
  rw [(ends_thrownValue.mp hends).2]
  exact .of_eq rfl rfl

theorem visiting_called {action : Host engine α} (realm : Realm) (native : Native)
    (haction : Visiting action) : Visiting (called realm native action) :=
  .get_bind fun _ => .bind (.note rfl) fun _ => haction.withRealm realm

/-- The natives that have clauses of their own make no visit. -/
theorem visiting_respondUnshared {answer : Answer engine} {bound : Nat} {native : Native}
    (hnative : Unshared native) (arguments : List engine.Value) :
    Visiting (respond answer bound native arguments).run := by
  refine .of_quiet fun session result after hends => ?_
  rcases hnative with rfl | rfl | rfl
  · exact (ends_throw.mp hends).elim
  · rw [(ends_respond_stackTrace.mp hends).2]
    exact .note rfl
  · rw [(ends_respond_dumpCallFrame.mp hends).2]
    cases session.frames with
    | nil => exact .refl session
    | cons frame outer => exact .note rfl

/-- The jobs at the end of an evaluation. -/
theorem visiting_jobs : @JobClosed engine fun _ action => Visiting action where
  pure := .pure
  bind := .bind
  lookJobs _ hnext := .get_bind fun _ => hnext _
  lookFrames _ hnext := .get_bind fun _ => hnext _
  exhausted := @fun _ => .exhausted
  takeJob := .of_quiet fun _ _ _ hends => by
    rw [(ends_takeJob.mp hends).2]
    exact .of_eq rfl rfl
  started _ := .note rfl
  settled _ := .note rfl
  interrupted _ := .note rfl
  dropJobs := .modify (fun _ => rfl) fun _ => rfl

/-- What is reported of an outcome leaves it as it was. -/
theorem toExcept_of_ends_evaluated {answer : Answer engine}
    {result : Except engine.Fault engine.Value} {outcome : Evaluated engine}
    (hends : Ends (evaluated answer result) session outcome after) :
    outcome.toExcept = result := by
  cases result with
  | ok value =>
      rw [(ends_pure.mp hends).1]
      rfl
  | error fault =>
      obtain ⟨info, _, -, hends⟩ := ends_bind.mp hends
      rw [(ends_pure.mp hends).1]
      rfl

/-- An evaluation is one visit. -/
theorem visits_evaluate {budget : Nat} {source name : String} {outcome : Evaluated engine}
    (hscript : Visiting (runSource (answer budget) source : Attempt engine _).run)
    (hjob : ∀ job, Visiting (act (answer budget) fun realm => engine.runJob realm job).run)
    (hreport : ∀ result : Except engine.Fault engine.Value,
      Visiting (evaluated (answer budget) result))
    (hends : Ends (evaluate (answer budget) budget source name) session outcome after) :
    ∃ visits : Visits engine, visits.Single name .evaluate source outcome.toExcept ∧
      visits.Between session after := by
  obtain ⟨run, hdrained, hrecord⟩ := evaluationRun_of_follows
    (follows_closed.runSource (follows_answer budget) source)
    (fun _ => follows_closed.act (follows_answer budget) _)
    (follows_closed.evaluated (follows_answer budget)) hends
  have hreported := run.ends_report
  rw [hrecord] at hreported
  obtain ⟨script, hscript⟩ := hscript run.ends_script
  obtain ⟨jobs, hjobs⟩ := visiting_jobs.drainOutermost hjob budget hdrained
  obtain ⟨report, hreport⟩ := hreport run.result hreported
  -- reading what was thrown does not change that it was thrown
  have hresult := (toExcept_of_ends_evaluated run.ends_report).symm
  refine ⟨.visit ⟨name, .evaluate, source, run.result, session, run.ran, run.drained,
    run.reported⟩ script jobs report .none, ⟨_, _, _, _, rfl, rfl, rfl, rfl, hresult⟩, .refl _,
    ⟨budget, outcome, ⟨run.ends_script, hdrained⟩, hreported⟩, hscript, hjobs, hreport, ?_⟩
  exact .of_eq (congrArg Session.profile run.after_eq) (congrArg Session.history run.after_eq)

/-- A syntax check is one visit. -/
theorem visits_checkSyntax {budget : Nat} {source name : String} {outcome : Evaluated engine}
    (hreport : ∀ result : Except engine.Fault engine.Value,
      Visiting (evaluated (answer budget) result))
    (hends : Ends (checkSyntax (answer budget) source name) session outcome after) :
    ∃ visits : Visits engine, visits.Single name .checkSyntax source outcome.toExcept ∧
      visits.Between session after := by
  obtain ⟨result, _, _, reported, hparsed, rfl, hreported, -, rfl⟩ :=
    course_checkSyntax_of_follows (follows_closed.evaluated (follows_answer budget)) hends
  obtain ⟨report, hreport⟩ := hreport result hreported
  have hresult := (toExcept_of_ends_evaluated hreported).symm
  exact ⟨.visit ⟨name, .checkSyntax, source, result, session,
    (session.entering name).looked .evaluation, (session.entering name).looked .evaluation,
    reported⟩ .none .none report .none,
    ⟨_, _, _, _, rfl, rfl, rfl, rfl, hresult⟩, .refl _,
    ⟨budget, outcome, ⟨hparsed, rfl, rfl⟩, hreported⟩, .refl _, .refl _, hreport, .refl _⟩

/-- Script code makes visits and leaves the profile alone otherwise. -/
theorem visiting_closed : @ScriptClosed engine fun _ action => Visiting action where
  pure := .pure
  bind := .bind
  look _ hnext := .get_bind fun _ => hnext _ _ _
  exhausted := @fun _ => .exhausted
  setStore _ := .modify (fun _ => rfl) fun _ => rfl
  queueJob := visiting_queueJob
  print _ _ := .note rfl
  nowCall := .now .call
  timeOfDay := .timeOfDay
  readLine := visiting_readLine
  readFile := visiting_readFile
  thrownValue := visiting_thrownValue
  changeFlags _ := .modify (fun _ => rfl) fun _ => rfl
  createEnvironment _ := .of_quiet fun _ _ _ => quiet_createEnvironment
  withRealm := Visiting.withRealm
  called realm native _ := visiting_called realm native
  calledUnshared _ realm native hnative arguments :=
    visiting_called realm native (visiting_respondUnshared hnative arguments)
  evaluate _ _ _ hscript hjob hreport _ _ _ hends :=
    let ⟨visits, _, hvisits⟩ := visits_evaluate hscript hjob hreport hends
    ⟨visits, hvisits⟩
  checkSyntax _ _ _ hreport _ _ _ hends :=
    let ⟨visits, _, hvisits⟩ := visits_checkSyntax hreport hends
    ⟨visits, hvisits⟩

/-! ## The shell -/

theorem visiting_openWindow (script : String) :
    Visiting (openWindow script : Host engine Window) := by
  refine .of_quiet fun session result after hends => ?_
  rw [(ends_openWindow.mp hends).2]
  exact .of_eq rfl rfl

theorem visiting_closeWindow (window : Window) :
    Visiting (closeWindow window : Host engine Unit) := by
  refine .of_quiet fun session result after hends => ?_
  rw [ends_closeWindow.mp hends]
  exact .of_eq rfl rfl

/-- The shell around script code leaves the profile alone. -/
theorem visiting_shell : @ShellClosed engine fun _ action => Visiting action where
  pure := .pure
  bind := .bind
  lookInstrumented _ hnext := .get_bind fun _ => hnext _
  lookInput _ hnext := .get_bind fun _ => hnext _
  exhausted := @fun _ => .exhausted
  write _ _ := .note rfl
  log _ := .note rfl
  nowScript := .now .script
  readLine := visiting_readLine
  readFile := visiting_readFile
  changeFlags := visiting_closed.changeFlags
  changeSampler _ := .modify (fun _ => rfl) fun _ => rfl
  openWindow := visiting_openWindow
  closeWindow := visiting_closeWindow
  createEnvironment := visiting_closed.createEnvironment
  evaluateIn := visiting_closed.evaluateIn
  checkSyntaxIn := visiting_closed.checkSyntaxIn
  stringifyIn := visiting_closed.stringifyIn

theorem visiting_saveProfile (path : String) :
    Visiting (Program.saveProfile path : Host engine (Except Failure Unit)) := by
  refine .of_quiet fun session result after hends => ?_
  have hsaved := ends_saveProfile.mp hends
  split at hsaved
  · rw [hsaved.2]
    exact .refl session
  · split at hsaved <;> rw [hsaved.2]
    · exact ⟨rfl, [.fileWritten path none], rfl, by simp [Entry.marks]⟩
    · exact .note rfl

theorem visiting_operation (budget : Nat) (operation : Operation engine) :
    Visiting (operation.run budget) :=
  operation.holds visiting_shell budget (fun _ _ => .modify (fun _ => rfl) fun _ => rfl)
    fun path _ => visiting_saveProfile path

/-! ## Single visits -/

section Budgeted

variable {budget : Nat} {source name : String} {outcome : Evaluated engine}

theorem single_evaluate
    (hends : Ends (evaluate (answer budget) budget source name) session outcome after) :
    ∃ visits : Visits engine, visits.Single name .evaluate source outcome.toExcept ∧
      visits.Between session after := by
  have hanswer := (@visiting_closed engine).answer budget
  exact visits_evaluate (visiting_closed.runSource hanswer source)
    (fun _ => visiting_closed.act hanswer _) (visiting_closed.evaluated hanswer) hends

theorem single_checkSyntax
    (hends : Ends (checkSyntax (answer budget) source name) session outcome after) :
    ∃ visits : Visits engine, visits.Single name .checkSyntax source outcome.toExcept ∧
      visits.Between session after :=
  visits_checkSyntax (visiting_closed.evaluated (visiting_closed.answer budget)) hends

theorem single_evaluateIn {environment : Realm}
    (hends : Ends (evaluateIn budget environment source name) session outcome after) :
    ∃ visits : Visits engine, visits.Single name .evaluate source outcome.toExcept ∧
      visits.Between session after := by
  obtain ⟨inside, hinside, rfl⟩ := ends_withRealm.mp hends
  obtain ⟨visits, hsingle, hvisits⟩ := single_evaluate hinside
  exact ⟨visits, hsingle, hvisits.inRealm⟩

theorem single_checkSyntaxIn {environment : Realm}
    (hends : Ends (checkSyntaxIn budget environment source name) session outcome after) :
    ∃ visits : Visits engine, visits.Single name .checkSyntax source outcome.toExcept ∧
      visits.Between session after := by
  obtain ⟨inside, hinside, rfl⟩ := ends_withRealm.mp hends
  obtain ⟨visits, hsingle, hvisits⟩ := single_checkSyntax hinside
  exact ⟨visits, hsingle, hvisits.inRealm⟩

end Budgeted

end Host

/-! ### Natives -/

/-- The kind of visit that a native makes of a file. -/
def Native.visitKind? : Native → Option EvaluationKind
  | .run | .load => some .evaluate
  | .checkSyntax => some .checkSyntax
  | _ => none

/-- What a native makes of a file, by the result of converting its argument and the session behind
the conversion: a single visit, or none where the conversion threw, the file cannot be read or, for
`run`, no environment can be made. -/
inductive FileVisit (native : Native) (kind : EvaluationKind) :
    Except engine.Fault String → Session engine → Visits engine → Prop
  | unconverted {fault : engine.Fault} {converted : Session engine} :
      FileVisit native kind (.error fault) converted .none
  | unreadable {path : String} {error : IoError} {converted : Session engine}
      (hread : converted.files.read path = .error error) :
      FileVisit native kind (.ok path) converted .none
  | displaced {path : String} {content : Bytes} {fault : engine.Fault}
      {converted refused : Session engine} (hnative : native = .run)
      (hread : converted.files.read path = .ok content)
      (hplace : Host.Ends (Host.createEnvironment []).run (converted.note (.fileRead path true))
        (.error fault) refused) :
      FileVisit native kind (.ok path) converted .none
  | visited {path : String} {content : Bytes} {converted : Session engine}
      {result : Except engine.Fault engine.Value} {visits : Visits engine}
      (hread : converted.files.read path = .ok content)
      (hplace : native = .run → ∃ realm made, Host.Ends (Host.createEnvironment []).run
        (converted.note (.fileRead path true)) (.ok realm) made)
      (hvisits : visits.Single path kind (SourceBuffer.ofFile content).text result) :
      FileVisit native kind (.ok path) converted visits

namespace Host

variable {session after : Session engine}

theorem quiet_timed {began : Nat} {outcome : Evaluated engine}
    {result : Except engine.Fault engine.Value}
    (hends : Ends (timed began outcome).run session result after) : Quiet session after := by
  have htimed := ends_timed.mp hends
  split at htimed
  · rw [htimed.2]
    exact .of_eq rfl rfl
  · rw [htimed.2]
    exact .refl session

private theorem fileVisit_withSource {budget : Nat} {native : Native} {kind : EvaluationKind}
    {argument : engine.Value} {next : String → String → Attempt engine engine.Value}
    {result : Except engine.Fault engine.Value}
    (hnext : ∀ {path : String} {content : Bytes} {converted last : Session engine}
      {result : Except engine.Fault engine.Value},
      converted.files.read path = .ok content →
      Ends (next path (SourceBuffer.ofFile content).text).run
        (converted.note (.fileRead path true)) result last →
      ∃ visits, FileVisit native kind (.ok path) converted visits ∧
        visits.Between (converted.note (.fileRead path true)) last)
    (hends : Ends (withSource (answer budget) argument next).run session result after) :
    ∃ text converted conversion visits,
      Ends (toText (answer budget) argument).run session text converted ∧
      FileVisit native kind text converted visits ∧
      Visits.Between conversion session converted ∧ Visits.Between visits converted after := by
  have hconversion := (@visiting_closed engine).toText (visiting_closed.answer budget) argument
  rcases ends_withSource.mp hends with ⟨fault, htext, rfl⟩ | ⟨path, converted, htext, hread⟩
  · obtain ⟨conversion, hbetween⟩ := hconversion htext
    exact ⟨_, after, conversion, .none, htext, .unconverted, hbetween, .refl after⟩
  obtain ⟨conversion, hbetween⟩ := hconversion htext
  have hfileRead : ∀ found, Quiet converted (converted.note (.fileRead path found)) :=
    fun _ => .note rfl
  rcases hread with ⟨error, hread, rfl, rfl⟩ | ⟨content, hread, hlast⟩
  · exact ⟨_, _, conversion, .none, htext, .unreadable hread, hbetween, hfileRead false⟩
  · obtain ⟨visits, hvisit, hvisits⟩ := hnext hread hlast
    exact ⟨_, _, conversion, visits, htext, hvisit, hbetween, hvisits.quiet_left (hfileRead true)⟩

/-- A native that is given a file makes the visits of the conversion of its argument and then at
most one of its own. -/
theorem fileVisit {budget : Nat} {realm : Realm} {native : Native} {kind : EvaluationKind}
    {arguments : List engine.Value} {result : Except engine.Fault engine.Value}
    (hkind : native.visitKind? = some kind)
    (hends : Ends (answer (budget + 1) realm native arguments).run session result after) :
    ∃ text converted conversion visits,
      Ends (toText (answer budget) (firstArgument arguments)).run
        { session.note (.called native session.frames) with realm := realm } text converted ∧
      FileVisit native kind text converted visits ∧
      Visits.Between conversion session converted ∧ Visits.Between visits converted after := by
  obtain ⟨inside, hinside, rfl⟩ := ends_called.mp hends
  -- each of the three natives is `withSource` with what it does with the text of the file
  have hwithin : ∃ text converted conversion visits,
      Ends (toText (answer budget) (firstArgument arguments)).run
        { session.note (.called native session.frames) with realm := realm } text converted ∧
      FileVisit native kind text converted visits ∧
      Visits.Between conversion { session.note (.called native session.frames) with realm := realm }
        converted ∧ Visits.Between visits converted inside := by
    cases native with
    | load =>
        obtain rfl := Option.some.inj hkind
        refine fileVisit_withSource (fun hread hlast => ?_) hinside
        obtain ⟨outcome, hevaluate, -⟩ := ends_evaluateLoaded.mp hlast
        obtain ⟨visits, hsingle, hvisits⟩ := single_evaluate hevaluate
        exact ⟨visits, .visited hread (fun h => by cases h) hsingle, hvisits⟩
    | run =>
        obtain rfl := Option.some.inj hkind
        refine fileVisit_withSource (fun hread hlast => ?_) hinside
        rcases ends_evaluateApart.mp hlast with ⟨fault, hplace, -⟩ |
          ⟨place, made, outcome, evaluated, hplace, hevaluate, htimed⟩
        · exact ⟨.none, .displaced rfl hread hplace, quiet_createEnvironment hplace⟩
        · obtain ⟨visits, hsingle, hvisits⟩ := single_evaluateIn hevaluate
          exact ⟨visits, .visited hread (fun _ => ⟨place, made, hplace⟩) hsingle,
            (hvisits.quiet_left
              ((quiet_createEnvironment hplace).trans (.looked made .call))).quiet_right
              (quiet_timed htimed)⟩
    | checkSyntax =>
        obtain rfl := Option.some.inj hkind
        refine fileVisit_withSource (fun hread hlast => ?_) hinside
        obtain ⟨outcome, checked, hcheck, htimed⟩ := ends_checkLoaded.mp hlast
        obtain ⟨visits, hsingle, hvisits⟩ := single_checkSyntax hcheck
        exact ⟨visits, .visited hread (fun h => by cases h) hsingle,
          (hvisits.quiet_left (.looked _ .call)).quiet_right (quiet_timed htimed)⟩
    | _ => cases hkind
  obtain ⟨text, converted, conversion, visits, htext, hvisit, hbetween, hvisits⟩ := hwithin
  have hcalled : Quiet session
      { session.note (.called native session.frames) with realm := realm } :=
    ⟨rfl, [.called native session.frames], rfl, by simp [Entry.marks]⟩
  have hback : Quiet inside { inside with realm := session.realm } := .of_eq rfl rfl
  exact ⟨text, converted, conversion, visits, htext, hvisit, hbetween.quiet_left hcalled,
    hvisits.quiet_right hback⟩

end Host

/-! ### The driver and the shell -/

/-- There is one evaluation, as said, and then whatever started while its value was turned into
text. -/
def Visits.Headed (name source : String) (visits : Visits engine) : Prop :=
  ∃ (own rendering : Visits engine) (result : Except engine.Fault engine.Value),
    visits = own.append rendering ∧ own.Single name .evaluate source result

namespace Host

variable {budget : Nat} {environment : Realm} {out : Channel} {session after : Session engine}

private theorem quiet_of_tended {entries : List Entry} (h : Tended session entries after)
    (hentries : ∀ entry ∈ entries, entry.marks = false) : Quiet session after :=
  ⟨h.profile_eq, entries, by rw [h.after_eq], hentries⟩

private theorem visits_reports {dump : Bool} {outcome : Evaluated engine} {text : Option String}
    {entries : List Entry}
    (h : Reports budget environment dump outcome session text entries after) :
    ∃ visits : Visits engine, visits.Between session after := by
  cases h with
  | threw => exact ⟨.none, .refl session⟩
  | silent hdump => exact ⟨.none, .refl session⟩
  | dumped hdump hstringify _ =>
      exact visiting_closed.stringifyIn budget environment _ hstringify

/-- The driver evaluates each script that it can read. -/
theorem visits_execute {dump : Bool} {script : Script} {result : Except Failure Execution}
    (hends : Ends (execute budget environment out dump script) session result after) :
    ∃ visits : Visits engine, visits.Between session after ∧
      match script.opened session.files with
      | .error _ => visits = .none
      | .ok (name, source) => visits.Headed name source := by
  have hreads : ∀ entry ∈ script.reads session.files, entry.marks = false := by
    cases script <;> simp [Script.reads, Entry.marks]
  rcases scriptRun hends with ⟨failure, hopened, -, rfl⟩ | ⟨run, rfl, -, hrun⟩
  · rw [hopened]
    exact ⟨.none, .noteAll hreads, rfl⟩
  rw [hrun.opened]
  obtain ⟨own, hsingle, hown⟩ := single_evaluateIn hrun.evaluates
  obtain ⟨rendering, hrendering⟩ := visits_reports hrun.reports
  refine ⟨own.append rendering, ?_, own, rendering, _, rfl, hsingle⟩
  have hbegins := quiet_of_tended hrun.begins
    (List.forall_mem_append.mpr ⟨hreads, List.forall_mem_singleton.mpr rfl⟩)
  have hfinishes := quiet_of_tended hrun.finishes (by cases run.text <;> simp [Entry.marks])
  exact ((hown.append hrendering).quiet_left hbegins).quiet_right hfinishes

/-- The shell evaluates each line. -/
theorem visits_evaluateLine {line : String}
    (hends : Ends (evaluateLine budget environment out line) session () after) :
    ∃ visits : Visits engine, visits.Between session after ∧
      visits.Headed interpreterSource line := by
  obtain ⟨outcome, evaluated, hevaluate, hends⟩ := ends_bind.mp hends
  obtain ⟨own, hsingle, hown⟩ := single_evaluateIn hevaluate
  have hrendering : ∃ rendering : Visits engine, rendering.Between evaluated after := by
    cases outcome with
    | threw fault info =>
        rw [ends_note.mp hends]
        exact ⟨.none, .note rfl⟩
    | completed value =>
        exact (visiting_shell.bind (visiting_shell.stringifyIn budget environment value)
          fun text => visiting_shell.write out _) hends
  obtain ⟨rendering, hrendering⟩ := hrendering
  exact ⟨own.append rendering, hown.append hrendering, own, rendering, _, rfl, hsingle⟩

/-! ## Profiling off -/

/-- Where profiling is off nothing turns it on and nothing is recorded, whether the operation comes
to its end or is cut off. -/
theorem unprofiled_operation (budget : Nat) (operation : Operation engine)
    (hoff : session.profile = none) :
    ((operation.run budget).outcome session).2.profile = none ∧
      ∃ entries, ((operation.run budget).outcome session).2.journal = session.journal ++ entries ∧
        ∀ entry ∈ entries, entry.profiles = false := by
  have hkept : Keeps (operation.run budget) →
      ((operation.run budget).outcome session).2.profile = none ∧
        ∃ entries, ((operation.run budget).outcome session).2.journal =
          session.journal ++ entries ∧ ∀ entry ∈ entries, entry.profiles = false := by
    intro hkeeps
    obtain ⟨entries, hstays, -⟩ := hkeeps session
    exact ⟨hstays.profile_eq_none hoff, entries, hstays.journal_eq, hstays.unprofiled hoff⟩
  cases operation with
  -- two operations are not as `Host.Keeps` has it: one may enable the sampler, one may write a file
  | changeSampler change => exact ⟨hoff, [], (List.append_nil _).symm, List.forall_mem_nil _⟩
  | saveProfile path =>
      have hsaved : Ends (Program.saveProfile path) session (.ok ()) session :=
        ends_saveProfile.mpr (by simp [hoff])
      have hends : Ends ((Operation.saveProfile path).run budget) session () session :=
        ends_bind.mpr ⟨_, _, hsaved, ends_pure.mpr ⟨rfl, rfl⟩⟩
      rw [show ((Operation.saveProfile path).run budget).outcome session = _ from hends]
      exact ⟨hoff, [], (List.append_nil _).symm, List.forall_mem_nil _⟩
  | _ => exact hkept (Operation.holds keeps_shell budget _ (fun _ h => by cases h)
      fun _ h => by cases h)

end Host

open Host in
/-- The profile gains one record for each evaluation and each syntax check between two sessions, as
`Visits.Account` says, and nothing else. An evaluation and a syntax check of the user are a visit
each; so are the file that a native is given, the script of the driver and the line of the shell,
unless there is nothing to evaluate or check. Where profiling is off there are no records at all.

In a record stands whether the engine's own work failed (`Visit.record`). Records stand in the order
of `Visits.records`: behind those of the visits nested in script and jobs and before those of the
visits that the report of the exception starts. -/
theorem profile_log (engine : Engine) (budget : Nat) :
    (∀ (operation : Operation engine) session after,
      Ends (operation.run budget) session () after →
        ∃ visits : Visits engine, visits.Account session after) ∧
    (∀ environment source name session (outcome : Evaluated engine) after,
      Ends (evaluateIn budget environment source name) session outcome after →
        ∃ visits : Visits engine, visits.Account session after ∧
          visits.Single name .evaluate source outcome.toExcept) ∧
    (∀ environment source name session (outcome : Evaluated engine) after,
      Ends (checkSyntaxIn budget environment source name) session outcome after →
        ∃ visits : Visits engine, visits.Account session after ∧
          visits.Single name .checkSyntax source outcome.toExcept) ∧
    (∀ realm native (arguments : List engine.Value) session result after,
      Ends (answer budget realm native arguments).run session result after →
        ∃ visits : Visits engine, visits.Account session after) ∧
    (∀ realm native kind (arguments : List engine.Value) session result after,
      native.visitKind? = some kind →
      Ends (answer (budget + 1) realm native arguments).run session result after →
        ∃ text converted conversion visits,
          Ends (toText (answer budget) (firstArgument arguments)).run
            { session.note (.called native session.frames) with realm := realm } text converted ∧
          FileVisit native kind text converted visits ∧
          Visits.Account conversion session converted ∧ Visits.Account visits converted after) ∧
    (∀ environment out dump script (session : Session engine) result after,
      Ends (execute budget environment out dump script) session result after →
        ∃ visits : Visits engine, visits.Account session after ∧
          match script.opened session.files with
          | .error _ => visits = .none
          | .ok (name, source) => visits.Headed name source) ∧
    (∀ environment out line (session : Session engine) after,
      Ends (evaluateLine budget environment out line) session () after →
        ∃ visits : Visits engine, visits.Account session after ∧
          visits.Headed interpreterSource line) ∧
    ∀ (operation : Operation engine) session, session.profile = none →
      ((operation.run budget).outcome session).2.profile = none ∧
        ∃ entries, ((operation.run budget).outcome session).2.journal =
            session.journal ++ entries ∧
          ∀ entry ∈ entries, entry.profiles = false := by
  refine ⟨fun operation session after hends => ?_, fun environment source name session outcome after
    hends => ?_, fun environment source name session outcome after hends => ?_,
    fun realm native arguments session result after hends => ?_,
    fun realm native kind arguments session result after hkind hends => ?_,
    fun environment out dump script session result after hends => ?_,
    fun environment out line session after hends => ?_, fun operation session hoff =>
    unprofiled_operation budget operation hoff⟩
  · obtain ⟨visits, hvisits⟩ := visiting_operation budget operation hends
    exact ⟨visits, hvisits.account⟩
  · obtain ⟨visits, hsingle, hvisits⟩ := single_evaluateIn hends
    exact ⟨visits, hvisits.account, hsingle⟩
  · obtain ⟨visits, hsingle, hvisits⟩ := single_checkSyntaxIn hends
    exact ⟨visits, hvisits.account, hsingle⟩
  · obtain ⟨visits, hvisits⟩ := visiting_closed.answer budget realm native arguments hends
    exact ⟨visits, hvisits.account⟩
  · obtain ⟨text, converted, conversion, visits, htext, hvisit, hconversion, hvisits⟩ :=
      fileVisit hkind hends
    exact ⟨text, converted, conversion, visits, htext, hvisit, hconversion.account,
      hvisits.account⟩
  · obtain ⟨visits, hvisits, hscript⟩ := visits_execute hends
    exact ⟨visits, hvisits.account, hscript⟩
  · obtain ⟨visits, hvisits, hline⟩ := visits_evaluateLine hends
    exact ⟨visits, hvisits.account, hline⟩

/-- A session with profiling on, a file that adds two numbers and an environment. -/
def profiledSession : Session Language.engine :=
  ((Host.createEnvironment [] : Attempt Language.engine Realm).run.outcome
    (Session.start Language.engine {} true []
      (Files.empty.addFile "sum.js" (Bytes.ofString "1 + 1")) (.ticking 0))).2

/-- A script that evaluates the file, leaves a job that checks it and throws something that
evaluates the file again when it is read. -/
def nestingSource : String :=
  "load('sum.js'); Promise.resolve().then(() => checkSyntax('sum.js'));\n" ++
    "throw \x7btoString() \x7bload('sum.js'); return 'lost'\x7d\x7d"

/-- The record of the script stands behind those of its run and its job and before that of its
report. -/
theorem profile_log_nested :
    ∃ (outcome : Evaluated Language.engine) (after : Session Language.engine)
      (visits : Visits Language.engine),
      Host.Ends (Host.evaluateIn 4 1 nestingSource "outer.js") profiledSession outcome after ∧
      visits.Account profiledSession after ∧
      visits.Single "outer.js" .evaluate nestingSource outcome.toExcept ∧
      visits.records.map (fun record => (record.source, record.kind, record.threw)) =
        [("sum.js", .evaluate, false), ("sum.js", .checkSyntax, false),
          ("outer.js", .evaluate, true), ("sum.js", .evaluate, false)] := by
  have hcomputed :
      ((Host.evaluateIn 4 1 nestingSource "outer.js").outcome
          profiledSession).1.toOption.any (fun outcome => !outcome.toExcept.isOk) = true ∧
        ((Host.evaluateIn 4 1 nestingSource "outer.js").outcome
            profiledSession).2.profileRecords.map
              (fun record => (record.source, record.kind, record.threw)) =
          [("sum.js", .evaluate, false), ("sum.js", .checkSyntax, false),
            ("outer.js", .evaluate, true), ("sum.js", .evaluate, false)] := by
    decide +kernel
  obtain ⟨hended, hrecords⟩ := hcomputed
  obtain ⟨outcome, hends, -⟩ := Host.exists_ends hended
  obtain ⟨visits, haccount, hsingle⟩ := (profile_log Language.engine 4).2.1 1 _ _ _ _ _ hends
  refine ⟨outcome, _, visits, hends, haccount, hsingle, ?_⟩
  have hprofile : profiledSession.profile = some [] := rfl
  rw [← hrecords, Session.profileRecords, haccount.profile_eq, hprofile]
  rfl

end ScriptShell
