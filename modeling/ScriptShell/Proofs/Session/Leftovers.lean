import ScriptShell.Proofs.Session.Execution
import ScriptShell.Proofs.Session.Jobs

/-!
# Jobs left behind a script

The jobs at the end of an evaluation are run before its exception is read and before its completion
value is turned into text, and both may run script code that queues jobs. Such jobs stay in the
queue behind the script or the line of the shell, and run at the end of a later evaluation.

## Main results

* `jobs_left_behind` says which jobs stay in the queue behind a script or a line.
* `execute_leaves_job` is a script that leaves one, and a later script inside which it runs.
-/

namespace ScriptShell

open Entry

variable {engine : Engine}

namespace Host

variable {budget : Nat} {environment : Realm} {session after : Session engine}

namespace EvaluationRun

variable {answer : Answer engine} {source name : String} {outcome : Evaluated engine}

/-- Nothing is read where nothing was thrown. -/
theorem report_eq_nil (run : EvaluationRun answer source name session outcome after)
    (hcompleted : outcome.exception = none) : run.report = [] := by
  have hhistory := run.course_report.history_eq
  have hends := run.ends_report
  cases hresult : run.result with
  | ok value =>
      rw [hresult] at hends
      rw [(ends_pure.mp hends).2] at hhistory
      simpa using hhistory
  | error fault =>
      rw [hresult] at hends
      obtain ⟨info, _, -, hpure⟩ := ends_bind.mp hends
      rw [(ends_pure.mp hpure).1] at hcompleted
      cases hcompleted

/-- The jobs that wait behind an evaluation with no other frame open are those that reading the
exception queued. -/
theorem jobs_after (run : EvaluationRun answer source name session outcome after)
    (hframes : session.frames = []) : after.jobs.map Prod.fst = queuedJobs run.report := by
  have hreported : waitingJobs (run.drained.jobs.map Prod.fst) run.report =
      run.reported.jobs.map Prod.fst := run.course_report.tells.waitingJobs_eq
  have hidle : Idle run.report := run.outermost.report
  rw [run.jobs_drained hframes, hidle.waitingJobs_eq] at hreported
  have hleft : after.jobs = run.reported.jobs :=
    (congrArg Session.jobs run.after_eq).trans (Session.leaving_jobs run.reported name)
  rw [hleft, ← hreported]
  rfl

/-- With no other frame open, no job is left of those that waited and those of script and jobs. -/
theorem waitingJobs_eq_nil (run : EvaluationRun answer source name session outcome after)
    (hframes : session.frames = []) :
    waitingJobs (session.jobs.map Prod.fst) (run.script ++ run.jobs) = [] := by
  have hdrained : waitingJobs (session.jobs.map Prod.fst) (run.script ++ run.jobs) =
      run.drained.jobs.map Prod.fst :=
    (run.course_script.tells.append run.course_jobs.tells).waitingJobs_eq
  rw [hdrained, run.jobs_drained hframes]
  rfl

end EvaluationRun

end Host

/-- Between two sessions stands an evaluation with no other frame open. Behind its jobs no job
waits, and those that wait in the end were queued while its exception was read, where it threw, or
left by the conversion of its completion value, where that is shown. -/
def LeavesJobs (name : String) (exception : Option ExceptionInfo) (shown : Bool)
    (session after : Session engine) : Prop :=
  ∃ (evaluation : Evaluation) (opening rendering closing : List Entry),
    evaluation.name = name ∧
    after.journal = session.journal ++ (opening ++ evaluation.entries ++ rendering ++ closing) ∧
    Outermost [] evaluation.entries evaluation ∧
    waitingJobs (session.jobs.map Prod.fst) (evaluation.script ++ evaluation.jobs) = [] ∧
    (exception = none → evaluation.report = []) ∧
    (shown = false ∨ exception ≠ none → rendering = []) ∧
    after.jobs.map Prod.fst = queuedJobs evaluation.report ++ waitingJobs [] rendering

namespace LeavesJobs

variable {name : String} {exception : Option ExceptionInfo} {shown : Bool}
  {session begun rendered after : Session engine} {entries : List Entry}

/-- Housekeeping before and behind changes nothing about jobs. -/
theorem tended {opening closing : List Entry} (h : LeavesJobs name exception shown begun rendered)
    (hbegun : Tended session opening begun) (hafter : Tended rendered closing after) :
    LeavesJobs name exception shown session after := by
  obtain ⟨evaluation, before, rendering, behind, hname, hjournal, houtermost, hwaiting, hreport,
    hrendering, hjobs⟩ := h
  refine ⟨evaluation, opening ++ before, rendering, behind ++ closing, hname, ?_, houtermost, ?_,
    hreport, hrendering, ?_⟩
  · rw [hafter.journal_eq, hjournal, hbegun.journal_eq]
    simp
  · rw [← hbegun.jobs_eq]
    exact hwaiting
  · rw [hafter.jobs_eq]
    exact hjobs

/-- An evaluation and the conversion of its completion value, if it has one. -/
theorem of_evaluateIn {budget : Nat} {environment : Realm} {source : String}
    {outcome : Evaluated engine} {evaluated : Session engine} (hframes : session.frames = [])
    (hevaluate : Host.Ends (Host.evaluateIn budget environment source name) session outcome
      evaluated) (hcourse : Course .script evaluated entries rendered)
    (hentries : shown = false ∨ outcome.exception ≠ none → entries = []) :
    LeavesJobs name outcome.exception shown session rendered := by
  obtain ⟨inside, ⟨run⟩, rfl⟩ := Host.evaluationRun_of_evaluateIn hevaluate
  have hjournal : inside.journal = session.journal ++ run.evaluation.entries :=
    run.course.journal_eq
  have hwithin : inside.jobs.map Prod.fst = queuedJobs run.report := run.jobs_after hframes
  have hrendered : waitingJobs (inside.jobs.map Prod.fst) entries = rendered.jobs.map Prod.fst :=
    hcourse.tells.waitingJobs_eq
  refine ⟨run.evaluation, [], entries, [], rfl, ?_, run.outermost, run.waitingJobs_eq_nil hframes,
    run.report_eq_nil, hentries, ?_⟩
  · have hlast : rendered.journal = inside.journal ++ entries := hcourse.journal_eq
    rw [hlast, hjournal]
    simp
  · show rendered.jobs.map Prod.fst = queuedJobs run.report ++ waitingJobs [] entries
    rw [← hrendered, hwithin]
    -- Only one of report and conversion has entries: a value is shown where nothing was thrown.
    by_cases hexception : outcome.exception = none
    · rw [run.report_eq_nil hexception]
      rfl
    · rw [hentries (.inr hexception)]
      simp [waitingJobs]

/-- No job is left where nothing was thrown and nothing is shown. -/
theorem jobs_eq_nil (h : LeavesJobs name none false session after) : after.jobs = [] := by
  obtain ⟨evaluation, opening, rendering, closing, -, -, -, -, hreport, hrendering, hjobs⟩ := h
  rw [hreport rfl, hrendering (.inl rfl)] at hjobs
  exact List.map_eq_nil_iff.mp hjobs

end LeavesJobs

/-- Behind a script, and behind a line of the shell, exactly the jobs wait that were queued while
its exception was read or that the conversion of its completion value left. A script that cannot be
read leaves the queue as it is, and one that completes and is not dumped leaves it empty. -/
theorem jobs_left_behind {budget : Nat} {environment : Realm} {out : Channel}
    {session after : Session engine} (hframes : session.frames = []) :
    (∀ dump script failure,
      Host.Ends (Host.execute budget environment out dump script) session (.error failure) after →
        after.jobs = session.jobs) ∧
    (∀ dump script execution,
      Host.Ends (Host.execute budget environment out dump script) session (.ok execution) after →
        (∃ name, LeavesJobs name execution.exception dump session after) ∧
          (dump = false → execution.exception = none → after.jobs = [])) ∧
    ∀ line, Host.Ends (Host.evaluateLine budget environment out line) session () after →
      ∃ outcome evaluated,
        Host.Ends (Host.evaluateIn budget environment line Host.interpreterSource) session outcome
          evaluated ∧
        LeavesJobs Host.interpreterSource outcome.exception true session after := by
  refine ⟨fun dump script failure hends => ?_, fun dump script execution hends => ?_,
    fun line hends => ?_⟩
  · rcases Host.scriptRun hends with ⟨_, -, -, rfl⟩ | ⟨run, -, hresult, -⟩
    · rfl
    · cases hresult
  · rcases Host.scriptRun hends with ⟨_, -, hresult, -⟩ | ⟨run, rfl, hresult, hrun⟩
    · cases hresult
    · obtain rfl := Except.ok.inj hresult
      have hleaves := (LeavesJobs.of_evaluateIn (hrun.begins.frames_eq.trans hframes)
        hrun.evaluates hrun.reports.course hrun.reports.entries_eq_nil).tended hrun.begins
          hrun.finishes
      rw [← hrun.exception_eq] at hleaves
      refine ⟨⟨run.name, hleaves⟩, fun hdump hexception => ?_⟩
      rw [hdump, hexception] at hleaves
      exact hleaves.jobs_eq_nil
  · obtain ⟨outcome, evaluated, hevaluate, hends⟩ := Host.ends_bind.mp hends
    refine ⟨outcome, evaluated, hevaluate, ?_⟩
    cases outcome with
    | threw fault info =>
        rw [Host.ends_note.mp hends]
        exact (LeavesJobs.of_evaluateIn hframes hevaluate .stay fun _ => rfl).tended
          (.noteAll session []) (.note _ _)
    | completed value =>
        obtain ⟨text, rendered, hstringify, hwrite⟩ := Host.ends_bind.mp hends
        rw [Host.ends_note.mp hwrite]
        obtain ⟨entries, hcourse⟩ := Host.follows_stringifyIn budget environment value hstringify
        have hentries : true = false ∨ (Evaluated.completed value).exception ≠ none →
            entries = [] := by
          rintro (hshown | hexception)
          · cases hshown
          · exact absurd rfl hexception
        exact (LeavesJobs.of_evaluateIn hframes hevaluate hcourse hentries).tended
          (.noteAll session []) (.note _ _)

/-! ## A job that is left -/

/-- A new session. -/
def newSession : Session Language.engine :=
  Session.start Language.engine {} false [] Files.empty (.ticking 0)

/-- A script whose exception queues a job when it is read. -/
def leavingScript : Host Language.engine (Except Failure Execution) :=
  Host.execute 3 0 .report false (.inline "throw {toString() {Promise.resolve().then()}}")

/-- A script behind it that does nothing of the kind. -/
def plainScript : Host Language.engine (Except Failure Execution) :=
  Host.execute 3 0 .report false (.inline "1")

private theorem leavingScript_computed :
    (leavingScript.outcome newSession).1.toOption.any (fun result => result.isOk) = true ∧
      (leavingScript.outcome newSession).2.jobs.map Prod.fst = [0] ∧
      startedJobs (leavingScript.outcome newSession).2.journal = [] ∧
      (plainScript.outcome (leavingScript.outcome newSession).2).1.toOption.any
        (fun result => result.isOk) = true ∧
      startedJobs (plainScript.outcome (leavingScript.outcome newSession).2).2.journal = [0] := by
  decide +kernel

/-- A script leaves a job in the queue, and that job runs inside the next script. -/
theorem execute_leaves_job :
    (Reachable [] newSession ∧ newSession.jobs = []) ∧
      ∃ result after, Host.Ends leavingScript newSession (.ok result) after ∧
        after.jobs.map Prod.fst = [0] ∧ startedJobs after.journal = [] ∧
        ∃ next last, Host.Ends plainScript after (.ok next) last ∧
          startedJobs last.journal = [0] := by
  obtain ⟨hfirst, hleft, hunstarted, hsecond, hstarted⟩ := leavingScript_computed
  obtain ⟨failure | result, hends, hok⟩ := Host.exists_ends hfirst
  · cases hok
  obtain ⟨failure | next, hnext, hok⟩ := Host.exists_ends hsecond
  · cases hok
  exact ⟨⟨.start {} false [] Files.empty (.ticking 0), rfl⟩, result, _, hends, hleft, hunstarted,
    next, _, hnext, hstarted⟩

/-- The job that the script leaves was queued while its exception was read. -/
theorem jobs_left_behind_exception :
    ∃ result after, Host.Ends leavingScript newSession (.ok result) after ∧
      after.jobs.map Prod.fst = [0] ∧
      ∃ name, LeavesJobs name result.exception false newSession after := by
  obtain ⟨hfirst, hleft, -⟩ := leavingScript_computed
  obtain ⟨failure | result, hends, hok⟩ := Host.exists_ends hfirst
  · cases hok
  exact ⟨result, _, hends, hleft, ((jobs_left_behind rfl).2.1 false _ result hends).1⟩

end ScriptShell
