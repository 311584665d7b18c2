import ScriptShell.Language.Interpreter
import ScriptShell.Proofs.Session.Accounting

/-!
# Jobs run at the end of outermost evaluations

A job runs at most once, in its turn, and only at the end of an evaluation whose frame is the only
one, behind its script and before its record and its report. Such an evaluation leaves no job
waiting, whatever became of its script. Whatever runs while a frame is open runs no job, and
neither do syntax checks and new environments.

## Main results

* `Course.idle` is about code that runs while a frame is open.
* `Course.drains` is about the jobs at the end of an evaluation.
* `Course.runsAtEnds` finds the evaluation at whose end a job ran.
* `job_discipline` puts the parts together, for reachable sessions and for single operations.
-/

namespace ScriptShell

open Entry

variable {engine : Engine}

/-! ## Drains and outermost evaluations -/

/-- Jobs that run one after another, none of them inside another one. -/
inductive Drain : List Entry → Prop
  | done : Drain []
  | settled (job : Nat) {body rest : List Entry} (hbody : Idle body) (hrest : Drain rest) :
      Drain (.started job :: (body ++ .settled job :: rest))
  | interrupted (job : Nat) {body : List Entry} (hbody : Idle body) :
      Drain (.started job :: (body ++ [.interrupted job]))

/-- An evaluation stands in entries where no frame is open, and jobs run only behind its script. -/
structure Outermost (frames : List String) (entries : List Entry) (evaluation : Evaluation) :
    Prop where
  placed : ∃ opening closing,
    entries = opening ++ evaluation.entries ++ closing ∧ openFrames frames opening = []
  script : Idle evaluation.script
  jobs : Drain evaluation.jobs
  report : Idle evaluation.report

namespace Outermost

variable {frames : List String} {entries : List Entry} {evaluation : Evaluation}

theorem append_right (h : Outermost frames entries evaluation) (more : List Entry) :
    Outermost frames (entries ++ more) evaluation := by
  obtain ⟨opening, closing, rfl, hopening⟩ := h.placed
  exact ⟨⟨opening, closing ++ more, by simp, hopening⟩, h.script, h.jobs, h.report⟩

theorem append_left {first : List Entry}
    (h : Outermost (openFrames frames first) entries evaluation) :
    Outermost frames (first ++ entries) evaluation := by
  obtain ⟨opening, closing, rfl, hopening⟩ := h.placed
  refine ⟨⟨first ++ opening, closing, by simp, ?_⟩, h.script, h.jobs, h.report⟩
  rw [openFrames_append]
  exact hopening

end Outermost

/-- Each job that starts runs at the end of an outermost evaluation. -/
def RunsAtEnds (frames : List String) (entries : List Entry) : Prop :=
  ∀ job ∈ startedJobs entries,
    ∃ evaluation, Outermost frames entries evaluation ∧ job ∈ startedJobs evaluation.jobs

namespace RunsAtEnds

variable {frames : List String} {first second : List Entry}

theorem of_idle {entries : List Entry} (hentries : Idle entries) : RunsAtEnds frames entries := by
  intro job hjob
  rw [hentries.startedJobs_eq_nil] at hjob
  exact absurd hjob List.not_mem_nil

theorem append (hfirst : RunsAtEnds frames first)
    (hsecond : RunsAtEnds (openFrames frames first) second) :
    RunsAtEnds frames (first ++ second) := by
  intro job hjob
  rw [startedJobs_append, List.mem_append] at hjob
  rcases hjob with hjob | hjob
  · obtain ⟨evaluation, houtermost, hmem⟩ := hfirst job hjob
    exact ⟨evaluation, houtermost.append_right second, hmem⟩
  · obtain ⟨evaluation, houtermost, hmem⟩ := hsecond job hjob
    exact ⟨evaluation, houtermost.append_left, hmem⟩

end RunsAtEnds

/-! ## Idle entries -/

theorem Native.idle_shows (native : Native) (frames : List String) :
    Idle (native.shows frames) := by
  cases native with
  | dumpCallFrame => cases frames <;> simp [Native.shows, runsJob]
  | _ => simp [Native.shows, runsJob]

private theorem idle_recorded (record : Option ProfileRecord) :
    Idle (record.map Entry.recorded).toList := by
  cases record <;> simp [runsJob]

/-- An evaluation is idle where its parts are. -/
theorem Evaluation.idle_entries {evaluation : Evaluation} (hscript : Idle evaluation.script)
    (hjobs : Idle evaluation.jobs) (hreport : Idle evaluation.report) :
    Idle evaluation.entries := by
  have hrecorded := idle_recorded evaluation.record
  simp [entries, closing, hscript, hjobs, hreport, hrecorded, runsJob]

/-- A job that starts in an evaluation starts behind its script, where script and report are
idle. -/
theorem Evaluation.mem_startedJobs_jobs {evaluation : Evaluation} {job : Nat}
    (hscript : Idle evaluation.script) (hreport : Idle evaluation.report)
    (hjob : job ∈ startedJobs evaluation.entries) : job ∈ startedJobs evaluation.jobs := by
  have hbefore : Idle (.entered evaluation.name :: evaluation.script) := by
    simp [hscript, runsJob]
  have hbehind : Idle evaluation.closing := by
    have hrecorded := idle_recorded evaluation.record
    simp [closing, hreport, hrecorded, runsJob]
  have hsplit : evaluation.entries =
      (.entered evaluation.name :: evaluation.script) ++ evaluation.jobs ++ evaluation.closing := by
    simp [entries]
  rw [hsplit, startedJobs_append, startedJobs_append, hbefore.startedJobs_eq_nil,
    hbehind.startedJobs_eq_nil] at hjob
  simpa using hjob

/-! ## Jobs along courses -/

theorem Stroke.idle {session after : Session engine} {entries : List Entry}
    (h : Stroke session entries after) : Idle entries := by
  cases h with
  | call native =>
      have hshows := native.idle_shows session.frames
      simp [hshows, runsJob]
  | _ => simp [runsJob]

/-- A stage of an evaluation runs inside another evaluation. -/
def Stage.Nested (frames : List String) : Stage → Prop
  | .script => frames ≠ []
  | .jobs => frames.length ≠ 1

@[simp] theorem Stage.nested_script {frames : List String} :
    Stage.script.Nested frames ↔ frames ≠ [] := Iff.rfl

@[simp] theorem Stage.nested_jobs {frames : List String} :
    Stage.jobs.Nested frames ↔ frames.length ≠ 1 := Iff.rfl

namespace Course

variable {stage : Stage} {session after : Session engine} {entries : List Entry}

/-- Code that runs while a frame is open runs no job, unless it is the end of an evaluation whose
frame is the only one. -/
theorem idle (h : Course stage session entries after) (hframes : stage.Nested session.frames) :
    Idle entries := by
  induction h with
  | stay => exact idle_nil
  | stroke hstroke => exact hstroke.idle
  | append hfirst _ ihfirst ihsecond =>
      exact idle_append.mpr ⟨ihfirst hframes, ihsecond (hfirst.frames_eq ▸ hframes)⟩
  | inRealm _ _ ih => exact ih hframes
  | checked _ _ ih => exact Evaluation.idle_entries idle_nil idle_nil (ih (by simp))
  | @evaluated session ran drained _ record _ _ _ _ hscript hjobs _ ihscript ihjobs ihreport =>
      -- The frame of this evaluation makes its script and its report nested, and the frame below
      -- it, which is open by assumption, keeps its jobs from running.
      have hran : ran.frames = record.source :: session.frames := hscript.frames_eq
      have hnested : ran.frames.length ≠ 1 := by simpa [hran] using hframes
      have hdrained : drained.frames ≠ [] := by simp [hjobs.frames_eq, hran]
      exact Evaluation.idle_entries (ihscript (by simp)) (ihjobs hnested) (ihreport hdrained)
  | nested _ => exact idle_nil
  | drained _ _ => exact idle_nil
  | job honly _ _ _ _ _ => exact absurd honly hframes
  | interrupted honly _ _ _ => exact absurd honly hframes

/-- A job runs inside the frame of its evaluation, so it runs no other job. -/
theorem idle_job {number : Nat} (hframes : session.frames.length = 1)
    (hbody : Course .script (session.starting number) entries after) : Idle entries := by
  refine hbody.idle ?_
  intro hnil
  rw [Session.starting_frames] at hnil
  rw [hnil] at hframes
  cases hframes

/-- The jobs at the end of an evaluation run one after another, and none waits behind them. -/
theorem drains (h : Course .jobs session entries after) :
    Drain entries ∧ (session.frames.length = 1 → after.jobs = []) := by
  generalize hstage : Stage.jobs = stage at h
  induction h with
  | stay | stroke | append | inRealm | checked | evaluated => cases hstage
  | nested hframes => exact ⟨.done, fun honly => absurd honly hframes⟩
  | drained _ hjobs => exact ⟨.done, fun _ => hjobs⟩
  | @job _ _ _ number _ _ _ _ hframes _ hbody _ _ ihmore =>
      have hidle := idle_job hframes hbody
      obtain ⟨hdrain, hempty⟩ := ihmore rfl
      refine ⟨.settled number hidle hdrain, fun _ => hempty ?_⟩
      rw [Session.note_frames, hbody.frames_eq, Session.starting_frames]
      exact hframes
  | @interrupted _ _ number _ _ _ hframes _ hbody _ =>
      have hidle := idle_job hframes hbody
      exact ⟨.interrupted number hidle, fun _ => rfl⟩

/-- Each job that starts in a course of script code runs at the end of an outermost evaluation. -/
theorem runsAtEnds (h : Course .script session entries after) :
    RunsAtEnds session.frames entries := by
  generalize hstage : Stage.script = stage at h
  induction h with
  | stay => exact .of_idle idle_nil
  | stroke hstroke => exact .of_idle hstroke.idle
  | @append session middle _ first _ hfirst _ ihfirst ihsecond =>
      have hopen : openFrames session.frames first = middle.frames := hfirst.tells.openFrames_eq
      refine (ihfirst rfl).append ?_
      rw [hopen]
      exact ihsecond rfl
  | inRealm _ _ ih => exact ih rfl
  | checked _ hreport _ =>
      exact .of_idle (Evaluation.idle_entries idle_nil idle_nil (hreport.idle (by simp)))
  | @evaluated session ran drained reported record script jobs report hkind hscript hjobs hreport =>
      -- Either this evaluation is itself the outermost one, or it is idle from end to end.
      by_cases hframes : session.frames = []
      · have hran : ran.frames = record.source :: session.frames := hscript.frames_eq
        have hdrained : drained.frames ≠ [] := by simp [hjobs.frames_eq, hran]
        have hscriptIdle := hscript.idle (by simp)
        have hreportIdle := hreport.idle hdrained
        intro job hjob
        refine ⟨⟨record.source, script, jobs, drained.kept record, report⟩,
          ⟨⟨[], [], by simp, hframes⟩, hscriptIdle, hjobs.drains.1, hreportIdle⟩, ?_⟩
        exact Evaluation.mem_startedJobs_jobs hscriptIdle hreportIdle hjob
      · exact .of_idle ((Course.evaluated hkind hscript hjobs hreport).idle hframes)
  | nested | drained | job | interrupted => cases hstage

end Course

theorem Passage.runsAtEnds {session after : Session engine} {entries : List Entry}
    (h : Passage session entries after) : RunsAtEnds session.frames entries := by
  induction h with
  | course hcourse => exact hcourse.runsAtEnds
  | chore hchore => cases hchore <;> exact .of_idle (by simp [runsJob])
  | @append session middle _ first _ hfirst _ ihfirst ihsecond =>
      have hopen : openFrames session.frames first = middle.frames := hfirst.tells.openFrames_eq
      refine ihfirst.append ?_
      rw [hopen]
      exact ihsecond

theorem Reachable.runsAtEnds {held : List String} {session : Session engine}
    (h : Reachable held session) : RunsAtEnds [] session.journal := by
  refine h.journal_induction (fun _ _ => .of_idle (by simp [runsJob]))
    (fun hreachable hpassage hruns => ?_) (fun frame hruns => ⟨?_, ?_⟩)
  · refine hruns.append ?_
    rw [hreachable.openFrames_eq]
    exact hpassage.runsAtEnds
  · exact hruns.append (.of_idle (by simp [runsJob]))
  · exact hruns.append (.of_idle (by simp [runsJob]))

/-! ## Jobs of single operations -/

namespace Host

variable {α : Type} {session after : Session engine}

namespace EvaluationRun

variable {answer : Answer engine} {source name : String} {outcome : Evaluated engine}

theorem frames_ran (run : EvaluationRun answer source name session outcome after) :
    run.ran.frames = name :: session.frames :=
  run.course_script.frames_eq

theorem frames_drained (run : EvaluationRun answer source name session outcome after) :
    run.drained.frames = name :: session.frames :=
  run.course_jobs.frames_eq.trans run.frames_ran

theorem idle_script (run : EvaluationRun answer source name session outcome after) :
    Idle run.script :=
  run.course_script.idle (by simp)

/-- With no other frame open, no job waits behind the jobs of an evaluation. -/
theorem jobs_drained (run : EvaluationRun answer source name session outcome after)
    (hframes : session.frames = []) : run.drained.jobs = [] :=
  run.course_jobs.drains.2 (by simp [run.frames_ran, hframes])

theorem outermost (run : EvaluationRun answer source name session outcome after) :
    Outermost [] run.evaluation.entries run.evaluation where
  placed := ⟨[], [], by simp, rfl⟩
  script := run.idle_script
  jobs := run.course_jobs.drains.1
  report := run.course_report.idle (by simp [run.frames_drained])

/-- With no other frame open and no job interrupted, the jobs that run are all there are. -/
theorem startedJobs_eq (run : EvaluationRun answer source name session outcome after)
    (hframes : session.frames = []) (huninterrupted : Uninterrupted run.jobs) :
    startedJobs run.jobs =
      session.jobs.map Prod.fst ++ queuedJobs run.script ++ queuedJobs run.jobs := by
  have hscript : session.jobs.map Prod.fst ++ queuedJobs run.script =
      startedJobs run.script ++ _ :=
    run.course_script.tells.admits.waiting_append_queuedJobs run.idle_script.uninterrupted
  have hjobs : run.ran.jobs.map Prod.fst ++ queuedJobs run.jobs = startedJobs run.jobs ++ _ :=
    run.course_jobs.tells.admits.waiting_append_queuedJobs huninterrupted
  rw [run.idle_script.startedJobs_eq_nil, run.course_script.tells.replay_eq] at hscript
  rw [run.course_jobs.tells.replay_eq] at hjobs
  rw [hscript]
  simpa [Session.standing, run.jobs_drained hframes] using hjobs.symm

end EvaluationRun

/-- With no frame open, the action is an evaluation under a name at whose end every job runs that
waits: those from before, those that the script queues and those that jobs queue. -/
def DrainsAtEnd (name : String) (action : Host engine α) : Prop :=
  ∀ ⦃session : Session engine⦄ ⦃result : α⦄ ⦃after : Session engine⦄, session.frames = [] →
    Ends action session result after →
      ∃ evaluation : Evaluation, evaluation.name = name ∧
        after.journal = session.journal ++ evaluation.entries ∧
        Outermost [] evaluation.entries evaluation ∧
        (Uninterrupted evaluation.jobs → startedJobs evaluation.jobs =
          session.jobs.map Prod.fst ++ queuedJobs evaluation.script ++ queuedJobs evaluation.jobs)

/-- The action runs no job, where the frames it begins with are as said. -/
def RunsNoJob (frames : List String → Prop) (action : Host engine α) : Prop :=
  ∀ ⦃session : Session engine⦄ ⦃result : α⦄ ⦃after : Session engine⦄, frames session.frames →
    Ends action session result after →
      ∃ entries, after.journal = session.journal ++ entries ∧ Idle entries

/-- The action runs jobs only at the end of outermost evaluations inside it. -/
def RunsJobsAtEnds (action : Host engine α) : Prop :=
  ∀ ⦃session : Session engine⦄ ⦃result : α⦄ ⦃after : Session engine⦄,
    Ends action session result after →
      ∃ entries, after.journal = session.journal ++ entries ∧ RunsAtEnds session.frames entries

theorem DrainsAtEnd.withRealm {realm : Realm} {name : String} {action : Host engine α}
    (haction : DrainsAtEnd name action) : DrainsAtEnd name (withRealm realm action) := by
  intro session result after hframes hends
  obtain ⟨inside, hinside, rfl⟩ := ends_withRealm.mp hends
  have hwithin : ({ session with realm := realm } : Session engine).frames = [] := hframes
  have hdrains := haction hwithin hinside
  exact hdrains

theorem RunsNoJob.withRealm {realm : Realm} {frames : List String → Prop}
    {action : Host engine α} (haction : RunsNoJob frames action) :
    RunsNoJob frames (withRealm realm action) := by
  intro session result after hframes hends
  obtain ⟨inside, hinside, rfl⟩ := ends_withRealm.mp hends
  have hwithin : frames ({ session with realm := realm } : Session engine).frames := hframes
  have hquiet := haction hwithin hinside
  exact hquiet

/-- Whatever follows a course runs no job while a frame is open. -/
theorem Follows.runsNoJob {action : Host engine α} (haction : Follows action) :
    RunsNoJob (· ≠ []) action := by
  intro session result after hframes hends
  obtain ⟨entries, hcourse⟩ := haction hends
  exact ⟨entries, hcourse.journal_eq, hcourse.idle hframes⟩

theorem Follows.runsJobsAtEnds {action : Host engine α} (haction : Follows action) :
    RunsJobsAtEnds action := by
  intro session result after hends
  obtain ⟨entries, hcourse⟩ := haction hends
  exact ⟨entries, hcourse.journal_eq, hcourse.runsAtEnds⟩

theorem drainsAtEnd_evaluate (budget bound : Nat) (source name : String) :
    DrainsAtEnd name (evaluate (answer budget) bound source name : Host engine _) := by
  intro session outcome after hframes hends
  obtain ⟨run⟩ := evaluationRun (follows_answer budget) hends
  exact ⟨run.evaluation, rfl, run.course.journal_eq, run.outermost, run.startedJobs_eq hframes⟩

/-- A syntax check runs no job, since its report is computed inside its frame. -/
theorem runsNoJob_checkSyntax (budget : Nat) (source name : String) :
    RunsNoJob (fun _ => True) (checkSyntax (answer budget) source name : Host engine _) := by
  intro session outcome after _ hends
  obtain ⟨record, report, reported, rfl, hkind, hreport, rfl⟩ :=
    course_checkSyntax (follows_answer budget) hends
  exact ⟨_, (Course.checked hkind hreport).journal_eq,
    Evaluation.idle_entries idle_nil idle_nil (hreport.idle (by simp))⟩

theorem runsNoJob_createEnvironment (arguments : List String) :
    RunsNoJob (fun _ => True) (createEnvironment arguments : Attempt engine Realm).run := by
  intro session result after _ hends
  obtain ⟨entries, hcourse, hentries⟩ := course_createEnvironment hends
  refine ⟨entries, hcourse.journal_eq, fun entry hentry => ?_⟩
  rcases List.mem_cons.mp (hentries.subset hentry) with rfl | hlast
  · rfl
  · rw [List.mem_singleton.mp hlast]
    rfl

end Host

/-! ## The discipline -/

open Host in
/-- In every reachable session jobs were queued under the numbers from zero on and were started at
most once, in that order, each at the end of an outermost evaluation; unless one was interrupted,
those that did not start still wait. An evaluation with no frame open drains the queue; while a
frame is open nothing runs a job, and syntax checks and new environments never do. Conversions and
reports run jobs only through outermost evaluations inside them. -/
theorem job_discipline (engine : Engine) :
    (∀ {held : List String} {session : Session engine}, Reachable held session →
      queuedJobs session.journal = List.range session.jobCount ∧
      (startedJobs session.journal).Sublist (queuedJobs session.journal) ∧
      (Uninterrupted session.journal → queuedJobs session.journal =
        startedJobs session.journal ++ session.jobs.map Prod.fst) ∧
      RunsAtEnds [] session.journal) ∧
    ∀ budget : Nat,
      (∀ bound source name,
        DrainsAtEnd name (evaluate (answer budget) bound source name : Host engine _)) ∧
      (∀ environment source name,
        DrainsAtEnd name (evaluateIn budget environment source name : Host engine _)) ∧
      (∀ environment source name,
        RunsNoJob (· ≠ []) (evaluateIn budget environment source name : Host engine _)) ∧
      (∀ realm native (arguments : List engine.Value),
        RunsNoJob (· ≠ []) (answer budget realm native arguments).run) ∧
      (∀ environment source name,
        RunsNoJob (fun _ => True) (checkSyntaxIn budget environment source name : Host engine _)) ∧
      (∀ arguments,
        RunsNoJob (fun _ => True) (createEnvironment arguments : Attempt engine Realm).run) ∧
      (∀ environment (value : engine.Value),
        RunsNoJob (· ≠ []) (stringifyIn budget environment value) ∧
          RunsJobsAtEnds (stringifyIn budget environment value)) ∧
      (∀ fault : engine.Fault,
        RunsNoJob (· ≠ []) (exceptionInfo (answer budget) fault) ∧
          RunsJobsAtEnds (exceptionInfo (answer budget) fault)) := by
  constructor
  · intro held session hreachable
    have htells := hreachable.tells
    have hqueued := htells.admits.range_append_queuedJobs
    have hstarted := htells.admits.startedJobs_sublist
    rw [htells.replay_eq] at hqueued
    refine ⟨hqueued, hstarted, fun huninterrupted => ?_, hreachable.runsAtEnds⟩
    have hwaiting := htells.admits.waiting_append_queuedJobs huninterrupted
    rw [htells.replay_eq] at hwaiting
    exact hwaiting
  · intro budget
    refine ⟨fun bound source name => ?_, fun environment source name => ?_,
      fun environment source name => ?_, fun realm native arguments => ?_,
      fun environment source name => ?_, fun arguments => ?_, fun environment value => ?_,
      fun fault => ?_⟩
    · exact drainsAtEnd_evaluate budget bound source name
    · exact (drainsAtEnd_evaluate budget budget source name).withRealm
    · exact (follows_evaluateIn budget environment source name).runsNoJob
    · exact Follows.runsNoJob (follows_answer budget realm native arguments)
    · exact (runsNoJob_checkSyntax budget source name).withRealm
    · exact runsNoJob_createEnvironment arguments
    · have hfollows := follows_stringifyIn budget environment value
      exact ⟨hfollows.runsNoJob, hfollows.runsJobsAtEnds⟩
    · have hfollows := follows_exceptionInfo (follows_answer budget) fault
      exact ⟨Follows.runsNoJob hfollows, Follows.runsJobsAtEnds hfollows⟩

/-- A script that leaves a job and then throws, in a new session. -/
def throwingBehindJob : Host Language.engine (Evaluated Language.engine) :=
  Host.evaluateIn 2 0 "Promise.resolve().then(); lost" "a"

open Host in
/-- A job runs behind a script that queues it and then throws. -/
theorem job_runs_behind_throwing_script :
    let session := Session.start Language.engine {} false [] Files.empty (.ticking 0)
    ∃ fault info after, Ends throwingBehindJob session (.threw fault info) after ∧
      startedJobs after.journal = [0] ∧
      queuedJobs after.journal = startedJobs after.journal ++ after.jobs.map Prod.fst ∧
      RunsAtEnds [] after.journal ∧
      ∃ evaluation : Evaluation, after.journal = session.journal ++ evaluation.entries ∧
        startedJobs evaluation.jobs =
          queuedJobs evaluation.script ++ queuedJobs evaluation.jobs := by
  intro session
  have hcomputed :
      (throwingBehindJob.outcome session).1.toOption.any (fun outcome => !outcome.toExcept.isOk) =
          true ∧
        startedJobs (throwingBehindJob.outcome session).2.journal = [0] ∧
        ∀ entry ∈ (throwingBehindJob.outcome session).2.journal, entry.interrupts = false := by
    decide +kernel
  obtain ⟨hthrew, hstarted, huninterrupted⟩ := hcomputed
  obtain ⟨value | ⟨fault, info⟩, hends, hthrew⟩ := exists_ends hthrew
  · cases hthrew
  have hstart : Reachable [] session := .start {} false [] Files.empty (.ticking 0)
  have hreachable := hstart.operate 2 (.evaluate 0 "Promise.resolve().then(); lost" "a")
    (ends_bind.mpr ⟨_, _, hends, ends_pure.mpr ⟨rfl, rfl⟩⟩)
  obtain ⟨-, -, hwaiting, hruns⟩ := (job_discipline Language.engine).1 hreachable
  obtain ⟨evaluation, -, hjournal, -, hdrained⟩ :=
    ((job_discipline Language.engine).2 2).2.1 0 _ _ rfl hends
  refine ⟨fault, info, _, hends, hstarted, hwaiting huninterrupted, hruns, evaluation, hjournal,
    hdrained fun entry hentry => huninterrupted entry ?_⟩
  rw [hjournal]
  simp [Evaluation.entries, hentry]

end ScriptShell
