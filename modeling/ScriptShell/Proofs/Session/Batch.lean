import Mathlib.Data.List.TakeWhile
import ScriptShell.Language.Interpreter
import ScriptShell.Proofs.Session.Execution

/-!
# Running a batch of scripts

A run evaluates the scripts of its list one after another up to the first that cannot be read,
whether or not earlier ones threw. What the driver itself writes is the report of each evaluated
script and, where one cannot be read, the line that says so; nothing behind that one is read or
evaluated.

## Main results

* `Host.windowed_executeAll` is the induction over the list.
* `runScripts_batch` is about whole runs.
-/

namespace ScriptShell

variable {engine : Engine}

/-! ## Batches -/

/-- Scripts that were executed one after another, each in the session behind the one before. -/
inductive Batch (budget : Nat) (environment : Realm) (out : Channel) (dump : Bool) :
    Session engine → List (ScriptRun engine) → Session engine → Prop
  | nil {session : Session engine} : Batch budget environment out dump session [] session
  | cons {session middle after : Session engine} {run : ScriptRun engine}
      {runs : List (ScriptRun engine)}
      (hrun : run.Executes budget environment out dump session middle)
      (hruns : Batch budget environment out dump middle runs after) :
      Batch budget environment out dump session (run :: runs) after

/-- A batch, with the sampling windows around its scripts. -/
inductive WindowedBatch (budget : Nat) (environment : Realm) (out : Channel) (dump : Bool) :
    Session engine → List (ScriptRun engine) → Session engine → Prop
  | nil {session : Session engine} : WindowedBatch budget environment out dump session [] session
  | cons {session middle after : Session engine} {run : ScriptRun engine}
      {runs : List (ScriptRun engine)}
      (hrun : run.Executes budget environment out dump session middle)
      (hwindow : run.Windowed session middle)
      (hruns : WindowedBatch budget environment out dump middle runs after) :
      WindowedBatch budget environment out dump session (run :: runs) after

theorem WindowedBatch.batch {budget : Nat} {environment : Realm} {out : Channel} {dump : Bool}
    {session after : Session engine} {runs : List (ScriptRun engine)}
    (h : WindowedBatch budget environment out dump session runs after) :
    Batch budget environment out dump session runs after := by
  induction h with
  | nil => exact .nil
  | cons hrun _ _ ih => exact .cons hrun ih

/-- What the driver leaves in the journal where a run ends at a script that cannot be read. -/
def abortEntries : List Script → List Entry
  | [] => []
  | script :: _ =>
    [.fileRead script.payload false,
      .logged (.abortingRun script.payload (.file script.payload)),
      .wrote .stderr ("Could not open file: " ++ script.payload ++ "\n")]

/-! ## What the driver writes -/

section Written

variable {channel : Channel} {first second : List Entry}

theorem written_append :
    Entry.written channel (first ++ second) =
      Entry.written channel first ++ Entry.written channel second := by
  unfold Entry.written
  rw [List.filterMap_append, String.join_append]

/-- Script code and natives write to the outputs of the process alone. -/
theorem Course.written_report {stage : Stage} {session after : Session engine}
    {entries : List Entry} (h : Course stage session entries after) :
    Entry.written .report entries = "" := by
  refine h.entries_induction (motive := fun entries => Entry.written .report entries = "") rfl
    (fun hfirst hsecond => ?_) (fun {entry} hscripted => ?_) (fun native frames => ?_)
  · rw [written_append, hfirst, hsecond]
    rfl
  · cases entry with
    | wrote channel text => simp [Entry.written, show channel ≠ .report from hscripted]
    | _ => rfl
  · cases native with
    | dumpCallFrame => cases frames <;> rfl
    | _ => rfl

end Written

/-- What a script leaves on the report is its own text. -/
theorem ScriptRun.Executes.written_report {budget : Nat} {environment : Realm} {out : Channel}
    {dump : Bool} {session after : Session engine} {run : ScriptRun engine}
    (h : run.Executes budget environment out dump session after) :
    Entry.written .report (run.entries .report session.files) = run.text.getD "" := by
  have hreads : Entry.written .report (run.script.reads session.files) = "" := by
    cases run.script <;> rfl
  have htext : Entry.written .report (run.text.map (Entry.wrote .report)).toList =
      run.text.getD "" := by
    cases run.text <;> simp [Entry.written]
  simp only [ScriptRun.entries, written_append, hreads, h.course.written_report,
    h.reports.course.written_report, htext]
  simp [Entry.written]

namespace Batch

variable {budget : Nat} {environment : Realm} {out : Channel} {dump : Bool}
  {session after : Session engine} {runs : List (ScriptRun engine)}

theorem journal_eq (h : Batch budget environment out dump session runs after) :
    after.journal = session.journal ++ runs.flatMap (ScriptRun.entries out session.files) := by
  induction h with
  | nil => simp
  | cons hrun hruns ih =>
      rw [ih, hrun.journal_eq, hrun.files_eq]
      simp

theorem written_report (h : Batch budget environment out dump session runs after) :
    Entry.written .report (runs.flatMap (ScriptRun.entries .report session.files)) =
      String.join (runs.map fun run => run.text.getD "") := by
  induction h with
  | nil => rfl
  | cons hrun hruns ih =>
      rw [List.flatMap_cons, written_append, hrun.written_report, ← hrun.files_eq, ih]
      simp

/-- Whether a script is timed is decided where the batch begins. -/
theorem elapsed_eq (h : Batch budget environment out dump session runs after) :
    ∀ run ∈ runs, run.execution.elapsedMillis.isSome =
      (session.sampler.enabled || session.profile.isSome) := by
  induction h with
  | nil => exact List.forall_mem_nil _
  | cons hrun hruns ih =>
      rw [hrun.instrumented_eq] at ih
      exact List.forall_mem_cons.mpr ⟨hrun.elapsed_eq, ih⟩

/-- Each script was executed between two sessions on the way. -/
theorem executes (h : Batch budget environment out dump session runs after) :
    ∀ run ∈ runs, ∃ before behind, run.Executes budget environment out dump before behind := by
  induction h with
  | nil => exact List.forall_mem_nil _
  | cons hrun hruns ih => exact List.forall_mem_cons.mpr ⟨⟨_, _, hrun⟩, ih⟩

end Batch

/-! ## Running the scripts -/

namespace Host

variable {budget : Nat} {environment : Realm} {out : Channel} {dump : Bool}

/-- Scripts are executed in their order, up to the first that cannot be read. -/
theorem windowed_executeAll {scripts : List Script} {session after : Session engine} {success : Bool}
    (hends : Ends (executeAll budget environment out dump scripts) session success after) :
    ∃ runs last, runs.map ScriptRun.script = scripts.takeWhile (Script.readable session.files) ∧
      WindowedBatch budget environment out dump session runs last ∧
      after = last.noteAll (abortEntries (scripts.dropWhile (Script.readable session.files))) ∧
      (success = true ↔ scripts.dropWhile (Script.readable session.files) = [] ∧
        ∀ run ∈ runs, run.outcome.exception = none) := by
  induction scripts generalizing session after success with
  | nil =>
      obtain ⟨rfl, rfl⟩ := ends_pure.mp hends
      exact ⟨[], _, rfl, .nil, rfl, by simp⟩
  | cons script rest ih =>
      unfold executeAll at hends
      obtain ⟨result, middle, hexecute, hends⟩ := ends_bind.mp hends
      -- A script that cannot be read ends the run here; any other is followed by the rest, in view
      -- of the same files.
      rcases windowedRun hexecute with
        ⟨failure, hopened, rfl, rfl⟩ | ⟨run, rfl, rfl, hrun, hwindow⟩
      · have hreadable : script.readable session.files = false := by
          simp [Script.readable, hopened]
          rfl
        obtain ⟨_, _, hlog, hends⟩ := ends_bind.mp hends
        rw [ends_note.mp hlog] at hends
        obtain ⟨_, _, hwrite, hends⟩ := ends_bind.mp hends
        obtain ⟨rfl, rfl⟩ := ends_pure.mp hends
        rw [ends_note.mp hwrite]
        obtain ⟨hfile, rfl, hread⟩ := Script.eq_file_of_opened_eq_error hopened
        have hreads : script.reads session.files = [.fileRead script.payload false] := by
          rw [← hread, hfile]
          rfl
        have hdrop : (script :: rest).dropWhile (Script.readable session.files) =
            script :: rest := by
          simp [hreadable]
        refine ⟨[], session, by simp [hreadable], .nil, ?_, by simp [hreadable]⟩
        rw [hdrop, Session.noteAll_note, Session.noteAll_note, hreads]
        rfl
      · have hreadable : run.script.readable session.files = true := by
          simp [Script.readable, hrun.opened]
          rfl
        obtain ⟨others, last, hrest, hends⟩ := ends_bind.mp hends
        obtain ⟨rfl, rfl⟩ := ends_pure.mp hends
        obtain ⟨runs, last, hscripts, hbatch, rfl, hsuccess⟩ := ih hrest
        rw [hrun.files_eq] at hscripts hsuccess
        refine ⟨run :: runs, last, by simp [hreadable, hscripts], .cons hrun hwindow hbatch, ?_, ?_⟩
        · simp [hreadable, hrun.files_eq]
        · rw [Bool.and_eq_true, hsuccess, hrun.succeeded_eq]
          simp [hreadable, and_left_comm]

theorem batch_executeAll {scripts : List Script} {session after : Session engine} {success : Bool}
    (hends : Ends (executeAll budget environment out dump scripts) session success after) :
    ∃ runs last, runs.map ScriptRun.script = scripts.takeWhile (Script.readable session.files) ∧
      Batch budget environment out dump session runs last ∧
      after = last.noteAll (abortEntries (scripts.dropWhile (Script.readable session.files))) ∧
      (success = true ↔ scripts.dropWhile (Script.readable session.files) = [] ∧
        ∀ run ∈ runs, run.outcome.exception = none) := by
  obtain ⟨runs, last, hscripts, hbatch, hrest⟩ := windowed_executeAll hends
  exact ⟨runs, last, hscripts, hbatch.batch, hrest⟩

end Host

/-- A run executes exactly the scripts before the first that cannot be read, in their order and
once each, whatever they throw. The journal gains what they leave and the line about the script
that cannot be read, and nothing else; a report of its own collects the texts of the scripts. The
run succeeds if every script was read and none threw. -/
theorem runScripts_batch {budget : Nat} {environment : Realm} {out : Channel} {dump : Bool}
    {scripts : List Script} {session after : Session engine} {success : Bool}
    (hends : Host.Ends (Host.runScripts budget environment out dump scripts) session success
      after) :
    ∃ (runs : List (ScriptRun engine)) (last : Session engine),
      runs.map ScriptRun.script = scripts.takeWhile (Script.readable session.files) ∧
      Batch budget environment out dump { session with sampler := session.sampler.start } runs
        last ∧
      after.journal = session.journal ++ (runs.flatMap (ScriptRun.entries out session.files) ++
        abortEntries (scripts.dropWhile (Script.readable session.files))) ∧
      (out = .report → Entry.written .report after.journal =
        Entry.written .report session.journal ++
          String.join (runs.map fun run => run.text.getD "")) ∧
      (success = true ↔ (∀ script ∈ scripts, script.readable session.files = true) ∧
        ∀ run ∈ runs, run.outcome.exception = none) ∧
      ∀ run ∈ runs, run.execution.succeeded = run.outcome.exception.isNone ∧
        run.execution.exception = run.outcome.exception ∧
        run.execution.elapsedMillis.isSome =
          (session.sampler.enabled || session.profile.isSome) := by
  unfold Host.runScripts at hends
  obtain ⟨_, started, hstart, hends⟩ := Host.ends_bind.mp hends
  obtain ⟨_, stopped, hall, hends⟩ := Host.ends_bind.mp hends
  rw [Host.ends_modify_bind, Host.ends_pure] at hends
  obtain ⟨rfl, rfl⟩ := hends
  obtain ⟨runs, last, hscripts, hbatch, hstopped, hsuccess⟩ := Host.batch_executeAll hall
  have hstarted := Host.ends_modify.mp hstart
  subst hstarted
  have hjournal : stopped.journal = session.journal ++
      (runs.flatMap (ScriptRun.entries out session.files) ++
        abortEntries (scripts.dropWhile (Script.readable session.files))) := by
    have hlast : last.journal = session.journal ++ _ := hbatch.journal_eq
    rw [hstopped, ← List.append_assoc, ← hlast]
    simp [Session.journal]
  refine ⟨runs, last, hscripts, hbatch, hjournal, ?_, ?_, fun run hrun => ?_⟩
  · rintro rfl
    have habort : Entry.written .report
        (abortEntries (scripts.dropWhile (Script.readable session.files))) = "" := by
      cases scripts.dropWhile (Script.readable session.files) <;> rfl
    have hwritten : Entry.written .report
        (runs.flatMap (ScriptRun.entries .report session.files)) = _ := hbatch.written_report
    show Entry.written .report stopped.journal = _
    rw [hjournal, written_append, written_append, habort, hwritten, String.append_empty]
  · rw [hsuccess, List.dropWhile_eq_nil_iff]
  · obtain ⟨before, behind, hexecutes⟩ := hbatch.executes run hrun
    exact ⟨hexecutes.succeeded_eq, hexecutes.exception_eq, hbatch.elapsed_eq run hrun⟩

/-- Scripts of which the first throws and the third cannot be read. -/
def stoppingScripts : List Script :=
  [.inline "throw 'a'", .inline "1", .file "missing.js", .inline "2"]

/-- The run goes on behind the script that throws and stops at the one that cannot be read. -/
theorem runScripts_batch_stops_at_missing :
    let session := Session.start Language.engine {} false [] Files.empty (.ticking 0)
    ∃ (runs : List (ScriptRun Language.engine)) (after : Session Language.engine),
      Host.Ends (Host.runScripts 2 0 .report true stoppingScripts) session false after ∧
      runs.map ScriptRun.script = [.inline "throw 'a'", .inline "1"] ∧
      String.join (runs.map fun run => run.text.getD "") = "Exception: a\nEnd: 1\n" := by
  intro session
  have hcomputed :
      (((Host.runScripts 2 0 .report true stoppingScripts).outcome session).1.toOption.any
          fun success => !success) = true ∧
        Entry.written .report
          ((Host.runScripts 2 0 .report true stoppingScripts).outcome session).2.journal =
            "Exception: a\nEnd: 1\n" := by
    decide +kernel
  obtain ⟨success, hends, hfailed⟩ := Host.exists_ends hcomputed.1
  rw [Bool.not_eq_true'] at hfailed
  subst hfailed
  obtain ⟨runs, last, hscripts, -, -, hwritten, -⟩ := runScripts_batch hends
  refine ⟨runs, _, hends, hscripts.trans (by decide +kernel), ?_⟩
  rw [← hcomputed.2, hwritten rfl]
  rfl

end ScriptShell
