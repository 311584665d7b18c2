import ScriptShell.Proofs.Session.Passage
import ScriptShell.Proofs.Session.Reading
import ScriptShell.Proofs.Session.Standing

/-!
# One script of a batch

What happens when a script is loaded and evaluated, part by part: the evaluation, what is written
of it, and the shell's own housekeeping around both. `ScriptRun` holds the parts of one script,
`ScriptRun.Executes` says how they hang together, and `windowedRun` takes an execution apart.
-/

namespace ScriptShell

variable {engine : Engine}

/-! ## Loading a script -/

namespace Script

/-- The name and the source text of a script, in view of some files. -/
def opened (files : Files) : Script → Except Failure (String × String)
  | .inline code => .ok (Host.commandLineSource, code)
  | .file path =>
    match files.read path with
    | .ok content => .ok (path, (SourceBuffer.ofFile content).text)
    | .error _ => .error (.file path)

/-- The name under which a script is evaluated. -/
def sourceName : Script → String
  | .inline _ => Host.commandLineSource
  | .file path => path

theorem name_of_opened {files : Files} {script : Script} {name source : String}
    (hopened : script.opened files = .ok (name, source)) : name = script.sourceName := by
  cases script with
  | inline code =>
      cases hopened
      rfl
  | file path =>
      simp only [opened] at hopened
      split at hopened
      · cases hopened
        rfl
      · cases hopened

/-- Whether a script can be read. -/
def readable (files : Files) (script : Script) : Bool :=
  (script.opened files).isOk

/-- Only script files cannot be read. -/
theorem eq_file_of_opened_eq_error {files : Files} {script : Script} {failure : Failure}
    (hopened : script.opened files = .error failure) :
    script = .file script.payload ∧ failure = .file script.payload ∧
      (files.read script.payload).isOk = false := by
  cases script with
  | inline code => cases hopened
  | file path =>
      cases hread : files.read path with
      | ok content => simp [opened, hread] at hopened
      | error error =>
          simp only [opened, hread, Except.error.injEq] at hopened
          refine ⟨rfl, hopened.symm, ?_⟩
          rw [payload, hread]
          rfl

/-- What loading a script leaves in the journal. -/
def reads (files : Files) : Script → List Entry
  | .inline _ => []
  | .file path => [.fileRead path (files.read path).isOk]

end Script

/-- What was thrown, if anything was. -/
def Evaluated.exception : Evaluated engine → Option ExceptionInfo
  | .completed _ => none
  | .threw _ info => some info

/-- The lines of a stack text as a report shows them. -/
def ExceptionInfo.stackReport (info : ExceptionInfo) : String :=
  match info.stack with
  | none => ""
  | some lines => "\n".intercalate lines ++ "\n"

theorem ExceptionInfo.report_eq (info : ExceptionInfo) :
    info.report = "Exception: " ++ info.message ++ "\n" ++ info.stackReport := by
  unfold report stackReport headline
  cases info.stack <;> simp [String.append_assoc]

/-! ## Housekeeping -/

/-- Between two sessions the shell only looked at the clock for its own purposes, kept the sampler
and left entries. -/
structure Tended (session : Session engine) (entries : List Entry) (after : Session engine) :
    Prop where
  after_eq : after = { session with
    clock := after.clock
    sampler := after.sampler
    history := entries.reverse ++ session.history }
  enabled_eq : after.sampler.enabled = session.sampler.enabled
  told_eq : after.clock.told = session.clock.told

namespace Tended

variable {session middle after : Session engine} {first second entries : List Entry}

theorem append (hfirst : Tended session first middle) (hsecond : Tended middle second after) :
    Tended session (first ++ second) after := by
  constructor
  · rw [hsecond.after_eq, hfirst.after_eq]
    simp
  · exact hsecond.enabled_eq.trans hfirst.enabled_eq
  · exact hsecond.told_eq.trans hfirst.told_eq

theorem noteAll (session : Session engine) (entries : List Entry) :
    Tended session entries (session.noteAll entries) :=
  ⟨rfl, rfl, rfl⟩

theorem note (session : Session engine) (entry : Entry) :
    Tended session [entry] (session.note entry) :=
  ⟨rfl, rfl, rfl⟩

theorem looked (session : Session engine) {look : Look} (hlook : look ≠ .call) :
    Tended session [] (session.looked look) :=
  ⟨rfl, rfl, Clock.told_looked_of_ne hlook⟩

theorem journal_eq (h : Tended session entries after) :
    after.journal = session.journal ++ entries := by
  rw [h.after_eq]
  simp [Session.journal]

theorem frames_eq (h : Tended session entries after) : after.frames = session.frames := by
  rw [h.after_eq]

theorem jobs_eq (h : Tended session entries after) : after.jobs = session.jobs := by
  rw [h.after_eq]

theorem files_eq (h : Tended session entries after) : after.files = session.files := by
  rw [h.after_eq]

theorem profile_eq (h : Tended session entries after) : after.profile = session.profile := by
  rw [h.after_eq]

end Tended

/-! ## Executing a script -/

namespace Host

variable {session after : Session engine}

theorem ends_openScript {script : Script} {result : Except Failure (String × String)} :
    Ends (openScript script) session result after ↔
      result = script.opened session.files ∧
        after = session.noteAll (script.reads session.files) := by
  cases script with
  | inline code => exact ends_pure
  | file path =>
      have hopen : (openScript (.file path) : Host engine _) = readFile path >>= fun content =>
          pure (match content with
            | .ok content => .ok (path, (SourceBuffer.ofFile content).text)
            | .error _ => .error (.file path)) := by
        refine bind_congr fun content => ?_
        cases content <;> rfl
      rw [hopen, ends_bind]
      constructor
      · rintro ⟨content, middle, hread, hends⟩
        obtain ⟨rfl, rfl⟩ := ends_readFile.mp hread
        exact ends_pure.mp hends
      · rintro ⟨rfl, rfl⟩
        exact ⟨_, _, ends_readFile.mpr ⟨rfl, rfl⟩, ends_pure.mpr ⟨rfl, rfl⟩⟩

/-- A window is opened at the instant that the clock shows, which only one that is recording looks
at. -/
theorem ends_openWindow {script : String} {window : Window} :
    Ends (openWindow script) session window after ↔
      window = (session.sampler.openWindow script (session.clock.instant .window)).1 ∧
        after = { session with
          sampler := (session.sampler.openWindow script (session.clock.instant .window)).2
          clock := if session.sampler.records then session.clock.looked .window
            else session.clock } := by
  unfold openWindow
  rw [ends_get_bind]
  by_cases hrecords : session.sampler.records = true
  · rw [if_pos hrecords, if_pos hrecords, ends_now_bind, ends_modifyGet, Prod.mk.injEq]
    exact and_congr eq_comm eq_comm
  · rw [if_neg hrecords, if_neg hrecords, ends_pure]
    unfold Sampler.openWindow
    rw [if_neg hrecords]

theorem exists_ends_openWindow (script : String) (session : Session engine) :
    ∃ window after, Ends (openWindow script) session window after :=
  ⟨_, _, ends_openWindow.mpr ⟨rfl, rfl⟩⟩

/-- A window is closed at the instant that the clock shows, which only one that is recording looks
at. -/
theorem ends_closeWindow {window : Window} {result : Unit} :
    Ends (closeWindow window) session result after ↔
      after = { session with
        sampler := session.sampler.closeWindow window (session.clock.instant .window) session.flags
        clock := if window.isRecording then session.clock.looked .window else session.clock } := by
  unfold closeWindow
  by_cases hrecording : window.isRecording = true
  · rw [if_pos hrecording, if_pos hrecording, ends_now_bind, ends_modify]
    exact Iff.rfl
  · obtain ⟨script, opened⟩ := window
    rw [if_neg hrecording, if_neg hrecording, ends_pure]
    cases opened with
    | none => exact and_iff_right rfl
    | some instant => exact absurd rfl hrecording

theorem ends_elapsedMillis {wanted : Bool} {began : Nat} {result : Option Nat} :
    Ends (elapsedMillis wanted began : Host engine (Option Nat)) session result after ↔
      if wanted then
        result = some (min ((session.clock.instant .script - began) / 1000000) (UInt64.size - 1)) ∧
          after = session.looked .script
      else result = none ∧ after = session := by
  unfold elapsedMillis
  split
  · rw [ends_now_bind, ends_pure]
  · rw [ends_pure]

theorem not_halts_elapsedMillis {wanted : Bool} {began : Nat} {halt : Halt}
    {cut : Session engine} :
    ¬ Halts (elapsedMillis wanted began : Host engine (Option Nat)) session halt cut := by
  cases wanted with
  | true => rintro ⟨⟩
  | false => rintro ⟨⟩

private theorem told_ite_looked (looks : Bool) :
    (if looks then session.clock.looked .window else session.clock).told = session.clock.told := by
  cases looks with
  | true => exact Clock.told_looked_of_ne (by decide)
  | false => rfl

theorem tended_openWindow {script : String} {window : Window}
    (hends : Ends (openWindow script) session window after) : Tended session [] after := by
  obtain ⟨-, rfl⟩ := ends_openWindow.mp hends
  refine ⟨rfl, ?_, told_ite_looked _⟩
  show (session.sampler.openWindow script (session.clock.instant .window)).2.enabled = _
  unfold Sampler.openWindow
  split <;> rfl

theorem tended_closeWindow {window : Window} {result : Unit}
    (hends : Ends (closeWindow window) session result after) : Tended session [] after := by
  rw [ends_closeWindow.mp hends]
  refine ⟨rfl, ?_, told_ite_looked _⟩
  show (session.sampler.closeWindow window (session.clock.instant .window)
    session.flags).enabled = _
  unfold Sampler.closeWindow
  split <;> rfl

theorem tended_elapsedMillis {wanted : Bool} {began : Nat} {result : Option Nat}
    (hends : Ends (elapsedMillis wanted began) session result after) : Tended session [] after := by
  have hended := ends_elapsedMillis.mp hends
  split at hended
  · rw [hended.2]
    exact .looked session (by decide)
  · rw [hended.2]
    exact .noteAll session []

end Host

/-- What is reported of an outcome, from the session behind the evaluation on: the text, what its
computation left in the journal, and the session behind it. -/
inductive Reports (budget : Nat) (environment : Realm) (dump : Bool) :
    Evaluated engine → Session engine → Option String → List Entry → Session engine → Prop
  | threw {fault : engine.Fault} {info : ExceptionInfo} {session : Session engine} :
      Reports budget environment dump (.threw fault info) session
        (some ("Exception: " ++ info.message ++ "\n" ++ info.stackReport)) [] session
  | silent {value : engine.Value} {session : Session engine} (hdump : dump = false) :
      Reports budget environment dump (.completed value) session none [] session
  | dumped {value : engine.Value} {session after : Session engine} {text : String}
      {entries : List Entry} (hdump : dump = true)
      (hends : Host.Ends (Host.stringifyIn budget environment value) session text after)
      (hcourse : Course .script session entries after) :
      Reports budget environment dump (.completed value) session (some ("End: " ++ text ++ "\n"))
        entries after

theorem Reports.course {budget : Nat} {environment : Realm} {dump : Bool}
    {outcome : Evaluated engine} {session after : Session engine} {text : Option String}
    {entries : List Entry}
    (h : Reports budget environment dump outcome session text entries after) :
    Course .script session entries after := by
  cases h with
  | threw => exact .stay
  | silent hdump => exact .stay
  | dumped hdump hends hcourse => exact hcourse

/-- Script code runs for a report only where a completion value is dumped. -/
theorem Reports.entries_eq_nil {budget : Nat} {environment : Realm} {dump : Bool}
    {outcome : Evaluated engine} {session after : Session engine} {text : Option String}
    {entries : List Entry} (h : Reports budget environment dump outcome session text entries after)
    (hsilent : dump = false ∨ outcome.exception ≠ none) : entries = [] := by
  cases h with
  | threw => rfl
  | silent hdump => rfl
  | dumped hdump hends hcourse =>
      rcases hsilent with hsilent | hsilent
      · rw [hdump] at hsilent
        cases hsilent
      · exact absurd rfl hsilent

/-- One script that was loaded and evaluated. -/
structure ScriptRun (engine : Engine) where
  script : Script
  name : String
  source : String
  /-- The session in which the evaluation began. -/
  begun : Session engine
  outcome : Evaluated engine
  /-- The session behind the evaluation. -/
  evaluated : Session engine
  /-- The evaluation as it stands in the journal. -/
  evaluation : Evaluation
  /-- What was written of the outcome. -/
  text : Option String
  /-- What computing that text left in the journal. -/
  rendering : List Entry
  /-- The session in which the text was written. -/
  rendered : Session engine
  execution : Execution

namespace ScriptRun

/-- What a script leaves in the journal. -/
def entries (out : Channel) (files : Files) (run : ScriptRun engine) : List Entry :=
  run.script.reads files ++ [.logged (.evaluating run.name)] ++ run.evaluation.entries ++
    run.rendering ++ (run.text.map (Entry.wrote out)).toList ++
    [.logged (.finished run.name run.outcome.exception.isNone)]

/-- How the parts of a script that was executed hang together. -/
structure Executes (budget : Nat) (environment : Realm) (out : Channel) (dump : Bool)
    (session : Session engine) (run : ScriptRun engine) (after : Session engine) : Prop where
  opened : run.script.opened session.files = .ok (run.name, run.source)
  begins : Tended session (run.script.reads session.files ++ [.logged (.evaluating run.name)])
    run.begun
  evaluates : Host.Ends (Host.evaluateIn budget environment run.source run.name) run.begun
    run.outcome run.evaluated
  course : Course .script run.begun run.evaluation.entries run.evaluated
  name_eq : run.evaluation.name = run.name
  reports : Reports budget environment dump run.outcome run.evaluated run.text run.rendering
    run.rendered
  finishes : Tended run.rendered ((run.text.map (Entry.wrote out)).toList ++
    [.logged (.finished run.name run.outcome.exception.isNone)]) after
  succeeded_eq : run.execution.succeeded = run.outcome.exception.isNone
  exception_eq : run.execution.exception = run.outcome.exception
  elapsed_eq : run.execution.elapsedMillis.isSome =
    (session.sampler.enabled || session.profile.isSome)

/-- The sampling window of a script, opened before its evaluation and closed behind its report. -/
def Windowed (session : Session engine) (run : ScriptRun engine) (after : Session engine) : Prop :=
  ∃ window opening closing,
    session.sampler.openWindow run.name opening = (window, run.begun.sampler) ∧
    after.sampler = run.rendered.sampler.closeWindow window closing run.rendered.flags

namespace Executes

variable {budget : Nat} {environment : Realm} {out : Channel} {dump : Bool}
  {session after : Session engine} {run : ScriptRun engine}

theorem journal_eq (h : run.Executes budget environment out dump session after) :
    after.journal = session.journal ++ run.entries out session.files := by
  rw [h.finishes.journal_eq, h.reports.course.journal_eq, h.course.journal_eq,
    h.begins.journal_eq]
  simp [entries]

theorem files_eq (h : run.Executes budget environment out dump session after) :
    after.files = session.files := by
  rw [h.finishes.files_eq, h.reports.course.files_eq, h.course.files_eq, h.begins.files_eq]

/-- Executing a script leaves what decides about timing as it is. -/
theorem instrumented_eq (h : run.Executes budget environment out dump session after) :
    (after.sampler.enabled || after.profile.isSome) =
      (session.sampler.enabled || session.profile.isSome) := by
  rw [h.finishes.enabled_eq, h.finishes.profile_eq, h.reports.course.sampler_eq,
    h.reports.course.profiling_eq, h.course.sampler_eq, h.course.profiling_eq,
    h.begins.enabled_eq, h.begins.profile_eq]

/-- Script code leaves the sampler to the window around it. -/
theorem sampler_eq (h : run.Executes budget environment out dump session after)
    (hwindow : run.Windowed session after) :
    ∃ opening closing, after.sampler =
      (session.sampler.openWindow run.name opening).2.closeWindow
        (session.sampler.openWindow run.name opening).1 closing run.rendered.flags := by
  obtain ⟨window, opening, closing, hopen, hclose⟩ := hwindow
  refine ⟨opening, closing, ?_⟩
  rw [hclose, h.reports.course.sampler_eq, h.course.sampler_eq, hopen]

end Executes

end ScriptRun

namespace Host

variable {budget : Nat} {environment : Realm} {out : Channel} {dump : Bool}
  {session after : Session engine}

/-- An evaluation in an environment comes to its end inside the realm of the environment. -/
theorem evaluationRun_of_evaluateIn {source name : String} {outcome : Evaluated engine}
    (hends : Ends (evaluateIn budget environment source name) session outcome after) :
    ∃ inside, Nonempty (EvaluationRun (answer budget) source name
      { session with realm := environment } outcome inside) ∧
      after = { inside with realm := session.realm } := by
  obtain ⟨inside, hinside, rfl⟩ := ends_withRealm.mp hends
  exact ⟨inside, evaluationRun (follows_answer budget) hinside, rfl⟩

private theorem ends_report {source name : String} {exception : Option ExceptionInfo}
    (hends : Ends (report budget environment out dump source name) session exception after) :
    ∃ outcome evaluated text entries rendered,
      Ends (evaluateIn budget environment source name) session outcome evaluated ∧
      Reports budget environment dump outcome evaluated text entries rendered ∧
      after = rendered.noteAll (text.map (Entry.wrote out)).toList ∧
      exception = outcome.exception := by
  unfold report at hends
  obtain ⟨outcome, evaluated, hevaluate, hends⟩ := ends_bind.mp hends
  cases outcome with
  | threw fault info =>
      obtain ⟨_, _, hwrite, hends⟩ := ends_bind.mp hends
      obtain ⟨rfl, rfl⟩ := ends_pure.mp hends
      rw [ends_note.mp hwrite, info.report_eq]
      exact ⟨_, _, _, _, _, hevaluate, .threw, rfl, rfl⟩
  | completed value =>
      cases dump with
      | false =>
          obtain ⟨rfl, rfl⟩ := ends_pure.mp hends
          exact ⟨_, _, _, _, _, hevaluate, .silent rfl, rfl, rfl⟩
      | true =>
          obtain ⟨text, rendered, hstringify, hends⟩ := ends_bind.mp hends
          obtain ⟨_, _, hwrite, hends⟩ := ends_bind.mp hends
          obtain ⟨rfl, rfl⟩ := ends_pure.mp hends
          rw [ends_note.mp hwrite]
          obtain ⟨entries, hcourse⟩ := follows_stringifyIn budget environment value hstringify
          exact ⟨_, _, _, _, _, hevaluate, .dumped rfl hstringify hcourse, rfl, rfl⟩

/-- An execution fails where the script cannot be read. Otherwise it has its parts, with a sampling
window around them. -/
theorem windowedRun {script : Script} {result : Except Failure Execution}
    (hends : Ends (execute budget environment out dump script) session result after) :
    (∃ failure, script.opened session.files = .error failure ∧ result = .error failure ∧
      after = session.noteAll (script.reads session.files)) ∨
    ∃ run : ScriptRun engine, run.script = script ∧ result = .ok run.execution ∧
      run.Executes budget environment out dump session after ∧ run.Windowed session after := by
  unfold execute at hends
  obtain ⟨opened, _, hopened, hends⟩ := ends_bind.mp hends
  obtain ⟨hname, rfl⟩ := ends_openScript.mp hopened
  subst hname
  cases hname : script.opened session.files with
  | error failure =>
      simp only [hname, ends_pure] at hends
      exact .inl ⟨failure, rfl, hends⟩
  | ok loaded =>
      obtain ⟨name, source⟩ := loaded
      simp only [hname] at hends
      obtain ⟨_, _, hlog, hends⟩ := ends_bind.mp hends
      rw [ends_note.mp hlog, ends_get_bind, ends_now_bind] at hends
      obtain ⟨window, begun, hopen, hends⟩ := ends_bind.mp hends
      obtain ⟨exception, reported, hreport, hends⟩ := ends_bind.mp hends
      obtain ⟨outcome, evaluated, text, rendering, rendered, hevaluate, hreports, rfl, rfl⟩ :=
        ends_report hreport
      obtain ⟨_, closed, hclose, hends⟩ := ends_bind.mp hends
      obtain ⟨millis, told, htold, hends⟩ := ends_bind.mp hends
      obtain ⟨_, _, hfinished, hends⟩ := ends_bind.mp hends
      rw [ends_note.mp hfinished, ends_pure] at hends
      obtain ⟨rfl, rfl⟩ := hends
      obtain ⟨inside, ⟨run⟩, rfl⟩ := evaluationRun_of_evaluateIn hevaluate
      have hbegins : Tended session (script.reads session.files ++ [.logged (.evaluating name)])
          begun := by
        simpa using (Tended.noteAll session (script.reads session.files)).append
          ((Tended.note _ (.logged (.evaluating name))).append
            ((Tended.looked _ (by decide)).append (tended_openWindow hopen)))
      have hfinishes := (Tended.noteAll rendered (text.map (Entry.wrote out)).toList).append
        ((tended_closeWindow hclose).append ((tended_elapsedMillis htold).append
          (Tended.note _ (.logged (.finished name outcome.exception.isNone)))))
      have hwindow : session.sampler.openWindow name (session.clock.instant .window) =
          (window, begun.sampler) := by
        obtain ⟨hwindow, hbegun⟩ := ends_openWindow.mp hopen
        rw [hwindow, hbegun]
        rfl
      have hkept : told.sampler = closed.sampler ∧
          millis.isSome = (session.sampler.enabled || session.profile.isSome) := by
        have hended := ends_elapsedMillis.mp htold
        split at hended
        · rename_i hwanted
          rw [hended.1, hended.2]
          exact ⟨rfl, hwanted.symm⟩
        · rename_i hunwanted
          rw [hended.1, hended.2]
          exact ⟨rfl, (Bool.not_eq_true _ ▸ hunwanted : _ = false).symm⟩
      have hclosing := hkept.1.trans (congrArg Session.sampler (ends_closeWindow.mp hclose))
      refine .inr ⟨⟨script, name, source, begun, outcome, _, run.evaluation, text, rendering,
        rendered, _⟩, rfl, rfl, ⟨hname, hbegins, hevaluate, .inRealm environment run.course, rfl,
        hreports, ?_, rfl, rfl, ?_⟩, window, _, _, hwindow, hclosing⟩
      · simpa using hfinishes
      · exact hkept.2

theorem scriptRun {script : Script} {result : Except Failure Execution}
    (hends : Ends (execute budget environment out dump script) session result after) :
    (∃ failure, script.opened session.files = .error failure ∧ result = .error failure ∧
      after = session.noteAll (script.reads session.files)) ∨
    ∃ run : ScriptRun engine, run.script = script ∧ result = .ok run.execution ∧
      run.Executes budget environment out dump session after := by
  rcases windowedRun hends with hfailed | ⟨run, hscript, hresult, hrun, -⟩
  · exact .inl hfailed
  · exact .inr ⟨run, hscript, hresult, hrun⟩

/-- An execution that is cut off has read its script and is cut off where that is reported on. -/
theorem halts_execute {script : Script} {halt : Halt} {cut : Session engine}
    (hhalts : Halts (execute budget environment out dump script) session halt cut) :
    ∃ name source begun, script.opened session.files = .ok (name, source) ∧
      Tended session (script.reads session.files ++ [.logged (.evaluating name)]) begun ∧
      Halts (report budget environment out dump source name) begun halt cut := by
  unfold execute at hhalts
  rw [halts_bind_of_ends (ends_openScript.mpr ⟨rfl, rfl⟩)] at hhalts
  cases hopened : script.opened session.files with
  | error failure =>
      simp only [hopened] at hhalts
      cases hhalts
  | ok loaded =>
      obtain ⟨name, source⟩ := loaded
      simp only [hopened] at hhalts
      have hlogged : Ends (log (.evaluating name) : Host engine Unit)
          (session.noteAll (script.reads session.files)) () _ := ends_note.mpr rfl
      rw [halts_bind_of_ends hlogged, halts_bind_of_ends (ends_get.mpr ⟨rfl, rfl⟩),
        halts_bind_of_ends (ends_now.mpr ⟨rfl, rfl⟩)] at hhalts
      obtain ⟨window, begun, hopen⟩ := exists_ends_openWindow name
        (((session.noteAll (script.reads session.files)).note (.logged (.evaluating name))).looked
          .script)
      rw [halts_bind_of_ends hopen] at hhalts
      rcases halts_bind.mp hhalts with hhalts | ⟨exception, reported, -, hhalts⟩
      · refine ⟨name, source, begun, rfl, ?_, hhalts⟩
        simpa using (Tended.noteAll session (script.reads session.files)).append
          ((Tended.note _ (.logged (.evaluating name))).append
            ((Tended.looked _ (by decide)).append (tended_openWindow hopen)))
      · -- behind the report nothing cuts it off any more
        rw [halts_bind_of_ends (ends_closeWindow.mpr rfl : Ends _ _ () _)] at hhalts
        rcases halts_bind.mp hhalts with hhalts | ⟨millis, told, -, hhalts⟩
        · exact absurd hhalts not_halts_elapsedMillis
        · cases hhalts

end Host

end ScriptShell
