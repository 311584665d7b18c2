import ScriptShell.Proofs.Language.LoadCalls
import ScriptShell.Proofs.Likeness.Executions

/-!
# Files that are executed and files that are loaded

A script file may be executed by the shell itself or loaded by an inline script that does nothing
else. The shell evaluates the file in the outermost frame and drains the jobs behind it; `load`
evaluates it inside the frame of the inline script, which the jobs are left to. As long as no limit
is reached both come to the same (`file_executes_like_load`).

What is taken for granted of the engine is that script code cannot tell what is already in use when
it starts, unless a limit is reached. The interpreter is such an engine.
-/

namespace ScriptShell

section Agreement

variable {engine : Engine} {environment : Realm} {inline path : String}

namespace ScriptRun

variable {reached : engine.Store → Bool}

theorem entries_released (out : Channel) (files : Files)
    (run : ScriptRun (engine.stoppingAt reached)) :
    run.released.entries out files = run.entries out files := by
  unfold entries
  rw [show run.released.outcome = run.outcome.released from rfl, Evaluated.exception_released]
  rfl

/-- What agrees where the engine stops early agrees on the engine itself. -/
theorem Agrees.released {file inlined : ScriptRun (engine.stoppingAt reached)}
    {same : engine.Value → engine.Value → Prop} {out : Channel} {files : Files} {path : String}
    (h : file.Agrees inlined same out files path) :
    file.released.Agrees inlined.released same out files path where
  completed := by
    obtain ⟨value, own, hfile, hinlined, hsame⟩ := h.completed
    exact ⟨value, own, congrArg Evaluated.released hfile, congrArg Evaluated.released hinlined,
      hsame⟩
  succeeded := h.succeeded
  loads := h.loads
  text_eq := h.text_eq
  rendering := h.rendering
  written_eq := by
    rw [entries_released, entries_released]
    exact h.written_eq

end ScriptRun

/-! ## The driver and `load` agree -/

variable {reached : engine.Store → Bool} {budget nested : Nat} {out : Channel} {dump : Bool}
  {session fileAfter : Session engine} {execution : Execution}

/-- Where a file is executed without an exception, so is an inline script that only loads the file
and completes with what `load` gives. Both complete with the same and write the same, and they leave
the same state of the engine, the same jobs and the same sampling flags behind. The jobs of the file
run in the same order, once the file has completed.

The likeness says what script code cannot tell apart until a limit is reached, such as states in
which different calls are in progress. It cannot be `faithful`, since the two look at the clock at
different times. -/
theorem file_executes_like_load
    {likeness : Likeness (engine.stoppingAt reached) (engine.stoppingAt reached)}
    (hsound : likeness.Sound) (hloose : ¬ likeness.faithful)
    (hframes : session.frames = []) (hjobs : ∀ job ∈ session.jobs, likeness.Job job.2 job.2)
    (load : LoadCall engine environment session.options session.store inline path)
    (honly : load.Only likeness.Store likeness.Value)
    (hfile : (Script.file path).StaysWithin reached budget environment out dump session)
    (hinline : (Script.inline inline).StaysWithin reached nested environment out dump session)
    (hends : Host.Ends (Host.execute budget environment out dump (.file path)) session
      (.ok execution) fileAfter)
    (hsucceeded : execution.succeeded = true) :
    ∃ (file inlined : ScriptRun engine) (inlineAfter : Session engine),
      file.script = .file path ∧ file.execution = execution ∧
      file.Executes budget environment out dump session fileAfter ∧
      inlined.script = .inline inline ∧
      inlined.Executes nested environment out dump session inlineAfter ∧
      Host.Ends (Host.execute nested environment out dump (.inline inline)) session
        (.ok inlined.execution) inlineAfter ∧
      file.Agrees inlined likeness.Value out session.files path ∧
      likeness.LeftAlike path (session.stoppingAt reached) (fileAfter.stoppingAt reached)
        (inlineAfter.stoppingAt reached) := by
  obtain ⟨_, behind, hbehind, rfl, rfl⟩ :=
    (@Host.realizes_execute engine reached budget environment out dump
      (.file path)).ends_of_released hfile hends
  rcases Host.windowedRun hbehind with ⟨_, -, hresult, -⟩ | ⟨file, hscript, hresult, hruns, hwindow⟩
  · cases hresult
  obtain rfl : execution = file.execution := Except.ok.inj hresult
  have hnone := hruns.succeeded_eq.symm.trans hsucceeded
  cases houtcome : file.outcome with
  | threw fault info =>
      rw [houtcome] at hnone
      cases hnone
  | completed value =>
      have hnoFrames : (session.stoppingAt reached).frames = [] := hframes
      have hwaiting : ∀ job ∈ (session.stoppingAt reached).jobs, likeness.Job job.2 job.2 :=
        hjobs
      obtain ⟨result, last, hlast⟩ := Host.exists_ends_executeInline hsound hloose hnoFrames
        hwaiting load honly hruns hscript houtcome hinline
      obtain ⟨evaluation, inlined, rfl, hfileRuns, hinlined, hinlineRuns, hagrees, hleft⟩ :=
        Host.agrees_executeInline hsound hloose hnoFrames hwaiting load honly hruns hscript houtcome
          hwindow hlast
      obtain ⟨_, rfl, hreleased⟩ := (@Host.realizes_execute engine reached nested environment out
        dump (.inline inline)).ends hlast
      exact ⟨_, inlined.released, last.released, hscript, rfl, hfileRuns.released, hinlined,
        hinlineRuns.released, hreleased, hagrees.released, hleft⟩

end Agreement

/-! ## A file that leaves a job -/

namespace Steps

/-- A file that queues a job before it writes something, and that leaves a global variable. -/
def files : Files :=
  Files.empty.addFile "steps.js" (Bytes.ofString
    "Promise.resolve('second').then(print); print('first'); var left = 'done'; left")

/-- A session of the interpreter with an environment. -/
def session : Session Language.engine :=
  ((Host.createEnvironment []).run.outcome
    (Session.start Language.engine {} false [] files (.ticking 0))).2

/-- What the file comes to where the engine stops at limits. -/
abbrev executed : Except Halt (Except Failure Execution) ×
    Session (Language.engine.stoppingAt Language.Store.limited) :=
  (Host.execute 9 1 .report true (.file "steps.js")).outcome
    (session.stoppingAt Language.Store.limited)

/-- No limit is reached, and scripts find `load` in the session. -/
theorem computed : session.frames = [] ∧
    (executed.1.toOption.any (fun result => match result with
      | .ok execution => execution.succeeded
      | .error _ => false) = true ∧
      Entry.written .stdout executed.2.journal = "first\nsecond\n" ∧
      Entry.written .report executed.2.journal = "End: done\n") ∧
    ((Host.execute 9 1 .report true (.inline "load('steps.js')")).outcome
      (session.stoppingAt Language.Store.limited)).1.isOk = true ∧
    ((Language.parseScript session.options "load('steps.js')").toOption.bind
      Language.Code.loads?) = some (WideText.ofString "steps.js") ∧
    Language.Store.native? (Language.Store.idle session.store) 1 "load" = some (.load, 1) ∧
    (Language.Store.load session.store).activations + 1 <
      (Language.Store.limits session.store).depth ∧
    (Language.Store.load session.store).slots + 2 <
      (Language.Store.limits session.store).slots := by
  decide +kernel

theorem exists_loadCall :
    ∃ load : LoadCall Language.engine 1 session.options session.store "load('steps.js')" "steps.js",
      load.Only Language.likeness.Store Language.likeness.Value := by
  obtain ⟨-, -, -, hloads, hnative, hdepth, hslots⟩ := computed
  cases hparse : Language.parseScript session.options "load('steps.js')" with
  | error fault =>
      rw [hparse] at hloads
      cases hloads
  | ok code =>
      rw [hparse] at hloads
      exact Language.exists_loadCall hparse hloads (WideText.escaped_ofString _) hnative hdepth
        hslots

/-- The file comes to its end without reaching a limit. -/
theorem ends_file : ∃ execution fileAfter,
    Host.Ends (Host.execute 9 1 .report true (.file "steps.js"))
      (session.stoppingAt Language.Store.limited) (.ok execution) fileAfter ∧
      execution.succeeded = true ∧ Entry.written .stdout fileAfter.journal = "first\nsecond\n" ∧
      Entry.written .report fileAfter.journal = "End: done\n" := by
  obtain ⟨-, ⟨hsucceeds, hprinted, hdumped⟩, -⟩ := computed
  obtain ⟨result, hends, hsucceeded⟩ := Host.exists_ends hsucceeds
  cases result with
  | error failure => cases hsucceeded
  | ok execution => exact ⟨execution, _, hends, hsucceeded, hprinted, hdumped⟩

end Steps

/-- The file is executed, and loaded by a script of the interpreter one activation deeper. -/
theorem file_executes_like_load_steps :
    ∃ (file inlined : ScriptRun Language.engine) (fileAfter inlineAfter : Session Language.engine),
      file.Executes 9 1 .report true Steps.session fileAfter ∧
      inlined.script = .inline "load('steps.js')" ∧
      inlined.Executes 9 1 .report true Steps.session inlineAfter ∧
      file.Agrees inlined Eq .report Steps.session.files "steps.js" ∧
      Language.Store.idle inlineAfter.store = Language.Store.idle fileAfter.store ∧
      Entry.written .stdout fileAfter.journal = "first\nsecond\n" ∧
      Entry.written .report fileAfter.journal = "End: done\n" := by
  obtain ⟨hframes, -, hinlineOk, -⟩ := Steps.computed
  obtain ⟨execution, stopped, hends, hsucceeded, hprinted, hdumped⟩ := Steps.ends_file
  have hfile : (Script.file "steps.js").StaysWithin Language.Store.limited 9 1 .report true
      Steps.session := by
    unfold Script.StaysWithin
    rw [show Host.outcome _ _ = _ from hends]
    exact fun h => by cases h
  have hinline : (Script.inline "load('steps.js')").StaysWithin Language.Store.limited 9 1 .report
      true Steps.session :=
    Script.staysWithin_of_isOk hinlineOk
  obtain ⟨_, rfl, hfileEnds⟩ := (Host.realizes_execute (.file "steps.js")).ends hends
  obtain ⟨load, honly⟩ := Steps.exists_loadCall
  obtain ⟨file, inlined, inlineAfter, -, -, hruns, hscript, hinlineRuns, -, hagrees, hleft⟩ :=
    file_executes_like_load Language.sound_likeness id hframes (fun _ _ => rfl) load honly
      hfile hinline hfileEnds hsucceeded
  exact ⟨file, inlined, stopped.released, inlineAfter, hruns, hscript, hinlineRuns, hagrees,
    hleft.coupled.store, hprinted, hdumped⟩

end ScriptShell
