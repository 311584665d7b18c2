import ScriptShell.Language.Interpreter
import ScriptShell.Proofs.Sampling.Windows
import ScriptShell.Proofs.Session.Batch
import ScriptShell.Proofs.Session.Reachable

/-!
# The samples of a session

The samples of a session are those of the scripts that its driver loaded while the sampler was
running: the window around a script opens once the script was loaded and closes behind its report,
so that it sees neither what script code evaluates nor the lines of the shell, and none is open
where a step ends. A run starts the sampler and stops it, whether or not it comes to its last
script.

## Main results

* `Host.samples_step`: what one step of a user adds to the samples.
* `samples_of_scripts`: all steps from a new session on.
-/

namespace ScriptShell

variable {engine : Engine}

/-! ## Steps -/

/-- What the user of a session does. -/
inductive SessionStep (engine : Engine) where
  | start
  | stop
  | operate (operation : Operation engine)
  | enter (frame : String)
  | leave

namespace SessionStep

/-- Does a step. -/
def run (budget : Nat) : SessionStep engine → Host engine Unit
  | .start => modify fun session => { session with sampler := session.sampler.start }
  | .stop => modify fun session => { session with sampler := session.sampler.stop }
  | .operate operation => operation.run budget
  | .enter frame => Host.enter frame
  | .leave => Host.leave

/-- Does steps one after another. -/
def runAll (budget : Nat) : List (SessionStep engine) → Host engine Unit
  | [] => return ()
  | step :: rest => do
    step.run budget
    runAll budget rest

/-- The sampler is only started and stopped. -/
def Regular : SessionStep engine → Prop
  | .operate (.changeSampler _) => False
  | _ => True

/-- Whether a step is one of the driver of scripts. -/
def drives : SessionStep engine → Bool
  | .operate (.execute ..) | .operate (.runScripts ..) => true
  | _ => false

/-- Whether the sampler is running while a step is done. -/
def runsDuring (enabled running : Bool) : SessionStep engine → Bool
  | .operate (.runScripts ..) => enabled
  | _ => running

/-- Whether the sampler is running behind a step. -/
def runsBehind (enabled running : Bool) : SessionStep engine → Bool
  | .start => enabled
  | .stop | .operate (.runScripts ..) => false
  | _ => running

/-- The scripts that the driver loaded and evaluated in a step. -/
inductive Loads (budget : Nat) :
    SessionStep engine → Session engine → List (ScriptRun engine) → Session engine → Prop
  | execute {environment : Realm} {out : Channel} {dump : Bool} {session after : Session engine}
      {run : ScriptRun engine}
      (hrun : run.Executes budget environment out dump session after) :
      Loads budget (.operate (.execute environment out dump run.script)) session [run] after
  | unreadable {environment : Realm} {out : Channel} {dump : Bool} {script : Script}
      {session after : Session engine} (hunreadable : script.readable session.files = false) :
      Loads budget (.operate (.execute environment out dump script)) session [] after
  | runScripts {environment : Realm} {out : Channel} {dump : Bool} {scripts : List Script}
      {runs : List (ScriptRun engine)} {session last after : Session engine}
      (hscripts : runs.map ScriptRun.script = scripts.takeWhile (Script.readable session.files))
      (hbatch : Batch budget environment out dump
        { session with sampler := session.sampler.start } runs last) :
      Loads budget (.operate (.runScripts environment out dump scripts)) session runs after
  | other {step : SessionStep engine} {session after : Session engine}
      (hother : step.drives = false) : Loads budget step session [] after

end SessionStep

/-- Steps one after another, with the scripts that each of them loaded. -/
inductive Sitting (budget : Nat) : Session engine →
    List (SessionStep engine × List (ScriptRun engine)) → Session engine → Prop
  | nil {session : Session engine} : Sitting budget session [] session
  | cons {session middle after : Session engine} {step : SessionStep engine}
      {runs : List (ScriptRun engine)}
      {rest : List (SessionStep engine × List (ScriptRun engine))}
      (hends : Host.Ends (step.run budget) session () middle)
      (hloads : step.Loads budget session runs middle)
      (hrest : Sitting budget middle rest after) :
      Sitting budget session ((step, runs) :: rest) after

/-- Of the scripts that steps loaded, those that were loaded while the sampler was running. -/
def sampledRuns (enabled : Bool) :
    Bool → List (SessionStep engine × List (ScriptRun engine)) → List (ScriptRun engine)
  | _, [] => []
  | running, (step, runs) :: rest =>
    (if step.runsDuring enabled running then runs else []) ++
      sampledRuns enabled (step.runsBehind enabled running) rest

/-! ## What a sampler gains -/

/-- What a sample says of a script besides the time that it took. -/
def Sample.label (sample : Sample) : String × UInt32 :=
  (sample.script, sample.flags)

/-- A script and the flags behind its report. -/
def ScriptRun.label (run : ScriptRun engine) : String × UInt32 :=
  (run.script.sourceName, run.rendered.flags.bits)

/-- No window is open, and the sampler has samples of some scripts more. -/
structure Sampler.Gains (sampler : Sampler) (runs : List (ScriptRun engine)) (after : Sampler) :
    Prop where
  closed : after.windowOpen = false
  enabled_eq : after.enabled = sampler.enabled
  labels_eq : after.samples.map Sample.label =
    sampler.samples.map Sample.label ++ runs.map ScriptRun.label

namespace Sampler.Gains

variable {sampler middle after : Sampler} {first second runs : List (ScriptRun engine)}

theorem refl (hclosed : sampler.windowOpen = false) :
    sampler.Gains ([] : List (ScriptRun engine)) sampler :=
  ⟨hclosed, rfl, by simp⟩

theorem append (hfirst : sampler.Gains first middle) (hsecond : middle.Gains second after) :
    sampler.Gains (first ++ second) after := by
  refine ⟨hsecond.closed, hsecond.enabled_eq.trans hfirst.enabled_eq, ?_⟩
  rw [hsecond.labels_eq, hfirst.labels_eq, List.map_append, List.append_assoc]

/-- Switching a sampler on or off is not noticed in its samples. -/
theorem switched (h : sampler.Gains runs after) (before running : Bool) :
    Gains { sampler with running := before } runs { after with running := running } :=
  ⟨h.closed, h.enabled_eq, h.labels_eq⟩

end Sampler.Gains

/-! ## Scripts -/

section

variable {budget : Nat} {environment : Realm} {out : Channel} {dump : Bool}
  {session after : Session engine}

/-- A script leaves a sample where the sampler is running. -/
theorem ScriptRun.Executes.gains {run : ScriptRun engine}
    (h : run.Executes budget environment out dump session after)
    (hwindow : run.Windowed session after) (hclosed : session.sampler.windowOpen = false) :
    session.sampler.Gains (if session.sampler.running then [run] else []) after.sampler ∧
      after.sampler.running = session.sampler.running := by
  obtain ⟨opening, closing, hsampler⟩ := h.sampler_eq hwindow
  have hrecording := session.sampler.isRecording_openWindow run.name opening
  have hlabel : (run.name, run.rendered.flags.bits) = run.label := by
    rw [Script.name_of_opened h.opened]
    rfl
  rw [hsampler]
  cases hrunning : session.sampler.running with
  | true =>
      rw [Sampler.closeWindow_of_recording _ _ _ (hrecording.mpr ⟨hrunning, hclosed⟩)]
      refine ⟨⟨rfl, by simp, ?_⟩, by simp [hrunning]⟩
      simp [Sample.label, hlabel]
  | false =>
      have hinert : (session.sampler.openWindow run.name opening).1.isRecording = false := by
        rw [← Bool.not_eq_true, hrecording, hrunning]
        simp
      rw [Sampler.closeWindow_of_inert _ _ _ hinert, Sampler.openWindow_snd, hinert,
        Bool.or_false]
      exact ⟨.refl hclosed, hrunning⟩

/-- A batch leaves the samples of its scripts where the sampler is running. -/
theorem WindowedBatch.gains {runs : List (ScriptRun engine)}
    (h : WindowedBatch budget environment out dump session runs after)
    (hclosed : session.sampler.windowOpen = false) :
    session.sampler.Gains (if session.sampler.running then runs else []) after.sampler := by
  induction h with
  | nil =>
      rw [ite_self]
      exact .refl hclosed
  | @cons session middle after run runs hrun hwindow _ ih =>
      obtain ⟨hfirst, hrunning⟩ := hrun.gains hwindow hclosed
      have hboth := hfirst.append (ih hfirst.closed)
      rw [hrunning] at hboth
      cases hsession : session.sampler.running with
      | true => simpa [hsession] using hboth
      | false => simpa [hsession] using hboth

end

/-! ## What leaves the sampler as it is -/

namespace Host

/-- The sampler is the same in both sessions. -/
def SameSampler (session : Session engine) (_ : List Entry) (after : Session engine) : Prop :=
  after.sampler = session.sampler

instance : Chained (@SameSampler engine) where
  stay _ := rfl
  append hfirst hsecond := hsecond.trans hfirst

variable {α : Type} {session after : Session engine}

theorem sameSampler_of_follows {action : Host engine α} (haction : Follows action) :
    Traces SameSampler action := by
  intro session result after hends
  obtain ⟨entries, hcourse⟩ := haction hends
  exact ⟨entries, hcourse.sampler_eq⟩

theorem sameSampler_write (channel : Channel) (text : String) :
    Traces SameSampler (write channel text : Host engine Unit) := by
  intro session result after hends
  rw [ends_note.mp hends]
  exact ⟨[], rfl⟩

/-- Neither evaluations nor what is reported of them changes the sampler. -/
theorem sameSampler_reports : @ReportClosed engine fun _ action => Traces SameSampler action where
  pure := .pure
  bind := .bind
  lookInput _ hnext := .get_bind fun _ => hnext _
  exhausted := @fun _ => Traces.throw _
  write := sameSampler_write
  readLine := sameSampler_of_follows follows_readLine
  readFile path := sameSampler_of_follows (follows_readFile path)
  evaluateIn budget environment source name :=
    sameSampler_of_follows (follows_evaluateIn budget environment source name)
  stringifyIn budget environment value :=
    sameSampler_of_follows (follows_stringifyIn budget environment value)

theorem sameSampler_saveProfile (path : String) :
    Traces SameSampler (Program.saveProfile path : Host engine (Except Failure Unit)) := by
  intro session result after hends
  refine ⟨[], ?_⟩
  have hsaved := ends_saveProfile.mp hends
  split at hsaved
  · rw [hsaved.2]
    rfl
  · split at hsaved <;> rw [hsaved.2] <;> rfl

theorem sameSampler_leave : Traces SameSampler (leave : Host engine Unit) := by
  intro session result after hends
  refine ⟨[], ?_⟩
  cases hframes : session.frames with
  | nil =>
      unfold leave at hends
      rw [ends_get_bind] at hends
      simp only [hframes, ends_pure] at hends
      rw [hends.2]
      rfl
  | cons frame outer =>
      rw [(ends_leave hframes).mp hends]
      rfl

/-- Only the driver of scripts and the switches change the sampler. -/
theorem sameSampler_step (budget : Nat) {step : SessionStep engine} (hregular : step.Regular)
    (hstart : step ≠ .start) (hstop : step ≠ .stop) (hdrives : step.drives = false) :
    Traces SameSampler (step.run budget) := by
  have hdiscard : ∀ {α : Type} {action : Host engine α}, Traces SameSampler action →
      Traces SameSampler (discard action) := fun haction => haction.bind fun _ => .pure _
  cases step with
  | start => exact absurd rfl hstart
  | stop => exact absurd rfl hstop
  | enter frame =>
      intro session result after hends
      rw [ends_enter.mp hends]
      exact ⟨[], rfl⟩
  | leave => exact sameSampler_leave
  | operate operation =>
      cases operation with
      | evaluate environment source name =>
          exact hdiscard (sameSampler_reports.evaluateIn budget environment source name)
      | checkSyntax environment source name =>
          exact hdiscard (sameSampler_of_follows
            (follows_checkSyntaxIn budget environment source name))
      | stringify environment value =>
          exact hdiscard (sameSampler_reports.stringifyIn budget environment value)
      | createEnvironment arguments =>
          exact hdiscard (sameSampler_of_follows (follows_createEnvironment arguments))
      | execute environment out dump script => cases hdrives
      | runScripts environment out dump scripts => cases hdrives
      | shell environment out => exact sameSampler_reports.shell
      | shellOn environment out input => exact hdiscard (sameSampler_reports.shellOn input)
      | changeFlags change => exact sameSampler_of_follows (follows_changeFlags change)
      | changeSampler change => exact hregular.elim
      | saveProfile path => exact hdiscard (sameSampler_saveProfile path)

/-! ## Steps and their samples -/

section

variable {budget : Nat} {environment : Realm} {out : Channel} {dump : Bool}

theorem ends_discard {action : Host engine α} {result : Unit} :
    Ends (discard action) session result after ↔ ∃ value, Ends action session value after := by
  show Ends (action >>= fun _ => pure ()) session result after ↔ _
  rw [ends_bind]
  constructor
  · rintro ⟨value, middle, haction, hpure⟩
    obtain ⟨-, rfl⟩ := ends_pure.mp hpure
    exact ⟨value, haction⟩
  · rintro ⟨value, haction⟩
    exact ⟨value, after, haction, ends_pure.mpr ⟨rfl, rfl⟩⟩

/-- A script that the driver executes by itself is sampled between start and stop. -/
theorem samples_execute {script : Script} {result : Except Failure Execution}
    (hends : Ends (execute budget environment out dump script) session result after)
    (hclosed : session.sampler.windowOpen = false) :
    ∃ runs, SessionStep.Loads budget (.operate (.execute environment out dump script)) session runs
        after ∧
      session.sampler.Gains (if session.sampler.running then runs else []) after.sampler ∧
      after.sampler.running = session.sampler.running := by
  rcases windowedRun hends with ⟨failure, hopened, -, rfl⟩ | ⟨run, rfl, -, hrun, hwindow⟩
  · refine ⟨[], .unreadable ?_, ?_, rfl⟩
    · simp [Script.readable, hopened]
      rfl
    · rw [ite_self]
      exact .refl hclosed
  · exact ⟨[run], .execute hrun, hrun.gains hwindow hclosed⟩

/-- Every script that a run loads is sampled where the sampler is enabled, and the run stops the
sampler. -/
theorem samples_runScripts {scripts : List Script} {success : Bool}
    (hends : Ends (runScripts budget environment out dump scripts) session success after)
    (hclosed : session.sampler.windowOpen = false) :
    ∃ runs, SessionStep.Loads budget (.operate (.runScripts environment out dump scripts)) session
        runs after ∧
      session.sampler.Gains (if session.sampler.enabled then runs else []) after.sampler ∧
      after.sampler.running = false := by
  unfold runScripts at hends
  rw [ends_modify_bind] at hends
  obtain ⟨_, middle, hall, hends⟩ := ends_bind.mp hends
  rw [ends_modify_bind, ends_pure] at hends
  obtain ⟨rfl, rfl⟩ := hends
  obtain ⟨runs, last, hscripts, hbatch, rfl, -⟩ := windowed_executeAll hall
  refine ⟨runs, .runScripts hscripts hbatch.batch, ?_, rfl⟩
  exact (hbatch.gains hclosed).switched session.sampler.running false

end

/-- What a step adds to the samples. -/
theorem samples_step {budget : Nat} {step : SessionStep engine} (hregular : step.Regular)
    (hends : Ends (step.run budget) session () after)
    (hclosed : session.sampler.windowOpen = false) :
    ∃ runs, step.Loads budget session runs after ∧
      session.sampler.Gains
        (if step.runsDuring session.sampler.enabled session.sampler.running then runs else [])
        after.sampler ∧
      after.sampler.running =
        step.runsBehind session.sampler.enabled session.sampler.running := by
  have hnone : ∀ sampled : Bool, session.sampler.Gains
      (if sampled then ([] : List (ScriptRun engine)) else []) session.sampler := by
    intro sampled
    rw [ite_self]
    exact .refl hclosed
  -- where a step neither switches the sampler nor drives scripts, the sampler stays as it is
  have hother : step ≠ .start → step ≠ .stop → step.drives = false →
      after.sampler = session.sampler := by
    intro hstart hstop hdrives
    obtain ⟨_, hsame⟩ := sameSampler_step budget hregular hstart hstop hdrives hends
    exact hsame
  cases step with
  | start =>
      rw [ends_modify.mp hends]
      exact ⟨[], .other rfl, (hnone _).switched session.sampler.running session.sampler.enabled,
        rfl⟩
  | stop =>
      rw [ends_modify.mp hends]
      exact ⟨[], .other rfl, (hnone _).switched session.sampler.running false, rfl⟩
  | enter frame =>
      rw [hother (by simp) (by simp) rfl]
      exact ⟨[], .other rfl, hnone _, rfl⟩
  | leave =>
      rw [hother (by simp) (by simp) rfl]
      exact ⟨[], .other rfl, hnone _, rfl⟩
  | operate operation =>
      cases operation with
      | execute environment out dump script =>
          obtain ⟨result, hexecute⟩ := ends_discard.mp hends
          exact samples_execute hexecute hclosed
      | runScripts environment out dump scripts =>
          obtain ⟨success, hrun⟩ := ends_discard.mp hends
          exact samples_runScripts hrun hclosed
      | changeSampler change => exact hregular.elim
      | _ =>
          rw [hother (by simp) (by simp) rfl]
          exact ⟨[], .other rfl, hnone _, rfl⟩

/-- What steps add to the samples, and whether the sampler is running behind them. -/
theorem samples_runAll {budget : Nat} {steps : List (SessionStep engine)}
    (hregular : ∀ step ∈ steps, step.Regular)
    (hends : Ends (SessionStep.runAll budget steps) session () after)
    (hclosed : session.sampler.windowOpen = false) :
    ∃ sittings, sittings.map Prod.fst = steps ∧ Sitting budget session sittings after ∧
      session.sampler.Gains
        (sampledRuns session.sampler.enabled session.sampler.running sittings) after.sampler ∧
      after.sampler.running = steps.foldl
        (fun running step => step.runsBehind session.sampler.enabled running)
        session.sampler.running := by
  induction steps generalizing session with
  | nil =>
      obtain ⟨-, rfl⟩ := ends_pure.mp hends
      exact ⟨[], rfl, .nil, .refl hclosed, rfl⟩
  | cons step rest ih =>
      obtain ⟨_, middle, hstep, hrest⟩ := ends_bind.mp hends
      obtain ⟨hfirst, hothers⟩ := List.forall_mem_cons.mp hregular
      obtain ⟨runs, hloads, hgains, hrunning⟩ := samples_step hfirst hstep hclosed
      obtain ⟨sittings, hsteps, hsitting, hmore, hbehind⟩ := ih hothers hrest hgains.closed
      rw [hgains.enabled_eq, hrunning] at hmore hbehind
      exact ⟨(step, runs) :: sittings, congrArg (step :: ·) hsteps, .cons hstep hloads hsitting,
        hgains.append hmore, hbehind⟩

end Host

/-- A sampler that is not enabled has no scripts to sample. -/
theorem sampledRuns_disabled (sittings : List (SessionStep engine × List (ScriptRun engine))) :
    sampledRuns false false sittings = [] := by
  induction sittings with
  | nil => rfl
  | cons sitting rest ih =>
      obtain ⟨step, runs⟩ := sitting
      have hduring : step.runsDuring false false = false := by
        unfold SessionStep.runsDuring
        split <;> rfl
      have hbehind : step.runsBehind false false = false := by
        unfold SessionStep.runsBehind
        split <;> rfl
      simp [sampledRuns, hduring, hbehind, ih]

/-- Between the steps of a user no sampling window is open. The samples are those of the scripts
that the driver loaded while the sampler was running, in their order and with the flags behind their
reports; without the sampler there is none. Behind a run the sampler is stopped. -/
theorem samples_of_scripts {budget : Nat} {options : Options} {profiling : Bool} {input : Bytes}
    {files : Files} {clock : Clock} {steps : List (SessionStep engine)} {after : Session engine}
    (hregular : ∀ step ∈ steps, step.Regular)
    (hends : Host.Ends (SessionStep.runAll budget steps)
      (Session.start engine options profiling input files clock) () after) :
    (∃ sittings, sittings.map Prod.fst = steps ∧
      Sitting budget (Session.start engine options profiling input files clock) sittings after ∧
      after.sampler.samples.map Sample.label =
        (sampledRuns options.useSampling false sittings).map ScriptRun.label) ∧
    after.sampler.windowOpen = false ∧
    (options.useSampling = false → after.sampler.samples = []) ∧
    ∀ earlier environment out dump scripts,
      steps = earlier ++ [.operate (.runScripts environment out dump scripts)] →
      after.sampler.running = false := by
  obtain ⟨sittings, hsteps, hsitting, hgains, hrunning⟩ := Host.samples_runAll hregular hends rfl
  have hlabels : after.sampler.samples.map Sample.label =
      (sampledRuns options.useSampling false sittings).map ScriptRun.label :=
    hgains.labels_eq
  refine ⟨⟨sittings, hsteps, hsitting, hlabels⟩, hgains.closed, fun hsampling => ?_, ?_⟩
  · rw [hsampling, sampledRuns_disabled, List.map_nil] at hlabels
    exact List.map_eq_nil_iff.mp hlabels
  · rintro earlier environment out dump scripts rfl
    rw [hrunning, List.foldl_append]
    rfl

/-- A script between start and stop, one behind the stop, and a run that is aborted. -/
def switchingSteps : List (SessionStep Language.engine) :=
  [.operate (.createEnvironment []), .start,
    .operate (.execute 1 .report true (.inline "setSamplingFlags(1)")), .stop,
    .operate (.execute 1 .report true (.inline "2")),
    .operate (.runScripts 1 .report false [.inline "throw 'a'", .file "missing.js", .inline "3"])]

/-- Two of the four scripts are sampled, and the sampler is stopped. -/
theorem samples_of_scripts_switching :
    let session := Session.start Language.engine { useSampling := true } false [] Files.empty
      (.ticking 0)
    (∀ step ∈ switchingSteps, step.Regular) ∧
    ∃ after : Session Language.engine,
      Host.Ends (SessionStep.runAll 2 switchingSteps) session () after ∧
      (∃ sittings, sittings.map Prod.fst = switchingSteps ∧ Sitting 2 session sittings after ∧
        (sampledRuns true false sittings).map ScriptRun.label =
          [("[Command Line]", 1), ("[Command Line]", 1)]) ∧
      after.sampler.running = false := by
  intro session
  have hregular : ∀ step ∈ switchingSteps, step.Regular := by
    simp [switchingSteps, SessionStep.Regular]
  have hcomputed :
      (((SessionStep.runAll 2 switchingSteps).outcome session).1.toOption.any
          fun _ => true) = true ∧
        ((SessionStep.runAll 2 switchingSteps).outcome session).2.sampler.samples.map
          Sample.label = [("[Command Line]", 1), ("[Command Line]", 1)] := by
    decide +kernel
  obtain ⟨_, hends, -⟩ := Host.exists_ends hcomputed.1
  obtain ⟨⟨sittings, hsteps, hsitting, hlabels⟩, -, -, hstopped⟩ := samples_of_scripts hregular hends
  refine ⟨hregular, _, hends, ⟨sittings, hsteps, hsitting, hlabels.symm.trans hcomputed.2⟩, ?_⟩
  exact hstopped (switchingSteps.take 5) 1 .report false _ rfl

end ScriptShell
