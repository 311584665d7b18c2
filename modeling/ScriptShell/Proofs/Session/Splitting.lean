import ScriptShell.Proofs.Sampling.Windows
import ScriptShell.Proofs.Session.Batch
import ScriptShell.Proofs.Session.Reading

/-!
# Splitting a batch

Running two lists of scripts as one comes to the same as running the first and then the second,
where every script of the first can be read; where one cannot be read, the second list plays no
part. Between two runs the sampler is stopped and started, which leaves it as it is: a run starts
it and no script switches it.

"The same" is meant of outcomes: the result, or the halt that cuts the run off, and the whole
session behind it.
-/

namespace ScriptShell

variable {engine : Engine}

/-- A sampler that runs whenever it is enabled is not changed by being stopped and started. -/
theorem Sampler.start_stop {sampler : Sampler} (h : sampler.running = sampler.enabled) :
    sampler.stop.start = sampler := by
  obtain ⟨enabled, running, windowOpen, samples⟩ := sampler
  cases h
  rfl

/-- A batch does not switch the sampler. -/
theorem WindowedBatch.switch_eq {budget : Nat} {environment : Realm} {out : Channel} {dump : Bool}
    {session after : Session engine} {runs : List (ScriptRun engine)}
    (h : WindowedBatch budget environment out dump session runs after) :
    after.sampler.running = session.sampler.running ∧
      after.sampler.enabled = session.sampler.enabled := by
  induction h with
  | nil => exact ⟨rfl, rfl⟩
  | cons hrun hwindow _ ih =>
      obtain ⟨opening, closing, hsampler⟩ := hrun.sampler_eq hwindow
      rw [ih.1, ih.2, hsampler]
      simp

namespace Host

variable {budget : Nat} {environment : Realm} {out : Channel} {dump : Bool} {α β : Type}

/-- What follows an action matters only where the action comes to its end. -/
theorem outcome_bind_congr {action : Host engine α} {one other : α → Host engine β}
    {session : Session engine}
    (hnext : ∀ value middle, Ends action session value middle →
      (one value).outcome middle = (other value).outcome middle) :
    (action >>= one).outcome session = (action >>= other).outcome session := by
  rw [outcome_bind, outcome_bind]
  rcases houtcome : action.outcome session with ⟨halt | value, middle⟩
  · rfl
  · exact hnext value middle houtcome

/-- Scripts behind scripts that can all be read run as if they were run next. -/
theorem outcome_executeAll_append {first : List Script} (second : List Script)
    {session : Session engine}
    (hreadable : ∀ script ∈ first, script.readable session.files = true) :
    (executeAll budget environment out dump (first ++ second)).outcome session =
      (executeAll budget environment out dump first >>= fun earlier =>
        executeAll budget environment out dump second >>= fun later =>
        pure (earlier && later)).outcome session := by
  induction first generalizing session with
  | nil =>
      rw [List.nil_append, executeAll, pure_bind]
      simp only [Bool.true_and, bind_pure]
  | cons script rest ih =>
      rw [List.cons_append, executeAll, executeAll, bind_assoc]
      refine outcome_bind_congr fun result middle hexecute => ?_
      rcases scriptRun hexecute with ⟨failure, hopened, -⟩ | ⟨run, -, rfl, hrun⟩
      · have hfailed : script.readable session.files = false := by
          simp [Script.readable, hopened]
          rfl
        have hread := hreadable script (List.mem_cons_self ..)
        rw [hfailed] at hread
        cases hread
      · have hrest : ∀ script ∈ rest, script.readable middle.files = true := by
          intro script hmem
          rw [hrun.files_eq]
          exact hreadable script (List.mem_cons_of_mem _ hmem)
        show (executeAll budget environment out dump (rest ++ second) >>= fun others =>
          pure (run.execution.succeeded && others)).outcome middle = _
        rw [outcome_bind, ih hrest, ← outcome_bind]
        simp only [bind_assoc, pure_bind, Bool.and_assoc]

/-- Nothing behind a script that cannot be read is run. -/
theorem outcome_executeAll_append_of_unreadable {first : List Script} (second : List Script)
    {session : Session engine}
    (hunreadable : ∃ script ∈ first, script.readable session.files = false) :
    (executeAll budget environment out dump (first ++ second)).outcome session =
      (executeAll budget environment out dump first).outcome session := by
  induction first generalizing session with
  | nil =>
      obtain ⟨script, hmem, -⟩ := hunreadable
      cases hmem
  | cons script rest ih =>
      rw [List.cons_append, executeAll, executeAll]
      refine outcome_bind_congr fun result middle hexecute => ?_
      rcases scriptRun hexecute with ⟨failure, -, rfl, -⟩ | ⟨run, hscript, rfl, hrun⟩
      · rfl
      · have hread : script.readable session.files = true := by
          rw [← hscript]
          simp [Script.readable, hrun.opened]
          rfl
        have hrest : ∃ script ∈ rest, script.readable middle.files = false := by
          obtain ⟨other, hmem, hother⟩ := hunreadable
          rw [hrun.files_eq]
          rcases List.mem_cons.mp hmem with rfl | hmem
          · rw [hread] at hother
            cases hother
          · exact ⟨other, hmem, hother⟩
        show (executeAll budget environment out dump (rest ++ second) >>= fun others =>
          pure (run.execution.succeeded && others)).outcome middle = _
        rw [outcome_bind, ih hrest, ← outcome_bind]

theorem switch_executeAll {scripts : List Script} {session after : Session engine} {success : Bool}
    (hends : Ends (executeAll budget environment out dump scripts) session success after) :
    after.sampler.running = session.sampler.running ∧
      after.sampler.enabled = session.sampler.enabled := by
  obtain ⟨runs, last, -, hbatch, rfl, -⟩ := windowed_executeAll hends
  exact hbatch.switch_eq

/-- Between two runs the sampler is stopped and started, which the scripts of the second do not
notice. -/
theorem outcome_runScripts_append {first : List Script} (second : List Script)
    {session : Session engine}
    (hreadable : ∀ script ∈ first, script.readable session.files = true) :
    (runScripts budget environment out dump (first ++ second)).outcome session =
      (runScripts budget environment out dump first >>= fun earlier =>
        runScripts budget environment out dump second >>= fun later =>
        pure (earlier && later)).outcome session := by
  unfold runScripts
  rw [bind_assoc]
  refine outcome_bind_congr fun _ started hstart => ?_
  rw [ends_modify] at hstart
  have hfiles : ∀ script ∈ first, script.readable started.files = true := by
    rw [hstart]
    exact hreadable
  rw [outcome_bind, outcome_executeAll_append second hfiles, ← outcome_bind]
  simp only [bind_assoc, pure_bind]
  refine outcome_bind_congr fun earlier middle hfirst => ?_
  -- the first run leaves the sampler as the second would start it
  have hswitch := switch_executeAll hfirst
  have hrunning : middle.sampler.running = middle.sampler.enabled := by
    rw [hswitch.1, hswitch.2, hstart]
    rfl
  have hsame : { middle with sampler := middle.sampler.stop.start } = middle := by
    rw [Sampler.start_stop hrunning]
  have hstopped : Ends (modify fun session : Session engine =>
      { session with sampler := session.sampler.stop }) middle ()
      { middle with sampler := middle.sampler.stop } := ends_modify.mpr rfl
  have hstarted : Ends (modify fun session : Session engine =>
      { session with sampler := session.sampler.start })
      { middle with sampler := middle.sampler.stop } () middle := ends_modify.mpr hsame.symm
  rw [outcome_bind_of_ends hstopped, outcome_bind_of_ends hstarted]

end Host

/-- Splitting a list of scripts is not noticed where the first part can be read; otherwise the
second part plays no role, and the run fails. -/
theorem runScripts_append {budget : Nat} {environment : Realm} {out : Channel} {dump : Bool}
    (first second : List Script) (session : Session engine) :
    ((∀ script ∈ first, script.readable session.files = true) →
      (Host.runScripts budget environment out dump (first ++ second)).outcome session =
        Host.outcome (do
          let earlier ← Host.runScripts budget environment out dump first
          let later ← Host.runScripts budget environment out dump second
          return earlier && later) session) ∧
    ((∃ script ∈ first, script.readable session.files = false) →
      (Host.runScripts budget environment out dump (first ++ second)).outcome session =
        (Host.runScripts budget environment out dump first).outcome session ∧
      ∀ {success after}, Host.Ends (Host.runScripts budget environment out dump first) session
        success after → success = false) := by
  constructor
  · exact Host.outcome_runScripts_append second
  · rintro ⟨script, hmem, hunreadable⟩
    constructor
    · unfold Host.runScripts
      refine Host.outcome_bind_congr fun _ started hstart => ?_
      rw [Host.ends_modify] at hstart
      rw [Host.outcome_bind, Host.outcome_executeAll_append_of_unreadable second
        ⟨script, hmem, by rw [hstart]; exact hunreadable⟩, ← Host.outcome_bind]
    · intro success after hends
      obtain ⟨runs, last, -, -, -, -, hsuccess, -⟩ := runScripts_batch hends
      cases success with
      | false => rfl
      | true =>
          have hread := (hsuccess.mp rfl).1 script hmem
          rw [hunreadable] at hread
          cases hread

/-- Split behind the script that throws, and behind the one that cannot be read. -/
theorem runScripts_append_stopping :
    let session := Session.start Language.engine {} false [] Files.empty (.ticking 0)
    let throwing := [Script.inline "throw 'a'"]
    let missing := [Script.inline "1", Script.file "missing.js"]
    ((Host.runScripts 2 0 .report true (throwing ++ missing)).outcome session =
      Host.outcome (do
        let earlier ← Host.runScripts 2 0 .report true throwing
        let later ← Host.runScripts 2 0 .report true missing
        return earlier && later) session) ∧
    ∃ after, Host.Ends (Host.runScripts 2 0 .report true missing) session false after ∧
      Host.Ends (Host.runScripts 2 0 .report true (missing ++ throwing)) session false after := by
  intro session throwing missing
  refine ⟨(runScripts_append throwing missing session).1 (by decide), ?_⟩
  obtain ⟨hsame, hfails⟩ := (runScripts_append missing throwing session).2
    ⟨.file "missing.js", by decide, by decide⟩
  have hcomputed : ((Host.runScripts 2 0 .report true missing).outcome session).1.toOption.any
      (fun _ => true) = true := by
    decide +kernel
  obtain ⟨success, hends, -⟩ := Host.exists_ends hcomputed
  have hfailed := hfails hends
  subst hfailed
  exact ⟨_, hends, hsame.trans hends⟩

end ScriptShell
