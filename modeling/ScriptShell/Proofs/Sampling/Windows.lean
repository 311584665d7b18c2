import Mathlib.Data.List.Forall2
import Mathlib.Data.List.Induction
import Mathlib.Logic.Function.Basic
import ScriptShell.Sampling.Sampler

/-!
# The windows of a sampler

A user starts and stops a sampler, changes flags, and opens and closes windows, which are held under
numbers of the user's choice. What the sampler does is said here of whole sequences of such steps
and of positions in them: a window is named by the position of the step that opened it.

* `RunsAfter`: the sampler is enabled and the last start or stop was a start.
* `Holds`: the window that was opened at a position was not given up since. A number that is taken
  gives up its old window once the new one is open.
* `Closes`: the step at a position gives up a recording window, of which a record is left.

The mark of the sampler and the windows held are tied by `Bench.Consistent`, which every step keeps;
the rest is read off positions, one step at a time (`Bench.run_append_singleton`). The result is
`windows_of_steps`.
-/

namespace ScriptShell

/-! ## Opening and closing -/

namespace Sampler

variable (sampler : Sampler) (script : String) (window : Window) (now : Nat)
  (flags : SamplingFlags)

theorem isRecording_openWindow : (sampler.openWindow script now).1.isRecording = true ↔
    sampler.running = true ∧ sampler.windowOpen = false := by
  unfold openWindow records
  split <;> simp_all [Window.isRecording]

@[simp] theorem script_openWindow : (sampler.openWindow script now).1.script = script := by
  unfold openWindow
  split <;> rfl

@[simp] theorem enabled_openWindow :
    (sampler.openWindow script now).2.enabled = sampler.enabled := by
  unfold openWindow
  split <;> rfl

@[simp] theorem running_openWindow :
    (sampler.openWindow script now).2.running = sampler.running := by
  unfold openWindow
  split <;> rfl

@[simp] theorem samples_openWindow :
    (sampler.openWindow script now).2.samples = sampler.samples := by
  unfold openWindow
  split <;> rfl

/-- A recording window holds the instant of its opening. -/
theorem openWindow_fst_of_recording (h : (sampler.openWindow script now).1.isRecording = true) :
    (sampler.openWindow script now).1 = ⟨script, some now⟩ := by
  have hopens : sampler.records = true := by
    simpa [records] using (sampler.isRecording_openWindow script now).mp h
  unfold openWindow
  rw [if_pos hopens]

/-- Opening a window sets the mark if the window is recording, and nothing else. -/
theorem openWindow_snd : (sampler.openWindow script now).2 =
    { sampler with
      windowOpen := sampler.windowOpen || (sampler.openWindow script now).1.isRecording } := by
  unfold openWindow
  split <;> simp [Window.isRecording]

@[simp] theorem enabled_closeWindow :
    (sampler.closeWindow window now flags).enabled = sampler.enabled := by
  unfold closeWindow
  split <;> rfl

@[simp] theorem running_closeWindow :
    (sampler.closeWindow window now flags).running = sampler.running := by
  unfold closeWindow
  split <;> rfl

variable {window}

theorem closeWindow_of_inert (h : window.isRecording = false) :
    sampler.closeWindow window now flags = sampler := by
  obtain ⟨script, opened⟩ := window
  cases opened with
  | none => rfl
  | some instant => cases h

theorem closeWindow_of_recording (h : window.isRecording = true) :
    sampler.closeWindow window now flags =
      { sampler with
        windowOpen := false
        samples := sampler.samples ++
          [⟨window.script, micros (window.opened.getD 0) now, flags.bits⟩] } := by
  obtain ⟨script, opened⟩ := window
  cases opened with
  | none => cases h
  | some instant => rfl

end Sampler

/-! ## Steps of a user -/

/-- What the user of a sampler does. The instants at which the clock is looked at are given. -/
inductive SamplerStep where
  | start
  | stop
  | set (flag : UInt32)
  | clear (flag : UInt32)
  | dump
  | openWindow (number : Nat) (script : String) (opening closing : Nat)
  | closeWindow (number : Nat) (closing : Nat)
  deriving DecidableEq, Repr

/-- A sampler in use, with the flags and the windows that are held. -/
structure Bench where
  sampler : Sampler
  flags : SamplingFlags := {}
  held : Nat → Option Window := fun _ => none

namespace Bench

/-- Gives up the window that is held under a number, if there is one. -/
def release (bench : Bench) (number instant : Nat) : Bench :=
  match bench.held number with
  | none => bench
  | some window =>
    { bench with
      sampler := bench.sampler.closeWindow window instant bench.flags
      held := Function.update bench.held number none }

/-- Does a step. A number that is taken gives up its window after the new one was opened. -/
def step (bench : Bench) : SamplerStep → Bench
  | .start => { bench with sampler := bench.sampler.start }
  | .stop => { bench with sampler := bench.sampler.stop }
  | .set flag => { bench with flags := bench.flags.set flag }
  | .clear flag => { bench with flags := bench.flags.clear flag }
  | .dump => bench
  | .openWindow number script opening closing =>
    let opened := bench.sampler.openWindow script opening
    let released := { bench with sampler := opened.2 }.release number closing
    { released with held := Function.update released.held number (some opened.1) }
  | .closeWindow number closing => bench.release number closing

/-- Does steps one after another, with a new sampler. -/
def run (enabled : Bool) (steps : List SamplerStep) : Bench :=
  steps.foldl step { sampler := { enabled := enabled } }

theorem run_append_singleton (enabled : Bool) (steps : List SamplerStep) (last : SamplerStep) :
    run enabled (steps ++ [last]) = (run enabled steps).step last := by
  unfold run
  rw [List.foldl_append]
  rfl

/-! ## What single steps do -/

section

variable (bench : Bench) (number instant : Nat)

@[simp] theorem held_release :
    (bench.release number instant).held = Function.update bench.held number none := by
  unfold release
  cases hheld : bench.held number with
  | none => exact (Function.update_eq_self_iff.mpr hheld.symm).symm
  | some window => rfl

@[simp] theorem flags_release : (bench.release number instant).flags = bench.flags := by
  unfold release
  split <;> rfl

@[simp] theorem enabled_release :
    (bench.release number instant).sampler.enabled = bench.sampler.enabled := by
  unfold release
  split <;> simp

@[simp] theorem running_release :
    (bench.release number instant).sampler.running = bench.sampler.running := by
  unfold release
  split <;> simp

end

/-- A window that is held under a number is recording. -/
def RecordsUnder (bench : Bench) (number : Nat) : Prop :=
  ∃ window, bench.held number = some window ∧ window.isRecording = true

section

variable {bench : Bench} {number : Nat}

/-- Giving up a window that is not recording changes nothing of the sampler. -/
theorem sampler_release_of_inert (instant : Nat) (h : ¬ bench.RecordsUnder number) :
    (bench.release number instant).sampler = bench.sampler := by
  unfold release
  cases hheld : bench.held number with
  | none => rfl
  | some window =>
      have hinert : window.isRecording = false := by
        by_contra hrecording
        exact h ⟨window, hheld, by simpa using hrecording⟩
      exact bench.sampler.closeWindow_of_inert instant bench.flags hinert

/-- Giving up a window that is recording clears the mark and adds a record. -/
theorem sampler_release_of_recording (instant : Nat) {window : Window}
    (hheld : bench.held number = some window) (hrecording : window.isRecording = true) :
    (bench.release number instant).sampler =
      { bench.sampler with
        windowOpen := false
        samples := bench.sampler.samples ++
          [⟨window.script, Sampler.micros (window.opened.getD 0) instant, bench.flags.bits⟩] } := by
  unfold release
  rw [hheld]
  exact bench.sampler.closeWindow_of_recording instant bench.flags hrecording

end

/-! ## The mark and the windows held -/

/-- The mark is set exactly where a window that is held is recording, and no two are. -/
structure Consistent (bench : Bench) : Prop where
  marked_iff : bench.sampler.windowOpen = true ↔ ∃ number, bench.RecordsUnder number
  unique : ∀ {number other : Nat}, bench.RecordsUnder number → bench.RecordsUnder other →
    number = other

theorem recordsUnder_update {bench : Bench} {sampler : Sampler} {flags : SamplingFlags}
    {number other : Nat} {window? : Option Window} :
    RecordsUnder ⟨sampler, flags, Function.update bench.held number window?⟩ other ↔
      (other = number ∧ ∃ window, window? = some window ∧ window.isRecording = true) ∨
      (other ≠ number ∧ bench.RecordsUnder other) := by
  unfold RecordsUnder
  by_cases hsame : other = number
  · subst hsame
    simp
  · simp [hsame]

namespace Consistent

variable {bench : Bench}

theorem release (h : bench.Consistent) (number instant : Nat) :
    (bench.release number instant).Consistent := by
  have hunder : ∀ other, (bench.release number instant).RecordsUnder other ↔
      other ≠ number ∧ bench.RecordsUnder other := by
    intro other
    rw [show bench.release number instant = ⟨(bench.release number instant).sampler,
      (bench.release number instant).flags, (bench.release number instant).held⟩ from rfl,
      held_release, recordsUnder_update]
    simp
  constructor
  · simp only [hunder]
    by_cases hrecords : bench.RecordsUnder number
    · -- the window that is given up was the only one that was recording
      obtain ⟨window, hheld, hrecording⟩ := hrecords
      rw [sampler_release_of_recording instant hheld hrecording]
      constructor
      · intro hset
        cases hset
      · rintro ⟨other, hne, hother⟩
        exact absurd (h.unique hother ⟨window, hheld, hrecording⟩) hne
    · rw [sampler_release_of_inert instant hrecords, h.marked_iff]
      constructor
      · rintro ⟨other, hother⟩
        refine ⟨other, ?_, hother⟩
        rintro rfl
        exact hrecords hother
      · rintro ⟨other, -, hother⟩
        exact ⟨other, hother⟩
  · intro first second hfirst hsecond
    exact h.unique ((hunder first).mp hfirst).2 ((hunder second).mp hsecond).2

/-- Whether a new window is recording or not, the mark tells. -/
theorem openWindow (h : bench.Consistent) (number : Nat) (script : String)
    (opening closing : Nat) :
    (bench.step (.openWindow number script opening closing)).Consistent := by
  have hsampler := bench.sampler.openWindow_snd script opening
  cases hrecording : (bench.sampler.openWindow script opening).1.isRecording with
  | true =>
      -- the mark was not set, so the window that is given up was not recording
      have hmark := ((bench.sampler.isRecording_openWindow script opening).mp hrecording).2
      have hnone : ∀ other, ¬ bench.RecordsUnder other := by
        intro other hother
        have hset := h.marked_iff.mpr ⟨other, hother⟩
        rw [hmark] at hset
        cases hset
      have hunder : ∀ other,
          (bench.step (.openWindow number script opening closing)).RecordsUnder other ↔
            other = number := by
        intro other
        unfold step
        simp only [held_release, Function.update_idem]
        rw [recordsUnder_update]
        simp [hrecording, hnone]
      have hopen : (bench.step (.openWindow number script opening closing)).sampler =
          (bench.sampler.openWindow script opening).2 :=
        sampler_release_of_inert closing (hnone number)
      constructor
      · rw [hopen, hsampler, hrecording]
        simp [hunder]
      · intro first second hfirst hsecond
        rw [(hunder first).mp hfirst, (hunder second).mp hsecond]
  | false =>
      have hsame : { bench with sampler := (bench.sampler.openWindow script opening).2 } =
          bench := by
        rw [hsampler, hrecording, Bool.or_false]
      have hreleased := h.release number closing
      have hunder : ∀ other,
          (bench.step (.openWindow number script opening closing)).RecordsUnder other ↔
            (bench.release number closing).RecordsUnder other := by
        intro other
        unfold step
        simp only [hsame, recordsUnder_update]
        unfold RecordsUnder
        by_cases hother : other = number <;> simp [hother, hrecording]
      have hopen : (bench.step (.openWindow number script opening closing)).sampler =
          (bench.release number closing).sampler := by
        unfold step
        simp only [hsame]
      constructor
      · rw [hopen, hreleased.marked_iff]
        simp only [hunder]
      · intro first second hfirst hsecond
        exact hreleased.unique ((hunder first).mp hfirst) ((hunder second).mp hsecond)

theorem step (h : bench.Consistent) (next : SamplerStep) : (bench.step next).Consistent := by
  cases next with
  | start | stop | set flag | clear flag | dump => exact ⟨h.marked_iff, h.unique⟩
  | openWindow number script opening closing => exact h.openWindow number script opening closing
  | closeWindow number closing => exact h.release number closing

end Consistent

theorem consistent_run (enabled : Bool) (steps : List SamplerStep) :
    (run enabled steps).Consistent := by
  induction steps using List.reverseRecOn with
  | nil => exact ⟨by simp [run, RecordsUnder], by simp [run, RecordsUnder]⟩
  | append_singleton steps last ih =>
      rw [run_append_singleton]
      exact ih.step last

end Bench

/-! ## What a step reads -/

namespace SamplerStep

/-- The number whose window a step gives up, and the instant at which it does. -/
def releases? : SamplerStep → Option (Nat × Nat)
  | .openWindow number _ _ closing | .closeWindow number closing => some (number, closing)
  | _ => none

/-- Whether a step is a start or a stop. -/
def switches : SamplerStep → Bool
  | .start | .stop => true
  | _ => false

/-- What a step makes of the flags. -/
def changeFlags (flags : SamplingFlags) : SamplerStep → SamplingFlags
  | .set flag => flags.set flag
  | .clear flag => flags.clear flag
  | _ => flags

end SamplerStep

namespace Bench

section

variable (bench : Bench) (next : SamplerStep)

@[simp] theorem enabled_step : (bench.step next).sampler.enabled = bench.sampler.enabled := by
  cases next <;> simp [step, Sampler.start, Sampler.stop]

@[simp] theorem flags_step : (bench.step next).flags = next.changeFlags bench.flags := by
  cases next <;> simp [step, SamplerStep.changeFlags]

theorem running_step_of_switches (h : next.switches = true) :
    (bench.step next).sampler.running = true ↔ bench.sampler.enabled = true ∧ next = .start := by
  cases next <;> simp_all [step, SamplerStep.switches, Sampler.start, Sampler.stop]

theorem running_step_of_not_switches (h : next.switches = false) :
    (bench.step next).sampler.running = bench.sampler.running := by
  cases next <;> simp_all [step, SamplerStep.switches]

end

section

variable {bench : Bench} {next : SamplerStep} {number closing : Nat} {window : Window}

/-- What is held behind a step was opened by it, or was held before and is not given up. -/
theorem held_step : (bench.step next).held number = some window ↔
    (∃ script opening closing, next = .openWindow number script opening closing ∧
      (bench.sampler.openWindow script opening).1 = window) ∨
    (bench.held number = some window ∧ ∀ closing, next.releases? ≠ some (number, closing)) := by
  cases next with
  | start | stop | set flag | clear flag | dump => simp [step, SamplerStep.releases?]
  | openWindow other script opening closing =>
      by_cases hsame : number = other
      · subst hsame
        simp [step, SamplerStep.releases?]
      · have hother : other ≠ number := fun h => hsame h.symm
        simp [step, SamplerStep.releases?, hsame, hother]
  | closeWindow other closing =>
      by_cases hsame : number = other
      · subst hsame
        simp [step, SamplerStep.releases?]
      · have hother : other ≠ number := fun h => hsame h.symm
        simp [step, SamplerStep.releases?, hsame, hother]

/-- A step that gives up a recording window adds its record and clears the mark. -/
theorem sampler_step_of_recording (hnext : next.releases? = some (number, closing))
    (hheld : bench.held number = some window) (hrecording : window.isRecording = true) :
    (bench.step next).sampler.windowOpen = false ∧
    (bench.step next).sampler.samples = bench.sampler.samples ++
      [⟨window.script, Sampler.micros (window.opened.getD 0) closing, bench.flags.bits⟩] := by
  cases next with
  | start | stop | set flag | clear flag | dump => cases hnext
  | openWindow other script opening instant =>
      cases hnext
      have hreleased := @sampler_release_of_recording
        { bench with sampler := (bench.sampler.openWindow script opening).2 } number closing
        window hheld hrecording
      unfold step
      rw [hreleased]
      simp
  | closeWindow other instant =>
      cases hnext
      unfold step
      rw [sampler_release_of_recording closing hheld hrecording]
      simp

/-- A step that gives up no recording window leaves the records as they are. -/
theorem samples_step_of_inert
    (h : ∀ number closing, next.releases? = some (number, closing) → ¬ bench.RecordsUnder number) :
    (bench.step next).sampler.samples = bench.sampler.samples := by
  cases next with
  | start | stop | set flag | clear flag | dump => rfl
  | openWindow other script opening instant =>
      have hreleased := @sampler_release_of_inert
        { bench with sampler := (bench.sampler.openWindow script opening).2 } other instant
        (h other instant rfl)
      unfold step
      rw [hreleased]
      simp
  | closeWindow other instant =>
      unfold step
      rw [sampler_release_of_inert instant (h other instant rfl)]

end

end Bench

/-! ## Positions -/

namespace Sampling

/-- The sampler is enabled and the last start or stop among the steps was a start. -/
def RunsAfter (enabled : Bool) (steps : List SamplerStep) : Prop :=
  enabled = true ∧ (steps.filter SamplerStep.switches).getLast? = some .start

/-- The flags behind the steps. -/
def flagsAfter (steps : List SamplerStep) : SamplingFlags :=
  steps.foldl SamplerStep.changeFlags {}

/-- The step at a position opened a window under a number. -/
def Opens (steps : List SamplerStep) (number position : Nat) : Prop :=
  ∃ script opening closing, steps[position]? = some (.openWindow number script opening closing)

/-- The step at a position gives up what is held under a number. -/
def Releases (steps : List SamplerStep) (number position : Nat) : Prop :=
  ∃ closing, steps[position]?.bind SamplerStep.releases? = some (number, closing)

/-- The window that was opened under a number at a position is still held at another. -/
structure Holds (steps : List SamplerStep) (number opened position : Nat) : Prop where
  opens : Opens steps number opened
  opened_lt : opened < position
  kept : ∀ between, opened < between → between < position → ¬ Releases steps number between

/-- The window that the step at a position opened. -/
def windowAt (enabled : Bool) (steps : List SamplerStep) (position : Nat) : Option Window :=
  match steps[position]? with
  | some (.openWindow _ script opening _) =>
    some ((Bench.run enabled (steps.take position)).sampler.openWindow script opening).1
  | _ => none

/-- The step at a position opened a window that is recording. -/
def Records (enabled : Bool) (steps : List SamplerStep) (position : Nat) : Prop :=
  ∃ window, windowAt enabled steps position = some window ∧ window.isRecording = true

/-- The step at a position gives up a recording window, of which a record is left. -/
inductive Closes (enabled : Bool) (steps : List SamplerStep) (position : Nat) : Sample → Prop
  | intro {number opened opening instant closing : Nat} {script : String}
    (gives_up : steps[position]?.bind SamplerStep.releases? = some (number, closing))
    (held : Holds steps number opened position) (recording : Records enabled steps opened)
    (opens : steps[opened]? = some (.openWindow number script opening instant)) :
    Closes enabled steps position
      ⟨script, Sampler.micros opening closing, (flagsAfter (steps.take position)).bits⟩

section Steps

variable {enabled : Bool} {steps rest : List SamplerStep} {last : SamplerStep}
  {number other position opened : Nat}

/-! ### More steps -/

theorem opens_append_of_lt (hlt : position < steps.length) :
    Opens (steps ++ rest) number position ↔ Opens steps number position := by
  unfold Opens
  rw [List.getElem?_append_left hlt]

theorem releases_append_of_lt (hlt : position < steps.length) :
    Releases (steps ++ rest) number position ↔ Releases steps number position := by
  unfold Releases
  rw [List.getElem?_append_left hlt]

theorem windowAt_append_of_lt (hlt : position < steps.length) :
    windowAt enabled (steps ++ rest) position = windowAt enabled steps position := by
  unfold windowAt
  rw [List.getElem?_append_left hlt, List.take_append_of_le_length (Nat.le_of_lt hlt)]

theorem records_append_of_lt (hlt : position < steps.length) :
    Records enabled (steps ++ rest) position ↔ Records enabled steps position := by
  unfold Records
  rw [windowAt_append_of_lt hlt]

theorem opens_append_singleton : Opens (steps ++ [last]) number position ↔
    Opens steps number position ∨ position = steps.length ∧
      ∃ script opening closing, last = .openWindow number script opening closing := by
  unfold Opens
  rcases Nat.lt_trichotomy position steps.length with hlt | rfl | hgt
  · rw [List.getElem?_append_left hlt]
    simp [Nat.ne_of_lt hlt]
  · simp
  · rw [List.getElem?_eq_none (by simp; omega), List.getElem?_eq_none (by omega)]
    simp [Nat.ne_of_gt hgt]

theorem releases_append_singleton_self : Releases (steps ++ [last]) number steps.length ↔
    ∃ closing, last.releases? = some (number, closing) := by
  unfold Releases
  simp

theorem Opens.lt_length (h : Opens steps number position) : position < steps.length := by
  obtain ⟨script, opening, closing, hstep⟩ := h
  exact (List.getElem?_eq_some_iff.mp hstep).1

/-- A window that is opened anew gives up what is held under its number. -/
theorem Opens.releases (h : Opens steps number position) : Releases steps number position := by
  obtain ⟨script, opening, closing, hstep⟩ := h
  exact ⟨closing, by rw [hstep]; rfl⟩

theorem holds_append_of_le (hle : position ≤ steps.length) :
    Holds (steps ++ rest) number opened position ↔ Holds steps number opened position := by
  constructor
  · intro h
    have hlt : opened < steps.length := Nat.lt_of_lt_of_le h.opened_lt hle
    refine ⟨(opens_append_of_lt hlt).mp h.opens, h.opened_lt,
      fun between hafter hbefore hreleases => ?_⟩
    exact h.kept between hafter hbefore ((releases_append_of_lt (by omega)).mpr hreleases)
  · intro h
    have hlt : opened < steps.length := Nat.lt_of_lt_of_le h.opened_lt hle
    refine ⟨(opens_append_of_lt hlt).mpr h.opens, h.opened_lt,
      fun between hafter hbefore hreleases => ?_⟩
    exact h.kept between hafter hbefore ((releases_append_of_lt (by omega)).mp hreleases)

/-- What is held behind one step more was opened by it, or was held before and is not given up. -/
theorem holds_append_singleton : Holds (steps ++ [last]) number opened (steps.length + 1) ↔
    (opened = steps.length ∧
      ∃ script opening closing, last = .openWindow number script opening closing) ∨
    (Holds steps number opened steps.length ∧
      ∀ closing, last.releases? ≠ some (number, closing)) := by
  constructor
  · intro h
    rcases opens_append_singleton.mp h.opens with hopens | hnew
    · right
      have hlt := hopens.lt_length
      refine ⟨⟨hopens, hlt, fun between hafter hbefore hreleases => ?_⟩, fun closing hlast => ?_⟩
      · exact h.kept between hafter (by omega)
          ((releases_append_of_lt hbefore).mpr hreleases)
      · exact h.kept steps.length hlt (by omega)
          (releases_append_singleton_self.mpr ⟨closing, hlast⟩)
    · exact .inl hnew
  · rintro (⟨rfl, hnew⟩ | ⟨h, hlast⟩)
    · exact ⟨opens_append_singleton.mpr (.inr ⟨rfl, hnew⟩), by omega, fun between _ _ => by omega⟩
    · refine ⟨opens_append_singleton.mpr (.inl h.opens), by have := h.opened_lt; omega,
        fun between hafter hbefore hreleases => ?_⟩
      by_cases hend : between = steps.length
      · subst hend
        obtain ⟨closing, hreleases⟩ := releases_append_singleton_self.mp hreleases
        exact hlast closing hreleases
      · exact h.kept between hafter (by omega)
          ((releases_append_of_lt (by omega)).mp hreleases)

/-- Under one number one window is held. -/
theorem Holds.unique {first second : Nat} (hfirst : Holds steps number first position)
    (hsecond : Holds steps number second position) : first = second := by
  rcases Nat.lt_trichotomy first second with hlt | heq | hgt
  · exact absurd hsecond.opens.releases (hfirst.kept second hlt hsecond.opened_lt)
  · exact heq
  · exact absurd hfirst.opens.releases (hsecond.kept first hgt hfirst.opened_lt)

theorem windowAt_append_singleton_self {script : String} {opening closing : Nat}
    (hlast : last = .openWindow number script opening closing) :
    windowAt enabled (steps ++ [last]) steps.length =
      some ((Bench.run enabled steps).sampler.openWindow script opening).1 := by
  subst hlast
  unfold windowAt
  simp

theorem runsAfter_append_of_switches (h : last.switches = true) :
    RunsAfter enabled (steps ++ [last]) ↔ enabled = true ∧ last = .start := by
  unfold RunsAfter
  simp [h]

theorem runsAfter_append_of_not_switches (h : last.switches = false) :
    RunsAfter enabled (steps ++ [last]) ↔ RunsAfter enabled steps := by
  unfold RunsAfter
  simp [h]

/-! ### The state behind the steps -/

theorem enabled_run (enabled : Bool) (steps : List SamplerStep) :
    (Bench.run enabled steps).sampler.enabled = enabled := by
  induction steps using List.reverseRecOn with
  | nil => rfl
  | append_singleton steps last ih => rw [Bench.run_append_singleton, Bench.enabled_step, ih]

theorem flags_run (enabled : Bool) (steps : List SamplerStep) :
    (Bench.run enabled steps).flags = flagsAfter steps := by
  induction steps using List.reverseRecOn with
  | nil => rfl
  | append_singleton steps last ih =>
      rw [Bench.run_append_singleton, Bench.flags_step, ih]
      unfold flagsAfter
      rw [List.foldl_append]
      rfl

theorem running_run (enabled : Bool) (steps : List SamplerStep) :
    (Bench.run enabled steps).sampler.running = true ↔ RunsAfter enabled steps := by
  induction steps using List.reverseRecOn with
  | nil => simp [Bench.run, RunsAfter]
  | append_singleton steps last ih =>
      rw [Bench.run_append_singleton]
      cases hlast : last.switches with
      | true =>
          rw [Bench.running_step_of_switches _ _ hlast, runsAfter_append_of_switches hlast,
            enabled_run]
      | false =>
          rw [Bench.running_step_of_not_switches _ _ hlast, ih,
            runsAfter_append_of_not_switches hlast]

/-- The windows that are held are those that were opened and not given up since. -/
theorem held_run (enabled : Bool) (steps : List SamplerStep) (number : Nat) (window : Window) :
    (Bench.run enabled steps).held number = some window ↔
      ∃ opened, Holds steps number opened steps.length ∧
        windowAt enabled steps opened = some window := by
  induction steps using List.reverseRecOn with
  | nil =>
      constructor
      · intro h
        cases h
      · rintro ⟨opened, hholds, -⟩
        exact absurd hholds.opened_lt (Nat.not_lt_zero opened)
  | append_singleton steps last ih =>
      rw [Bench.run_append_singleton, Bench.held_step, List.length_append, List.length_singleton]
      constructor
      · rintro (⟨script, opening, closing, hlast, hwindow⟩ | ⟨hheld, hkept⟩)
        · refine ⟨steps.length, holds_append_singleton.mpr
            (.inl ⟨rfl, script, opening, closing, hlast⟩), ?_⟩
          rw [windowAt_append_singleton_self hlast, hwindow]
        · obtain ⟨opened, hholds, hwindow⟩ := ih.mp hheld
          refine ⟨opened, holds_append_singleton.mpr (.inr ⟨hholds, hkept⟩), ?_⟩
          rw [windowAt_append_of_lt hholds.opened_lt, hwindow]
      · rintro ⟨opened, hholds, hwindow⟩
        rcases holds_append_singleton.mp hholds with
          ⟨rfl, script, opening, closing, hlast⟩ | ⟨hbefore, hkept⟩
        · left
          rw [windowAt_append_singleton_self hlast] at hwindow
          exact ⟨script, opening, closing, hlast, Option.some.inj hwindow⟩
        · right
          rw [windowAt_append_of_lt hbefore.opened_lt] at hwindow
          exact ⟨ih.mpr ⟨opened, hbefore, hwindow⟩, hkept⟩

theorem recordsUnder_run (enabled : Bool) (steps : List SamplerStep) (number : Nat) :
    (Bench.run enabled steps).RecordsUnder number ↔
      ∃ opened, Holds steps number opened steps.length ∧ Records enabled steps opened := by
  constructor
  · rintro ⟨window, hheld, hrecording⟩
    obtain ⟨opened, hholds, hwindow⟩ := (held_run enabled steps number window).mp hheld
    exact ⟨opened, hholds, window, hwindow, hrecording⟩
  · rintro ⟨opened, hholds, window, hwindow, hrecording⟩
    exact ⟨window, (held_run enabled steps number window).mpr ⟨opened, hholds, hwindow⟩,
      hrecording⟩

/-- The mark is set exactly where a recording window is held. -/
theorem marked_run (enabled : Bool) (steps : List SamplerStep) :
    (Bench.run enabled steps).sampler.windowOpen = true ↔
      ∃ number opened, Holds steps number opened steps.length ∧ Records enabled steps opened := by
  rw [(Bench.consistent_run enabled steps).marked_iff]
  exact exists_congr fun number => recordsUnder_run enabled steps number

/-- The mark where a step begins is told by the steps before it. -/
theorem marked_run_take (enabled : Bool) (hle : position ≤ steps.length) :
    (Bench.run enabled (steps.take position)).sampler.windowOpen = true ↔
      ∃ other earlier, Holds steps other earlier position ∧ Records enabled steps earlier := by
  have hlength : (steps.take position).length = position := by simp [hle]
  have hholds : ∀ other earlier, Holds (steps.take position) other earlier position ↔
      Holds steps other earlier position := by
    intro other earlier
    conv_rhs => rw [← List.take_append_drop position steps]
    exact (holds_append_of_le (Nat.le_of_eq hlength.symm)).symm
  have hrecords : ∀ earlier, earlier < position →
      (Records enabled (steps.take position) earlier ↔ Records enabled steps earlier) := by
    intro earlier hlt
    conv_rhs => rw [← List.take_append_drop position steps]
    exact (records_append_of_lt (by omega)).symm
  rw [marked_run, hlength]
  constructor
  · rintro ⟨other, earlier, hbefore, hrecording⟩
    exact ⟨other, earlier, (hholds other earlier).mp hbefore,
      (hrecords earlier hbefore.opened_lt).mp hrecording⟩
  · rintro ⟨other, earlier, hbefore, hrecording⟩
    exact ⟨other, earlier, (hholds other earlier).mpr hbefore,
      (hrecords earlier hbefore.opened_lt).mpr hrecording⟩

/-- A window is recording iff it was opened while the sampler was running and no recording window
was held. -/
theorem records_iff (hopens : Opens steps number position) : Records enabled steps position ↔
    RunsAfter enabled (steps.take position) ∧
      ∀ other earlier, Holds steps other earlier position → ¬ Records enabled steps earlier := by
  have hmarked := marked_run_take enabled (Nat.le_of_lt hopens.lt_length)
  obtain ⟨script, opening, closing, hstep⟩ := hopens
  have hrecords : Records enabled steps position ↔
      (Bench.run enabled (steps.take position)).sampler.running = true ∧
      (Bench.run enabled (steps.take position)).sampler.windowOpen = false := by
    rw [← Sampler.isRecording_openWindow _ script opening]
    unfold Records windowAt
    rw [hstep]
    simp
  rw [hrecords, running_run, ← Bool.not_eq_true, hmarked]
  constructor
  · rintro ⟨hruns, hnone⟩
    exact ⟨hruns, fun other earlier hholds hearlier => hnone ⟨other, earlier, hholds, hearlier⟩⟩
  · rintro ⟨hruns, hnone⟩
    exact ⟨hruns, fun ⟨other, earlier, hholds, hearlier⟩ => hnone other earlier hholds hearlier⟩

/-! ### The records -/

/-- What a recording window holds was given by the step that opened it. -/
theorem windowAt_of_records {script : String} {opening closing : Nat}
    (hstep : steps[position]? = some (.openWindow number script opening closing))
    (hrecords : Records enabled steps position) :
    windowAt enabled steps position = some ⟨script, some opening⟩ := by
  obtain ⟨window, hwindow, hrecording⟩ := hrecords
  unfold windowAt at hwindow ⊢
  rw [hstep] at hwindow ⊢
  cases hwindow
  exact congrArg some (Sampler.openWindow_fst_of_recording _ script opening hrecording)

theorem Closes.lt_length {sample : Sample} (h : Closes enabled steps position sample) :
    position < steps.length := by
  obtain ⟨hgives, -, -, -⟩ := h
  by_contra hge
  rw [List.getElem?_eq_none (by omega)] at hgives
  cases hgives

theorem closes_append_of_lt {sample : Sample} (hlt : position < steps.length) :
    Closes enabled (steps ++ rest) position sample ↔ Closes enabled steps position sample := by
  have hat : (steps ++ rest)[position]? = steps[position]? := List.getElem?_append_left hlt
  have htake : (steps ++ rest).take position = steps.take position :=
    List.take_append_of_le_length (Nat.le_of_lt hlt)
  constructor
  · rintro ⟨hgives, hholds, hrecords, hopened⟩
    have hearlier : _ < steps.length := Nat.lt_trans hholds.opened_lt hlt
    rw [hat] at hgives
    rw [List.getElem?_append_left hearlier] at hopened
    rw [htake]
    exact ⟨hgives, (holds_append_of_le (Nat.le_of_lt hlt)).mp hholds,
      (records_append_of_lt hearlier).mp hrecords, hopened⟩
  · rintro ⟨hgives, hholds, hrecords, hopened⟩
    have hearlier : _ < steps.length := Nat.lt_trans hholds.opened_lt hlt
    rw [← hat] at hgives
    rw [← List.getElem?_append_left hearlier] at hopened
    rw [← htake]
    exact ⟨hgives, (holds_append_of_le (Nat.le_of_lt hlt)).mpr hholds,
      (records_append_of_lt hearlier).mpr hrecords, hopened⟩

/-- What a step at the end closes is held under the number it gives up. -/
theorem closes_append_singleton_self {sample : Sample} :
    Closes enabled (steps ++ [last]) steps.length sample ↔
      ∃ number closing window, last.releases? = some (number, closing) ∧
        (Bench.run enabled steps).held number = some window ∧ window.isRecording = true ∧
        sample = ⟨window.script, Sampler.micros (window.opened.getD 0) closing, (flagsAfter steps).bits⟩ := by
  constructor
  · rintro ⟨hgives, hholds, hrecords, hopened⟩
    have hbefore := (holds_append_of_le (Nat.le_refl _)).mp hholds
    have hearlier := (records_append_of_lt hholds.opened_lt).mp hrecords
    rw [List.getElem?_append_left hholds.opened_lt] at hopened
    have hwindow := windowAt_of_records hopened hearlier
    refine ⟨_, _, _, by simpa using hgives,
      (held_run enabled steps _ _).mpr ⟨_, hbefore, hwindow⟩, rfl, ?_⟩
    simp
  · rintro ⟨number, closing, window, hlast, hheld, hrecording, rfl⟩
    obtain ⟨opened, hholds, hwindow⟩ := (held_run enabled steps number window).mp hheld
    have hrecords : Records enabled steps opened := ⟨window, hwindow, hrecording⟩
    obtain ⟨script, opening, instant, hopened⟩ := hholds.opens
    rw [windowAt_of_records hopened hrecords] at hwindow
    cases hwindow
    have hsample : Closes enabled (steps ++ [last]) steps.length
        ⟨script, Sampler.micros opening closing, (flagsAfter ((steps ++ [last]).take steps.length)).bits⟩ :=
      ⟨by simpa using hlast, (holds_append_of_le (Nat.le_refl _)).mpr hholds,
        (records_append_of_lt hholds.opened_lt).mpr hrecords,
        by rwa [List.getElem?_append_left hholds.opened_lt]⟩
    simpa using hsample

/-- The records are those of the windows that were closed while recording, in that order. -/
theorem samples_run (enabled : Bool) (steps : List SamplerStep) :
    ∃ closings : List Nat, closings.Pairwise (· < ·) ∧
      List.Forall₂ (Closes enabled steps) closings (Bench.run enabled steps).sampler.samples ∧
      ∀ position, position ∈ closings ↔ ∃ sample, Closes enabled steps position sample := by
  induction steps using List.reverseRecOn with
  | nil => exact ⟨[], .nil, .nil, fun position => by
      simpa using fun sample h => absurd (Closes.lt_length h) (by simp)⟩
  | append_singleton steps last ih =>
      obtain ⟨closings, hincreasing, hsamples, hall⟩ := ih
      have hbelow : ∀ position ∈ closings, position < steps.length := by
        intro position hmem
        obtain ⟨sample, hcloses⟩ := (hall position).mp hmem
        exact hcloses.lt_length
      have hkept : List.Forall₂ (Closes enabled (steps ++ [last])) closings
          (Bench.run enabled steps).sampler.samples :=
        hsamples.imp fun _ _ hcloses => (closes_append_of_lt hcloses.lt_length).mpr hcloses
      have hcases : ∀ position, (∃ sample, Closes enabled (steps ++ [last]) position sample) ↔
          position ∈ closings ∨ position = steps.length ∧
            ∃ sample, Closes enabled (steps ++ [last]) steps.length sample := by
        intro position
        rw [hall position]
        constructor
        · rintro ⟨sample, hcloses⟩
          have hlt := hcloses.lt_length
          rw [List.length_append, List.length_singleton] at hlt
          by_cases hend : position = steps.length
          · subst hend
            exact .inr ⟨rfl, sample, hcloses⟩
          · exact .inl ⟨sample, (closes_append_of_lt (by omega)).mp hcloses⟩
        · rintro (⟨sample, hcloses⟩ | ⟨rfl, hlast⟩)
          · exact ⟨sample, (closes_append_of_lt hcloses.lt_length).mpr hcloses⟩
          · exact hlast
      rw [Bench.run_append_singleton]
      by_cases hlast : ∃ number closing window, last.releases? = some (number, closing) ∧
          (Bench.run enabled steps).held number = some window ∧ window.isRecording = true
      · obtain ⟨number, closing, window, hnumber, hheld, hrecording⟩ := hlast
        have hnew := closes_append_singleton_self.mpr
          ⟨number, closing, window, hnumber, hheld, hrecording, rfl⟩
        rw [(Bench.sampler_step_of_recording hnumber hheld hrecording).2, flags_run]
        refine ⟨closings ++ [steps.length], ?_, ?_, fun position => ?_⟩
        · rw [List.pairwise_append]
          exact ⟨hincreasing, List.pairwise_singleton _ _, by simpa using hbelow⟩
        · exact List.rel_append hkept (.cons hnew .nil)
        · rw [hcases, List.mem_append, List.mem_singleton]
          exact or_congr_right (and_iff_left ⟨_, hnew⟩).symm
      · have hnone : ¬ ∃ sample, Closes enabled (steps ++ [last]) steps.length sample := by
          rintro ⟨sample, hcloses⟩
          obtain ⟨number, closing, window, hnumber, hheld, hrecording, -⟩ :=
            closes_append_singleton_self.mp hcloses
          exact hlast ⟨number, closing, window, hnumber, hheld, hrecording⟩
        have hinert : ∀ number closing, last.releases? = some (number, closing) →
            ¬ (Bench.run enabled steps).RecordsUnder number :=
          fun number closing hnumber ⟨window, hheld, hrecording⟩ =>
            hlast ⟨number, closing, window, hnumber, hheld, hrecording⟩
        rw [Bench.samples_step_of_inert hinert]
        refine ⟨closings, hincreasing, hkept, fun position => ?_⟩
        rw [hcases]
        exact ⟨.inl, fun h => h.elim id fun hend => absurd hend.2 hnone⟩

end Steps

/-! ## The windows of a sequence of steps -/

/-- What is true of the windows and the records behind a sequence of steps. -/
structure Windowed (enabled : Bool) (steps : List SamplerStep) : Prop where
  recording_iff : ∀ number opened, Opens steps number opened →
    (Records enabled steps opened ↔
      RunsAfter enabled (steps.take opened) ∧
      ∀ other earlier, Holds steps other earlier opened → ¬ Records enabled steps earlier)
  held_iff : ∀ number window, (Bench.run enabled steps).held number = some window ↔
    ∃ opened, Holds steps number opened steps.length ∧
      windowAt enabled steps opened = some window
  at_most_one : ∀ {number other opened earlier : Nat},
    Holds steps number opened steps.length → Records enabled steps opened →
    Holds steps other earlier steps.length → Records enabled steps earlier → opened = earlier
  marked_iff : (Bench.run enabled steps).sampler.windowOpen = true ↔
    ∃ number opened, Holds steps number opened steps.length ∧ Records enabled steps opened
  closes_recording : ∀ {next : SamplerStep} {number opened opening instant closing : Nat}
    {script : String}, next.releases? = some (number, closing) →
    Holds steps number opened steps.length → Records enabled steps opened →
    steps[opened]? = some (.openWindow number script opening instant) →
    (Bench.run enabled (steps ++ [next])).sampler.windowOpen = false ∧
    (Bench.run enabled (steps ++ [next])).sampler.samples =
      (Bench.run enabled steps).sampler.samples ++
        [⟨script, Sampler.micros opening closing, (flagsAfter steps).bits⟩]
  closes_inert : ∀ {number : Nat} (closing : Nat),
    (∀ opened, Holds steps number opened steps.length → ¬ Records enabled steps opened) →
    Bench.run enabled (steps ++ [.closeWindow number closing]) =
      { Bench.run enabled steps with
        held := Function.update (Bench.run enabled steps).held number none }
  records : ∃ closings : List Nat, closings.Pairwise (· < ·) ∧
    List.Forall₂ (Closes enabled steps) closings (Bench.run enabled steps).sampler.samples ∧
    ∀ position, position ∈ closings ↔ ∃ sample, Closes enabled steps position sample
  dump_keeps : Bench.run enabled (steps ++ [.dump]) = Bench.run enabled steps
  disabled : enabled = false → (Bench.run enabled steps).sampler.samples = []

theorem sampler_run_close_of_recording {enabled : Bool} {steps : List SamplerStep}
    {next : SamplerStep} {number opened opening instant closing : Nat} {script : String}
    (hnext : next.releases? = some (number, closing))
    (hholds : Holds steps number opened steps.length) (hrecords : Records enabled steps opened)
    (hopened : steps[opened]? = some (.openWindow number script opening instant)) :
    (Bench.run enabled (steps ++ [next])).sampler.windowOpen = false ∧
    (Bench.run enabled (steps ++ [next])).sampler.samples =
      (Bench.run enabled steps).sampler.samples ++
        [⟨script, Sampler.micros opening closing, (flagsAfter steps).bits⟩] := by
  have hwindow := windowAt_of_records hopened hrecords
  have hheld := (held_run enabled steps number _).mpr ⟨opened, hholds, hwindow⟩
  have hstep := Bench.sampler_step_of_recording hnext hheld rfl
  rw [Bench.run_append_singleton, ← flags_run enabled steps]
  exact hstep

theorem run_close_of_inert {enabled : Bool} {steps : List SamplerStep} {number : Nat}
    (closing : Nat)
    (hinert : ∀ opened, Holds steps number opened steps.length → ¬ Records enabled steps opened) :
    Bench.run enabled (steps ++ [.closeWindow number closing]) =
      { Bench.run enabled steps with
        held := Function.update (Bench.run enabled steps).held number none } := by
  have hnone : ¬ (Bench.run enabled steps).RecordsUnder number := by
    intro hunder
    obtain ⟨opened, hholds, hrecords⟩ := (recordsUnder_run enabled steps number).mp hunder
    exact hinert opened hholds hrecords
  rw [Bench.run_append_singleton, Bench.mk.injEq]
  exact ⟨Bench.sampler_release_of_inert closing hnone, Bench.flags_release _ _ _,
    Bench.held_release _ _ _⟩

theorem samples_run_disabled (steps : List SamplerStep) :
    (Bench.run false steps).sampler.samples = [] := by
  obtain ⟨closings, -, hsamples, hall⟩ := samples_run false steps
  cases closings with
  | nil => exact List.forall₂_nil_left_iff.mp hsamples
  | cons position closings =>
      obtain ⟨sample, -, hholds, hrecords, -⟩ := (hall position).mp (List.mem_cons_self ..)
      have hruns := ((records_iff hholds.opens).mp hrecords).1
      exact absurd hruns.1 Bool.false_ne_true

/-- Whatever is started, stopped, set, cleared, opened and closed, and in whatever order. -/
theorem windows_of_steps (enabled : Bool) (steps : List SamplerStep) : Windowed enabled steps where
  recording_iff _ _ := records_iff
  held_iff := held_run enabled steps
  at_most_one {number other _ _} hholds hrecords hearlier hrecording := by
    have hsame : number = other := (Bench.consistent_run enabled steps).unique
      ((recordsUnder_run enabled steps number).mpr ⟨_, hholds, hrecords⟩)
      ((recordsUnder_run enabled steps other).mpr ⟨_, hearlier, hrecording⟩)
    subst hsame
    exact hholds.unique hearlier
  marked_iff := marked_run enabled steps
  closes_recording := sampler_run_close_of_recording
  closes_inert := run_close_of_inert
  records := samples_run enabled steps
  dump_keeps := Bench.run_append_singleton enabled steps .dump
  disabled h := by
    subst h
    exact samples_run_disabled steps

-- the second window is inert; the first leaves its record after the stop
example : (Bench.run true [.start, .openWindow 1 "a.js" 1000 1000, .openWindow 2 "b.js" 2000 2000,
    .set 1, .closeWindow 2 2500, .stop, .closeWindow 1 4999]).sampler.samples =
      [⟨"a.js", 3, 1⟩] := by
  decide

end Sampling

end ScriptShell
