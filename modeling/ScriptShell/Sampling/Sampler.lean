import ScriptShell.Sampling.Flags
import ScriptShell.Text.Field

/-!
# The sampler

A sampler keeps a record of each *window* that was recording. A window is recording when, at the
moment it was opened, the sampler was running and no other recording window was open. Closing a
recording window adds its record, with the flags as they are at that moment; closing any other
window changes nothing.
-/

namespace ScriptShell

/-- What is kept of a recording window. -/
structure Sample where
  script : String
  elapsedMicros : Nat
  flags : UInt32
  deriving DecidableEq, Repr

/-- A window around one script; it is recording if it holds the instant of its opening. -/
structure Window where
  script : String
  opened : Option Nat
  deriving DecidableEq, Repr

/-- Whether a window will leave a record. -/
def Window.isRecording (window : Window) : Bool :=
  window.opened.isSome

/-- The state of a sampler. The samples stand in the order in which their windows closed. -/
structure Sampler where
  enabled : Bool
  running : Bool := false
  windowOpen : Bool := false
  samples : List Sample := []
  deriving DecidableEq, Repr, Inhabited

namespace Sampler

/-- A sampler that is enabled can run from now on. -/
def start (sampler : Sampler) : Sampler :=
  { sampler with running := sampler.enabled }

/-- From now on no window is recording. -/
def stop (sampler : Sampler) : Sampler :=
  { sampler with running := false }

/-- Whether a window that is opened now is recording. -/
def records (sampler : Sampler) : Bool :=
  sampler.running && !sampler.windowOpen

/-- Opens a window at an instant. -/
def openWindow (sampler : Sampler) (script : String) (now : Nat) : Window × Sampler :=
  if sampler.records then
    (⟨script, some now⟩, { sampler with windowOpen := true })
  else (⟨script, none⟩, sampler)

/-- The whole microseconds from one instant to another, both counted in nanoseconds. -/
def micros (opened closed : Nat) : Nat :=
  (closed - opened) / 1000

/-- Closes a window at an instant, with the flags of that moment. -/
def closeWindow (sampler : Sampler) (window : Window) (now : Nat) (flags : SamplingFlags) :
    Sampler :=
  match window.opened with
  | none => sampler
  | some opened =>
    { sampler with
      windowOpen := false
      samples := sampler.samples ++ [⟨window.script, micros opened now, flags.bits⟩] }

/-! ## Showing the samples -/

/-- The line that shows a sample, with the elapsed time as given. -/
def sampleLine (elapsed : String) (sample : Sample) : String :=
  "  " ++ elapsed ++ "us  flags=0x" ++
    String.ofList (padLeft 8 '0' (Nat.toDigits 16 sample.flags.toNat)) ++ "  " ++ sample.script ++
    "\n"

/-- The elapsed time of a sample in a field of ten characters. -/
def elapsedField (sample : Sample) : String :=
  String.ofList (padLeft 10 ' ' (Nat.toDigits 10 sample.elapsedMicros))

/-- The samples as text: their number, then a line for each. The column of the elapsed times is
written by `elapsed`. -/
def dumpWith (elapsed : Sample → String) (sampler : Sampler) : String :=
  "Sampling windows: " ++ sampler.samples.length.repr ++ "\n" ++
    String.join (sampler.samples.map fun sample => sampleLine (elapsed sample) sample)

/-- The samples as text. -/
def dump (sampler : Sampler) : String :=
  sampler.dumpWith elapsedField

end Sampler

end ScriptShell
