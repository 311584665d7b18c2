/-!
# Clocks

The shell looks at a clock to tell how long something takes, and scripts may ask for the time of
day. What a clock shows is not decided by the shell: a `Clock` holds the readings to come, whatever
they are. The looks are told apart by what they are for, with readings of their own for each use, so
that a look for one use does not change what is read for another.
-/

namespace ScriptShell

/-- What the shell looks at a clock for. -/
inductive Look where
  /-- How long a source text is evaluated or checked, for the profile. -/
  | evaluation
  /-- How long the driver takes for a script. -/
  | script
  /-- How long a sampling window is open. -/
  | window
  /-- How long `run` and `checkSyntax` take, which they tell the script that calls. -/
  | call
  deriving DecidableEq, Repr

/-- The readings to come, the next one first. -/
structure Clock where
  /-- Instants in nanoseconds. -/
  instants : Look → Nat → Nat
  /-- Times of day, in nanoseconds since an epoch; there is none before it. -/
  days : Nat → Option Nat

namespace Clock

/-- The next instant that is read for a use. -/
def instant (clock : Clock) (look : Look) : Nat :=
  clock.instants look 0

/-- The clock after a look at it. -/
def looked (clock : Clock) (look : Look) : Clock :=
  { clock with
    instants := fun other index =>
      clock.instants other (if other = look then index + 1 else index) }

/-- The next time of day that is read. -/
def day (clock : Clock) : Option Nat :=
  clock.days 0

/-- The clock after the time of day was read. -/
def dayRead (clock : Clock) : Clock :=
  { clock with days := fun index => clock.days (index + 1) }

/-- A clock that goes on by a microsecond with each look for a use, from a time on. -/
def ticking (start : Nat) : Clock where
  instants _ index := start + 1000 * index
  days index := some (start + 1000 * index)

end Clock

end ScriptShell
