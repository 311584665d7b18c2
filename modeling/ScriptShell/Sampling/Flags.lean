/-!
# Sampling flags

A set of numbers from 1 to 32, held as the bits of one word: the number `n` is bit `n - 1`.
-/

namespace ScriptShell

/-- A set of sampling flags. -/
structure SamplingFlags where
  bits : UInt32 := 0
  deriving DecidableEq, Repr, Inhabited

namespace SamplingFlags

/-- Whether a number is that of a flag. -/
def inRange (flag : UInt32) : Bool :=
  1 ≤ flag && flag ≤ 32

/-- The bit of a flag. -/
def mask (flag : UInt32) : UInt32 :=
  1 <<< (flag - 1)

/-- The set with a flag; a number that is no flag changes nothing. -/
def set (flags : SamplingFlags) (flag : UInt32) : SamplingFlags :=
  if inRange flag then ⟨flags.bits ||| mask flag⟩ else flags

/-- The set without a flag; a number that is no flag changes nothing. -/
def clear (flags : SamplingFlags) (flag : UInt32) : SamplingFlags :=
  if inRange flag then ⟨flags.bits &&& ~~~(mask flag)⟩ else flags

/-- Whether a flag is in the set. -/
def isSet (flags : SamplingFlags) (flag : UInt32) : Bool :=
  inRange flag && flags.bits &&& mask flag != 0

/-! ## Operations -/

/-- An operation on a set of flags. -/
inductive Operation where
  | set (flag : UInt32)
  | clear (flag : UInt32)
  | isSet (flag : UInt32)
  deriving DecidableEq, Repr

/-- What an operation answers: a change, whether its number is that of a flag; a question, whether
the flag is in the set. -/
def answer (flags : SamplingFlags) : Operation → Bool
  | .set flag | .clear flag => inRange flag
  | .isSet flag => flags.isSet flag

/-- The set behind an operation. -/
def apply (flags : SamplingFlags) : Operation → SamplingFlags
  | .set flag => flags.set flag
  | .clear flag => flags.clear flag
  | .isSet _ => flags

end SamplingFlags

end ScriptShell
