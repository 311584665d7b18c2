import Mathlib.Combinatorics.Colex
import Mathlib.Data.Finset.Basic
import Mathlib.Data.List.Induction
import Mathlib.Data.Nat.Bitwise
import Mathlib.Order.Interval.Finset.Nat
import ScriptShell.Sampling.Flags

/-!
# Sampling flags as a set of numbers

The bits of a word stand for a set of numbers from 1 to 32. What single operations do to the bits is
said by `Nat.testBit`, where the number `n` is bit `n - 1`; from there on the bits are not looked at
any more, and a set of flags is what `isSet` tells of it (`SamplingFlags.ext_isSet`).

Behind operations one after the other a flag is in the set where the last change of that flag sets
it (`isSet_after`), so that only the order of the changes of one flag matters.

## Main results

* `bits_eq_sum`: the word is the sum of the powers of two of the members.
* `tells_of_operations`.
-/

namespace ScriptShell

namespace SamplingFlags

variable {flag other : UInt32} (flags : SamplingFlags)

/-! ## Bits -/

theorem inRange_iff : inRange flag = true ↔ 1 ≤ flag.toNat ∧ flag.toNat ≤ 32 := by
  simp [inRange, UInt32.le_iff_toNat_le]

/-- The shift that makes the bit of a flag stays within the word. -/
theorem toNat_sub_one (hrange : inRange flag = true) :
    (flag - 1).toNat = flag.toNat - 1 ∧ flag.toNat - 1 < 32 := by
  obtain ⟨hone, hbound⟩ := inRange_iff.mp hrange
  refine ⟨UInt32.toNat_sub_of_le _ _ ?_, by omega⟩
  rw [UInt32.le_iff_toNat_le]
  exact hone

theorem toNat_mask (hrange : inRange flag = true) :
    (mask flag).toNat = 2 ^ (flag.toNat - 1) := by
  obtain ⟨hshift, hwithin⟩ := toNat_sub_one hrange
  have hpower : 2 ^ (flag.toNat - 1) < 2 ^ 32 := Nat.pow_lt_pow_right (by decide) hwithin
  rw [mask, UInt32.toNat_shiftLeft, hshift, Nat.mod_eq_of_lt hwithin, UInt32.toNat_one,
    Nat.one_shiftLeft, Nat.mod_eq_of_lt hpower]

theorem testBit_mask (hrange : inRange flag = true) (place : Nat) :
    (mask flag).toNat.testBit place = decide (flag.toNat - 1 = place) := by
  rw [toNat_mask hrange, Nat.testBit_two_pow]

theorem isSet_iff_testBit : flags.isSet flag = true ↔
    inRange flag = true ∧ flags.bits.toNat.testBit (flag.toNat - 1) = true := by
  unfold isSet
  rw [Bool.and_eq_true]
  refine and_congr_right fun hrange => ?_
  rw [bne_iff_ne, ne_eq, ← UInt32.toNat_inj, UInt32.toNat_and, toNat_mask hrange,
    Nat.and_two_pow, UInt32.toNat_zero]
  cases flags.bits.toNat.testBit (flag.toNat - 1) <;> simp

theorem testBit_set (hrange : inRange flag = true) (place : Nat) :
    (flags.set flag).bits.toNat.testBit place =
      (flags.bits.toNat.testBit place || decide (flag.toNat - 1 = place)) := by
  rw [set, if_pos hrange, UInt32.toNat_or, Nat.testBit_or, testBit_mask hrange]

theorem testBit_clear (hrange : inRange flag = true) {place : Nat} (hplace : place < 32) :
    (flags.clear flag).bits.toNat.testBit place =
      (flags.bits.toNat.testBit place && !decide (flag.toNat - 1 = place)) := by
  rw [clear, if_pos hrange, UInt32.toNat_and, Nat.testBit_and, UInt32.toNat_not,
    show UInt32.size - 1 - (mask flag).toNat = 2 ^ 32 - ((mask flag).toNat + 1) by
      have := (mask flag).toNat_lt
      simp only [UInt32.size]
      omega,
    Nat.testBit_two_pow_sub_succ (mask flag).toNat_lt, testBit_mask hrange]
  simp [hplace]

/-! ## Members -/

theorem isSet_set : (flags.set flag).isSet other = true ↔
    inRange flag = true ∧ other = flag ∨ flags.isSet other = true := by
  by_cases hrange : inRange flag = true
  · rw [isSet_iff_testBit, testBit_set _ hrange, Bool.or_eq_true, decide_eq_true_eq,
      isSet_iff_testBit, and_or_left, or_comm]
    refine or_congr_left ⟨fun ⟨hother, hplace⟩ => ⟨hrange, ?_⟩, fun ⟨_, hsame⟩ => ?_⟩
    · rw [inRange_iff] at hrange hother
      exact UInt32.toNat_inj.mp (by omega)
    · subst hsame
      exact ⟨hrange, rfl⟩
  · rw [set, if_neg hrange]
    exact ⟨.inr, fun h => h.resolve_left fun hsame => hrange hsame.1⟩

theorem isSet_clear : (flags.clear flag).isSet other = true ↔
    flags.isSet other = true ∧ other ≠ flag := by
  by_cases hrange : inRange flag = true
  · rw [isSet_iff_testBit, isSet_iff_testBit, and_assoc]
    refine and_congr_right fun hother => ?_
    rw [testBit_clear _ hrange (toNat_sub_one hother).2, Bool.and_eq_true, Bool.not_eq_true',
      decide_eq_false_iff_not]
    refine and_congr_right fun _ => not_congr ⟨fun hplace => ?_, fun hsame => by rw [hsame]⟩
    rw [inRange_iff] at hrange hother
    exact UInt32.toNat_inj.mp (by omega)
  · rw [clear, if_neg hrange]
    refine ⟨fun hset => ⟨hset, ?_⟩, And.left⟩
    rintro rfl
    exact hrange (flags.isSet_iff_testBit.mp hset).1

theorem isSet_empty : isSet {} flag = false := by
  simp [isSet]

theorem isSet_ofNat_succ {place : Nat} (hplace : place < 32) :
    flags.isSet (UInt32.ofNat (place + 1)) = true ↔
      flags.bits.toNat.testBit place = true := by
  have hflag : (UInt32.ofNat (place + 1)).toNat = place + 1 :=
    UInt32.toNat_ofNat_of_lt' (by simp only [UInt32.size]; omega)
  have hrange : inRange (UInt32.ofNat (place + 1)) = true := inRange_iff.mpr (by omega)
  rw [isSet_iff_testBit, hflag, Nat.add_sub_cancel]
  exact and_iff_right hrange

theorem testBit_of_le {place : Nat} (hplace : 32 ≤ place) :
    flags.bits.toNat.testBit place = false :=
  Nat.testBit_eq_false_of_lt
    (Nat.lt_of_lt_of_le flags.bits.toNat_lt (Nat.pow_le_pow_right (by decide) hplace))

/-- A set of flags is what is in it. -/
theorem ext_isSet {flags others : SamplingFlags}
    (hsame : ∀ flag, flags.isSet flag = true ↔ others.isSet flag = true) : flags = others := by
  have hbits : flags.bits.toNat = others.bits.toNat := by
    refine Nat.eq_of_testBit_eq fun place => ?_
    by_cases hplace : place < 32
    · rw [Bool.eq_iff_iff, ← isSet_ofNat_succ _ hplace, ← isSet_ofNat_succ _ hplace]
      exact hsame _
    · rw [testBit_of_le _ (Nat.not_lt.mp hplace), testBit_of_le _ (Nat.not_lt.mp hplace)]
  cases flags
  cases others
  exact congrArg mk (UInt32.toNat_inj.mp hbits)

/-- The numbers of the flags in a set. -/
def members : Finset Nat :=
  {number ∈ Finset.Icc 1 32 | flags.isSet (UInt32.ofNat number) = true}

theorem mem_members {number : Nat} : number ∈ flags.members ↔
    (1 ≤ number ∧ number ≤ 32) ∧ flags.isSet (UInt32.ofNat number) = true := by
  rw [members, Finset.mem_filter, Finset.mem_Icc]

theorem succ_mem_members {place : Nat} :
    place + 1 ∈ flags.members ↔ flags.bits.toNat.testBit place = true := by
  by_cases hplace : place < 32
  · rw [mem_members, isSet_ofNat_succ _ hplace]
    exact and_iff_right (by omega)
  · rw [testBit_of_le _ (Nat.not_lt.mp hplace)]
    refine iff_of_false (fun hmem => ?_) Bool.false_ne_true
    exact hplace (flags.mem_members.mp hmem).1.2

/-- The word is the sum of the powers of two of its members. -/
theorem bits_eq_sum : flags.bits.toNat = ∑ number ∈ flags.members, 2 ^ (number - 1) := by
  conv_lhs => rw [← Finset.sum_toFinset_bitIndices_two_pow flags.bits.toNat]
  refine Finset.sum_nbij' (· + 1) (· - 1) ?_ ?_ ?_ ?_ ?_
  · intro place hplace
    rw [List.mem_toFinset, Nat.mem_bitIndices] at hplace
    exact flags.succ_mem_members.mpr hplace
  · intro number hnumber
    have hpositive := (flags.mem_members.mp hnumber).1.1
    rw [List.mem_toFinset, Nat.mem_bitIndices, ← succ_mem_members,
      Nat.sub_add_cancel hpositive]
    exact hnumber
  · intro place _
    exact Nat.add_sub_cancel place 1
  · intro number hnumber
    exact Nat.sub_add_cancel (flags.mem_members.mp hnumber).1.1
  · intro place _
    rw [Nat.add_sub_cancel]

/-! ## Operations one after the other -/

/-- The number that an operation is about. -/
def Operation.number : Operation → UInt32
  | .set number | .clear number | .isSet number => number

theorem isSet_apply (operation : Operation) : (flags.apply operation).isSet flag = true ↔
    operation = .set flag ∧ inRange flag = true ∨
      flags.isSet flag = true ∧ operation ≠ .clear flag := by
  cases operation with
  | set changed =>
      rw [apply, isSet_set]
      simp only [Operation.set.injEq, ne_eq, reduceCtorEq, not_false_eq_true, and_true]
      refine or_congr_left ⟨?_, ?_⟩
      · rintro ⟨hrange, rfl⟩
        exact ⟨rfl, hrange⟩
      · rintro ⟨rfl, hrange⟩
        exact ⟨hrange, rfl⟩
  | clear changed =>
      rw [apply, isSet_clear, ne_comm]
      simp
  | isSet asked => simp [apply]

/-- Operations on different numbers do not disturb each other. -/
theorem answer_apply {first second : Operation} (hapart : first.number ≠ second.number) :
    (flags.apply first).answer second = flags.answer second := by
  cases second with
  | set changed => rfl
  | clear changed => rfl
  | isSet asked =>
      rw [Bool.eq_iff_iff]
      show (flags.apply first).isSet asked = true ↔ flags.isSet asked = true
      rw [isSet_apply]
      have hset : first ≠ .set asked := by
        rintro rfl
        exact hapart rfl
      have hclear : first ≠ .clear asked := by
        rintro rfl
        exact hapart rfl
      simp [hset, hclear]

theorem apply_comm {first second : Operation} (hapart : first.number ≠ second.number) :
    (flags.apply first).apply second = (flags.apply second).apply first := by
  refine ext_isSet fun asked => ?_
  rw [isSet_apply, isSet_apply, isSet_apply, isSet_apply]
  have hset : first = .set asked → second ≠ .clear asked := by
    rintro rfl rfl
    exact hapart rfl
  have hclear : second = .set asked → first ≠ .clear asked := by
    rintro rfl rfl
    exact hapart rfl
  grind

/-- An operation whose number is that of no flag changes nothing. -/
theorem apply_of_not_inRange {operation : Operation} (hrange : inRange operation.number ≠ true) :
    flags.apply operation = flags := by
  cases operation with
  | set changed => exact if_neg hrange
  | clear changed => exact if_neg hrange
  | isSet asked => rfl

/-- The set behind operations that begin with the empty set. -/
def after (operations : List Operation) : SamplingFlags :=
  operations.foldl apply {}

theorem after_append_singleton (operations : List Operation) (last : Operation) :
    after (operations ++ [last]) = (after operations).apply last :=
  List.foldl_append

/-- The changes of a flag among operations, in their order. -/
def changesOf (flag : UInt32) (operations : List Operation) : List Operation :=
  operations.filter fun operation => operation = .set flag ∨ operation = .clear flag

/-- A flag is in the set where its last change sets it. -/
theorem isSet_after (operations : List Operation) : (after operations).isSet flag = true ↔
    inRange flag = true ∧ (changesOf flag operations).getLast? = some (.set flag) := by
  induction operations using List.reverseRecOn with
  | nil => simp [after, changesOf, isSet_empty]
  | append_singleton operations last ih =>
      have happend : changesOf flag (operations ++ [last]) =
          changesOf flag operations ++ changesOf flag [last] := List.filter_append _ _
      rw [after_append_singleton, isSet_apply, ih, happend]
      by_cases hset : last = .set flag
      · subst hset
        have hlast : changesOf flag [.set flag] = [.set flag] := by simp [changesOf]
        rw [hlast, List.getLast?_concat]
        exact ⟨fun h => ⟨h.elim And.right fun hbefore => hbefore.1.1, rfl⟩,
          fun h => .inl ⟨rfl, h.1⟩⟩
      by_cases hclear : last = .clear flag
      · simp [changesOf, hclear]
      · simp [changesOf, hset, hclear]

/-- Only the order of the changes of one flag matters. -/
theorem after_eq_of_changesOf {operations others : List Operation}
    (hsame : ∀ flag, inRange flag = true → changesOf flag others = changesOf flag operations) :
    after others = after operations := by
  refine ext_isSet fun flag => ?_
  rw [isSet_after, isSet_after]
  exact and_congr_right fun hrange => by rw [hsame flag hrange]

/-- The numbers from 1 to 32 whose last change among operations sets them. -/
def lastSet (operations : List Operation) : Finset Nat :=
  {number ∈ Finset.Icc 1 32 |
    (changesOf (UInt32.ofNat number) operations).getLast? = some (.set (UInt32.ofNat number))}

theorem members_after (operations : List Operation) :
    (after operations).members = lastSet operations := by
  ext number
  rw [mem_members, isSet_after, lastSet, Finset.mem_filter, Finset.mem_Icc]
  refine and_congr_right fun hbounds => and_iff_right (inRange_iff.mpr ?_)
  rwa [UInt32.toNat_ofNat_of_lt' (by simp only [UInt32.size]; omega)]

/-- What is true of a set of flags behind operations. -/
structure Tells (operations : List Operation) : Prop where
  set_answers : ∀ flag, (after operations).answer (.set flag) = true ↔
    1 ≤ flag.toNat ∧ flag.toNat ≤ 32
  clear_answers : ∀ flag, (after operations).answer (.clear flag) = true ↔
    1 ≤ flag.toNat ∧ flag.toNat ≤ 32
  isSet_answers : ∀ flag, (after operations).answer (.isSet flag) = true ↔
    (1 ≤ flag.toNat ∧ flag.toNat ≤ 32) ∧
      (changesOf flag operations).getLast? = some (.set flag)
  refused : ∀ operation : Operation,
    ¬ (1 ≤ operation.number.toNat ∧ operation.number.toNat ≤ 32) →
      (after operations).apply operation = after operations
  shift : ∀ flag, 1 ≤ flag.toNat ∧ flag.toNat ≤ 32 →
    (flag - 1).toNat = flag.toNat - 1 ∧ flag.toNat - 1 < 32 ∧
      (mask flag).toNat = 2 ^ (flag.toNat - 1)
  bits_eq : (after operations).bits.toNat = ∑ number ∈ lastSet operations, 2 ^ (number - 1)
  apart : ∀ first second : Operation, first.number ≠ second.number →
    ((after operations).apply first).answer second = (after operations).answer second ∧
      ((after operations).apply first).apply second =
        ((after operations).apply second).apply first
  reordered : ∀ others : List Operation,
    (∀ flag, 1 ≤ flag.toNat ∧ flag.toNat ≤ 32 →
      changesOf flag others = changesOf flag operations) →
        after others = after operations

/-- Whatever is set, cleared and asked, with whatever numbers and in whatever order. -/
theorem tells_of_operations (operations : List Operation) : Tells operations where
  set_answers _ := inRange_iff
  clear_answers _ := inRange_iff
  isSet_answers flag := by
    rw [← inRange_iff]
    exact isSet_after operations
  refused _ hrange := apply_of_not_inRange _ (mt inRange_iff.mp hrange)
  shift flag hrange := by
    have hflag := inRange_iff.mpr hrange
    obtain ⟨hshift, hwithin⟩ := toNat_sub_one hflag
    exact ⟨hshift, hwithin, toNat_mask hflag⟩
  bits_eq := by
    rw [← members_after]
    exact bits_eq_sum _
  apart _ _ hapart := ⟨answer_apply _ hapart, apply_comm _ hapart⟩
  reordered _ hsame := after_eq_of_changesOf fun flag hrange => hsame flag (inRange_iff.mp hrange)

/-- The greatest flag is the highest bit of the word. Numbers of no flag leave no trace, and the
operations on different flags may stand in another order. -/
theorem tells_of_operations_highest :
    (after [.set 32, .set 33, .set 5, .set 0, .clear 5, .set 1]).bits = 0x80000001 ∧
      after [.set 1, .set 5, .clear 5, .set 32] =
        after [.set 32, .set 33, .set 5, .set 0, .clear 5, .set 1] := by
  refine ⟨by decide, (tells_of_operations _).reordered _ fun flag hrange => ?_⟩
  have hzero : ¬ 0 = flag := by
    rintro rfl
    exact absurd hrange (by decide)
  have hbeyond : ¬ 33 = flag := by
    rintro rfl
    exact absurd hrange (by decide)
  by_cases hone : 1 = flag
  · subst hone
    decide
  by_cases hfive : 5 = flag
  · subst hfive
    decide
  by_cases hhighest : 32 = flag
  · subst hhighest
    decide
  · simp [changesOf, hzero, hone, hfive, hhighest, hbeyond]

end SamplingFlags

end ScriptShell
