import Mathlib.Algebra.Group.Nat.Defs
import ScriptShell.Decimal.Layout
import ScriptShell.Proofs.Profile.Tokens

/-!
# Number tokens of elapsed times

What the profile writes for a finite number is a JSON number (`Decimal.isNumber_float`): it begins
with its first digit or with a minus before it, no zero stands before another digit, and there are
digits on both sides of the point. All of this comes down to the shortest digits of a number. There
is at least one, and the first one is not zero (`Decimal.Binary.proper_shortest`), because the
coefficient that is searched for is never zero.
-/

namespace ScriptShell.Decimal

/-- Decimal digits of which the first one is not zero. -/
structure Digits.Proper (number : Digits) : Prop where
  isDigit : ∀ c ∈ number.digits, c.isDigit = true
  exists_cons : ∃ first rest, number.digits = first :: rest ∧ first ≠ '0'

/-! ## The digits of a coefficient -/

theorem isDigit_toDigits (number : Nat) : ∀ c ∈ Nat.toDigits 10 number, c.isDigit = true :=
  fun _ hc => Nat.isDigit_of_mem_toDigits (by decide) (by decide) hc

theorem exists_toDigits_eq {number : Nat} (hpositive : 0 < number) :
    ∃ first rest, Nat.toDigits 10 number = first :: rest ∧ first ≠ '0' := by
  induction number using Nat.strongRecOn with
  | ind number ih =>
      by_cases hsmall : number < 10
      · refine ⟨_, [], Nat.toDigits_of_lt_base hsmall, ?_⟩
        have hdigits : ∀ digit < 10, 0 < digit → Nat.digitChar digit ≠ '0' := by decide
        exact hdigits number hsmall hpositive
      · obtain ⟨first, rest, hfirst, hzero⟩ := ih (number / 10) (by omega) (by omega)
        refine ⟨first, rest ++ [(number % 10).digitChar], ?_, hzero⟩
        rw [Nat.toDigits_of_base_le (by decide) (by omega), hfirst, List.cons_append]

theorem Digits.proper_ofCoefficient {coefficient : Nat} (hpositive : 0 < coefficient)
    (place : Int) : (ofCoefficient coefficient place).Proper := by
  obtain ⟨first, rest, hdigits, hfirst⟩ := exists_toDigits_eq hpositive
  have hall := isDigit_toDigits coefficient
  have hkept : (ofCoefficient coefficient place).digits =
      first :: (rest.reverse.dropWhile (· = '0')).reverse := by
    rw [ofCoefficient, hdigits, List.reverse_cons, List.dropWhile_append]
    split
    · rename_i hempty
      rw [List.isEmpty_iff.mp hempty]
      simp [hfirst]
    · simp
  rw [hdigits, List.forall_mem_cons] at hall
  refine ⟨?_, first, _, hkept, hfirst⟩
  rw [hkept, List.forall_mem_cons]
  refine ⟨hall.1, fun c hc => hall.2 c ?_⟩
  exact List.mem_reverse.mp (List.dropWhile_subset _ (List.mem_reverse.mp hc))

/-! ## The coefficient that is found -/

/-- The nearest coefficient lies in the interval or above another one, so it is positive. -/
theorem Interval.nearest?_pos {interval : Interval} (hlow : 0 < interval.low) {place : Int}
    {coefficient : Nat} (h : interval.nearest? place = some coefficient) : 0 < coefficient := by
  unfold nearest? at h
  dsimp only at h
  generalize interval.value * Nat.pow 10 (-place).toNat /
    (Nat.pow 10 place.toNat * interval.denominator) = below at h
  have hdown : 0 < interval.low * Nat.pow 10 (-place).toNat :=
    Nat.mul_pos hlow (Nat.pow_pos (by decide))
  -- Zero lies below the interval, so where the coefficient below is zero the one above counts.
  rcases Nat.eq_zero_or_pos below with rfl | hbelow
  · rw [Nat.zero_mul] at h
    have hclosed : ¬ interval.low * Nat.pow 10 (-place).toNat ≤ 0 := Nat.not_le.mpr hdown
    simp only [hclosed, Nat.not_lt_zero, decide_false, Bool.false_and, ite_self] at h
    split at h
    · contradiction
    · contradiction
    · cases h
      exact Nat.one_pos
    · cases h
  · split at h
    · split at h
      · cases h
        exact hbelow
      · split at h
        · cases h
          exact Nat.succ_pos below
        · cases h
          split
          · exact hbelow
          · exact Nat.succ_pos below
    · cases h
      exact hbelow
    · cases h
      exact Nat.succ_pos below
    · cases h

theorem le_mul_shiftsToOne (denominator bound numerator : Nat) :
    denominator ≤ numerator * 10 ^ shiftsToOne denominator bound numerator ∨
      shiftsToOne denominator bound numerator = bound := by
  induction bound generalizing numerator with
  | zero => exact .inr rfl
  | succ bound ih =>
      rw [shiftsToOne]
      split
      · exact .inl (by simpa)
      · rcases ih (numerator * 10) with hone | hbound
        · refine .inl ?_
          rwa [Nat.pow_succ, Nat.mul_comm (10 ^ _) 10, ← Nat.mul_assoc]
        · exact .inr (by rw [hbound])

/-- An interval as it is around a number: its ends are positive and its unit is not too small for
the places that are looked at. -/
structure Interval.Around (interval : Interval) : Prop where
  low_pos : 0 < interval.low
  value_pos : 0 < interval.value
  denominator_pos : 0 < interval.denominator
  denominator_le : interval.denominator ≤ 10 ^ 400

/-- The least number with as many digits. -/
theorem pow_length_repr_le {number : Nat} (hpositive : 0 < number) :
    10 ^ (number.repr.length - 1) ≤ number := by
  have hlength : number.repr.length = (Nat.toDigits 10 number).length := by
    rw [Nat.repr_eq_ofList_toDigits, String.length_ofList]
  rw [hlength]
  by_cases hone : (Nat.toDigits 10 number).length - 1 = 0
  · rw [hone]
    exact hpositive
  · rw [← Nat.not_lt, ← Nat.length_toDigits_le_iff (by decide) (Nat.pos_of_ne_zero hone)]
    omega

/-- Seventeen places are enough for a digit that is not zero. -/
theorem Interval.Around.coefficient_pos {interval : Interval} (h : interval.Around) :
    let place := pointOf interval.value interval.denominator - 17
    0 < interval.value * Nat.pow 10 (-place).toNat /
      (Nat.pow 10 place.toNat * interval.denominator) := by
  intro place
  have hup : 0 < Nat.pow 10 place.toNat * interval.denominator :=
    Nat.mul_pos (Nat.pow_pos (by decide)) h.denominator_pos
  refine Nat.div_pos ?_ hup
  by_cases hlarge : interval.denominator ≤ interval.value
  · have hquotient := pow_length_repr_le (Nat.div_pos hlarge h.denominator_pos)
    have hplace : place.toNat ≤ (interval.value / interval.denominator).repr.length - 1 := by
      simp only [place, pointOf, if_pos hlarge]
      omega
    calc 10 ^ place.toNat * interval.denominator
        ≤ interval.value / interval.denominator * interval.denominator := by
          refine Nat.mul_le_mul_right _ (Nat.le_trans ?_ hquotient)
          exact Nat.pow_le_pow_right (by decide) hplace
      _ ≤ interval.value := Nat.div_mul_le_self _ _
      _ ≤ interval.value * 10 ^ (-place).toNat :=
          Nat.le_mul_of_pos_right _ (Nat.pow_pos (by decide))
  · have hplace : place = -(shiftsToOne interval.denominator 400 interval.value + 16 : Nat) := by
      simp only [place, pointOf, if_neg hlarge]
      omega
    have hzero : place.toNat = 0 := by omega
    have hshifts : (-place).toNat =
        shiftsToOne interval.denominator 400 interval.value + 16 := by omega
    rw [hzero, hshifts]
    show 10 ^ 0 * interval.denominator ≤ interval.value * 10 ^ (_ + 16)
    rw [Nat.pow_zero, Nat.one_mul, Nat.pow_add]
    have hshifted : interval.denominator ≤
        interval.value * 10 ^ shiftsToOne interval.denominator 400 interval.value := by
      rcases le_mul_shiftsToOne interval.denominator 400 interval.value with hone | hbound
      · exact hone
      · -- The bound on the shifts is beyond every denominator, so it may be reached as well.
        rw [hbound]
        exact Nat.le_trans h.denominator_le (Nat.le_mul_of_pos_left _ h.value_pos)
    exact Nat.le_trans hshifted
      (Nat.mul_le_mul_left _ (Nat.le_mul_of_pos_right _ (Nat.pow_pos (by decide))))

theorem Interval.Around.proper_search {interval : Interval} (h : interval.Around) (left : Nat) :
    (interval.search (pointOf interval.value interval.denominator) left).Proper := by
  induction left with
  | zero => exact Digits.proper_ofCoefficient h.coefficient_pos _
  | succ left ih =>
      rw [Interval.search]
      split
      · rename_i hnearest
        exact Digits.proper_ofCoefficient (Interval.nearest?_pos h.low_pos hnearest) _
      · exact ih

/-- The interval around a number as the bits of a binary64 number stand for it. -/
theorem Binary.around_interval {number : Binary} (hsignificand : 0 < number.significand)
    (hexponent : -1074 ≤ number.exponent) : number.interval.Around := by
  have hscale : 0 < Nat.pow 2 (number.exponent - 2).toNat := Nat.pow_pos (by decide)
  refine ⟨Nat.mul_pos ?_ hscale, Nat.mul_pos (by omega) hscale, Nat.pow_pos (by decide), ?_⟩
  · split <;> omega
  · calc 2 ^ (-(number.exponent - 2)).toNat ≤ 2 ^ 1076 :=
        Nat.pow_le_pow_right (by decide) (by omega)
      _ ≤ 10 ^ 400 := by decide +kernel

/-- The digits of a positive finite number begin with one that is not zero. -/
theorem Binary.proper_shortest {bits : UInt64} (hpositive : bits ≠ 0)
    (hsize : bits.toNat < 2 ^ 63) : (Binary.ofBits bits).shortest.Proper := by
  have hbits : bits.toNat ≠ 0 := fun h => hpositive (UInt64.toNat_inj.mp h)
  have hpow : Nat.pow 2 52 = 2 ^ 52 ∧ Nat.pow 2 11 = 2 ^ 11 := ⟨rfl, rfl⟩
  refine (Binary.around_interval ?_ ?_).proper_search 17
  · simp only [Binary.ofBits, hpow]
    split
    · dsimp only
      omega
    · exact Nat.add_pos_left (by decide) _
  · simp only [Binary.ofBits, hpow]
    split
    · exact Int.le_refl _
    · dsimp only
      omega

/-! ## Digits as a number -/

open Json

/-- Digits go on as long as there are some. -/
theorem foldlM_stay {part : NumberPart} {digits : List Char}
    (hpart : ∀ c : Char, c.isDigit = true → part.step? c = some part)
    (hdigits : ∀ c ∈ digits, c.isDigit = true) :
    digits.foldlM NumberPart.step? part = some part := by
  induction digits with
  | nil => rfl
  | cons c digits ih =>
      obtain ⟨hc, hdigits⟩ := List.forall_mem_cons.mp hdigits
      rw [List.foldlM_cons, hpart c hc]
      exact ih hdigits

/-- Digits where there must be one. -/
theorem foldlM_move {part next : NumberPart} {digits : List Char}
    (hpart : ∀ c : Char, c.isDigit = true → part.step? c = some next)
    (hnext : ∀ c : Char, c.isDigit = true → next.step? c = some next) (hne : digits ≠ [])
    (hdigits : ∀ c ∈ digits, c.isDigit = true) :
    digits.foldlM NumberPart.step? part = some next := by
  obtain ⟨c, digits, rfl⟩ := List.exists_cons_of_ne_nil hne
  obtain ⟨hc, hdigits⟩ := List.forall_mem_cons.mp hdigits
  rw [List.foldlM_cons, hpart c hc]
  exact foldlM_stay hnext hdigits

/-- The whole part of a number, up to a point or a power. -/
theorem foldlM_start {first : Char} {digits : List Char} (hzero : first ≠ '0')
    (hfirst : first.isDigit = true) (hdigits : ∀ c ∈ digits, c.isDigit = true) :
    (first :: digits).foldlM NumberPart.step? .start = some .whole := by
  have hminus : first ≠ '-' := by
    rintro rfl
    cases hfirst
  rw [List.foldlM_cons, NumberPart.step?, if_neg hminus, if_neg hzero, if_pos hfirst]
  exact foldlM_stay (fun _ hc => if_pos hc) hdigits

/-- Digits behind a point. -/
theorem foldlM_fraction {whole fraction : List Char} {part : NumberPart}
    (hwhole : whole.foldlM NumberPart.step? .start = some part)
    (hpart : part.step? '.' = some .point) (hne : fraction ≠ [])
    (hfraction : ∀ c ∈ fraction, c.isDigit = true) :
    (whole ++ '.' :: fraction).foldlM NumberPart.step? .start = some .fraction := by
  have hread : fraction.foldlM NumberPart.step? .point = some .fraction :=
    foldlM_move (fun _ hc => if_pos hc) (fun _ hc => if_pos hc) hne hfraction
  simp [List.foldlM_append, hwhole, hpart, hread]

/-- A power of ten behind a number, with a sign or without one. -/
theorem isNumber_append_power {chars : List Char} {part : NumberPart} {sign : List Char}
    (power : Nat) (hread : chars.foldlM NumberPart.step? .start = some part)
    (hpart : part.step? 'e' = some .letter) (hsign : sign = [] ∨ sign = ['+'] ∨ sign = ['-']) :
    isNumber (chars ++ 'e' :: (sign ++ Nat.toDigits 10 power)) = true := by
  have hdigits : ∀ {part : NumberPart},
      (∀ c, c.isDigit = true → part.step? c = some .power) →
      (Nat.toDigits 10 power).foldlM NumberPart.step? part = some .power := fun hstep =>
    foldlM_move hstep (fun _ hc => if_pos hc) Nat.toDigits_ne_nil (isDigit_toDigits power)
  have hpower : (sign ++ Nat.toDigits 10 power).foldlM NumberPart.step? .letter =
      some .power := by
    rcases hsign with rfl | rfl | rfl
    · refine hdigits fun c hc => ?_
      have hplain : c ≠ '+' ∧ c ≠ '-' := by constructor <;> rintro rfl <;> cases hc
      simp [NumberPart.step?, hc, hplain]
    · exact hdigits fun _ hc => if_pos hc
    · exact hdigits fun _ hc => if_pos hc
  have hall : ('e' :: (sign ++ Nat.toDigits 10 power)).foldlM NumberPart.step? part =
      some .power := by
    rw [List.foldlM_cons, hpart]
    exact hpower
  rw [isNumber, List.foldlM_append, hread]
  exact congrArg (Option.any NumberPart.complete) hall

/-- Whether or not a positive power shows its sign. -/
theorem Digits.Proper.isNumber_exponential {number : Digits} (h : number.Proper) {layout : Layout}
    (hplus : layout.plus = [] ∨ layout.plus = ['+']) :
    isNumber (layout.exponential number) = true := by
  obtain ⟨first, rest, hdigits, hzero⟩ := h.exists_cons
  have hall := h.isDigit
  rw [hdigits, List.forall_mem_cons] at hall
  have hstart := foldlM_start hzero hall.1 (List.forall_mem_nil _)
  have hsign : (if number.point - 1 < 0 then ['-'] else layout.plus) = [] ∨
      (if number.point - 1 < 0 then ['-'] else layout.plus) = ['+'] ∨
      (if number.point - 1 < 0 then ['-'] else layout.plus) = ['-'] := by
    split
    · exact .inr (.inr rfl)
    · exact hplus.imp_right .inl
  unfold Layout.exponential
  rw [hdigits]
  cases rest with
  | nil => exact isNumber_append_power _ hstart rfl hsign
  | cons next rest =>
      have hread := foldlM_fraction hstart rfl (List.cons_ne_nil next rest) hall.2
      exact isNumber_append_power _ hread rfl hsign

theorem isDigit_zeros (count : Int) : ∀ c ∈ zeros count, c.isDigit = true := by
  intro c hc
  rw [List.eq_of_mem_replicate hc]
  rfl

theorem Digits.Proper.isNumber_positional {number : Digits} (h : number.Proper) :
    isNumber (Layout.profile.positional number) = true := by
  obtain ⟨first, rest, hdigits, hzero⟩ := h.exists_cons
  have hall := h.isDigit
  have hfirst : first.isDigit = true := hall first (hdigits ▸ List.mem_cons_self)
  -- Wherever the point stands, what is in front of it is read as a whole number.
  have hread : ∃ whole fraction part, Layout.profile.positional number = whole ++ '.' :: fraction ∧
      whole.foldlM NumberPart.step? .start = some part ∧ part.step? '.' = some .point ∧
      fraction ≠ [] ∧ ∀ c ∈ fraction, c.isDigit = true := by
    unfold Layout.positional
    dsimp only
    split
    · refine ⟨['0'], zeros (-number.point) ++ number.digits, .zero, rfl, rfl, rfl, ?_, ?_⟩
      · simp [hdigits]
      · exact List.forall_mem_append.mpr ⟨isDigit_zeros _, hall⟩
    split
    · rename_i hcount
      refine ⟨number.digits ++ zeros (number.point - number.digits.length), ['0'], .whole, rfl, ?_,
        rfl, List.cons_ne_nil _ _, List.forall_mem_singleton.mpr rfl⟩
      rw [hdigits, List.cons_append]
      rw [hdigits, List.forall_mem_cons] at hall
      exact foldlM_start hzero hfirst (List.forall_mem_append.mpr ⟨hall.2, isDigit_zeros _⟩)
    · refine ⟨number.digits.take number.point.toNat, number.digits.drop number.point.toNat, .whole,
        rfl, ?_, rfl, ?_, fun c hc => hall c (List.mem_of_mem_drop hc)⟩
      · obtain ⟨count, hcount⟩ : ∃ count, number.point.toNat = count + 1 :=
          Nat.exists_eq_succ_of_ne_zero (by omega)
        rw [hdigits, hcount, List.take_succ_cons]
        rw [hdigits, List.forall_mem_cons] at hall
        exact foldlM_start hzero hfirst fun c hc => hall.2 c (List.mem_of_mem_take hc)
      · rw [ne_eq, List.drop_eq_nil_iff]
        omega
  obtain ⟨whole, fraction, part, heq, hwhole, hpart, hne, hfraction⟩ := hread
  rw [heq, isNumber, foldlM_fraction hwhole hpart hne hfraction]
  rfl

theorem Digits.Proper.isNumber_digits {number : Digits} (h : number.Proper) :
    isNumber (Layout.profile.digits number) = true := by
  unfold Layout.digits
  split
  · exact h.isNumber_positional
  · exact h.isNumber_exponential (.inr rfl)

/-- No sign is written with digits. -/
theorem Digits.Proper.head?_digits {number : Digits} (h : number.Proper) :
    (Layout.profile.digits number).head? ≠ some '-' := by
  obtain ⟨first, rest, hdigits, -⟩ := h.exists_cons
  have hfirst : first ≠ '-' := by
    rintro rfl
    have hminus := h.isDigit '-' (hdigits ▸ List.mem_cons_self)
    cases hminus
  have htake : ∀ count, 0 < count → (number.digits.take count).head? = some first := by
    intro count hcount
    rw [List.head?_take, if_neg (Nat.ne_of_gt hcount), hdigits, List.head?_cons]
  unfold Layout.digits
  split
  · unfold Layout.positional
    dsimp only
    split
    · simp
    split
    · simp [hdigits, hfirst]
    · simp [htake number.point.toNat (by omega), hfirst]
  · simp [Layout.exponential, htake 1, hfirst]

/-- A minus in front of a number. -/
theorem isNumber_minus_cons {chars : List Char} (h : isNumber chars = true)
    (hminus : chars.head? ≠ some '-') : isNumber ('-' :: chars) = true := by
  obtain ⟨c, rest, rfl⟩ := List.exists_cons_of_ne_nil (ne_nil_of_isNumber h)
  have hc : c ≠ '-' := fun hc => hminus (by rw [hc]; rfl)
  have hstep : NumberPart.step? .minus c = NumberPart.step? .start c := by
    rw [NumberPart.step?, NumberPart.step?, if_neg hc]
  unfold isNumber at h ⊢
  rw [List.foldlM_cons] at h ⊢
  show (((c :: rest).foldlM NumberPart.step? .minus).any NumberPart.complete) = true
  rwa [List.foldlM_cons, hstep]

/-- A binary64 number that is neither infinite nor no number at all. -/
def Finite (number : Float) : Prop :=
  number.toBits % 0x8000000000000000 < 0x7FF0000000000000

/-- What the profile writes for a finite number is a JSON number. -/
theorem isNumber_float {number : Float} (hfinite : Finite number) :
    isNumber (Layout.profile.float number).toList = true := by
  unfold Finite at hfinite
  unfold Layout.float
  generalize number.toBits = bits at hfinite
  dsimp only
  generalize hsize : bits % 0x8000000000000000 = size at hfinite
  have hnan : ¬ 0x7FF0000000000000 < size := UInt64.lt_asymm hfinite
  have hinfinite : size ≠ 0x7FF0000000000000 := UInt64.ne_of_lt hfinite
  rw [if_neg hnan, if_neg hinfinite, String.toList_ofList]
  by_cases hzero : size = 0
  · have hsign : (decide (size < bits) && size != 0) = false := by simp [hzero]
    rw [hsign, if_pos hzero]
    rfl
  · have hproper : (Binary.ofBits size).shortest.Proper := by
      refine Binary.proper_shortest hzero ?_
      have hless := UInt64.lt_iff_toNat_lt.mp hfinite
      exact Nat.lt_trans hless (by decide)
    rw [if_neg hzero]
    split
    · exact isNumber_minus_cons hproper.isNumber_digits hproper.head?_digits
    · exact hproper.isNumber_digits

end ScriptShell.Decimal
