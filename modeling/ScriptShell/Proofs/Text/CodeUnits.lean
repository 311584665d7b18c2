import ScriptShell.Text.Wide

/-!
# Text through UTF-16

A text comes back from its 16-bit units (`WideText.escaped_ofString`). A character of the first
plane is a unit that is no surrogate; any other one is a pair, of which the first unit begins a pair
and the second one ends it. Units of characters are therefore never escaped, whatever stands behind
them.
-/

namespace ScriptShell

namespace WideText

/-! ## Units as numbers -/

theorem toNat_toUInt16 {number : Nat} (hnumber : number < 0x10000) :
    number.toUInt16.toNat = number :=
  Nat.mod_eq_of_lt hnumber

theorem isHigh_iff {unit : UInt16} :
    isHigh unit = true ↔ 0xD800 ≤ unit.toNat ∧ unit.toNat ≤ 0xDBFF := by
  simp [isHigh, UInt16.le_iff_toNat_le]

theorem isLow_iff {unit : UInt16} :
    isLow unit = true ↔ 0xDC00 ≤ unit.toNat ∧ unit.toNat ≤ 0xDFFF := by
  simp [isLow, UInt16.le_iff_toNat_le]

/-! ## Characters -/

/-- No character is a surrogate, and none lies beyond the last plane. -/
theorem toNat_bounds (character : Char) : character.toNat < 0xD800 ∨
    0xDFFF < character.toNat ∧ character.toNat < 0x110000 :=
  character.valid

theorem decodeOnto_single (written : List Char) {unit : UInt16} (hhigh : ¬ isHigh unit = true)
    (hlow : ¬ isLow unit = true) (rest : List UInt16) :
    decodeOnto written (unit :: rest) = decodeOnto (Char.ofNat unit.toNat :: written) rest := by
  rw [decodeOnto.eq_def]
  exact (if_neg hhigh).trans (if_neg hlow)

theorem decodeOnto_pair (written : List Char) {high low : UInt16} (hhigh : isHigh high = true)
    (hlow : isLow low = true) (rest : List UInt16) :
    decodeOnto written (high :: low :: rest) = decodeOnto (pair high low :: written) rest := by
  rw [decodeOnto, if_pos hhigh]
  exact if_pos hlow

/-- The units of a character are read as that character, whatever stands behind them. -/
theorem decodeOnto_encodeChar (written : List Char) (character : Char) (rest : List UInt16) :
    decodeOnto written (encodeChar character ++ rest) = decodeOnto (character :: written) rest := by
  have hbounds := toNat_bounds character
  -- one unit in the first plane, which is no surrogate, and a pair beyond it
  by_cases hplane : character.toNat < 0x10000
  · have hunit : character.toNat.toUInt16.toNat = character.toNat := toNat_toUInt16 hplane
    have hhigh : ¬ isHigh character.toNat.toUInt16 = true := by
      rw [isHigh_iff, hunit]
      omega
    have hlow : ¬ isLow character.toNat.toUInt16 = true := by
      rw [isLow_iff, hunit]
      omega
    have hencoded : encodeChar character = [character.toNat.toUInt16] := if_pos hplane
    rw [hencoded, List.singleton_append, decodeOnto_single _ hhigh hlow, hunit,
      Char.ofNat_toNat]
  · have hfirst : (0xD800 + (character.toNat - 0x10000) / 0x400).toUInt16.toNat =
        0xD800 + (character.toNat - 0x10000) / 0x400 := toNat_toUInt16 (by omega)
    have hsecond : (0xDC00 + (character.toNat - 0x10000) % 0x400).toUInt16.toNat =
        0xDC00 + (character.toNat - 0x10000) % 0x400 := toNat_toUInt16 (by omega)
    have hhigh : isHigh (0xD800 + (character.toNat - 0x10000) / 0x400).toUInt16 = true := by
      rw [isHigh_iff, hfirst]
      omega
    have hlow : isLow (0xDC00 + (character.toNat - 0x10000) % 0x400).toUInt16 = true := by
      rw [isLow_iff, hsecond]
      omega
    have hencoded : encodeChar character =
        [(0xD800 + (character.toNat - 0x10000) / 0x400).toUInt16,
          (0xDC00 + (character.toNat - 0x10000) % 0x400).toUInt16] := if_neg hplane
    have hscalar : 0x10000 + (character.toNat - 0x10000) / 0x400 * 0x400 +
        (character.toNat - 0x10000) % 0x400 = character.toNat := by omega
    rw [hencoded, List.cons_append, List.singleton_append, decodeOnto_pair _ hhigh hlow, pair,
      hfirst, hsecond, Nat.add_sub_cancel_left, Nat.add_sub_cancel_left, hscalar,
      Char.ofNat_toNat]

theorem decodeOnto_encode (written characters : List Char) :
    decodeOnto written (encode characters) = written.reverse ++ characters := by
  induction characters generalizing written with
  | nil => rw [encode, List.flatMap_nil, decodeOnto, List.append_nil]
  | cons character rest ih =>
      have hencode : encode (character :: rest) = encodeChar character ++ encode rest :=
        List.flatMap_cons
      rw [hencode, decodeOnto_encodeChar, ih, List.reverse_cons, List.append_assoc,
        List.singleton_append]

/-- Encoded text comes back as it was. -/
theorem escaped_ofString (text : String) : (ofString text).escaped = text := by
  rw [escaped, ofString, decodeOnto_encode, List.reverse_nil, List.nil_append, String.ofList_toList]

example : (ofString "𝄞\n").units = [0xD834, 0xDD1E, 0x0A] := by decide

end WideText

end ScriptShell
