import Mathlib.Data.List.Basic
import ScriptShell.Text.Decode
import ScriptShell.Text.Lines

/-!
# Text through UTF-8

A text comes back from its octets (`decode_ofString`), and these hold a newline only where the text
does (`Bytes.newline_notMem_ofString`). Both are shown character by character, one case for each
length of an encoding.
-/

namespace ScriptShell

namespace Utf8

/-! ## Octets as numbers -/

theorem toNat_toUInt8 {number : Nat} (hnumber : number < 256) : number.toUInt8.toNat = number :=
  Nat.mod_eq_of_lt hnumber

theorem isTail_iff {octet : UInt8} :
    isTail octet = true ↔ 0x80 ≤ octet.toNat ∧ octet.toNat ≤ 0xBF := by
  simp [isTail, UInt8.le_iff_toNat_le]

theorem leadsOne_iff {first : UInt8} : leadsOne first = true ↔ first.toNat < 0x80 := by
  simp [leadsOne, UInt8.lt_iff_toNat_lt]

theorem formsTwo_iff {first second : UInt8} :
    formsTwo first second = true ↔
      0xC2 ≤ first.toNat ∧ first.toNat ≤ 0xDF ∧ isTail second = true := by
  simp [formsTwo, UInt8.le_iff_toNat_le, and_assoc]

theorem startsThree_iff {first second : UInt8} :
    startsThree first second = true ↔
      0xE0 ≤ first.toNat ∧ first.toNat ≤ 0xEF ∧ isTail second = true ∧
        (first.toNat = 0xE0 → 0xA0 ≤ second.toNat) ∧
        (first.toNat = 0xED → second.toNat ≤ 0x9F) := by
  have hlow : first = 0xE0 ↔ first.toNat = 0xE0 := UInt8.toNat_inj.symm
  have hsurrogate : first = 0xED ↔ first.toNat = 0xED := UInt8.toNat_inj.symm
  simp only [startsThree, hlow, hsurrogate, isTail_iff]
  split
  · simp only [Bool.and_eq_true, decide_eq_true_eq, UInt8.le_iff_toNat_le, UInt8.reduceToNat]
    omega
  · split
    · simp only [Bool.and_eq_true, decide_eq_true_eq, UInt8.le_iff_toNat_le, UInt8.reduceToNat]
      omega
    · simp only [Bool.and_eq_true, decide_eq_true_eq, UInt8.le_iff_toNat_le, UInt8.reduceToNat,
        isTail_iff]
      omega

theorem startsFour_iff {first second : UInt8} :
    startsFour first second = true ↔
      0xF0 ≤ first.toNat ∧ first.toNat ≤ 0xF4 ∧ isTail second = true ∧
        (first.toNat = 0xF0 → 0x90 ≤ second.toNat) ∧
        (first.toNat = 0xF4 → second.toNat ≤ 0x8F) := by
  have hlow : first = 0xF0 ↔ first.toNat = 0xF0 := UInt8.toNat_inj.symm
  have hhigh : first = 0xF4 ↔ first.toNat = 0xF4 := UInt8.toNat_inj.symm
  simp only [startsFour, hlow, hhigh, isTail_iff]
  split
  · simp only [Bool.and_eq_true, decide_eq_true_eq, UInt8.le_iff_toNat_le, UInt8.reduceToNat]
    omega
  · split
    · simp only [Bool.and_eq_true, decide_eq_true_eq, UInt8.le_iff_toNat_le, UInt8.reduceToNat]
      omega
    · simp only [Bool.and_eq_true, decide_eq_true_eq, UInt8.le_iff_toNat_le, UInt8.reduceToNat,
        isTail_iff]
      omega

/-! ## Characters -/

variable {a b c d : UInt8} {read : List Char} {rest : Bytes}

private theorem read_one (hone : a.toNat < 0x80) :
    decodeOnto? read (a :: rest) = decodeOnto? (one a :: read) rest := by
  rw [decodeOnto?.eq_def]
  exact if_pos (leadsOne_iff.mpr hone)

private theorem read_two (hfirst : 0xC2 ≤ a.toNat ∧ a.toNat ≤ 0xDF)
    (htail : 0x80 ≤ b.toNat ∧ b.toNat ≤ 0xBF) :
    decodeOnto? read (a :: b :: rest) = decodeOnto? (two a b :: read) rest := by
  have hone : ¬ leadsOne a = true := by
    rw [leadsOne_iff]
    omega
  have htwo : formsTwo a b = true := formsTwo_iff.mpr ⟨hfirst.1, hfirst.2, isTail_iff.mpr htail⟩
  rw [decodeOnto?.eq_def]
  dsimp only
  rw [if_neg hone]
  exact if_pos htwo

private theorem read_three (hstart : startsThree a b = true)
    (htail : 0x80 ≤ c.toNat ∧ c.toNat ≤ 0xBF) :
    decodeOnto? read (a :: b :: c :: rest) = decodeOnto? (three a b c :: read) rest := by
  have hfirst := startsThree_iff.mp hstart
  have hone : ¬ leadsOne a = true := by
    rw [leadsOne_iff]
    omega
  have htwo : ¬ formsTwo a b = true := by
    rw [formsTwo_iff]
    omega
  have hthree : formsThree a b c = true := by
    rw [formsThree, hstart, isTail_iff.mpr htail]
    rfl
  rw [decodeOnto?.eq_def]
  dsimp only
  rw [if_neg hone, if_neg htwo]
  exact if_pos hthree

private theorem read_four (hstart : startsFour a b = true)
    (hthird : 0x80 ≤ c.toNat ∧ c.toNat ≤ 0xBF) (hfourth : 0x80 ≤ d.toNat ∧ d.toNat ≤ 0xBF) :
    decodeOnto? read (a :: b :: c :: d :: rest) = decodeOnto? (four a b c d :: read) rest := by
  have hfirst := startsFour_iff.mp hstart
  have hone : ¬ leadsOne a = true := by
    rw [leadsOne_iff]
    omega
  have htwo : ¬ formsTwo a b = true := by
    rw [formsTwo_iff]
    omega
  have hthree : ¬ formsThree a b c = true := by
    rw [formsThree, Bool.and_eq_true, startsThree_iff]
    omega
  have hfour : formsFour a b c d = true := by
    rw [formsFour, hstart, isTail_iff.mpr hthird, isTail_iff.mpr hfourth]
    rfl
  rw [decodeOnto?.eq_def]
  dsimp only
  rw [if_neg hone, if_neg htwo, if_neg hthree]
  exact if_pos hfour

/-- What was written of a character is read back, whatever follows. -/
theorem decodeOnto?_encodeChar (character : Char) (read : List Char) (rest : Bytes) :
    decodeOnto? read (encodeChar character ++ rest) = decodeOnto? (character :: read) rest := by
  have hvalid : character.toNat.isValidChar := character.valid
  have hcharacter : Char.ofNat character.toNat = character := Char.ofNat_toNat character
  unfold Nat.isValidChar at hvalid
  unfold encodeChar
  generalize character.toNat = scalar at hvalid hcharacter
  dsimp only
  split
  · have hfirst : scalar.toUInt8.toNat = scalar := toNat_toUInt8 (by omega)
    show decodeOnto? read (_ :: rest) = _
    rw [read_one (by omega), one, hfirst, hcharacter]
  split
  · have hfirst : (0xC0 + scalar / 0x40).toUInt8.toNat = 0xC0 + scalar / 0x40 :=
      toNat_toUInt8 (by omega)
    have hsecond : (0x80 + scalar % 0x40).toUInt8.toNat = 0x80 + scalar % 0x40 :=
      toNat_toUInt8 (by omega)
    show decodeOnto? read (_ :: _ :: rest) = _
    rw [read_two (by omega) (by omega), two, tailBits, hfirst, hsecond]
    rw [show (0xC0 + scalar / 0x40) % 0x20 * 0x40 + (0x80 + scalar % 0x40) % 0x40 = scalar by omega,
      hcharacter]
  split
  · have hfirst : (0xE0 + scalar / 0x1000).toUInt8.toNat = 0xE0 + scalar / 0x1000 :=
      toNat_toUInt8 (by omega)
    have hsecond : (0x80 + scalar / 0x40 % 0x40).toUInt8.toNat = 0x80 + scalar / 0x40 % 0x40 :=
      toNat_toUInt8 (by omega)
    have hthird : (0x80 + scalar % 0x40).toUInt8.toNat = 0x80 + scalar % 0x40 :=
      toNat_toUInt8 (by omega)
    have hstart : startsThree (0xE0 + scalar / 0x1000).toUInt8
        (0x80 + scalar / 0x40 % 0x40).toUInt8 = true := by
      rw [startsThree_iff, isTail_iff, hfirst, hsecond]
      omega
    show decodeOnto? read (_ :: _ :: _ :: rest) = _
    rw [read_three hstart (by omega), three, tailBits, tailBits, hfirst, hsecond, hthird]
    rw [show (0xE0 + scalar / 0x1000) % 0x10 * 0x1000 +
      (0x80 + scalar / 0x40 % 0x40) % 0x40 * 0x40 + (0x80 + scalar % 0x40) % 0x40 = scalar by omega,
      hcharacter]
  · have hfirst : (0xF0 + scalar / 0x40000).toUInt8.toNat = 0xF0 + scalar / 0x40000 :=
      toNat_toUInt8 (by omega)
    have hsecond : (0x80 + scalar / 0x1000 % 0x40).toUInt8.toNat = 0x80 + scalar / 0x1000 % 0x40 :=
      toNat_toUInt8 (by omega)
    have hthird : (0x80 + scalar / 0x40 % 0x40).toUInt8.toNat = 0x80 + scalar / 0x40 % 0x40 :=
      toNat_toUInt8 (by omega)
    have hfourth : (0x80 + scalar % 0x40).toUInt8.toNat = 0x80 + scalar % 0x40 :=
      toNat_toUInt8 (by omega)
    have hstart : startsFour (0xF0 + scalar / 0x40000).toUInt8
        (0x80 + scalar / 0x1000 % 0x40).toUInt8 = true := by
      rw [startsFour_iff, isTail_iff, hfirst, hsecond]
      omega
    show decodeOnto? read (_ :: _ :: _ :: _ :: rest) = _
    rw [read_four hstart (by omega) (by omega), four, tailBits, tailBits, tailBits, hfirst, hsecond,
      hthird, hfourth]
    rw [show (0xF0 + scalar / 0x40000) % 0x08 * 0x40000 +
      (0x80 + scalar / 0x1000 % 0x40) % 0x40 * 0x1000 +
      (0x80 + scalar / 0x40 % 0x40) % 0x40 * 0x40 + (0x80 + scalar % 0x40) % 0x40 = scalar by omega,
      hcharacter]

/-- A newline octet is a character of its own and part of no other. -/
theorem newline_notMem_encodeChar {character : Char} (hcharacter : character ≠ '\n') :
    Bytes.newline ∉ encodeChar character := by
  have hnumber : character.toNat ≠ 10 := by
    intro hnumber
    exact hcharacter (Char.toNat_inj.mp hnumber)
  have hother : ∀ {number : Nat}, number < 256 → number ≠ 10 →
      Bytes.newline ≠ number.toUInt8 := by
    intro number hless hne heq
    have hten := congrArg UInt8.toNat heq
    rw [toNat_toUInt8 hless] at hten
    exact hne hten.symm
  have hbound : character.toNat < 0x110000 := by
    have hvalid : character.toNat.isValidChar := character.valid
    unfold Nat.isValidChar at hvalid
    omega
  unfold encodeChar
  generalize character.toNat = scalar at hnumber hbound
  dsimp only
  split
  · simp only [List.mem_singleton]
    exact hother (by omega) hnumber
  split
  · simp only [List.mem_cons, List.not_mem_nil, or_false, not_or]
    exact ⟨hother (by omega) (by omega), hother (by omega) (by omega)⟩
  split
  · simp only [List.mem_cons, List.not_mem_nil, or_false, not_or]
    exact ⟨hother (by omega) (by omega), hother (by omega) (by omega),
      hother (by omega) (by omega)⟩
  · simp only [List.mem_cons, List.not_mem_nil, or_false, not_or]
    exact ⟨hother (by omega) (by omega), hother (by omega) (by omega),
      hother (by omega) (by omega), hother (by omega) (by omega)⟩

/-! ## Texts -/

theorem decodeOnto?_encode (characters read : List Char) :
    decodeOnto? read (encode characters) = some (read.reverse ++ characters) := by
  induction characters generalizing read with
  | nil => simp [encode, decodeOnto?]
  | cons character characters ih =>
      rw [encode, List.flatMap_cons, decodeOnto?_encodeChar, ← encode, ih]
      simp

end Utf8

/-- A text comes back from its octets. -/
theorem decode_ofString (text : String) : decode (Bytes.ofString text) = text := by
  have hread : Utf8.decode? (Bytes.ofString text) = some text.toList :=
    Utf8.decodeOnto?_encode text.toList []
  rw [decode, hread]
  exact String.ofList_toList

namespace Bytes

theorem newline_notMem_ofString {text : String} (htext : '\n' ∉ text.toList) :
    newline ∉ ofString text := by
  intro hmem
  obtain ⟨character, hcharacter, hoctet⟩ := List.mem_flatMap.mp hmem
  refine Utf8.newline_notMem_encodeChar ?_ hoctet
  rintro rfl
  exact htext hcharacter

theorem ofString_ne_nil {text : String} (htext : text ≠ "") : ofString text ≠ [] := by
  intro hempty
  have hdecoded := decode_ofString text
  rw [hempty] at hdecoded
  exact htext hdecoded.symm

end Bytes

end ScriptShell
