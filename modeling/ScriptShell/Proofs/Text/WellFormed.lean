import ScriptShell.Proofs.Text.Utf8

/-!
# Well formed octets

Which sequences of octets are text is said twice. `Utf8.WellFormed` says it of the octets alone, by
the rows of the table of well formed sequences: the range of a second octet leaves out overlong
forms, surrogates and values above U+10FFFF, and a character that is cut short stands in no row. The
other way is to write down text: the octets of a text are the ones that `String.toUTF8` gives
(`Bytes.ofString_eq`).

Both come to the same (`Utf8.wellFormed_iff`), and what is well formed is exactly what can be read
(`Utf8.decode?_eq_some_iff`): a row is what `encodeChar` writes of the character that the reader
takes it for.
-/

namespace ScriptShell

namespace Utf8

/-! ## The table -/

/-- An octet that continues a character. -/
def Continues (octet : UInt8) : Prop :=
  0x80 ≤ octet.toNat ∧ octet.toNat ≤ 0xBF

/-- The octets of one character. -/
inductive Row : Bytes → Prop
  | one {a : UInt8} (ha : a.toNat ≤ 0x7F) : Row [a]
  | two {a b : UInt8} (hfirst : 0xC2 ≤ a.toNat) (hlast : a.toNat ≤ 0xDF) (hb : Continues b) :
      Row [a, b]
  | three {a b c : UInt8} (hfirst : 0xE0 ≤ a.toNat) (hlast : a.toNat ≤ 0xEF) (hb : Continues b)
      (hc : Continues c) (hoverlong : a.toNat = 0xE0 → 0xA0 ≤ b.toNat)
      (hsurrogate : a.toNat = 0xED → b.toNat ≤ 0x9F) : Row [a, b, c]
  | four {a b c d : UInt8} (hfirst : 0xF0 ≤ a.toNat) (hlast : a.toNat ≤ 0xF4) (hb : Continues b)
      (hc : Continues c) (hd : Continues d) (hoverlong : a.toNat = 0xF0 → 0x90 ≤ b.toNat)
      (hbeyond : a.toNat = 0xF4 → b.toNat ≤ 0x8F) : Row [a, b, c, d]

/-- Octets that are characters from end to end. -/
inductive WellFormed : Bytes → Prop
  | nil : WellFormed []
  | cons {character rest : Bytes} (hrow : Row character) (hrest : WellFormed rest) :
      WellFormed (character ++ rest)

/-! ## One character -/

theorem toNat_ofNat_of_isValidChar {number : Nat} (hvalid : number.isValidChar) :
    (Char.ofNat number).toNat = number := by
  rw [Char.ofNat, dif_pos hvalid]
  rfl

/-- What is written of a character is a row. -/
theorem row_encodeChar (character : Char) : Row (encodeChar character) := by
  have hvalid : character.toNat.isValidChar := character.valid
  unfold Nat.isValidChar at hvalid
  unfold encodeChar
  generalize character.toNat = scalar at hvalid
  have htail : ∀ number, Continues (0x80 + number % 0x40).toUInt8 := fun number => by
    unfold Continues
    rw [toNat_toUInt8 (by omega)]
    omega
  dsimp only
  split
  · exact .one (by rw [toNat_toUInt8 (by omega)]; omega)
  split
  · have hfirst : (0xC0 + scalar / 0x40).toUInt8.toNat = 0xC0 + scalar / 0x40 :=
      toNat_toUInt8 (by omega)
    exact .two (by omega) (by omega) (htail _)
  split
  · have hfirst : (0xE0 + scalar / 0x1000).toUInt8.toNat = 0xE0 + scalar / 0x1000 :=
      toNat_toUInt8 (by omega)
    have hsecond : (0x80 + scalar / 0x40 % 0x40).toUInt8.toNat = 0x80 + scalar / 0x40 % 0x40 :=
      toNat_toUInt8 (by omega)
    exact .three (by omega) (by omega) (htail _) (htail _) (by omega) (by omega)
  · have hfirst : (0xF0 + scalar / 0x40000).toUInt8.toNat = 0xF0 + scalar / 0x40000 :=
      toNat_toUInt8 (by omega)
    have hsecond : (0x80 + scalar / 0x1000 % 0x40).toUInt8.toNat = 0x80 + scalar / 0x1000 % 0x40 :=
      toNat_toUInt8 (by omega)
    exact .four (by omega) (by omega) (htail _) (htail _) (htail _) (by omega) (by omega)

section Forms

variable {a b c d : UInt8}

theorem toUInt8_eq (octet : UInt8) {number : Nat} (hnumber : number = octet.toNat) :
    number.toUInt8 = octet := by
  rw [hnumber]
  exact UInt8.ofNat_toNat

theorem encodeChar_one (hone : leadsOne a = true) : encodeChar (one a) = [a] := by
  have ha := leadsOne_iff.mp hone
  have hscalar : (one a).toNat = a.toNat :=
    toNat_ofNat_of_isValidChar (.inl (by omega))
  unfold encodeChar
  rw [hscalar]
  dsimp only
  rw [if_pos ha, toUInt8_eq a rfl]

theorem encodeChar_two (htwo : formsTwo a b = true) : encodeChar (two a b) = [a, b] := by
  obtain ⟨hfirst, hlast, hb⟩ := formsTwo_iff.mp htwo
  rw [isTail_iff] at hb
  have hscalar : (two a b).toNat = a.toNat % 0x20 * 0x40 + b.toNat % 0x40 :=
    toNat_ofNat_of_isValidChar (.inl (by unfold tailBits; omega))
  unfold encodeChar
  rw [hscalar]
  dsimp only
  rw [if_neg (by omega), if_pos (by omega), toUInt8_eq a (by omega), toUInt8_eq b (by omega)]

theorem encodeChar_three (hthree : formsThree a b c = true) :
    encodeChar (three a b c) = [a, b, c] := by
  rw [formsThree, Bool.and_eq_true, startsThree_iff, isTail_iff, isTail_iff] at hthree
  have hscalar : (three a b c).toNat =
      a.toNat % 0x10 * 0x1000 + b.toNat % 0x40 * 0x40 + c.toNat % 0x40 := by
    refine toNat_ofNat_of_isValidChar ?_
    unfold tailBits Nat.isValidChar
    omega
  unfold encodeChar
  rw [hscalar]
  dsimp only
  rw [if_neg (by omega), if_neg (by omega), if_pos (by omega), toUInt8_eq a (by omega),
    toUInt8_eq b (by omega), toUInt8_eq c (by omega)]

theorem encodeChar_four (hfour : formsFour a b c d = true) :
    encodeChar (four a b c d) = [a, b, c, d] := by
  rw [formsFour, Bool.and_eq_true, Bool.and_eq_true, startsFour_iff, isTail_iff, isTail_iff,
    isTail_iff] at hfour
  have hscalar : (four a b c d).toNat =
      a.toNat % 0x08 * 0x40000 + b.toNat % 0x40 * 0x1000 + c.toNat % 0x40 * 0x40 +
        d.toNat % 0x40 := by
    refine toNat_ofNat_of_isValidChar ?_
    unfold tailBits Nat.isValidChar
    omega
  unfold encodeChar
  rw [hscalar]
  dsimp only
  rw [if_neg (by omega), if_neg (by omega), if_neg (by omega), toUInt8_eq a (by omega),
    toUInt8_eq b (by omega), toUInt8_eq c (by omega), toUInt8_eq d (by omega)]

end Forms

/-- Each row is what is written of some character. -/
theorem Row.exists_encodeChar {octets : Bytes} (h : Row octets) :
    ∃ character, encodeChar character = octets := by
  cases h with
  | one ha => exact ⟨_, encodeChar_one (leadsOne_iff.mpr (by omega))⟩
  | two hfirst hlast hb =>
      exact ⟨_, encodeChar_two (formsTwo_iff.mpr ⟨hfirst, hlast, isTail_iff.mpr hb⟩)⟩
  | three hfirst hlast hb hc hoverlong hsurrogate =>
      refine ⟨_, encodeChar_three ?_⟩
      rw [formsThree, Bool.and_eq_true, startsThree_iff, isTail_iff, isTail_iff]
      exact ⟨⟨hfirst, hlast, hb, hoverlong, hsurrogate⟩, hc⟩
  | four hfirst hlast hb hc hd hoverlong hbeyond =>
      refine ⟨_, encodeChar_four ?_⟩
      rw [formsFour, Bool.and_eq_true, Bool.and_eq_true, startsFour_iff, isTail_iff, isTail_iff,
        isTail_iff]
      exact ⟨⟨⟨hfirst, hlast, hb, hoverlong, hbeyond⟩, hc⟩, hd⟩

/-! ## Characters one after another -/

@[simp] theorem encode_nil : encode [] = [] := rfl

@[simp] theorem encode_cons (character : Char) (characters : List Char) :
    encode (character :: characters) = encodeChar character ++ encode characters :=
  rfl

@[simp] theorem encode_append (first second : List Char) :
    encode (first ++ second) = encode first ++ encode second :=
  List.flatMap_append

theorem wellFormed_iff {octets : Bytes} :
    WellFormed octets ↔ ∃ characters, encode characters = octets := by
  constructor
  · intro h
    induction h with
    | nil => exact ⟨[], rfl⟩
    | cons hrow _ ih =>
        obtain ⟨character, rfl⟩ := hrow.exists_encodeChar
        obtain ⟨characters, rfl⟩ := ih
        exact ⟨character :: characters, encode_cons character characters⟩
  · rintro ⟨characters, rfl⟩
    induction characters with
    | nil => exact .nil
    | cons character characters ih => exact .cons (row_encodeChar character) ih

/-- What is read of octets, written again, is the octets. -/
theorem exists_encode_of_decodeOnto? {read characters : List Char} {octets : Bytes}
    (h : decodeOnto? read octets = some characters) :
    ∃ later, characters = read.reverse ++ later ∧ encode later = octets := by
  fun_induction decodeOnto? read octets with
  | case1 read =>
      cases h
      exact ⟨[], (List.append_nil _).symm, rfl⟩
  | case2 read a rest hone ih =>
      obtain ⟨later, hcharacters, rfl⟩ := ih h
      refine ⟨one a :: later, ?_, ?_⟩
      · simpa using hcharacters
      · rw [encode_cons, encodeChar_one hone]
        rfl
  | case4 read a _ b rest htwo ih =>
      obtain ⟨later, hcharacters, rfl⟩ := ih h
      refine ⟨two a b :: later, ?_, ?_⟩
      · simpa using hcharacters
      · rw [encode_cons, encodeChar_two htwo]
        rfl
  | case6 read a _ b _ c rest hthree ih =>
      obtain ⟨later, hcharacters, rfl⟩ := ih h
      refine ⟨three a b c :: later, ?_, ?_⟩
      · simpa using hcharacters
      · rw [encode_cons, encodeChar_three hthree]
        rfl
  | case8 read a _ b _ c _ d rest hfour ih =>
      obtain ⟨later, hcharacters, rfl⟩ := ih h
      refine ⟨four a b c d :: later, ?_, ?_⟩
      · simpa using hcharacters
      · rw [encode_cons, encodeChar_four hfour]
        rfl
  | _ => cases h

/-- Reading undoes writing, and only that. -/
theorem decode?_eq_some_iff {octets : Bytes} {characters : List Char} :
    decode? octets = some characters ↔ encode characters = octets := by
  constructor
  · intro h
    obtain ⟨later, hcharacters, hoctets⟩ := exists_encode_of_decodeOnto? h
    rwa [hcharacters]
  · rintro rfl
    exact decodeOnto?_encode characters []

theorem decode?_eq_none_iff {octets : Bytes} : decode? octets = none ↔ ¬ WellFormed octets := by
  rw [wellFormed_iff, Option.eq_none_iff_forall_ne_some]
  simp only [ne_eq, decode?_eq_some_iff, not_exists]

instance (octets : Bytes) : Decidable (WellFormed octets) :=
  decidable_of_iff (decode? octets ≠ none) (by rw [ne_eq, decode?_eq_none_iff, not_not])

theorem encode_injective {first second : List Char} (h : encode first = encode second) :
    first = second := by
  rw [← decode?_eq_some_iff] at h
  exact Option.some.inj (h.symm.trans (decode?_eq_some_iff.mpr rfl))

/-! ## The octets of strings -/

/-- One character is written as in the standard library. -/
theorem encodeChar_eq (character : Char) :
    encodeChar character = String.utf8EncodeChar character := by
  have hvalid : character.toNat.isValidChar := character.valid
  unfold Nat.isValidChar at hvalid
  have hstandard : String.utf8EncodeChar character =
      if character.toNat ≤ 127 then [UInt8.ofNat character.toNat]
      else if character.toNat ≤ 2047 then
        [UInt8.ofNat (character.toNat / 64 % 32 + 192), UInt8.ofNat (character.toNat % 64 + 128)]
      else if character.toNat ≤ 65535 then
        [UInt8.ofNat (character.toNat / 4096 % 16 + 224),
          UInt8.ofNat (character.toNat / 64 % 64 + 128), UInt8.ofNat (character.toNat % 64 + 128)]
      else
        [UInt8.ofNat (character.toNat / 262144 % 8 + 240),
          UInt8.ofNat (character.toNat / 4096 % 64 + 128),
          UInt8.ofNat (character.toNat / 64 % 64 + 128), UInt8.ofNat (character.toNat % 64 + 128)] :=
    rfl
  rw [hstandard]
  unfold encodeChar
  generalize character.toNat = scalar at hvalid
  dsimp only [Nat.toUInt8]
  split
  · rw [if_pos (by omega)]
  split
  · rw [if_neg (by omega), if_pos (by omega), Nat.mod_eq_of_lt (by omega : scalar / 64 < 32),
      Nat.add_comm 0xC0, Nat.add_comm 0x80]
  split
  · rw [if_neg (by omega), if_neg (by omega), if_pos (by omega),
      Nat.mod_eq_of_lt (by omega : scalar / 4096 < 16), Nat.add_comm 0xE0, Nat.add_comm 0x80,
      Nat.add_comm 0x80]
  · rw [if_neg (by omega), if_neg (by omega), if_neg (by omega),
      Nat.mod_eq_of_lt (by omega : scalar / 262144 < 8), Nat.add_comm 0xF0, Nat.add_comm 0x80,
      Nat.add_comm 0x80, Nat.add_comm 0x80]

end Utf8

/-- The octets of a text are those of the standard library. -/
theorem Bytes.ofString_eq (text : String) : ofString text = text.toUTF8.data.toList := by
  have hencode : Utf8.encode text.toList = text.toList.flatMap String.utf8EncodeChar := by
    unfold Utf8.encode
    exact congrArg (text.toList.flatMap ·) (funext Utf8.encodeChar_eq)
  have hstandard : text.toUTF8 = (text.toList.flatMap String.utf8EncodeChar).toByteArray :=
    String.utf8Encode_toList.symm
  rw [hstandard, List.toList_data_toByteArray]
  exact hencode

/-- What is well formed are the octets of texts. -/
theorem Utf8.wellFormed_iff_exists_toUTF8 {octets : Bytes} :
    WellFormed octets ↔ ∃ text : String, text.toUTF8.data.toList = octets := by
  simp only [← Bytes.ofString_eq]
  rw [wellFormed_iff]
  constructor
  · rintro ⟨characters, rfl⟩
    exact ⟨String.ofList characters, congrArg encode String.toList_ofList⟩
  · rintro ⟨text, rfl⟩
    exact ⟨text.toList, rfl⟩

end ScriptShell
