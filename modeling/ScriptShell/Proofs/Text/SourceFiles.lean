import Mathlib.Data.List.Count
import ScriptShell.Proofs.Session.Execution
import ScriptShell.Proofs.Session.Loading
import ScriptShell.Proofs.Text.Decoding

/-!
# The text of script files

The two octets that start an interpreter directive are replaced before it is known how the octets
are to be decoded. That makes no difference: all four octets in question are ASCII, which stands for
itself at any place of a text in either encoding (`decode_cons_ascii`). So the text of a file is the
text of its octets with two characters replaced, and everything else in the file stays where it is.
The terminator is no part of it.
-/

namespace ScriptShell

variable {engine : Engine}

/-! ## ASCII -/

namespace Utf8

variable {octet : UInt8} {rest : Bytes}

theorem wellFormed_cons_ascii (hoctet : octet.toNat < 0x80) :
    WellFormed (octet :: rest) ↔ WellFormed rest := by
  constructor
  · intro h
    generalize hoctets : octet :: rest = octets at h
    cases h with
    | nil => cases hoctets
    | cons hrow hrest =>
        cases hrow with
        | one ha =>
            obtain ⟨rfl, rfl⟩ := List.cons.inj hoctets
            exact hrest
        | two hfirst | three hfirst | four hfirst =>
            obtain ⟨rfl, -⟩ := List.cons.inj hoctets
            omega
  · intro h
    exact .cons (.one (Nat.le_of_lt_succ hoctet)) h

theorem encodeChar_of_lt {character : Char} (hcharacter : character.toNat < 0x80) :
    encodeChar character = [character.toNat.toUInt8] := by
  unfold encodeChar
  exact if_pos hcharacter

/-- The octets of any other character are not ASCII. -/
theorem le_of_mem_encodeChar {character : Char} (hcharacter : 0x80 ≤ character.toNat) :
    ∀ octet ∈ encodeChar character, 0x80 ≤ octet.toNat := by
  have hrow := row_encodeChar character
  generalize hoctets : encodeChar character = octets at hrow
  intro octet hmem
  cases hrow with
  | @one a ha =>
      -- one octet alone would be read as a character below 0x80
      have hsame : encodeChar character = encodeChar (one a) := by
        rw [hoctets, encodeChar_one (leadsOne_iff.mpr (by omega))]
      have heq : [character] = [one a] := encode_injective (by simpa using hsame)
      have hnumber : (one a).toNat = a.toNat := toNat_ofNat_of_isValidChar (.inl (by omega))
      rw [List.singleton_inj.mp heq] at hcharacter
      omega
  | two hfirst hlast hb =>
      unfold Continues at hb
      simp only [List.mem_cons, List.not_mem_nil, or_false] at hmem
      rcases hmem with rfl | rfl <;> omega
  | three hfirst hlast hb hc =>
      unfold Continues at hb hc
      simp only [List.mem_cons, List.not_mem_nil, or_false] at hmem
      rcases hmem with rfl | rfl | rfl <;> omega
  | four hfirst hlast hb hc hd =>
      unfold Continues at hb hc hd
      simp only [List.mem_cons, List.not_mem_nil, or_false] at hmem
      rcases hmem with rfl | rfl | rfl | rfl <;> omega

/-- An ASCII octet is written once for each time that its character stands in a text. -/
theorem count_encode {character : Char} (hcharacter : character.toNat < 0x80)
    (characters : List Char) :
    (encode characters).count character.toNat.toUInt8 = characters.count character := by
  induction characters with
  | nil => rfl
  | cons first characters ih =>
      rw [encode_cons, List.count_append, ih, List.count_cons, Nat.add_comm]
      congr 1
      by_cases hfirst : first.toNat < 0x80
      · have hiff : first.toNat.toUInt8 = character.toNat.toUInt8 ↔ first = character := by
          rw [← UInt8.toNat_inj, toNat_toUInt8 (by omega), toNat_toUInt8 (by omega), Char.toNat_inj]
        simp [encodeChar_of_lt hfirst, List.count_cons, hiff]
      · have hnone : character.toNat.toUInt8 ∉ encodeChar first := fun hmem => by
          have hlarge := le_of_mem_encodeChar (Nat.le_of_not_lt hfirst) _ hmem
          rw [toNat_toUInt8 (by omega)] at hlarge
          omega
        have hne : first ≠ character := by
          rintro rfl
          exact hfirst hcharacter
        simp [List.count_eq_zero.mpr hnone, hne]

end Utf8

/-- An ASCII octet stands for its character, whatever follows. -/
theorem decode_cons_ascii {octet : UInt8} {rest : Bytes} (hoctet : octet.toNat < 0x80) :
    (decode (octet :: rest)).toList = Char.ofNat octet.toNat :: (decode rest).toList := by
  by_cases hrest : Utf8.WellFormed rest
  · obtain ⟨characters, rfl⟩ := Utf8.wellFormed_iff.mp hrest
    have hcons : octet :: Utf8.encode characters =
        Utf8.encode (Utf8.one octet :: characters) := by
      rw [Utf8.encode_cons, Utf8.encodeChar_one (Utf8.leadsOne_iff.mpr hoctet)]
      rfl
    rw [hcons, decode_encode, decode_encode, String.toList_ofList, String.toList_ofList]
    rfl
  · rw [decode_of_not_wellFormed hrest,
      decode_of_not_wellFormed (mt (Utf8.wellFormed_cons_ascii hoctet).mp hrest)]
    simp [latin1]

/-- A text has an ASCII character as often as the octets have its number, in either encoding. -/
theorem count_decode {character : Char} (hcharacter : character.toNat < 0x80) (octets : Bytes) :
    (decode octets).toList.count character = octets.count character.toNat.toUInt8 := by
  by_cases hwell : Utf8.WellFormed octets
  · obtain ⟨characters, rfl⟩ := Utf8.wellFormed_iff.mp hwell
    rw [decode_encode, String.toList_ofList, Utf8.count_encode hcharacter]
  · have hcharacters : (characters : List Char) → characters.count character =
        (characters.map Char.toNat).count character.toNat := fun characters =>
      (List.count_map_of_injective characters _ (fun _ _ => Char.toNat_inj.mp) character).symm
    have hoctets : octets.count character.toNat.toUInt8 =
        (octets.map UInt8.toNat).count character.toNat := by
      rw [← List.count_map_of_injective octets _ (fun _ _ => UInt8.toNat_inj.mp),
        Utf8.toNat_toUInt8 (by omega)]
    rw [decode_of_not_wellFormed hwell, String.toList_ofList, hcharacters, map_toNat_latin1,
      hoctets]

/-! ## Buffers -/

namespace SourceBuffer

/-- The octets `#!` that start an interpreter directive. -/
def directive : Bytes := [0x23, 0x21]

theorem neutralize_eq (content : Bytes) :
    neutralize content =
      if directive <+: content then [0x2F, 0x2F] ++ content.drop 2 else content := by
  unfold neutralize
  split
  · rw [if_pos ⟨_, rfl⟩]
    rfl
  · rename_i hother
    rw [if_neg]
    rintro ⟨rest, rfl⟩
    exact hother rest rfl

theorem contents_ofFile (content : Bytes) : (ofFile content).contents = neutralize content := by
  simp [ofFile, contents]

theorem length_neutralize (content : Bytes) : (neutralize content).length = content.length := by
  unfold neutralize
  split <;> rfl

/-- What was neutralized starts with no directive. -/
theorem neutralize_neutralize (content : Bytes) :
    neutralize (neutralize content) = neutralize content := by
  rw [neutralize_eq content]
  split
  · rfl
  · rename_i hplain
    rw [neutralize_eq, if_neg hplain]

/-- Whether octets are well formed does not depend on how they start. -/
theorem wellFormed_neutralize (content : Bytes) :
    Utf8.WellFormed (neutralize content) ↔ Utf8.WellFormed content := by
  unfold neutralize
  split
  · rw [Utf8.wellFormed_cons_ascii (by decide), Utf8.wellFormed_cons_ascii (by decide),
      Utf8.wellFormed_cons_ascii (by decide), Utf8.wellFormed_cons_ascii (by decide)]
  · exact Iff.rfl

/-- An octet other than those of the directive and of its replacement stays where it is. -/
theorem getElem?_neutralize (content : Bytes) {octet : UInt8}
    (hoctet : octet ∉ [0x23, 0x21, 0x2F]) (i : Nat) :
    (neutralize content)[i]? = some octet ↔ content[i]? = some octet := by
  simp only [List.mem_cons, List.not_mem_nil, or_false, not_or, eq_comm (a := octet)] at hoctet
  unfold neutralize
  split
  · match i with
    | 0 => simp [hoctet.1, hoctet.2.2]
    | 1 => simp [hoctet.2.1, hoctet.2.2]
    | i + 2 => simp
  · exact Iff.rfl

theorem count_neutralize (content : Bytes) {octet : UInt8} (hoctet : octet ∉ [0x23, 0x21, 0x2F]) :
    (neutralize content).count octet = content.count octet := by
  simp only [List.mem_cons, List.not_mem_nil, or_false, not_or, eq_comm (a := octet)] at hoctet
  unfold neutralize
  split
  · simp [hoctet]
  · rfl

/-! ## Texts -/

/-- The text of a file is the text of its octets with two characters replaced. -/
theorem toList_text (content : Bytes) :
    (ofFile content).text.toList =
      if directive <+: content then ['/', '/'] ++ (decode content).toList.drop 2
      else (decode content).toList := by
  rw [text, contents_ofFile, neutralize_eq]
  split
  · rename_i hdirective
    obtain ⟨rest, rfl⟩ := hdirective
    simp only [directive, List.cons_append, List.nil_append, List.drop_succ_cons, List.drop_zero]
    rw [decode_cons_ascii (by decide), decode_cons_ascii (by decide),
      decode_cons_ascii (by decide), decode_cons_ascii (by decide)]
    rfl
  · rfl

theorem length_text (content : Bytes) :
    (ofFile content).text.length = (decode content).length := by
  rw [← String.length_toList, ← String.length_toList, toList_text]
  split
  · rename_i hdirective
    obtain ⟨rest, rfl⟩ := hdirective
    simp only [directive, List.cons_append, List.nil_append]
    rw [decode_cons_ascii (by decide), decode_cons_ascii (by decide)]
    simp
  · rfl

/-- A character other than those of the directive and of its replacement stays where it is. -/
theorem getElem?_text (content : Bytes) {character : Char} (hcharacter : character ∉ ['#', '!', '/'])
    (i : Nat) :
    (ofFile content).text.toList[i]? = some character ↔
      (decode content).toList[i]? = some character := by
  simp only [List.mem_cons, List.not_mem_nil, or_false, not_or, eq_comm (a := character)]
    at hcharacter
  rw [toList_text]
  split
  · rename_i hdirective
    obtain ⟨rest, rfl⟩ := hdirective
    simp only [directive, List.cons_append, List.nil_append]
    rw [decode_cons_ascii (by decide), decode_cons_ascii (by decide)]
    have hnames : Char.ofNat (0x23 : UInt8).toNat = '#' ∧ Char.ofNat (0x21 : UInt8).toNat = '!' := by
      decide
    rw [hnames.1, hnames.2]
    match i with
    | 0 => simp [hcharacter.1, hcharacter.2.2]
    | 1 => simp [hcharacter.2.1, hcharacter.2.2]
    | i + 2 => simp
  · exact Iff.rfl

end SourceBuffer

/-- The buffer of a file is its content and one zero octet. The content is that of the file, but for
the two octets of a directive that starts it; the text is the text of the file, but for the two
characters of such a directive. So no newline and no null character of the file moves, and there is
no other null character. A file with the same content has the same buffer. However a file is loaded,
by a native or as a script, this text is what is evaluated. -/
theorem loaded_source (engine : Engine) (content : Bytes) :
    let buffer := SourceBuffer.ofFile content
    buffer.withTerminator = buffer.contents ++ [0] ∧
    buffer.contents.length = content.length ∧
    buffer.contents =
      (if SourceBuffer.directive <+: content then [0x2F, 0x2F] ++ content.drop 2 else content) ∧
    (Utf8.WellFormed buffer.contents ↔ Utf8.WellFormed content) ∧
    buffer.text.toList =
      (if SourceBuffer.directive <+: content then ['/', '/'] ++ (decode content).toList.drop 2
        else (decode content).toList) ∧
    (∀ i : Nat, (buffer.contents[i]? = some Bytes.newline ↔ content[i]? = some Bytes.newline) ∧
      (buffer.text.toList[i]? = some '\n' ↔ (decode content).toList[i]? = some '\n')) ∧
    (∀ i : Nat, (buffer.contents[i]? = some 0 ↔ content[i]? = some 0) ∧
      (buffer.text.toList[i]? = some '\x00' ↔ (decode content).toList[i]? = some '\x00')) ∧
    buffer.text.length = (decode content).length ∧
    buffer.text.toList.count '\x00' = content.count 0 ∧
    SourceBuffer.ofFile buffer.contents = buffer ∧
    ∀ (session : Session engine) path, session.files.read path = .ok content →
      Host.Ends (Host.loadSource path).run session (.ok buffer.text)
          (session.note (.fileRead path true)) ∧
        Host.Ends (Host.openScript (.file path)) session (.ok (path, buffer.text))
          (session.note (.fileRead path true)) := by
  dsimp only
  have hcontents := SourceBuffer.contents_ofFile content
  refine ⟨?_, ?_, ?_, ?_, SourceBuffer.toList_text content, fun i => ⟨?_, ?_⟩, fun i => ⟨?_, ?_⟩,
    SourceBuffer.length_text content, ?_, ?_, fun session path hread => ⟨?_, ?_⟩⟩
  · rw [hcontents]
    rfl
  · rw [hcontents, SourceBuffer.length_neutralize]
  · rw [hcontents, SourceBuffer.neutralize_eq]
  · rw [hcontents, SourceBuffer.wellFormed_neutralize]
  · rw [hcontents]
    exact SourceBuffer.getElem?_neutralize content (by decide) i
  · exact SourceBuffer.getElem?_text content (by decide) i
  · rw [hcontents]
    exact SourceBuffer.getElem?_neutralize content (by decide) i
  · exact SourceBuffer.getElem?_text content (by decide) i
  · rw [SourceBuffer.text, count_decode (by decide), hcontents]
    exact SourceBuffer.count_neutralize content (by decide)
  · rw [hcontents, SourceBuffer.ofFile, SourceBuffer.neutralize_neutralize]
    rfl
  · rw [Host.ends_loadSource, hread]
    exact ⟨rfl, rfl⟩
  · rw [Host.ends_openScript, Script.opened, Script.reads, hread]
    exact ⟨rfl, rfl⟩

/-- A file with a directive, a character in Latin-1 and a null character. -/
def directedFile : Bytes := [0x23, 0x21, 0xE9, 0x0A, 0x00]

/-- A session that has the file under a name. -/
def directedSession : Session Language.engine :=
  .start Language.engine {} false [] (Files.empty.addFile "run.js" directedFile) (.ticking 0)

/-- The file is loaded under its name, with the directive made a comment. -/
theorem loaded_source_latin1 :
    (SourceBuffer.ofFile directedFile).text = "//é\n\x00" ∧
      Host.Ends (Host.openScript (.file "run.js")) directedSession
        (.ok ("run.js", (SourceBuffer.ofFile directedFile).text))
        (directedSession.note (.fileRead "run.js" true)) := by
  have hread : directedSession.files.read "run.js" = .ok directedFile := by rfl
  obtain ⟨-, -, -, -, htext, -, -, -, -, -, hloads⟩ := loaded_source Language.engine directedFile
  refine ⟨?_, (hloads directedSession "run.js" hread).2⟩
  rw [← String.toList_inj, htext]
  decide

end ScriptShell
