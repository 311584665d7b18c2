import ScriptShell.Proofs.Session.Conversation
import ScriptShell.Proofs.Session.Input
import ScriptShell.Proofs.Text.WellFormed

/-!
# Decoding whole and line by line

Octets are decoded as UTF-8 where they are well formed from end to end, and one by one otherwise.
Whoever reads by lines decodes each line by itself. A newline is one octet and no part of a longer
character, so cutting octets at their newlines neither makes nor hides an ill-formed sequence
(`Utf8.wellFormed_append_newline`): the lines of text are the text of the lines.

What readers are handed of valid input is said on texts alone: `ReadsLine` takes a text apart at its
first newline.

## Main results

* `Utf8.wellFormed_iff_forall_lines`: octets are well formed if and only if all their lines are.
* `readsLine_takeChunk`: taking a chunk of octets reads a line of their text.
* `decode_by_lines`.
-/

namespace ScriptShell

variable {engine : Engine} {octets line rest : Bytes}

/-! ## At a newline -/

namespace Utf8

theorem encodeChar_newline : encodeChar '\n' = [Bytes.newline] := by decide

theorem newline_mem_encode {characters : List Char} :
    Bytes.newline ∈ encode characters ↔ '\n' ∈ characters := by
  constructor
  · intro hmem
    obtain ⟨character, hcharacter, hoctet⟩ := List.mem_flatMap.mp hmem
    by_contra hnone
    refine newline_notMem_encodeChar ?_ hoctet
    rintro rfl
    exact hnone hcharacter
  · intro hmem
    refine List.mem_flatMap.mpr ⟨'\n', hmem, ?_⟩
    rw [encodeChar_newline]
    exact List.mem_singleton_self _

theorem encode_append_newline (first second : List Char) :
    encode (first ++ '\n' :: second) = encode first ++ Bytes.newline :: encode second := by
  rw [encode_append, encode_cons, encodeChar_newline]
  rfl

/-- Octets are well formed if and only if they are on both sides of a newline. -/
theorem wellFormed_append_newline (hline : Bytes.newline ∉ line) :
    WellFormed (line ++ Bytes.newline :: rest) ↔ WellFormed line ∧ WellFormed rest := by
  simp only [wellFormed_iff]
  constructor
  · rintro ⟨characters, hcharacters⟩
    have hmem : '\n' ∈ characters := by
      rw [← newline_mem_encode, hcharacters]
      exact List.mem_append_right _ List.mem_cons_self
    obtain ⟨first, second, rfl, hfirst⟩ := List.eq_append_cons_of_mem hmem
    -- the first newline of the octets is the first one of the characters
    have hcuts := congrArg (List.splitOn Bytes.newline) hcharacters
    rw [encode_append_newline,
      Bytes.splitOn_append_newline (mt newline_mem_encode.mp hfirst),
      Bytes.splitOn_append_newline hline, List.cons.injEq] at hcuts
    rw [encode_append_newline, hcuts.1] at hcharacters
    exact ⟨⟨first, hcuts.1⟩, second, by simpa using hcharacters⟩
  · rintro ⟨⟨first, rfl⟩, second, rfl⟩
    exact ⟨first ++ '\n' :: second, encode_append_newline first second⟩

theorem wellFormed_iff_forall_lines (octets : Bytes) :
    WellFormed octets ↔ ∀ line ∈ octets.splitOn Bytes.newline, WellFormed line := by
  induction octets using Bytes.cut_induction with
  | hlast line hline => simp [Bytes.splitOn_of_notMem hline]
  | hline line rest hline ih =>
      rw [wellFormed_append_newline hline, Bytes.splitOn_append_newline hline,
        List.forall_mem_cons, ih]

end Utf8

/-! ## Decoding -/

theorem decode_encode (characters : List Char) :
    decode (Utf8.encode characters) = String.ofList characters := by
  rw [decode, Utf8.decode?_eq_some_iff.mpr rfl]

theorem decode_of_not_wellFormed (h : ¬ Utf8.WellFormed octets) :
    decode octets = String.ofList (latin1 octets) := by
  rw [decode, Utf8.decode?_eq_none_iff.mpr h]

/-- The Latin-1 reading has one character for each octet, of the same number. -/
theorem map_toNat_latin1 (octets : Bytes) :
    (latin1 octets).map Char.toNat = octets.map UInt8.toNat := by
  rw [latin1, List.map_map]
  refine List.map_congr_left fun octet _ => Utf8.toNat_ofNat_of_isValidChar (.inl ?_)
  have hsize := octet.toNat_lt
  omega

/-- Well formed octets are read back from their text. -/
theorem ofString_decode (h : Utf8.WellFormed octets) : Bytes.ofString (decode octets) = octets := by
  obtain ⟨characters, rfl⟩ := Utf8.wellFormed_iff.mp h
  rw [decode_encode, Bytes.ofString, String.toList_ofList]

theorem decode_append_newline (hline : Utf8.WellFormed line) (hrest : Utf8.WellFormed rest) :
    decode (line ++ Bytes.newline :: rest) = decode line ++ "\n" ++ decode rest := by
  obtain ⟨first, rfl⟩ := Utf8.wellFormed_iff.mp hline
  obtain ⟨second, rfl⟩ := Utf8.wellFormed_iff.mp hrest
  rw [← Utf8.encode_append_newline, decode_encode, decode_encode, decode_encode]
  simp [← String.toList_inj]

/-- Text that was decoded has its newlines where the octets have theirs. -/
theorem newline_notMem_decode (hwell : Utf8.WellFormed line) (hline : Bytes.newline ∉ line) :
    '\n' ∉ (decode line).toList := by
  intro hmem
  apply hline
  rw [← ofString_decode hwell]
  exact Utf8.newline_mem_encode.mpr hmem

theorem latin1_append_newline (line rest : Bytes) :
    String.ofList (latin1 (line ++ Bytes.newline :: rest)) =
      String.ofList (latin1 line) ++ "\n" ++ String.ofList (latin1 rest) := by
  have hnewline : Char.ofNat Bytes.newline.toNat = '\n' := by decide
  simp [latin1, hnewline, ← String.toList_inj]

/-! ## The lines of octets -/

/-- The texts of the lines are the lines of the text. -/
theorem map_decode_splitOn (h : Utf8.WellFormed octets) :
    (octets.splitOn Bytes.newline).map decode =
      ((decode octets).toList.splitOn '\n').map String.ofList := by
  induction octets using Bytes.cut_induction with
  | hlast line hline =>
      rw [Bytes.splitOn_of_notMem hline,
        List.splitOn_eq_singleton (newline_notMem_decode h hline)]
      simp
  | hline line rest hline ih =>
      obtain ⟨hwell, hrest⟩ := (Utf8.wellFormed_append_newline hline).mp h
      rw [Bytes.splitOn_append_newline hline, List.map_cons, ih hrest,
        decode_append_newline hwell hrest]
      simp [List.splitOn_append_cons_self_of_not_mem (newline_notMem_decode hwell hline)]

theorem intercalate_map_decode_splitOn (h : Utf8.WellFormed octets) :
    "\n".intercalate ((octets.splitOn Bytes.newline).map decode) = decode octets := by
  rw [map_decode_splitOn h, ← String.toList_inj, String.toList_intercalate, List.map_map]
  simp [Function.comp_def, List.intercalate_splitOn]

/-- Lines none of which is well formed are all read as Latin-1. -/
theorem intercalate_map_decode_of_forall_not
    (h : ∀ line ∈ octets.splitOn Bytes.newline, ¬ Utf8.WellFormed line) :
    "\n".intercalate ((octets.splitOn Bytes.newline).map decode) =
      String.ofList (latin1 octets) := by
  induction octets using Bytes.cut_induction with
  | hlast line hline =>
      rw [Bytes.splitOn_of_notMem hline, List.forall_mem_singleton] at h
      rw [Bytes.splitOn_of_notMem hline, List.map_singleton, String.intercalate_singleton,
        decode_of_not_wellFormed h]
  | hline line rest hline ih =>
      rw [Bytes.splitOn_append_newline hline, List.forall_mem_cons] at h
      have hmore : (rest.splitOn Bytes.newline).map decode ≠ [] := by
        simp [List.splitOn_ne_nil]
      rw [Bytes.splitOn_append_newline hline, List.map_cons,
        String.intercalate_cons_of_ne_nil hmore, ih h.2, decode_of_not_wellFormed h.1,
        latin1_append_newline]

/-! ## Reading lines of text -/

/-- A text is read up to its first newline, or to its end where there is none. -/
inductive ReadsLine : String → String → String → Prop
  | line {line rest : String} (hline : '\n' ∉ line.toList) :
      ReadsLine (line ++ "\n" ++ rest) line rest
  | last {line : String} (hline : '\n' ∉ line.toList) : ReadsLine line line ""

theorem ReadsLine.unique {text first later second other : String}
    (h : ReadsLine text first later) (h' : ReadsLine text second other) :
    first = second ∧ later = other := by
  have hcut : ∀ {line rest : String}, '\n' ∉ line.toList →
      (line ++ "\n" ++ rest).toList.splitOn '\n' = line.toList :: rest.toList.splitOn '\n' :=
    fun hline => by simp [List.splitOn_append_cons_self_of_not_mem hline]
  generalize htext : text = whole at h'
  cases h with
  | line hline =>
      have hlines := congrArg (fun text => text.toList.splitOn '\n') htext
      cases h' with
      | line hline' =>
          simp only [hcut hline, hcut hline', List.cons.injEq, String.toList_inj] at hlines
          rw [hlines.1] at htext
          exact ⟨hlines.1, by simpa [← String.toList_inj] using htext⟩
      | last hline' =>
          simp only [hcut hline, List.splitOn_eq_singleton hline', List.cons.injEq] at hlines
          exact (List.splitOn_ne_nil _ _ hlines.2).elim
  | last hline =>
      cases h' with
      | line hline' =>
          have hlines := congrArg (fun text => text.toList.splitOn '\n') htext
          simp only [hcut hline', List.splitOn_eq_singleton hline, List.cons.injEq] at hlines
          exact (List.splitOn_ne_nil _ _ hlines.2.symm).elim
      | last _ => exact ⟨htext, rfl⟩

/-- Taking a chunk of well formed octets reads a line of their text, and what is left is well formed
again. -/
theorem readsLine_takeChunk (h : Utf8.WellFormed octets) :
    Utf8.WellFormed octets.takeChunk.2 ∧
      ReadsLine (decode octets) (decode octets.takeChunk.1.chomp) (decode octets.takeChunk.2) := by
  induction octets using Bytes.cut_induction with
  | hlast line hline =>
      rw [Bytes.takeChunk_of_notMem hline, Bytes.chomp_of_notMem hline]
      exact ⟨.nil, .last (newline_notMem_decode h hline)⟩
  | hline line rest hline _ =>
      obtain ⟨hwell, hrest⟩ := (Utf8.wellFormed_append_newline hline).mp h
      rw [Bytes.takeChunk_append_newline hline, Bytes.chomp_append_newline,
        decode_append_newline hwell hrest]
      exact ⟨hrest, .line (newline_notMem_decode hwell hline)⟩

/-- A reader that is handed a line of octets is handed a line of their text. -/
theorem Session.Hands.readsLine {session after : Session engine}
    (h : session.Hands line after) (hwell : Utf8.WellFormed session.input) :
    Utf8.WellFormed after.input ∧
      ReadsLine (decode session.input) (decode line) (decode after.input) := by
  cases h with
  | line hinput hline =>
      have hreads := readsLine_takeChunk hwell
      rwa [hinput, Bytes.takeChunk_append_newline hline, Bytes.chomp_append_newline,
        ← hinput] at hreads
  | last hinput hline =>
      rw [hinput] at hwell ⊢
      exact ⟨.nil, .last (newline_notMem_decode hwell hline)⟩

/-- Only a line without octets is decoded to an empty text. -/
theorem decode_eq_empty : decode line = "" ↔ line = [] := by
  constructor
  · intro hempty
    by_cases hwell : Utf8.WellFormed line
    · rw [← ofString_decode hwell, hempty]
      rfl
    · rw [decode_of_not_wellFormed hwell, ← String.toList_inj, String.toList_ofList] at hempty
      exact List.map_eq_nil_iff.mp hempty
  · rintro rfl
    rfl

namespace Host

variable {budget : Nat} {environment : Realm} {out : Channel}

/-- The shell on lines of text. -/
def converseIn (budget : Nat) (environment : Realm) (out : Channel) :
    List String → Host engine Unit
  | [] => do
    write out prompt
    write out "\n"
  | line :: rest => do
    write out prompt
    evaluateLine budget environment out line
    converseIn budget environment out rest

theorem converse_eq (lines : List Bytes) :
    (converse budget environment out lines : Host engine Unit) =
      converseIn budget environment out (lines.map decode) := by
  induction lines with
  | nil => rfl
  | cons line lines ih => simp only [converse, List.map_cons, converseIn, ih]

/-- The shell on octets that are text is the shell on the lines of the text that come before the
first empty one. -/
theorem shellOn_eq_converseIn (h : Utf8.WellFormed octets) :
    (shellOn budget environment out octets : Host engine Bytes) = do
      converseIn budget environment out
        ((((decode octets).toList.splitOn '\n').map String.ofList).takeWhile (· ≠ ""))
      return octets.unspoken := by
  have hempty : ((fun text => decide (text ≠ "")) ∘ decode) = fun line => decide (line ≠ []) :=
    funext fun line => by simp [decode_eq_empty]
  rw [shellOn_eq, converse_eq, ← map_decode_splitOn h, List.takeWhile_map, hempty]
  rfl

/-- One round of the shell on standard input that is text: a prompt, and a line of the text. -/
theorem outcome_shellLines (lines : Nat) {session : Session engine}
    (h : Utf8.WellFormed session.input) :
    ∃ text heard, Utf8.WellFormed heard.input ∧
      ReadsLine (decode session.input) text (decode heard.input) ∧
      (shellLines budget environment out (lines + 1)).outcome session =
        (if text = "" then write out "\n" else do
          evaluateLine budget environment out text
          shellLines budget environment out lines).outcome heard := by
  have hhands := Session.hands_reading (session.note (.wrote out prompt))
  obtain ⟨hwell, hreads⟩ := hhands.readsLine h
  refine ⟨_, _, hwell, hreads, ?_⟩
  simp only [decode_eq_empty]
  rfl

end Host

/-- The octets that are well formed are those of texts, and each text is decoded from its octets;
all other octets are decoded one by one. Octets are well formed if and only if their lines are, and
then the decoded lines joined by newlines are the decoded whole, as they are where no line is well
formed. So who reads text by lines, the native `readline` or the shell, is handed the lines of the
text as it would be decoded as a whole. -/
theorem decode_by_lines (engine : Engine) (budget : Nat) :
    (∀ octets, Utf8.WellFormed octets ↔ ∃ text : String, text.toUTF8.data.toList = octets) ∧
    (∀ text : String, decode text.toUTF8.data.toList = text) ∧
    (∀ octets, ¬ Utf8.WellFormed octets →
      (decode octets).toList.map Char.toNat = octets.map UInt8.toNat) ∧
    (∀ octets, Utf8.WellFormed octets ↔
      ∀ line ∈ octets.splitOn Bytes.newline, Utf8.WellFormed line) ∧
    (∀ octets, Utf8.WellFormed octets →
      "\n".intercalate ((octets.splitOn Bytes.newline).map decode) = decode octets) ∧
    (∀ octets, (∀ line ∈ octets.splitOn Bytes.newline, ¬ Utf8.WellFormed line) →
      decode octets = String.ofList (latin1 octets) ∧
        "\n".intercalate ((octets.splitOn Bytes.newline).map decode) = decode octets) ∧
    (∀ realm arguments (session : Session engine), Utf8.WellFormed session.input →
      ∃ text after, Utf8.WellFormed after.input ∧
        ReadsLine (decode session.input) text (decode after.input) ∧
        Host.Ends (Host.answer (budget + 1) realm .readline arguments).run session
          (.ok (engine.ofText text)) after) ∧
    (∀ environment out lines (session : Session engine), Utf8.WellFormed session.input →
      ∃ text heard, Utf8.WellFormed heard.input ∧
        ReadsLine (decode session.input) text (decode heard.input) ∧
        (Host.shellLines budget environment out (lines + 1)).outcome session =
          (if text = "" then Host.write out "\n" else do
            Host.evaluateLine budget environment out text
            Host.shellLines budget environment out lines).outcome heard) ∧
    ∀ environment out octets, Utf8.WellFormed octets →
      (Host.shellOn budget environment out octets : Host engine Bytes) = do
        Host.converseIn budget environment out
          ((((decode octets).toList.splitOn '\n').map String.ofList).takeWhile (· ≠ ""))
        return octets.unspoken := by
  refine ⟨fun _ => Utf8.wellFormed_iff_exists_toUTF8, fun text => ?_, fun octets hill => ?_,
    Utf8.wellFormed_iff_forall_lines, fun _ => intercalate_map_decode_splitOn,
    fun octets hnone => ?_, fun realm arguments session hwell => ?_,
    fun _ _ lines _ => Host.outcome_shellLines lines, fun _ _ _ => Host.shellOn_eq_converseIn⟩
  · rw [← Bytes.ofString_eq]
    exact decode_ofString text
  · rw [decode_of_not_wellFormed hill, String.toList_ofList]
    exact map_toNat_latin1 octets
  · have hill : ¬ Utf8.WellFormed octets := fun hwell => by
      obtain ⟨line, hline⟩ := List.exists_mem_of_ne_nil _ (List.splitOn_ne_nil Bytes.newline octets)
      exact hnone line hline ((Utf8.wellFormed_iff_forall_lines octets).mp hwell line hline)
    have hwhole := decode_of_not_wellFormed hill
    exact ⟨hwhole, (intercalate_map_decode_of_forall_not hnone).trans hwhole.symm⟩
  · obtain ⟨line, after, hhands, hends⟩ := Host.ends_answer_readline realm arguments session
    obtain ⟨hafter, hreads⟩ := hhands.readsLine hwell
    exact ⟨decode line, after, hafter, hreads, hends⟩

/-- A session whose standard input has two lines of text. -/
def letteredSession : Session Language.engine :=
  .start Language.engine {} false (Bytes.ofString "é\nß") Files.empty (.ticking 0)

/-- A surrogate and an overlong form on two lines are Latin-1 on both and on the whole; a byte order
mark and a null character are read as they stand; and `readline` gives the first of two lines. -/
theorem decode_by_lines_ill_formed :
    (decode [0xED, 0xA0, 0x80, 0x0A, 0xC0, 0xAF]).toList.map Char.toNat =
        [0xED, 0xA0, 0x80, 0x0A, 0xC0, 0xAF] ∧
      "\n".intercalate [decode [0xED, 0xA0, 0x80], decode [0xC0, 0xAF]] =
        decode [0xED, 0xA0, 0x80, 0x0A, 0xC0, 0xAF] ∧
      decode "\uFEFFa\x00\n😀".toUTF8.data.toList = "\uFEFFa\x00\n😀" ∧
      ∃ after, Host.Ends (Host.answer 1 0 .readline []).run letteredSession
        (.ok (Language.engine.ofText "é")) after ∧ decode after.input = "ß" := by
  obtain ⟨-, htext, hill, -, -, hnone, hreadline, -⟩ := decode_by_lines Language.engine 0
  refine ⟨hill _ (by decide), ?_, htext _, ?_⟩
  · exact (hnone [0xED, 0xA0, 0x80, 0x0A, 0xC0, 0xAF] (by decide)).2
  · obtain ⟨text, after, -, hreads, hends⟩ := hreadline 0 [] letteredSession (by decide)
    have hfirst : ReadsLine (decode letteredSession.input) "é" "ß" := by
      have htext : decode letteredSession.input = "é" ++ "\n" ++ "ß" := by decide
      rw [htext]
      exact .line (by decide)
    obtain ⟨rfl, hrest⟩ := hreads.unique hfirst
    exact ⟨after, hends, hrest⟩

end ScriptShell
