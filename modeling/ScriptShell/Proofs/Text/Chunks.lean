import Mathlib.Data.List.TakeDrop
import Mathlib.Data.List.TakeWhile
import ScriptShell.Proofs.Text.Lines

/-!
# Octets taken chunk by chunk

Whoever reads octets by lines takes one chunk after another from the front. What a number of such
steps takes and what it leaves is said here without the steps: the chunks are the octets cut behind
each newline (`Bytes.takeChunks_eq`), and the lines that come before the first empty one are pieces
between newlines (`Bytes.spoken_eq`).

Octets are taken apart at their first newline throughout (`Bytes.cut_induction`).
-/

namespace ScriptShell

namespace Bytes

variable {line rest : Bytes}

/-! ## At the first newline -/

/-- Octets without a newline, or a line with its newline before others. -/
theorem cut_induction {motive : Bytes → Prop} (hlast : ∀ line, newline ∉ line → motive line)
    (hline : ∀ line rest, newline ∉ line → motive rest → motive (line ++ newline :: rest))
    (octets : Bytes) : motive octets :=
  ScriptShell.cut_induction newline hlast hline octets

theorem takeChunk_of_notMem (hline : newline ∉ line) : takeChunk line = (line, []) := by
  have hall : ∀ octet ∈ line, (octet != newline) = true := by
    intro octet hmem
    rw [bne_iff_ne]
    rintro rfl
    exact hline hmem
  unfold takeChunk
  rw [List.span_eq_takeWhile_dropWhile, List.takeWhile_eq_self_iff.mpr hall,
    List.dropWhile_eq_nil_iff.mpr hall]

theorem takeChunk_append_newline (hline : newline ∉ line) :
    takeChunk (line ++ newline :: rest) = (line ++ [newline], rest) := by
  have hall : ∀ octet ∈ line, (octet != newline) = true := by
    intro octet hmem
    rw [bne_iff_ne]
    rintro rfl
    exact hline hmem
  unfold takeChunk
  rw [List.span_eq_takeWhile_dropWhile, List.takeWhile_append_of_pos hall,
    List.dropWhile_append_of_pos hall]
  simp

theorem chomp_of_notMem (hline : newline ∉ line) : chomp line = line := by
  unfold chomp
  rw [if_neg]
  intro hlast
  exact hline (List.mem_of_getLast? hlast)

theorem chomp_append_newline : chomp (line ++ [newline]) = line := by
  simp [chomp]

theorem splitOn_of_notMem (hline : newline ∉ line) : line.splitOn newline = [line] := by
  refine List.splitOnP_eq_singleton fun octet hmem => ?_
  rw [beq_eq_false_iff_ne]
  rintro rfl
  exact hline hmem

theorem splitOn_append_newline (hline : newline ∉ line) :
    (line ++ newline :: rest).splitOn newline = line :: rest.splitOn newline := by
  refine List.splitOnP_append_cons_of_forall_mem (fun octet hmem => ?_) newline (by simp) rest
  rw [beq_eq_false_iff_ne]
  rintro rfl
  exact hline hmem

/-- Whatever is taken with something before its newline makes the octets shorter. -/
theorem length_takeChunk_lt {octets : Bytes} (hne : octets.takeChunk.1.chomp ≠ []) :
    octets.takeChunk.2.length < octets.length := by
  induction octets using cut_induction with
  | hlast line hline =>
      rw [takeChunk_of_notMem hline, chomp_of_notMem hline] at hne
      rw [takeChunk_of_notMem hline]
      exact List.length_pos_iff.mpr hne
  | hline line rest hline _ =>
      rw [takeChunk_append_newline hline, List.length_append, List.length_cons]
      show rest.length < line.length + (rest.length + 1)
      omega

/-! ## Chunks -/

/-- The octets cut behind each newline. What stands behind the last newline is a chunk as well,
unless it is empty. -/
def chunks (octets : Bytes) : List Bytes :=
  let lines := octets.splitOn newline
  lines.dropLast.map (· ++ [newline]) ++ lines.getLast?.toList.filter (· ≠ [])

@[simp] theorem chunks_nil : chunks [] = [] := rfl

theorem chunks_of_notMem (hline : newline ∉ line) (hne : line ≠ []) : chunks line = [line] := by
  simp [chunks, splitOn_of_notMem hline, hne]

theorem chunks_append_newline (hline : newline ∉ line) :
    chunks (line ++ newline :: rest) = (line ++ [newline]) :: chunks rest := by
  have hmore : rest.splitOn newline ≠ [] := List.splitOn_ne_nil newline rest
  simp only [chunks, splitOn_append_newline hline]
  rw [List.dropLast_cons_of_ne_nil hmore, List.getLast?_cons_of_ne_nil hmore]
  simp

/-- The first chunk is the one that is taken first. -/
theorem chunks_eq_cons {octets : Bytes} (hne : octets ≠ []) :
    octets.chunks = octets.takeChunk.1 :: octets.takeChunk.2.chunks := by
  induction octets using cut_induction with
  | hlast line hline => rw [chunks_of_notMem hline hne, takeChunk_of_notMem hline, chunks_nil]
  | hline line rest hline _ => rw [chunks_append_newline hline, takeChunk_append_newline hline]

/-- No octet is lost between the chunks. -/
theorem flatten_chunks (octets : Bytes) : octets.chunks.flatten = octets := by
  induction octets using cut_induction with
  | hlast line hline =>
      by_cases hne : line = []
      · rw [hne]
        rfl
      · rw [chunks_of_notMem hline hne]
        simp
  | hline line rest hline ih =>
      rw [chunks_append_newline hline, List.flatten_cons, ih]
      simp

/-! ## Taking chunks -/

/-- What a number of chunks taken one after another are, and what stands behind them. -/
def takeChunks : Nat → Bytes → List Bytes × Bytes
  | 0, octets => ([], octets)
  | count + 1, octets =>
    let later := takeChunks count octets.takeChunk.2
    (octets.takeChunk.1 :: later.1, later.2)

theorem takeChunks_add (first second : Nat) (octets : Bytes) :
    takeChunks (first + second) octets =
      ((takeChunks first octets).1 ++ (takeChunks second (takeChunks first octets).2).1,
        (takeChunks second (takeChunks first octets).2).2) := by
  induction first generalizing octets with
  | zero => simp [takeChunks]
  | succ first ih =>
      rw [Nat.succ_add]
      simp only [takeChunks, ih, List.cons_append]

/-- The first chunks are taken, and behind the end of the octets empty ones; what is left are the
chunks behind those taken. -/
theorem takeChunks_eq (count : Nat) (octets : Bytes) :
    takeChunks count octets =
      (octets.chunks.take count ++ List.replicate (count - octets.chunks.length) [],
        (octets.chunks.drop count).flatten) := by
  induction count generalizing octets with
  | zero => simp [takeChunks, flatten_chunks]
  | succ count ih =>
      by_cases hne : octets = []
      · subst hne
        simp [takeChunks, takeChunk_of_notMem, ih, List.replicate_succ]
      · rw [chunks_eq_cons hne]
        simp [takeChunks, ih]

theorem length_takeChunks_le (count : Nat) (octets : Bytes) :
    (takeChunks count octets).2.length ≤ octets.length := by
  have hall := congrArg List.length (flatten_chunks octets)
  rw [← List.take_append_drop count octets.chunks, List.flatten_append, List.length_append] at hall
  rw [takeChunks_eq]
  show (octets.chunks.drop count).flatten.length ≤ octets.length
  omega

/-! ## Lines before an empty one -/

/-- The lines before the first empty one. -/
def spoken (octets : Bytes) : List Bytes :=
  (octets.splitOn newline).takeWhile (· ≠ [])

/-- What is left behind the first empty line. -/
def unspoken (octets : Bytes) : Bytes :=
  [newline].intercalate ((octets.splitOn newline).dropWhile (· ≠ [])).tail

/-- A chunk that has nothing before its newline ends the lines, and so does the end of the octets.
-/
theorem spoken_eq (octets : Bytes) :
    octets.spoken = if octets.takeChunk.1.chomp = [] then []
      else octets.takeChunk.1.chomp :: octets.takeChunk.2.spoken := by
  induction octets using cut_induction with
  | hlast line hline =>
      rw [takeChunk_of_notMem hline, chomp_of_notMem hline, spoken, splitOn_of_notMem hline]
      by_cases hne : line = []
      · simp [hne]
      · simp [hne, spoken]
  | hline line rest hline _ =>
      rw [takeChunk_append_newline hline, chomp_append_newline, spoken,
        splitOn_append_newline hline]
      by_cases hne : line = []
      · simp [hne]
      · simp [hne, spoken]

/-- What is left is what stands behind the chunk that ends the lines. -/
theorem unspoken_eq (octets : Bytes) :
    octets.unspoken = if octets.takeChunk.1.chomp = [] then octets.takeChunk.2
      else octets.takeChunk.2.unspoken := by
  induction octets using cut_induction with
  | hlast line hline =>
      rw [takeChunk_of_notMem hline, chomp_of_notMem hline, unspoken, splitOn_of_notMem hline]
      by_cases hne : line = []
      · simp [hne]
      · simp [hne, unspoken]
  | hline line rest hline _ =>
      rw [takeChunk_append_newline hline, chomp_append_newline, unspoken,
        splitOn_append_newline hline]
      by_cases hne : line = []
      · simp [hne, List.intercalate_splitOn]
      · simp [hne, unspoken]

/-- Lines that have something in them leave what the rest leaves. -/
theorem unspoken_flatMap_append {lines : List Bytes} {rest : Bytes}
    (hlines : ∀ line ∈ lines, newline ∉ line ∧ line ≠ []) :
    unspoken (lines.flatMap (· ++ [newline]) ++ rest) = unspoken rest := by
  induction lines with
  | nil => rfl
  | cons line lines ih =>
      obtain ⟨⟨hline, hne⟩, hlines⟩ := List.forall_mem_cons.mp hlines
      have hcut : (line :: lines).flatMap (· ++ [newline]) ++ rest =
          line ++ newline :: (lines.flatMap (· ++ [newline]) ++ rest) := by simp
      rw [hcut, unspoken_eq, takeChunk_append_newline hline, chomp_append_newline, if_neg hne]
      exact ih hlines

/-- Lines that have something in them come before those of the rest. -/
theorem spoken_flatMap_append {lines : List Bytes} {rest : Bytes}
    (hlines : ∀ line ∈ lines, newline ∉ line ∧ line ≠ []) :
    spoken (lines.flatMap (· ++ [newline]) ++ rest) = lines ++ spoken rest := by
  induction lines with
  | nil => rfl
  | cons line lines ih =>
      obtain ⟨⟨hline, hne⟩, hlines⟩ := List.forall_mem_cons.mp hlines
      have hcut : (line :: lines).flatMap (· ++ [newline]) ++ rest =
          line ++ newline :: (lines.flatMap (· ++ [newline]) ++ rest) := by simp
      rw [hcut, spoken_eq, takeChunk_append_newline hline, chomp_append_newline, if_neg hne,
        ih hlines]
      rfl

theorem spoken_flatMap {lines : List Bytes} (hlines : ∀ line ∈ lines, newline ∉ line ∧ line ≠ []) :
    spoken (lines.flatMap (· ++ [newline])) = lines := by
  have hspoken : spoken (lines.flatMap (· ++ [newline]) ++ []) = lines ++ spoken [] :=
    spoken_flatMap_append hlines
  rwa [List.append_nil, show spoken [] = [] from rfl, List.append_nil] at hspoken

/-- There is at most one line more than there are newlines. -/
theorem length_spoken_le (octets : Bytes) : octets.spoken.length ≤ octets.count newline + 1 := by
  have hlength : (octets.splitOn newline).length = octets.count newline + 1 := by
    induction octets using cut_induction with
    | hlast line hline => simp [splitOn_of_notMem hline, List.count_eq_zero.mpr hline]
    | hline line rest hline ih =>
        simp [splitOn_append_newline hline, ih, List.count_eq_zero.mpr hline]
  rw [← hlength]
  exact (List.takeWhile_prefix _).length_le

end Bytes

end ScriptShell
