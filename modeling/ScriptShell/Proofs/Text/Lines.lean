import Mathlib.Data.List.Basic
import ScriptShell.Text.Lines

/-!
# Lines of text

A text is cut into lines at its newlines, and a carriage return directly before a newline goes with
it. The lines and their endings make up the text again (`Lines.makeUp_split`), and lines that are
ended one by one come to the text without those carriage returns (`Lines.flatMap_splitOnto`).
-/

namespace ScriptShell

/-- A list has no separator in it, or it is a part without one before a separator and a rest. -/
theorem cut_induction {α : Type} [DecidableEq α] (separator : α) {motive : List α → Prop}
    (hlast : ∀ part, separator ∉ part → motive part)
    (hpart : ∀ part rest, separator ∉ part → motive rest → motive (part ++ separator :: rest))
    (items : List α) : motive items := by
  induction hlength : items.length using Nat.strongRecOn generalizing items with
  | ind length ih =>
      by_cases hmem : separator ∈ items
      · obtain ⟨part, rest, heq, hfirst⟩ := List.eq_append_cons_of_mem hmem
        have hshorter : rest.length < length := by
          rw [← hlength, heq, List.length_append, List.length_cons]
          omega
        rw [heq]
        exact hpart part rest hfirst (ih rest.length hshorter rest rfl)
      · exact hlast items hmem

namespace Lines

/-- A text without a newline, or a line with its newline before another text. -/
theorem cut_induction {motive : List Char → Prop} (hlast : ∀ line, '\n' ∉ line → motive line)
    (hline : ∀ line rest, '\n' ∉ line → motive rest → motive (line ++ '\n' :: rest))
    (text : List Char) : motive text :=
  ScriptShell.cut_induction '\n' hlast hline text

/-! ## At a newline -/

theorem splitOnto_append_newline (current line rest : List Char) (hline : '\n' ∉ line) :
    splitOnto current (line ++ '\n' :: rest) =
      dropReturn (current.reverse ++ line) :: splitOnto [] rest := by
  induction line generalizing current with
  | nil => simp [splitOnto]
  | cons c line ih =>
      rw [List.mem_cons, not_or] at hline
      obtain ⟨hc, hline⟩ := hline
      rw [List.cons_append, splitOnto, if_neg (Ne.symm hc), ih _ hline]
      simp

/-- What stands behind the last newline is a line as it is, unless it is empty. -/
theorem splitOnto_of_notMem (current line : List Char) (hline : '\n' ∉ line) :
    splitOnto current line =
      if current.reverse ++ line = [] then [] else [current.reverse ++ line] := by
  induction line generalizing current with
  | nil => simp [splitOnto]
  | cons c line ih =>
      rw [List.mem_cons, not_or] at hline
      obtain ⟨hc, hline⟩ := hline
      rw [splitOnto, if_neg (Ne.symm hc), ih _ hline]
      simp

theorem dropReturn_of_not_mem {line : List Char} (hline : '\r' ∉ line) :
    dropReturn line = line := by
  refine if_neg fun hlast => hline ?_
  exact List.mem_of_getLast? hlast

theorem dropReturn_cons_cons (first second : Char) (line : List Char) :
    dropReturn (first :: second :: line) = first :: dropReturn (second :: line) := by
  unfold dropReturn
  rw [List.getLast?_cons_cons]
  split <;> rfl

/-- A line ends in a carriage return or it is left as it is. -/
theorem dropReturn_cases (line : List Char) :
    line = dropReturn line ++ ['\r'] ∨ dropReturn line = line ∧ line.getLast? ≠ some '\r' := by
  unfold dropReturn
  split
  · rename_i hlast
    exact .inl (List.dropLast_append_getLast? '\r' hlast).symm
  · exact .inr ⟨rfl, ‹_›⟩

theorem mem_of_mem_dropReturn {c : Char} {line : List Char} (hc : c ∈ dropReturn line) :
    c ∈ line := by
  unfold dropReturn at hc
  split at hc
  · exact List.dropLast_subset line hc
  · exact hc

/-- Lines that are ended one by one are found again. -/
theorem split_join (lines : List String)
    (hlines : ∀ line ∈ lines, '\n' ∉ line.toList ∧ '\r' ∉ line.toList) :
    split (String.join (lines.map (· ++ "\n"))) = lines := by
  unfold split
  induction lines with
  | nil => rfl
  | cons line lines ih =>
      obtain ⟨⟨hnewline, hreturn⟩, hrest⟩ := List.forall_mem_cons.mp hlines
      have htext : (String.join ((line :: lines).map (· ++ "\n"))).toList =
          line.toList ++ '\n' :: (String.join (lines.map (· ++ "\n"))).toList := by
        simp
      rw [htext, splitOnto_append_newline _ _ _ hnewline, List.map_cons, ih hrest]
      simp [dropReturn_of_not_mem hreturn]

/-! ## Lines and their endings -/

/-- The lines, each with its ending, make up the text: a newline, with a carriage return before it
or without, or the end of the text behind a line that is not empty. -/
inductive MakeUp : List String → String → Prop
  | nil : MakeUp [] ""
  | last {line : String} (hne : line ≠ "") (hline : '\n' ∉ line.toList) : MakeUp [line] line
  | newline {line rest : String} {lines : List String} (hline : '\n' ∉ line.toList)
      (hreturn : line.toList.getLast? ≠ some '\r') (hrest : MakeUp lines rest) :
      MakeUp (line :: lines) (line ++ "\n" ++ rest)
  | returned {line rest : String} {lines : List String} (hline : '\n' ∉ line.toList)
      (hrest : MakeUp lines rest) : MakeUp (line :: lines) (line ++ "\r\n" ++ rest)

private theorem makeUp_splitOnto (text : List Char) :
    MakeUp ((splitOnto [] text).map String.ofList) (String.ofList text) := by
  induction text using cut_induction with
  | hlast line hline =>
      rw [splitOnto_of_notMem _ _ hline, List.reverse_nil, List.nil_append]
      split
      · rename_i hempty
        rw [hempty]
        exact .nil
      · rename_i hne
        exact .last (by simpa [← String.toList_inj] using hne) (by simpa using hline)
  | hline line rest hline ih =>
      rw [splitOnto_append_newline _ _ _ hline, List.reverse_nil, List.nil_append, List.map_cons]
      have hkept : '\n' ∉ (String.ofList (dropReturn line)).toList := fun hmem =>
        hline (mem_of_mem_dropReturn (by simpa using hmem))
      rcases dropReturn_cases line with hreturn | ⟨hsame, hreturn⟩
      · have htext : String.ofList (line ++ '\n' :: rest) =
            String.ofList (dropReturn line) ++ "\r\n" ++ String.ofList rest := by
          have hchars : line ++ '\n' :: rest = dropReturn line ++ '\r' :: '\n' :: rest := by
            conv_lhs => rw [hreturn]
            simp
          simp [← String.toList_inj, hchars]
        rw [htext]
        exact .returned hkept ih
      · have htext : String.ofList (line ++ '\n' :: rest) =
            String.ofList line ++ "\n" ++ String.ofList rest := by
          simp [← String.toList_inj]
        rw [hsame] at hkept ⊢
        rw [htext]
        exact .newline hkept (by simpa using hreturn) ih

theorem makeUp_split (text : String) : MakeUp (split text) text := by
  have h := makeUp_splitOnto text.toList
  rwa [String.ofList_toList] at h

namespace MakeUp

variable {lines : List String} {text : String}

theorem newline_notMem (h : MakeUp lines text) : ∀ line ∈ lines, '\n' ∉ line.toList := by
  induction h with
  | nil => exact List.forall_mem_nil _
  | last _ hline => exact List.forall_mem_singleton.mpr hline
  | newline hline _ _ ih | returned hline _ ih => exact List.forall_mem_cons.mpr ⟨hline, ih⟩

theorem eq_nil_iff (h : MakeUp lines text) : lines = [] ↔ text = "" := by
  cases h with
  | nil => simp
  | last hne => simp [hne]
  | newline | returned => simp only [reduceCtorEq, String.append_eq_empty_iff]; simp

end MakeUp

/-! ## Lines ended one by one -/

/-- The text without the carriage returns that stand directly before a newline. -/
def withoutReturns : List Char → List Char
  | [] => []
  | c :: rest =>
    if c = '\r' ∧ rest.head? = some '\n' then withoutReturns rest else c :: withoutReturns rest

theorem withoutReturns_of_notMem {line : List Char} (hline : '\n' ∉ line) :
    withoutReturns line = line := by
  induction line with
  | nil => rfl
  | cons c line ih =>
      rw [List.mem_cons, not_or] at hline
      have hhead : line.head? ≠ some '\n' := fun h => hline.2 (List.mem_of_head? h)
      rw [withoutReturns, if_neg (fun h => hhead h.2), ih hline.2]

theorem withoutReturns_append_newline {line : List Char} (rest : List Char) (hline : '\n' ∉ line) :
    withoutReturns (line ++ '\n' :: rest) = dropReturn line ++ '\n' :: withoutReturns rest := by
  induction line with
  | nil => simp [withoutReturns, dropReturn]
  | cons c line ih =>
      rw [List.mem_cons, not_or] at hline
      rw [List.cons_append, withoutReturns, ih hline.2]
      cases line with
      | nil => by_cases hc : c = '\r' <;> simp [dropReturn, hc]
      | cons d line =>
          rw [List.mem_cons, not_or] at hline
          rw [if_neg (by simp [Ne.symm hline.2.1]), dropReturn_cons_cons]
          rfl

/-- The lines of a text with a newline behind each are the text without its carriage returns before
newlines, and with a final newline where it has none. -/
theorem flatMap_splitOnto (text : List Char) :
    (splitOnto [] text).flatMap (· ++ ['\n']) =
      withoutReturns text ++ if text = [] ∨ text.getLast? = some '\n' then [] else ['\n'] := by
  induction text using cut_induction with
  | hlast line hline =>
      rw [splitOnto_of_notMem _ _ hline, List.reverse_nil, List.nil_append,
        withoutReturns_of_notMem hline]
      have hlast : line.getLast? ≠ some '\n' := fun h => hline (List.mem_of_getLast? h)
      by_cases hempty : line = [] <;> simp [hempty, hlast]
  | hline line rest hline ih =>
      rw [splitOnto_append_newline _ _ _ hline, List.reverse_nil, List.nil_append,
        List.flatMap_cons, ih, withoutReturns_append_newline rest hline]
      have hlast : (line ++ '\n' :: rest = [] ∨ (line ++ '\n' :: rest).getLast? = some '\n') ↔
          (rest = [] ∨ rest.getLast? = some '\n') := by
        cases rest <;> simp
      simp only [hlast, List.append_assoc, List.cons_append, List.nil_append]

end Lines

end ScriptShell
