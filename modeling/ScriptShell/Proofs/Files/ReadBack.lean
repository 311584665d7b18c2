import ScriptShell.Files

/-!
# Reading a file that was written

A file that was written under a path is read under the same path, and its content is what was
written (`Files.read_of_write`). The path is walked a second time, through a tree in which the file
stands: the directories on the way are still there, because none of them lies at the place of the
file or below it (`Node.follow?_put_of_not_below`).
-/

namespace ScriptShell

namespace Node

variable {name other : String} {node : Node} {entries : List (String × Node)}

theorem find?_replace (name : String) (node : Node) (entries : List (String × Node)) :
    find? name (replace name node entries) = some node := by
  induction entries with
  | nil => simp [replace, find?]
  | cons entry entries ih =>
      obtain ⟨present, old⟩ := entry
      rw [replace]
      split
      · rw [find?, if_pos rfl]
      · rw [find?, if_neg ‹_›, ih]

theorem find?_replace_of_ne (hne : other ≠ name) :
    find? other (replace name node entries) = find? other entries := by
  induction entries with
  | nil => simp [replace, find?, hne.symm]
  | cons entry entries ih =>
      obtain ⟨present, old⟩ := entry
      rw [replace]
      split
      · rename_i hpresent
        rw [find?, find?, if_neg hne.symm, if_neg (hpresent ▸ hne.symm)]
      · rw [find?, find?, ih]

/-- What was put at a place is there. -/
theorem follow?_put (node target : Node) (place : List String) :
    (node.put target place).follow? place = some target := by
  induction place generalizing node with
  | nil => rfl
  | cons name place ih =>
      rw [put, follow?]
      simp only [find?_replace, ih]

theorem follow?_append (node : Node) (place others : List String) :
    node.follow? (place ++ others) = (node.follow? place).bind (·.follow? others) := by
  induction place generalizing node with
  | nil => rfl
  | cons name place ih =>
      cases node with
      | file | locked => rfl
      | directory entries =>
          rw [List.cons_append, follow?, follow?]
          cases find? name entries with
          | none => rfl
          | some next => exact ih next

/-- Only a directory leads anywhere. -/
theorem exists_directory_of_below {place others : List String}
    (hbelow : place <+: others) (hothers : node.follow? others = some (.directory entries)) :
    ∃ entries, node.follow? place = some (.directory entries) := by
  obtain ⟨rest, rfl⟩ := hbelow
  rw [follow?_append] at hothers
  obtain ⟨next, hplace, hrest⟩ := Option.bind_eq_some_iff.mp hothers
  cases next with
  | directory entries => exact ⟨entries, hplace⟩
  | file | locked => cases rest <;> cases hrest

/-- A directory is still one when something was put at a place, unless it lies there or below. -/
theorem follow?_put_of_not_below (target : Node) {place others : List String}
    (hbelow : ¬ place <+: others)
    (hothers : node.follow? others = some (.directory entries)) :
    ∃ entries, (node.put target place).follow? others = some (.directory entries) := by
  induction place generalizing node others with
  | nil => exact absurd List.nil_prefix hbelow
  | cons name place ih =>
      cases others with
      | nil => exact ⟨_, rfl⟩
      | cons other others =>
          cases node with
          | file | locked => cases hothers
          | directory inside =>
              rw [follow?] at hothers
              cases hfind : find? other inside with
              | none => simp [hfind] at hothers
              | some next =>
                  simp only [hfind] at hothers
                  rw [put, follow?]
                  -- The two chains part here, or they go on together one level down.
                  by_cases hname : other = name
                  · subst hname
                    rw [List.cons_prefix_cons] at hbelow
                    simp only [Node.entries, hfind, find?_replace, Option.getD_some]
                    exact ih (fun h => hbelow ⟨rfl, h⟩) hothers
                  · simp only [Node.entries, find?_replace_of_ne hname, hfind]
                    exact ⟨_, hothers⟩

end Node

namespace Files

variable {files others : Files} {path : String} {content : Bytes}

/-- A walk to a place where no directory is leads there again when something was put there. -/
theorem walk_put {place last names : List String} {target : Node}
    (hwalk : files.walk place names = .ok last)
    (hlast : ∀ entries, files.root.follow? last ≠ some (.directory entries)) :
    ({ files with root := files.root.put target last } : Files).walk place names = .ok last := by
  induction names generalizing place with
  | nil => exact hwalk
  | cons name names ih =>
      rw [walk] at hwalk ⊢
      split at hwalk
      · cases hwalk
      · cases hwalk
      · cases hwalk
      · rename_i entries hplace
        -- The walk stands in a directory, and only directories lie above one.
        have hbelow : ¬ last <+: place := fun hbelow => by
          obtain ⟨entries, hdirectory⟩ := Node.exists_directory_of_below hbelow hplace
          exact hlast entries hdirectory
        obtain ⟨after, hafter⟩ := Node.follow?_put_of_not_below target hbelow hplace
        simp only [hafter]
        split at hwalk
        · rw [if_pos ‹_›]
          exact ih hwalk
        · rw [if_neg ‹_›]
          split at hwalk
          · rw [if_pos ‹_›]
            exact ih hwalk
          · rw [if_neg ‹_›]
            split at hwalk
            · cases hwalk
            · rw [if_neg ‹_›]
              exact ih hwalk

theorem resolve_put {place : List String} {target : Node}
    (hresolve : files.resolve path = .ok place)
    (hplace : ∀ entries, files.root.follow? place ≠ some (.directory entries)) :
    ({ files with root := files.root.put target place } : Files).resolve path = .ok place := by
  unfold resolve at hresolve ⊢
  split at hresolve
  · cases hresolve
  · rw [if_neg ‹_›]
    split at hresolve
    · cases hresolve
    · rw [if_neg ‹_›]
      split at hresolve
      · cases hresolve
      · rw [if_neg ‹_›]
        exact walk_put hresolve hplace

/-- A file is put where its path leads and no directory is. -/
theorem exists_place_of_write (hwrite : files.write path content = .ok others) :
    ∃ place, files.resolve path = .ok place ∧
      (∀ entries, files.root.follow? place ≠ some (.directory entries)) ∧
      others = { files with root := files.root.put (.file content) place } := by
  unfold write at hwrite
  dsimp only at hwrite
  cases hresolve :
      files.resolve (if withoutSlashes path = "" then path else withoutSlashes path) with
  | error error =>
      rw [hresolve] at hwrite
      cases hwrite
  | ok place =>
      simp only [hresolve, bind, Except.bind] at hwrite
      split at hwrite
      · cases hwrite
      · cases hwrite
      · rename_i hplace _
        split at hwrite
        · cases hwrite
        · rename_i hbare
          rw [Bool.not_eq_true, bne_eq_false_iff_eq] at hbare
          rw [hbare, ite_self] at hresolve
          cases hwrite
          exact ⟨place, hresolve, hplace, rfl⟩

/-- What was written under a path is read under it. -/
theorem read_of_write (hwrite : files.write path content = .ok others) :
    others.read path = .ok content := by
  obtain ⟨place, hresolve, hplace, rfl⟩ := exists_place_of_write hwrite
  rw [read, resolve_put hresolve hplace]
  simp only [bind, Except.bind, Node.follow?_put]

end Files

end ScriptShell
