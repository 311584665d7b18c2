import ScriptShell.Log.Directives
import ScriptShell.Proofs.Log.Shown

/-!
# The documented settings as directives

The subscriber of the command reads the settings that the documentation of filters speaks of as one
directive each, and lets through what that one admits.
-/

namespace ScriptShell.LogDirective

variable {module : String}

/-- A character of a name can begin a directive and stands for itself in it. -/
theorem plain_of_isModule (hmodule : IsModule module) {c : Char} (hc : c ∈ module.toList) :
    opens c = true ∧ c ≠ ',' ∧ c ≠ '=' ∧ c.isWhitespace = false := by
  have hother : ∀ d : Char, d.isAlphanum = false → d ≠ '_' → d ≠ ':' → c ≠ d := by
    rintro d hd hunderscore hcolon rfl
    rcases hmodule.2 c hc with halphanum | rfl | rfl
    · rw [hd] at halphanum
      cases halphanum
    · exact hunderscore rfl
    · exact hcolon rfl
  refine ⟨?_, hother ',' (by decide) (by decide) (by decide),
    hother '=' (by decide) (by decide) (by decide), ?_⟩
  · rcases hmodule.2 c hc with halphanum | rfl | rfl
    · simp [opens, halphanum]
    · rfl
    · rfl
  · by_contra hspace
    rw [Bool.not_eq_false] at hspace
    have hspaces : c = ' ' ∨ c = '\t' ∨ c = '\r' ∨ c = '\n' := by
      simpa [Char.isWhitespace, or_assoc] using hspace
    rcases hspaces with rfl | rfl | rfl | rfl
    · exact hother ' ' (by decide) (by decide) (by decide) rfl
    · exact hother '\t' (by decide) (by decide) (by decide) rfl
    · exact hother '\r' (by decide) (by decide) (by decide) rfl
    · exact hother '\n' (by decide) (by decide) (by decide) rfl

/-- A text that neither begins nor ends with a blank has no blanks around it. -/
theorem trim_of_ends {text : List Char} {first last : Char}
    (hfirst : text.head? = some first) (hlast : text.getLast? = some last)
    (hopen : first.isWhitespace = false) (hclose : last.isWhitespace = false) :
    trim text = text := by
  have hkeep : ∀ {chars : List Char} {c : Char}, chars.head? = some c → c.isWhitespace = false →
      chars.dropWhile Char.isWhitespace = chars := by
    intro chars c hhead hc
    obtain ⟨rest, rfl⟩ := List.head?_eq_some_iff.mp hhead
    rw [List.dropWhile_cons, hc]
    rfl
  unfold trim
  rw [hkeep hfirst hopen, hkeep (List.head?_reverse.trans hlast) hclose, List.reverse_reverse]

theorem read?_module (hmodule : IsModule module) :
    read? (module.toList ++ '=' :: "debug".toList) =
      some ⟨module.toList, .upTo .debug⟩ := by
  obtain ⟨first, rest, hchars⟩ := List.exists_cons_of_ne_nil
    (show module.toList ≠ [] from fun hnil => hmodule.1 (String.toList_eq_nil_iff.mp hnil))
  have hplain : ∀ c ∈ module.toList, (c != '=') = true := fun c hc =>
    bne_iff_ne.mpr (plain_of_isModule hmodule hc).2.2.1
  have hspan : (module.toList ++ '=' :: "debug".toList).span (· != '=') =
      (module.toList, '=' :: "debug".toList) := by
    rw [List.span_eq_takeWhile_dropWhile, List.takeWhile_append_of_pos hplain,
      List.dropWhile_append_of_pos hplain]
    simp
  have hopens : opens first = true :=
    (plain_of_isModule hmodule (hchars ▸ List.mem_cons_self)).1
  rw [hchars, List.cons_append] at hspan ⊢
  rw [read?, hspan, hopens]
  rfl

theorem readAll_module (hmodule : IsModule module) :
    readAll (module ++ "=debug") = [some ⟨module.toList, .upTo .debug⟩] := by
  obtain ⟨first, rest, hchars⟩ := List.exists_cons_of_ne_nil
    (show module.toList ≠ [] from fun hnil => hmodule.1 (String.toList_eq_nil_iff.mp hnil))
  have htext : (module ++ "=debug").toList = module.toList ++ '=' :: "debug".toList := by simp
  have hcomma : ',' ∉ module.toList ++ '=' :: "debug".toList := by
    rw [List.mem_append, not_or]
    exact ⟨fun hmem => (plain_of_isModule hmodule hmem).2.1 rfl, by decide⟩
  have htrim : trim (module.toList ++ '=' :: "debug".toList) =
      module.toList ++ '=' :: "debug".toList := by
    have hhead : (module.toList ++ '=' :: "debug".toList).head? = some first := by
      rw [hchars]
      rfl
    have hlast : (module.toList ++ '=' :: "debug".toList).getLast? = some 'g' := by simp
    have hopen : first.isWhitespace = false :=
      (plain_of_isModule hmodule (hchars ▸ List.mem_cons_self)).2.2.2
    exact trim_of_ends hhead hlast hopen (by decide)
  rw [readAll, htext, List.splitOn_eq_singleton hcomma]
  simp only [ne_eq, List.append_eq_nil_iff, reduceCtorEq, and_false, not_false_eq_true,
    decide_true, List.filter_cons_of_pos, List.filter_nil, List.map_cons, List.map_nil, htrim,
    read?_module hmodule]

/-- The bound of the only directive decides. -/
theorem boundOf_singleton (directive : LogDirective) (target : String) :
    boundOf [directive] target = if directive.fits target then directive.bound else .off := by
  by_cases hfits : directive.fits target = true
  · simp [boundOf, hfits]
  · simp [boundOf, hfits]

/-- The subscriber of the command keeps to the documentation of filters. -/
theorem documented_subscriber : subscriber.Documented where
  level := by
    have hread : (readAll "debug").mapM id = some [⟨[], .upTo .debug⟩] := by decide
    refine ⟨[⟨[], .upTo .debug⟩], hread, fun metadata => ?_⟩
    show (boundOf [⟨[], .upTo .debug⟩] metadata.target).admits metadata.level = _
    rw [boundOf_singleton]
    rfl
  module_level module hmodule := by
    refine ⟨[⟨module.toList, .upTo .debug⟩], ?_, fun metadata => ?_⟩
    · show (readAll (module ++ "=debug")).mapM id = _
      rw [readAll_module hmodule]
      rfl
    · show (boundOf [⟨module.toList, .upTo .debug⟩] metadata.target).admits metadata.level = _
      rw [boundOf_singleton]
      unfold fits
      cases module.toList.isPrefixOf metadata.target.toList with
      | true => rfl
      | false => rfl

end ScriptShell.LogDirective
