import ScriptShell.Language.Regions
import ScriptShell.Proofs.Isolation.Division

/-!
# Regions are kept apart

Where every realm has a store of its own unless it was handed an object of another one, whatever is
done in a realm keeps to its region by construction: the interpreter gets nothing but the store of
the region, and nothing else is put back (`Language.isolates_regional`). Objects have the same names
in two states that are alike, since each realm has names of its own.
-/

namespace ScriptShell.Language

/-! ## The division into regions -/

/-- What is handed out is the same, and it belongs to the territory. -/
def Homed.Within {α : Type} (extent : Extent Unit) (homed other : Homed α) : Prop :=
  other = homed ∧ ∀ realm ∈ homed.home, realm ∈ extent.territory

/-- The realms of a territory are in the same regions, and these lie within it. -/
structure Regions.Alike (extent : Extent Unit) (regions other : Regions) : Prop where
  load_eq : other.load = regions.load
  limits_eq : other.limits = regions.limits
  get?_eq : ∀ realm ∈ extent.territory, other.regions.get? realm = regions.regions.get? realm
  closed : ∀ realm ∈ extent.territory, ∀ region ∈ regions.regions.get? realm,
    ∀ member ∈ region.members, member ∈ extent.territory

/-- The part of a realm is its region. -/
def division : regional.Division where
  Part := Option Region
  part regions realm := Regions.regions regions |>.get? realm
  Calls := Load × Limits
  calls regions := (Regions.load regions, Regions.limits regions)
  Naming := Unit
  order :=
    { le := fun _ _ => True
      lt := fun _ _ => False
      le_refl := fun _ => trivial
      le_trans := fun _ _ _ _ _ => trivial
      lt_iff_le_not_ge := fun _ _ => by simp }
  Alike := Regions.Alike
  Value := Homed.Within
  Fault := Homed.Within
  Job := Homed.Within

namespace Regions

variable {α β : Type} {extent : division.Reach} {realm : Realm}
  {base baseOther regions other : Regions}

/-! ## Parts that are put back -/

theorem get?_place (regions : Regions) (region : Region) (realm : Realm) :
    (regions.place region).regions.get? realm =
      if realm ∈ region.members then some region else regions.regions.get? realm := by
  have hfold (members : List Realm) (all : Std.TreeMap Nat Region) :
      (members.foldl (fun all member => all.insert member region) all).get? realm =
        if realm ∈ members then some region else all.get? realm := by
    induction members generalizing all with
    | nil => rfl
    | cons member rest ih =>
        rw [List.foldl_cons, ih, Std.TreeMap.get?_eq_getElem?, Std.TreeMap.getElem?_insert]
        by_cases hrest : realm ∈ rest
        · simp [hrest]
        · by_cases hmember : member = realm
          · simp [hmember]
          · simp [hrest, hmember, Ne.symm hmember]
  exact hfold region.members regions.regions

namespace Alike

theorem region_eq (h : Alike extent regions other) (hrealm : realm ∈ extent.territory) :
    other.region realm = regions.region realm := by
  rw [region, region, h.get?_eq realm hrealm, h.limits_eq]

theorem view_eq (h : Alike extent regions other) (hrealm : realm ∈ extent.territory) :
    other.view realm = regions.view realm := by
  rw [view, view, h.region_eq hrealm, h.load_eq]

theorem mem_of_member (h : Alike extent regions other) (hrealm : realm ∈ extent.territory)
    {member : Realm} (hmember : member ∈ (regions.region realm).members) :
    member ∈ extent.territory := by
  unfold region at hmember
  cases hregion : regions.regions.get? realm with
  | none =>
      rw [hregion] at hmember
      cases hmember
  | some region =>
      rw [hregion] at hmember
      exact h.closed realm hrealm region hregion member hmember

theorem calls_eq (h : Alike extent regions other) : division.calls other = division.calls regions :=
  Prod.ext h.load_eq h.limits_eq

/-- Whether regions are alike within a territory shows in the regions of its realms. -/
theorem congr {after behind : Regions} (h : Alike extent regions other)
    (hsame : ∀ realm ∈ extent.territory, division.part after realm = division.part regions realm)
    (hsameOther : ∀ realm ∈ extent.territory,
      division.part behind realm = division.part other realm)
    (hcalls : division.calls after = division.calls regions)
    (hcallsOther : division.calls behind = division.calls other) : Alike extent after behind := by
  have hboth : division.calls behind = division.calls after :=
    calc division.calls behind
        = division.calls other := hcallsOther
      _ = division.calls regions := h.calls_eq
      _ = division.calls after := hcalls.symm
  refine ⟨congrArg Prod.fst hboth, congrArg Prod.snd hboth, fun realm hrealm => ?_,
    fun realm hrealm region hregion => h.closed realm hrealm region ?_⟩
  · calc division.part behind realm
        = division.part other realm := hsameOther realm hrealm
      _ = division.part regions realm := h.get?_eq realm hrealm
      _ = division.part after realm := (hsame realm hrealm).symm
  · exact (hsame realm hrealm).symm.trans hregion

theorem union {naming : Unit} {territory greater : Set Realm}
    (hfirst : Alike ⟨naming, territory⟩ regions other)
    (hsecond : Alike ⟨naming, greater⟩ regions other) :
    Alike ⟨naming, territory ∪ greater⟩ regions other where
  load_eq := hfirst.load_eq
  limits_eq := hfirst.limits_eq
  get?_eq realm hrealm := hrealm.elim (hfirst.get?_eq realm) (hsecond.get?_eq realm)
  closed realm hrealm region hregion member hmember :=
    hrealm.imp (fun hmem => hfirst.closed realm hmem region hregion member hmember)
      fun hmem => hsecond.closed realm hmem region hregion member hmember

end Alike

/-- Two states that are the same but for what the realms of a territory hold, which is alike. -/
abbrev Steps (extent : division.Reach) (base baseOther regions other : Regions) : Prop :=
  division.Step extent () base baseOther regions other

namespace Steps

theorem refl (h : Alike extent regions other) : Steps extent regions other regions other where
  le := le_rfl
  alike := h
  untouched _ _ := rfl
  untouched_other _ _ := rfl

theorem withLoad (h : Steps extent base baseOther regions other) (load : Load) :
    Steps extent base baseOther { regions with load := load } { other with load := load } where
  le := h.le
  alike := ⟨rfl, h.alike.limits_eq, h.alike.get?_eq, h.alike.closed⟩
  untouched := h.untouched
  untouched_other := h.untouched_other

theorem place (h : Steps extent base baseOther regions other) {region : Region}
    (hmembers : ∀ member ∈ region.members, member ∈ extent.territory) :
    Steps extent base baseOther (regions.place region) (other.place region) := by
  have houtside (realm : Realm) (hrealm : realm ∉ extent.territory) : realm ∉ region.members :=
    fun hmember => hrealm (hmembers realm hmember)
  refine ⟨h.le, ⟨h.alike.load_eq, h.alike.limits_eq, fun realm hrealm => ?_,
    fun realm hrealm found hfound => ?_⟩, fun realm hrealm => ?_, fun realm hrealm => ?_⟩
  · rw [get?_place, get?_place, h.alike.get?_eq realm hrealm]
  · rw [get?_place] at hfound
    by_cases hmember : realm ∈ region.members
    · rw [if_pos hmember] at hfound
      cases hfound
      exact hmembers
    · rw [if_neg hmember] at hfound
      exact h.alike.closed realm hrealm found hfound
  · exact (get?_place regions region realm).trans
      ((if_neg (houtside realm hrealm)).trans (h.untouched realm hrealm))
  · exact (get?_place other region realm).trans
      ((if_neg (houtside realm hrealm)).trans (h.untouched_other realm hrealm))

theorem put (h : Steps extent base baseOther regions other) (hrealm : realm ∈ extent.territory)
    (store : Store) : Steps extent base baseOther (regions.put realm store)
      (other.put realm store) := by
  unfold Regions.put
  rw [h.alike.region_eq hrealm]
  exact h.place fun member => h.alike.mem_of_member hrealm

theorem join (h : Steps extent base baseOther regions other) (hrealm : realm ∈ extent.territory)
    {home : Realm} (hhome : home ∈ extent.territory) :
    Steps extent base baseOther (regions.join realm home) (other.join realm home) := by
  unfold Regions.join
  rw [h.alike.region_eq hrealm, h.alike.region_eq hhome]
  split
  · exact h
  · refine h.place fun member hmember => ?_
    rcases List.mem_append.mp hmember with hfirst | hsecond
    · exact h.alike.mem_of_member hrealm hfirst
    · exact h.alike.mem_of_member hhome hsecond

/-- What belongs to the territory is joined within it. -/
theorem joinHome (h : Steps extent base baseOther regions other) (hrealm : realm ∈ extent.territory)
    {homed : Homed α} (hhomed : ∀ home ∈ homed.home, home ∈ extent.territory) :
    Steps extent base baseOther (regions.joinHome realm homed) (other.joinHome realm homed) := by
  unfold Regions.joinHome
  cases hhome : homed.home with
  | none => exact h
  | some home => exact h.join hrealm (hhomed home hhome)

end Steps

theorem calls_joinHome (regions : Regions) (realm : Realm) (homed : Homed α) :
    division.calls (regions.joinHome realm homed) = division.calls regions := by
  unfold joinHome join
  cases homed.home with
  | none => rfl
  | some home =>
      dsimp only
      split <;> rfl

/-! ## Work in a region -/

theorem within_value (hrealm : realm ∈ extent.territory) (value : Value) :
    Homed.Within extent (Homed.value realm value) (Homed.value realm value) := by
  refine ⟨rfl, fun home hhome => ?_⟩
  unfold Homed.value at hhome
  split at hhome
  · cases hhome
    exact hrealm
  · cases hhome

theorem within_inRealm (hrealm : realm ∈ extent.territory) (item : α) :
    Homed.Within extent (Homed.inRealm realm item) (Homed.inRealm realm item) := by
  refine ⟨rfl, fun home hhome => ?_⟩
  cases hhome
  exact hrealm

/-- The answer of a native is the same, and it is joined within the territory. -/
theorem joinAnswer_of_result (halike : Alike extent regions other)
    (hrealm : realm ∈ extent.territory)
    {answer answerOther : Except regional.Fault regional.Value}
    (hanswer : division.Result division.Value extent answer answerOther) :
    answerOther = answer ∧ Steps extent regions other (regions.joinAnswer realm answer)
      (other.joinAnswer realm answerOther) ∧
      division.calls (regions.joinAnswer realm answer) = division.calls regions := by
  cases hanswer with
  | ok hvalue =>
      obtain ⟨rfl, hhome⟩ := hvalue
      exact ⟨rfl, (Steps.refl halike).joinHome hrealm hhome, calls_joinHome regions realm _⟩
  | error hfault =>
      obtain ⟨rfl, hhome⟩ := hfault
      exact ⟨rfl, (Steps.refl halike).joinHome hrealm hhome, calls_joinHome regions realm _⟩

/-- What the interpreter does with the store of a region is done within it. -/
theorem inStep_carry {rel : division.Reach → β → β → Prop} {told : α → β} {load : Load}
    {limits : Limits} {act : Act α}
    (htold : ∀ greater : division.Reach, realm ∈ greater.territory → ∀ value,
      rel greater (told value) (told value))
    (hrealm : realm ∈ extent.territory) (h : Steps extent base baseOther regions other)
    (hlimits : regions.limits = limits) :
    division.InStep (load, limits) rel extent base baseOther (carry realm told load regions act)
      (carry realm told load other act) := by
  -- on what the interpreter does; the regions may be joined whenever a native answers
  induction act generalizing extent base baseOther regions other with
  | exhausted => exact .exhausted
  | finish store result =>
      refine .finish ((h.put hrealm store).withLoad load) (congrArg (Prod.mk load) hlimits) ?_
      cases result with
      | ok value => exact .ok (htold _ hrealm value)
      | error fault => exact .error (within_inRealm hrealm fault)
  | enqueue store job resume ih =>
      have hleft := (h.put hrealm store).withLoad store.load
      refine .enqueue hleft (within_inRealm hrealm job) ?_
      have hview := hleft.alike.view_eq hrealm
      dsimp only at hview ⊢
      rw [hview]
      exact ih _ hrealm (.refl hleft.alike) hlimits
  | native store owner callee arguments resume ih =>
      have hleft := (h.put hrealm store).withLoad store.load
      unfold carry
      rw [h.alike.region_eq hrealm]
      split
      case isFalse => exact .exhausted
      case isTrue howner =>
        have harguments : List.Forall₂ (Homed.Within extent) (arguments.map (Homed.value realm))
            (arguments.map (Homed.value realm)) := by
          refine List.forall₂_same.mpr fun homed hhomed => ?_
          obtain ⟨value, -, rfl⟩ := List.mem_map.mp hhomed
          exact within_value hrealm value
        refine .native hleft (h.alike.mem_of_member hrealm howner) harguments ?_
        intro greater given givenOther answer answerOther hgreater halike hcalls hanswer
        -- the interpreter goes on with the region that the answer left the realm in
        have hthere : realm ∈ greater.territory := Extent.mem_of_le hgreater hrealm
        obtain ⟨rfl, hjoined, hsame⟩ := joinAnswer_of_result halike hthere hanswer
        have hview := hjoined.alike.view_eq hthere
        have hkept : (given.joinAnswer realm answerOther).limits = limits := by
          have hboth := hsame.trans hcalls
          exact (congrArg Prod.snd hboth).trans hlimits
        show division.InStep _ _ greater given givenOther
          (carry realm told load _ (resume _ (answerOf answerOther)))
          (carry realm told load _ (resume _ (answerOf answerOther)))
        rw [hview]
        exact ih _ _ hthere hjoined hkept

/-- An operation of the interpreter keeps to the territory of the realm that it is done in. -/
theorem inStep_actIn {rel : division.Reach → β → β → Prop} {told : α → β}
    (htold : ∀ greater : division.Reach, realm ∈ greater.territory → ∀ value,
      rel greater (told value) (told value))
    (hrealm : realm ∈ extent.territory) (h : Steps extent base baseOther regions other)
    (hcalls : division.calls regions = division.calls base) (operation : Store → Act α) :
    division.InStep (division.calls base) rel extent base baseOther
      (regions.actIn realm told operation) (other.actIn realm told operation) := by
  unfold actIn
  rw [h.alike.view_eq hrealm, h.alike.load_eq, ← hcalls]
  exact inStep_carry htold hrealm h rfl

end Regions

open Regions

end ScriptShell.Language
