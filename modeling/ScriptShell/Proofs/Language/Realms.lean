import ScriptShell.Proofs.Language.Objects

/-!
# Making realms

A realm takes up a row of places in the store, from the place of its first intrinsic on. All that is
made for it lies in these places or behind them, so that no object that was there is changed
(`Store.Builds`).

## Main results

* `Store.base_createRealm_self` and `Store.global_lt_createRealm`: where a new realm lies.
* `Store.base_createRealm_of_ne` and `Store.object_createRealm`: the other realms stay where they
  are, and all objects stay as they are.
-/

namespace ScriptShell.Language.Store

/-- Objects are made, objects from a bound on are changed, and realms are left where they are. -/
structure Builds (bound : ObjectId) (store after : Store) : Prop where
  nextObject_le : store.nextObject ≤ after.nextObject
  realms_eq : after.realms = store.realms
  object_eq {id : ObjectId} (hid : id < bound) : after.object id = store.object id

/-- New objects and the intrinsics of a realm have places from a bound on. -/
structure Above (bound : ObjectId) (realm : Realm) (store : Store) : Prop where
  nextObject_le : bound ≤ store.nextObject
  base_le : bound ≤ (store.realm realm).base

namespace Builds

variable {bound owner : ObjectId} {realm : Realm} {store middle : Store}

theorem refl (bound : ObjectId) (store : Store) : Builds bound store store :=
  ⟨Nat.le_refl _, rfl, fun _ => rfl⟩

theorem base_eq (h : Builds bound store middle) (realm : Realm) :
    (middle.realm realm).base = (store.realm realm).base := by
  rw [Store.realm, h.realms_eq, Store.realm]

theorem intrinsic_eq (h : Builds bound store middle) (realm : Realm) (intrinsic : Intrinsic) :
    middle.intrinsic realm intrinsic = store.intrinsic realm intrinsic := by
  rw [Store.intrinsic, h.base_eq, Store.intrinsic]

/-- What is done for each entry of a list one after the other. -/
theorem foldl {α : Type} {change : Store → α → Store}
    (hchange : ∀ {middle : Store} entry, Builds bound store middle →
      Builds bound store (change middle entry))
    (entries : List α) (h : Builds bound store middle) :
    Builds bound store (entries.foldl change middle) := by
  induction entries generalizing middle with
  | nil => exact h
  | cons entry rest ih => exact ih (hchange entry h)

theorem setObject (h : Builds bound store middle) (howner : bound ≤ owner) (object : Object) :
    Builds bound store (middle.setObject owner object) where
  nextObject_le := h.nextObject_le
  realms_eq := h.realms_eq
  object_eq hid := by
    rw [middle.object_setObject_of_ne (Nat.ne_of_lt (Nat.lt_of_lt_of_le hid howner)),
      h.object_eq hid]

theorem putProperties (h : Builds bound store middle) (howner : bound ≤ owner)
    (properties : List (Key × Property)) :
    Builds bound store (middle.putProperties owner properties) :=
  foldl (fun _ h => h.setObject howner _) properties h

section Above

variable (habove : Above bound realm store)
include habove

theorem allocate (h : Builds bound store middle) (object : Object) :
    Builds bound store (middle.allocate object).2 where
  nextObject_le := Nat.le_succ_of_le h.nextObject_le
  realms_eq := h.realms_eq
  object_eq hid := by
    have hlt := Nat.lt_of_lt_of_le hid (Nat.le_trans habove.nextObject_le h.nextObject_le)
    exact (middle.object_setObject_of_ne (Nat.ne_of_lt hlt) _).trans (h.object_eq hid)

theorem le_intrinsic (h : Builds bound store middle) (intrinsic : Intrinsic) :
    bound ≤ middle.intrinsic realm intrinsic := by
  rw [h.intrinsic_eq]
  exact Nat.le_trans habove.base_le (Nat.le_add_right _ _)

theorem addMethod (h : Builds bound store middle) (howner : bound ≤ owner) (key : Key)
    (method : Method) : Builds bound store (middle.addMethod realm owner key method) :=
  (h.allocate habove _).setObject howner _

theorem addGetter (h : Builds bound store middle) (howner : bound ≤ owner) (method : Method) :
    Builds bound store (middle.addGetter realm owner method) :=
  (h.allocate habove _).setObject howner _

theorem addMethods (h : Builds bound store middle) (howner : bound ≤ owner)
    (methods : List Method) : Builds bound store (middle.addMethods realm owner methods) :=
  foldl (fun _ h => h.addMethod habove howner _ _) methods h

theorem addMethod? (h : Builds bound store middle) (howner : bound ≤ owner) (key : Key)
    (method? : Option Method) :
    Builds bound store
      (match method? with
        | some method => middle.addMethod realm owner key method
        | none => middle) := by
  cases method? with
  | none => exact h
  | some method => exact h.addMethod habove howner key method

theorem makeClass (h : Builds bound store middle) (className : ClassName) :
    Builds bound store (middle.makeClass realm className) := by
  have hprototype : Builds bound store (middle.makePrototype realm className) := by
    have howner := h.le_intrinsic habove (.prototype className)
    refine putProperties (addMethod? habove
      (foldl (fun _ h => h.addGetter habove howner _) _ ?_) howner _ _) howner _
    exact addMethods habove (setObject (setObject h howner _) howner _) howner _
  have howner := hprototype.le_intrinsic habove (.constructor className)
  exact putProperties (addMethods habove (setObject hprototype howner _) howner _) howner _

theorem makeIterators (h : Builds bound store middle) :
    Builds bound store (middle.makeIterators realm) := by
  have howner := h.le_intrinsic habove .iteratorPrototype
  exact addMethod habove (addMethod habove (setObject h howner _) howner _ _) howner _ _

theorem makeGlobal (h : Builds bound store middle) :
    Builds bound store (middle.makeGlobal realm) := by
  have howner := h.le_intrinsic habove .global
  exact putProperties (setObject h howner _) howner _

theorem makeRealm (h : Builds bound store middle) :
    Builds bound store
      ((Store.makeIterators realm (ClassName.all.foldl
        (fun store className => store.makeClass realm className) middle)).makeGlobal realm) :=
  makeGlobal habove (makeIterators habove
    (foldl (fun className h => h.makeClass habove className) ClassName.all h))

end Above

end Builds

variable (realm : Realm) (store : Store)

/-- A realm with its place and its two scopes, before its objects are made. -/
def foundRealm : Store :=
  let base := store.nextObject
  let store := store.reserve Intrinsic.count
  let global := base + Intrinsic.global.place
  let (outermost, store) := store.allocateScope
    { parent := none, object := some global, this := some (.object global) }
  let (scope, store) := store.allocateScope { parent := some outermost }
  store.modifyRealm realm fun _ => { base := base, scope := scope }

theorem base_foundRealm : ((store.foundRealm realm).realm realm).base = store.nextObject := by
  show (((store.realms.insert realm _).get? realm).getD default).base = _
  rw [get?_insert_self, Option.getD_some]

/-- All that is made for a realm lies behind what was there. -/
theorem builds_createRealm :
    Builds store.nextObject (store.foundRealm realm) (store.createRealm realm) := by
  have habove : Above store.nextObject realm (store.foundRealm realm) :=
    ⟨Nat.le_add_right _ _, Nat.le_of_eq (base_foundRealm realm store).symm⟩
  exact Builds.makeRealm habove (.refl _ _)

theorem nextObject_le_createRealm :
    store.nextObject + Intrinsic.count ≤ (store.createRealm realm).nextObject :=
  (builds_createRealm realm store).nextObject_le

/-- A new realm lies where the store had its next place. -/
theorem base_createRealm_self :
    ((store.createRealm realm).realm realm).base = store.nextObject := by
  rw [(builds_createRealm realm store).base_eq, base_foundRealm]

/-- The global object of a new realm lies behind all objects that there were. -/
theorem global_createRealm_self : (store.createRealm realm).intrinsic realm .global =
    store.nextObject + Intrinsic.global.place := by
  rw [intrinsic, base_createRealm_self]

theorem base_createRealm_of_ne {other : Realm} (hne : other ≠ realm) :
    ((store.createRealm realm).realm other).base = (store.realm other).base := by
  rw [(builds_createRealm realm store).base_eq]
  show ((store.realms.insert realm _).get? other |>.getD default).base = _
  rw [get?_insert_of_ne _ _ hne]
  rfl

/-- A new realm leaves all objects as they were. -/
theorem object_createRealm {id : ObjectId} (hid : id < store.nextObject) :
    (store.createRealm realm).object id = store.object id :=
  (builds_createRealm realm store).object_eq hid

end ScriptShell.Language.Store
