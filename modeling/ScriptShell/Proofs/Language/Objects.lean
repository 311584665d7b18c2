import ScriptShell.Language.Realm

/-!
# Objects in the store

An operation of the store changes one object or makes one, and all others stay as they are. What is
put on an object is found there under its key, and a new array has its values under their indices.

## Main results

* `Store.changesOnly_modifyObject`: a change of one object leaves the others as they are.
* `Store.property?_newArray_index`: the elements of a new array.
-/

namespace ScriptShell.Language

/-! ## Entries under numbers -/

section Entries

variable {α : Type} {key other : Nat} (value : α) (entries : Std.TreeMap Nat α)

theorem get?_insert_self : (entries.insert key value).get? key = some value := by
  rw [Std.TreeMap.get?_eq_getElem?, Std.TreeMap.getElem?_insert_self]

theorem get?_insert_of_ne (hne : other ≠ key) :
    (entries.insert key value).get? other = entries.get? other := by
  have hcompare : ¬ compare key other = .eq := by
    rw [Std.LawfulEqCmp.compare_eq_iff_eq]
    exact Ne.symm hne
  rw [Std.TreeMap.get?_eq_getElem?, Std.TreeMap.getElem?_insert, if_neg hcompare,
    Std.TreeMap.get?_eq_getElem?]

end Entries

namespace Object

variable (object : Object) {key other : Key} {index : Nat}

theorem property?_put_self (property : Property) :
    (object.put key property).property? key = some property := by
  cases key with
  | index index => exact get?_insert_self property object.indexed
  | text text => exact findNamed_putNamed_self _ _ _
  | symbol symbol => exact findNamed_putNamed_self _ _ _

theorem findNamed_putNamed_of_ne (hne : other ≠ key) (property : Property)
    (named : List (Key × Property)) :
    findNamed other (putNamed key property named) = findNamed other named := by
  induction named with
  | nil => simp [putNamed, findNamed, Ne.symm hne]
  | cons entry rest ih =>
    by_cases h : entry.1 = key
    · simp [putNamed, findNamed, h, Ne.symm hne]
    · by_cases hsame : entry.1 = other
      · simp [putNamed, findNamed, hsame, hne]
      · simp [putNamed, findNamed, h, hsame, ih]

theorem property?_put_of_ne (hne : other ≠ key) (property : Property) :
    (object.put key property).property? other = object.property? other := by
  cases key with
  | index index =>
      cases other with
      | index place =>
          have hplace : place ≠ index := fun heq => hne (heq ▸ rfl)
          exact get?_insert_of_ne property object.indexed hplace
      | text text => rfl
      | symbol symbol => rfl
  | text text =>
      cases other with
      | index place => rfl
      | text other => exact findNamed_putNamed_of_ne hne property object.named
      | symbol symbol => exact findNamed_putNamed_of_ne hne property object.named
  | symbol symbol =>
      cases other with
      | index place => rfl
      | text other => exact findNamed_putNamed_of_ne hne property object.named
      | symbol other => exact findNamed_putNamed_of_ne hne property object.named

@[simp] theorem kind_put (property : Property) : (object.put key property).kind = object.kind := by
  cases key <;> rfl

@[simp] theorem prototype_put (property : Property) :
    (object.put key property).prototype = object.prototype := by
  cases key <;> rfl

end Object

namespace Store

variable (store : Store) {id other : ObjectId}

/-! ## One object at a time -/

theorem object_setObject_self (object : Object) :
    (store.setObject id object).object id = object := by
  show ((store.objects.insert id object).get? id).getD {} = object
  rw [get?_insert_self, Option.getD_some]

theorem object_setObject_of_ne (hne : other ≠ id) (object : Object) :
    (store.setObject id object).object other = store.object other := by
  show ((store.objects.insert id object).get? other).getD {} = _
  rw [get?_insert_of_ne object store.objects hne]
  rfl

theorem object_allocate_self (object : Object) :
    (store.allocate object).2.object store.nextObject = object :=
  store.object_setObject_self object

/-- A property that is put on an object is found there. -/
theorem property?_putProperty_self (key : Key) (property : Property) :
    ((store.putProperty id key property).object id).property? key = some property := by
  unfold putProperty
  rw [object_setObject_self, Object.property?_put_self]

/-! ## Own properties -/

theorem ownProperty?_text (store : Store) (id : ObjectId) (text : WideText) :
    store.ownProperty? id (.text text) = (store.object id).property? (.text text) := by
  unfold ownProperty?
  dsimp only
  split
  · contradiction
  · contradiction
  · rfl

theorem ownProperty?_of_isArray {store : Store} {id : ObjectId}
    (hkind : (store.object id).kind = .array) (key : Key) :
    store.ownProperty? id key = (store.object id).property? key := by
  unfold ownProperty?
  dsimp only
  rw [hkind]

theorem property?_of_own {store : Store} {id : ObjectId} {key : Key} {property : Property}
    (hown : store.ownProperty? id key = some property) :
    store.property? id key = some property := by
  rw [Store.property?, findProperty?, hown]

/-! ## Stores that are idle -/

theorem ownProperty?_idle (key : Key) :
    store.idle.ownProperty? id key = store.ownProperty? id key :=
  rfl

theorem property?_idle (key : Key) : store.idle.property? id key = store.property? id key := by
  show store.idle.findProperty? key (store.objects.size + 1) id = _
  unfold property?
  generalize store.objects.size + 1 = bound
  induction bound generalizing id with
  | zero => rfl
  | succ bound ih =>
      unfold findProperty?
      simp only [ih]
      rfl

/-! ## Changes of one object -/

/-- Nothing but one object is changed, and every realm stays where it is. -/
structure ChangesOnly (id : ObjectId) (store after : Store) : Prop where
  nextObject_eq : after.nextObject = store.nextObject
  base_eq (realm : Realm) : (after.realm realm).base = (store.realm realm).base
  object_eq {other : ObjectId} (hne : other ≠ id) : after.object other = store.object other

/-- One object is changed, but not in what kind of object it is. -/
structure Writes (id : ObjectId) (store after : Store) : Prop
    extends store.ChangesOnly id after where
  kind_eq : (after.object id).kind = (store.object id).kind

/-- Plain properties are put on an object, which keeps those that it had. -/
structure Assigns (id : ObjectId) (store after : Store) : Prop extends store.Writes id after where
  prototype_eq : (after.object id).prototype = (store.object id).prototype
  property_cases (key : Key) :
    (after.object id).property? key = (store.object id).property? key ∨
      ∃ value writable enumerable configurable, (after.object id).property? key =
        some ⟨.data value writable, enumerable, configurable⟩

section ChangesOnly

variable {store middle after : Store} {id : ObjectId}

theorem ChangesOnly.refl (id : ObjectId) (store : Store) : store.ChangesOnly id store :=
  ⟨rfl, fun _ => rfl, fun _ => rfl⟩

theorem ChangesOnly.trans (hfirst : store.ChangesOnly id middle)
    (hsecond : middle.ChangesOnly id after) : store.ChangesOnly id after where
  nextObject_eq := hsecond.nextObject_eq.trans hfirst.nextObject_eq
  base_eq realm := (hsecond.base_eq realm).trans (hfirst.base_eq realm)
  object_eq hne := (hsecond.object_eq hne).trans (hfirst.object_eq hne)

theorem Writes.refl (id : ObjectId) (store : Store) : store.Writes id store :=
  ⟨.refl id store, rfl⟩

theorem Writes.trans (hfirst : store.Writes id middle) (hsecond : middle.Writes id after) :
    store.Writes id after where
  toChangesOnly := hfirst.toChangesOnly.trans hsecond.toChangesOnly
  kind_eq := hsecond.kind_eq.trans hfirst.kind_eq

theorem Assigns.refl (id : ObjectId) (store : Store) : store.Assigns id store :=
  ⟨.refl id store, rfl, fun _ => .inl rfl⟩

theorem Assigns.trans (hfirst : store.Assigns id middle) (hsecond : middle.Assigns id after) :
    store.Assigns id after where
  toWrites := hfirst.toWrites.trans hsecond.toWrites
  prototype_eq := hsecond.prototype_eq.trans hfirst.prototype_eq
  property_cases key := by
    rcases hsecond.property_cases key with hsame | hplain
    · rw [hsame]
      exact hfirst.property_cases key
    · exact .inr hplain

theorem changesOnly_setObject (store : Store) (id : ObjectId) (object : Object) :
    store.ChangesOnly id (store.setObject id object) :=
  ⟨rfl, fun _ => rfl, fun hne => store.object_setObject_of_ne hne object⟩

theorem writes_modifyObject (store : Store) (id : ObjectId) {change : Object → Object}
    (hkind : (change (store.object id)).kind = (store.object id).kind) :
    store.Writes id (store.modifyObject id change) := by
  refine ⟨store.changesOnly_setObject id _, ?_⟩
  rw [modifyObject, object_setObject_self, hkind]

theorem kind_remove (object : Object) (key : Key) : (object.remove key).kind = object.kind := by
  cases key <;> rfl

theorem writes_setLength (store : Store) (id : ObjectId) (length : Nat) :
    store.Writes id (store.setLength id length) :=
  store.writes_modifyObject id (Object.kind_put _ _)

/-- The object as it is when a property is put on it: an array may have got longer. -/
theorem exists_putProperty (store : Store) (id : ObjectId) (key : Key) (property : Property) :
    ∃ grown : Object, grown.kind = (store.object id).kind ∧
      grown.prototype = (store.object id).prototype ∧
      (∀ other, grown.property? other = (store.object id).property? other ∨
        ∃ value writable enumerable configurable, grown.property? other =
          some ⟨.data value writable, enumerable, configurable⟩) ∧
      store.putProperty id key property = store.setObject id (grown.put key property) := by
  unfold putProperty
  dsimp only
  split
  · split
    · refine ⟨_, Object.kind_put _ _, Object.prototype_put _ _, fun other => ?_, rfl⟩
      by_cases hlength : other = .ofString "length"
      · subst hlength
        exact .inr ⟨_, _, _, _, Object.property?_put_self _ _⟩
      · exact .inl (Object.property?_put_of_ne _ hlength _)
    · exact ⟨_, rfl, rfl, fun _ => .inl rfl, rfl⟩
  · exact ⟨_, rfl, rfl, fun _ => .inl rfl, rfl⟩

theorem writes_putProperty (store : Store) (id : ObjectId) (key : Key) (property : Property) :
    store.Writes id (store.putProperty id key property) := by
  obtain ⟨grown, hkind, -, -, hput⟩ := store.exists_putProperty id key property
  rw [hput]
  refine ⟨store.changesOnly_setObject id _, ?_⟩
  rw [object_setObject_self, Object.kind_put, hkind]

theorem assigns_putProperty (store : Store) (id : ObjectId) (key : Key) (value : Value)
    (writable enumerable configurable : Bool) : store.Assigns id
      (store.putProperty id key ⟨.data value writable, enumerable, configurable⟩) := by
  refine ⟨store.writes_putProperty id key _, ?_, fun other => ?_⟩
  · obtain ⟨grown, -, hprototype, -, hput⟩ := store.exists_putProperty id key _
    rw [hput, object_setObject_self, Object.prototype_put, hprototype]
  · obtain ⟨grown, -, -, hcases, hput⟩ := store.exists_putProperty id key _
    rw [hput, object_setObject_self]
    by_cases hkey : other = key
    · subst hkey
      exact .inr ⟨_, _, _, _, Object.property?_put_self _ _⟩
    · rw [Object.property?_put_of_ne _ hkey]
      exact hcases other

end ChangesOnly

/-! ## Accessors -/

/-- What is found under a key of an object, its own or inherited, is an accessor. -/
def HasAccessor (store : Store) (id : ObjectId) (key : Key) : Prop :=
  ∃ bound getter setter enumerable configurable,
    store.findProperty? key bound id = some ⟨.accessor getter setter, enumerable, configurable⟩

/-- What is found on an object itself is as it was or plain, when plain properties are put on an
array. -/
theorem Assigns.ownProperty?_cases {store after : Store} {id : ObjectId}
    (h : store.Assigns id after) (harray : (store.object id).kind = .array) (other : ObjectId)
    (key : Key) : after.ownProperty? other key = store.ownProperty? other key ∨
      ∃ value writable enumerable configurable, after.ownProperty? other key =
        some ⟨.data value writable, enumerable, configurable⟩ := by
  by_cases hsame : other = id
  · subst hsame
    have hafter : (after.object other).kind = .array := h.kind_eq.trans harray
    rw [ownProperty?_of_isArray hafter, ownProperty?_of_isArray harray]
    exact h.property_cases key
  · left
    unfold ownProperty?
    rw [h.object_eq hsame]

/-- Plain properties that are put on an array bring no accessor to light. -/
theorem Assigns.hasAccessor {store after : Store} {id other : ObjectId} {key : Key}
    (h : store.Assigns id after) (harray : (store.object id).kind = .array)
    (haccessor : after.HasAccessor other key) : store.HasAccessor other key := by
  obtain ⟨bound, getter, setter, enumerable, configurable, hfound⟩ := haccessor
  refine ⟨bound, getter, setter, enumerable, configurable, ?_⟩
  -- on the number of objects that are searched
  induction bound generalizing other with
  | zero => exact hfound
  | succ bound ih =>
      have hprototype : (after.object other).prototype = (store.object other).prototype := by
        by_cases hsame : other = id
        · rw [hsame, h.prototype_eq]
        · rw [h.object_eq hsame]
      unfold findProperty? at hfound ⊢
      rcases h.ownProperty?_cases harray other key with hown | ⟨_, _, _, _, hplain⟩
      · rw [hown, hprototype] at hfound
        cases hproperty : store.ownProperty? other key with
        | some property => rwa [hproperty] at hfound
        | none =>
            rw [hproperty] at hfound
            cases hnext : (store.object other).prototype with
            | none =>
                rw [hnext] at hfound
                cases hfound
            | some prototype =>
                rw [hnext] at hfound
                exact ih hfound
      · rw [hplain] at hfound
        cases hfound

/-! ## New arrays -/

/-- The elements from some place on, with those that are there already. -/
theorem get?_foldl_insert (values : List Value) (start index : Nat)
    (indexed : Std.TreeMap Nat Property) :
    (((values.map some).zipIdx start).foldl
      (fun (indexed : Std.TreeMap Nat Property) entry =>
        match entry.1 with
        | some value => indexed.insert entry.2 (.plain value)
        | none => indexed) indexed).get? index =
      ((if start ≤ index then values[index - start]? else none).map Property.plain).or
        (indexed.get? index) := by
  induction values generalizing start indexed with
  | nil => simp
  | cons value rest ih =>
      rw [List.map_cons, List.zipIdx_cons, List.foldl_cons, ih]
      rcases Nat.lt_trichotomy index start with hlt | rfl | hgt
      · rw [get?_insert_of_ne _ _ (Nat.ne_of_lt hlt), if_neg (by omega), if_neg (by omega)]
      · rw [get?_insert_self, if_neg (by omega), if_pos (Nat.le_refl _), Nat.sub_self]
        rfl
      · have hplace : index - start = index - (start + 1) + 1 := by omega
        rw [get?_insert_of_ne _ _ (Nat.ne_of_gt hgt), if_pos (by omega), if_pos (by omega),
          hplace, List.getElem?_cons_succ]

section NewArray

variable (realm : Realm) (values : List Value)

/-- A new array has its values under their indices and nothing under any other one. -/
theorem property?_newArray_index (index : Nat) :
    ((store.newArray realm (values.map some)).2.object store.nextObject).property? (.index index) =
      values[index]?.map Property.plain := by
  rw [newArray, object_allocate_self]
  refine (get?_foldl_insert values 0 index {}).trans ?_
  rw [if_pos (Nat.zero_le _), Nat.sub_zero, Std.TreeMap.get?_eq_getElem?,
    Std.TreeMap.getElem?_emptyc, Option.or_none]

end NewArray

end Store

end ScriptShell.Language
