import ScriptShell.Language.Library
import ScriptShell.Proofs.Language.Objects
import ScriptShell.Proofs.Text.CodeUnits

/-!
# Writing to an array

Assignments to an array, the removal and the definition of its properties and its method `push`
change that array and no other object (`Run.writesOnly_set`, `Run.writesOnly_delete`,
`Run.writesOnly_defineDescribed`, `Run.writesOnly_arrayPush`). This holds as long as no script code
runs in between: where an accessor is found or an object is converted to a number, it may.

An assignment of an element puts a plain property on the array (`Run.assigns_set`), so that `push`
meets no accessor behind its first element if there was none before it.
-/

namespace ScriptShell.Language

theorem Key.ofString_length : Key.ofString "length" = .text (WideText.ofString "length") := by
  decide

/-- No number is spelled like the name of the length. -/
theorem Key.ofNat_ne_length (number : Nat) : Key.ofNat number ≠ .ofString "length" := by
  rw [Key.ofString_length, Key.ofNat]
  split
  · exact fun h => by cases h
  · intro h
    have hwide : WideText.ofString number.repr = WideText.ofString "length" := by
      injection h
    have htext : number.repr = "length" := by
      rw [← WideText.escaped_ofString number.repr, hwide, WideText.escaped_ofString]
    have hletter : 'l' ∈ Nat.toDigits 10 number := by
      rw [← String.toList_ofList (l := Nat.toDigits 10 number), ← Nat.repr_eq_ofList_toDigits,
        htext]
      decide
    exact absurd (Nat.isDigit_of_mem_toDigits (by decide) (by decide) hletter) (by decide)

namespace Run

variable {α β : Type} {reentry : Reentry} {site : Site} {store : Store} {id : ObjectId} {key : Key}

/-! ## Computations that run no script code -/

/-- What is done ends without script code being run, in a store of some kind. -/
def Settles (holds : Store → Prop) (action : Run α) (reentry : Reentry) (site : Site)
    (store : Store) : Prop :=
  ∃ after result, action reentry site store = .finish after result ∧ holds after

/-- Nothing is changed. -/
abbrev Reads (action : Run α) (reentry : Reentry) (site : Site) (store : Store) : Prop :=
  Settles (· = store) action reentry site store

/-- Nothing but one object is changed. -/
abbrev WritesOnly (id : ObjectId) (action : Run α) (reentry : Reentry) (site : Site)
    (store : Store) : Prop :=
  Settles (store.Writes id) action reentry site store

theorem bind_of_finish {first : Run α} {next : α → Run β} {after : Store} {value : α}
    (hfirst : first reentry site store = .finish after (.ok value)) :
    (first >>= next) reentry site store = next value reentry site after := by
  show (first reentry site store).andThen _ = _
  rw [hfirst]
  rfl

theorem Settles.mono {holds holds' : Store → Prop} {action : Run α}
    (h : Settles holds action reentry site store) (hmono : ∀ after, holds after → holds' after) :
    Settles holds' action reentry site store := by
  obtain ⟨after, result, hact, hafter⟩ := h
  exact ⟨after, result, hact, hmono after hafter⟩

/-- Two computations in a row, where the second one goes on from what the first one left. -/
theorem Settles.bind {first both : Store → Prop} {action : Run α} {next : α → Run β}
    (haction : Settles first action reentry site store)
    (hfailed : ∀ after, first after → both after)
    (hnext : ∀ value after, action reentry site store = .finish after (.ok value) → first after →
      Settles both (next value) reentry site after) :
    Settles both (action >>= next) reentry site store := by
  obtain ⟨middle, result, hfinish, hfirst⟩ := haction
  cases result with
  | error fault =>
      refine ⟨middle, .error fault, ?_, hfailed middle hfirst⟩
      show (action reentry site store).andThen _ = _
      rw [hfinish]
      rfl
  | ok value =>
      obtain ⟨after, result, hafter, hboth⟩ := hnext value middle hfinish hfirst
      exact ⟨after, result, (bind_of_finish hfinish).trans hafter, hboth⟩

theorem Reads.bind {holds : Store → Prop} {action : Run α} {next : α → Run β}
    (haction : Reads action reentry site store) (hstore : holds store)
    (hnext : ∀ value, action reentry site store = .finish store (.ok value) →
      Settles holds (next value) reentry site store) :
    Settles holds (action >>= next) reentry site store :=
  Settles.bind haction (fun _ hafter => hafter ▸ hstore)
    fun value after hvalue hafter => by
      subst hafter
      exact hnext value hvalue

theorem settles_look {holds : Store → Prop} (hstore : holds store)
    (read : Site → Store → Except Fault α) : Settles holds (look read) reentry site store :=
  ⟨store, _, rfl, hstore⟩

theorem settles_pure {holds : Store → Prop} (hstore : holds store) (value : α) :
    Settles holds (pure value : Run α) reentry site store :=
  settles_look hstore _

theorem settles_raise {holds : Store → Prop} (hstore : holds store) (fault : Fault) :
    Settles holds (raise fault : Run α) reentry site store :=
  settles_look hstore _

theorem reads_pure (value : α) : Reads (pure value : Run α) reentry site store :=
  ⟨store, _, rfl, rfl⟩

theorem reads_look (read : Site → Store → Except Fault α) :
    Reads (look read) reentry site store :=
  ⟨store, _, rfl, rfl⟩

theorem reads_fail (kind : ErrorKind) (message : String) :
    Reads (fail kind message : Run α) reentry site store :=
  ⟨store, _, rfl, rfl⟩

theorem settles_failWith {holds : Store → Prop} (hstore : holds store) (kind : ErrorKind)
    (message : WideText) : Settles holds (failWith kind message : Run α) reentry site store :=
  Reads.bind (reads_look _) hstore fun _ _ => settles_raise hstore _

theorem settles_modifyStore {holds : Store → Prop} {change : Store → Store}
    (hgrows : ∀ store : Store, store.GrowsTo (change store))
    (hchange : holds ((change store.idle).usedAs store)) :
    Settles holds (modifyStore change hgrows) reentry site store :=
  ⟨_, _, rfl, hchange⟩

/-! ## Reading -/

theorem store_eq : Run.store reentry site store = .finish store (.ok store.idle) :=
  rfl

/-- A property that is no accessor is read without running script code. -/
theorem reads_getOf (haccessor : ¬ store.HasAccessor id key) :
    Reads (getOf id key) reentry site store := by
  unfold Reads Settles getOf getFrom
  rw [bind_of_finish store_eq, store.property?_idle]
  rcases hfound : store.property? id key with _ | ⟨_ | _, _, _⟩
  · exact reads_pure _
  · exact reads_pure _
  · exact absurd ⟨_, _, _, _, _, hfound⟩ haccessor

theorem getOf_of_data {value : Value} {writable enumerable configurable : Bool}
    (hdata : store.property? id key = some ⟨.data value writable, enumerable, configurable⟩) :
    getOf id key reentry site store = .finish store (.ok value) := by
  unfold getOf getFrom
  rw [bind_of_finish store_eq, store.property?_idle, hdata]
  rfl

/-- What is no object is converted to a number without running script code. -/
theorem reads_toNumber {value : Value} (hvalue : value.isObject = false) :
    Reads (toNumber value) reentry site store := by
  have hprimitive (value : Value) : Reads (primitiveToNumber value) reentry site store := by
    cases value with
    | symbol | object | bigint => exact reads_fail _ _
    | _ => exact reads_pure _
  cases value with
  | object id => contradiction
  | _ => exact Reads.bind (reads_pure _) rfl fun value _ => hprimitive value

/-! ## Assigning -/

/-- Elements and other plain properties are put on the array. -/
theorem assigns_addOrdinary (value : Value) (object : Object) :
    Settles (store.Assigns id) (addProperty.addOrdinary id key value object) reentry site
      store := by
  unfold addProperty.addOrdinary
  split
  · exact Settles.bind (settles_modifyStore _ (store.assigns_putProperty id key _ _ _ _))
      (fun _ hafter => hafter) fun _ _ _ hafter => settles_pure hafter _
  · exact settles_pure (.refl id store) _
  · split
    · exact Settles.bind (settles_modifyStore _ (store.assigns_putProperty id key _ _ _ _))
        (fun _ hafter => hafter) fun _ _ _ hafter => settles_pure hafter _
    · exact settles_pure (.refl id store) _

/-- The length of an array is set to a value that is converted without script code. -/
theorem writesOnly_setArrayLength {value : Value} (hvalue : value.isObject = false) :
    WritesOnly id (setArrayLength id value) reentry site store := by
  refine Reads.bind (reads_toNumber hvalue) (.refl id store) fun number _ => ?_
  dsimp only
  split
  · exact settles_failWith (.refl id store) _ _
  · exact settles_modifyStore _ (store.writes_setLength id _)

/-- An assignment comes down to how the object takes the property, where no setter does. -/
theorem settles_set {holds : Store → Prop} {value : Value} (hstore : holds store)
    (haccessor : ¬ store.HasAccessor id key)
    (hadd : Settles holds (addProperty id key value) reentry site store) (strict : Bool) :
    Settles holds (set (.object id) key value strict) reentry site store := by
  have hput : Settles holds (put (.object id) key value) reentry site store := by
    have hstart : (pure id : Run ObjectId) reentry site store = .finish store (.ok id) := rfl
    unfold Settles put
    rw [bind_of_finish hstart, bind_of_finish store_eq, store.property?_idle]
    rcases hfound : store.property? id key with _ | ⟨⟨value, _ | _⟩ | _, _, _⟩
    · exact hadd
    · exact settles_pure hstore _
    · exact hadd
    · exact absurd ⟨_, _, _, _, _, hfound⟩ haccessor
  refine Settles.bind hput (fun _ hafter => hafter) fun done after _ hafter => ?_
  split
  · exact settles_failWith hafter _ _
  · exact settles_pure hafter _

/-- An array takes a property as any object does, unless it is the length. -/
theorem addProperty_of_array {value : Value} (harray : (store.object id).kind = .array) :
    addProperty id key value reentry site store =
      if key = .ofString "length" then
        (setArrayLength id value >>= fun _ => pure true : Run Bool) reentry site store
      else addProperty.addOrdinary id key value (store.object id) reentry site store := by
  have hobject : object id reentry site store = .finish store (.ok (store.object id)) := rfl
  unfold addProperty
  rw [bind_of_finish hobject, harray]
  dsimp only
  split <;> rfl

theorem assigns_set {value : Value} (harray : (store.object id).kind = .array)
    (haccessor : ¬ store.HasAccessor id key) (hkey : key ≠ .ofString "length") (strict : Bool) :
    Settles (store.Assigns id) (set (.object id) key value strict) reentry site store := by
  refine settles_set (.refl id store) haccessor ?_ strict
  unfold Settles
  rw [addProperty_of_array harray, if_neg hkey]
  exact assigns_addOrdinary value _

/-- An assignment to a property of an array, its length included, changes the array only. -/
theorem writesOnly_set {value : Value} (harray : (store.object id).kind = .array)
    (haccessor : ¬ store.HasAccessor id key)
    (hvalue : key = .ofString "length" → value.isObject = false) (strict : Bool) :
    WritesOnly id (set (.object id) key value strict) reentry site store := by
  by_cases hkey : key = .ofString "length"
  · refine settles_set (.refl id store) haccessor ?_ strict
    unfold Settles
    rw [addProperty_of_array harray, if_pos hkey]
    exact Settles.bind (writesOnly_setArrayLength (hvalue hkey)) (fun _ hafter => hafter)
      fun _ _ _ hafter => settles_pure hafter _
  · exact (assigns_set harray haccessor hkey strict).mono fun _ hafter => hafter.toWrites

theorem writesOnly_delete : WritesOnly id (delete id key) reentry site store := by
  unfold WritesOnly Settles delete
  rw [bind_of_finish store_eq, store.ownProperty?_idle]
  split
  · exact settles_pure (.refl id store) _
  · split
    · have hremoved : store.Writes id (store.modifyObject id fun object => object.remove key) :=
        store.writes_modifyObject id (Store.kind_remove _ _)
      exact Settles.bind (settles_modifyStore _ hremoved) (fun _ hafter => hafter)
        fun _ _ _ hafter => settles_pure hafter _
    · exact settles_pure (.refl id store) _

/-! ## Several elements -/

/-- Elements are assigned one behind the other. -/
theorem assigns_writeElements (values : List Value) (harray : (store.object id).kind = .array)
    (haccessor : ∀ place, ¬ store.HasAccessor id (.ofNat place)) (place : Nat) :
    Settles (store.Assigns id) (writeElements id place values) reentry site store := by
  induction values generalizing store place with
  | nil => exact settles_pure (.refl id store) _
  | cons value rest ih =>
      refine Settles.bind (assigns_set harray (haccessor place) (Key.ofNat_ne_length place) true)
        (fun _ hafter => hafter) fun _ after _ hafter => ?_
      -- the array is still one, and no accessor has come to light
      have hkept : ∀ place, ¬ after.HasAccessor id (.ofNat place) := fun place hfound =>
        haccessor place (hafter.hasAccessor harray hfound)
      exact (ih (hafter.kind_eq.trans harray) hkept (place + 1)).mono
        fun _ hlast => hafter.trans hlast

/-- A call of `push` changes the array only. -/
theorem writesOnly_arrayPush (values : List Value) (harray : (store.object id).kind = .array)
    (haccessor : ∀ place, ¬ store.HasAccessor id (.ofNat place))
    (hlength : ¬ store.HasAccessor id (.ofString "length"))
    (hnumber : ∀ value, getOf id (.ofString "length") reentry site store =
      .finish store (.ok value) → value.isObject = false) :
    WritesOnly id (arrayPush (.object id) values) reentry site store := by
  have hread : Reads (lengthOf id) reentry site store := by
    refine Reads.bind (reads_getOf hlength) rfl fun value hvalue => ?_
    refine Reads.bind (reads_toNumber (hnumber value hvalue)) rfl fun number _ => ?_
    dsimp only
    split
    · exact reads_pure _
    · split <;> exact reads_pure _
  have hobject : Reads (toObject (.object id)) reentry site store := reads_pure _
  refine Reads.bind hobject (.refl id store) fun object hvalue => ?_
  obtain rfl : id = object := by
    injection hvalue with _ hresult
    injection hresult
  refine Reads.bind hread (.refl id store) fun length _ => ?_
  refine Settles.bind (assigns_writeElements values harray haccessor length)
    (fun _ hafter => hafter.toWrites) fun _ after _ hafter => ?_
  have hkept : ¬ after.HasAccessor id (.ofString "length") := fun hfound =>
    hlength (hafter.hasAccessor harray hfound)
  have hwrites : WritesOnly id (writeLength id (length + values.length)) reentry site after :=
    writesOnly_set (hafter.kind_eq.trans harray) hkept (fun _ => rfl) true
  exact Settles.bind (hwrites.mono fun _ hlast => hafter.toWrites.trans hlast)
    (fun _ hlast => hlast) fun _ _ _ hlast => settles_pure hlast _

/-! ## Defining -/

section Describing

variable {description : ObjectId}
  (haccessor : ∀ name, ¬ store.HasAccessor description (.ofString name))

include haccessor

theorem reads_descriptionField? (name : String) :
    Reads (descriptionField? description name) reentry site store := by
  refine Reads.bind (Reads.bind (reads_look _) rfl fun _ _ => reads_pure _) rfl fun found _ => ?_
  cases found with
  | false => exact reads_pure _
  | true => exact Reads.bind (reads_getOf (haccessor name)) rfl fun _ _ => reads_pure _

theorem reads_accessorField (name : String) (old : Option ObjectId) :
    Reads (accessorField description name old) reentry site store := by
  refine Reads.bind (reads_descriptionField? haccessor name) rfl fun field _ => ?_
  have hcallable (value : Value) : Reads (isCallable value) reentry site store := by
    cases value with
    | object id =>
        have hobject : Reads (object id) reentry site store :=
          Reads.bind (reads_look _) rfl fun _ _ => reads_pure _
        exact Reads.bind hobject rfl fun _ _ => reads_pure _
    | _ => exact reads_pure _
  split
  · exact reads_pure _
  · exact reads_pure _
  · refine Reads.bind (hcallable _) rfl fun callable _ => ?_
    split
    · exact reads_pure _
    · exact reads_fail _ _

theorem reads_describedProperty (old : Option Property) :
    Reads (describedProperty description old) reentry site store := by
  have hfield (name : String) : Reads (descriptionField? description name) reentry site store :=
    reads_descriptionField? haccessor name
  refine Reads.bind (hfield "enumerable") rfl fun _ _ => ?_
  refine Reads.bind (hfield "configurable") rfl fun _ _ => ?_
  refine Reads.bind (hfield "value") rfl fun _ _ => ?_
  refine Reads.bind (hfield "writable") rfl fun _ _ => ?_
  refine Reads.bind (reads_accessorField haccessor "get" _) rfl fun _ _ => ?_
  refine Reads.bind (reads_accessorField haccessor "set" _) rfl fun _ _ => ?_
  exact reads_pure _

end Describing

/-- The definition of a property changes the object only, whatever the property becomes. -/
theorem writesOnly_defineDescribed {value : Value}
    (haccessor : ∀ description name, value = .object description →
      ¬ store.HasAccessor description (.ofString name)) :
    WritesOnly id (defineDescribed id key value) reentry site store := by
  unfold defineDescribed
  split
  · rename_i description
    refine Reads.bind (reads_look _) (.refl id store) fun _ _ => ?_
    refine Reads.bind (reads_describedProperty (fun name => haccessor description name rfl) _)
      (.refl id store) fun new _ => ?_
    split
    · exact settles_modifyStore _ (store.writes_putProperty id key new)
    · exact settles_failWith (.refl id store) _ _
  · exact settles_failWith (.refl id store) _ _

end Run

end ScriptShell.Language
