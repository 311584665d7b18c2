import ScriptShell.Language.Interpreter
import ScriptShell.Proofs.Language.Realms
import ScriptShell.Proofs.Language.Writing
import ScriptShell.Proofs.Session.Heap

/-!
# The objects of the interpreter

The interpreter keeps its objects as the shell takes for granted (`Language.lawful_heap`). Objects
are numbered as they are made, and the global object of a realm has a place in the row of its
intrinsics. A computation only lets the store grow (`Run.grows`), so that an object stays once it is
made.
-/

namespace ScriptShell.Language

/-! ## The evaluator -/

/-- The evaluator lets the store grow and is in step, as all that it is put together of is. -/
theorem evaluator_lawful (bound : Nat) : (evaluator bound).Lawful := by
  induction bound with
  | zero =>
      exact
        { call := fun _ _ _ _ _ => .exhausted
          construct := fun _ _ _ _ _ => .exhausted
          expression := fun _ _ _ => .exhausted
          statement := fun _ _ _ => .exhausted
          callInStep := fun _ _ _ _ _ _ _ => .limited trivial
          constructInStep := fun _ _ _ _ _ _ _ => .limited trivial
          expressionInStep := fun _ _ _ _ _ => .limited trivial
          statementInStep := fun _ _ _ _ _ => .limited trivial }
  | succ bound ih =>
      exact
        { call := fun site callee this arguments store =>
            (Run.callValue callee this arguments).grows ih site store
          construct := fun site callee arguments target store =>
            (Run.constructValue callee arguments target).grows ih site store
          expression := fun site expression store =>
            (Run.expressionValue expression).grows ih site store
          statement := fun site statement store => (Run.completion statement).grows ih site store
          callInStep := fun site callee this arguments _ _ hstore =>
            (Run.callValue callee this arguments).steady ih site hstore
          constructInStep := fun site callee arguments target _ _ hstore =>
            (Run.constructValue callee arguments target).steady ih site hstore
          expressionInStep := fun site expression _ _ hstore =>
            (Run.expressionValue expression).steady ih site hstore
          statementInStep := fun site statement _ _ hstore =>
            (Run.completion statement).steady ih site hstore }

/-! ## The heap -/

namespace Store

/-- The store with natives of the shell on the global object of a realm. -/
def installNatives (realm : Realm) (natives : List Native) (store : Store) : Store :=
  natives.foldl (fun store native => store.installNative realm native) store

/-- The value of a property that an object has of its own. -/
def ownValue? (id : ObjectId) (key : Key) (store : Store) : Option Value :=
  match store.ownProperty? id key with
  | some ⟨.data value _, _, _⟩ => some value
  | _ => none

end Store

/-- What script code does that writes to an object. -/
def Run.write (id : ObjectId) : Engine.Write Key Value → Run Value
  | .set key value => do
    set (.object id) key value true
    return value
  | .delete key => do
    return .boolean (← delete id key)
  | .define key description => do
    defineDescribed id key description
    return .object id
  | .push values => arrayPush (.object id) values

/-- The objects of the interpreter. -/
def heap : engine.Heap where
  Object := ObjectId
  Key := Key
  named := .ofString
  index := .index
  Made id store := id < Store.nextObject store
  global realm store := Store.intrinsic store realm .global
  IsArray id store := (Store.object store id).kind = .array
  own? := Store.ownValue?
  -- numbers that are too large for an index are kept as texts
  Active id key store := Store.HasAccessor store id key ∨
    ∃ place, key = .index place ∧ Store.HasAccessor store id (.ofNat place)
  ofObject := .object
  ofWide := .text
  registerNatives realm natives store := (Store.installNatives realm natives store, .ok ())
  arrayOf realm values store := Store.newArray store realm (values.map some)
  registerArguments realm value store :=
    (Store.putProperty store (Store.intrinsic store realm .global) (.ofString "arguments")
      (.plain value), .ok ())
  get realm id key store := (Run.getOf id key).actIn realm store
  write realm id write store := (Run.write id write).actIn realm store

namespace Store

variable {store after : Store} {id : ObjectId}

theorem GrowsTo.extends (h : store.GrowsTo after) : heap.Extends store after where
  made hmade := Nat.lt_of_lt_of_le hmade h.nextObject_le
  global_eq realm := congrArg (· + Intrinsic.global.place) (h.base_eq realm)

theorem same_of_object_eq (h : after.object id = store.object id) : heap.Same id store after where
  own?_eq key := by
    show ownValue? id key after = ownValue? id key store
    unfold ownValue? ownProperty?
    rw [h]
  isArray_iff := by
    show (after.object id).kind = .array ↔ (store.object id).kind = .array
    rw [h]

theorem ChangesOnly.changesOnly (h : store.ChangesOnly id after) :
    heap.ChangesOnly id store after where
  made hmade := Nat.lt_of_lt_of_eq hmade h.nextObject_eq.symm
  global_eq realm := congrArg (· + Intrinsic.global.place) (h.base_eq realm)
  same _ hne := same_of_object_eq (h.object_eq hne)

/-- A new object is none of those that there are. -/
theorem same_allocate (store : Store) (object : Object) {other : ObjectId}
    (hmade : other < store.nextObject) : heap.Same other store (store.allocate object).2 :=
  same_of_object_eq (store.object_setObject_of_ne (Nat.ne_of_lt hmade) object)

theorem extends_allocate (store : Store) (object : Object) :
    heap.Extends store (store.allocate object).2 :=
  GrowsTo.extends ⟨Nat.le_succ _, fun _ => rfl⟩

/-- Natives are new objects, with their names on the global object. -/
theorem changesOnly_installNatives (realm : Realm) (natives : List Native) (store : Store) :
    heap.ChangesOnly (store.intrinsic realm .global) store
      (store.installNatives realm natives) := by
  have hone (store : Store) (native : Native) :
      heap.ChangesOnly (store.intrinsic realm .global) store
        (store.installNative realm native) := by
    have hmade : heap.ChangesOnly (store.intrinsic realm .global) store
        (store.newFunction realm (.host native realm) (WideText.ofString native.name)
          native.arity).2 :=
      ⟨store.extends_allocate _, fun hother _ => store.same_allocate _ hother⟩
    exact hmade.trans (writes_putProperty _ _ _ _).toChangesOnly.changesOnly
  unfold installNatives
  induction natives generalizing store with
  | nil => exact @Engine.Heap.ChangesOnly.refl engine heap _ store
  | cons native rest ih =>
      have hrest := ih (store.installNative realm native)
      have hglobal : (store.installNative realm native).intrinsic realm .global =
          store.intrinsic realm .global := rfl
      rw [hglobal] at hrest
      exact (hone store native).trans hrest

theorem makesRealm_createRealm (realm : Realm) (store : Store) :
    heap.MakesRealm realm store (store.createRealm realm) := by
  have hplace : Intrinsic.global.place < Intrinsic.count := by decide
  have hnext := nextObject_le_createRealm realm store
  have hglobal : heap.global realm (store.createRealm realm) =
      store.nextObject + Intrinsic.global.place := global_createRealm_self realm store
  refine ⟨fun hmade => ?_, ⟨?_, ?_⟩, fun hne => ?_, fun hmade => ?_⟩
  · exact Nat.lt_of_lt_of_le hmade (Nat.le_trans (Nat.le_add_right _ _) hnext)
  · rw [hglobal]
    exact Nat.not_lt.mpr (Nat.le_add_right _ _)
  · rw [hglobal]
    exact Nat.lt_of_lt_of_le (Nat.add_lt_add_left hplace _) hnext
  · exact congrArg (· + Intrinsic.global.place) (base_createRealm_of_ne realm store hne)
  · exact same_of_object_eq (object_createRealm realm store hmade)

/-- What is used up is no object. -/
theorem makesRealm_usedAs {realm : Realm} {changed : Store}
    (h : heap.MakesRealm realm store.idle changed) :
    heap.MakesRealm realm store (changed.usedAs store) where
  made hmade := h.made hmade
  makes := ⟨h.makes.fresh, h.makes.made⟩
  global_eq hne := h.global_eq hne
  same hmade := ⟨(h.same hmade).own?_eq, (h.same hmade).isArray_iff⟩

theorem ownValue?_newArray_length (realm : Realm) (values : List Value) :
    (store.newArray realm (values.map some)).2.ownValue? store.nextObject (.ofString "length") =
      some (.ofNat values.length) := by
  have hkind : ((store.newArray realm (values.map some)).2.object store.nextObject).kind =
      .array := by
    rw [newArray, object_allocate_self]
  unfold ownValue?
  rw [ownProperty?_of_isArray hkind, newArray, object_allocate_self, Key.ofString_length]
  simp [Object.property?, Object.findNamed]

theorem ownValue?_newArray_index (realm : Realm) (values : List Value) (index : Nat) :
    (store.newArray realm (values.map some)).2.ownValue? store.nextObject (.index index) =
      values[index]? := by
  have hkind : ((store.newArray realm (values.map some)).2.object store.nextObject).kind =
      .array := by
    rw [newArray, object_allocate_self]
  unfold ownValue?
  rw [ownProperty?_of_isArray hkind, property?_newArray_index]
  cases values[index]? <;> rfl

theorem ownValue?_arguments (store : Store) (id : ObjectId) (value : Value) :
    (store.putProperty id (.ofString "arguments") (.plain value)).ownValue? id
      (.ofString "arguments") = some value := by
  have hkey : Key.ofString "arguments" = .text (WideText.ofString "arguments") := by decide
  unfold ownValue?
  rw [hkey, ownProperty?_text, property?_putProperty_self]
  rfl

theorem ownProperty?_of_ownValue? {key : Key} {value : Value}
    (hown : store.ownValue? id key = some value) : ∃ writable enumerable configurable,
      store.ownProperty? id key = some ⟨.data value writable, enumerable, configurable⟩ := by
  unfold ownValue? at hown
  split at hown
  · cases hown
    exact ⟨_, _, _, ‹_›⟩
  · cases hown

theorem makesArray_newArray (realm : Realm) (values : List Value) (store : Store) :
    heap.MakesArray values (store.newArray realm (values.map some)).1 store
      (store.newArray realm (values.map some)).2 where
  toExtends := store.extends_allocate _
  makes := ⟨Nat.lt_irrefl _, Nat.lt_succ_self _⟩
  same := store.same_allocate _
  isArray := by
    show ((store.allocate _).2.object store.nextObject).kind = .array
    rw [object_allocate_self]
  length_eq := ownValue?_newArray_length realm values
  element_eq index := ownValue?_newArray_index realm values index

end Store

/-! ## What holds of it -/

theorem Run.actIn_grows {α : Type} (realm : Realm) (action : Run α) (store : Store) :
    Behaviour.Grows heap.Extends store (action.actIn realm store) :=
  (action.grows (evaluator_lawful Run.patience) _ store).mono
    fun hleads => hleads.toGrowsTo.extends

/-- That no bound is reached yet makes no object. -/
theorem grows_of_unlimited {α : Type} {store : Store} {act : Act α}
    (h : Behaviour.Grows heap.Extends store.unlimited act) :
    Behaviour.Grows heap.Extends store act := by
  cases h with
  | finish result hgrows => exact .finish result ⟨hgrows.made, hgrows.global_eq⟩
  | native hgrows hresume => exact .native ⟨hgrows.made, hgrows.global_eq⟩ hresume
  | enqueue hgrows hresume => exact .enqueue ⟨hgrows.made, hgrows.global_eq⟩ hresume
  | exhausted => exact .exhausted

/-- A write to an array that meets no accessor and converts no object changes the array only. -/
theorem Run.writesOnly_write {store : Store} {id : ObjectId} {write : Engine.Write Key Value}
    (harray : (store.object id).kind = .array) (hsilent : heap.Silent id store write)
    (realm : Realm) : ∃ after result,
      (Run.write id write).actIn realm store = .finish after result ∧ store.Writes id after := by
  show Settles (store.Writes id) (Run.write id write) _ _ _
  cases write with
  | set key value =>
      obtain ⟨hactive, hvalue⟩ := hsilent
      exact Settles.bind
        (writesOnly_set harray (fun hfound => hactive (.inl hfound)) hvalue true)
        (fun _ hafter => hafter) fun _ _ _ hafter => settles_look hafter _
  | delete key =>
      exact Settles.bind writesOnly_delete (fun _ hafter => hafter)
        fun _ _ _ hafter => settles_look hafter _
  | define key description =>
      have haccessor (object : ObjectId) (name : String) (hobject : description = .object object) :
          ¬ store.HasAccessor object (.ofString name) := fun hfound =>
        (hsilent object hobject).1 name (.inl hfound)
      exact Settles.bind (writesOnly_defineDescribed haccessor) (fun _ hafter => hafter)
        fun _ _ _ hafter => settles_look hafter _
  | push values =>
      obtain ⟨helement, hlength, hnumber⟩ := hsilent
      exact writesOnly_arrayPush values harray
        (fun place hfound => helement place (.inr ⟨place, rfl, hfound⟩))
        (fun hfound => hlength (.inl hfound)) fun value hread => hnumber realm value hread

theorem lawful_heap : heap.Lawful where
  ofText_eq _ := rfl
  toText_ofWide _ _ _ := rfl
  install_eq realm natives texts store := by
    have hnatives : heap.registerNatives realm natives store =
        (Store.installNatives realm natives store, .ok ()) := rfl
    have htexts : (texts.map fun text => some (Value.ofString text)) =
        (texts.map Value.ofString).map some := by
      rw [List.map_map]
      rfl
    rw [Engine.Heap.furnish_of_ok hnatives rfl]
    show (Store.install realm natives texts store, Except.ok ()) = _
    unfold Store.install
    rw [htexts]
    rfl
  createRealm {realm store after} hmade := by
    obtain rfl : Store.unloaded (Store.createRealm realm) store = after := Except.ok.inj hmade
    exact Store.makesRealm_usedAs (Store.makesRealm_createRealm realm _)
  registerNatives := Store.changesOnly_installNatives
  arrayOf := Store.makesArray_newArray
  registerArguments_changesOnly realm value store :=
    (Store.writes_putProperty store _ _ _).toChangesOnly.changesOnly
  registerArguments_own? {realm value store after} hbound := by
    obtain rfl : Store.putProperty store (Store.intrinsic store realm .global)
        (.ofString "arguments") (.plain value) = after := by
      injection hbound
    exact Store.ownValue?_arguments store _ value
  get_own? {object key store value} hown realm := by
    obtain ⟨writable, enumerable, configurable, hproperty⟩ := Store.ownProperty?_of_ownValue? hown
    exact Run.getOf_of_data (Store.property?_of_own hproperty)
  write harray hsilent realm := by
    obtain ⟨after, result, hwrite, hafter⟩ := Run.writesOnly_write harray hsilent realm
    exact ⟨after, result, hwrite, hafter.toChangesOnly.changesOnly, hafter.kind_eq.trans harray⟩
  evaluate realm code store := grows_of_unlimited (Run.actIn_grows realm (Run.runScript code) _)
  runJob realm job store := grows_of_unlimited (Run.actIn_grows realm (Run.runJob job) _)
  toText realm value store := Run.actIn_grows realm (do return (← Run.toText value).escaped) store
  toNumber realm value store :=
    Run.actIn_grows realm (do return Numeric.ofFloat (← Run.toNumber value)) store
  stack realm value store := Run.actIn_grows realm (Run.getNamed value "stack") store
  thrown realm fault store := (Run.growsTo_valueOf? fault realm store).extends

end ScriptShell.Language
