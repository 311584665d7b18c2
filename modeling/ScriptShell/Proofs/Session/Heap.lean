import ScriptShell.Engine
import ScriptShell.Text.Wide

/-!
# The objects of an engine

The shell makes an array for the arguments of an environment, and scripts read and write it. What
objects, properties and arrays are is a matter of the engine: `Engine.Heap` names the operations
that the shell and its scripts use, and `Engine.Heap.Lawful` gathers what is documented of them. A
new object is none that there was, a write to one object leaves all others as they are, and a string
of the engine is the sequence of 16-bit units of a text.

## Main results

* `Engine.Heap.Lawful.holds_furnish`: what a new realm is furnished with, step by step, leaves it
  with the array of its arguments.
* `Engine.Heap.Written.changesOnly`: no writes to an array change another object.
-/

namespace ScriptShell

/-- A write to an object. -/
inductive Engine.Write (Key Value : Type) where
  /-- An assignment to a property, such as `array[0] = value` and `array.length = value`. -/
  | set (key : Key) (value : Value)
  /-- The removal of a property. -/
  | delete (key : Key)
  /-- `Object.defineProperty` with a property descriptor. -/
  | define (key : Key) (description : Value)
  /-- A call of the method `push`. -/
  | push (values : List Value)

/-- How an engine keeps its objects. -/
structure Engine.Heap (engine : Engine) where
  Object : Type
  /-- What properties are found under. -/
  Key : Type
  /-- The key of a name. -/
  named : String → Key
  /-- The key of an element. -/
  index : Nat → Key
  /-- An object was made so far. -/
  Made : Object → engine.Store → Prop
  /-- The global object of a realm. -/
  global : Realm → engine.Store → Object
  IsArray : Object → engine.Store → Prop
  /-- The value that an object has of its own under a key. -/
  own? : Object → Key → engine.Store → Option engine.Value
  /-- What is found under a key of an object is an accessor or a trap, so that reading or assigning
  it runs script code. -/
  Active : Object → Key → engine.Store → Prop
  ofObject : Object → engine.Value
  /-- The string of 16-bit units. -/
  ofWide : WideText → engine.Value
  /-- Binds natives under their names in a realm. -/
  registerNatives : Realm → List Native → engine.Store → engine.Store × Except engine.Fault Unit
  /-- A new array of values. -/
  arrayOf : Realm → List engine.Value → engine.Store → Object × engine.Store
  /-- Puts a value under the name `arguments` of the global object of a realm. -/
  registerArguments : Realm → engine.Value → engine.Store →
    engine.Store × Except engine.Fault Unit
  /-- What script code does that reads a property. -/
  get : Realm → Object → Key → engine.Store → engine.Acts engine.Value
  /-- What script code does that writes to an object. -/
  write : Realm → Object → Write Key engine.Value → engine.Store → engine.Acts engine.Value

namespace Engine.Heap

variable {engine : Engine}

section Definitions

variable (heap : engine.Heap)

/-! ## Stores -/

/-- Objects that were made stay, and realms keep their global objects. -/
structure Extends (store after : engine.Store) : Prop where
  made {object : heap.Object} (hmade : heap.Made object store) : heap.Made object after
  global_eq (realm : Realm) : heap.global realm after = heap.global realm store

/-- An object is made. -/
structure Makes (object : heap.Object) (store after : engine.Store) : Prop where
  fresh : ¬ heap.Made object store
  made : heap.Made object after

/-- An object is left as it was. -/
structure Same (object : heap.Object) (store after : engine.Store) : Prop where
  own?_eq (key : heap.Key) : heap.own? object key after = heap.own? object key store
  isArray_iff : heap.IsArray object after ↔ heap.IsArray object store

/-- Of all objects that were made only one is changed. -/
structure ChangesOnly (object : heap.Object) (store after : engine.Store) : Prop
    extends heap.Extends store after where
  same {other : heap.Object} (hmade : heap.Made other store) (hne : other ≠ object) :
    heap.Same other store after

/-- A realm is made, and no object is changed. -/
structure MakesRealm (realm : Realm) (store after : engine.Store) : Prop where
  made {object : heap.Object} (hmade : heap.Made object store) : heap.Made object after
  makes : heap.Makes (heap.global realm after) store after
  global_eq {other : Realm} (hne : other ≠ realm) :
    heap.global other after = heap.global other store
  same {object : heap.Object} (hmade : heap.Made object store) : heap.Same object store after

/-- An array of values is made, and no object is changed. -/
structure MakesArray (values : List engine.Value) (array : heap.Object)
    (store after : engine.Store) : Prop extends heap.Extends store after where
  makes : heap.Makes array store after
  same {object : heap.Object} (hmade : heap.Made object store) : heap.Same object store after
  isArray : heap.IsArray array after
  length_eq : heap.own? array (heap.named "length") after =
    some (engine.ofNumber (Float.ofNat values.length))
  element_eq (index : Nat) : heap.own? array (heap.index index) after = values[index]?

/-! ## Writes -/

/-- A write runs no script code: it meets no accessor, and it converts no object to a number. -/
def Silent (array : heap.Object) (store : engine.Store) :
    Write heap.Key engine.Value → Prop
  | .set key value =>
    ¬ heap.Active array key store ∧ (key = heap.named "length" → engine.isObject value = false)
  | .delete _ => True
  | .define key description =>
    ∀ object, description = heap.ofObject object →
      (∀ name, ¬ heap.Active object (heap.named name) store) ∧
      (key = heap.named "length" → ∀ realm value,
        heap.get realm object (heap.named "value") store = .finish store (.ok value) →
          engine.isObject value = false)
  | .push _ =>
    (∀ index, ¬ heap.Active array (heap.index index) store) ∧
      ¬ heap.Active array (heap.named "length") store ∧
      ∀ realm length,
        heap.get realm array (heap.named "length") store = .finish store (.ok length) →
          engine.isObject length = false

/-- Writes to an object, one after the other. -/
inductive Written (object : heap.Object) : engine.Store → engine.Store → Prop
  | done {store : engine.Store} : Written object store store
  | write {store middle after : engine.Store} (realm : Realm) (write : Write heap.Key engine.Value)
      {result : Except engine.Fault engine.Value} (hsilent : heap.Silent object store write)
      (hwrite : heap.write realm object write store = .finish middle result)
      (hrest : Written object middle after) : Written object store after

/-! ## The arguments of a realm -/

/-- Furnishes a new realm: natives are bound, an array of strings is made, and the array becomes the
global `arguments`. -/
def furnish (realm : Realm) (natives : List Native) (texts : List String) (store : engine.Store) :
    engine.Store × Except engine.Fault Unit :=
  match heap.registerNatives realm natives store with
  | (store, .error fault) => (store, .error fault)
  | (store, .ok ()) =>
    let (array, store) :=
      heap.arrayOf realm (texts.map fun text => heap.ofWide (.ofString text)) store
    heap.registerArguments realm (heap.ofObject array) store

/-- The global `arguments` of a realm is an array of some texts. -/
structure Holds (realm : Realm) (array : heap.Object) (texts : List String)
    (store : engine.Store) : Prop where
  named : heap.own? (heap.global realm store) (heap.named "arguments") store =
    some (heap.ofObject array)
  isArray : heap.IsArray array store
  length_eq : heap.own? array (heap.named "length") store =
    some (engine.ofNumber (Float.ofNat texts.length))
  element_eq (index : Nat) : heap.own? array (heap.index index) store =
    texts[index]?.map fun text => heap.ofWide (.ofString text)

/-! ## What is documented -/

/-- What the operations of an engine do with its objects, as far as the shell relies on it. -/
structure Lawful : Prop where
  /-- The string of a text is made of its 16-bit units. -/
  ofText_eq (text : String) : engine.ofText text = heap.ofWide (.ofString text)
  /-- A string is converted to a text unit by unit, with lone surrogates escaped. -/
  toText_ofWide (realm : Realm) (wide : WideText) (store : engine.Store) :
    engine.toText realm (heap.ofWide wide) store = .finish store (.ok wide.escaped)
  install_eq (realm : Realm) (natives : List Native) (texts : List String)
    (store : engine.Store) :
    engine.install realm natives texts store = heap.furnish realm natives texts store
  createRealm {realm : Realm} {store after : engine.Store}
    (hmade : engine.createRealm realm store = .ok after) : heap.MakesRealm realm store after
  registerNatives (realm : Realm) (natives : List Native) (store : engine.Store) :
    heap.ChangesOnly (heap.global realm store) store
      (heap.registerNatives realm natives store).1
  arrayOf (realm : Realm) (values : List engine.Value) (store : engine.Store) :
    heap.MakesArray values (heap.arrayOf realm values store).1 store
      (heap.arrayOf realm values store).2
  registerArguments_changesOnly (realm : Realm) (value : engine.Value) (store : engine.Store) :
    heap.ChangesOnly (heap.global realm store) store (heap.registerArguments realm value store).1
  registerArguments_own? {realm : Realm} {value : engine.Value} {store after : engine.Store}
    (hbound : heap.registerArguments realm value store = (after, .ok ())) :
    heap.own? (heap.global realm store) (heap.named "arguments") after = some value
  /-- A property that an object has of its own is read without script code. -/
  get_own? {object : heap.Object} {key : heap.Key} {store : engine.Store} {value : engine.Value}
    (hown : heap.own? object key store = some value) (realm : Realm) :
    heap.get realm object key store = .finish store (.ok value)
  /-- A write to an array that runs no script code changes the array only. -/
  write {array : heap.Object} {store : engine.Store} {write : Write heap.Key engine.Value}
    (harray : heap.IsArray array store) (hsilent : heap.Silent array store write)
    (realm : Realm) : ∃ after result,
      heap.write realm array write store = .finish after result ∧
      heap.ChangesOnly array store after ∧ heap.IsArray array after
  evaluate (realm : Realm) (code : engine.Code) (store : engine.Store) :
    (engine.evaluate realm code store).Grows heap.Extends store
  runJob (realm : Realm) (job : engine.Job) (store : engine.Store) :
    (engine.runJob realm job store).Grows heap.Extends store
  toText (realm : Realm) (value : engine.Value) (store : engine.Store) :
    (engine.toText realm value store).Grows heap.Extends store
  toNumber (realm : Realm) (value : engine.Value) (store : engine.Store) :
    (engine.toNumber realm value store).Grows heap.Extends store
  stack (realm : Realm) (value : engine.Value) (store : engine.Store) :
    (engine.stack realm value store).Grows heap.Extends store
  thrown (realm : Realm) (fault : engine.Fault) (store : engine.Store) :
    heap.Extends store (engine.thrown realm fault store).2

end Definitions

variable {heap : engine.Heap} {object array : heap.Object} {store middle after : engine.Store}
  {realm : Realm} {texts : List String}

/-! ## Objects that are left as they were -/

theorem Extends.refl (store : engine.Store) : heap.Extends store store :=
  ⟨id, fun _ => rfl⟩

theorem Extends.trans (hfirst : heap.Extends store middle) (hsecond : heap.Extends middle after) :
    heap.Extends store after where
  made hmade := hsecond.made (hfirst.made hmade)
  global_eq realm := (hsecond.global_eq realm).trans (hfirst.global_eq realm)

/-- What is made behind one store and is there in another one is not there before. -/
theorem Makes.ne (hmakes : heap.Makes object store after) (hmade : heap.Made array store) :
    object ≠ array := by
  rintro rfl
  exact hmakes.fresh hmade

theorem Same.refl (object : heap.Object) (store : engine.Store) :
    heap.Same object store store :=
  ⟨fun _ => rfl, Iff.rfl⟩

theorem Same.trans (hfirst : heap.Same object store middle)
    (hsecond : heap.Same object middle after) : heap.Same object store after where
  own?_eq key := (hsecond.own?_eq key).trans (hfirst.own?_eq key)
  isArray_iff := hsecond.isArray_iff.trans hfirst.isArray_iff

theorem ChangesOnly.refl (object : heap.Object) (store : engine.Store) :
    heap.ChangesOnly object store store :=
  ⟨.refl store, fun _ _ => .refl _ store⟩

theorem ChangesOnly.trans (hfirst : heap.ChangesOnly object store middle)
    (hsecond : heap.ChangesOnly object middle after) : heap.ChangesOnly object store after where
  toExtends := hfirst.toExtends.trans hsecond.toExtends
  same hmade hne := (hfirst.same hmade hne).trans (hsecond.same (hfirst.made hmade) hne)

/-- As long as neither the global object nor the array changes, a realm holds what it held. -/
theorem Holds.of_same (h : heap.Holds realm array texts store)
    (hrealm : heap.global realm after = heap.global realm store)
    (hglobal : heap.Same (heap.global realm store) store after)
    (harray : heap.Same array store after) : heap.Holds realm array texts after where
  named := by
    rw [hrealm, hglobal.own?_eq]
    exact h.named
  isArray := harray.isArray_iff.mpr h.isArray
  length_eq := (harray.own?_eq _).trans h.length_eq
  element_eq index := (harray.own?_eq _).trans (h.element_eq index)

/-! ## Writes to an array -/

/-- Whatever is written to an array, no other object is changed. -/
theorem Written.changesOnly (lawful : heap.Lawful) (hwritten : heap.Written array store after)
    (harray : heap.IsArray array store) : heap.ChangesOnly array store after := by
  induction hwritten with
  | done => exact .refl array _
  | write realm write hsilent hwrite _ ih =>
      obtain ⟨middle, result, hfinish, hchanges, hmiddle⟩ := lawful.write harray hsilent realm
      -- the write ends where the law says
      rw [hwrite] at hfinish
      cases hfinish
      exact hchanges.trans (ih hmiddle)

/-! ## New realms -/

section Furnish

variable {natives : List Native}

theorem furnish_of_error {natived : engine.Store} {fault : engine.Fault}
    (hnatives : heap.registerNatives realm natives store = (natived, .error fault)) :
    heap.furnish realm natives texts store = (natived, .error fault) := by
  unfold furnish
  rw [hnatives]

theorem furnish_of_ok {natived made : engine.Store}
    (hnatives : heap.registerNatives realm natives store = (natived, .ok ()))
    (harray : heap.arrayOf realm (texts.map fun text => heap.ofWide (.ofString text)) natived =
      (array, made)) :
    heap.furnish realm natives texts store =
      heap.registerArguments realm (heap.ofObject array) made := by
  simp only [furnish, hnatives, harray]

variable (lawful : heap.Lawful) (realm : Realm) (natives : List Native) (texts : List String)
include lawful

/-- Of the objects that there are, furnishing a realm changes its global object only. -/
theorem Lawful.changesOnly_furnish (store : engine.Store) :
    heap.ChangesOnly (heap.global realm store) store
      (heap.furnish realm natives texts store).1 := by
  have hnatives := lawful.registerNatives realm natives store
  rcases hbound : heap.registerNatives realm natives store with ⟨natived, fault | ⟨⟩⟩
  · rw [hbound] at hnatives
    rw [furnish_of_error hbound]
    exact hnatives
  · rw [hbound] at hnatives
    have hmade := lawful.arrayOf realm (texts.map fun text => heap.ofWide (.ofString text)) natived
    rcases harray : heap.arrayOf realm (texts.map fun text => heap.ofWide (.ofString text)) natived
      with ⟨array, made⟩
    rw [harray] at hmade
    have hglobal : heap.global realm made = heap.global realm store :=
      (hmade.global_eq realm).trans (hnatives.global_eq realm)
    have hnamed := lawful.registerArguments_changesOnly realm (heap.ofObject array) made
    rw [hglobal] at hnamed
    have hkept : heap.ChangesOnly (heap.global realm store) natived made :=
      ⟨hmade.toExtends, fun hother _ => hmade.same hother⟩
    rw [furnish_of_ok hbound harray]
    exact (hnatives.trans hkept).trans hnamed

/-- A realm that is furnished holds its arguments in an array that is new. -/
theorem Lawful.holds_furnish {store after : engine.Store}
    (hglobal : heap.Made (heap.global realm store) store)
    (hfurnish : heap.furnish realm natives texts store = (after, .ok ())) :
    ∃ array, heap.Makes array store after ∧ heap.Holds realm array texts after := by
  have hnatives := lawful.registerNatives realm natives store
  rcases hbound : heap.registerNatives realm natives store with ⟨natived, fault | ⟨⟩⟩
  · rw [furnish_of_error hbound] at hfurnish
    cases hfurnish
  · rw [hbound] at hnatives
    have hmade := lawful.arrayOf realm (texts.map fun text => heap.ofWide (.ofString text)) natived
    rcases harray : heap.arrayOf realm (texts.map fun text => heap.ofWide (.ofString text)) natived
      with ⟨array, made⟩
    rw [harray] at hmade
    rw [furnish_of_ok hbound harray] at hfurnish
    have hnamed := lawful.registerArguments_changesOnly realm (heap.ofObject array) made
    rw [hfurnish] at hnamed
    -- the array is made after the global object, so that giving it its name leaves it alone
    have hthere : heap.Made (heap.global realm made) natived := by
      rw [hmade.global_eq, hnatives.global_eq]
      exact hnatives.made hglobal
    have hsame : heap.Same array made after :=
      hnamed.same hmade.makes.made (hmade.makes.ne hthere)
    have hfresh : ¬ heap.Made array store := fun hold => hmade.makes.fresh (hnatives.made hold)
    refine ⟨array, ⟨hfresh, hnamed.made hmade.makes.made⟩, ?_, ?_, ?_, fun index => ?_⟩
    · rw [hnamed.global_eq]
      exact lawful.registerArguments_own? hfurnish
    · exact hsame.isArray_iff.mpr hmade.isArray
    · rw [hsame.own?_eq, hmade.length_eq, List.length_map]
    · rw [hsame.own?_eq, hmade.element_eq, List.getElem?_map]

end Furnish

end Engine.Heap

end ScriptShell
