import Mathlib.Data.List.Forall2
import Mathlib.Data.Set.Insert
import ScriptShell.Engine

/-!
# Engines that keep realms apart

The state of an engine is divided into parts, one for each realm. A territory is a set of realms,
and two states are alike within a territory if everything that can be reached from its realms lies
in their parts and has the same shape in both, whatever the objects are called: which object of one
state is which of the other is a matter of a renaming. Values, errors and jobs correspond under a
renaming as well.

`Engine.Isolates` is what is assumed of an engine: code that runs in a realm reaches nothing but
what can be reached from that realm, from the natives and from what it is given. Begun in two states
that are alike within a territory it goes through the same calls and jobs, leaves all that is
outside of the territory as it was, and hands out only what corresponds. Objects that are made
extend the renaming, and what the shell gives the code in answer may enlarge the territory
(`Engine.Division.InStep`).
-/

namespace ScriptShell

/-! ## Territories -/

/-- A territory with the realms that were made from one number up to another. -/
def grown (territory : Set Realm) (first last : Nat) : Set Realm :=
  {realm : Nat | realm ∈ territory ∨ first ≤ realm ∧ realm < last}

section Grown

variable {territory : Set Realm} {first middle last : Nat}

theorem mem_grown {realm : Nat} :
    realm ∈ grown territory first last ↔ realm ∈ territory ∨ first ≤ realm ∧ realm < last :=
  Iff.rfl

theorem subset_grown : territory ⊆ grown territory first last :=
  fun _ hrealm => .inl hrealm

@[simp] theorem grown_self : grown territory first first = territory := by
  ext realm
  rw [mem_grown, or_iff_left]
  intro hbetween
  exact absurd hbetween.1 (Nat.not_le_of_lt hbetween.2)

theorem grown_grown (hfirst : first ≤ middle) (hlast : middle ≤ last) :
    grown (grown territory first middle) middle last = grown territory first last := by
  ext realm
  rw [mem_grown, mem_grown, mem_grown, or_assoc]
  have hbetween (realm : Nat) : first ≤ realm ∧ realm < middle ∨ middle ≤ realm ∧ realm < last ↔
      first ≤ realm ∧ realm < last := by omega
  rw [hbetween realm]

theorem grown_eq_union :
    grown territory first last = territory ∪ grown ∅ first last := by
  ext realm
  simp [mem_grown]

theorem grown_succ : grown territory first (first + 1) = territory ∪ {first} := by
  ext realm
  have hbetween (realm : Nat) : first ≤ realm ∧ realm < first + 1 ↔ realm = first := by omega
  rw [mem_grown, hbetween realm]
  rfl

end Grown

/-! ## Extents -/

/-- A territory, and which of its objects in one state is which in another. -/
structure Extent (Naming : Type) where
  naming : Naming
  territory : Set Realm

namespace Extent

variable {Naming : Type}

/-- Behind an action the renaming may have been extended, and the realms that were made belong to
the territory. -/
def grownTo (extent : Extent Naming) (naming : Naming) (first last : Nat) :
    Extent Naming :=
  ⟨naming, grown extent.territory first last⟩

/-- The same territory under another renaming. -/
def under (extent : Extent Naming) (naming : Naming) : Extent Naming :=
  ⟨naming, extent.territory⟩

@[simp] theorem grownTo_self (extent : Extent Naming) (naming : Naming) (number : Nat) :
    extent.grownTo naming number number = extent.under naming := by
  rw [grownTo, grown_self, under]

@[simp] theorem under_self (extent : Extent Naming) :
    extent.under extent.naming = extent :=
  rfl

theorem grownTo_grownTo {first middle last : Nat} (extent : Extent Naming)
    (naming greater : Naming) (hfirst : first ≤ middle) (hlast : middle ≤ last) :
    (extent.grownTo naming first middle).grownTo greater middle last =
      extent.grownTo greater first last := by
  unfold grownTo
  rw [grown_grown hfirst hlast]

/-- An extent goes as far as another one if nothing is renamed in another way and no realm is
left out. -/
instance [Preorder Naming] : Preorder (Extent Naming) where
  le extent greater := extent.naming ≤ greater.naming ∧ extent.territory ⊆ greater.territory
  le_refl extent := ⟨le_rfl, Set.Subset.refl _⟩
  le_trans _ _ _ hfirst hsecond := ⟨hfirst.1.trans hsecond.1, hfirst.2.trans hsecond.2⟩

variable [Preorder Naming] {extent greater : Extent Naming} {naming : Naming}

theorem le_under (hnaming : extent.naming ≤ naming) : extent ≤ extent.under naming :=
  ⟨hnaming, Set.Subset.refl _⟩

theorem le_grownTo {first last : Nat} (hnaming : extent.naming ≤ naming) :
    extent ≤ extent.grownTo naming first last :=
  ⟨hnaming, subset_grown⟩

theorem mem_of_le (hgreater : extent ≤ greater) {realm : Realm}
    (hrealm : realm ∈ extent.territory) : realm ∈ greater.territory :=
  hgreater.2 hrealm

end Extent

/-! ## Divisions -/

/-- How the state of an engine is divided among realms, and what corresponds in two states. -/
structure Engine.Division (engine : Engine) where
  /-- The objects of one realm. -/
  Part : Type
  part : engine.Store → Realm → Part
  /-- The calls in progress. They belong to no realm. -/
  Calls : Type
  calls : engine.Store → Calls
  /-- Which object of one state is which of another. -/
  Naming : Type
  /-- One renaming extends another. -/
  order : Preorder Naming
  /-- Everything that can be reached from the realms of the territory lies in one of them and is the
  same in both states but for the names of objects. -/
  Alike : Extent Naming → engine.Store → engine.Store → Prop
  /-- Two values are the same, or objects of the territory that correspond. -/
  Value : Extent Naming → engine.Value → engine.Value → Prop
  Fault : Extent Naming → engine.Fault → engine.Fault → Prop
  Job : Extent Naming → engine.Job → engine.Job → Prop

attribute [instance] Engine.Division.order

/-- What does not refer to objects corresponds if it is the same. -/
def plain {Naming α : Type} (_ : Extent Naming) (value other : α) : Prop :=
  other = value

namespace Engine.Division

variable {engine : Engine} {α : Type} (division : engine.Division)

/-- The extents of a division. -/
abbrev Reach : Type :=
  Extent division.Naming

/-- What is outside of a territory was left as it was. -/
def Untouched (territory : Set Realm) (store after : engine.Store) : Prop :=
  ∀ realm ∉ territory, division.part after realm = division.part store realm

/-- Two states changed in the same way, and within a territory alone. The renaming is extended by
the objects that were made. -/
structure Step (extent : division.Reach) (naming : division.Naming)
    (store other after behind : engine.Store) : Prop where
  le : extent.naming ≤ naming
  alike : division.Alike (extent.under naming) after behind
  untouched : division.Untouched extent.territory store after
  untouched_other : division.Untouched extent.territory other behind

/-- Two states changed in the same way, and no more calls are in progress than were. -/
structure Return (extent : division.Reach) (naming : division.Naming)
    (store other after behind : engine.Store) : Prop
    extends division.Step extent naming store other after behind where
  calls_eq : division.calls after = division.calls store

/-- Two results that correspond, or two errors that do. -/
inductive Result (rel : division.Reach → α → α → Prop) (extent : division.Reach) :
    Except engine.Fault α → Except engine.Fault α → Prop
  | ok {value other : α} (hvalue : rel extent value other) :
      Result rel extent (.ok value) (.ok other)
  | error {fault other : engine.Fault} (hfault : division.Fault extent fault other) :
      Result rel extent (.error fault) (.error other)

/-- Two behaviours from two states on do the same, within a territory alone. At their ends as many
calls are in progress as at first. -/
inductive InStep (calls : division.Calls) (rel : division.Reach → α → α → Prop) :
    division.Reach → engine.Store → engine.Store → engine.Acts α → engine.Acts α → Prop
  | finish {extent : division.Reach} {naming : division.Naming}
      {store other after behind : engine.Store} {result resultOther : Except engine.Fault α}
      (hstep : division.Step extent naming store other after behind)
      (hcalls : division.calls after = calls)
      (hresult : division.Result rel (extent.under naming) result resultOther) :
      InStep calls rel extent store other (.finish after result) (.finish behind resultOther)
  /-- What the native leaves and gives back may belong to a greater territory. -/
  | native {extent : division.Reach} {naming : division.Naming}
      {store other after behind : engine.Store} {realm : Realm} {callee : Native}
      {arguments others : List engine.Value}
      {resume resumeOther : engine.Store → Except engine.Fault engine.Value → engine.Acts α}
      (hstep : division.Step extent naming store other after behind)
      (hrealm : realm ∈ extent.territory)
      (harguments : List.Forall₂ (division.Value (extent.under naming)) arguments others)
      (hresume : ∀ greater left leftOther answer answerOther, extent.under naming ≤ greater →
        division.Alike greater left leftOther → division.calls left = division.calls after →
        division.Result division.Value greater answer answerOther →
        InStep calls rel greater left leftOther (resume left answer)
          (resumeOther leftOther answerOther)) :
      InStep calls rel extent store other (.native after realm callee arguments resume)
        (.native behind realm callee others resumeOther)
  | enqueue {extent : division.Reach} {naming : division.Naming}
      {store other after behind : engine.Store} {job jobOther : engine.Job}
      {resume resumeOther : engine.Store → engine.Acts α}
      (hstep : division.Step extent naming store other after behind)
      (hjob : division.Job (extent.under naming) job jobOther)
      (hresume : InStep calls rel (extent.under naming) after behind (resume after)
        (resumeOther behind)) :
      InStep calls rel extent store other (.enqueue after job resume)
        (.enqueue behind jobOther resumeOther)
  | exhausted {extent : division.Reach} {store other : engine.Store} :
      InStep calls rel extent store other .exhausted .exhausted

/-- Done in a realm of a territory, two operations of the engine keep to the territory. -/
def Keeps (rel : division.Reach → α → α → Prop) (extent : division.Reach)
    (operation operationOther : Realm → engine.Store → engine.Acts α) : Prop :=
  ∀ realm ∈ extent.territory, ∀ store other, division.Alike extent store other →
    division.InStep (division.calls store) rel extent store other (operation realm store)
      (operationOther realm other)

end Engine.Division

/-- Code that runs in a realm reaches only what can be reached from that realm, from the natives and
from the values handed to it, and it cannot tell how objects are named. -/
structure Engine.Isolates {engine : Engine} (division : engine.Division) : Prop where
  value_mono {extent greater : division.Reach} {value other : engine.Value}
    (hgreater : extent ≤ greater) (hvalue : division.Value extent value other) :
    division.Value greater value other
  fault_mono {extent greater : division.Reach} {fault other : engine.Fault}
    (hgreater : extent ≤ greater) (hfault : division.Fault extent fault other) :
    division.Fault greater fault other
  job_mono {extent greater : division.Reach} {job other : engine.Job} (hgreater : extent ≤ greater)
    (hjob : division.Job extent job other) : division.Job greater job other
  isObject_eq {extent : division.Reach} {value other : engine.Value}
    (hvalue : division.Value extent value other) : engine.isObject other = engine.isObject value
  isNullish_eq {extent : division.Reach} {value other : engine.Value}
    (hvalue : division.Value extent value other) : engine.isNullish other = engine.isNullish value
  limitText_eq {extent : division.Reach} {fault other : engine.Fault}
    (hfault : division.Fault extent fault other) :
    engine.limitText? other = engine.limitText? fault
  value_undefined (extent : division.Reach) :
    division.Value extent engine.undefined engine.undefined
  value_null (extent : division.Reach) : division.Value extent engine.null engine.null
  value_ofText (extent : division.Reach) (text : String) :
    division.Value extent (engine.ofText text) (engine.ofText text)
  value_ofNumber (extent : division.Reach) (number : Float) :
    division.Value extent (engine.ofNumber number) (engine.ofNumber number)
  /-- An error that the shell or the parser throws is no object yet. -/
  fault_errorOf (extent : division.Reach) (message : String) :
    division.Fault extent (engine.errorOf message) (engine.errorOf message)
  fault_parse (extent : division.Reach) {options : Options} {source : String}
    {fault : engine.Fault} (hparse : engine.parse options source = .error fault) :
    division.Fault extent fault fault
  calls_eq {extent : division.Reach} {store other : engine.Store}
    (halike : division.Alike extent store other) : division.calls other = division.calls store
  /-- Whether two states are alike within a territory depends on its own parts. -/
  alike_congr {extent : division.Reach} {store other after behind : engine.Store}
    (halike : division.Alike extent store other)
    (hsame : ∀ realm ∈ extent.territory, division.part after realm = division.part store realm)
    (hsameOther : ∀ realm ∈ extent.territory,
      division.part behind realm = division.part other realm)
    (hcalls : division.calls after = division.calls store)
    (hcallsOther : division.calls behind = division.calls other) :
    division.Alike extent after behind
  alike_empty {extent : division.Reach} {store other : engine.Store}
    (halike : division.Alike extent store other) :
    division.Alike ⟨extent.naming, ∅⟩ store other
  alike_union {naming : division.Naming} {territory greater : Set Realm}
    {store other : engine.Store} (hfirst : division.Alike ⟨naming, territory⟩ store other)
    (hsecond : division.Alike ⟨naming, greater⟩ store other) :
    division.Alike ⟨naming, territory ∪ greater⟩ store other
  /-- Objects that are made later are none of those that there were. -/
  alike_under {extent : division.Reach} {naming : division.Naming}
    {store other : engine.Store} (hle : extent.naming ≤ naming)
    (halike : division.Alike extent store other) :
    division.Alike (extent.under naming) store other
  /-- A new engine is like another one with the same options. -/
  alike_start (options : Options) :
    ∃ naming, division.Alike ⟨naming, {0}⟩ (engine.start options) (engine.start options)
  /-- A new realm is the same whatever there is besides it. -/
  createRealm {extent : division.Reach} {store other : engine.Store} {realm : Realm}
    (halike : division.Alike extent store other) (hrealm : realm ∉ extent.territory) :
    (∃ fault faultOther, engine.createRealm realm store = .error fault ∧
      engine.createRealm realm other = .error faultOther ∧
      division.Fault extent fault faultOther) ∨
    ∃ naming after behind, engine.createRealm realm store = .ok after ∧
      engine.createRealm realm other = .ok behind ∧
      division.Return ⟨extent.naming, {realm}⟩ naming store other after behind
  install {naming : division.Naming} {realm : Realm} {store other : engine.Store}
    (halike : division.Alike ⟨naming, {realm}⟩ store other) (natives : List Native)
    (arguments : List String) :
    ∃ greater, division.Return ⟨naming, {realm}⟩ greater store other
        (engine.install realm natives arguments store).1
        (engine.install realm natives arguments other).1 ∧
      division.Result plain ⟨greater, {realm}⟩ (engine.install realm natives arguments store).2
        (engine.install realm natives arguments other).2
  evaluate (extent : division.Reach) (code : engine.Code) :
    division.Keeps division.Value extent (fun realm => engine.evaluate realm code)
      fun realm => engine.evaluate realm code
  runJob {extent : division.Reach} {job other : engine.Job} (hjob : division.Job extent job other) :
    division.Keeps plain extent (fun realm => engine.runJob realm job)
      fun realm => engine.runJob realm other
  toText {extent : division.Reach} {value other : engine.Value}
    (hvalue : division.Value extent value other) :
    division.Keeps plain extent (fun realm => engine.toText realm value)
      fun realm => engine.toText realm other
  toNumber {extent : division.Reach} {value other : engine.Value}
    (hvalue : division.Value extent value other) :
    division.Keeps plain extent (fun realm => engine.toNumber realm value)
      fun realm => engine.toNumber realm other
  stack {extent : division.Reach} {value other : engine.Value}
    (hvalue : division.Value extent value other) :
    division.Keeps division.Value extent (fun realm => engine.stack realm value)
      fun realm => engine.stack realm other
  display_eq {extent : division.Reach} {value valueOther : engine.Value}
    {store other : engine.Store} (hvalue : division.Value extent value valueOther)
    (halike : division.Alike extent store other) :
    engine.display valueOther other = engine.display value store
  thrown {extent : division.Reach} {realm : Realm} {fault faultOther : engine.Fault}
    {store other : engine.Store} (hrealm : realm ∈ extent.territory)
    (hfault : division.Fault extent fault faultOther)
    (halike : division.Alike extent store other) :
    ∃ naming, division.Return extent naming store other (engine.thrown realm fault store).2
        (engine.thrown realm faultOther other).2 ∧
      division.Value (extent.under naming) (engine.thrown realm fault store).1
        (engine.thrown realm faultOther other).1

/-! ## Laws -/

namespace Engine.Isolates

variable {engine : Engine} {α : Type} {division : engine.Division}
  (isolates : Engine.Isolates division) {extent greater : division.Reach}

include isolates

theorem values_mono (hgreater : extent ≤ greater) {values others : List engine.Value}
    (hvalues : List.Forall₂ (division.Value extent) values others) :
    List.Forall₂ (division.Value greater) values others :=
  hvalues.imp fun _ _ => isolates.value_mono hgreater

theorem result_mono {rel : division.Reach → α → α → Prop} {result other : Except engine.Fault α}
    (hrel : ∀ ⦃value other⦄, rel extent value other → rel greater value other)
    (hgreater : extent ≤ greater) (hresult : division.Result rel extent result other) :
    division.Result rel greater result other := by
  cases hresult with
  | ok hvalue => exact .ok (hrel hvalue)
  | error hfault => exact .error (isolates.fault_mono hgreater hfault)

end Engine.Isolates

end ScriptShell
