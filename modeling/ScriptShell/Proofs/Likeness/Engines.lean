import Mathlib.Data.List.Forall2
import ScriptShell.Engine

/-!
# Engines that work alike

Two engines may do the same without being in the same state, and so may one engine in two
situations: deeper inside script code it has other calls in progress, which nothing shows until a
limit is reached. A `Likeness` says which states, values, errors and jobs correspond. Two
behaviours are in step (`Likeness.InStep`) if they go through the same calls and jobs, each time
with what corresponds, to ends that correspond, unless an engine gives up on the way. A likeness is
sound if everything that the engines do from corresponding states on is in step.

An engine may be made to give up as soon as it hands out a state of some kind, such as one in which
a limit was reached (`Engine.stoppingAt`). No script code runs from there on, not even what would
clean up. As long as the engine that stops does not give up, it does what the engine itself does
(`Likeness.sound_stoppingAt`).
-/

namespace ScriptShell

/-- What corresponds between two engines. -/
structure Likeness (one two : Engine) where
  Store : one.Store → two.Store → Prop
  Value : one.Value → two.Value → Prop
  Fault : one.Fault → two.Fault → Prop
  Job : one.Job → two.Job → Prop
  /-- Whether all looks at the clock show the same in both, and the second engine gives up only
  where the first does. -/
  faithful : Prop

namespace Likeness

variable {one two : Engine} {α β : Type}

/-! ## In step -/

/-- Two values that correspond, or two errors that do. -/
inductive Result (likeness : Likeness one two) (rel : α → β → Prop) :
    Except one.Fault α → Except two.Fault β → Prop
  | ok {value : α} {other : β} (hvalue : rel value other) :
      Result likeness rel (.ok value) (.ok other)
  | error {fault : one.Fault} {other : two.Fault} (hfault : likeness.Fault fault other) :
      Result likeness rel (.error fault) (.error other)

/-- Two behaviours go through the same calls and jobs to ends that correspond, unless one of them
gives up. -/
inductive InStep (likeness : Likeness one two) (rel : α → β → Prop) :
    one.Acts α → two.Acts β → Prop
  | finish {store : one.Store} {other : two.Store} {result : Except one.Fault α}
      {given : Except two.Fault β} (hstore : likeness.Store store other)
      (hresult : likeness.Result rel result given) :
      InStep likeness rel (.finish store result) (.finish other given)
  | native {store : one.Store} {other : two.Store} {realm : Realm} {callee : Native}
      {arguments : List one.Value} {others : List two.Value}
      {resume : one.Store → Except one.Fault one.Value → one.Acts α}
      {resumeOther : two.Store → Except two.Fault two.Value → two.Acts β}
      (hstore : likeness.Store store other)
      (harguments : List.Forall₂ likeness.Value arguments others)
      (hresume : ∀ ⦃behind behindOther given givenOther⦄, likeness.Store behind behindOther →
        likeness.Result likeness.Value given givenOther →
          InStep likeness rel (resume behind given) (resumeOther behindOther givenOther)) :
      InStep likeness rel (.native store realm callee arguments resume)
        (.native other realm callee others resumeOther)
  | enqueue {store : one.Store} {other : two.Store} {job : one.Job} {jobOther : two.Job}
      {resume : one.Store → one.Acts α} {resumeOther : two.Store → two.Acts β}
      (hstore : likeness.Store store other) (hjob : likeness.Job job jobOther)
      (hresume : ∀ ⦃behind behindOther⦄, likeness.Store behind behindOther →
        InStep likeness rel (resume behind) (resumeOther behindOther)) :
      InStep likeness rel (.enqueue store job resume) (.enqueue other jobOther resumeOther)
  | gaveUp (behaviour : two.Acts β) : InStep likeness rel .exhausted behaviour
  | otherGaveUp (behaviour : one.Acts α) (hfaithful : ¬ likeness.faithful) :
      InStep likeness rel behaviour .exhausted

/-- A source text is refused on both sides, or what was parsed runs in step. -/
inductive Parsed (likeness : Likeness one two) :
    Except one.Fault one.Code → Except two.Fault two.Code → Prop
  | ok {code : one.Code} {other : two.Code}
      (hruns : ∀ realm ⦃store storeOther⦄, likeness.Store store storeOther →
        likeness.InStep likeness.Value (one.evaluate realm code store)
          (two.evaluate realm other storeOther)) :
      Parsed likeness (.ok code) (.ok other)
  | error {fault : one.Fault} {other : two.Fault} (hfault : likeness.Fault fault other) :
      Parsed likeness (.error fault) (.error other)

/-- Whatever the engines do from corresponding states on corresponds. -/
structure Sound (likeness : Likeness one two) : Prop where
  parse (options : Options) (source : String) :
    likeness.Parsed (one.parse options source) (two.parse options source)
  runJob (realm : Realm) ⦃job : one.Job⦄ ⦃jobOther : two.Job⦄ ⦃store : one.Store⦄
    ⦃other : two.Store⦄ (hjob : likeness.Job job jobOther) (hstore : likeness.Store store other) :
    likeness.InStep Eq (one.runJob realm job store) (two.runJob realm jobOther other)
  toText (realm : Realm) ⦃value : one.Value⦄ ⦃valueOther : two.Value⦄ ⦃store : one.Store⦄
    ⦃other : two.Store⦄ (hvalue : likeness.Value value valueOther)
    (hstore : likeness.Store store other) :
    likeness.InStep Eq (one.toText realm value store) (two.toText realm valueOther other)
  toNumber (realm : Realm) ⦃value : one.Value⦄ ⦃valueOther : two.Value⦄ ⦃store : one.Store⦄
    ⦃other : two.Store⦄ (hvalue : likeness.Value value valueOther)
    (hstore : likeness.Store store other) :
    likeness.InStep Eq (one.toNumber realm value store) (two.toNumber realm valueOther other)
  stack (realm : Realm) ⦃value : one.Value⦄ ⦃valueOther : two.Value⦄ ⦃store : one.Store⦄
    ⦃other : two.Store⦄ (hvalue : likeness.Value value valueOther)
    (hstore : likeness.Store store other) :
    likeness.InStep likeness.Value (one.stack realm value store) (two.stack realm valueOther other)
  display_eq ⦃value : one.Value⦄ ⦃valueOther : two.Value⦄ ⦃store : one.Store⦄ ⦃other : two.Store⦄
    (hvalue : likeness.Value value valueOther) (hstore : likeness.Store store other) :
    two.display valueOther other = one.display value store
  thrown (realm : Realm) ⦃fault : one.Fault⦄ ⦃faultOther : two.Fault⦄ ⦃store : one.Store⦄
    ⦃other : two.Store⦄ (hfault : likeness.Fault fault faultOther)
    (hstore : likeness.Store store other) :
    likeness.Value (one.thrown realm fault store).1 (two.thrown realm faultOther other).1 ∧
      likeness.Store (one.thrown realm fault store).2 (two.thrown realm faultOther other).2
  createRealm (realm : Realm) ⦃store : one.Store⦄ ⦃other : two.Store⦄
    (hstore : likeness.Store store other) :
    likeness.Result likeness.Store (one.createRealm realm store) (two.createRealm realm other)
  install (realm : Realm) (natives : List Native) (arguments : List String) ⦃store : one.Store⦄
    ⦃other : two.Store⦄ (hstore : likeness.Store store other) :
    likeness.Store (one.install realm natives arguments store).1
        (two.install realm natives arguments other).1 ∧
      likeness.Result Eq (one.install realm natives arguments store).2
        (two.install realm natives arguments other).2
  limitText_eq ⦃fault : one.Fault⦄ ⦃faultOther : two.Fault⦄
    (hfault : likeness.Fault fault faultOther) : two.limitText? faultOther = one.limitText? fault
  isObject_eq ⦃value : one.Value⦄ ⦃valueOther : two.Value⦄
    (hvalue : likeness.Value value valueOther) : two.isObject valueOther = one.isObject value
  isNullish_eq ⦃value : one.Value⦄ ⦃valueOther : two.Value⦄
    (hvalue : likeness.Value value valueOther) : two.isNullish valueOther = one.isNullish value
  undefined : likeness.Value one.undefined two.undefined
  null : likeness.Value one.null two.null
  ofText (text : String) : likeness.Value (one.ofText text) (two.ofText text)
  ofNumber (number : Float) : likeness.Value (one.ofNumber number) (two.ofNumber number)
  errorOf (message : String) : likeness.Fault (one.errorOf message) (two.errorOf message)

end Likeness

/-! ## Stopping early -/

/-- The behaviour as long as no state of some kind is handed out. There it gives up instead. -/
def Behaviour.stoppingAt {Store Value Fault Job α : Type} (reached : Store → Bool) :
    Behaviour Store Value Fault Job α → Behaviour Store Value Fault Job α
  | .finish store result => if reached store then .exhausted else .finish store result
  | .native store realm callee arguments resume =>
    if reached store then .exhausted
    else .native store realm callee arguments fun store given =>
      (resume store given).stoppingAt reached
  | .enqueue store job resume =>
    if reached store then .exhausted
    else .enqueue store job fun store => (resume store).stoppingAt reached
  | .exhausted => .exhausted

/-- The engine as long as it hands out no state of some kind. -/
abbrev Engine.stoppingAt (engine : Engine) (reached : engine.Store → Bool) : Engine :=
  { engine with
    evaluate := fun realm code store => (engine.evaluate realm code store).stoppingAt reached
    runJob := fun realm job store => (engine.runJob realm job store).stoppingAt reached
    toText := fun realm value store => (engine.toText realm value store).stoppingAt reached
    toNumber := fun realm value store => (engine.toNumber realm value store).stoppingAt reached
    stack := fun realm value store => (engine.stack realm value store).stoppingAt reached }

namespace Likeness

variable (engine : Engine) (reached : engine.Store → Bool)

/-- Between an engine that may stop and the engine itself all that is the same corresponds. -/
def stoppingAt : Likeness (engine.stoppingAt reached) engine where
  Store store other := store = other
  Value value other := value = other
  Fault fault other := fault = other
  Job job other := job = other
  faithful := True

variable {engine reached} {α : Type}

theorem result_stoppingAt {rel : α → α → Prop} (hrel : ∀ value, rel value value)
    (result : Except engine.Fault α) :
    (stoppingAt engine reached).Result rel result result := by
  cases result with
  | ok value => exact .ok (hrel value)
  | error fault => exact .error rfl

theorem eq_of_result_stoppingAt
    {given : Except (engine.stoppingAt reached).Fault (engine.stoppingAt reached).Value}
    {givenOther : Except engine.Fault engine.Value}
    (h : (stoppingAt engine reached).Result (stoppingAt engine reached).Value given givenOther) :
    given = givenOther := by
  cases h with
  | ok hvalue => exact congrArg Except.ok hvalue
  | error hfault => exact congrArg Except.error hfault

theorem inStep_stoppingAt {rel : α → α → Prop} (hrel : ∀ value, rel value value)
    (behaviour : engine.Acts α) :
    (stoppingAt engine reached).InStep rel (behaviour.stoppingAt reached : engine.Acts α)
      behaviour := by
  induction behaviour with
  | finish store result =>
      unfold Behaviour.stoppingAt
      split
      · exact .gaveUp _
      · exact .finish rfl (result_stoppingAt hrel result)
  | native store realm callee arguments resume ih =>
      unfold Behaviour.stoppingAt
      split
      · exact .gaveUp _
      · refine .native rfl (List.forall₂_same.mpr fun _ _ => rfl) ?_
        rintro behind _ given givenOther rfl hanswer
        obtain rfl := eq_of_result_stoppingAt hanswer
        exact ih behind given
  | enqueue store job resume ih =>
      unfold Behaviour.stoppingAt
      split
      · exact .gaveUp _
      · refine .enqueue rfl rfl ?_
        rintro behind _ rfl
        exact ih behind
  | exhausted => exact .gaveUp _

/-- As long as an engine that stops early does not give up, it does what the engine does. -/
theorem sound_stoppingAt : (stoppingAt engine reached).Sound where
  parse options source := by
    show (stoppingAt engine reached).Parsed (engine.parse options source) _
    cases engine.parse options source with
    | ok code =>
        refine .ok ?_
        rintro realm store _ rfl
        exact inStep_stoppingAt (fun _ => rfl) _
    | error fault => exact .error rfl
  runJob realm job _ store _ hjob hstore := by
    cases hjob
    cases hstore
    exact inStep_stoppingAt (fun _ => rfl) _
  toText realm value _ store _ hvalue hstore := by
    cases hvalue
    cases hstore
    exact inStep_stoppingAt (fun _ => rfl) _
  toNumber realm value _ store _ hvalue hstore := by
    cases hvalue
    cases hstore
    exact inStep_stoppingAt (fun _ => rfl) _
  stack realm value _ store _ hvalue hstore := by
    cases hvalue
    cases hstore
    exact inStep_stoppingAt (fun _ => rfl) _
  display_eq value _ store _ hvalue hstore := by
    cases hvalue
    cases hstore
    rfl
  thrown realm fault _ store _ hfault hstore := by
    cases hfault
    cases hstore
    exact ⟨rfl, rfl⟩
  createRealm realm store _ hstore := by
    cases hstore
    exact result_stoppingAt (fun _ => rfl) _
  install realm natives arguments store _ hstore := by
    cases hstore
    exact ⟨rfl, result_stoppingAt (fun _ => rfl) _⟩
  limitText_eq fault _ hfault := by
    cases hfault
    rfl
  isObject_eq value _ hvalue := by
    cases hvalue
    rfl
  isNullish_eq value _ hvalue := by
    cases hvalue
    rfl
  undefined := rfl
  null := rfl
  ofText _ := rfl
  ofNumber _ := rfl
  errorOf _ := rfl

/-! ### In step until one of them stops -/

namespace InStep

variable {likeness : Likeness (engine.stoppingAt reached) (engine.stoppingAt reached)}
  {rel : α → α → Prop} {store other : engine.Store}

/-- What does not stop on either side is in step. -/
theorem of_not_reached (hloose : ¬ likeness.faithful) {act twin : engine.Acts α}
    (h : reached store = false → reached other = false → likeness.InStep rel act twin) :
    likeness.InStep rel (if reached store then .exhausted else act : engine.Acts α)
      (if reached other then .exhausted else twin : engine.Acts α) := by
  split
  · exact .gaveUp _
  · split
    · exact .otherGaveUp _ hloose
    · exact h (Bool.not_eq_true _ ▸ ‹_›) (Bool.not_eq_true _ ▸ ‹_›)

end InStep

end Likeness

end ScriptShell
