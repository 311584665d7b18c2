import ScriptShell.Proofs.Language.Heap
import ScriptShell.Proofs.Likeness.ThroughLoad

/-!
# What scripts can tell before a limit is reached

Two stores of the interpreter may differ in what running scripts have used up so far. Until a limit
is reached script code cannot tell them apart, whatever it does (`Language.sound_likeness`): every
computation of the interpreter is in step with itself (`Run.steady`).
-/

namespace ScriptShell.Language

/-- Stores that differ in what is used up only. All else is the same. -/
def likeness : Likeness (engine.stoppingAt Store.limited) (engine.stoppingAt Store.limited) where
  Store store other := Store.idle other = Store.idle store
  Value value other := value = other
  Fault fault other := fault = other
  Job job other := job = other
  faithful := False

/-! ## Behaviours -/

variable {α : Type} {store twin : Store}

theorem result_likeness {rel : α → α → Prop} (hrel : ∀ value, rel value value)
    (result : Except Fault α) : likeness.Result rel result result := by
  cases result with
  | ok value => exact .ok (hrel value)
  | error fault => exact .error rfl

theorem eq_of_result_likeness
    {given other : Except (engine.stoppingAt Store.limited).Fault
      (engine.stoppingAt Store.limited).Value}
    (h : likeness.Result likeness.Value given other) : given = other := by
  cases h with
  | ok hvalue => exact congrArg Except.ok hvalue
  | error hfault => exact congrArg Except.error hfault

theorem Act.IsLimited.stoppingAt {act : Act α} (h : act.IsLimited) :
    act.stoppingAt Store.limited = .exhausted := by
  cases act with
  | finish | native | enqueue => exact if_pos h
  | exhausted => rfl

/-- Acts that are in step until a limit is reached are in step where the engine stops there. -/
theorem Act.InStep.stoppingAt {rel : α → α → Prop} (hrel : ∀ value, rel value value)
    {act other : Act α} (h : Act.InStep act other) :
    likeness.InStep rel (act.stoppingAt Store.limited : Act α)
      (other.stoppingAt Store.limited : Act α) := by
  induction h with
  | finish result hstore =>
      exact Likeness.InStep.of_not_reached id fun _ _ =>
        .finish hstore (result_likeness hrel result)
  | native hstore _ ih =>
      refine Likeness.InStep.of_not_reached id fun _ _ => .native hstore
        (List.forall₂_same.mpr fun _ _ => rfl) fun behind behindOther given _ hbehind hgiven => ?_
      obtain rfl := eq_of_result_likeness hgiven
      exact ih behind behindOther given hbehind
  | enqueue hstore _ ih =>
      exact Likeness.InStep.of_not_reached id fun _ _ => .enqueue hstore rfl
        fun behind behindOther hbehind => ih behind behindOther hbehind
  | limited hact =>
      rw [hact.stoppingAt]
      exact .gaveUp _
  | twinLimited htwin =>
      rw [htwin.stoppingAt]
      exact .otherGaveUp _ id

theorem Run.inStep_actIn {rel : α → α → Prop} (hrel : ∀ value, rel value value) (realm : Realm)
    (action : Run α) (hstore : twin.idle = store.idle) :
    likeness.InStep rel ((action.actIn realm store).stoppingAt Store.limited : Act α)
      ((action.actIn realm twin).stoppingAt Store.limited : Act α) :=
  Act.InStep.stoppingAt hrel (action.steady (evaluator_lawful Run.patience) _ hstore)

/-- Scripts and jobs begin with no limit reached. -/
theorem Run.inStep_unlimited {rel : α → α → Prop} (hrel : ∀ value, rel value value) (realm : Realm)
    (action : Run α) (hstore : twin.idle = store.idle) :
    likeness.InStep rel ((action.actIn realm store.unlimited).stoppingAt Store.limited : Act α)
      ((action.actIn realm twin.unlimited).stoppingAt Store.limited : Act α) :=
  inStep_actIn hrel realm action hstore

/-! ## What the shell asks for besides -/

namespace Store

theorem idle_installNatives (realm : Realm) (natives : List Native) (store : Store) :
    (natives.foldl (fun store native => store.installNative realm native) store).idle =
      natives.foldl (fun store native => store.installNative realm native) store.idle := by
  induction natives generalizing store with
  | nil => rfl
  | cons native rest ih => exact ih (store.installNative realm native)

theorem idle_install (realm : Realm) (natives : List Native) (arguments : List String)
    (store : Store) :
    (store.install realm natives arguments).idle = store.idle.install realm natives arguments := by
  have hnatives := idle_installNatives realm natives store
  unfold install
  rw [← hnatives]
  rfl

theorem idle_install_eq (realm : Realm) (natives : List Native) (arguments : List String)
    (hstore : twin.idle = store.idle) :
    (twin.install realm natives arguments).idle = (store.install realm natives arguments).idle := by
  rw [idle_install, idle_install, hstore]

theorem value_eq (realm : Realm) (fault : Fault) (hstore : twin.idle = store.idle) :
    (fault.value realm store).1 = (fault.value realm twin).1 ∧
      (fault.value realm twin).2.idle = (fault.value realm store).2.idle := by
  have hvalue (store : Store) : ((fault.value realm store).1, (fault.value realm store).2.idle) =
      fault.value realm store.idle := by
    cases fault <;> rfl
  have hboth := (hvalue store).trans ((congrArg (fault.value realm) hstore.symm).trans
    (hvalue twin).symm)
  obtain ⟨hfirst, hsecond⟩ := Prod.mk.inj hboth
  exact ⟨hfirst, hsecond.symm⟩

theorem idle_unloaded_eq (change : Store → Store) (hstore : twin.idle = store.idle) :
    (twin.unloaded change).idle = (store.unloaded change).idle := by
  unfold unloaded
  rw [hstore]
  rfl

end Store

/-! ## Soundness -/

/-- Until a limit is reached, what is used up makes no difference to anything. -/
theorem sound_likeness : likeness.Sound where
  parse options source := by
    show likeness.Parsed (parseScript options source) (parseScript options source)
    cases parseScript options source with
    | ok code =>
        refine .ok fun realm store twin hstore => ?_
        exact @Run.inStep_unlimited Value store twin Eq (fun _ => rfl) realm (Run.runScript code)
          hstore
    | error fault => exact .error rfl
  runJob realm job _ store twin hjob hstore := by
    obtain rfl : job = _ := hjob
    exact @Run.inStep_unlimited Unit store twin Eq (fun _ => rfl) realm (Run.runJob job) hstore
  toText realm value _ _ _ hvalue hstore := by
    obtain rfl : value = _ := hvalue
    exact Run.inStep_actIn (fun _ => rfl) realm (do return (← Run.toText value).escaped) hstore
  toNumber realm value _ _ _ hvalue hstore := by
    obtain rfl : value = _ := hvalue
    exact Run.inStep_actIn (fun _ => rfl) realm
      (do return Numeric.ofFloat (← Run.toNumber value)) hstore
  stack realm value _ _ _ hvalue hstore := by
    obtain rfl : value = _ := hvalue
    exact Run.inStep_actIn (fun _ => rfl) realm (Run.getNamed value "stack") hstore
  display_eq value _ _ _ hvalue hstore := by
    obtain rfl : value = _ := hvalue
    exact congrArg (Display.value · value) hstore
  thrown realm fault _ _ _ hfault hstore := by
    obtain rfl : fault = _ := hfault
    exact Store.value_eq realm fault hstore
  createRealm realm _ _ hstore := .ok (Store.idle_unloaded_eq (Store.createRealm realm) hstore)
  install realm natives arguments _ _ hstore :=
    ⟨Store.idle_install_eq realm natives arguments hstore, .ok rfl⟩
  limitText_eq _ _ hfault := congrArg Fault.limitText? hfault.symm
  isObject_eq _ _ hvalue := congrArg Value.isObject hvalue.symm
  isNullish_eq _ _ hvalue := congrArg Value.isNullish hvalue.symm
  undefined := rfl
  null := rfl
  ofText _ := rfl
  ofNumber _ := rfl
  errorOf _ := rfl

end ScriptShell.Language
