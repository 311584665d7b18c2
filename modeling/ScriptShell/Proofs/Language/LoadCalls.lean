import ScriptShell.Proofs.Language.Steady

/-!
# Scripts of the interpreter that load a file

A script that consists of a call of `load` on a text runs up to the call without changing anything
but what is used up, and completes with what the call gives (`Language.exists_loadCall`). The name
`load` has to lead to the native: no declaration may hide it, and the global object has to have it.
-/

namespace ScriptShell.Language

/-- The path that a script loads which does nothing else. -/
def Code.loads? (code : Code) : Option WideText :=
  match code.body with
  | [.expression (.call (.name "load") [.item (.text path)])] => some path
  | _ => none

namespace Store

/-- The scope of a script that starts now and declares nothing. -/
def scriptScope (store : Store) (realm : Realm) : ScopeId :=
  let keeper := (store.realm realm).scope
  .script keeper ((store.scope keeper).bindings.map Prod.fst)

/-- The native of the shell that a script finds on the global object under a name, and the realm
that the native belongs to. -/
def native? (store : Store) (realm : Realm) (name : String) : Option (Native × Realm) :=
  match store.resolveName name (store.nextScope + 1) (store.scriptScope realm) with
  | .property object =>
    if object = store.intrinsic realm .global then
      match store.property? object (.ofString name) with
      | some ⟨.data (.object id) _, _, _⟩ =>
        match (store.object id).kind with
        | .host native owner => some (native, owner)
        | _ => none
      | _ => none
    else none
  | _ => none

/-- What a script sees that finds a native under a name. -/
structure Offers (store : Store) (realm : Realm) (name : String) (id : ObjectId) (native : Native)
    (owner : Realm) : Prop where
  resolveName_eq : store.resolveName name (store.nextScope + 1) (store.scriptScope realm) =
    .property (store.intrinsic realm .global)
  property?_eq : ∃ writable enumerable configurable,
    store.property? (store.intrinsic realm .global) (.ofString name) =
      some ⟨.data (.object id) writable, enumerable, configurable⟩
  kind_eq : (store.object id).kind = .host native owner

theorem exists_offers {store : Store} {realm owner : Realm} {name : String} {native : Native}
    (h : store.native? realm name = some (native, owner)) :
    ∃ id, store.Offers realm name id native owner := by
  unfold native? at h
  split at h
  next object hresolved =>
    split at h
    next hglobal =>
      subst hglobal
      split at h
      next id writable enumerable configurable hproperty =>
        split at h
        next given realm hkind =>
          cases h
          exact ⟨id, hresolved, ⟨_, _, _, hproperty⟩, hkind⟩
        next => cases h
      next => cases h
    next => cases h
  next => cases h

end Store

namespace Run

variable {α β : Type} {reentry : Reentry} {site : Site} {store : Store} {realm : Realm}
  {id : ObjectId} {native : Native} {name : String} {bound : Nat}

theorem bind_of_native {first : Run α} {next : α → Run β} {before : Store} {callee : Native}
    {arguments : List Value} {result : Except Fault Value → Except Fault α}
    (hfirst : first reentry site store = .native before realm callee arguments fun given answer =>
      .finish given (result answer)) :
    (first >>= next) reentry site store =
      .native before realm callee arguments fun given answer =>
        (Behaviour.finish given (result answer)).andThen fun given result =>
          (match result with
            | .ok value => next value
            | .error fault => raise fault : Run β) reentry site given := by
  show (first reentry site store).andThen _ = _
  rw [hfirst]
  rfl

/-- The callee of a call by name is the native that the script finds. -/
theorem calleeOf_native (hoffers : store.idle.Offers realm name id native realm) (strict : Bool) :
    calleeOf (.name name) reentry ⟨realm, store.idle.scriptScope realm, strict⟩ store =
      .finish store (.ok (.object id, .undefined)) := by
  obtain ⟨writable, enumerable, configurable, hproperty⟩ := hoffers.property?_eq
  rw [store.property?_idle] at hproperty
  have hresolve : resolve name reentry ⟨realm, store.idle.scriptScope realm, strict⟩ store =
      .finish store (.ok (.property (store.intrinsic realm .global))) := by
    show Behaviour.finish store (.ok (store.idle.resolveName name (store.idle.nextScope + 1)
      (store.idle.scriptScope realm))) = _
    rw [hoffers.resolveName_eq]
    rfl
  have hread : readReference name (.property (store.intrinsic realm .global)) reentry
      ⟨realm, store.idle.scriptScope realm, strict⟩ store = .finish store (.ok (.object id)) :=
    getOf_of_data hproperty
  have hglobal : globalObject reentry ⟨realm, store.idle.scriptScope realm, strict⟩ store =
      .finish store (.ok (store.intrinsic realm .global)) := rfl
  unfold calleeOf
  rw [bind_of_finish hresolve, bind_of_finish hread]
  dsimp only
  rw [bind_of_finish hglobal, if_pos rfl]
  rfl

/-- A text as an argument is computed without running anything. -/
theorem argumentValues_text (path : WideText) :
    withSlots 2 (argumentValues [.item (.text path)]) (evaluator (bound + 1)) site store =
      .finish store (.ok [.text path]) :=
  rfl

theorem checkLimits_eq {slots : Nat} (hdepth : store.load.activations < store.limits.depth)
    (hslots : store.load.slots + slots < store.limits.slots) :
    checkLimits slots reentry site store = .finish store (.ok ()) := by
  unfold checkLimits spend
  simp only [Nat.not_le.mpr hdepth, Nat.not_le.mpr hslots, if_false]

/-- What a native of a realm answers a script: an error that has no realm yet gets that one. -/
def answered (realm : Realm) (answer : Except Fault Value) : Except Fault Value :=
  answer.mapError (withRealm · realm)

/-- A native is called, if no limit is reached. -/
theorem callValue_native (hkind : (store.idle.object id).kind = .host native realm)
    (hdepth : store.load.activations < store.limits.depth)
    (hslots : store.load.slots < store.limits.slots) (this : Value) (arguments : List Value) :
    callValue (.object id) this arguments reentry site store =
      .native store realm native arguments fun given answer =>
        .finish given (answered realm answer) := by
  have hobject : object id reentry site store = .finish store (.ok (store.idle.object id)) := rfl
  have hcallable : (store.idle.object id).isCallable = true := by
    rw [Object.isCallable, hkind]
  unfold callValue
  rw [bind_of_finish hobject, if_pos hcallable, hkind,
    bind_of_finish (checkLimits_eq hdepth hslots)]
  show Behaviour.native _ _ _ _ _ = _
  refine congrArg (Behaviour.native store realm native arguments) ?_
  funext given answer
  cases answer <;> rfl

/-- A call of a native by its name on a text. -/
theorem expression_native (hoffers : store.idle.Offers realm name id native realm) (strict : Bool)
    (hdepth : store.load.activations < store.limits.depth)
    (hslots : store.load.slots < store.limits.slots) (path : WideText) :
    expressionValue (.call (.name name) [.item (.text path)]) (evaluator (bound + 1))
        ⟨realm, store.idle.scriptScope realm, strict⟩ store =
      .native store realm native [.text path] fun given answer =>
        .finish given (answered realm answer) := by
  show callExpression _ _ _ _ _ = _
  unfold callExpression
  rw [bind_of_finish (calleeOf_native hoffers strict)]
  dsimp only
  rw [bind_of_finish (argumentValues_text path)]
  exact callValue_native hoffers.kind_eq hdepth hslots .undefined [.text path]

/-- What a script completes with that does nothing but call a native on a text. -/
theorem executeAll_native (hoffers : store.idle.Offers realm name id native realm) (strict : Bool)
    (hdepth : store.load.activations < store.limits.depth)
    (hslots : store.load.slots < store.limits.slots) (path : WideText) :
    executeAll [.expression (.call (.name name) [.item (.text path)])] (evaluator (bound + 3))
        ⟨realm, store.idle.scriptScope realm, strict⟩ store =
      .native store realm native [.text path] fun given answer =>
        .finish given ((answered realm answer).map fun value => .normal (some value)) := by
  have hcall : evaluate (.call (.name name) [.item (.text path)]) (evaluator (bound + 2))
      ⟨realm, store.idle.scriptScope realm, strict⟩ store =
      .native store realm native [.text path] fun given answer =>
        .finish given (answered realm answer) :=
    expression_native hoffers strict hdepth hslots path
  have hexecute : execute (.expression (.call (.name name) [.item (.text path)]))
      (evaluator (bound + 3)) ⟨realm, store.idle.scriptScope realm, strict⟩ store =
      .native store realm native [.text path] fun given answer =>
        .finish given ((answered realm answer).map fun value => .normal (some value)) := by
    show (evaluate (.call (.name name) [.item (.text path)]) >>= fun value =>
      pure (Completion.normal (some value))) (evaluator (bound + 2)) _ store = _
    refine (bind_of_native hcall).trans (congrArg (Behaviour.native store realm native _) ?_)
    funext given answer
    cases answer <;> rfl
  refine (bind_of_native hexecute).trans (congrArg (Behaviour.native store realm native _) ?_)
  funext given answer
  cases answer <;> rfl

/-- A script that does nothing but call a native on a text, up to the call and behind it. -/
theorem runScript_native (hoffers : store.idle.Offers realm name id native realm) {code : Code}
    {path : WideText}
    (hbody : code.body = [.expression (.call (.name name) [.item (.text path)])])
    (hdepth : store.load.activations + 1 < store.limits.depth)
    (hslots : store.load.slots + 2 < store.limits.slots) :
    (runScript code).actIn realm store =
      .native { store with load := ⟨store.load.activations + 1, store.load.slots + 2, 0⟩ } realm
        native [.text path] fun given answer =>
          .finish { given with load := store.load } (answered realm answer) := by
  obtain ⟨strict, body⟩ := code
  obtain rfl : body = _ := hbody
  let inside : Store := { store with load := ⟨store.load.activations + 1, store.load.slots + 2, 0⟩ }
  let statements : Run Value := do
    return (← executeAll [.expression (.call (.name name) [.item (.text path)])]).result
  -- a script of one call takes three levels of the evaluator
  have hbound : Run.patience = 4611686018427387901 + 3 := rfl
  have hstatements : statements (evaluator Run.patience)
      ⟨realm, inside.idle.scriptScope realm, strict⟩ inside =
      .native inside realm native [.text path] fun given answer =>
        .finish given (answered realm answer) := by
    rw [hbound]
    refine (bind_of_native (@executeAll_native inside realm id native name _ hoffers strict hdepth
      hslots path)).trans (congrArg (Behaviour.native inside realm native _) ?_)
    funext given answer
    cases answer <;> rfl
  show (statements (evaluator Run.patience) ⟨realm, inside.idle.scriptScope realm, strict⟩
    inside).andThen (fun after result => .finish { after with load := store.load } result) = _
  rw [hstatements]
  rfl

end Run

/-! ## Loading a file -/

variable {store : Store} {environment : Realm} {options : Options} {inline : String} {code : Code}
  {text : WideText} {path : String}

theorem body_of_loads? (h : code.loads? = some text) :
    code.body = [.expression (.call (.name "load") [.item (.text text)])] := by
  unfold Code.loads? at h
  split at h
  next hbody =>
    cases h
    exact hbody
  next => cases h

/-- A script that does nothing but load a file does that only, as far as scripts can tell: before
`load` is called and behind it the store is the same but for what is used up. -/
theorem exists_loadCall (hparse : parseScript options inline = .ok code)
    (hloads : code.loads? = some text) (hpath : text.escaped = path)
    (hnative : store.idle.native? environment "load" = some (.load, environment))
    (hdepth : store.load.activations + 1 < store.limits.depth)
    (hslots : store.load.slots + 2 < store.limits.slots) :
    ∃ load : LoadCall engine environment options store inline path,
      load.Only likeness.Store likeness.Value := by
  subst hpath
  obtain ⟨id, hoffers⟩ := Store.exists_offers hnative
  let before : Store :=
    { store.unlimited with load := ⟨store.load.activations + 1, store.load.slots + 2, 0⟩ }
  refine ⟨⟨code, before, Value.text text, [], fun given answer =>
    (.finish { given with load := store.load } (Run.answered environment answer) : Act Value),
    before, hparse, ?_, rfl⟩, rfl, fun state after value own hstate hvalue => ⟨_, rfl, hstate⟩⟩
  exact @Run.runScript_native store.unlimited environment id .load "load" hoffers code text
    (body_of_loads? hloads) hdepth hslots

end ScriptShell.Language
