import ScriptShell.Language.Convert

/-!
# Names and scopes

A name is looked up from the innermost scope outward. A scope keeps bindings of its own or shows the
properties of an object; the outermost scope of a realm shows its global object, and the one just
inside it keeps what scripts declare with `let` and `const`. A script sees the latter through a
scope of its own, which shows the names that were declared when the script started.
-/

namespace ScriptShell.Language

/-! ## Looking names up -/

/-- Where a name leads. -/
inductive Reference where
  | binding (scope : ScopeId) (binding : Binding)
  | property (object : ObjectId)
  | unresolved

/-- The scope that keeps the bindings that a scope has or shows. -/
def ScopeId.keeper : ScopeId → ScopeId
  | .made place => .made place
  | .script keeper _ => keeper

/-- The binding of a name in a scope of its own. -/
def Scope.binding? (scope : Scope) (name : String) : Option Binding :=
  scope.bindings.lookup name

namespace Store

/-- Where a name leads in one scope. -/
def resolveIn (store : Store) (name : String) : ScopeId → Reference
  | .made place =>
    let scope := store.scope (.made place)
    match scope.binding? name, scope.object with
    | some binding, _ => .binding (.made place) binding
    | none, some object =>
      if (store.property? object (.ofString name)).isSome then .property object else .unresolved
    | none, none => .unresolved
  | .script keeper names =>
    match (store.scope keeper).binding? name with
    | some binding => if names.contains name then .binding keeper binding else .unresolved
    | none => .unresolved

/-- Where a name leads from a scope outward, up to a number of scopes. -/
def resolveName (store : Store) (name : String) : Nat → ScopeId → Reference
  | 0, _ => .unresolved
  | bound + 1, id =>
    match store.resolveIn name id, (store.scope id).parent with
    | .unresolved, some parent => resolveName store name bound parent
    | reference, _ => reference

/-- The value of `this` in a scope, up to a number of scopes outward. -/
def thisValue (store : Store) : Nat → ScopeId → Value
  | 0, _ => .undefined
  | bound + 1, id =>
    let scope := store.scope id
    match scope.this, scope.parent with
    | some value, _ => value
    | none, some parent => thisValue store bound parent
    | none, none => .undefined

/-- The store with a binding put into a scope. -/
def bind (store : Store) (id : ScopeId) (name : String) (binding : Binding) : Store :=
  store.modifyScope id fun scope =>
    if (scope.binding? name).isSome then
      { scope with
        bindings := scope.bindings.map fun entry =>
          if entry.1 = name then (name, binding) else entry }
    else { scope with bindings := (name, binding) :: scope.bindings }

/-- The store with names of `let` and `const` put into a scope. They have no value yet. -/
def declareLexical (store : Store) (id : ScopeId) (names : List (String × Bool)) : Store :=
  names.foldl (fun store (name, mutable) => store.bind id name ⟨none, mutable⟩) store

theorem growsTo_declareLexical (id : ScopeId) (names : List (String × Bool)) (store : Store) :
    store.GrowsTo (store.declareLexical id names) := by
  refine .foldl (fun store name => ?_) names store
  exact ⟨Nat.le_refl _, fun _ => rfl⟩

/-- The store with those names of `var` put into a scope that are not there yet. -/
def declareVariables (store : Store) (id : ScopeId) (names : List String) : Store :=
  names.foldl
    (fun store name =>
      if ((store.scope id).binding? name).isSome then store
      else store.bind id name ⟨some .undefined, true⟩) store

theorem growsTo_declareVariables (id : ScopeId) (names : List String) (store : Store) :
    store.GrowsTo (store.declareVariables id names) := by
  refine .foldl (fun store name => ?_) names store
  split
  · exact .refl store
  · exact ⟨Nat.le_refl _, fun _ => rfl⟩

end Store

namespace Run

/-- Where a name leads from here. -/
def resolve (name : String) : Run Reference := do
  let store ← store
  return store.resolveName name (store.nextScope + 1) (← site).scope

/-- The error for a name that has no value. -/
def notDefined {α : Type} (name : String) : Run α :=
  fail .reference (name ++ " is not defined")

/-- The value that a reference leads to. -/
def readReference (name : String) : Reference → Run Value
  | .binding _ ⟨some value, _⟩ => return value
  | .property object => getOf object (.ofString name)
  | _ => notDefined name

/-- The value of a name. -/
def readName (name : String) : Run Value := do
  readReference name (← resolve name)

/-- The global object of this realm. -/
def globalObject : Run ObjectId :=
  intrinsic .global

/-- Assigns a value to what a reference leads to. Outside strict mode code a name that leads nowhere
becomes a property of the global object. -/
def writeReference (name : String) (value : Value) (reference : Reference) : Run Unit := do
  let strict := (← site).strict
  match reference with
  | .binding scope ⟨some _, true⟩ =>
    modifyStore fun store => store.bind scope name ⟨some value, true⟩
  | .binding _ ⟨some _, false⟩ =>
    typeError ("cannot mutate an immutable binding '" ++ name ++ "'")
  | .binding _ ⟨none, _⟩ => notDefined name
  | .property object => set (.object object) (.ofString name) value strict
  | .unresolved =>
    if strict then
      fail .reference ("cannot assign to uninitialized global property `" ++ name ++ "`")
    else set (.object (← globalObject)) (.ofString name) value false

/-- Assigns a value to a name. -/
def writeName (name : String) (value : Value) : Run Unit := do
  writeReference name value (← resolve name)

/-- Gives a name of the innermost scope its first value. -/
def bindName (name : String) (value : Value) : Run Unit := do
  let innermost := (← site).scope
  modifyStore fun store =>
    let id := innermost.keeper
    let mutable := match (store.scope id).binding? name with
      | some binding => binding.mutable
      | none => true
    store.bind id name ⟨some value, mutable⟩

/-- The value of `this`. -/
def thisValue : Run Value := do
  let store ← store
  return store.thisValue (store.nextScope + 1) (← site).scope

/-- Does something in a new scope inside the present one. -/
def inNewScope {α : Type} (scope : Option ScopeId → Scope) (action : Run α) : Run α := do
  let site ← site
  let id ← makeIn fun store => store.allocateScope (scope (some site.scope))
  inSite { site with scope := id } action

/-! ## Patterns -/

/-- Whether a pattern introduces names or assigns to what exists. -/
inductive BindingMode where
  | introduce | assign
  deriving DecidableEq

/-- The key that a property name stands for. -/
def keyOf : PropertyName → Run Key
  | .fixed name => return .ofText name
  | .computed expression => do toKey (← evaluate expression)

/-- Stores a value where an expression says. -/
def storeAt (mode : BindingMode) (target : Expression) (value : Value) : Run Unit := do
  match target with
  | .name name =>
    if mode = .introduce then bindName name value else writeName name value
  | .member object key =>
    set (← evaluate object) (.ofText key) value (← site).strict
  | .index object key =>
    let object ← evaluate object
    set object (← toKey (← evaluate key)) value (← site).strict
  | _ => fail .reference "invalid assignment left-hand side"

/-- A value, or the value of an expression in place of `undefined`. -/
def orDefault (value : Value) : Option Expression → Run Value
  | none => return value
  | some expression =>
    match value with
    | .undefined => evaluate expression
    | value => return value

/-- An object with the properties of another that are listed and have none of some keys. -/
def restOf (source : ObjectId) (taken : List Key) : Run Value := do
  let id ← newObject
  for key in (← store).ownKeys source do
    match (← store).ownProperty? source key with
    | some property =>
      if property.enumerable && !taken.contains key then
        define id key (← getOf source key)
    | none => pure ()
  return .object id

mutual

/-- Stores a value where a pattern says. -/
def bindPattern (mode : BindingMode) : Pattern → Value → Run Unit
  | .target expression, value => storeAt mode expression value
  | .array elements, value => do
    let iterator ← iteratorOf value
    let finished ← bindElements mode elements iterator false
    if finished then return () else closeIterator iterator
  | .object fields rest, value => do
    let source ← toObject value
    let taken ← bindFields mode fields source value
    match rest with
    | none => return ()
    | some pattern => bindPattern mode pattern (← restOf source taken)

/-- Stores the values of an iterator where the elements of a pattern say; the answer tells whether
the iterator came to its end. -/
def bindElements (mode : BindingMode) : List PatternElement → Value → Bool → Run Bool
  | [], _, finished => return finished
  | .hole :: others, iterator, finished => do
    let next ← if finished then pure none else nextOf iterator
    bindElements mode others iterator next.isNone
  | .item pattern default :: others, iterator, finished => do
    let next ← if finished then pure none else nextOf iterator
    bindPattern mode pattern (← orDefault (next.getD .undefined) default)
    bindElements mode others iterator next.isNone
  | .rest pattern :: others, iterator, finished => do
    let values ← if finished then pure [] else untilDone [] fun values => do
        match ← nextOf iterator with
        | some value => return .inl (value :: values)
        | none => return .inr values.reverse
    bindPattern mode pattern (← newArray values)
    bindElements mode others iterator true

/-- Stores the properties of an object where the fields of a pattern say; the answer holds the keys
that were read. -/
def bindFields (mode : BindingMode) : List PatternField → ObjectId → Value → Run (List Key)
  | [], _, _ => return []
  | .field name pattern default :: others, source, value => do
    let key ← keyOf name
    let found ← getFrom source key value
    bindPattern mode pattern (← orDefault found default)
    return key :: (← bindFields mode others source value)

end

end Run

end ScriptShell.Language
