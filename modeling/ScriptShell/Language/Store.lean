import ScriptShell.Language.Builtin
import ScriptShell.Language.Value
import Std.Data.TreeMap

/-!
# The store of the script language

Everything that scripts can reach: objects with their properties, scopes with their bindings, and
realms. Properties with an index stand in the order of their indices, the others in the order in
which they were made. All operations here are plain functions of the store and run no script code.
-/

namespace ScriptShell.Language

/-! ## Properties -/

/-- What a property holds. -/
inductive Slot where
  | data (value : Value) (writable : Bool)
  | accessor (getter setter : Option ObjectId)

/-- A property. -/
structure Property where
  slot : Slot
  enumerable : Bool
  configurable : Bool

namespace Property

/-- A property as an assignment makes it. -/
def plain (value : Value) : Property :=
  ⟨.data value true, true, true⟩

/-- A property of the library: it can be changed but is not listed. -/
def hidden (value : Value) : Property :=
  ⟨.data value true, false, true⟩

/-- A property that can be redefined but neither assigned to nor listed. -/
def readOnly (value : Value) : Property :=
  ⟨.data value false, false, true⟩

/-- A property that never changes. -/
def fixed (value : Value) : Property :=
  ⟨.data value false, false, false⟩

end Property

/-! ## Objects -/

/-- A function made by script code. -/
structure Closure where
  definition : FunctionSyntax
  scope : ScopeId
  realm : Realm

/-- Whether script code may construct objects with a function. -/
def Closure.constructs (closure : Closure) : Bool :=
  closure.definition.kind = .ordinary && !closure.definition.isAsync

/-- Where the statements of an async function go on, and what settles when they end. -/
structure Suspension where
  realm : Realm
  scope : ScopeId
  strict : Bool
  /-- What takes the value that was waited for. -/
  receiver : Option (Option VariableKind × Pattern)
  /-- Whether the value is the result of the function. -/
  returns : Bool
  rest : List Statement
  promise : ObjectId

/-- What runs when a promise settles. -/
inductive Handler where
  /-- Nothing: the outcome is passed on. -/
  | pass
  | call (callee : Value)
  | resume (suspension : Suspension)

/-- What waits for a promise, and the promise that follows from it. -/
structure Reaction where
  onFulfilled : Handler
  onRejected : Handler
  follower : Option ObjectId

/-- The state of a promise. -/
inductive PromiseState where
  | pending (reactions : List Reaction)
  | fulfilled (value : Value)
  | rejected (reason : Value)

/-- What an object is besides its properties. -/
inductive ObjectKind where
  | ordinary
  | array
  | arguments
  | error
  | closure (closure : Closure)
  | builtin (function : Builtin) (realm : Realm)
  | host (native : Native) (realm : Realm)
  | bound (target : Value) (this : Value) (arguments : List Value)
  /-- One of the two functions that settle a promise. Both share a latch, and only the first call
  of either counts. -/
  | resolver (promise latch : ObjectId) (rejects : Bool) (realm : Realm)
  | latch (used : Bool)
  /-- A function that runs another one before it passes an outcome on. -/
  | finallyCall (callee : Value) (rejects : Bool) (realm : Realm)
  /-- A function that gives an outcome, whatever it is called with. -/
  | finallyStep (value : Value) (rejects : Bool) (realm : Realm)
  | boxed (value : Value)
  | promise (state : PromiseState)
  | map (entries : List (Value × Value))
  | set (entries : List Value)
  | elements (kind : ElementKind) (values : Array Float)
  | date (milliseconds : Float)
  | iterator (values : List Value)

/-- An object. -/
structure Object where
  kind : ObjectKind := .ordinary
  prototype : Option ObjectId := none
  extensible : Bool := true
  indexed : Std.TreeMap Nat Property := {}
  named : List (Key × Property) := []

instance : Inhabited Object := ⟨{}⟩

namespace Object

/-- The named property of a key. -/
def findNamed (key : Key) : List (Key × Property) → Option Property
  | [] => none
  | (other, property) :: rest => if other = key then some property else findNamed key rest

/-- The named properties with one more, or with one replaced in its place. -/
def putNamed (key : Key) (property : Property) : List (Key × Property) → List (Key × Property)
  | [] => [(key, property)]
  | (other, old) :: rest =>
    if other = key then (key, property) :: rest else (other, old) :: putNamed key property rest

theorem findNamed_putNamed_self (key : Key) (property : Property) (named : List (Key × Property)) :
    findNamed key (putNamed key property named) = some property := by
  induction named with
  | nil => simp [putNamed, findNamed]
  | cons entry rest ih =>
    by_cases h : entry.1 = key
    · simp [putNamed, findNamed, h]
    · simp [putNamed, findNamed, h, ih]

/-- The property that an object itself keeps under a key. -/
def property? (object : Object) : Key → Option Property
  | .index index => object.indexed.get? index
  | key => findNamed key object.named

/-- The object with a property put under a key. -/
def put (object : Object) (key : Key) (property : Property) : Object :=
  match key with
  | .index index => { object with indexed := object.indexed.insert index property }
  | key => { object with named := putNamed key property object.named }

/-- The object without the property of a key. -/
def remove (object : Object) (key : Key) : Object :=
  match key with
  | .index index => { object with indexed := object.indexed.erase index }
  | key => { object with named := object.named.filter fun entry => entry.1 ≠ key }

/-- Whether an object can be called. -/
def isCallable (object : Object) : Bool :=
  match object.kind with
  | .closure _ | .builtin _ _ | .host _ _ | .bound _ _ _ | .resolver _ _ _ _
  | .finallyStep _ _ _ | .finallyCall _ _ _ => true
  | _ => false

end Object

/-! ## Scopes and realms -/

/-- A binding of a scope; it has no value until it is initialized. -/
structure Binding where
  value : Option Value
  mutable : Bool

/-- A scope. One with an object takes its bindings from the properties of that object. -/
structure Scope where
  parent : Option ScopeId
  bindings : List (String × Binding) := []
  object : Option ObjectId := none
  /-- The value of `this`, where the scope is that of a function or a script. -/
  this : Option Value := none

instance : Inhabited Scope := ⟨{ parent := none }⟩

/-- A realm: where its intrinsics start, its scope of lexical bindings, and the names that scripts
declared with `var` or as functions. -/
structure RealmRecord where
  base : ObjectId
  scope : ScopeId
  varNames : List String := []

instance : Inhabited RealmRecord := ⟨{ base := 0, scope := .made 0 }⟩

/-! ## The store -/

/-- The bounds on running scripts. -/
structure Limits where
  loops : Nat
  depth : Nat
  slots : Nat

/-- What running scripts and functions use up. -/
structure Load where
  /-- The scripts and functions that are running. -/
  activations : Nat := 0
  /-- The places in use on the stack of values. -/
  slots : Nat := 0
  /-- The loop iterations of the running script or function. -/
  loops : Nat := 0

/-- Everything that scripts can reach, with what their running uses up. -/
structure Store where
  objects : Std.TreeMap Nat Object := {}
  nextObject : ObjectId := 0
  scopes : Std.TreeMap Nat Scope := {}
  nextScope : Nat := 0
  realms : Std.TreeMap Nat RealmRecord := {}
  nextSymbol : Nat := Symbol.firstFree
  limits : Limits
  load : Load := {}
  /-- A bound was reached since the last script or job began. -/
  limited : Bool := false
  /-- The milliseconds that dates start from. -/
  time : Nat := 1700000000000

namespace Store

/-! ### What is used up -/

/-- The store as it is when nothing runs. This is all that scripts can tell. -/
def idle (store : Store) : Store :=
  { store with load := {}, limited := false }

/-- The store with what another one has used up. -/
def usedAs (store other : Store) : Store :=
  { store with load := other.load, limited := other.limited }

/-- A change of what scripts can tell, whatever is used up. -/
def unloaded (change : Store → Store) (store : Store) : Store :=
  (change store.idle).usedAs store

/-! ### Parts -/

/-- An object. -/
def object (store : Store) (id : ObjectId) : Object :=
  (store.objects.get? id).getD {}

/-- The store with an object replaced. -/
def setObject (store : Store) (id : ObjectId) (object : Object) : Store :=
  { store with objects := store.objects.insert id object }

/-- The store with an object changed. -/
def modifyObject (store : Store) (id : ObjectId) (change : Object → Object) : Store :=
  store.setObject id (change (store.object id))

/-- A new object. -/
def allocate (store : Store) (object : Object) : ObjectId × Store :=
  (store.nextObject,
    { store with
      objects := store.objects.insert store.nextObject object
      nextObject := store.nextObject + 1 })

/-- A scope. That of a script has no bindings of its own and lies where the one lies that it
shows. -/
def scope (store : Store) : ScopeId → Scope
  | .made place => (store.scopes.get? place).getD default
  | .script keeper _ => { parent := (store.scope keeper).parent }

/-- The store with a scope changed that has a place in it. -/
def modifyScope (store : Store) (id : ScopeId) (change : Scope → Scope) : Store :=
  { store with
    scopes :=
      match id with
      | .made place => store.scopes.insert place (change (store.scope id))
      | .script _ _ => store.scopes }

/-- A new scope. -/
def allocateScope (store : Store) (scope : Scope) : ScopeId × Store :=
  (.made store.nextScope,
    { store with
      scopes := store.scopes.insert store.nextScope scope
      nextScope := store.nextScope + 1 })

/-- A realm. -/
def realm (store : Store) (realm : Realm) : RealmRecord :=
  (store.realms.get? realm).getD default

/-- The store with a realm changed. -/
def modifyRealm (store : Store) (realm : Realm) (change : RealmRecord → RealmRecord) : Store :=
  { store with realms := store.realms.insert realm (change (store.realm realm)) }

/-- The place of an intrinsic of a realm. -/
def intrinsic (store : Store) (realm : Realm) (intrinsic : Intrinsic) : ObjectId :=
  (store.realm realm).base + intrinsic.place

/-! ### Properties of objects -/

/-- The length of an array, and of a text in an object. -/
def lengthOf (object : Object) : Nat :=
  match object.property? (.ofString "length") with
  | some ⟨.data (.number length) _, _, _⟩ => length.toUInt64.toNat
  | _ => 0

/-- The property of an object that it has of its own, with the elements of texts and typed
arrays. -/
def ownProperty? (store : Store) (id : ObjectId) (key : Key) : Option Property :=
  let object := store.object id
  match object.kind, key with
  | .boxed (.text text), .index index =>
    match text.units[index]? with
    | some unit => some ⟨.data (.text ⟨[unit]⟩) false, true, false⟩
    | none => object.property? key
  | .elements _ values, .index index =>
    values[index]?.map fun value => ⟨.data (.number value) true, true, true⟩
  | _, _ => object.property? key

/-- The property of an object or of the objects it inherits from, up to a number of them. -/
def findProperty? (store : Store) (key : Key) : Nat → ObjectId → Option Property
  | 0, _ => none
  | bound + 1, id =>
    match store.ownProperty? id key with
    | some property => some property
    | none =>
      match (store.object id).prototype with
      | some prototype => findProperty? store key bound prototype
      | none => none

/-- The property that an object has, its own or an inherited one. -/
def property? (store : Store) (id : ObjectId) (key : Key) : Option Property :=
  store.findProperty? key (store.objects.size + 1) id

/-- The keys of an object: indices in order, then texts in the order in which they were made, then
symbols. -/
def ownKeys (store : Store) (id : ObjectId) : List Key :=
  let object := store.object id
  let elements := match object.kind with
    | .boxed (.text text) => (List.range text.length).map Key.index
    | .elements _ values => (List.range values.size).map Key.index
    | _ => []
  let names := object.named.map (·.1)
  let isSymbol := fun key : Key => match key with
    | .symbol _ => true
    | _ => false
  elements ++ object.indexed.keys.map Key.index ++ names.filter (!isSymbol ·) ++
    names.filter isSymbol

/-- The store with a property put on an object. An index beyond the length of an array makes the
array longer. -/
def putProperty (store : Store) (id : ObjectId) (key : Key) (property : Property) : Store :=
  let object := store.object id
  let object := match object.kind, key with
    | .array, .index index =>
      if lengthOf object ≤ index then
        object.put (.ofString "length") ⟨.data (.ofNat (index + 1)) true, false, false⟩
      else object
    | _, _ => object
  store.setObject id (object.put key property)

/-- The store with the length of an array changed; elements beyond it go. -/
def setLength (store : Store) (id : ObjectId) (length : Nat) : Store :=
  store.modifyObject id fun object =>
    let gone := object.indexed.keys.filter (length ≤ ·)
    let kept := { object with indexed := gone.foldl (·.erase ·) object.indexed }
    kept.put (.ofString "length") ⟨.data (.ofNat length) true, false, false⟩

/-! ### New objects -/

/-- A new object without properties that inherits from an intrinsic. -/
def newObject (store : Store) (realm : Realm) (className : ClassName) (kind : ObjectKind) :
    ObjectId × Store :=
  store.allocate
    { kind := kind, prototype := some (store.intrinsic realm (.prototype className)) }

/-- A new array of values, where a missing one is a hole. -/
def newArray (store : Store) (realm : Realm) (values : List (Option Value)) : ObjectId × Store :=
  let indexed := values.zipIdx.foldl
    (fun (indexed : Std.TreeMap Nat Property) entry =>
      match entry.1 with
      | some value => indexed.insert entry.2 (.plain value)
      | none => indexed)
    {}
  store.allocate
    { kind := .array
      prototype := some (store.intrinsic realm (.prototype .array))
      indexed := indexed
      named := [(.ofString "length", ⟨.data (.ofNat values.length) true, false, false⟩)] }

/-- A new object around a primitive value. -/
def newBoxed (store : Store) (prototype : ObjectId) (value : Value) : ObjectId × Store :=
  store.allocate
    { kind := .boxed value
      prototype := some prototype
      named := match value with
        | .text text => [(.ofString "length", .fixed (.ofNat text.length))]
        | _ => [] }

/-- A new error with a message. -/
def newError (store : Store) (realm : Realm) (kind : ErrorKind) (message : WideText) :
    ObjectId × Store :=
  store.allocate
    { kind := .error
      prototype := some (store.intrinsic realm (.prototype (.error kind)))
      named := [(.ofString "message", .hidden (.text message))] }

/-- A new function that is no closure, with its length and name. -/
def newFunction (store : Store) (realm : Realm) (kind : ObjectKind) (name : WideText)
    (length : Nat) : ObjectId × Store :=
  store.allocate
    { kind := kind
      prototype := some (store.intrinsic realm (.prototype .function))
      named :=
        [(.ofString "length", .readOnly (.ofNat length)),
          (.ofString "name", .readOnly (.text name))] }

/-- A new object that holds the arguments of a call, with the method that iterates over them and,
where there is one, the function that was called. -/
def newArguments (store : Store) (realm : Realm) (arguments : List Value) (values : Value)
    (callee : Option ObjectId) : ObjectId × Store :=
  let (id, store) := store.newObject realm .object .arguments
  let store := arguments.zipIdx.foldl
    (fun store entry => store.putProperty id (.ofNat entry.2) (.plain entry.1)) store
  let store := store.putProperty id (.ofString "length") (.hidden (.ofNat arguments.length))
  let store := store.putProperty id (.symbol .iterator) (.hidden values)
  (id, match callee with
    | none => store
    | some callee => store.putProperty id (.ofString "callee") (.hidden (.object callee)))

/-! ### Growth -/

/-- From one store to another objects are made under new names, and every realm stays where it
is. -/
structure GrowsTo (store after : Store) : Prop where
  nextObject_le : store.nextObject ≤ after.nextObject
  base_eq (realm : Realm) : (after.realm realm).base = (store.realm realm).base

namespace GrowsTo

variable {store middle after : Store}

theorem refl (store : Store) : store.GrowsTo store :=
  ⟨Nat.le_refl _, fun _ => rfl⟩

theorem trans (hfirst : store.GrowsTo middle) (hsecond : middle.GrowsTo after) :
    store.GrowsTo after :=
  ⟨Nat.le_trans hfirst.nextObject_le hsecond.nextObject_le,
    fun realm => (hsecond.base_eq realm).trans (hfirst.base_eq realm)⟩

/-- What is done for each entry of a list one after the other. -/
theorem foldl {α : Type} {change : Store → α → Store}
    (hchange : ∀ (store : Store) entry, store.GrowsTo (change store entry)) (entries : List α)
    (store : Store) : store.GrowsTo (entries.foldl change store) := by
  induction entries generalizing store with
  | nil => exact refl store
  | cons entry rest ih => exact (hchange store entry).trans (ih _)

/-- A change of a realm that leaves it where it is. -/
theorem modifyRealm {realm : Realm} {change : RealmRecord → RealmRecord}
    (hchange : ∀ record, (change record).base = record.base) (store : Store) :
    store.GrowsTo (store.modifyRealm realm change) where
  nextObject_le := Nat.le_refl _
  base_eq other := by
    show ((store.realms.insert realm (change (store.realm realm))).get? other |>.getD
      default).base = _
    by_cases h : realm = other
    · subst h
      rw [Std.TreeMap.get?_eq_getElem?, Std.TreeMap.getElem?_insert_self]
      exact hchange _
    · rw [Std.TreeMap.get?_eq_getElem?, Std.TreeMap.getElem?_insert,
        if_neg (by simpa using h)]
      rfl

end GrowsTo

theorem growsTo_newArguments (realm : Realm) (arguments : List Value) (values : Value)
    (callee : Option ObjectId) (store : Store) :
    store.GrowsTo (store.newArguments realm arguments values callee).2 := by
  have hput (id : ObjectId) (key : Key) (property : Property) (store : Store) :
      store.GrowsTo (store.putProperty id key property) :=
    ⟨Nat.le_refl _, fun _ => rfl⟩
  have hnew : store.GrowsTo (store.newObject realm .object .arguments).2 :=
    ⟨Nat.le_succ _, fun _ => rfl⟩
  have hall := hnew.trans (.foldl (fun middle entry =>
    hput store.nextObject (.ofNat entry.2) (.plain entry.1) middle) arguments.zipIdx _)
  refine hall.trans ?_
  cases callee with
  | none => exact ⟨Nat.le_refl _, fun _ => rfl⟩
  | some callee => exact ⟨Nat.le_refl _, fun _ => rfl⟩

end Store

end ScriptShell.Language
