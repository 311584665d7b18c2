import ScriptShell.Language.Interpreter

/-!
# Stores of their own

Most realms have nothing to do with each other. Here each realm is made with a store of its own, and
only where an object of one realm is handed to code of another one the two get a store in common:
realms with a common store are a region. Whatever the engine does in a realm, the interpreter does
with the store of its region.

What the engine hands out is marked with a realm whose region it belongs to (`Homed`). The objects
that a realm makes have names that no other realm gives, so that stores can be put together.

## Main definition

* `regional` is the interpreter as an engine that keeps regions apart.
-/

namespace ScriptShell.Language

/-! ## Regions -/

/-- The number of names that every realm has for what is made in it. -/
def namesEach : Nat := Nat.pow 2 64

namespace Store

/-- A store with nothing in it, for what is made in a realm. -/
def emptyFor (limits : Limits) (realm : Realm) : Store where
  limits := limits
  nextObject := namesEach * (realm + 1)
  nextScope := namesEach * (realm + 1)
  nextSymbol := namesEach * (realm + 1)

/-- Two stores put together. What is made goes on under the names of the first. -/
def union (store other : Store) : Store :=
  { store with
    objects := other.objects.foldl (·.insert) store.objects
    scopes := other.scopes.foldl (·.insert) store.scopes
    realms := other.realms.foldl (·.insert) store.realms }

end Store

/-- Some realms, and the store that they have in common. -/
structure Region where
  members : List Realm
  store : Store

/-- All realms with the regions that they belong to, and what running scripts use up. -/
structure Regions where
  regions : Std.TreeMap Nat Region := {}
  limits : Limits
  load : Load := {}

/-- Something that may refer to objects, with a realm of the region that they are in. What comes
from no realm refers to none. -/
structure Homed (α : Type) where
  home : Option Realm
  item : α

namespace Homed

/-- What the shell makes. -/
def nowhere {α : Type} (item : α) : Homed α :=
  ⟨none, item⟩

/-- What comes out of a realm. -/
def inRealm {α : Type} (realm : Realm) (item : α) : Homed α :=
  ⟨some realm, item⟩

/-- A value that comes out of a realm; only an object is bound to it. -/
def value (realm : Realm) (value : Value) : Homed Value :=
  if value.isObject then inRealm realm value else nowhere value

end Homed

namespace Regions

/-- The region of a realm. -/
def region (regions : Regions) (realm : Realm) : Region :=
  (regions.regions.get? realm).getD ⟨[], .emptyFor regions.limits realm⟩

/-- The store of the region of a realm, with what is used up by now. -/
def view (regions : Regions) (realm : Realm) : Store :=
  { (regions.region realm).store with load := regions.load }

/-- Puts a region in the place of those that its members were in. -/
def place (regions : Regions) (region : Region) : Regions :=
  { regions with
    regions := region.members.foldl (fun all member => all.insert member region)
      regions.regions }

/-- Gives the region of a realm another store. -/
def put (regions : Regions) (realm : Realm) (store : Store) : Regions :=
  regions.place { regions.region realm with store := store }

/-- Makes one region of those of two realms. -/
def join (regions : Regions) (realm other : Realm) : Regions :=
  if other ∈ (regions.region realm).members then regions
  else regions.place
    { members := (regions.region realm).members ++ (regions.region other).members
      store := (regions.region realm).store.union (regions.region other).store }

/-- Lets a realm have what something refers to. -/
def joinHome {α : Type} (regions : Regions) (realm : Realm) (homed : Homed α) : Regions :=
  match homed.home with
  | some home => regions.join realm home
  | none => regions

/-- Lets a realm have what the answer of a native refers to. -/
def joinAnswer (regions : Regions) (realm : Realm) :
    Except (Homed Fault) (Homed Value) → Regions
  | .ok value => regions.joinHome realm value
  | .error fault => regions.joinHome realm fault

/-- Makes a realm with a store of its own. -/
def found (regions : Regions) (realm : Realm) : Regions :=
  regions.place ⟨[realm], Store.createRealm realm (.emptyFor regions.limits realm)⟩

/-- The regions that the engine starts with under some options: those of one realm. -/
def start (options : Options) : Regions :=
  found
    { limits :=
        { loops := options.maxLoopIterations.toNat
          depth := options.maxRecursionDepth.toNat
          slots := options.maxStackSize.toNat } } 0

/-! ## Work in a region -/

/-- The answer of a native as the interpreter gets it. -/
def answerOf : Except (Homed Fault) (Homed Value) → Except Fault Value
  | .ok value => .ok value.item
  | .error fault => .error fault.item

/-- Has the interpreter do something in a realm, with the store of its region. Behind it as much is
used up as there was before. Natives of other realms than those of the region are out of reach. -/
def carry {α β : Type} (realm : Realm) (told : α → β) (load : Load) :
    Regions → Act α → Behaviour Regions (Homed Value) (Homed Fault) (Homed Job) β
  | regions, .finish store result =>
    .finish { regions.put realm store with load := load }
      ((result.map told).mapError (Homed.inRealm realm))
  | regions, .native store owner callee arguments resume =>
    if owner ∈ (regions.region realm).members then
      .native { regions.put realm store with load := store.load } owner callee
        (arguments.map (Homed.value realm)) fun given answer =>
          let joined := given.joinAnswer realm answer
          carry realm told load joined (resume (joined.view realm) (answerOf answer))
    else .exhausted
  | regions, .enqueue store job resume =>
    let left := { regions.put realm store with load := store.load }
    .enqueue left (Homed.inRealm realm job) fun given =>
      carry realm told load given (resume (given.view realm))
  | _, .exhausted => .exhausted

/-- What the interpreter does in a realm with the store of its region, as an operation of an
engine. -/
def actIn {α β : Type} (regions : Regions) (realm : Realm) (told : α → β)
    (operation : Store → Act α) : Behaviour Regions (Homed Value) (Homed Fault) (Homed Job) β :=
  carry realm told regions.load regions (operation (regions.view realm))

/-- The store that something refers to. -/
def storeOf {α : Type} (regions : Regions) (homed : Homed α) : Store :=
  match homed.home with
  | some home => regions.view home
  | none => .emptyFor regions.limits 0

end Regions

/-! ## The engine -/

/-- The interpreter as an engine of the shell that keeps regions apart. -/
def regional : Engine where
  Store := Regions
  Value := Homed Value
  Fault := Homed Fault
  Job := Homed Job
  Code := Code
  start := Regions.start
  createRealm realm regions := .ok (regions.found realm)
  install realm natives arguments regions :=
    (regions.put realm ((regions.view realm).install realm natives arguments), .ok ())
  parse options source := (parseScript options source).mapError Homed.nowhere
  evaluate realm code regions :=
    regions.actIn realm (Homed.value realm) (engine.evaluate realm code)
  runJob realm job regions :=
    (regions.joinHome realm job).actIn realm id (engine.runJob realm job.item)
  toText realm value regions :=
    (regions.joinHome realm value).actIn realm id (engine.toText realm value.item)
  toNumber realm value regions :=
    (regions.joinHome realm value).actIn realm id (engine.toNumber realm value.item)
  stack realm value regions :=
    (regions.joinHome realm value).actIn realm (Homed.value realm) (engine.stack realm value.item)
  display value regions := engine.display value.item (regions.storeOf value)
  thrown realm fault regions :=
    let joined := regions.joinHome realm fault
    let (value, store) := engine.thrown realm fault.item (joined.view realm)
    (Homed.value realm value, joined.put realm store)
  limitText? fault := engine.limitText? fault.item
  faultText fault regions := engine.faultText fault.item (regions.storeOf fault)
  isObject value := engine.isObject value.item
  isNullish value := engine.isNullish value.item
  undefined := .nowhere .undefined
  null := .nowhere .null
  ofText text := .nowhere (engine.ofText text)
  ofNumber number := .nowhere (engine.ofNumber number)
  errorOf message := .nowhere (engine.errorOf message)

end ScriptShell.Language
