import ScriptShell.Language.Numerals
import ScriptShell.Language.Store
import ScriptShell.Text.Field

/-!
# Showing values

The rendering of values for people. It reads the store and runs no script code: getters are not
called and nothing is converted.

Arrays, collections, errors, promises and boxed primitive values have forms of their own on the
outermost level. All other objects list their properties, one a line, and below that level every
object does; an object inside itself is not shown again.
-/

namespace ScriptShell.Language.Display

/-! ## Primitive values -/

/-- A number in words; a negative zero keeps its sign. -/
def number (value : Float) : String :=
  if value == 0.0 && value.toBits != 0 then "-0" else (Numerals.toText value).escaped

/-- A value that is no object. A text stands in quotes, and nothing in it is escaped. -/
def primitive : Value → String
  | .undefined => "undefined"
  | .null => "null"
  | .boolean value => if value then "true" else "false"
  | .number value => number value
  | .bigint value => (Numerals.integerToText 10 value).escaped ++ "n"
  | .text value => "\"" ++ value.escaped ++ "\""
  | .symbol value => value.describe.escaped
  | .object _ => ""

/-! ## Properties, one a line -/

/-- What is shown of a property with a getter or a setter. -/
def accessorText : String := "Getter & Setter"

/-- The properties that an object itself keeps, those with an index first. -/
def ownEntries (object : Object) : List (Key × Property) :=
  let isSymbol := fun entry : Key × Property => match entry.1 with
    | .symbol _ => true
    | _ => false
  object.indexed.toList.map (fun entry => (Key.index entry.1, entry.2)) ++
    object.named.filter (!isSymbol ·) ++ object.named.filter isSymbol

/-- A key at the end of a field. -/
def keyField (width : Nat) (key : Key) : String :=
  String.ofList (padLeft width ' ' key.describe.escaped.toList)

/-- The properties of an object, indented to some depth. An object among its `ancestors` is a
cycle. The bound is on the depth of objects inside each other. -/
def listing (store : Store) : Nat → List ObjectId → Nat → ObjectId → String
  | 0, _, _, _ => "[Cycle]"
  | bound + 1, ancestors, depth, id =>
    if ancestors.contains id then "[Cycle]"
    else
      let line := fun entry : Key × Property =>
        let shown := match entry.2.slot with
          | .accessor _ _ => accessorText
          | .data (.object inner) _ => listing store bound (id :: ancestors) (depth + 4) inner
          | .data value _ => primitive value
        keyField depth entry.1 ++ ": " ++ shown
      "\x7b\n" ++ ",\n".intercalate ((ownEntries (store.object id)).map line) ++ "\n" ++
        String.ofList (List.replicate (depth - 4) ' ') ++ "\x7d"

/-- The properties of an object. -/
def properties (store : Store) (id : ObjectId) : String :=
  listing store (store.objects.size + 1) [] 4 id

/-! ## Values -/

/-- The value of a property that an object has, its own or an inherited one, without a getter. -/
def storedValue? (store : Store) (id : ObjectId) (name : String) : Option Value :=
  match store.property? id (.ofString name) with
  | some ⟨.data value _, _, _⟩ => some value
  | _ => none

/-- Two parts with a colon between them, or the only one that is not empty. -/
def headed (name message : String) : String :=
  if name = "" then message
  else if message = "" then name
  else name ++ ": " ++ message

/-- The values of an array, where a missing one is a hole. -/
def arrayItems (object : Object) : List (Option Value) :=
  (List.range (Store.lengthOf object)).map fun index =>
    match object.indexed.get? index with
    | some ⟨.data value _, _, _⟩ => some value
    | _ => none

/-- Items between braces, behind a word. -/
def braced (word : String) (items : List String) : String :=
  word ++ " \x7b " ++ ", ".intercalate items ++ " \x7d"

/-- The form of an array or a collection that shows nothing of its items: one that is empty, or
inside another one. -/
def brief? (outermost : Bool) (object : Object) : Option String :=
  match object.kind with
  | .array =>
    let count := Store.lengthOf object
    if !outermost then some ("Array(" ++ count.repr ++ ")")
    else if count = 0 then some "[]"
    else none
  | .map entries =>
    if entries.isEmpty || !outermost then some ("Map(" ++ entries.length.repr ++ ")") else none
  | .set entries =>
    if entries.isEmpty || !outermost then some ("Set(" ++ entries.length.repr ++ ")") else none
  | _ => none

/-- A value. An object among its `ancestors` is a cycle. The bound is on the depth of objects inside
each other. -/
def valueWith (store : Store) : Nat → List ObjectId → Bool → Value → String
  | 0, _, _, _ => "[Cycle]"
  | bound + 1, ancestors, outermost, .object id =>
    let object := store.object id
    match brief? outermost object with
    | some text => text
    | none =>
      if ancestors.contains id then "[Cycle]"
      else
        let shown := valueWith store bound (id :: ancestors)
        match object.kind with
        | .boxed (.text text) => braced "String" [primitive (.text text)]
        | .boxed (.number value) => braced "Number" [number value]
        | .boxed (.boolean value) => braced "Boolean" [primitive (.boolean value)]
        | .array =>
          let texts := (arrayItems object).map fun
            | some value => shown false value
            | none => "<empty>"
          "[ " ++ ", ".intercalate texts ++ " ]"
        | .map entries =>
          braced "Map" (entries.map fun entry => shown false entry.1 ++ " → " ++ shown false entry.2)
        | .set entries => braced "Set" (entries.map (shown false))
        | .error =>
          let part := fun (name missing : String) => match storedValue? store id name with
            | some (.text text) => text.escaped
            | some value => shown true value
            | none => missing
          headed (part "name" "<error>") (part "message" "")
        | .promise state =>
          match state with
          | .pending _ => braced "Promise" ["<pending>"]
          | .fulfilled value => braced "Promise" [shown true value]
          | .rejected reason => braced "Promise" ["Rejected(" ++ shown true reason ++ ")"]
        | _ => properties store id
  | _, _, _, value => primitive value

/-- A value. -/
def value (store : Store) (value : Value) : String :=
  valueWith store (store.objects.size + 2) [] true value

end ScriptShell.Language.Display
