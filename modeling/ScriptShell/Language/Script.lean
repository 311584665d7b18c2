import ScriptShell.Language.Parse
import ScriptShell.Language.Statement

/-!
# Scripts

A script runs in the scope of its realm. Before anything executes its declarations are entered:
names of `var` and functions become properties of the global object that cannot be deleted, names of
`let` and `const` become bindings of the realm. A name must not be declared in both ways, or twice
in the second way, by all scripts of a realm together.

What a name leads to is settled when a script starts: its code, functions included, does not see
what scripts that start later declare with `let` and `const`.
-/

namespace ScriptShell.Language.Run

/-! ## Declarations -/

/-- Whether the global object has a property of its own that must not be shadowed. -/
def isRestricted (store : Store) (global : ObjectId) (name : String) : Bool :=
  (store.ownProperty? global (.ofString name)).any fun property => !property.configurable

/-- Fails if declarations of a script conflict with those of earlier ones. -/
def checkDeclarations (lexical ofVar : List String) : Run Unit := do
  let store ← store
  let record := store.realm (← realm)
  let global ← globalObject
  let isLexical := fun name => ((store.scope record.scope).binding? name).isSome
  if lexical.any (fun name => record.varNames.contains name || isLexical name) ||
      ofVar.any isLexical then
    fail .syntaxError "duplicate lexical declaration"
  else if lexical.any (isRestricted store global) then
    fail .syntaxError "cannot redefine non-configurable global property"
  else return ()

/-- Enters a name of `var`: the global object gets a property unless it has one. -/
def declareGlobalVariable (name : String) : Run Unit := do
  let global ← globalObject
  let key := Key.ofString name
  let store ← store
  if (store.ownProperty? global key).isSome || !(store.object global).extensible then return ()
  else modifyStore fun store => store.putProperty global key ⟨.data .undefined true, true, false⟩

/-- Enters a function of a script. -/
def declareGlobalFunction (definition : FunctionSyntax) : Run Unit := do
  let global ← globalObject
  let key := Key.ofString definition.name
  let value ← makeFunction definition
  match (← store).ownProperty? global key with
  | some ⟨.data _ true, true, false⟩ =>
    modifyStore fun store => store.putProperty global key ⟨.data value true, true, false⟩
  | some ⟨_, _, false⟩ => typeError ("cannot redeclare the function " ++ definition.name)
  | _ => modifyStore fun store => store.putProperty global key ⟨.data value true, true, false⟩

/-- Enters names of `var`. -/
def declareGlobalVariables : List String → Run Unit
  | [] => return ()
  | name :: rest => do
    declareGlobalVariable name
    declareGlobalVariables rest

/-- Enters the functions of a script. -/
def declareGlobalFunctions : List FunctionSyntax → Run Unit
  | [] => return ()
  | definition :: rest => do
    declareGlobalFunction definition
    declareGlobalFunctions rest

/-- Enters the names of `let` and `const` of a script. The scope of the script shows all such names
that are declared by now. -/
def enterLexical (keeper : ScopeId) (names : List (String × Bool)) : Run ScopeId :=
  makeIn
    (fun store =>
      let store := store.declareLexical keeper names
      (.script keeper ((store.scope keeper).bindings.map Prod.fst), store))
    (Store.growsTo_declareLexical keeper names)

/-- Enters the names of `var` and the functions of a script. -/
def enterVariables (ofVar : List String) (functions : List FunctionSyntax) : Run Unit := do
  let realm ← realm
  let names := ofVar ++ functions.map (·.name)
  if names.isEmpty then return ()
  modifyStore
    (fun store => store.modifyRealm realm fun record =>
      { record with varNames := names.filter (!record.varNames.contains ·) ++ record.varNames })
    (.modifyRealm fun _ => rfl)
  declareGlobalFunctions functions
  declareGlobalVariables ofVar

/-! ## Running -/

/-- Runs a script and gives its completion value. -/
def runScript (code : Code) : Run Value := do
  let realm ← realm
  let keeper := ((← store).realm realm).scope
  let lexical := lexicalNames code.body
  let functions := declaredFunctions code.body
  let ofVar := varNames code.body
  activated 2 do
    checkDeclarations (lexical.map (·.1)) (ofVar ++ functions.map (·.name))
    let scope ← enterLexical keeper lexical
    inSite ⟨realm, scope, code.strict⟩ do
      enterVariables ofVar functions
      return (← executeAll code.body).result

end ScriptShell.Language.Run
