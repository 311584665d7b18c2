import ScriptShell.Language.Expression

/-!
# Statements

How a statement ends, and the value that it leaves. A statement without a value of its own leaves
the one before it; a conditional, a loop and the like have a value always, if only `undefined`.
-/

namespace ScriptShell.Language.Run

/-! ## Blocks -/

/-- Whether the statements of a block declare anything in it. -/
def declares (body : List Statement) : Bool :=
  !(lexicalNames body).isEmpty || !(declaredFunctions body).isEmpty

/-- Executes the statements of a block in a scope of its own. -/
def executeBlock (body : List Statement) : Run Completion :=
  if declares body then
    inNewScope (fun parent => { parent := parent }) do
      declareBlock body
      executeAll body
  else executeAll body

/-- A completion that has a value, if only `undefined`. -/
def valued (completion : Completion) : Completion :=
  completion.orElse (some .undefined)

/-- Evaluates the initializer of a declaration. A name without one is `undefined`, except that
`var` leaves it alone. -/
def declareOne (kind : VariableKind) (pattern : Pattern) (value : Option Expression) :
    Run Unit := do
  match kind, value with
  | .var, none => return ()
  | .var, some expression =>
    discard (assignment pattern expression)
  | _, none => bindPattern .introduce pattern .undefined
  | _, some expression => bindPattern .introduce pattern (← evaluate expression)

/-- Evaluates declarations in their order. -/
def declareEach (kind : VariableKind) : List (Pattern × Option Expression) → Run Unit
  | [] => return ()
  | (pattern, value) :: rest => do
    declareOne kind pattern value
    declareEach kind rest

/-! ## Loops -/

/-- Counts an iteration, up to the limit. -/
def tick : Run Unit :=
  spend fun limits load =>
    if limits.loops < load.loops then
      .error ("Maximum loop iteration limit " ++ limits.loops.repr ++ " exceeded")
    else .ok { load with loops := load.loops + 1 }

/-- What a loop does after a round of its body: it goes on with a value, or it ends. -/
def afterRound (labels : List String) (value : Option Value) (completion : Completion) :
    Option Value ⊕ Completion :=
  match completion.orElse value with
  | .normal value => .inl value
  | .continued none value => .inl value
  | .continued (some label) value =>
    if labels.contains label then .inl value else .inr (.continued (some label) value)
  | .broke none value => .inr (.normal value)
  | completion => .inr completion

/-- A round of a loop: it goes on with a value, or it ends. -/
abbrev Round := Option Value → Run (Option Value ⊕ Completion)

/-- Repeats the rounds of a loop. The value of a loop is `undefined` at first. -/
def loopRounds (round : Round) : Run Completion :=
  untilDone (some Value.undefined) round

/-- A round of a loop that tests before its body. -/
def whileRound (labels : List String) (test : Expression) (body : Statement) : Round :=
  fun value => do
    tick
    if (← evaluate test).truthy then return afterRound labels value (← execute body)
    else return .inr (.normal value)

/-- A round of a loop that tests behind its body. -/
def doRound (labels : List String) (body : Statement) (test : Expression) : Round :=
  fun value => do
    match afterRound labels value (← execute body) with
    | .inr completion => return .inr completion
    | .inl value =>
      tick
      if (← evaluate test).truthy then return .inl value else return .inr (.normal value)

/-- A copy of a scope with the same bindings. -/
def copyScope (id : ScopeId) : Run ScopeId :=
  makeIn fun store => store.allocateScope (store.scope id)

/-- The rounds of a loop with a start, in the scope of its variables. Each round has a copy of that
scope, so that functions made in it keep the values of their round. -/
def forRounds (copies : Bool) (labels : List String) (test step : Option Expression)
    (body : Statement) : Run Completion := do
  let site ← site
  let next := fun scope => if copies then copyScope scope else pure scope
  let first ← next site.scope
  untilDone (first, some Value.undefined) fun (scope, value) => do
    let goesOn ← inSite { site with scope := scope } do
      match test with
      | none => return true
      | some test => return (← evaluate test).truthy
    if !goesOn then return .inr (.normal value)
    else
      match afterRound labels value (← inSite { site with scope := scope } (execute body)) with
      | .inr completion => return .inr completion
      | .inl value =>
        tick
        let scope ← next scope
        match step with
        | none => return .inl (scope, value)
        | some step =>
          discard (inSite { site with scope := scope } (evaluate step))
          return .inl (scope, value)

/-- A loop with a start. -/
def forLoop (labels : List String) (start : Option Statement) (test step : Option Expression)
    (body : Statement) : Run Completion := do
  match start with
  | some (.declares .var declarations) =>
    declareEach .var declarations
    forRounds false labels test step body
  | some (.declares kind declarations) =>
    inNewScope (fun parent => { parent := parent }) do
      declareBlock [.declares kind declarations]
      declareEach kind declarations
      forRounds (kind = .lexical) labels test step body
  | some (.expression expression) =>
    discard (evaluate expression)
    forRounds false labels test step body
  | _ => forRounds false labels test step body

/-- Stores the subject of a round where a loop says and executes the body. -/
def executeRound (kind : Option VariableKind) (pattern : Pattern) (value : Value)
    (body : Statement) : Run Completion := do
  match kind with
  | some .lexical | some .constant =>
    inNewScope (fun parent => { parent := parent }) do
      declareBlock [.declares (kind.getD .lexical) [(pattern, none)]]
      bindPattern .introduce pattern value
      execute body
  | _ =>
    bindPattern .assign pattern value
    execute body

/-- A loop over the values of an iterable. A loop that ends early closes the iterator, unless a
bound was reached. -/
def forValues (labels : List String) (kind : Option VariableKind) (pattern : Pattern)
    (subject : Value) (body : Statement) : Run Completion := do
  let iterator ← iteratorOf subject
  loopRounds fun value => do
    tick
    match ← nextOf iterator with
    | none => return .inr (.normal value)
    | some item =>
      match ← (executeRound kind pattern item body).outcome with
      | .error (.limit message) => raise (.limit message)
      | .error fault =>
        discard (closeIterator iterator).outcome
        raise fault
      | .ok completion =>
        match afterRound labels value completion with
        | .inl value => return .inl value
        | .inr completion =>
          closeIterator iterator
          return .inr completion

/-- The keys that a loop over an object visits: its own ones and then those of the objects it
inherits from, up to a number of them, without those that are hidden or not listed. -/
def listedKeys (store : Store) : Nat → List Key → ObjectId → List Key
  | 0, _, _ => []
  | bound + 1, seen, id =>
    let keys := (store.ownKeys id).filter fun key =>
      match key with
      | .symbol _ => false
      | key => !seen.contains key
    let listed := keys.filter fun key => (store.ownProperty? id key).any (·.enumerable)
    listed ++ match (store.object id).prototype with
      | some prototype => listedKeys store bound (seen ++ keys) prototype
      | none => []

/-- The rounds of a loop over keys. A key that is gone by its turn is left out. -/
def keyRounds (labels : List String) (kind : Option VariableKind) (pattern : Pattern)
    (object : ObjectId) (body : Statement) (value : Option Value) : List Key → Run Completion
  | [] => return .normal value
  | key :: rest => do
    tick
    if ← hasProperty object key then
      match afterRound labels value (← executeRound kind pattern key.toValue body) with
      | .inl value => keyRounds labels kind pattern object body value rest
      | .inr completion => return completion
    else keyRounds labels kind pattern object body value rest

/-- A loop over the keys of a value. -/
def forKeys (labels : List String) (kind : Option VariableKind) (pattern : Pattern)
    (subject : Value) (body : Statement) : Run Completion := do
  if subject.isNullish then return .normal (some .undefined)
  else
    let object ← toObject subject
    let store ← store
    keyRounds labels kind pattern object body (some .undefined)
      (listedKeys store (store.objects.size + 1) [] object)

/-! ## Exceptions -/

/-- Executes the handler of an exception. -/
def executeHandler (parameter : Option Pattern) (body : List Statement) (reason : Value) :
    Run Completion :=
  match parameter with
  | none => executeBlock body
  | some pattern =>
    inNewScope (fun parent => { parent := parent }) do
      bindPattern .introduce pattern reason
      executeBlock body

/-- Executes statements with a handler for exceptions, if there is one. -/
def executeGuarded (body : List Statement) (handler : Option (Option Pattern × List Statement)) :
    Run Completion :=
  match handler with
  | none => executeBlock body
  | some (parameter, statements) =>
    handling (executeBlock body) (executeHandler parameter statements)

/-- Executes statements and then, whatever happened, other ones. What these end with counts only
if they do not end normally; a reached limit skips them. -/
def executeFinally (action : Run Completion) (finalizer : List Statement) : Run Completion := do
  match ← action.outcome with
  | .error (.limit message) => raise (.limit message)
  | result =>
    match ← executeBlock finalizer with
    | .normal _ =>
      match result with
      | .ok completion => return completion
      | .error fault => raise fault
    | completion => return valued completion

/-! ## Switches -/

/-- The place of the first case whose test is equal to a value. -/
def matchingCase (subject : Value) (place : Nat) :
    List (Option Expression × List Statement) → Run (Option Nat)
  | [] => return none
  | (none, _) :: rest => matchingCase subject (place + 1) rest
  | (some test, _) :: rest => do
    if subject.same (← withSlots 1 (evaluate test)) then return some place
    else matchingCase subject (place + 1) rest

/-- Executes the case that a value selects and those behind it. -/
def executeSwitch (subject : Value) (cases : List (Option Expression × List Statement)) :
    Run Completion := do
  let body := cases.flatMap fun entry => entry.2
  inNewScope (fun parent => { parent := parent }) do
    declareBlock body
    let found ← matchingCase subject 0 cases
    let default? := List.findIdx? (fun entry => Option.isNone (Prod.fst entry)) cases
    match found.or default? with
    | none => return .normal none
    | some place => executeAll ((cases.drop place).flatMap Prod.snd)

/-- A `break` without a label ends a switch. -/
def afterSwitch : Completion → Completion
  | .broke none value => .normal value
  | completion => completion

/-! ## All statements -/

/-- How a statement ends that stands behind some labels. -/
def labelledCompletion (labels : List String) : Statement → Run Completion
  | .empty => return .normal none
  | .expression value => do return .normal (some (← evaluate value))
  | .declares kind declarations => do
    declareEach kind declarations
    return .normal none
  | .function _ => return .normal none
  | .returns none => return .returned .undefined
  | .returns (some value) => do return .returned (← evaluate value)
  | .branch test consequent alternative => do
    if (← evaluate test).truthy then return valued (← execute consequent)
    else
      match alternative with
      | some statement => return valued (← execute statement)
      | none => return .normal (some .undefined)
  | .whileLoop test body => loopRounds (whileRound labels test body)
  | .doLoop body test => loopRounds (doRound labels body test)
  | .forLoop start test step body => forLoop labels start test step body
  | .forEach overValues kind pattern subject body => do
    let subject ← evaluate subject
    if overValues then forValues labels kind pattern subject body
    else forKeys labels kind pattern subject body
  | .breaks label => return .broke label none
  | .continues label => return .continued label none
  | .throws value => do raise (.thrown (← evaluate value))
  | .attempt body handler none => do return valued (← executeGuarded body handler)
  | .attempt body handler (some finalizer) => do
    return valued (← executeFinally (executeGuarded body handler) finalizer)
  | .block body => executeBlock body
  | .switch subject cases => do
    let subject ← evaluate subject
    return valued (afterSwitch (← executeSwitch subject cases))
  | .labelled label body => do
    match ← labelledCompletion (label :: labels) body with
    | .broke (some target) value =>
      if target = label then return .normal value else return .broke (some target) value
    | completion => return completion
  | .scoped object body => do
    let object ← toObject (← evaluate object)
    return valued (← inNewScope (fun parent => { parent := parent, object := some object })
      (execute body))

/-- How a statement ends. -/
def completion (statement : Statement) : Run Completion :=
  labelledCompletion [] statement

end ScriptShell.Language.Run
