import ScriptShell.Proofs.Session.FileCalls

/-!
# How something thrown crosses evaluations

A script that has a file evaluated gets what the file threw as the answer to its call, and may catch
it. If it does not, the error comes out of the script, and so on to the outermost evaluation. That
it is one and the same error all the way is an induction over the evaluations that it comes out of
(`Visit.Throws`), where each step is about one call (`Host.Reaches.outcome_eq`,
`Host.answered_of_threw`).

## Main results

* `Visit.Throws.works`: the induction.
* `thrown_crosses_unchanged`.
-/

namespace ScriptShell

variable {engine : Engine}

namespace Host

variable {budget : Nat} {session : Session engine}

/-! ## Script code that calls -/

/-- Followed from a session on, a behaviour comes to a call: the session there, and what the engine
does with the answer. -/
inductive Reaches {α : Type} (answer : Answer engine) (call : Call engine)
    (resume : engine.Store → Except engine.Fault engine.Value → engine.Acts α)
    (called : Session engine) : engine.Acts α → Session engine → Prop
  | here {store : engine.Store} {session : Session engine}
      (hcalled : called = { session with store := store }) :
      Reaches answer call resume called
        (.native store call.realm call.native call.arguments resume) session
  | native {store : engine.Store} {realm : Realm} {native : Native} {arguments : List engine.Value}
      {next : engine.Store → Except engine.Fault engine.Value → engine.Acts α}
      {given : Except engine.Fault engine.Value} {session answered : Session engine}
      (hends : Ends (answer realm native arguments).run { session with store := store } given
        answered)
      (hreaches : Reaches answer call resume called (next answered.store given) answered) :
      Reaches answer call resume called (.native store realm native arguments next) session
  | enqueue {store : engine.Store} {job : engine.Job} {next : engine.Store → engine.Acts α}
      {session : Session engine}
      (hreaches : Reaches answer call resume called (next store)
        (Session.queueing { session with store := store } job)) :
      Reaches answer call resume called (.enqueue store job next) session

theorem ends_setStore (store : engine.Store) (session : Session engine) :
    Ends (setStore store) session () { session with store := store } :=
  ends_modify.mpr rfl

theorem outcome_perform_native {α : Type} {answer : Answer engine} {store : engine.Store}
    {realm : Realm} {native : Native} {arguments : List engine.Value}
    {next : engine.Store → Except engine.Fault engine.Value → engine.Acts α}
    {given : Except engine.Fault engine.Value} {answered : Session engine}
    (hends : Ends (answer realm native arguments).run { session with store := store } given
      answered) :
    (perform answer (.native store realm native arguments next)).run.outcome session =
      (perform answer (next answered.store given)).run.outcome answered := by
  show (setStore store >>= fun _ => (answer realm native arguments).run >>= fun given =>
    get >>= fun session => (perform answer (next session.store given)).run).outcome session = _
  rw [outcome_bind_of_ends (ends_setStore store session), outcome_bind_of_ends hends,
    outcome_bind_of_ends (ends_get.mpr ⟨rfl, rfl⟩)]

theorem halts_perform_native {α : Type} {answer : Answer engine} {store : engine.Store}
    {realm : Realm} {native : Native} {arguments : List engine.Value}
    {next : engine.Store → Except engine.Fault engine.Value → engine.Acts α} {halt : Halt}
    {cut : Session engine}
    (hhalts : Halts (answer realm native arguments).run { session with store := store } halt cut) :
    Halts (perform answer (.native store realm native arguments next)).run session halt cut := by
  show (setStore store >>= fun _ => (answer realm native arguments).run >>= fun given =>
    get >>= fun session => (perform answer (next session.store given)).run).outcome session = _
  rw [outcome_bind_of_ends (ends_setStore store session)]
  exact halts_bind.mpr (.inl hhalts)

theorem outcome_perform_enqueue {α : Type} {answer : Answer engine} {store : engine.Store}
    {job : engine.Job} {next : engine.Store → engine.Acts α} :
    (perform answer (.enqueue store job next)).run.outcome session =
      (perform answer (next store)).run.outcome
        (Session.queueing { session with store := store } job) := by
  show (setStore store >>= fun _ => queueJob job >>= fun _ =>
    (perform answer (next store)).run).outcome session = _
  rw [outcome_bind_of_ends (ends_setStore store session),
    outcome_bind_of_ends (ends_queueJob.mpr rfl : Ends (queueJob job) _ () _)]

/-- From a call on, the engine goes on with the very answer that the call got. -/
theorem Reaches.outcome_eq {α : Type} {answer : Answer engine} {call : Call engine}
    {resume : engine.Store → Except engine.Fault engine.Value → engine.Acts α}
    {called : Session engine} {behaviour : engine.Acts α}
    (h : Reaches answer call resume called behaviour session)
    {given : Except engine.Fault engine.Value} {answered : Session engine}
    (hends : Ends (answer call.realm call.native call.arguments).run called given answered) :
    (perform answer behaviour).run.outcome session =
      (perform answer (resume answered.store given)).run.outcome answered := by
  induction h with
  | here hcalled =>
      subst hcalled
      exact outcome_perform_native hends
  | native hanswer _ ih => rw [outcome_perform_native hanswer, ih]
  | enqueue _ ih => rw [outcome_perform_enqueue, ih]

end Host

/-! ## Level upon level -/

/-- The call that a behaviour begins with, if it does: with the store there and what the engine does
with the answer. -/
def Behaviour.firstCall? {α : Type} : engine.Acts α → Option (Call engine × engine.Store ×
    (engine.Store → Except engine.Fault engine.Value → engine.Acts α))
  | .native store realm callee arguments resume => some (⟨realm, callee, arguments⟩, store, resume)
  | _ => none

theorem Host.Reaches.of_firstCall {α : Type} {answer : Answer engine} {session : Session engine}
    {behaviour : engine.Acts α} {call : Call engine} {store : engine.Store}
    {resume : engine.Store → Except engine.Fault engine.Value → engine.Acts α}
    (hcall : behaviour.firstCall? = some (call, store, resume)) :
    Reaches answer call resume { session with store := store } behaviour session := by
  cases behaviour with
  | native store realm native arguments next =>
      cases hcall
      exact .here rfl
  | _ => cases hcall

/-- An error comes out of a visit. It was raised there, or in a visit nested in it at some depth:
then the source text of the visit called a native that made the nested visit, out of which the error
came, and the engine, which got it as the answer, ended up throwing it. -/
inductive Visit.Throws : Nat → Nat → Visit engine → engine.Fault → Prop
  | raised {budget : Nat} {own : Visit engine} {fault : engine.Fault} (hworks : own.Works budget)
      (hresult : own.result = .error fault) : Throws budget 0 own fault
  | passed {budget depth : Nat} {own inner : Visit engine} {fault : engine.Fault}
      {code : engine.Code} {call : Call engine} {called : Session engine} {info : ExceptionInfo}
      {resume : engine.Store → Except engine.Fault engine.Value → engine.Acts engine.Value}
      (hkind : own.kind = .evaluate) (hresult : own.result = .error fault)
      (hparse : engine.parse own.opened.options own.source = .ok code)
      (hreaches : Host.Reaches (Host.answer (budget + 1)) call resume called
        (engine.evaluate own.begun.realm code own.begun.store) own.begun)
      (hvisits : call.Visits budget called inner) (hthrows : inner.Throws budget depth fault)
      (hreads : Host.Reads (Host.answer budget) fault inner.recorded info inner.reported)
      (huncaught : Host.Ends (Host.perform (Host.answer (budget + 1))
        (resume inner.closed.store (.error fault))).run
          { inner.closed with realm := called.realm } (.error fault) own.ran)
      (hjobs : Host.Ends (Host.drainOutermost (Host.answer (budget + 1)) (budget + 1)) own.ran ()
        own.drained) :
      Throws (budget + 1) (depth + 1) own fault

/-- A visit whose source text came to a call, went on with the answer to it and was followed by its
jobs did what its kind asks for. -/
theorem Visit.works_of_resume {budget : Nat} {own : Visit engine} {code : engine.Code}
    {call : Call engine} {called answered : Session engine}
    {resume : engine.Store → Except engine.Fault engine.Value → engine.Acts engine.Value}
    {given : Except engine.Fault engine.Value} (hkind : own.kind = .evaluate)
    (hparse : engine.parse own.opened.options own.source = .ok code)
    (hreaches : Host.Reaches (Host.answer budget) call resume called
      (engine.evaluate own.begun.realm code own.begun.store) own.begun)
    (hends : Host.Ends (call.answered budget) called given answered)
    (hrest : Host.Ends (Host.perform (Host.answer budget) (resume answered.store given)).run
      answered own.result own.ran)
    (hjobs : Host.Ends (Host.drainOutermost (Host.answer budget) budget) own.ran () own.drained) :
    own.Works budget := by
  unfold Visit.Works
  rw [hkind]
  refine ⟨?_, hjobs⟩
  have hoptions : own.begun.options = own.opened.options := rfl
  rw [Host.runSource_eq, Host.ends_get_bind, hoptions, hparse]
  show Host.Ends (get >>= fun session => (Host.perform (Host.answer budget)
    (engine.evaluate session.realm code session.store)).run) own.begun _ _
  rw [Host.ends_get_bind, Host.Ends, hreaches.outcome_eq hends]
  exact hrest

/-- Through however many visits it came, the error is the result of the engine's work on the
outermost source text. -/
theorem Visit.Throws.works {budget depth : Nat} {own : Visit engine} {fault : engine.Fault}
    (h : own.Throws budget depth fault) : own.Works budget ∧ own.result = .error fault := by
  induction h with
  | raised hworks hresult => exact ⟨hworks, hresult⟩
  | @passed budget depth own inner fault code call called info resume hkind hresult hparse hreaches
      hvisits _ hreads huncaught hjobs ih =>
      obtain ⟨hworks, hinner⟩ := ih
      have hended : inner.Ended budget (.threw fault info) :=
        ⟨hworks, Host.frames_recorded hworks, hinner.symm, hreads⟩
      have hanswered := Host.answered_of_threw hvisits hended
      refine ⟨works_of_resume hkind hparse hreaches hanswered ?_ hjobs, hresult⟩
      rw [hresult]
      exact huncaught

/-- What the engine did with the answer to a call that the source text of a visit came to. -/
theorem Visit.Works.ends_resume {budget : Nat} {own : Visit engine} {code : engine.Code}
    {call : Call engine} {called answered : Session engine}
    {resume : engine.Store → Except engine.Fault engine.Value → engine.Acts engine.Value}
    {given : Except engine.Fault engine.Value} (hworks : own.Works budget)
    (hkind : own.kind = .evaluate)
    (hparse : engine.parse own.opened.options own.source = .ok code)
    (hreaches : Host.Reaches (Host.answer budget) call resume called
      (engine.evaluate own.begun.realm code own.begun.store) own.begun)
    (hends : Host.Ends (call.answered budget) called given answered) :
    Host.Ends (Host.perform (Host.answer budget) (resume answered.store given)).run answered
      own.result own.ran := by
  unfold Visit.Works at hworks
  rw [hkind] at hworks
  have hscript := hworks.1
  have hoptions : own.begun.options = own.opened.options := rfl
  rw [Host.runSource_eq, Host.ends_get_bind, hoptions, hparse] at hscript
  have hperformed := Host.ends_get_bind.mp hscript
  rw [Host.Ends, hreaches.outcome_eq hends] at hperformed
  exact hperformed

/-- An error with which a native answered a call, and that came out of the visit which called, came
out of the visit that the native made. -/
theorem Visit.Throws.of_answered {budget : Nat} {own : Visit engine} {fault : engine.Fault}
    {code : engine.Code} {call : Call engine} {kind : EvaluationKind}
    {called answered : Session engine}
    {resume : engine.Store → Except engine.Fault engine.Value → engine.Acts engine.Value}
    (hworks : own.Works (budget + 1)) (hkind : own.kind = .evaluate)
    (hresult : own.result = .error fault)
    (hparse : engine.parse own.opened.options own.source = .ok code)
    (hreaches : Host.Reaches (Host.answer (budget + 1)) call resume called
      (engine.evaluate own.begun.realm code own.begun.store) own.begun)
    (hnative : call.native.visitKind? = some kind) (hfile : ¬ call.Fails budget called fault)
    (hends : Host.Ends (call.answered (budget + 1)) called (.error fault) answered) :
    own.Throws (budget + 1) 1 fault := by
  have hrest := hworks.ends_resume hkind hparse hreaches hends
  rw [hresult] at hrest
  rcases Host.answered_cases hnative hends with ⟨_, hfails, hfault⟩ |
    ⟨inner, outcome, hvisits, hended, hhands⟩
  · cases hfault
    exact (hfile hfails).elim
  -- the native made a visit, and it answers with an error only if it hands on that of the visit
  unfold Host.HandsOn at hhands
  cases hinner : inner.result with
  | ok value =>
      rw [hinner] at hhands
      cases hhands
  | error thrown =>
      rw [hinner] at hhands
      obtain ⟨hthrown, rfl⟩ := hhands
      cases hthrown
      have hjobs := hworks
      unfold Visit.Works at hjobs
      rw [hkind] at hjobs
      have houtcome := hended.outcome_eq
      rw [hinner] at houtcome
      cases outcome with
      | completed value => cases houtcome
      | threw thrown info =>
          cases houtcome
          exact .passed hkind hresult hparse hreaches hvisits (.raised hended.works hinner)
            hended.reports hrest hjobs.2

namespace Host

variable {budget depth : Nat} {session : Session engine}

/-- So it is what the outermost visit comes to, unless script code cuts off what is read of it. -/
theorem visit_of_throws {own : Visit engine} {fault : engine.Fault}
    (hthrows : own.Throws budget depth fault) :
    (∃ info after, Ends (visit budget own.kind own.source own.name) own.opened (.threw fault info)
      after) ∨
    ∃ halt cut, Halts (visit budget own.kind own.source own.name) own.opened halt cut ∧
      ReadingHalts (answer budget) fault own.recorded halt cut := by
  obtain ⟨hworks, hresult⟩ := hthrows.works
  rcases reads_or_halts (answer budget) fault own.recorded with
    ⟨info, reported, -, hreads⟩ | ⟨halt, cut, hhalts, hreading⟩
  · let done : Visit engine := { own with reported := reported }
    have hended : done.Ended budget (.threw fault info) :=
      ⟨hworks, frames_recorded hworks, hresult.symm, hreads⟩
    exact .inl ⟨info, _, (ends_visit _).mpr ⟨done, ⟨rfl, rfl, rfl, rfl⟩, hended, rfl⟩⟩
  · refine .inr ⟨halt, cut, ?_, hreading⟩
    have hevaluated : Halts (evaluated (answer budget) own.result) own.recorded halt cut := by
      rw [hresult]
      exact halts_bind.mpr (.inl hhalts)
    rw [Halts, outcome_visit hworks]
    exact halts_bind.mpr (.inl hevaluated)

theorem evaluateIn_of_throws {environment : Realm} {source name : String} {own : Visit engine}
    {fault : engine.Fault}
    (hown : own.Of .evaluate name source { session with realm := environment })
    (hthrows : own.Throws budget depth fault) :
    (∃ info after, Ends (evaluateIn budget environment source name) session (.threw fault info)
      after) ∨
    ∃ halt cut, Halts (evaluateIn budget environment source name) session halt cut ∧
      ReadingHalts (answer budget) fault own.recorded halt cut := by
  obtain ⟨hkind, rfl, rfl, hopened⟩ := hown
  have hvisit := visit_of_throws hthrows
  rw [hkind, hopened] at hvisit
  rcases hvisit with ⟨info, inside, hends⟩ | ⟨halt, cut, hhalts, hreading⟩
  · exact .inl ⟨info, _, ends_withRealm.mpr ⟨inside, hends, rfl⟩⟩
  · refine .inr ⟨halt, cut, ?_, hreading⟩
    unfold evaluateIn withRealm
    rw [Halts, outcome_bind_of_ends (ends_get.mpr ⟨rfl, rfl⟩),
      outcome_bind_of_ends (ends_modify.mpr rfl : Ends (modify _) _ () _)]
    exact halts_bind.mpr (.inl hhalts)

end Host

open Host in
/-- What is thrown crosses evaluations and syntax checks as it is, whatever script code does while
it is read.

Reading always gives information, as `Host.Reads` says, unless script code cuts it off. An
evaluation and a syntax check come to their end as `Visit.Ended` says, and a native that is given a
file hands on what they threw: the engine goes on with it at the call. So an error that nobody
catches comes through any number of evaluations. -/
theorem thrown_crosses_unchanged (engine : Engine) (budget : Nat) :
    (∀ (answer : Answer engine) fault session,
      (∃ info after, Ends (exceptionInfo answer fault) session info after ∧
        Reads answer fault session info after) ∨
      ∃ halt cut, Halts (exceptionInfo answer fault) session halt cut ∧
        ReadingHalts answer fault session halt cut) ∧
    (∀ kind source name session (outcome : Evaluated engine) after,
      Ends (visit budget kind source name) session outcome after ↔
        ∃ own : Visit engine, own.Of kind name source session ∧ own.Ended budget outcome ∧
          after = own.closed) ∧
    (∀ (call : Call engine) kind session given after, call.native.visitKind? = some kind →
      Ends (call.answered (budget + 1)) session given after →
        (∃ fault, call.Fails budget session fault ∧ given = .error fault) ∨
        ∃ own outcome, call.Visits budget session own ∧ own.Ended budget outcome ∧
          HandsOn session own given after) ∧
    (∀ (α : Type) (behaviour : engine.Acts α) (call : Call engine) resume session called given
      answered, Reaches (answer budget) call resume called behaviour session →
        Ends (call.answered budget) called given answered →
          (perform (answer budget) behaviour).run.outcome session =
            (perform (answer budget) (resume answered.store given)).run.outcome answered) ∧
    ∀ depth environment source name session (own : Visit engine) fault,
      own.Of .evaluate name source { session with realm := environment } →
        own.Throws budget depth fault →
          (∃ info after, Ends (evaluateIn budget environment source name) session
            (.threw fault info) after) ∨
          ∃ halt cut, Halts (evaluateIn budget environment source name) session halt cut ∧
            ReadingHalts (answer budget) fault own.recorded halt cut :=
  ⟨reads_or_halts, fun _ _ _ _ _ _ => ends_visit _, fun _ _ _ _ _ => answered_cases,
    fun _ _ _ _ _ _ _ _ hreaches hends => hreaches.outcome_eq hends,
    fun _ _ _ _ _ _ _ => evaluateIn_of_throws⟩

/-- A session with an environment and a file that throws what cannot be read. -/
def unreadableSession : Session Language.engine :=
  ((Host.createEnvironment [] : Attempt Language.engine Realm).run.outcome
    (Session.start Language.engine {} false [] (Files.empty.addFile "inner.js" (Bytes.ofString
      "throw \x7btoString() \x7bthrow 'text'\x7d, get stack() \x7bthrow 'stack'\x7d\x7d"))
        (.ticking 0))).2

/-- The object that was thrown, where it was one. -/
def thrownObject? : Except Language.Fault Language.Value → Option Nat
  | .error (.thrown (.object id)) => some id
  | _ => none

theorem eq_of_thrownObject? {given : Except Language.Fault Language.Value} {id : Nat}
    (hthrown : thrownObject? given = some id) : given = .error (.thrown (.object id)) := by
  unfold thrownObject? at hthrown
  split at hthrown
  · cases hthrown
    rfl
  · cases hthrown

/-- Whether a session has `load` called in a source text before anything else, with an argument that
is a path, and the call throws a certain object. -/
def loadThrows (budget : Nat) (session : Session Language.engine) (source : String) (id : Nat) :
    Bool :=
  match Language.engine.parse session.options source with
  | .error _ => false
  | .ok code =>
    (Language.engine.evaluate session.realm code session.store).firstCall?.any
      fun (call, store, _) =>
        let called := { session with store := store }
        call.native = .load &&
          ((call.path budget).outcome (call.within called)).1.toOption.any (·.isOk) &&
          ((call.answered (budget + 1)).outcome called).1.toOption.any
            (thrownObject? · = some id)

private theorem throws_of_loadThrows {budget : Nat} {own : Visit Language.engine} {id : Nat}
    (hworks : own.Works (budget + 1)) (hkind : own.kind = .evaluate)
    (hresult : own.result = .error (.thrown (.object id)))
    (hloads : loadThrows budget own.begun own.source id = true) :
    own.Throws (budget + 1) 1 (.thrown (.object id)) := by
  unfold loadThrows at hloads
  split at hloads
  · cases hloads
  rename_i code hparse
  obtain ⟨⟨call, store, resume⟩, hcall, hcomputed⟩ := (Option.any_eq_true _ _).mp hloads
  simp only [Bool.and_eq_true, decide_eq_true_eq] at hcomputed
  obtain ⟨⟨hnative, hpath⟩, hanswer⟩ := hcomputed
  have hreaches : Host.Reaches (Host.answer (budget + 1)) call resume _ _ own.begun :=
    .of_firstCall hcall
  obtain ⟨converted, hpath, hconverted⟩ := Host.exists_ends hpath
  obtain ⟨given, hends, hgiven⟩ := Host.exists_ends hanswer
  obtain rfl := eq_of_thrownObject? (decide_eq_true_eq.mp hgiven)
  refine .of_answered hworks hkind hresult hparse hreaches (by rw [hnative]; rfl) ?_ hends
  cases converted with
  | error fault => cases hconverted
  | ok path =>
      refine Call.not_fails ?_ hpath fun message hfault => ?_
      · rw [hnative]
        exact Native.noConfusion
      · cases hfault

/-- An object whose conversion and whose getter both throw comes out of the script that loaded the
file. -/
theorem thrown_crosses_unchanged_unreadable :
    ∃ (own : Visit Language.engine) (info : ExceptionInfo) (after : Session Language.engine),
      own.Of .evaluate "outer.js" "load('inner.js')" { unreadableSession with realm := 1 } ∧
        own.Throws 4 1 (.thrown (.object 309)) ∧
        Host.Ends (Host.evaluateIn 4 1 "load('inner.js')" "outer.js") unreadableSession
          (.threw (.thrown (.object 309)) info) after := by
  have hthrew : ((Host.evaluateIn 4 1 "load('inner.js')" "outer.js").outcome
      unreadableSession).1.toOption.any (fun outcome : Evaluated Language.engine =>
        thrownObject? outcome.toExcept = some 309) = true := by
    decide +kernel
  have hloads : loadThrows 3
      ((Session.entering { unreadableSession with realm := 1 } "outer.js").looked .evaluation)
      "load('inner.js')" 309 = true := by
    decide +kernel
  obtain ⟨outcome, hends, houtcome⟩ := Host.exists_ends hthrew
  obtain ⟨inside, hinside, -⟩ := Host.ends_withRealm.mp hends
  obtain ⟨own, hown, hended, -⟩ := (Host.ends_visit .evaluate).mp hinside
  have hresult := eq_of_thrownObject? (decide_eq_true_eq.mp houtcome)
  rw [hended.outcome_eq] at hresult
  have hbegun : own.begun =
      (Session.entering { unreadableSession with realm := 1 } "outer.js").looked .evaluation := by
    rw [Visit.begun, hown.opened_eq, hown.name_eq]
  rw [← hbegun, ← hown.source_eq] at hloads
  have hthrows := throws_of_loadThrows hended.works hown.kind_eq hresult hloads
  obtain ⟨-, -, -, -, hcrosses⟩ := thrown_crosses_unchanged Language.engine 4
  rcases hcrosses 1 1 "load('inner.js')" "outer.js" unreadableSession own _ hown hthrows with
    ⟨info, after, hcrossed⟩ | ⟨halt, cut, hhalts, -⟩
  · exact ⟨own, info, after, hown, hthrows, hcrossed⟩
  · rw [Host.Halts, show (Host.evaluateIn 4 1 "load('inner.js')" "outer.js").outcome
      unreadableSession = _ from hends] at hhalts
    cases hhalts

end ScriptShell
