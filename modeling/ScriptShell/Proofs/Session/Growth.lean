import ScriptShell.Proofs.Session.Crossing
import ScriptShell.Proofs.Session.Halting
import ScriptShell.Proofs.Session.Heap
import ScriptShell.Proofs.Session.Moves
import ScriptShell.Proofs.Session.Telling

/-!
# Environments and their objects

Every environment that is made while a session goes on has a global object and an array of arguments
that were not there before (`Session.Environments`). That the ones of different environments differ
needs no more than that objects stay once they are made (`Session.Extends`): what the later
environment makes is new at a time when the earlier one has been made. What the engine does keeps
all objects, which is the induction `Host.exists_environments_perform`.

## Main results

* `Host.furnishes_createEnvironment`: what a new environment is made of.
* `Host.leads_answer` and `Evolves.exists_environments`: whatever is done with a session, its
  environments have objects of their own.
-/

namespace ScriptShell

variable {engine : Engine}

/-! ## Sessions -/

namespace Session

/-- A realm was made between two sessions. -/
def MadeSince (first session : Session engine) (realm : Realm) : Prop :=
  first.realms ≤ realm ∧ realm < session.realms

/-- Objects that were made stay, and realms keep their global objects. -/
structure Extends (heap : engine.Heap) (session after : Session engine) : Prop where
  realms_le : session.realms ≤ after.realms
  made {object : heap.Object} (hmade : heap.Made object session.store) :
    heap.Made object after.store
  global_eq {realm : Realm} (hrealm : realm < session.realms) :
    heap.global realm after.store = heap.global realm session.store

/-- An environment was asked for. Its realm and its array are new; if the engine did not refuse, the
array holds the arguments. -/
structure Furnishes (heap : engine.Heap) (texts : List String) (array : heap.Object)
    (before : Session engine) (result : Except engine.Fault Realm)
    (after : Session engine) : Prop where
  ends : Host.Ends (Host.createEnvironment texts).run before result after
  realms_eq : after.realms = before.realms + 1
  makesArray : heap.Makes array before.store after.store
  makesGlobal : heap.Makes (heap.global before.realms after.store) before.store after.store
  holds {realm : Realm} (hok : result = .ok realm) :
    realm = before.realms ∧ heap.Holds realm array texts after.store

/-- The environments that are made between two sessions have objects of their own. -/
structure Environments (heap : engine.Heap) (arrays : Realm → heap.Object)
    (first last : Session engine) : Prop where
  grown : first.Extends heap last
  furnished {realm : Realm} (hmade : first.MadeSince last realm) : ∃ texts before result after,
    first.Extends heap before ∧ before.realms = realm ∧
      Furnishes heap texts (arrays realm) before result after ∧ after.Extends heap last
  apart {realm other : Realm} (hrealm : first.MadeSince last realm)
    (hother : first.MadeSince last other) (hne : realm ≠ other) :
    arrays realm ≠ arrays other ∧ arrays realm ≠ heap.global other last.store

section Extends

variable {heap : engine.Heap} {session middle after : Session engine}

/-- Without new realms only the store is extended. -/
theorem Extends.of_store (hstore : heap.Extends session.store after.store)
    (hrealms : after.realms = session.realms) : session.Extends heap after where
  realms_le := Nat.le_of_eq hrealms.symm
  made := hstore.made
  global_eq _ := hstore.global_eq _

theorem Extends.refl (session : Session engine) : session.Extends heap session :=
  .of_store (.refl _) rfl

theorem Extends.trans (hfirst : session.Extends heap middle) (hsecond : middle.Extends heap after) :
    session.Extends heap after where
  realms_le := Nat.le_trans hfirst.realms_le hsecond.realms_le
  made hmade := hsecond.made (hfirst.made hmade)
  global_eq hrealm := by
    rw [hsecond.global_eq (Nat.lt_of_lt_of_le hrealm hfirst.realms_le), hfirst.global_eq hrealm]

end Extends

namespace Environments

variable {heap : engine.Heap} {arrays arrays' : Realm → heap.Object} {realm other : Realm}
  {first middle last : Session engine}

/-- Where no realm is made there is nothing more to say. -/
theorem of_extends (arrays : Realm → heap.Object) (hgrown : first.Extends heap last)
    (hrealms : last.realms = first.realms) : Environments heap arrays first last where
  grown := hgrown
  furnished hmade := absurd (hrealms ▸ hmade.2) (Nat.not_lt.mpr hmade.1)
  apart hrealm _ _ := absurd (hrealms ▸ hrealm.2) (Nat.not_lt.mpr hrealm.1)

/-- The array and the global object of an environment are new. -/
theorem makes (h : Environments heap arrays first last) (hmade : first.MadeSince last realm) :
    heap.Makes (arrays realm) first.store last.store ∧
      heap.Makes (heap.global realm last.store) first.store last.store := by
  obtain ⟨texts, before, result, after, hbefore, rfl, hfurnishes, hafter⟩ := h.furnished hmade
  have hnew : before.realms < after.realms := by
    rw [hfurnishes.realms_eq]
    exact Nat.lt_succ_self _
  have hmakes {object : heap.Object} (hobject : heap.Makes object before.store after.store) :
      heap.Makes object first.store last.store :=
    ⟨fun hold => hobject.fresh (hbefore.made hold), hafter.made hobject.made⟩
  refine ⟨hmakes hfurnishes.makesArray, ?_⟩
  rw [hafter.global_eq hnew]
  exact hmakes hfurnishes.makesGlobal

/-- A realm that is made in two parts of a session is made in one of them. -/
theorem madeSince_cases (hmade : first.MadeSince last realm) :
    first.MadeSince middle realm ∨ ¬ realm < middle.realms ∧ middle.MadeSince last realm := by
  by_cases hmiddle : realm < middle.realms
  · exact .inl ⟨hmade.1, hmiddle⟩
  · exact .inr ⟨hmiddle, Nat.not_lt.mp hmiddle, hmade.2⟩

/-- The environments of one part of a session and those of the next one differ, since what the
latter are made of is new when the former have been made. -/
theorem append (hfirst : Environments heap arrays first middle)
    (hsecond : Environments heap arrays' middle last) :
    Environments heap (fun realm => if realm < middle.realms then arrays realm else arrays' realm)
      first last where
  grown := hfirst.grown.trans hsecond.grown
  furnished hmade := by
    rcases madeSince_cases hmade with hearly | ⟨hlate, hmade⟩
    · obtain ⟨texts, before, result, after, hbefore, hrealm, hfurnishes, hafter⟩ :=
        hfirst.furnished hearly
      rw [if_pos hearly.2]
      exact ⟨texts, before, result, after, hbefore, hrealm, hfurnishes, hafter.trans hsecond.grown⟩
    · obtain ⟨texts, before, result, after, hbefore, hrealm, hfurnishes, hafter⟩ :=
        hsecond.furnished hmade
      rw [if_neg hlate]
      exact ⟨texts, before, result, after, hfirst.grown.trans hbefore, hrealm, hfurnishes, hafter⟩
  apart {realm other} hrealm hother hne := by
    rcases madeSince_cases hrealm with hearly | ⟨hlate, hrealm⟩
    · have hrealmMade := (hfirst.makes hearly).1.made
      rcases madeSince_cases hother with hotherEarly | ⟨hotherLate, hother⟩
      · rw [if_pos hearly.2, if_pos hotherEarly.2, hsecond.grown.global_eq hotherEarly.2]
        exact hfirst.apart hearly hotherEarly hne
      · obtain ⟨harray, hglobal⟩ := hsecond.makes hother
        rw [if_pos hearly.2, if_neg hotherLate]
        exact ⟨(harray.ne hrealmMade).symm, (hglobal.ne hrealmMade).symm⟩
    · obtain ⟨harray, -⟩ := hsecond.makes hrealm
      rcases madeSince_cases hother with hotherEarly | ⟨hotherLate, hother⟩
      · obtain ⟨hotherArray, hotherGlobal⟩ := hfirst.makes hotherEarly
        rw [if_neg hlate, if_pos hotherEarly.2, hsecond.grown.global_eq hotherEarly.2]
        exact ⟨harray.ne hotherArray.made, harray.ne hotherGlobal.made⟩
      · rw [if_neg hlate, if_neg hotherLate]
        exact hsecond.apart hrealm hother hne

end Environments

end Session

namespace Host

open Session

variable {α : Type} {heap : engine.Heap} {answer : Answer engine}
  {session after : Session engine}

/-- Whatever was entered in the journal, the environments that were made have objects of their
own. -/
def Furnishing (heap : engine.Heap) (session : Session engine) (_ : List Entry)
    (after : Session engine) : Prop :=
  ∃ arrays, Environments heap arrays session after

theorem Furnishing.refl (session : Session engine) (entries : List Entry) :
    Furnishing heap session entries session :=
  ⟨fun realm => heap.global realm session.store, .of_extends _ (.refl session) rfl⟩

theorem Furnishing.append {first middle last : Session engine} {entries entries' : List Entry}
    (hfirst : Furnishing heap first entries middle)
    (hsecond : Furnishing heap middle entries' last) (all : List Entry) :
    Furnishing heap first all last := by
  obtain ⟨arrays, hfirst⟩ := hfirst
  obtain ⟨arrays', hsecond⟩ := hsecond
  exact ⟨_, hfirst.append hsecond⟩

instance : Moving (Furnishing heap) where
  stay session := .refl session []
  append hfirst hsecond := hfirst.append hsecond _
  move {session after _} _ hkeeps := by
    have hstore : heap.Extends session.store after.store := hkeeps.store_eq ▸ .refl _
    exact ⟨fun realm => heap.global realm session.store,
      .of_extends _ (.of_store hstore hkeeps.realms_eq) hkeeps.realms_eq⟩

/-! ## New environments -/

/-- A new environment is furnished unless the engine refuses the realm, and all objects that were
there are left as they were. -/
theorem furnishes_createEnvironment (lawful : heap.Lawful) {texts : List String}
    {result : Except engine.Fault Realm}
    (hends : Ends (createEnvironment texts : Attempt engine Realm).run session result after) :
    (∃ fault, result = .error fault ∧ after = session) ∨
    (∃ array, Furnishes heap texts array session result after) ∧ session.Extends heap after ∧
      ∀ {object : heap.Object}, heap.Made object session.store →
        heap.Same object session.store after.store := by
  have houtcome := hends
  rw [Ends, outcome_createEnvironment] at houtcome
  rcases hmade : engine.createRealm session.realms session.store with fault | made
  · rw [hmade] at houtcome
    cases houtcome
    exact .inl ⟨fault, rfl, rfl⟩
  rw [hmade] at houtcome
  simp only [outcome_furnish, Session.withNewRealm] at houtcome
  have hrealm := lawful.createRealm hmade
  have hkept := lawful.changesOnly_furnish session.realms (Native.available session.options) texts
    made
  rw [← lawful.install_eq] at hkept
  rcases hinstalled : engine.install session.realms (Native.available session.options) texts made
    with ⟨installed, installation⟩
  rw [hinstalled] at hkept houtcome
  -- whether or not the engine refuses what is bound in it, the realm is there
  have hplace : after.store = installed ∧ after.realms = session.realms + 1 := by
    cases installation <;> cases houtcome <;> exact ⟨rfl, rfl⟩
  obtain ⟨hstore, hrealms⟩ := hplace
  have hglobal : heap.Makes (heap.global session.realms after.store) session.store
      after.store := by
    rw [hstore, hkept.global_eq]
    exact ⟨hrealm.makes.fresh, hkept.made hrealm.makes.made⟩
  refine .inr ⟨?_, ⟨?_, fun hobject => ?_, fun {realm} hlt => ?_⟩, fun {object} hobject => ?_⟩
  · cases installation with
    | error fault =>
        cases houtcome
        exact ⟨_, hends, rfl, hglobal, hglobal, fun hok => by cases hok⟩
    | ok done =>
        cases houtcome
        rw [lawful.install_eq] at hinstalled
        obtain ⟨array, hmakes, hholds⟩ := lawful.holds_furnish _ _ texts hrealm.makes.made
          hinstalled
        have hfresh : ¬ heap.Made array session.store := fun hold =>
          hmakes.fresh (hrealm.made hold)
        refine ⟨array, hends, rfl, ⟨hfresh, hmakes.made⟩, hglobal, fun hok => ?_⟩
        cases hok
        exact ⟨rfl, hholds⟩
  · rw [hrealms]
    exact Nat.le_succ _
  · rw [hstore]
    exact hkept.made (hrealm.made hobject)
  · rw [hstore, hkept.global_eq, hrealm.global_eq (Nat.ne_of_lt hlt)]
  · -- the global object of the new realm is none of the objects that were there
    rw [hstore]
    exact (hrealm.same hobject).trans
      (hkept.same (hrealm.made hobject) (hrealm.makes.ne hobject).symm)

theorem leads_createEnvironment (lawful : heap.Lawful) (texts : List String) :
    Leads (Furnishing heap) (createEnvironment texts : Attempt engine Realm).run := by
  refine .of_ends fun session => ?_
  obtain ⟨result, after, hends⟩ := exists_ends_createEnvironment session texts
  refine ⟨result, after, [], hends, ?_⟩
  rcases furnishes_createEnvironment lawful hends with ⟨fault, -, rfl⟩ | ⟨⟨array, h⟩, hgrown, -⟩
  · exact Chained.stay after
  · have hsame {realm : Realm} (hmade : session.MadeSince after realm) :
        session.realms = realm := by
      have hlt := hmade.2
      rw [h.realms_eq] at hlt
      exact Nat.le_antisymm hmade.1 (Nat.le_of_lt_succ hlt)
    refine ⟨fun _ => array, hgrown, fun hmade => ?_, fun hrealm hother hne => ?_⟩
    · exact ⟨texts, session, result, after, .refl session, hsame hmade, h, .refl after⟩
    · exact absurd ((hsame hrealm).symm.trans (hsame hother)) hne

/-! ## Following the engine -/

theorem furnishing_of_outcome {action : Host engine α} {session : Session engine}
    {outcome : Except Halt α × Session engine} (houtcome : action.outcome session = outcome)
    (hfurnishing : Furnishing heap session [] outcome.2) :
    Furnishing heap session [] (action.outcome session).2 := by
  rw [houtcome]
  exact hfurnishing

/-- The engine by itself makes no environment. -/
theorem furnishing_of_store {store : engine.Store} (hstore : heap.Extends session.store store) :
    Furnishing heap session [] { session with store := store } :=
  ⟨fun realm => heap.global realm session.store, .of_extends _ (.of_store hstore rfl) rfl⟩

/-- If the environments that are made while natives are answered have objects of their own, so have
all that are made while the engine works. -/
theorem furnishing_perform
    (hanswer : ∀ realm native arguments,
      Leads (Furnishing heap) (answer realm native arguments).run)
    {store : engine.Store} {act : engine.Acts α} (hgrows : act.Grows heap.Extends store)
    (session : Session engine) (hstore : session.store = store) :
    Furnishing heap session [] ((perform answer act).run.outcome session).2 := by
  -- on what the engine does, which goes on from the store that it is given
  induction hgrows generalizing session with
  | finish result hafter => exact furnishing_of_store (hstore ▸ hafter)
  | @native _ after realm callee arguments resume hafter _ ih =>
      let called : Session engine := { session with store := after }
      have hcalled : Furnishing heap session [] called := furnishing_of_store (hstore ▸ hafter)
      obtain ⟨_, hanswered⟩ := hanswer realm callee arguments called
      rcases houtcome : (answer realm callee arguments).run.outcome called with
        ⟨halt | given, answered⟩
      · -- the call is cut off, and the engine with it
        rw [houtcome] at hanswered
        have hcut : Halts (perform answer (.native after realm callee arguments resume)).run session
            halt answered := halts_perform_native houtcome
        exact furnishing_of_outcome hcut (hcalled.append hanswered [])
      · -- the engine goes on from whatever store the answer left
        rw [houtcome] at hanswered
        have hrest := ih answered.store given answered rfl
        have hsame : (perform answer (.native after realm callee arguments resume)).run.outcome
            session = (perform answer (resume answered.store given)).run.outcome answered :=
          outcome_perform_native houtcome
        exact furnishing_of_outcome hsame ((hcalled.append hanswered []).append hrest [])
  | @enqueue _ after job resume hafter _ ih =>
      let queued := Session.queueing { session with store := after } job
      have hqueued : Furnishing heap session [] queued :=
        ⟨fun realm => heap.global realm session.store,
          .of_extends _ (.of_store (hstore ▸ hafter) rfl) rfl⟩
      have hsame : (perform answer (.enqueue after job resume)).run.outcome session =
          (perform answer (resume after)).run.outcome queued := outcome_perform_enqueue
      exact furnishing_of_outcome hsame (hqueued.append (ih after queued rfl) [])
  | exhausted => exact .refl session []

/-- What the engine does in one of its operations. -/
theorem furnishing_act
    (hanswer : ∀ realm native arguments,
      Leads (Furnishing heap) (answer realm native arguments).run)
    {operation : Realm → engine.Store → engine.Acts α}
    (hgrows : ∀ realm store, (operation realm store).Grows heap.Extends store) :
    Leads (Furnishing heap) (act answer operation).run :=
  fun session => ⟨[], furnishing_perform hanswer (hgrows session.realm session.store) session rfl⟩

/-- All that the shell has the engine do. -/
theorem furnishing_acts (lawful : heap.Lawful) :
    @ActClosed engine fun _ action => Leads (Furnishing heap) action where
  work hanswer :=
    { pure := .pure
      bind := .bind
      look := fun _ hnext => .get_bind fun _ => hnext _ _ _
      runCode := fun code => furnishing_act hanswer fun realm store =>
        lawful.evaluate realm code store
      toText := fun value => furnishing_act hanswer fun realm store =>
        lawful.toText realm value store
      toNumber := fun value => furnishing_act hanswer fun realm store =>
        lawful.toNumber realm value store
      readStack := fun value => furnishing_act hanswer fun realm store =>
        lawful.stack realm value store
      thrownValue := fun fault => .of_ends fun session => by
        refine ⟨_, _, [], ends_thrownValue.mpr ⟨rfl, rfl⟩, ?_⟩
        exact furnishing_of_store (lawful.thrown session.realm fault session.store) }
  runJob hanswer job := furnishing_act hanswer fun realm store => lawful.runJob realm job store

/-- Whatever native is called, the environments that it makes have objects of their own. -/
theorem furnishing_answer (lawful : heap.Lawful) (budget : Nat) (realm : Realm) (native : Native)
    (arguments : List engine.Value) :
    Leads (Furnishing heap) (Host.answer budget realm native arguments).run :=
  (leads_service (leads_createEnvironment lawful)).answer (furnishing_acts lawful) budget realm
    native arguments

end Host

/-- Whatever the user of a session has it do, the environments that are made have objects of their
own. -/
theorem Evolves.exists_environments {heap : engine.Heap} (lawful : heap.Lawful)
    {first session : Session engine} (h : Evolves first session) :
    ∃ arrays, Session.Environments heap arrays first session := by
  change Host.Furnishing heap first [] session
  induction h with
  | refl => exact .refl first []
  | operate _ budget operation ih =>
      obtain ⟨_, hoperation⟩ := Host.leads_operation (Host.leads_createEnvironment lawful)
        (Host.furnishing_acts lawful) budget operation _
      exact ih.append hoperation []
  | enter _ frame ih =>
      exact ih.append (Host.Moving.move (.enter frame) ⟨rfl, rfl, rfl⟩) []
  | leave _ hframes ih =>
      exact ih.append (Host.Moving.move (.leave hframes) ⟨rfl, rfl, rfl⟩) []

end ScriptShell
