import ScriptShell.Proofs.Isolation.Division
import ScriptShell.Proofs.Session.Telling

/-!
# Actions that keep to a territory

Two sessions share a territory where they are the same but for the names of objects, for what the
engine holds outside of the territory and for what was recorded, sampled and done before (`Shared`).
An action is confined where it comes to the same in two such sessions: to results that correspond or
to the same cut, with the same entries, and with a territory that is shared again, enlarged by the
realms that were made meanwhile; what was outside of it is left as it was (`Host.Confined`).

The jobs that wait are those of the territory, unless as many frames are open that nothing drains
them. What follows the engine is confined here, and an evaluation with its jobs.
-/

namespace ScriptShell

variable {engine : Engine}

/-! ## Clocks -/

/-- Two clocks show the same but for one use. -/
structure Clock.SameBesides (look : Look) (clock other : Clock) : Prop where
  instants_eq {use : Look} (hne : use ≠ look) : other.instants use = clock.instants use
  days_eq : other.days = clock.days

namespace Clock.SameBesides

variable {look use : Look} {clock other : Clock}

theorem refl (look : Look) (clock : Clock) : SameBesides look clock clock :=
  ⟨fun _ => rfl, rfl⟩

theorem instant_eq (h : SameBesides look clock other) (hne : use ≠ look) :
    other.instant use = clock.instant use :=
  congrFun (h.instants_eq hne) 0

theorem day_eq (h : SameBesides look clock other) : other.day = clock.day :=
  congrFun h.days_eq 0

theorem looked (h : SameBesides look clock other) (use : Look) :
    SameBesides look (clock.looked use) (other.looked use) where
  instants_eq {look} hne := by
    show (fun index => other.instants look _) = fun index => clock.instants look _
    rw [h.instants_eq hne]
  days_eq := h.days_eq

theorem dayRead (h : SameBesides look clock other) :
    SameBesides look clock.dayRead other.dayRead where
  instants_eq := h.instants_eq
  days_eq := by
    show (fun index => other.days _) = fun index => clock.days _
    rw [h.days_eq]

theorem looked_besides (look : Look) (clock : Clock) :
    SameBesides look clock (clock.looked look) where
  instants_eq {use} hne := by
    show (fun index => clock.instants use (if use = look then index + 1 else index)) = _
    simp only [if_neg hne]
  days_eq := rfl

theorem symm (h : SameBesides look clock other) : SameBesides look other clock :=
  ⟨fun hne => (h.instants_eq hne).symm, h.days_eq.symm⟩

theorem trans {last : Clock} (hfirst : SameBesides look clock other)
    (hsecond : SameBesides look other last) : SameBesides look clock last :=
  ⟨fun hne => (hsecond.instants_eq hne).trans (hfirst.instants_eq hne),
    hsecond.days_eq.trans hfirst.days_eq⟩

end Clock.SameBesides

/-! ## Two sessions that share a territory -/

/-- Two jobs that wait under the same number. -/
def Engine.Division.Waiting (division : engine.Division) (extent : division.Reach)
    (job other : Nat × engine.Job) : Prop :=
  other.1 = job.1 ∧ division.Job extent job.2 other.2

/-- Two sessions are the same within a territory. The waiting jobs belong to it where no more than a
number of frames are open. -/
structure Shared (division : engine.Division) (depth : Nat) (extent : division.Reach)
    (session twin : Session engine) : Prop where
  same : ∃ store jobs sampler profile clock history,
    twin = { session with store, jobs, sampler, profile, clock, history }
  alike : division.Alike extent session.store twin.store
  below : ∀ realm ∈ extent.territory, realm < session.realms
  ready : session.frames.length < depth →
    List.Forall₂ (division.Waiting extent) session.jobs twin.jobs
  enabled_eq : twin.sampler.enabled = session.sampler.enabled
  profiling_eq : twin.profile.isSome = session.profile.isSome
  clock : Clock.SameBesides .window session.clock twin.clock

/-- Two sessions that share a territory were led to two that share what it has become. -/
structure Advanced (division : engine.Division) (depth : Nat) (extent : division.Reach)
    (naming : division.Naming) (session twin after behind : Session engine) : Prop where
  le : extent.naming ≤ naming
  shared : Shared division depth (extent.grownTo naming session.realms after.realms) after behind
  realms_le : session.realms ≤ after.realms
  realm_eq : after.realm = session.realm
  frames_eq : after.frames = session.frames
  options_eq : after.options = session.options
  enabled_eq : after.sampler.enabled = session.sampler.enabled
  profiling_eq : after.profile.isSome = session.profile.isSome
  untouched : ∀ realm < session.realms, realm ∉ extent.territory →
    division.part after.store realm = division.part session.store realm
  untouched_twin : ∀ realm < session.realms, realm ∉ extent.territory →
    division.part behind.store realm = division.part twin.store realm

section Sessions

variable {division : engine.Division} {depth : Nat} {extent : division.Reach}
  {naming greater : division.Naming} {session twin middle middleTwin after behind : Session engine}

namespace Shared

theorem realm_eq (h : Shared division depth extent session twin) :
    twin.realm = session.realm := by
  obtain ⟨_, _, _, _, _, _, rfl⟩ := h.same
  rfl

theorem options_eq (h : Shared division depth extent session twin) :
    twin.options = session.options := by
  obtain ⟨_, _, _, _, _, _, rfl⟩ := h.same
  rfl

theorem frames_eq (h : Shared division depth extent session twin) :
    twin.frames = session.frames := by
  obtain ⟨_, _, _, _, _, _, rfl⟩ := h.same
  rfl

/-- The engine changed the state within the territory. -/
theorem withStore (h : Shared division depth extent session twin)
    (isolates : Engine.Isolates division) (hnaming : extent.naming ≤ naming)
    {store other : engine.Store} (halike : division.Alike (extent.under naming) store other) :
    Shared division depth (extent.under naming) { session with store := store }
      { twin with store := other } := by
  obtain ⟨_, jobs, sampler, profile, clock, history, rfl⟩ := h.same
  exact { h with
    same := ⟨other, jobs, sampler, profile, clock, history, rfl⟩
    alike := halike
    ready := fun hdepth => (h.ready hdepth).imp fun _ _ hwaiting =>
      ⟨hwaiting.1, isolates.job_mono (Extent.le_under hnaming) hwaiting.2⟩ }

/-- A job of the territory waits in both sessions. -/
theorem queueing (h : Shared division depth extent session twin) {job other : engine.Job}
    (hjob : division.Job extent job other) :
    Shared division depth extent (session.queueing job) (twin.queueing other) := by
  obtain ⟨store, jobs, sampler, profile, clock, history, rfl⟩ := h.same
  exact { h with
    same := ⟨store, _, sampler, profile, clock, _, rfl⟩
    ready := fun hdepth => List.rel_append (h.ready hdepth) (.cons ⟨rfl, hjob⟩ .nil) }

end Shared

namespace Advanced

/-- Two sessions in which the engine did nothing and no realm was made. -/
theorem of_shared (h : Shared division depth extent after behind)
    (hstore : after.store = session.store) (hstoreTwin : behind.store = twin.store)
    (hrealms : after.realms = session.realms) (hrealm : after.realm = session.realm)
    (hframes : after.frames = session.frames) (hoptions : after.options = session.options)
    (henabled : after.sampler.enabled = session.sampler.enabled)
    (hprofiling : after.profile.isSome = session.profile.isSome) :
    Advanced division depth extent extent.naming session twin after behind where
  le := le_rfl
  shared := by rwa [hrealms, Extent.grownTo_self, Extent.under_self]
  realms_le := hrealms.ge
  realm_eq := hrealm
  frames_eq := hframes
  options_eq := hoptions
  enabled_eq := henabled
  profiling_eq := hprofiling
  untouched _ _ _ := by rw [hstore]
  untouched_twin _ _ _ := by rw [hstoreTwin]

theorem le_grownTo (h : Advanced division depth extent naming session twin after behind) :
    extent ≤ extent.grownTo naming session.realms after.realms :=
  Extent.le_grownTo h.le

theorem realm_mem (h : Advanced division depth extent naming session twin after behind)
    (hrealm : session.realm ∈ extent.territory) :
    after.realm ∈ (extent.grownTo naming session.realms after.realms).territory := by
  rw [h.realm_eq]
  exact subset_grown hrealm

theorem frames_lt (h : Advanced division depth extent naming session twin after behind)
    (hframes : session.frames.length < depth) : after.frames.length < depth := by
  rwa [h.frames_eq]

theorem refl (h : Shared division depth extent session twin) :
    Advanced division depth extent extent.naming session twin session twin :=
  .of_shared h rfl rfl rfl rfl rfl rfl rfl rfl

theorem trans (hfirst : Advanced division depth extent naming session twin middle middleTwin)
    (hsecond : Advanced division depth (extent.grownTo naming session.realms middle.realms) greater
      middle middleTwin after behind) :
    Advanced division depth extent greater session twin after behind where
  le := hfirst.le.trans hsecond.le
  shared := by
    rw [← Extent.grownTo_grownTo extent naming greater hfirst.realms_le hsecond.realms_le]
    exact hsecond.shared
  realms_le := hfirst.realms_le.trans hsecond.realms_le
  realm_eq := hsecond.realm_eq.trans hfirst.realm_eq
  frames_eq := hsecond.frames_eq.trans hfirst.frames_eq
  options_eq := hsecond.options_eq.trans hfirst.options_eq
  enabled_eq := hsecond.enabled_eq.trans hfirst.enabled_eq
  profiling_eq := hsecond.profiling_eq.trans hfirst.profiling_eq
  untouched realm hrealm houtside := by
    rw [hsecond.untouched realm (hrealm.trans_le hfirst.realms_le), hfirst.untouched realm hrealm
      houtside]
    intro hgrown
    exact hgrown.elim houtside fun hbetween => hbetween.1.not_gt hrealm
  untouched_twin realm hrealm houtside := by
    rw [hsecond.untouched_twin realm (hrealm.trans_le hfirst.realms_le),
      hfirst.untouched_twin realm hrealm houtside]
    intro hgrown
    exact hgrown.elim houtside fun hbetween => hbetween.1.not_gt hrealm

/-- The engine changed the state within the territory. -/
theorem withStore (h : Shared division depth extent session twin)
    (isolates : Engine.Isolates division) {store other : engine.Store}
    (hstep : division.Step extent naming session.store twin.store store other) :
    Advanced division depth extent naming session twin { session with store := store }
      { twin with store := other } where
  le := hstep.le
  shared := by
    rw [Extent.grownTo_self]
    exact h.withStore isolates hstep.le hstep.alike
  realms_le := Nat.le_refl _
  realm_eq := rfl
  frames_eq := rfl
  options_eq := rfl
  enabled_eq := rfl
  profiling_eq := rfl
  untouched realm _ := hstep.untouched realm
  untouched_twin realm _ := hstep.untouched_other realm

theorem note (h : Advanced division depth extent naming session twin after behind)
    (entry : Entry) :
    Advanced division depth extent naming session twin (after.note entry) (behind.note entry) :=
  { h with
    shared := by
      obtain ⟨store, jobs, sampler, profile, clock, history, rfl⟩ := h.shared.same
      exact { h.shared with same := ⟨store, jobs, sampler, profile, clock, _, rfl⟩ } }

theorem inRealm {realm : Realm}
    (h : Advanced division depth extent naming { session with realm := realm }
      { twin with realm := realm } after behind) :
    Advanced division depth extent naming session twin { after with realm := session.realm }
      { behind with realm := session.realm } where
  le := h.le
  shared := by
    obtain ⟨store, jobs, sampler, profile, clock, history, rfl⟩ := h.shared.same
    exact { h.shared with same := ⟨store, jobs, sampler, profile, clock, history, rfl⟩ }
  realms_le := h.realms_le
  realm_eq := rfl
  frames_eq := h.frames_eq
  options_eq := h.options_eq
  enabled_eq := h.enabled_eq
  profiling_eq := h.profiling_eq
  untouched := h.untouched
  untouched_twin := h.untouched_twin

/-- What was done in one more frame. -/
theorem inFrame {frame : String}
    (h : Advanced division (depth + 1) extent naming (session.entering frame) (twin.entering frame)
      after behind) :
    Advanced division depth extent naming session twin (after.leaving frame)
      (behind.leaving frame) where
  le := h.le
  shared := by
    obtain ⟨store, jobs, sampler, profile, clock, history, rfl⟩ := h.shared.same
    refine { h.shared with
      same := ⟨store, jobs, sampler, profile, clock, _, rfl⟩
      ready := fun hdepth => h.shared.ready ?_ }
    have hframes : after.frames = frame :: session.frames := h.frames_eq
    have houter : after.frames.tail.length < depth := hdepth
    rw [hframes] at houter ⊢
    exact Nat.succ_lt_succ houter
  realms_le := h.realms_le
  realm_eq := h.realm_eq
  frames_eq := by
    show after.frames.tail = session.frames
    rw [h.frames_eq]
    rfl
  options_eq := h.options_eq
  enabled_eq := h.enabled_eq
  profiling_eq := h.profiling_eq
  untouched := h.untouched
  untouched_twin := h.untouched_twin

end Advanced

end Sessions

namespace Host

/-! ## Confined actions -/

variable {α β : Type} {division : engine.Division} {depth : Nat} {extent : division.Reach}
  {realm : Realm} {session twin : Session engine}

/-- Done in two sessions, two actions come to results that correspond and advance the sessions, or
are cut off alike, and they leave the same entries. -/
inductive ConfinedAt (division : engine.Division) (depth : Nat) (calls : division.Calls)
    (extent : division.Reach) (rel : division.Reach → α → α → Prop) (action other : Host engine α)
    (session twin : Session engine) : Prop
  | ends {value valueOther : α} {after behind : Session engine} {naming : division.Naming}
      (gained : List Entry) (hfirst : Ends action session value after)
      (hsecond : Ends other twin valueOther behind)
      (hhistory : after.history = gained.reverse ++ session.history)
      (hhistoryTwin : behind.history = gained.reverse ++ twin.history)
      (hadvanced : Advanced division depth extent naming session twin after behind)
      (hcalls : division.calls after.store = calls)
      (hvalue : rel (extent.grownTo naming session.realms after.realms) value valueOther)
  | halts {halt : Halt} {after behind : Session engine} (gained : List Entry)
      (hfirst : action.outcome session = (.error halt, after))
      (hsecond : other.outcome twin = (.error halt, behind))
      (hhistory : after.history = gained.reverse ++ session.history)
      (hhistoryTwin : behind.history = gained.reverse ++ twin.history)

/-- In a realm, two actions are confined to the territory, whatever two sessions share it. -/
def Confines (division : engine.Division) (depth : Nat) (extent : division.Reach) (realm : Realm)
    (rel : division.Reach → α → α → Prop) (action other : Host engine α) : Prop :=
  ∀ ⦃session twin : Session engine⦄, Shared division depth extent session twin →
    session.realm = realm →
      ConfinedAt division depth (division.calls session.store) extent rel action other session twin

/-- In a realm, the action is confined to the territory. -/
abbrev Confined (division : engine.Division) (depth : Nat) (extent : division.Reach) (realm : Realm)
    (rel : division.Reach → α → α → Prop) (action : Host engine α) : Prop :=
  Confines division depth extent realm rel action action

namespace ConfinedAt

variable {calls callsLast : division.Calls} {rel : division.Reach → α → α → Prop}
  {last : division.Reach → β → β → Prop}

/-- Actions that come to their ends without a change of the engine or a new realm. -/
theorem of_still_ends {action other : Host engine α} {value valueOther : α}
    {after behind : Session engine} (gained : List Entry) (hfirst : Ends action session value after)
    (hsecond : Ends other twin valueOther behind)
    (hhistory : after.history = gained.reverse ++ session.history)
    (hhistoryTwin : behind.history = gained.reverse ++ twin.history)
    (hadvanced : Advanced division depth extent extent.naming session twin after behind)
    (hrealms : after.realms = session.realms) (hcalls : division.calls after.store = calls)
    (hvalue : rel extent value valueOther) :
    ConfinedAt division depth calls extent rel action other session twin :=
  .ends gained hfirst hsecond hhistory hhistoryTwin hadvanced hcalls
    (by rwa [hrealms, Extent.grownTo_self, Extent.under_self])

theorem pure (h : Shared division depth extent session twin) {value valueOther : α}
    (hvalue : rel extent value valueOther) :
    ConfinedAt division depth (division.calls session.store) extent rel
      (pure value : Host engine α) (Pure.pure valueOther) session twin :=
  .of_still_ends [] rfl rfl rfl rfl (.refl h) rfl rfl hvalue

theorem throw (halt : Halt) : ConfinedAt division depth calls extent rel
    (throw halt : Host engine α) (MonadExcept.throw halt) session twin :=
  .halts [] rfl rfl rfl rfl

/-- Actions that look at the sessions before they go on. -/
theorem get_bind {next nextOther : Session engine → Host engine α}
    (hnext : ConfinedAt division depth calls extent rel (next session) (nextOther twin) session
      twin) :
    ConfinedAt division depth calls extent rel (get >>= next) (get >>= nextOther) session twin := by
  have hlooks (next : Session engine → Host engine α) (session : Session engine) :
      (get >>= next).outcome session = (next session).outcome session :=
    outcome_bind_of_ends (ends_get.mpr ⟨rfl, rfl⟩)
  cases hnext with
  | ends gained hfirst hsecond hhistory hhistoryTwin hadvanced hcalls hvalue =>
      exact .ends gained ((hlooks next session).trans hfirst)
        ((hlooks nextOther twin).trans hsecond) hhistory hhistoryTwin hadvanced hcalls hvalue
  | halts gained hfirst hsecond hhistory hhistoryTwin =>
      exact .halts gained ((hlooks next session).trans hfirst)
        ((hlooks nextOther twin).trans hsecond) hhistory hhistoryTwin

/-- Actions that come to the same as others once the sessions were advanced. -/
theorem of_step {action other next nextOther : Host engine α}
    {middle middleTwin : Session engine} {naming : division.Naming} (first : List Entry)
    (hfirst : action.outcome session = next.outcome middle)
    (hsecond : other.outcome twin = nextOther.outcome middleTwin)
    (hhistory : middle.history = first.reverse ++ session.history)
    (hhistoryTwin : middleTwin.history = first.reverse ++ twin.history)
    (hadvanced : Advanced division depth extent naming session twin middle middleTwin)
    (hnext : ConfinedAt division depth calls (extent.grownTo naming session.realms middle.realms)
      rel next nextOther middle middleTwin) :
    ConfinedAt division depth calls extent rel action other session twin := by
  have hjoined {second before after between : List Entry}
      (hbetween : between = first.reverse ++ before) (hafter : after = second.reverse ++ between) :
      after = (first ++ second).reverse ++ before := by
    rw [hafter, hbetween, List.reverse_append, List.append_assoc]
  cases hnext with
  | ends second hends hendsOther hgained hgainedTwin hrest hcalls hvalue =>
      rw [Extent.grownTo_grownTo _ _ _ hadvanced.realms_le hrest.realms_le] at hvalue
      exact .ends (first ++ second) (hfirst.trans hends) (hsecond.trans hendsOther)
        (hjoined hhistory hgained) (hjoined hhistoryTwin hgainedTwin) (hadvanced.trans hrest) hcalls
        hvalue
  | halts second hhalts hhaltsOther hgained hgainedTwin =>
      exact .halts (first ++ second) (hfirst.trans hhalts) (hsecond.trans hhaltsOther)
        (hjoined hhistory hgained) (hjoined hhistoryTwin hgainedTwin)

/-- No realm is made before the actions come to the same as others. -/
theorem of_still {action other next nextOther : Host engine α}
    {middle middleTwin : Session engine} {naming : division.Naming} (first : List Entry)
    (hfirst : action.outcome session = next.outcome middle)
    (hsecond : other.outcome twin = nextOther.outcome middleTwin)
    (hhistory : middle.history = first.reverse ++ session.history)
    (hhistoryTwin : middleTwin.history = first.reverse ++ twin.history)
    (hadvanced : Advanced division depth extent naming session twin middle middleTwin)
    (hrealms : middle.realms = session.realms)
    (hnext : ConfinedAt division depth calls (extent.under naming) rel next nextOther middle
      middleTwin) :
    ConfinedAt division depth calls extent rel action other session twin :=
  .of_step first hfirst hsecond hhistory hhistoryTwin hadvanced
    (by rwa [hrealms, Extent.grownTo_self])

theorem bind {action other : Host engine α} {next nextOther : α → Host engine β}
    (haction : ConfinedAt division depth calls extent rel action other session twin)
    (hnext : ∀ naming value valueOther after behind,
      Advanced division depth extent naming session twin after behind →
      division.calls after.store = calls →
      rel (extent.grownTo naming session.realms after.realms) value valueOther →
      ConfinedAt division depth callsLast (extent.grownTo naming session.realms after.realms) last
        (next value) (nextOther valueOther) after behind) :
    ConfinedAt division depth callsLast extent last (action >>= next) (other >>= nextOther) session
      twin := by
  cases haction with
  | ends first hfirst hsecond hhistory hhistoryTwin hadvanced hcalls hvalue =>
      exact .of_step first (outcome_bind_of_ends hfirst) (outcome_bind_of_ends hsecond) hhistory
        hhistoryTwin hadvanced (hnext _ _ _ _ _ hadvanced hcalls hvalue)
  | @halts halt after behind gained hfirst hsecond hhistory hhistoryTwin =>
      have hcut : (action >>= next).outcome session = (.error halt, after) := by
        rw [outcome_bind, hfirst]
      have hcutTwin : (other >>= nextOther).outcome twin = (.error halt, behind) := by
        rw [outcome_bind, hsecond]
      exact .halts gained hcut hcutTwin hhistory hhistoryTwin

end ConfinedAt

namespace Confines

variable {rel : division.Reach → α → α → Prop} {last : division.Reach → β → β → Prop}

theorem pure {value other : α} (hvalue : rel extent value other) :
    Confines division depth extent realm rel (Pure.pure value : Host engine α) (Pure.pure other) :=
  fun _ _ hshared _ => .pure hshared hvalue

theorem throw (halt : Halt) : Confines division depth extent realm rel
    (MonadExcept.throw halt : Host engine α) (MonadExcept.throw halt) :=
  fun _ _ _ _ => .throw halt

theorem bind {action other : Host engine α} {next nextOther : α → Host engine β}
    (haction : Confines division depth extent realm rel action other)
    (hnext : ∀ greater value valueOther, extent ≤ greater → rel greater value valueOther →
      Confines division depth greater realm last (next value) (nextOther valueOther)) :
    Confines division depth extent realm last (action >>= next) (other >>= nextOther) := by
  intro session twin hshared hrealm
  refine (haction hshared hrealm).bind fun naming value valueOther after behind hadvanced hcalls
    hvalue => ?_
  rw [← hcalls]
  exact hnext _ value valueOther hadvanced.le_grownTo hvalue hadvanced.shared
    (hadvanced.realm_eq.trans hrealm)

/-- Looks at what is the same in both sessions. -/
theorem get_bind {γ : Type} (part : Session engine → γ) {next nextOther : γ → Host engine β}
    (hpart : ∀ ⦃session twin : Session engine⦄, Shared division depth extent session twin →
      part twin = part session)
    (hnext : ∀ value, Confines division depth extent realm last (next value) (nextOther value)) :
    Confines division depth extent realm last (get >>= fun session => next (part session))
      (get >>= fun session => nextOther (part session)) := by
  intro session twin hshared hrealm
  refine .get_bind ?_
  rw [hpart hshared]
  exact hnext _ hshared hrealm

theorem run_pure {value other : α} (hvalue : rel extent value other) :
    Confines division depth extent realm (division.Result rel)
      (Pure.pure value : Attempt engine α).run (Pure.pure other : Attempt engine α).run :=
  .pure (.ok hvalue)

theorem run_throw {fault other : engine.Fault} (hfault : division.Fault extent fault other) :
    Confines division depth extent realm (division.Result rel)
      (MonadExcept.throw fault : Attempt engine α).run
      (MonadExcept.throw other : Attempt engine α).run :=
  .pure (.error hfault)

theorem run_bind {action other : Attempt engine α} {next nextOther : α → Attempt engine β}
    (haction : Confines division depth extent realm (division.Result rel) action.run other.run)
    (hnext : ∀ greater value valueOther, extent ≤ greater → rel greater value valueOther →
      Confines division depth greater realm (division.Result last) (next value).run
        (nextOther valueOther).run) :
    Confines division depth extent realm (division.Result last) (action >>= next).run
      (other >>= nextOther).run := by
  rw [ExceptT.run_bind, ExceptT.run_bind]
  refine haction.bind fun greater result resultOther hgreater hresult => ?_
  cases hresult with
  | ok hvalue => exact hnext greater _ _ hgreater hvalue
  | error hfault => exact .pure (.error hfault)

theorem map {action other : Host engine α} {change changeOther : α → β}
    (haction : Confines division depth extent realm rel action other)
    (hchange : ∀ greater value valueOther, rel greater value valueOther →
      last greater (change value) (changeOther valueOther)) :
    Confines division depth extent realm last (change <$> action) (changeOther <$> other) := by
  rw [map_eq_pure_bind, map_eq_pure_bind]
  exact haction.bind fun greater value valueOther _ hvalue =>
    .pure (hchange greater value valueOther hvalue)

theorem run_lift {action other : Host engine α}
    (haction : Confines division depth extent realm rel action other) :
    Confines division depth extent realm (division.Result rel) (lift action).run
      (lift other).run :=
  haction.map fun _ _ _ hvalue => .ok hvalue

/-- An action in a realm of its own. -/
theorem withRealm {inside : Realm} {action other : Host engine α}
    (haction : Confines division depth extent inside rel action other) :
    Confines division depth extent realm rel (withRealm inside action)
      (Host.withRealm inside other) := by
  intro session twin hshared _
  have hinside : Shared division depth extent { session with realm := inside }
      { twin with realm := inside } := by
    obtain ⟨store, jobs, sampler, profile, clock, history, rfl⟩ := hshared.same
    exact { hshared with same := ⟨store, jobs, sampler, profile, clock, history, rfl⟩ }
  have hplace := hshared.realm_eq
  cases haction hinside rfl with
  | @ends value valueOther after behind naming gained hfirst hsecond hhistory hhistoryTwin hadvanced
      hcalls hvalue =>
      have hends {action : Host engine α} {session after : Session engine} {value : α}
          (hends : Ends action { session with realm := inside } value after) :
          Ends (Host.withRealm inside action) session value
            { after with realm := session.realm } := by
        rw [Ends] at hends
        rw [Ends, outcome_withRealm, hends]
      have hback := hends hsecond
      rw [hplace] at hback
      exact .ends gained (hends hfirst) hback hhistory hhistoryTwin hadvanced.inRealm hcalls hvalue
  | @halts halt after behind gained hfirst hsecond hhistory hhistoryTwin =>
      have hcut : (Host.withRealm inside action).outcome session = (.error halt, after) := by
        rw [outcome_withRealm, hfirst]
      have hcutTwin : (Host.withRealm inside other).outcome twin = (.error halt, behind) := by
        rw [outcome_withRealm, hsecond]
      exact .halts gained hcut hcutTwin hhistory hhistoryTwin

end Confines

end Host

end ScriptShell
