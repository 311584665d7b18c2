import ScriptShell.Proofs.Likeness.Engines
import ScriptShell.Proofs.Session.Course
import ScriptShell.Proofs.Session.Reading
import ScriptShell.Proofs.Session.Telling

/-!
# Sessions that work alike

Two sessions are coupled (`Likeness.Coupled`) if their engines are in corresponding states and all
that script code can get hold of is the same. Their frames may differ, if only one has frames open
just when the other does (`Offset`), and so may what their clocks show that script code is not told.
Two actions meet if they lead from coupled sessions to coupled sessions with the same offset and
leave the same entries, but for the frames that they show and for how long evaluations took, unless
an engine or the shell gives up (`Likeness.Pairs`).

The actions that the shell is made of are paired here one by one, those that have the engine do
something in `Likeness/Actions`.
-/

namespace ScriptShell

variable {one two : Engine}

/-! ## What may differ -/

/-- The frames that are open in two sessions. -/
structure Offset where
  frames : List String
  others : List String

/-- The offset inside one more frame. -/
def Offset.inside (offset : Offset) (frame : String) : Offset where
  frames := frame :: offset.frames
  others := frame :: offset.others

/-- Two records of one evaluation. If the clocks show the same it took as long. -/
structure ProfileRecord.Mirrors (timed : Prop) (record copy : ProfileRecord) : Prop where
  source_eq : copy.source = record.source
  kind_eq : copy.kind = record.kind
  threw_eq : copy.threw = record.threw
  elapsed_eq : timed → copy.elapsed = record.elapsed

theorem ProfileRecord.Mirrors.eq {timed : Prop} {record copy : ProfileRecord}
    (h : record.Mirrors timed copy) (htimed : timed) : copy = record := by
  cases record
  cases copy
  exact (ProfileRecord.mk.injEq ..).mpr ⟨h.source_eq, h.kind_eq, h.elapsed_eq htimed, h.threw_eq⟩

theorem ProfileRecord.eq_of_mirrors {timed : Prop} {records copies : List ProfileRecord}
    (h : List.Forall₂ (ProfileRecord.Mirrors timed) records copies) (htimed : timed) :
    copies = records := by
  induction h with
  | nil => rfl
  | cons hrecord _ ih => rw [hrecord.eq htimed, ih]

/-- The entries of two sessions in which different frames were open at first. They differ in the
frames that stand with a call and in what the call shows of them, and where the clocks may show
something else in how long evaluations took. -/
inductive Entry.Mirrors (timed : Prop) (frames others : List String) :
    List Entry → List Entry → Prop
  | nil : Mirrors timed frames others [] []
  | same {entries copies : List Entry} (entry : Entry)
      (hrest : Mirrors timed frames others entries copies) :
      Mirrors timed frames others (entry :: entries) (entry :: copies)
  | recorded {entries copies : List Entry} {record copy : ProfileRecord}
      (hrecord : record.Mirrors timed copy) (hrest : Mirrors timed frames others entries copies) :
      Mirrors timed frames others (.recorded record :: entries) (.recorded copy :: copies)
  | called {entries copies : List Entry} (native : Native) (inner : List String)
      (hrest : Mirrors timed frames others entries copies) :
      Mirrors timed frames others
        (.called native (inner ++ frames) :: (native.shows (inner ++ frames) ++ entries))
        (.called native (inner ++ others) :: (native.shows (inner ++ others) ++ copies))

namespace Entry.Mirrors

variable {timed : Prop} {frames others : List String}
  {first firstCopies second secondCopies : List Entry}

theorem refl (entries : List Entry) : Entry.Mirrors timed frames others entries entries := by
  induction entries with
  | nil => exact .nil
  | cons entry _ ih => exact .same entry ih

theorem append (hfirst : Entry.Mirrors timed frames others first firstCopies)
    (hsecond : Entry.Mirrors timed frames others second secondCopies) :
    Entry.Mirrors timed frames others (first ++ second) (firstCopies ++ secondCopies) := by
  induction hfirst with
  | nil => exact hsecond
  | same entry _ ih => exact .same entry ih
  | recorded hrecord _ ih => exact .recorded hrecord ih
  | called native inner _ ih =>
      rw [List.cons_append, List.cons_append, List.append_assoc, List.append_assoc]
      exact .called native inner ih

/-- What is mirrored inside a frame is mirrored outside it. -/
theorem outside {frame : String}
    (h : Entry.Mirrors timed (frame :: frames) (frame :: others) first firstCopies) :
    Entry.Mirrors timed frames others first firstCopies := by
  induction h with
  | nil => exact .nil
  | same entry _ ih => exact .same entry ih
  | recorded hrecord _ ih => exact .recorded hrecord ih
  | called native inner _ ih =>
      rw [List.append_cons inner frame frames, List.append_cons inner frame others]
      exact .called native _ ih

/-- Whatever the clocks show, it need not be the same. -/
theorem untimed (h : Entry.Mirrors timed frames others first firstCopies) :
    Entry.Mirrors False frames others first firstCopies := by
  induction h with
  | nil => exact .nil
  | same entry _ ih => exact .same entry ih
  | recorded hrecord _ ih => exact .recorded { hrecord with elapsed_eq := False.elim } ih
  | called native inner _ ih => exact .called native inner ih

/-- Where the same frames were open and the clocks show the same, the entries are the same. -/
theorem eq (h : Entry.Mirrors timed frames frames first firstCopies) (htimed : timed) :
    firstCopies = first := by
  induction h with
  | nil => rfl
  | same entry _ ih | called native inner _ ih => rw [ih]
  | recorded hrecord _ ih => rw [ih, hrecord.eq htimed]

end Entry.Mirrors

/-- What two sessions gained since they were others: records and entries that are mirrored. The
samplers are left alone. -/
structure Gains (timed : Prop) (offset : Offset) (session after : Session one)
    (twin behind : Session two) : Prop where
  sampler_eq : after.sampler = session.sampler
  otherSampler_eq : behind.sampler = twin.sampler
  profile : ∃ records copies, after.profile = session.profile.map (· ++ records) ∧
    behind.profile = twin.profile.map (· ++ copies) ∧
    List.Forall₂ (ProfileRecord.Mirrors timed) records copies
  history : ∃ entries others, after.history = entries.reverse ++ session.history ∧
    behind.history = others.reverse ++ twin.history ∧
    Entry.Mirrors timed offset.frames offset.others entries others

namespace Gains

variable {timed : Prop} {offset : Offset} {session middle after : Session one}
  {twin between behind : Session two}

/-- Entries were gained. -/
theorem of_history (hsampler : after.sampler = session.sampler)
    (hprofile : after.profile = session.profile) (hother : behind.sampler = twin.sampler)
    (hotherProfile : behind.profile = twin.profile)
    (hhistory : ∃ entries others, after.history = entries.reverse ++ session.history ∧
      behind.history = others.reverse ++ twin.history ∧
      Entry.Mirrors timed offset.frames offset.others entries others) :
    Gains timed offset session after twin behind where
  sampler_eq := hsampler
  otherSampler_eq := hother
  profile := ⟨[], [], by simp [hprofile], by simp [hotherProfile], .nil⟩
  history := hhistory

/-- Nothing was gained. -/
theorem none (hsampler : after.sampler = session.sampler)
    (hprofile : after.profile = session.profile) (hhistory : after.history = session.history)
    (hother : behind.sampler = twin.sampler) (hotherProfile : behind.profile = twin.profile)
    (hotherHistory : behind.history = twin.history) :
    Gains timed offset session after twin behind :=
  .of_history hsampler hprofile hother hotherProfile ⟨[], [], hhistory, hotherHistory, .nil⟩

theorem refl (session : Session one) (twin : Session two) :
    Gains timed offset session session twin twin :=
  .none rfl rfl rfl rfl rfl rfl

theorem noteAll {entries copies : List Entry}
    (hmirrors : Entry.Mirrors timed offset.frames offset.others entries copies) :
    Gains timed offset session (session.noteAll entries) twin (twin.noteAll copies) :=
  .of_history rfl rfl rfl rfl ⟨entries, copies, rfl, rfl, hmirrors⟩

theorem note (entry : Entry) :
    Gains timed offset session (session.note entry) twin (twin.note entry) :=
  .noteAll (.refl [entry])

theorem trans (hfirst : Gains timed offset session middle twin between)
    (hsecond : Gains timed offset middle after between behind) :
    Gains timed offset session after twin behind where
  sampler_eq := hsecond.sampler_eq.trans hfirst.sampler_eq
  otherSampler_eq := hsecond.otherSampler_eq.trans hfirst.otherSampler_eq
  profile := by
    obtain ⟨first, firstCopies, hmiddle, hbetween, hmirrors⟩ := hfirst.profile
    obtain ⟨second, secondCopies, hafter, hbehind, hmore⟩ := hsecond.profile
    refine ⟨first ++ second, firstCopies ++ secondCopies, ?_, ?_, List.rel_append hmirrors hmore⟩
    · simp [hafter, hmiddle, Option.map_map, Function.comp_def]
    · simp [hbehind, hbetween, Option.map_map, Function.comp_def]
  history := by
    obtain ⟨first, firstOther, hmiddle, hbetween, hfirstMirrors⟩ := hfirst.history
    obtain ⟨second, secondOther, hafter, hbehind, hsecondMirrors⟩ := hsecond.history
    refine ⟨first ++ second, firstOther ++ secondOther, ?_, ?_,
      hfirstMirrors.append hsecondMirrors⟩
    · rw [hafter, hmiddle, List.reverse_append, List.append_assoc]
    · rw [hbehind, hbetween, List.reverse_append, List.append_assoc]

/-- What is gained inside a frame is gained outside it. -/
theorem outside {frame : String}
    (h : Gains timed (offset.inside frame) session after twin behind) :
    Gains timed offset session after twin behind where
  sampler_eq := h.sampler_eq
  otherSampler_eq := h.otherSampler_eq
  profile := h.profile
  history := by
    obtain ⟨entries, others, hafter, hbehind, hmirrors⟩ := h.history
    exact ⟨entries, others, hafter, hbehind, hmirrors.outside⟩

end Gains

/-! ## Coupled sessions -/

namespace Likeness

variable (likeness : Likeness one two)

/-- Two jobs that wait under the same number. -/
def Waiting (job : Nat × one.Job) (other : Nat × two.Job) : Prop :=
  other.1 = job.1 ∧ likeness.Job job.2 other.2

/-- The engines of two sessions are in corresponding states, and all that script code can get hold
of is the same. -/
structure Coupled (offset : Offset) (session : Session one) (twin : Session two) : Prop where
  store : likeness.Store session.store twin.store
  realm_eq : twin.realm = session.realm
  realms_eq : twin.realms = session.realms
  jobs : List.Forall₂ likeness.Waiting session.jobs twin.jobs
  jobCount_eq : twin.jobCount = session.jobCount
  frames_eq : session.frames = offset.frames
  others_eq : twin.frames = offset.others
  outermost : offset.frames = [] ↔ offset.others = []
  options_eq : twin.options = session.options
  flags_eq : twin.flags = session.flags
  profiling_eq : twin.profile.isSome = session.profile.isSome
  input_eq : twin.input = session.input
  files_eq : twin.files = session.files
  told_eq : twin.clock.told = session.clock.told
  clock_eq : likeness.faithful → twin.clock = session.clock

variable {likeness}

namespace Coupled

variable {offset : Offset} {session : Session one} {twin : Session two}

theorem note (h : likeness.Coupled offset session twin) (entry other : Entry) :
    likeness.Coupled offset (session.note entry) (twin.note other) :=
  { h with }

theorem withStore (h : likeness.Coupled offset session twin) {store : one.Store}
    {other : two.Store} (hstore : likeness.Store store other) :
    likeness.Coupled offset { session with store := store } { twin with store := other } :=
  { h with store := hstore }

theorem withRealm (h : likeness.Coupled offset session twin) (realm : Realm) :
    likeness.Coupled offset { session with realm := realm } { twin with realm := realm } :=
  { h with realm_eq := rfl }

theorem withFlags (h : likeness.Coupled offset session twin)
    (change : SamplingFlags → SamplingFlags) :
    likeness.Coupled offset { session with flags := change session.flags }
      { twin with flags := change twin.flags } :=
  { h with flags_eq := congrArg change h.flags_eq }

theorem withJobs (h : likeness.Coupled offset session twin) {jobs : List (Nat × one.Job)}
    {others : List (Nat × two.Job)} (hjobs : List.Forall₂ likeness.Waiting jobs others) :
    likeness.Coupled offset { session with jobs := jobs } { twin with jobs := others } :=
  { h with jobs := hjobs }

theorem looked (h : likeness.Coupled offset session twin) (look : Look) :
    likeness.Coupled offset (session.looked look) (twin.looked look) :=
  { h with
    told_eq := Clock.told_looked h.told_eq look
    clock_eq := fun hfaithful => congrArg (·.looked look) (h.clock_eq hfaithful) }

theorem dayRead (h : likeness.Coupled offset session twin) :
    likeness.Coupled offset session.dayRead twin.dayRead :=
  { h with
    told_eq := Clock.told_dayRead h.told_eq
    clock_eq := fun hfaithful => congrArg Clock.dayRead (h.clock_eq hfaithful) }

/-- What script code is told at a look at the clock is the same, and everything that is shown if the
clocks do not differ. -/
theorem instant_eq (h : likeness.Coupled offset session twin) {look : Look}
    (hlook : look = .call ∨ likeness.faithful) :
    twin.clock.instant look = session.clock.instant look := by
  rcases hlook with rfl | hfaithful
  · exact Clock.instant_call_of_told h.told_eq
  · rw [h.clock_eq hfaithful]

theorem entering (h : likeness.Coupled offset session twin) (frame : String) :
    likeness.Coupled (offset.inside frame) (session.entering frame) (twin.entering frame) :=
  { h with
    frames_eq := congrArg (frame :: ·) h.frames_eq
    others_eq := congrArg (frame :: ·) h.others_eq
    outermost := iff_of_false (List.cons_ne_nil _ _) (List.cons_ne_nil _ _) }

theorem leaving (h : likeness.Coupled offset session twin) {frame other : String}
    {frames others : List String} (hframes : offset.frames = frame :: frames)
    (hothers : offset.others = other :: others) (houtermost : frames = [] ↔ others = []) :
    likeness.Coupled ⟨frames, others⟩ (session.leaving frame) (twin.leaving other) :=
  { h with
    frames_eq := by rw [Session.leaving_frames, h.frames_eq, hframes, List.tail_cons]
    others_eq := by rw [Session.leaving_frames, h.others_eq, hothers, List.tail_cons]
    outermost := houtermost }

theorem reading (h : likeness.Coupled offset session twin) :
    likeness.Coupled offset session.reading twin.reading :=
  { h with
    input_eq := by
      show twin.input.takeChunk.2 = session.input.takeChunk.2
      rw [h.input_eq] }

theorem queueing (h : likeness.Coupled offset session twin) {job : one.Job} {other : two.Job}
    (hjob : likeness.Job job other) :
    likeness.Coupled offset (session.queueing job) (twin.queueing other) :=
  { h with
    jobs := List.rel_append h.jobs (.cons ⟨h.jobCount_eq, hjob⟩ .nil)
    jobCount_eq := congrArg (· + 1) h.jobCount_eq }

theorem withNewRealm (h : likeness.Coupled offset session twin) {store : one.Store}
    {other : two.Store} (hstore : likeness.Store store other) :
    likeness.Coupled offset (session.withNewRealm store) (twin.withNewRealm other) :=
  { h with
    store := hstore
    realms_eq := congrArg (· + 1) h.realms_eq }

theorem recording (h : likeness.Coupled offset session twin) (record other : ProfileRecord) :
    likeness.Coupled offset (session.recording record) (twin.recording other) :=
  { h with
    profiling_eq := by
      rw [Session.recording_profile, Session.recording_profile, Option.isSome_map,
        Option.isSome_map]
      exact h.profiling_eq }

end Coupled

/-! ## Paired actions -/

/-- What two actions make of two sessions corresponds: both come to their ends in coupled sessions,
both quit, or one of them gives up. -/
inductive Meets {α β : Type} (likeness : Likeness one two) (offset : Offset) (rel : α → β → Prop)
    (session : Session one) (twin : Session two) :
    Except Halt α × Session one → Except Halt β × Session two → Prop
  | ends {value : α} {other : β} {after : Session one} {behind : Session two}
      (hrel : rel value other) (hlast : likeness.Coupled offset after behind)
      (hgains : Gains likeness.faithful offset session after twin behind) :
      Meets likeness offset rel session twin (.ok value, after) (.ok other, behind)
  | quits (cut : Session one) (cutOther : Session two) :
      Meets likeness offset rel session twin (.error .quit, cut) (.error .quit, cutOther)
  | gaveUp (cut : Session one) (outcome : Except Halt β × Session two) :
      Meets likeness offset rel session twin (.error .exhausted, cut) outcome
  | otherGaveUp (outcome : Except Halt α × Session one) (cut : Session two)
      (hfaithful : ¬ likeness.faithful) :
      Meets likeness offset rel session twin outcome (.error .exhausted, cut)

/-- From coupled sessions on, what two actions make of them corresponds. -/
def Pairs {α β : Type} (likeness : Likeness one two) (offset : Offset) (rel : α → β → Prop)
    (action : Host one α) (other : Host two β) : Prop :=
  ∀ ⦃session twin⦄, likeness.Coupled offset session twin →
    likeness.Meets offset rel session twin (action.outcome session) (other.outcome twin)

namespace Meets

variable {α β γ δ : Type} {offset : Offset} {rel : α → β → Prop} {wide : γ → δ → Prop}
  {session middle : Session one} {twin between : Session two}

/-- Two actions that come to their ends. -/
theorem of_ends {action : Host one α} {other : Host two β} (value : α) (given : β)
    {after : Session one} {behind : Session two} (hends : Host.Ends action session value after)
    (hother : Host.Ends other twin given behind) (hrel : rel value given)
    (hlast : likeness.Coupled offset after behind)
    (hgains : Gains likeness.faithful offset session after twin behind) :
    likeness.Meets offset rel session twin (action.outcome session) (other.outcome twin) := by
  rw [show action.outcome session = _ from hends, show other.outcome twin = _ from hother]
  exact .ends hrel hlast hgains

/-- What was gained before is gained as well. -/
theorem after (hgains : Gains likeness.faithful offset session middle twin between)
    {outcome : Except Halt α × Session one} {other : Except Halt β × Session two}
    (h : likeness.Meets offset rel middle between outcome other) :
    likeness.Meets offset rel session twin outcome other := by
  cases h with
  | ends hrel hlast hmore => exact .ends hrel hlast (hgains.trans hmore)
  | quits cut cutOther => exact .quits cut cutOther
  | gaveUp cut => exact .gaveUp cut _
  | otherGaveUp _ cut hfaithful => exact .otherGaveUp _ cut hfaithful

theorem bind {action : Host one α} {other : Host two β} {next : α → Host one γ}
    {nextOther : β → Host two δ}
    (haction : likeness.Meets offset rel session twin (action.outcome session)
      (other.outcome twin))
    (hnext : ∀ ⦃value given⦄, rel value given →
      likeness.Pairs offset wide (next value) (nextOther given)) :
    likeness.Meets offset wide session twin ((action >>= next).outcome session)
      ((other >>= nextOther).outcome twin) := by
  rw [Host.outcome_bind, Host.outcome_bind]
  generalize action.outcome session = outcome at haction ⊢
  generalize other.outcome twin = outcomeOther at haction ⊢
  cases haction with
  | ends hrel hlast hgains => exact (hnext hrel hlast).after hgains
  | quits cut cutOther => exact .quits cut cutOther
  | gaveUp cut => exact .gaveUp cut _
  | otherGaveUp _ cut hfaithful => exact .otherGaveUp _ cut hfaithful

/-- If the first action comes to its end, so does the second, or it gives up. -/
theorem ends_or_gaveUp {action : Host one α} {other : Host two β} {value : α}
    {after : Session one}
    (h : likeness.Meets offset rel session twin (action.outcome session) (other.outcome twin))
    (hends : Host.Ends action session value after) :
    (∃ given behind, Host.Ends other twin given behind ∧ rel value given ∧
      likeness.Coupled offset after behind ∧
        Gains likeness.faithful offset session after twin behind) ∨
    ¬ likeness.faithful ∧ ∃ cut, Host.Halts other twin .exhausted cut := by
  rw [show action.outcome session = _ from hends] at h
  generalize houtcome : other.outcome twin = outcome at h
  cases h with
  | ends hrel hlast hgains => exact .inl ⟨_, _, houtcome, hrel, hlast, hgains⟩
  | otherGaveUp _ cut hfaithful => exact .inr ⟨hfaithful, cut, houtcome⟩

end Meets

namespace Pairs

variable {α β γ δ : Type} {offset : Offset} {rel : α → β → Prop} {wide : γ → δ → Prop}

theorem pure {value : α} {other : β} (hrel : rel value other) :
    likeness.Pairs offset rel (pure value : Host one α) (pure other : Host two β) :=
  fun session twin hcoupled => .ends hrel hcoupled (.refl session twin)

theorem quit : likeness.Pairs offset rel (throw .quit : Host one α) (throw .quit : Host two β) :=
  fun session twin _ => .quits session twin

theorem gaveUp (other : Host two β) :
    likeness.Pairs offset rel (throw .exhausted : Host one α) other :=
  fun session _ _ => .gaveUp session _

theorem otherGaveUp (action : Host one α) (hfaithful : ¬ likeness.faithful) :
    likeness.Pairs offset rel action (throw .exhausted : Host two β) :=
  fun _ twin _ => .otherGaveUp _ twin hfaithful

theorem bind {action : Host one α} {other : Host two β} {next : α → Host one γ}
    {nextOther : β → Host two δ} (haction : likeness.Pairs offset rel action other)
    (hnext : ∀ ⦃value given⦄, rel value given →
      likeness.Pairs offset wide (next value) (nextOther given)) :
    likeness.Pairs offset wide (action >>= next) (other >>= nextOther) :=
  fun _ _ hcoupled => (haction hcoupled).bind hnext

/-- Actions that look at the sessions before they go on. -/
theorem look {next : Session one → Host one α} {nextOther : Session two → Host two β}
    (hnext : ∀ ⦃session twin⦄, likeness.Coupled offset session twin →
      likeness.Pairs offset rel (next session) (nextOther twin)) :
    likeness.Pairs offset rel (get >>= next) (get >>= nextOther) := by
  intro session twin hcoupled
  rw [Host.outcome_bind_of_ends (Host.ends_get.mpr ⟨rfl, rfl⟩),
    Host.outcome_bind_of_ends (Host.ends_get.mpr ⟨rfl, rfl⟩)]
  exact hnext hcoupled hcoupled

/-- What an action gives may be compared less closely. -/
theorem mono {action : Host one α} {other : Host two β} {weak : α → β → Prop}
    (h : likeness.Pairs offset rel action other)
    (hweak : ∀ ⦃value given⦄, rel value given → weak value given) :
    likeness.Pairs offset weak action other := by
  intro session twin hcoupled
  have hmeets := h hcoupled
  generalize action.outcome session = outcome at hmeets ⊢
  generalize other.outcome twin = outcomeOther at hmeets ⊢
  cases hmeets with
  | ends hrel hlast hgains => exact .ends (hweak hrel) hlast hgains
  | quits cut cutOther => exact .quits cut cutOther
  | gaveUp cut => exact .gaveUp cut _
  | otherGaveUp _ cut hfaithful => exact .otherGaveUp _ cut hfaithful

/-! ### Actions that may throw to a script -/

theorem run_pure {value : α} {other : β} (hrel : rel value other) :
    likeness.Pairs offset (likeness.Result rel) (Pure.pure value : Attempt one α).run
      (Pure.pure other : Attempt two β).run :=
  .pure (.ok hrel)

theorem run_bind {action : Attempt one α} {other : Attempt two β} {next : α → Attempt one γ}
    {nextOther : β → Attempt two δ}
    (haction : likeness.Pairs offset (likeness.Result rel) action.run other.run)
    (hnext : ∀ ⦃value given⦄, rel value given →
      likeness.Pairs offset (likeness.Result wide) (next value).run (nextOther given).run) :
    likeness.Pairs offset (likeness.Result wide) (action >>= next).run
      (other >>= nextOther).run := by
  rw [ExceptT.run_bind, ExceptT.run_bind]
  refine haction.bind fun result given hresult => ?_
  cases hresult with
  | ok hrel => exact hnext hrel
  | error hfault => exact .pure (.error hfault)

theorem run_lift {action : Host one α} {other : Host two β}
    (haction : likeness.Pairs offset rel action other) :
    likeness.Pairs offset (likeness.Result rel) (Host.lift action).run
      (Host.lift other).run := by
  show likeness.Pairs offset (likeness.Result rel) (Except.ok <$> action) (Except.ok <$> other)
  rw [map_eq_pure_bind, map_eq_pure_bind]
  exact haction.bind fun _ _ hrel => .pure (.ok hrel)

end Pairs

/-! ## Basic actions -/

section Basic

open Host

variable {offset : Offset}

theorem pairs_note (entry : Entry) :
    likeness.Pairs offset Eq (note entry : Host one Unit) (note entry : Host two Unit) :=
  fun _ _ hcoupled => .of_ends () () (ends_note.mpr rfl) (ends_note.mpr rfl) rfl (hcoupled.note _ _)
    (.note entry)

theorem pairs_write (channel : Channel) (text : String) :
    likeness.Pairs offset Eq (write channel text : Host one Unit)
      (write channel text : Host two Unit) :=
  pairs_note _

theorem pairs_log (event : LogEvent) :
    likeness.Pairs offset Eq (log event : Host one Unit) (log event : Host two Unit) :=
  pairs_note _

/-- A change that leaves no entry. -/
theorem pairs_modify {change : Session one → Session one} {other : Session two → Session two}
    (hchange : ∀ ⦃session twin⦄, likeness.Coupled offset session twin →
      likeness.Coupled offset (change session) (other twin))
    (hgains : ∀ session twin,
      Gains likeness.faithful offset session (change session) twin (other twin)) :
    likeness.Pairs offset Eq (modify change : Host one PUnit) (modify other : Host two PUnit) :=
  fun _ _ hcoupled => .of_ends ⟨⟩ ⟨⟩ (ends_modify.mpr rfl) (ends_modify.mpr rfl) rfl
    (hchange hcoupled) (hgains _ _)

theorem pairs_setStore {store : one.Store} {other : two.Store}
    (hstore : likeness.Store store other) :
    likeness.Pairs offset Eq (setStore store) (setStore other) :=
  pairs_modify (fun _ _ hcoupled => hcoupled.withStore hstore)
    fun _ _ => .none rfl rfl rfl rfl rfl rfl

theorem pairs_changeFlags (change : SamplingFlags → SamplingFlags) :
    likeness.Pairs offset Eq
      (modify fun session => { session with flags := change session.flags } : Host one PUnit)
      (modify fun session => { session with flags := change session.flags } : Host two PUnit) :=
  pairs_modify (fun _ _ hcoupled => hcoupled.withFlags change)
    fun _ _ => .none rfl rfl rfl rfl rfl rfl

theorem pairs_dropJobs : likeness.Pairs offset Eq
    (modify fun session => { session with jobs := [] } : Host one PUnit)
    (modify fun session => { session with jobs := [] } : Host two PUnit) :=
  pairs_modify (fun _ _ hcoupled => hcoupled.withJobs .nil)
    fun _ _ => .none rfl rfl rfl rfl rfl rfl

theorem pairs_queueJob {job : one.Job} {other : two.Job} (hjob : likeness.Job job other) :
    likeness.Pairs offset Eq (queueJob job) (queueJob other) := by
  intro session twin hcoupled
  refine .of_ends () () (ends_queueJob.mpr rfl) (ends_queueJob.mpr rfl) rfl (hcoupled.queueing hjob)
    (.of_history rfl rfl rfl rfl ⟨[_], [_], rfl, rfl, ?_⟩)
  rw [hcoupled.jobCount_eq]
  exact .refl _

theorem pairs_takeJob : likeness.Pairs offset (Option.Rel likeness.Waiting)
    (takeJob : Host one (Option (Nat × one.Job)))
    (takeJob : Host two (Option (Nat × two.Job))) := by
  intro session twin hcoupled
  have hjobs : Option.Rel likeness.Waiting session.jobs.head? twin.jobs.head? ∧
      List.Forall₂ likeness.Waiting session.jobs.tail twin.jobs.tail := by
    have hjobs := hcoupled.jobs
    generalize session.jobs = jobs at hjobs ⊢
    generalize twin.jobs = others at hjobs ⊢
    cases hjobs with
    | nil => exact ⟨.none, .nil⟩
    | cons hfirst hrest => exact ⟨.some hfirst, hrest⟩
  exact .of_ends _ _ (ends_takeJob.mpr ⟨rfl, rfl⟩) (ends_takeJob.mpr ⟨rfl, rfl⟩) hjobs.1
    (hcoupled.withJobs hjobs.2) (.none rfl rfl rfl rfl rfl rfl)

theorem pairs_now (look : Look) :
    likeness.Pairs offset (fun time other => look = .call ∨ likeness.faithful → other = time)
      (now look : Host one Nat) (now look : Host two Nat) :=
  fun _ _ hcoupled => .of_ends _ _ (ends_now.mpr ⟨rfl, rfl⟩) (ends_now.mpr ⟨rfl, rfl⟩)
    hcoupled.instant_eq (hcoupled.looked look) (.none rfl rfl rfl rfl rfl rfl)

theorem pairs_elapsedSince {look : Look} {instant other : Nat}
    (hinstant : look = .call ∨ likeness.faithful → other = instant) :
    likeness.Pairs offset (fun elapsed later => look = .call ∨ likeness.faithful → later = elapsed)
      (elapsedSince look instant : Host one Duration)
      (elapsedSince look other : Host two Duration) := by
  refine (pairs_now look).bind fun time later htime => .pure fun hlook => ?_
  rw [hinstant hlook, htime hlook]

theorem pairs_timeOfDay :
    likeness.Pairs offset Eq (timeOfDay : Host one (Option Nat))
      (timeOfDay : Host two (Option Nat)) :=
  fun _ _ hcoupled => .of_ends _ _ (ends_modifyGet.mpr rfl) (ends_modifyGet.mpr rfl)
    (Clock.day_of_told hcoupled.told_eq).symm hcoupled.dayRead (.none rfl rfl rfl rfl rfl rfl)

theorem pairs_record {record copy : ProfileRecord}
    (hrecord : record.Mirrors likeness.faithful copy) :
    likeness.Pairs offset Eq (Host.record record : Host one Unit)
      (Host.record copy : Host two Unit) := by
  intro session twin hcoupled
  refine .of_ends () () (ends_record.mpr rfl) (ends_record.mpr rfl) rfl (hcoupled.recording _ _)
    ⟨rfl, rfl, ⟨[record], [copy], rfl, rfl, .cons hrecord .nil⟩,
      ((session.kept record).map Entry.recorded).toList,
      ((twin.kept copy).map Entry.recorded).toList, ?_, ?_, ?_⟩
  · cases hkept : session.kept record <;> simp [hkept]
  · cases hkept : twin.kept copy <;> simp [hkept]
  · have hprofiling := hcoupled.profiling_eq
    unfold Session.kept
    generalize session.profile = records at hprofiling ⊢
    generalize twin.profile = others at hprofiling ⊢
    cases records <;> cases others
    · exact .nil
    · cases hprofiling
    · cases hprofiling
    · exact .recorded hrecord .nil

theorem pairs_readLine :
    likeness.Pairs offset Eq (readLine : Host one Bytes) (readLine : Host two Bytes) := by
  intro session twin hcoupled
  refine .of_ends _ _ (ends_readLine.mpr ⟨rfl, rfl⟩) (ends_readLine.mpr ⟨rfl, rfl⟩) ?_
    hcoupled.reading (.of_history rfl rfl rfl rfl ⟨[_], [_], rfl, rfl, ?_⟩)
  · rw [hcoupled.input_eq]
  · rw [hcoupled.input_eq]
    exact .refl _

theorem pairs_readFile (path : String) :
    likeness.Pairs offset Eq (readFile path : Host one (Except IoError Bytes))
      (readFile path : Host two (Except IoError Bytes)) := by
  intro session twin hcoupled
  refine .of_ends _ _ (ends_readFile.mpr ⟨rfl, rfl⟩) (ends_readFile.mpr ⟨rfl, rfl⟩) ?_
    (hcoupled.note _ _) ?_
  · rw [hcoupled.files_eq]
  · rw [hcoupled.files_eq]
    exact .note _

theorem pairs_withRealm {α β : Type} {rel : α → β → Prop} {action : Host one α}
    {other : Host two β} (realm : Realm) (haction : likeness.Pairs offset rel action other) :
    likeness.Pairs offset rel (withRealm realm action) (withRealm realm other) := by
  have hrealm (realm : Realm) : likeness.Pairs offset Eq
      (modify fun session => { session with realm := realm } : Host one PUnit)
      (modify fun session => { session with realm := realm } : Host two PUnit) :=
    pairs_modify (fun _ _ hcoupled => hcoupled.withRealm realm)
      fun _ _ => .none rfl rfl rfl rfl rfl rfl
  refine .look fun session twin hcoupled => ?_
  rw [hcoupled.realm_eq]
  refine (hrealm realm).bind fun _ _ _ => haction.bind fun value given hrel => ?_
  exact (hrealm session.realm).bind fun _ _ _ => .pure hrel

theorem outcome_withFrame {engine : Engine} {α : Type} (frame : String) (action : Host engine α)
    (session : Session engine) :
    (withFrame frame action).outcome session =
      match action.outcome (session.entering frame) with
      | (.ok value, inside) => (leave >>= fun _ => pure value).outcome inside
      | (.error halt, cut) => (.error halt, cut) := by
  have henter : Ends (enter frame) session () (session.entering frame) := ends_enter.mpr rfl
  refine (outcome_bind_of_ends henter).trans ((outcome_bind _ _).trans ?_)
  rcases action.outcome (session.entering frame) with ⟨halt | value, inside⟩
  · rfl
  · rfl

theorem ends_leaving {engine : Engine} {α : Type} {frame : String} {frames : List String}
    {inside : Session engine} (hframes : inside.frames = frame :: frames) (value : α) :
    Ends (leave >>= fun _ => pure value) inside value (inside.leaving frame) :=
  ends_bind.mpr ⟨(), _, (ends_leave hframes).mpr rfl, ends_pure.mpr ⟨rfl, rfl⟩⟩

theorem pairs_withFrame {α β : Type} {rel : α → β → Prop} {action : Host one α}
    {other : Host two β} (frame : String)
    (haction : likeness.Pairs (offset.inside frame) rel action other) :
    likeness.Pairs offset rel (withFrame frame action) (withFrame frame other) := by
  intro session twin hcoupled
  have hmeets := haction (hcoupled.entering frame)
  rw [outcome_withFrame, outcome_withFrame]
  generalize action.outcome (session.entering frame) = outcome at hmeets ⊢
  generalize other.outcome (twin.entering frame) = outcomeOther at hmeets ⊢
  cases hmeets with
  | @ends value given after behind hrel hlast hgains =>
      have hentered : Gains likeness.faithful offset session (session.entering frame) twin
          (twin.entering frame) :=
        .of_history rfl rfl rfl rfl ⟨[_], [_], rfl, rfl, .refl _⟩
      have hleft : Gains likeness.faithful offset after (after.leaving frame) behind
          (behind.leaving frame) :=
        .of_history rfl rfl rfl rfl ⟨[_], [_], rfl, rfl, .refl _⟩
      exact Meets.after (hentered.trans hgains.outside)
        (.of_ends value given (ends_leaving hlast.frames_eq value)
          (ends_leaving hlast.others_eq given) hrel (hlast.leaving rfl rfl hcoupled.outermost)
          hleft)
  | quits cut cutOther => exact .quits cut cutOther
  | gaveUp cut => exact .gaveUp cut _
  | otherGaveUp _ cut hfaithful => exact .otherGaveUp _ cut hfaithful

end Basic

end Likeness

end ScriptShell
