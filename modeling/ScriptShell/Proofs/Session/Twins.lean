import Mathlib.Data.List.Forall2
import ScriptShell.Proofs.Session.Moves
import ScriptShell.Proofs.Session.Reading

/-!
# Two sessions side by side

The same action is done in two sessions that differ in what script code cannot see: the sampler,
what happened before, what the clock shows for the purposes of the shell, and the name under which a
line of the shell or a script of the command line is evaluated (`Twin`). Then the two sessions move
in step, from twins to twins (`Abreast`), up to the same result or the same cut (`Host.Alongside`).
Times that script code asks for are the same in both (`Clock.told`), whatever they are.
-/

namespace ScriptShell

variable {engine : Engine}

/-! ## What may differ -/

/-- Two names of one evaluation: they are the same, or that of a line of the shell and that of a
script of the command line. -/
inductive Renamed : String → String → Prop
  | same (name : String) : Renamed name name
  | line : Renamed Host.interpreterSource Host.commandLineSource

/-- Two records of one evaluation. They may differ in the name and in how long it took. -/
structure ProfileRecord.Alike (record other : ProfileRecord) : Prop where
  renamed : Renamed record.source other.source
  kind_eq : other.kind = record.kind
  threw_eq : other.threw = record.threw

/-- Two entries that tell of the same but for names and times. -/
inductive Entry.Alike : Entry → Entry → Prop
  | same (entry : Entry) : Alike entry entry
  | entered {frame other : String} (hframe : Renamed frame other) :
      Alike (.entered frame) (.entered other)
  | left {frame other : String} (hframe : Renamed frame other) : Alike (.left frame) (.left other)
  | called {frames others : List String} (native : Native)
      (hframes : List.Forall₂ Renamed frames others) :
      Alike (.called native frames) (.called native others)
  | recorded {record other : ProfileRecord} (hrecord : record.Alike other) :
      Alike (.recorded record) (.recorded other)
  | stackTrace {frames others : List String} (hframes : List.Forall₂ Renamed frames others) :
      Alike (.wrote .stderr (Host.stackTrace frames)) (.wrote .stderr (Host.stackTrace others))
  | callFrame {frame other : String} (hframe : Renamed frame other) :
      Alike (.wrote .stderr ("--> Call frame: " ++ frame ++ "\n"))
        (.wrote .stderr ("--> Call frame: " ++ other ++ "\n"))

/-- Two sessions that script code cannot tell apart. -/
structure Twin (session twin : Session engine) : Prop where
  store_eq : twin.store = session.store
  realm_eq : twin.realm = session.realm
  realms_eq : twin.realms = session.realms
  jobs_eq : twin.jobs = session.jobs
  jobCount_eq : twin.jobCount = session.jobCount
  frames : List.Forall₂ Renamed session.frames twin.frames
  options_eq : twin.options = session.options
  flags_eq : twin.flags = session.flags
  profile : Option.Rel (List.Forall₂ ProfileRecord.Alike) session.profile twin.profile
  input_eq : twin.input = session.input
  files_eq : twin.files = session.files
  told_eq : twin.clock.told = session.clock.told

namespace Twin

variable {session twin : Session engine}

theorem refl (session : Session engine) : Twin session session where
  store_eq := rfl
  realm_eq := rfl
  realms_eq := rfl
  jobs_eq := rfl
  jobCount_eq := rfl
  frames := List.forall₂_same.mpr fun frame _ => .same frame
  options_eq := rfl
  flags_eq := rfl
  profile := by
    cases session.profile with
    | none => exact .none
    | some records => exact .some (List.forall₂_same.mpr fun record _ => ⟨.same _, rfl, rfl⟩)
  input_eq := rfl
  files_eq := rfl
  told_eq := rfl

theorem note (h : Twin session twin) (entry other : Entry) :
    Twin (session.note entry) (twin.note other) :=
  { h with }

theorem withStore (h : Twin session twin) (store : engine.Store) :
    Twin { session with store := store } { twin with store := store } :=
  { h with store_eq := rfl }

theorem withRealm (h : Twin session twin) (realm : Realm) :
    Twin { session with realm := realm } { twin with realm := realm } :=
  { h with realm_eq := rfl }

theorem withFlags (h : Twin session twin) (change : SamplingFlags → SamplingFlags) :
    Twin { session with flags := change session.flags }
      { twin with flags := change twin.flags } :=
  { h with flags_eq := congrArg change h.flags_eq }

theorem withJobs (h : Twin session twin) (jobs : List (Nat × engine.Job)) :
    Twin { session with jobs := jobs } { twin with jobs := jobs } :=
  { h with jobs_eq := rfl }

theorem looked (h : Twin session twin) (look : Look) :
    Twin (session.looked look) (twin.looked look) :=
  { h with told_eq := Clock.told_looked h.told_eq look }

theorem dayRead (h : Twin session twin) : Twin session.dayRead twin.dayRead :=
  { h with told_eq := Clock.told_dayRead h.told_eq }

theorem entering (h : Twin session twin) {frame other : String}
    (hframe : Renamed frame other) : Twin (session.entering frame) (twin.entering other) :=
  { h with frames := .cons hframe h.frames }

theorem leaving (h : Twin session twin) {frame other : String} {outer outerOther : List String}
    (hframes : session.frames = frame :: outer) (hothers : twin.frames = other :: outerOther) :
    Twin (session.leaving frame) (twin.leaving other) :=
  { h with
    frames := by
      show List.Forall₂ Renamed session.frames.tail twin.frames.tail
      have houter := h.frames
      rw [hframes, hothers] at houter ⊢
      exact (List.forall₂_cons.mp houter).2 }

theorem reading (h : Twin session twin) : Twin session.reading twin.reading :=
  { h with
    input_eq := by
      show twin.input.takeChunk.2 = session.input.takeChunk.2
      rw [h.input_eq] }

theorem queueing (h : Twin session twin) (job : engine.Job) :
    Twin (session.queueing job) (twin.queueing job) :=
  { h with
    jobs_eq := by
      show twin.jobs ++ [(twin.jobCount, job)] = session.jobs ++ [(session.jobCount, job)]
      rw [h.jobs_eq, h.jobCount_eq]
    jobCount_eq := by
      show twin.jobCount + 1 = session.jobCount + 1
      rw [h.jobCount_eq] }

theorem withNewRealm (h : Twin session twin) (store : engine.Store) :
    Twin (session.withNewRealm store) (twin.withNewRealm store) :=
  { h with
    store_eq := rfl
    realms_eq := by
      show twin.realms + 1 = session.realms + 1
      rw [h.realms_eq] }

theorem recording (h : Twin session twin) {record other : ProfileRecord}
    (hrecord : record.Alike other) :
    Twin (session.recording record) (twin.recording other) :=
  { h with
    profile := by
      have hprofile := h.profile
      show Option.Rel _ (session.profile.map (· ++ [record])) (twin.profile.map (· ++ [other]))
      generalize session.profile = records at hprofile ⊢
      generalize twin.profile = others at hprofile ⊢
      cases hprofile with
      | none => exact .none
      | some hrecords => exact .some (List.rel_append hrecords (.cons hrecord .nil)) }

end Twin

/-! ## In step -/

/-- Two sessions move in step, each time from twins to twins, and leave alike entries. -/
inductive Abreast : Session engine → Session engine → List Entry → List Entry →
    Session engine → Session engine → Prop
  | stay {session twin : Session engine} (htwin : Twin session twin) :
      Abreast session twin [] [] session twin
  | move {session twin middle middleTwin after behind : Session engine}
      {first firstOther second secondOther : List Entry} (htwin : Twin session twin)
      (hmove : Move session first middle) (hother : Move twin firstOther middleTwin)
      (halike : List.Forall₂ Entry.Alike first firstOther)
      (hrest : Abreast middle middleTwin second secondOther after behind) :
      Abreast session twin (first ++ second) (firstOther ++ secondOther) after behind

namespace Abreast

variable {session twin middle middleTwin after behind : Session engine}
  {entries others first firstOther second secondOther : List Entry}

theorem single (htwin : Twin session twin) (hmove : Move session entries after)
    (hother : Move twin others behind) (halike : List.Forall₂ Entry.Alike entries others)
    (hlast : Twin after behind) : Abreast session twin entries others after behind := by
  have habreast := Abreast.move htwin hmove hother halike (.stay hlast)
  rwa [List.append_nil, List.append_nil] at habreast

theorem append (hfirst : Abreast session twin first firstOther middle middleTwin)
    (hsecond : Abreast middle middleTwin second secondOther after behind) :
    Abreast session twin (first ++ second) (firstOther ++ secondOther) after behind := by
  induction hfirst with
  | stay => exact hsecond
  | move htwin hmove hother halike _ ih =>
      rw [List.append_assoc, List.append_assoc]
      exact .move htwin hmove hother halike (ih hsecond)

theorem last (h : Abreast session twin entries others after behind) :
    Twin after behind := by
  induction h with
  | stay htwin => exact htwin
  | move _ _ _ _ _ ih => exact ih

theorem moves (h : Abreast session twin entries others after behind) :
    Moves session entries after := by
  induction h with
  | stay => exact .stay _
  | move _ hmove _ _ _ ih => exact .move hmove ih

theorem moves_other (h : Abreast session twin entries others after behind) :
    Moves twin others behind := by
  induction h with
  | stay => exact .stay _
  | move _ _ hother _ _ ih => exact .move hother ih

end Abreast

namespace Host

variable {α β : Type} {session twin : Session engine}

/-! ## Side by side -/

/-- Done in two sessions, two actions move in step and come to the same result or are cut off
alike. -/
def Alongside (action other : Host engine α) (session twin : Session engine) : Prop :=
  ∃ gained others,
    Abreast session twin gained others (action.outcome session).2 (other.outcome twin).2 ∧
      (other.outcome twin).1 = (action.outcome session).1

/-- The two actions are side by side from all twins on. -/
def Parallel (action other : Host engine α) : Prop :=
  ∀ ⦃session twin : Session engine⦄, Twin session twin → Alongside action other session twin

namespace Alongside

/-- Actions that come to their ends with the same result. -/
theorem of_abreast {action other : Host engine α} (value : α) {after behind : Session engine}
    {gained others : List Entry} (hfirst : Ends action session value after)
    (hsecond : Ends other twin value behind)
    (habreast : Abreast session twin gained others after behind) :
    Alongside action other session twin := by
  unfold Alongside
  rw [show action.outcome session = (.ok value, after) from hfirst,
    show other.outcome twin = (.ok value, behind) from hsecond]
  exact ⟨gained, others, habreast, rfl⟩

/-- Actions that come to their ends with the same result and make one move. -/
theorem of_move {action other : Host engine α} (value : α) {after behind : Session engine}
    {gained others : List Entry} (hfirst : Ends action session value after)
    (hsecond : Ends other twin value behind) (htwin : Twin session twin)
    (hmove : Move session gained after) (hother : Move twin others behind)
    (halike : List.Forall₂ Entry.Alike gained others) (hlast : Twin after behind) :
    Alongside action other session twin :=
  .of_abreast value hfirst hsecond (.single htwin hmove hother halike hlast)

/-- Actions that come to the same as others once a move was made. -/
theorem of_step {action other next nextOther : Host engine α} {middle middleTwin : Session engine}
    {first firstOther : List Entry} (hfirst : action.outcome session = next.outcome middle)
    (hsecond : other.outcome twin = nextOther.outcome middleTwin) (htwin : Twin session twin)
    (hmove : Move session first middle) (hother : Move twin firstOther middleTwin)
    (halike : List.Forall₂ Entry.Alike first firstOther)
    (hnext : Alongside next nextOther middle middleTwin) :
    Alongside action other session twin := by
  obtain ⟨gained, others, habreast, hsame⟩ := hnext
  unfold Alongside
  rw [hfirst, hsecond]
  exact ⟨first ++ gained, firstOther ++ others, .move htwin hmove hother halike habreast, hsame⟩

/-- Actions that look at the sessions before they go on. -/
theorem get_bind {next nextOther : Session engine → Host engine α}
    (hnext : Alongside (next session) (nextOther twin) session twin) :
    Alongside (get >>= next) (get >>= nextOther) session twin := by
  unfold Alongside at hnext ⊢
  rwa [outcome_bind_of_ends (ends_get.mpr ⟨rfl, rfl⟩),
    outcome_bind_of_ends (ends_get.mpr ⟨rfl, rfl⟩)]

theorem bind {action other : Host engine α} {next nextOther : α → Host engine β}
    (haction : Alongside action other session twin)
    (hnext : ∀ value, Parallel (next value) (nextOther value)) :
    Alongside (action >>= next) (other >>= nextOther) session twin := by
  obtain ⟨first, others, habreast, hsame⟩ := haction
  unfold Alongside
  rw [outcome_bind, outcome_bind]
  rcases houtcome : action.outcome session with ⟨halt | value, middle⟩ <;>
    rcases hother : other.outcome twin with ⟨result, behind⟩ <;>
    rw [houtcome, hother] at habreast hsame
  · obtain rfl : result = .error halt := hsame
    exact ⟨first, others, habreast, rfl⟩
  · obtain rfl : result = .ok value := hsame
    obtain ⟨second, more, hmore, hsameLast⟩ := hnext value habreast.last
    exact ⟨first ++ second, others ++ more, habreast.append hmore, hsameLast⟩

/-- What comes of the second action comes of the first. -/
theorem ends {action other : Host engine α} {value : α} {behind : Session engine}
    (h : Alongside action other session twin) (hends : Ends other twin value behind) :
    ∃ gained others after, Ends action session value after ∧
      Abreast session twin gained others after behind := by
  obtain ⟨gained, others, habreast, hsame⟩ := h
  rw [show other.outcome twin = (.ok value, behind) from hends] at habreast hsame
  exact ⟨gained, others, (action.outcome session).2, Prod.ext hsame.symm rfl, habreast⟩

theorem halts {action other : Host engine α} {halt : Halt} {behind : Session engine}
    (h : Alongside action other session twin) (hhalts : Halts other twin halt behind) :
    ∃ after, Halts action session halt after ∧ Twin after behind := by
  obtain ⟨gained, others, habreast, hsame⟩ := h
  rw [show other.outcome twin = (.error halt, behind) from hhalts] at habreast hsame
  exact ⟨(action.outcome session).2, Prod.ext hsame.symm rfl, habreast.last⟩

end Alongside

namespace Parallel

theorem pure (value : α) : Parallel (pure value : Host engine α) (pure value) :=
  fun _ _ htwin => ⟨[], [], .stay htwin, rfl⟩

theorem throw (halt : Halt) : Parallel (throw halt : Host engine α) (throw halt) :=
  fun _ _ htwin => ⟨[], [], .stay htwin, rfl⟩

theorem bind {action other : Host engine α} {next nextOther : α → Host engine β}
    (haction : Parallel action other)
    (hnext : ∀ value, Parallel (next value) (nextOther value)) :
    Parallel (action >>= next) (other >>= nextOther) :=
  fun _ _ htwin => (haction htwin).bind hnext

/-- Looks at parts of the sessions that are the same. -/
theorem get_bind {γ : Type} (part : Session engine → γ) (next : γ → Host engine β)
    (hpart : ∀ ⦃session twin : Session engine⦄, Twin session twin → part twin = part session)
    (hnext : ∀ value, Parallel (next value) (next value)) :
    Parallel (get >>= fun session => next (part session))
      (get >>= fun session => next (part session)) := by
  intro session twin htwin
  refine .get_bind ?_
  rw [hpart htwin]
  exact hnext _ htwin

end Parallel

end Host

end ScriptShell
