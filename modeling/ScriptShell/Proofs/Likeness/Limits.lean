import ScriptShell.Proofs.Likeness.Actions
import ScriptShell.Proofs.Session.Execution

/-!
# Runs that reach no limit

A script is run on an engine that gives up as soon as a limit is reached. If that run does not give
up, the run on the engine itself is the same one, session by session and entry by entry
(`Host.Realizes`). So that the first does not give up says of the second that it reaches no limit
(`Script.StaysWithin`), and what the first consists of is what the second consists of
(`ScriptRun.Executes.released`).
-/

namespace ScriptShell

variable {engine : Engine} {reached : engine.Store → Bool}

/-! ## The same session on both engines -/

namespace Session

/-- The session on the engine that stops early. -/
def stoppingAt (session : Session engine) (reached : engine.Store → Bool) :
    Session (engine.stoppingAt reached) where
  store := session.store
  realm := session.realm
  realms := session.realms
  jobs := session.jobs
  jobCount := session.jobCount
  frames := session.frames
  options := session.options
  flags := session.flags
  sampler := session.sampler
  profile := session.profile
  input := session.input
  files := session.files
  clock := session.clock
  history := session.history

/-- The session on the engine itself. -/
def released (session : Session (engine.stoppingAt reached)) : Session engine where
  store := session.store
  realm := session.realm
  realms := session.realms
  jobs := session.jobs
  jobCount := session.jobCount
  frames := session.frames
  options := session.options
  flags := session.flags
  sampler := session.sampler
  profile := session.profile
  input := session.input
  files := session.files
  clock := session.clock
  history := session.history

/-- Nothing differs between a session and the same session on the engine itself. -/
theorem coupled_released (session : Session (engine.stoppingAt reached)) :
    (Likeness.stoppingAt engine reached).Coupled ⟨session.frames, session.frames⟩ session
      session.released where
  store := rfl
  realm_eq := rfl
  realms_eq := rfl
  jobs := List.forall₂_same.mpr fun _ _ => ⟨rfl, rfl⟩
  jobCount_eq := rfl
  frames_eq := rfl
  others_eq := rfl
  outermost := Iff.rfl
  options_eq := rfl
  flags_eq := rfl
  profiling_eq := rfl
  input_eq := rfl
  files_eq := rfl
  told_eq := rfl
  clock_eq _ := rfl

end Session

namespace Likeness

/-- Jobs that wait under the same number on an engine and on the engine that stops early. -/
theorem eq_of_waiting {jobs : List (Nat × (engine.stoppingAt reached).Job)}
    {others : List (Nat × engine.Job)}
    (h : List.Forall₂ (stoppingAt engine reached).Waiting jobs others) : others = jobs := by
  induction h with
  | nil => rfl
  | @cons job other _ _ hwaiting _ ih =>
      obtain ⟨number, job⟩ := job
      obtain ⟨numberOther, jobOther⟩ := other
      obtain ⟨rfl, hjob⟩ := hwaiting
      cases hjob
      subst ih
      rfl

/-- Where nothing differed at first, nothing differs behind. -/
theorem Coupled.eq_released {frames : List String}
    {session after : Session (engine.stoppingAt reached)} {behind : Session engine}
    (h : (stoppingAt engine reached).Coupled ⟨frames, frames⟩ after behind)
    (hgains : Gains True ⟨frames, frames⟩ session after session.released behind) :
    behind = after.released := by
  obtain ⟨records, copies, hprofile, hprofileOther, hrecords⟩ := hgains.profile
  obtain ⟨entries, others, hhistory, hhistoryOther, hmirrors⟩ := hgains.history
  have hstore : after.store = behind.store := h.store
  have hclock := h.clock_eq trivial
  have hframes := h.frames_eq.trans h.others_eq.symm
  have hjobs := eq_of_waiting h.jobs
  have hsampler : behind.sampler = after.sampler :=
    hgains.otherSampler_eq.trans hgains.sampler_eq.symm
  have hprofiles : behind.profile = after.profile := by
    rw [hprofileOther, hprofile, ProfileRecord.eq_of_mirrors hrecords trivial]
    rfl
  have hhistories : behind.history = after.history := by
    rw [hhistoryOther, hhistory, hmirrors.eq trivial]
    rfl
  cases behind
  exact (Session.mk.injEq ..).mpr ⟨hstore.symm, h.realm_eq, h.realms_eq, hjobs, h.jobCount_eq,
    hframes.symm, h.options_eq, h.flags_eq, hsampler, hprofiles, h.input_eq, h.files_eq, hclock,
    hhistories⟩

end Likeness

/-! ## Actions that do the same -/

namespace Host

variable {α β γ δ : Type} {rel : α → β → Prop} {wide : γ → δ → Prop}

/-- As long as the first action does not give up, the second one does the same on the engine
itself. -/
def Realizes (rel : α → β → Prop) (action : Host (engine.stoppingAt reached) α)
    (other : Host engine β) : Prop :=
  ∀ session, match action.outcome session with
    | (.ok value, after) => ∃ given, rel value given ∧
        Ends other session.released given after.released
    | (.error .quit, _) => ∃ cut, Halts other session.released .quit cut
    | (.error .exhausted, _) => True

namespace Realizes

variable {action : Host (engine.stoppingAt reached) α} {other : Host engine β}

theorem ends (h : Realizes rel action other)
    {session after : Session (engine.stoppingAt reached)} {value : α}
    (hends : Ends action session value after) :
    ∃ given, rel value given ∧ Ends other session.released given after.released := by
  have hsession := h session
  rw [show action.outcome session = _ from hends] at hsession
  exact hsession

/-- What the second action comes to, the first one comes to, if it does not give up. -/
theorem ends_of_released (h : Realizes rel action other)
    {session : Session (engine.stoppingAt reached)} {given : β} {after : Session engine}
    (hlimits : (action.outcome session).1 ≠ .error .exhausted)
    (hends : Ends other session.released given after) :
    ∃ value behind, Ends action session value behind ∧ rel value given ∧
      after = behind.released := by
  have hsession := h session
  rcases houtcome : action.outcome session with ⟨(_ | _) | value, behind⟩
  · rw [houtcome] at hsession
    obtain ⟨cut, hhalts⟩ := hsession
    cases hends.symm.trans hhalts
  · rw [houtcome] at hlimits
    exact absurd rfl hlimits
  · rw [houtcome] at hsession
    obtain ⟨own, hrel, hown⟩ := hsession
    obtain ⟨rfl, rfl⟩ := hown.unique hends
    exact ⟨value, behind, houtcome, hrel, rfl⟩

theorem pure {value : α} {given : β} (hrel : rel value given) :
    Realizes rel (Pure.pure value : Host (engine.stoppingAt reached) α)
      (Pure.pure given : Host engine β) :=
  fun _ => ⟨given, hrel, rfl⟩

theorem bind {next : α → Host (engine.stoppingAt reached) γ} {nextOther : β → Host engine δ}
    (haction : Realizes rel action other)
    (hnext : ∀ ⦃value given⦄, rel value given → Realizes wide (next value) (nextOther given)) :
    Realizes wide (action >>= next) (other >>= nextOther) := by
  intro session
  have hsession := haction session
  rw [outcome_bind]
  generalize action.outcome session = outcome at hsession ⊢
  rcases outcome with ⟨(_ | _) | value, middle⟩
  · obtain ⟨cut, hhalts⟩ := hsession
    exact ⟨cut, halts_bind.mpr (.inl hhalts)⟩
  · trivial
  · obtain ⟨given, hrel, hends⟩ := hsession
    have hmiddle := hnext hrel middle
    rcases houtcome : (next value).outcome middle with ⟨(_ | _) | result, after⟩
    · rw [houtcome] at hmiddle
      obtain ⟨cut, hhalts⟩ := hmiddle
      simp only [houtcome]
      exact ⟨cut, (halts_bind_of_ends hends).mpr hhalts⟩
    · simp only [houtcome]
    · rw [houtcome] at hmiddle
      obtain ⟨last, hlast, hafter⟩ := hmiddle
      simp only [houtcome]
      exact ⟨last, hlast, ends_bind.mpr ⟨given, middle.released, hends, hafter⟩⟩

/-- Actions that look at the session before they go on. -/
theorem look {next : Session (engine.stoppingAt reached) →
      Host (engine.stoppingAt reached) α} {nextOther : Session engine → Host engine β}
    (hnext : ∀ session, Realizes rel (next session) (nextOther session.released)) :
    Realizes rel (get >>= next) (get >>= nextOther) := by
  have hget : Realizes (fun (session : Session (engine.stoppingAt reached)) twin =>
      twin = session.released) get get :=
    fun session => ⟨session.released, rfl, rfl⟩
  refine hget.bind ?_
  rintro session _ rfl
  exact hnext session

/-- Actions that are paired do the same. -/
theorem of_pairs (h : ∀ frames, (Likeness.stoppingAt engine reached).Pairs ⟨frames, frames⟩
    rel action other) : Realizes rel action other := by
  intro session
  have hmeets := h session.frames session.coupled_released
  generalize houtcome : action.outcome session = outcome at hmeets
  generalize hother : other.outcome session.released = given at hmeets
  cases hmeets with
  | ends hrel hlast hgains =>
      rw [hlast.eq_released hgains] at hother
      exact ⟨_, hrel, hother⟩
  | quits cut cutOther => exact ⟨cutOther, hother⟩
  | gaveUp cut => trivial
  | otherGaveUp _ cut hfaithful => exact absurd trivial hfaithful

theorem modifyGet
    {change : Session (engine.stoppingAt reached) → α × Session (engine.stoppingAt reached)}
    {changeOther : Session engine → α × Session engine}
    (h : ∀ session, changeOther session.released =
      ((change session).1, (change session).2.released)) :
    Realizes Eq (MonadState.modifyGet change : Host (engine.stoppingAt reached) α)
      (MonadState.modifyGet changeOther : Host engine α) :=
  fun session => ⟨(change session).1, rfl, ends_modifyGet.mpr (h session)⟩

end Realizes

end Host

/-! ## Executing a script -/

/-- The outcome on the engine itself. -/
def Evaluated.released : Evaluated (engine.stoppingAt reached) → Evaluated engine
  | .completed value => .completed value
  | .threw fault info => .threw fault info

@[simp] theorem Evaluated.exception_released (outcome : Evaluated (engine.stoppingAt reached)) :
    outcome.released.exception = outcome.exception := by
  cases outcome <;> rfl

namespace Host

open Likeness

variable {budget : Nat} {environment : Realm} {out : Channel} {dump : Bool}

theorem realizes_note (entry : Entry) :
    Realizes Eq (note entry : Host (engine.stoppingAt reached) Unit)
      (note entry : Host engine Unit) :=
  .of_pairs fun _ => pairs_note entry

theorem realizes_now (look : Look) :
    Realizes Eq (now look : Host (engine.stoppingAt reached) Nat) (now look : Host engine Nat) :=
  .modifyGet fun _ => rfl

theorem realizes_evaluateIn (budget : Nat) (environment : Realm) (source name : String) :
    Realizes (fun outcome given => given = outcome.released)
      (evaluateIn budget environment source name :
        Host (engine.stoppingAt reached) (Evaluated (engine.stoppingAt reached)))
      (evaluateIn budget environment source name : Host engine (Evaluated engine)) := by
  refine .of_pairs fun _ => (pairs_evaluateIn sound_stoppingAt (fun _ => Nat.le_refl _)
    environment source name).mono fun outcome given houtcome => ?_
  cases houtcome with
  | completed hvalue =>
      cases hvalue
      rfl
  | threw hfault info =>
      cases hfault
      rfl

theorem realizes_stringifyIn (budget : Nat) (environment : Realm) (value : engine.Value) :
    Realizes Eq
      (stringifyIn budget environment value : Host (engine.stoppingAt reached) String)
      (stringifyIn budget environment value : Host engine String) :=
  .of_pairs fun _ => pairs_stringifyIn sound_stoppingAt (fun _ => Nat.le_refl _) environment rfl

theorem realizes_openScript (script : Script) :
    Realizes Eq
      (openScript script : Host (engine.stoppingAt reached) (Except Failure (String × String)))
      (openScript script : Host engine (Except Failure (String × String))) := by
  cases script with
  | inline code => exact .pure rfl
  | file path =>
      have hread : Realizes Eq
          (readFile path : Host (engine.stoppingAt reached) (Except IoError Bytes))
          (readFile path : Host engine (Except IoError Bytes)) :=
        .of_pairs fun _ => pairs_readFile path
      refine hread.bind fun content given hcontent => ?_
      subst hcontent
      cases content with
      | ok content => exact .pure rfl
      | error error => exact .pure rfl

theorem realizes_openWindow (script : String) :
    Realizes Eq (openWindow script : Host (engine.stoppingAt reached) Window)
      (openWindow script : Host engine Window) := by
  refine .look fun session => ?_
  show Realizes Eq (if session.sampler.records then _ else _)
    (if session.sampler.records then _ else _)
  split
  · refine (realizes_now .window).bind fun instant other hinstant => ?_
    subst hinstant
    exact .modifyGet fun _ => rfl
  · exact .pure rfl

theorem realizes_closeWindow (window : Window) :
    Realizes Eq (closeWindow window : Host (engine.stoppingAt reached) Unit)
      (closeWindow window : Host engine Unit) := by
  unfold closeWindow
  split
  · refine (realizes_now .window).bind fun instant other hinstant => ?_
    subst hinstant
    exact .modifyGet fun _ => rfl
  · exact .pure rfl

theorem realizes_elapsedMillis (wanted : Bool) (began : Nat) :
    Realizes Eq (elapsedMillis wanted began : Host (engine.stoppingAt reached) (Option Nat))
      (elapsedMillis wanted began : Host engine (Option Nat)) := by
  unfold elapsedMillis
  split
  · refine (realizes_now .script).bind fun instant other hinstant => ?_
    subst hinstant
    exact .pure rfl
  · exact .pure rfl

theorem realizes_report (source name : String) :
    Realizes Eq
      (report budget environment out dump source name :
        Host (engine.stoppingAt reached) (Option ExceptionInfo))
      (report budget environment out dump source name : Host engine (Option ExceptionInfo)) := by
  refine (realizes_evaluateIn budget environment source name).bind fun outcome given hgiven => ?_
  subst hgiven
  cases outcome with
  | threw fault info => exact (realizes_note _).bind fun _ _ _ => .pure rfl
  | completed value =>
      cases dump with
      | false => exact .pure rfl
      | true =>
          show Realizes Eq (stringifyIn budget environment value >>= _)
            (stringifyIn budget environment value >>= _)
          refine (@realizes_stringifyIn engine _ budget environment value).bind
            fun text other htext => ?_
          subst htext
          exact (realizes_note _).bind fun _ _ _ => .pure rfl

/-- As long as it reaches no limit, executing a script is the same on an engine that stops there and
on the engine itself. -/
theorem realizes_execute (script : Script) :
    Realizes Eq
      (execute budget environment out dump script :
        Host (engine.stoppingAt reached) (Except Failure Execution))
      (execute budget environment out dump script : Host engine (Except Failure Execution)) := by
  refine (realizes_openScript script).bind fun opened other hopened => ?_
  subst hopened
  cases opened with
  | error failure => exact .pure rfl
  | ok loaded =>
      obtain ⟨name, source⟩ := loaded
      refine (realizes_note _).bind fun _ _ _ => .look fun session => ?_
      refine (realizes_now .script).bind fun began other hbegan => ?_
      subst hbegan
      refine (realizes_openWindow name).bind fun window other hwindow => ?_
      subst hwindow
      refine (realizes_report source name).bind fun exception other hexception => ?_
      subst hexception
      refine (realizes_closeWindow window).bind fun _ _ _ => ?_
      refine (realizes_elapsedMillis _ began).bind fun elapsed other helapsed => ?_
      subst helapsed
      exact (realizes_note _).bind fun _ _ _ => .pure rfl

end Host

/-- Executing a script reaches no limit, neither one of the engine, which shows in the states that
it hands out, nor one of the shell. -/
def Script.StaysWithin (reached : engine.Store → Bool) (budget : Nat) (environment : Realm)
    (out : Channel) (dump : Bool) (session : Session engine) (script : Script) : Prop :=
  ((Host.execute budget environment out dump script).outcome
    (session.stoppingAt reached)).1 ≠ .error .exhausted

/-- An execution that comes to an end on the engine that stops reaches no limit. -/
theorem Script.staysWithin_of_isOk {budget : Nat} {environment : Realm} {out : Channel}
    {dump : Bool} {session : Session engine} {script : Script}
    (h : ((Host.execute budget environment out dump script).outcome
      (session.stoppingAt reached)).1.isOk = true) :
    script.StaysWithin reached budget environment out dump session := by
  intro hexhausted
  rw [hexhausted] at h
  cases h

/-! ## What an execution consists of -/

theorem Stroke.released {session after : Session (engine.stoppingAt reached)}
    {entries : List Entry} (h : Stroke session entries after) :
    Stroke session.released entries after.released := by
  cases h with
  | work store => exact .work (show engine.Store from store)
  | look use => exact .look use
  | day => exact .day
  | flag flags => exact .flag flags
  | write hout text => exact .write hout text
  | announce arguments => exact .announce arguments
  | readFile path => exact .readFile path
  | readLine => exact .readLine
  | queue job => exact .queue (show engine.Job from job)
  | realm store => exact .realm (show engine.Store from store)
  | call native => exact .call native

theorem Course.released {stage : Stage} {session after : Session (engine.stoppingAt reached)}
    {entries : List Entry} (h : Course stage session entries after) :
    Course stage session.released entries after.released := by
  induction h with
  | stay => exact .stay
  | stroke hstroke => exact .stroke hstroke.released
  | append _ _ ihfirst ihsecond => exact .append ihfirst ihsecond
  | @inRealm session inside _ realm _ ih =>
      exact @Course.inRealm engine session.released inside.released _ realm ih
  | @checked session reported record _ hkind _ ih =>
      exact @Course.checked engine session.released reported.released record _ hkind ih
  | @evaluated session ran drained reported record _ _ _ hkind _ _ _ ihscript ihjobs ihreport =>
      exact @Course.evaluated engine session.released ran.released drained.released
        reported.released record _ _ _ hkind ihscript ihjobs ihreport
  | nested hframes => exact .nested hframes
  | drained hframes hjobs => exact .drained hframes hjobs
  | @job session settled after number job rest _ _ hframes hjobs _ _ ihbody ihmore =>
      exact @Course.job engine session.released settled.released after.released number job rest _ _
        hframes hjobs ihbody ihmore
  | @interrupted session failed number job rest _ hframes hjobs _ ih =>
      exact @Course.interrupted engine session.released failed.released number job rest _ hframes
        hjobs ih

theorem Tended.released {session after : Session (engine.stoppingAt reached)}
    {entries : List Entry} (h : Tended session entries after) :
    Tended session.released entries after.released where
  after_eq := by
    rw [h.after_eq]
    rfl
  enabled_eq := h.enabled_eq
  told_eq := h.told_eq

theorem Reports.released {budget : Nat} {environment : Realm} {dump : Bool}
    {outcome : Evaluated (engine.stoppingAt reached)}
    {session after : Session (engine.stoppingAt reached)} {text : Option String}
    {entries : List Entry}
    (h : Reports budget environment dump outcome session text entries after) :
    Reports budget environment dump outcome.released session.released text entries
      after.released := by
  cases h with
  | threw => exact .threw
  | silent hdump => exact .silent hdump
  | dumped hdump hends hcourse =>
      obtain ⟨_, rfl, hreleased⟩ := (Host.realizes_stringifyIn budget environment _).ends hends
      exact .dumped hdump hreleased hcourse.released

namespace ScriptRun

/-- The run on the engine itself. -/
def released (run : ScriptRun (engine.stoppingAt reached)) : ScriptRun engine where
  script := run.script
  name := run.name
  source := run.source
  begun := run.begun.released
  outcome := run.outcome.released
  evaluated := run.evaluated.released
  evaluation := run.evaluation
  text := run.text
  rendering := run.rendering
  rendered := run.rendered.released
  execution := run.execution

theorem Executes.released {budget : Nat} {environment : Realm} {out : Channel} {dump : Bool}
    {session after : Session (engine.stoppingAt reached)}
    {run : ScriptRun (engine.stoppingAt reached)}
    (h : run.Executes budget environment out dump session after) :
    run.released.Executes budget environment out dump session.released after.released where
  opened := h.opened
  begins := h.begins.released
  evaluates := by
    obtain ⟨_, rfl, hreleased⟩ :=
      (Host.realizes_evaluateIn budget environment run.source run.name).ends h.evaluates
    exact hreleased
  course := h.course.released
  name_eq := h.name_eq
  reports := h.reports.released
  finishes := by
    have hfinishes := h.finishes.released
    rwa [← Evaluated.exception_released] at hfinishes
  succeeded_eq := by
    rw [show run.released.execution = run.execution from rfl, h.succeeded_eq]
    exact congrArg Option.isNone run.outcome.exception_released.symm
  exception_eq := h.exception_eq.trans run.outcome.exception_released.symm
  elapsed_eq := h.elapsed_eq

end ScriptRun

end ScriptShell
