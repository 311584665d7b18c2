import ScriptShell.Proofs.Session.Samples
import ScriptShell.Proofs.Session.Transparency

/-!
# A session with and without profiling

Two new sessions that differ in whether profiling is on are taken through the same steps. Step by
step they tell their user the same, times aside (`Reply`), and are the same but for the profile:
erasing it makes their states equal.

A step may save the profile, which makes a file of it where profiling is on. Then the two sessions
go on alike as long as no file is read that is not the same in both (`SavedUnread`).
-/

namespace ScriptShell

variable {engine : Engine}

/-! ## Replies -/

/-- What a step tells its user. How long a script took is left out, and so is whether the profile
could be saved. -/
inductive Reply (engine : Engine) where
  | done
  | evaluated (outcome : Evaluated engine)
  | rendered (text : String)
  | environment (made : Except engine.Fault Realm)
  | executed (result : Except Failure Execution)
  | ran (success : Bool)

/-- Does an operation and tells what it results in. -/
def Operation.reply (budget : Nat) : Operation engine → Host engine (Reply engine)
  | .evaluate environment source name =>
    Reply.evaluated <$> Host.evaluateIn budget environment source name
  | .checkSyntax environment source name =>
    Reply.evaluated <$> Host.checkSyntaxIn budget environment source name
  | .stringify environment value => Reply.rendered <$> Host.stringifyIn budget environment value
  | .createEnvironment arguments => Reply.environment <$> (Host.createEnvironment arguments).run
  | .execute environment out dump script =>
    Reply.executed <$> Except.map Execution.untimed <$>
      Host.execute budget environment out dump script
  | .runScripts environment out dump scripts =>
    Reply.ran <$> Host.runScripts budget environment out dump scripts
  | operation => do
    operation.run budget
    return .done

namespace SessionStep

/-- Does a step and tells what it results in. -/
def reply (budget : Nat) : SessionStep engine → Host engine (Reply engine)
  | .operate operation => operation.reply budget
  | step => do
    step.run budget
    return .done

/-- Does steps one after another. -/
def replyAll (budget : Nat) : List (SessionStep engine) → Host engine (List (Reply engine))
  | [] => return []
  | step :: rest => do
    let reply ← step.reply budget
    return reply :: (← replyAll budget rest)

/-- Whether a step saves the profile. -/
def saves : SessionStep engine → Bool
  | .operate (.saveProfile _) => true
  | _ => false

end SessionStep

/-- The entries that a session gained on the way to another. -/
def Session.gained (session after : Session engine) : List Entry :=
  (after.history.take (after.history.length - session.history.length)).reverse

theorem Session.gained_eq {session after : Session engine} {entries : List Entry}
    (hhistory : after.history = entries.reverse ++ session.history) :
    session.gained after = entries := by
  simp [gained, hhistory]

/-- Whatever file a step reads in the first session is the same in the second. -/
def SavedUnread (budget : Nat) :
    List (SessionStep engine) → Session engine → Session engine → Prop
  | [], _, _ => True
  | step :: rest, session, other =>
    let after := ((step.reply budget).outcome session).2
    ReadAlike (session.gained after) session.files other.files ∧
      SavedUnread budget rest after ((step.reply budget).outcome other).2

instance decidableSavedUnread (budget : Nat) :
    (steps : List (SessionStep engine)) → (session other : Session engine) →
      Decidable (SavedUnread budget steps session other)
  | [], _, _ => isTrue trivial
  | _ :: rest, _, _ =>
    have := decidableSavedUnread budget rest
    inferInstanceAs (Decidable (_ ∧ _))

/-- The session without its profile and the readings for how long scripts take. -/
def Session.unprofiled (session : Session engine) : Session engine :=
  { session with
    profile := none
    clock := session.clock.besidesScripts
    history := Entry.besidesProfile session.history }

namespace Host

variable {α β : Type} {session other after : Session engine} {budget : Nat}

/-! ## Steps -/

theorem Unaware.map {action : Host engine α} (change : α → β) (haction : Unaware action) :
    Unaware (change <$> action) := by
  rw [map_eq_pure_bind]
  exact haction.bind fun _ => .pure _

/-- No step but that of saving it is aware of the profile. -/
theorem unaware_reply {step : SessionStep engine} (hsaves : step.saves = false) :
    Unaware (step.reply budget) := by
  have hdone : ∀ {action : Host engine Unit}, Unaware action →
      Unaware (action >>= fun _ => pure (Reply.done : Reply engine)) :=
    fun haction => haction.bind fun _ => .pure _
  have hswitch : ∀ change : Sampler → Sampler, Unaware
      (modify fun session => { session with sampler := change session.sampler } :
        Host engine PUnit) :=
    fun change => unaware_changeSampler (fun session => change session.sampler) fun _ => rfl
  cases step with
  | start => exact hdone (hswitch Sampler.start)
  | stop => exact hdone (hswitch Sampler.stop)
  | enter frame => exact hdone (unaware_enter frame)
  | leave => exact hdone unaware_leave
  | operate operation =>
      cases operation with
      | evaluate environment source name =>
          exact .map _ (unaware_closed.evaluateIn budget environment source name)
      | checkSyntax environment source name =>
          exact .map _ (unaware_closed.checkSyntaxIn budget environment source name)
      | stringify environment value =>
          exact .map _ (unaware_closed.stringifyIn budget environment value)
      | createEnvironment arguments => exact .map _ (unaware_createEnvironment arguments)
      | execute environment out dump script => exact .map _ (unaware_execute script)
      | runScripts environment out dump scripts => exact .map _ (unaware_runScripts scripts)
      | shell environment out => exact hdone unaware_reports.shell
      | shellOn environment out input =>
          exact hdone ((unaware_reports.shellOn input).bind fun _ => .pure _)
      | changeFlags change => exact hdone (unaware_closed.changeFlags change)
      | changeSampler change => exact hdone (hswitch change)
      | saveProfile path => cases hsaves

/-- Saving the profile leaves everything besides it and the files as it is. -/
theorem ends_saveProfile_core (path : String) (session : Session engine) :
    ∃ result after, Ends (Program.saveProfile path) session result after ∧
      after.core = session.core := by
  cases hprofile : session.profile with
  | none => exact ⟨.ok (), session, ends_saveProfile.mpr (by simp [hprofile]), rfl⟩
  | some records =>
      cases hwrite : session.files.write path (Bytes.ofString (Profile.render records)) with
      | ok files =>
          exact ⟨.ok (), Session.note { session with files := files } (.fileWritten path none),
            ends_saveProfile.mpr (by simp [hprofile, hwrite]), rfl⟩
      | error error =>
          exact ⟨.error (.io error), session.note (.fileWritten path (some error)),
            ends_saveProfile.mpr (by simp [hprofile, hwrite]), rfl⟩

/-- Two sessions with the same core have the same core behind it. -/
theorem alike_saving {step : SessionStep engine} (hsaves : step.saves = true)
    (hcore : other.core = session.core) : (step.reply budget).Alike session other := by
  cases step with
  | operate operation =>
      cases operation with
      | saveProfile path =>
          have hreply : ∀ {result middle} {before : Session engine},
              Ends (Program.saveProfile path) before result middle →
              Ends (SessionStep.reply budget (.operate (.saveProfile path))) before .done middle :=
            fun hsave => ends_bind.mpr ⟨(), _, ends_bind.mpr ⟨_, _, hsave, rfl⟩, rfl⟩
          obtain ⟨_, after, hfirst, hkept⟩ := ends_saveProfile_core path session
          obtain ⟨_, afterOther, hsecond, hkeptOther⟩ := ends_saveProfile_core path other
          exact .of_outcomes (hreply hfirst) (hreply hsecond) (by rw [hkept, hkeptOther, hcore])
      | _ => cases hsaves
  | _ => cases hsaves

/-! ## All steps -/

/-- Without saving it, no sequence of steps is aware of the profile. -/
theorem unaware_replyAll {steps : List (SessionStep engine)}
    (hunsaved : ∀ step ∈ steps, step.saves = false) :
    Unaware (SessionStep.replyAll budget steps) := by
  induction steps with
  | nil => exact .pure _
  | cons step rest ih =>
      obtain ⟨hstep, hrest⟩ := List.forall_mem_cons.mp hunsaved
      exact (unaware_reply hstep).bind fun reply => (ih hrest).bind fun replies => .pure _

/-- Saved or not, the profile makes no difference where no file is read that it changed. -/
theorem replyAll_alike {steps : List (SessionStep engine)} (hcore : other.core = session.core)
    (hunread : SavedUnread budget steps session other) :
    (SessionStep.replyAll budget steps).Alike session other := by
  induction steps generalizing session other with
  | nil => exact .of_outcomes rfl rfl hcore
  | cons step rest ih =>
      obtain ⟨hreads, hrest⟩ := hunread
      have hstep : (step.reply budget).Alike session other := by
        cases hsaves : step.saves with
        | false =>
            obtain ⟨gained, hhistory, -, hsame⟩ := unaware_reply hsaves session
            rw [Session.gained_eq hhistory] at hreads
            exact hsame other hcore hreads
        | true => exact alike_saving hsaves hcore
      refine hstep.bind fun reply _ => ?_
      have hreplies := ih hstep.core_eq hrest
      exact hreplies.bind fun replies _ => .of_outcomes rfl rfl hreplies.core_eq

end Host

/-- Erasing the profile makes the states of two new sessions, one with profiling on, equal after any
steps, and they tell the same of each step, times aside. A saved profile is a file more; where it is
saved on the way, that holds as long as no file is read that is another one by that. -/
theorem sessions_alike (budget : Nat) (options : Options) (input : Bytes) (files : Files)
    (clock : Clock) (steps : List (SessionStep engine)) :
    let profiled := (SessionStep.replyAll budget steps).outcome
      (Session.start engine options true input files clock)
    let plain := (SessionStep.replyAll budget steps).outcome
      (Session.start engine options false input files clock)
    ((∀ step ∈ steps, step.saves = false) →
      profiled.1 = plain.1 ∧ profiled.2.unprofiled = plain.2.unprofiled) ∧
    (SavedUnread budget steps (Session.start engine options false input files clock)
        (Session.start engine options true input files clock) →
      profiled.1 = plain.1 ∧ profiled.2.core = plain.2.core) := by
  intro profiled plain
  have hcore : (Session.start engine options true input files clock).core =
      (Session.start engine options false input files clock).core := rfl
  constructor
  · intro hunsaved
    obtain ⟨⟨hreplies, hcores⟩, hfiles⟩ := (Host.unaware_replyAll hunsaved).alike hcore rfl
    refine ⟨hreplies, ?_⟩
    have hwith : ∀ session : Session engine,
        session.unprofiled = { session.core with files := session.files } := fun _ => rfl
    rw [hwith, hwith, hcores, hfiles]
  · intro hunread
    obtain ⟨hreplies, hcores⟩ := Host.replyAll_alike hcore hunread
    exact ⟨hreplies, hcores⟩

end ScriptShell
