import Mathlib.Tactic.Simps.Basic
import ScriptShell.Session.Evaluate

/-!
# How actions end

An action of the shell takes a session to a result and another session, unless a call of `quit` or
a bound that is used up cuts it off. `Host.Ends` is the relation between the two sessions and the
result; each way of building an action has one equation for it, so that an action is taken apart
by rewriting with `Host.ends_bind` and the equations of the basic actions.

What the basic actions do to a session is named here (`Session.note`, `Session.entering`, …),
since the equations would otherwise repeat the same updates.
-/

namespace ScriptShell

variable {engine : Engine}

/-! ## Clocks -/

/-- What script code can be told of a clock. -/
def Clock.told (clock : Clock) : (Nat → Nat) × (Nat → Option Nat) :=
  (clock.instants .call, clock.days)

namespace Clock

variable {clock other : Clock} {look : Look}

theorem told_looked_of_ne (hlook : look ≠ .call) : (clock.looked look).told = clock.told := by
  simp [told, looked, hlook.symm]

theorem instant_call_of_told (h : other.told = clock.told) :
    other.instant .call = clock.instant .call :=
  congrFun (congrArg Prod.fst h) 0

theorem day_of_told (h : other.told = clock.told) : other.day = clock.day :=
  congrFun (congrArg Prod.snd h) 0

/-- Each look leaves two clocks alike for script code. -/
theorem told_looked (h : other.told = clock.told) (look : Look) :
    (other.looked look).told = (clock.looked look).told := by
  by_cases hlook : look = .call
  · subst hlook
    obtain ⟨hcalls, hdays⟩ := Prod.mk.inj h
    simp only [told, looked, if_true, hdays, Prod.mk.injEq, and_true]
    exact funext fun index => congrFun hcalls (index + 1)
  · rw [told_looked_of_ne hlook, told_looked_of_ne hlook, h]

theorem told_dayRead (h : other.told = clock.told) : other.dayRead.told = clock.dayRead.told := by
  obtain ⟨hcalls, hdays⟩ := Prod.mk.inj h
  simp only [told, dayRead, hcalls, hdays]

end Clock

/-! ## What the basic actions do to a session -/

namespace Session

/-- The session with one more entry. -/
@[simps frames realm jobs jobCount options sampler profile files history]
def note (session : Session engine) (entry : Entry) : Session engine :=
  { session with history := entry :: session.history }

/-- The session after a look at the clock. -/
@[simps frames realm jobs jobCount options sampler profile files history]
def looked (session : Session engine) (look : Look) : Session engine :=
  { session with clock := session.clock.looked look }

/-- The session after the time of day was read. -/
@[simps frames realm jobs jobCount options sampler profile files history]
def dayRead (session : Session engine) : Session engine :=
  { session with clock := session.clock.dayRead }

/-- The session inside one more frame. -/
@[simps frames realm jobs jobCount options sampler profile files history]
def entering (session : Session engine) (frame : String) : Session engine :=
  { session with frames := frame :: session.frames, history := .entered frame :: session.history }

/-- The session outside its innermost frame. -/
@[simps frames realm jobs jobCount options sampler profile files history]
def leaving (session : Session engine) (frame : String) : Session engine :=
  { session with frames := session.frames.tail, history := .left frame :: session.history }

/-- The session with one more waiting job. -/
@[simps frames realm jobs jobCount options sampler profile files history]
def queueing (session : Session engine) (job : engine.Job) : Session engine :=
  { session with
    jobs := session.jobs ++ [(session.jobCount, job)]
    jobCount := session.jobCount + 1
    history := .queued session.jobCount :: session.history }

/-- What becomes of a record: it is kept where profiling is on. -/
def kept (session : Session engine) (record : ProfileRecord) : Option ProfileRecord :=
  session.profile.map fun _ => record

/-- The session after a record was added to the profile, where profiling is on. -/
@[simps frames realm jobs jobCount options sampler profile files history]
def recording (session : Session engine) (record : ProfileRecord) : Session engine :=
  { session with
    profile := session.profile.map (· ++ [record])
    history := ((session.kept record).map Entry.recorded).toList ++ session.history }

/-- The session after a chunk of standard input was consumed. -/
@[simps frames realm jobs jobCount options sampler profile files history]
def reading (session : Session engine) : Session engine :=
  { session with
    input := session.input.takeChunk.2
    history := .lineRead session.input.takeChunk.1 :: session.history }

@[simp] theorem kept_looked (session : Session engine) (look : Look) (record : ProfileRecord) :
    (session.looked look).kept record = session.kept record := rfl

@[simp] theorem kept_entering (session : Session engine) (frame : String)
    (record : ProfileRecord) : (session.entering frame).kept record = session.kept record := rfl

end Session

namespace Host

variable {α β : Type} {session after : Session engine}

/-! ## Ends -/

/-- What an action makes of a session: a result or a halt, and the session behind it. -/
def outcome (action : Host engine α) (session : Session engine) :
    Except Halt α × Session engine :=
  Id.run (action.run.run session)

/-- The action comes to its end with a result in the session `after`. -/
def Ends (action : Host engine α) (session : Session engine) (result : α)
    (after : Session engine) : Prop :=
  action.outcome session = (.ok result, after)

/-- An action whose result can be computed comes to its end with it. -/
theorem exists_ends {action : Host engine α} {holds : α → Bool}
    (hresult : (action.outcome session).1.toOption.any holds = true) :
    ∃ result, Ends action session result (action.outcome session).2 ∧ holds result = true := by
  unfold Ends
  rcases houtcome : action.outcome session with ⟨halt | result, after⟩
  · rw [houtcome] at hresult
    cases hresult
  · rw [houtcome] at hresult
    exact ⟨result, rfl, hresult⟩

theorem outcome_bind (action : Host engine α) (next : α → Host engine β) :
    (action >>= next).outcome session =
      match action.outcome session with
      | (.ok value, middle) => (next value).outcome middle
      | (.error halt, middle) => (.error halt, middle) := by
  show outcome (ExceptT.bind action next) session = _
  unfold ExceptT.bind outcome
  simp only [ExceptT.run_mk, StateT.run_bind]
  show Id.run ((ExceptT.bindCont next (action.run.run session).1).run
    (action.run.run session).2) = _
  rcases action.run.run session with ⟨value | halt, middle⟩ <;> rfl

/-! ## Ways of building actions -/

theorem ends_bind {action : Host engine α} {next : α → Host engine β} {result : β} :
    Ends (action >>= next) session result after ↔
      ∃ value middle, Ends action session value middle ∧
        Ends (next value) middle result after := by
  unfold Ends
  rw [outcome_bind]
  rcases action.outcome session with ⟨halt | value, middle⟩
  · simp
  · constructor
    · intro h
      exact ⟨value, middle, rfl, h⟩
    · rintro ⟨_, _, heq, h⟩
      cases heq
      exact h

theorem ends_pure {value result : α} :
    Ends (pure value : Host engine α) session result after ↔
      result = value ∧ after = session := by
  show ((Except.ok value, session) : Except Halt α × Session engine) = _ ↔ _
  simp [eq_comm]

theorem ends_throw {halt : Halt} {result : α} :
    Ends (throw halt : Host engine α) session result after ↔ False := by
  show ((Except.error halt, session) : Except Halt α × Session engine) = _ ↔ _
  simp

theorem ends_get {result : Session engine} :
    Ends (get : Host engine (Session engine)) session result after ↔
      result = session ∧ after = session := by
  show ((Except.ok session, session) : Except Halt _ × Session engine) = _ ↔ _
  simp [eq_comm]

theorem ends_set {target : Session engine} {result : PUnit} :
    Ends (set target : Host engine PUnit) session result after ↔ after = target := by
  show ((Except.ok (), target) : Except Halt _ × Session engine) = _ ↔ _
  simp [eq_comm]

theorem ends_modify {change : Session engine → Session engine} {result : PUnit} :
    Ends (modify change : Host engine PUnit) session result after ↔ after = change session := by
  show ((Except.ok (), change session) : Except Halt _ × Session engine) = _ ↔ _
  simp [eq_comm]

theorem ends_modifyGet {change : Session engine → α × Session engine} {result : α} :
    Ends (modifyGet change : Host engine α) session result after ↔
      change session = (result, after) := by
  show ((Except.ok (change session).1, (change session).2) :
    Except Halt _ × Session engine) = _ ↔ _
  simp [Prod.ext_iff]

theorem ends_get_bind {next : Session engine → Host engine β} {result : β} :
    Ends (get >>= next) session result after ↔ Ends (next session) session result after := by
  rw [ends_bind]
  constructor
  · rintro ⟨_, _, hget, hnext⟩
    obtain ⟨rfl, rfl⟩ := ends_get.mp hget
    exact hnext
  · intro hnext
    exact ⟨_, _, ends_get.mpr ⟨rfl, rfl⟩, hnext⟩

theorem ends_modify_bind {change : Session engine → Session engine}
    {next : PUnit → Host engine β} {result : β} :
    Ends (modify change >>= next) session result after ↔
      Ends (next ()) (change session) result after := by
  rw [ends_bind]
  constructor
  · rintro ⟨_, _, hmodify, hnext⟩
    rw [ends_modify.mp hmodify] at hnext
    exact hnext
  · intro hnext
    exact ⟨(), _, ends_modify.mpr rfl, hnext⟩

/-! ## Actions that may throw to a script -/

theorem ends_run_pure {value : α} {result : Except engine.Fault α} :
    Ends (pure value : Attempt engine α).run session result after ↔
      result = .ok value ∧ after = session :=
  ends_pure

theorem ends_run_get {result : Except engine.Fault (Session engine)} :
    Ends (get : Attempt engine (Session engine)).run session result after ↔
      result = .ok session ∧ after = session := by
  show Ends (get >>= fun session => pure (.ok session)) session result after ↔ _
  rw [ends_get_bind, ends_pure]

/-- What comes behind something thrown is left out. -/
theorem ends_run_bind {action : Attempt engine α} {next : α → Attempt engine β}
    {result : Except engine.Fault β} :
    Ends (action >>= next).run session result after ↔
      (∃ value middle, Ends action.run session (.ok value) middle ∧
        Ends (next value).run middle result after) ∨
      ∃ fault, Ends action.run session (.error fault) after ∧ result = .error fault := by
  rw [ExceptT.run_bind, ends_bind]
  constructor
  · rintro ⟨value | fault, middle, haction, hnext⟩
    · obtain ⟨rfl, rfl⟩ := ends_pure.mp hnext
      exact .inr ⟨_, haction, rfl⟩
    · exact .inl ⟨_, _, haction, hnext⟩
  · rintro (⟨value, middle, haction, hnext⟩ | ⟨fault, haction, rfl⟩)
    · exact ⟨_, _, haction, hnext⟩
    · exact ⟨_, _, haction, ends_pure.mpr ⟨rfl, rfl⟩⟩

theorem ends_run_lift {action : Host engine α} {result : Except engine.Fault α} :
    Ends (lift action).run session result after ↔
      ∃ value, Ends action session value after ∧ result = .ok value := by
  show Ends (Except.ok <$> action) session result after ↔ _
  rw [map_eq_pure_bind, ends_bind]
  constructor
  · rintro ⟨value, middle, haction, hpure⟩
    obtain ⟨rfl, rfl⟩ := ends_pure.mp hpure
    exact ⟨value, haction, rfl⟩
  · rintro ⟨value, haction, rfl⟩
    exact ⟨value, after, haction, ends_pure.mpr ⟨rfl, rfl⟩⟩

theorem ends_run_get_bind {next : Session engine → Attempt engine β}
    {result : Except engine.Fault β} :
    Ends (get >>= next).run session result after ↔
      Ends (next session).run session result after := by
  rw [ends_run_bind]
  constructor
  · rintro (⟨value, middle, hget, hnext⟩ | ⟨fault, hget, -⟩)
    · obtain ⟨hvalue, rfl⟩ := ends_run_get.mp hget
      cases hvalue
      exact hnext
    · cases (ends_run_get.mp hget).1
  · intro hnext
    exact .inl ⟨_, _, ends_run_get.mpr ⟨rfl, rfl⟩, hnext⟩

/-- An action that throws nothing is followed by what comes behind it. -/
theorem ends_run_lift_bind {action : Host engine α} {next : α → Attempt engine β}
    {result : Except engine.Fault β} :
    Ends (lift action >>= next).run session result after ↔
      ∃ value middle, Ends action session value middle ∧
        Ends (next value).run middle result after := by
  rw [ends_run_bind]
  constructor
  · rintro (⟨value, middle, hlift, hnext⟩ | ⟨fault, hlift, -⟩)
    · obtain ⟨_, haction, hvalue⟩ := ends_run_lift.mp hlift
      cases hvalue
      exact ⟨value, middle, haction, hnext⟩
    · obtain ⟨_, -, hvalue⟩ := ends_run_lift.mp hlift
      cases hvalue
  · rintro ⟨value, middle, haction, hnext⟩
    exact .inl ⟨value, middle, ends_run_lift.mpr ⟨value, haction, rfl⟩, hnext⟩

/-! ## Basic actions -/

theorem ends_note {entry : Entry} {result : Unit} :
    Ends (note entry) session result after ↔ after = session.note entry :=
  ends_modify

theorem ends_note_bind {entry : Entry} {next : Unit → Host engine β} {result : β} :
    Ends (note entry >>= next) session result after ↔
      Ends (next ()) (session.note entry) result after :=
  ends_modify_bind

theorem ends_now {look : Look} {result : Nat} :
    Ends (now look : Host engine Nat) session result after ↔
      result = session.clock.instant look ∧ after = session.looked look := by
  unfold now
  rw [ends_modifyGet]
  simp [Session.looked, eq_comm]

theorem ends_now_bind {look : Look} {next : Nat → Host engine β} {result : β} :
    Ends (now look >>= next) session result after ↔
      Ends (next (session.clock.instant look)) (session.looked look) result after := by
  rw [ends_bind]
  constructor
  · rintro ⟨_, _, hnow, hnext⟩
    obtain ⟨rfl, rfl⟩ := ends_now.mp hnow
    exact hnext
  · intro hnext
    exact ⟨_, _, ends_now.mpr ⟨rfl, rfl⟩, hnext⟩

theorem ends_elapsedSince {look : Look} {instant : Nat} {result : Duration} :
    Ends (elapsedSince look instant : Host engine Duration) session result after ↔
      result = Duration.ofNanos (session.clock.instant look - instant) ∧
        after = session.looked look := by
  unfold elapsedSince
  rw [ends_now_bind, ends_pure]

theorem ends_timeOfDay {result : Option Nat} :
    Ends (timeOfDay : Host engine (Option Nat)) session result after ↔
      result = session.clock.day ∧ after = session.dayRead := by
  unfold timeOfDay
  rw [ends_modifyGet]
  simp [Session.dayRead, eq_comm]

theorem ends_enter {frame : String} {result : Unit} :
    Ends (enter frame) session result after ↔ after = session.entering frame := by
  unfold enter
  rw [ends_modify_bind, ends_note]
  exact Iff.rfl

/-- Leaving a frame that is open. -/
theorem ends_leave {frame : String} {outer : List String}
    (hframes : session.frames = frame :: outer) {result : Unit} :
    Ends leave session result after ↔ after = session.leaving frame := by
  unfold leave
  rw [ends_get_bind]
  simp only [hframes]
  rw [ends_modify_bind, ends_note]
  simp [Session.leaving, Session.note, hframes]

theorem ends_withRealm {realm : Realm} {action : Host engine α} {result : α} :
    Ends (withRealm realm action) session result after ↔
      ∃ inside, Ends action { session with realm := realm } result inside ∧
        after = { inside with realm := session.realm } := by
  unfold withRealm
  rw [ends_get_bind, ends_modify_bind, ends_bind]
  constructor
  · rintro ⟨value, inside, haction, hrest⟩
    rw [ends_modify_bind, ends_pure] at hrest
    obtain ⟨rfl, rfl⟩ := hrest
    exact ⟨inside, haction, rfl⟩
  · rintro ⟨inside, haction, rfl⟩
    refine ⟨result, inside, haction, ?_⟩
    rw [ends_modify_bind, ends_pure]
    exact ⟨rfl, rfl⟩

theorem ends_record {record : ProfileRecord} {result : Unit} :
    Ends (Host.record record) session result after ↔ after = session.recording record := by
  unfold Host.record
  rw [ends_get_bind]
  cases hprofile : session.profile with
  | none =>
      rw [ends_pure]
      have hsame : session.recording record = session := by
        cases session
        subst hprofile
        rfl
      rw [hsame]
      simp
  | some records =>
      rw [ends_modify_bind, ends_note]
      simp [Session.recording, Session.kept, Session.note, hprofile]

theorem ends_readLine {result : Bytes} :
    Ends (readLine : Host engine Bytes) session result after ↔
      result = session.input.takeChunk.1.chomp ∧ after = session.reading := by
  unfold readLine
  rw [ends_get_bind, ends_modify_bind, ends_note_bind, ends_pure]
  exact Iff.rfl

theorem ends_readFile {path : String} {result : Except IoError Bytes} :
    Ends (readFile path : Host engine (Except IoError Bytes)) session result after ↔
      result = session.files.read path ∧
        after = session.note (.fileRead path (session.files.read path).isOk) := by
  unfold readFile
  rw [ends_get_bind, ends_note_bind, ends_pure]

theorem ends_queueJob {job : engine.Job} {result : Unit} :
    Ends (queueJob job) session result after ↔ after = session.queueing job := by
  unfold queueJob
  rw [ends_get_bind, ends_modify_bind, ends_note]
  exact Iff.rfl

theorem ends_takeJob {result : Option (Nat × engine.Job)} :
    Ends takeJob session result after ↔
      result = session.jobs.head? ∧ after = { session with jobs := session.jobs.tail } := by
  unfold takeJob
  rw [ends_modifyGet]
  cases hjobs : session.jobs with
  | nil =>
      have hsame : { session with jobs := [] } = session := by rw [← hjobs]
      simp [hsame, eq_comm]
  | cons job rest => simp [eq_comm]

theorem ends_thrownValue {fault : engine.Fault} {result : engine.Value} :
    Ends (thrownValue fault) session result after ↔
      result = (engine.thrown session.realm fault session.store).1 ∧
        after = { session with store := (engine.thrown session.realm fault session.store).2 } := by
  unfold thrownValue
  rw [ends_modifyGet]
  simp [eq_comm]

/-! ## Evaluations and syntax checks -/

/-- The phases of an evaluation, with the sessions between them. -/
theorem ends_evaluate {answer : Answer engine} {bound : Nat} {source name : String}
    {outcome : Evaluated engine} :
    Ends (evaluate answer bound source name) session outcome after ↔
      ∃ result ran drained elapsed reported,
        Ends (runSource answer source).run ((session.entering name).looked .evaluation) result ran ∧
        Ends (drainOutermost answer bound) ran () drained ∧
        elapsed = Duration.ofNanos
          (drained.clock.instant .evaluation - session.clock.instant .evaluation) ∧
        Ends (evaluated answer result)
          ((drained.looked .evaluation).recording ⟨name, .evaluate, elapsed, !result.isOk⟩) outcome
          reported ∧
        Ends leave reported () after := by
  unfold evaluate withFrame
  simp only [ends_bind, ends_enter, ends_now, ends_elapsedSince, ends_record, ends_pure]
  constructor
  · rintro ⟨_, _, rfl, _, reported, ⟨_, _, ⟨rfl, rfl⟩, result, ran, hscript, _, drained, hjobs,
      elapsed, _, ⟨rfl, rfl⟩, _, _, rfl, hreport⟩, _, _, hleave, rfl, rfl⟩
    exact ⟨result, ran, drained, _, reported, hscript, hjobs, rfl, hreport, hleave⟩
  · rintro ⟨result, ran, drained, _, reported, hscript, hjobs, rfl, hreport, hleave⟩
    exact ⟨(), _, rfl, outcome, reported, ⟨_, _, ⟨rfl, rfl⟩, result, ran, hscript, (), drained,
      hjobs, _, _, ⟨rfl, rfl⟩, (), _, rfl, hreport⟩, (), after, hleave, rfl, rfl⟩

/-- The phases of a syntax check. -/
theorem ends_checkSyntax {answer : Answer engine} {source name : String}
    {outcome : Evaluated engine} :
    Ends (checkSyntax answer source name) session outcome after ↔
      ∃ result elapsed reported,
        result = (engine.parse session.options source).map (fun _ => engine.undefined) ∧
        elapsed = Duration.ofNanos
          ((session.clock.looked .evaluation).instant .evaluation -
            session.clock.instant .evaluation) ∧
        Ends (evaluated answer result)
          ((((session.entering name).looked .evaluation).looked .evaluation).recording
            ⟨name, .checkSyntax, elapsed, !result.isOk⟩) outcome reported ∧
        Ends leave reported () after := by
  unfold checkSyntax withFrame
  simp only [ends_bind, ends_enter, ends_now, ends_get, ends_elapsedSince, ends_record, ends_pure]
  constructor
  · rintro ⟨_, _, rfl, _, reported, ⟨_, _, ⟨rfl, rfl⟩, _, _, ⟨rfl, rfl⟩, elapsed, _, ⟨rfl, rfl⟩,
      _, _, rfl, hreport⟩, _, _, hleave, rfl, rfl⟩
    exact ⟨_, _, reported, rfl, rfl, hreport, hleave⟩
  · rintro ⟨_, _, reported, rfl, rfl, hreport, hleave⟩
    exact ⟨(), _, rfl, outcome, reported, ⟨_, _, ⟨rfl, rfl⟩, _, _, ⟨rfl, rfl⟩, _, _, ⟨rfl, rfl⟩,
      (), _, rfl, hreport⟩, (), after, hleave, rfl, rfl⟩

end Host

end ScriptShell
