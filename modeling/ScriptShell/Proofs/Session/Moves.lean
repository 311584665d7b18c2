import ScriptShell.Proofs.Session.Halting
import ScriptShell.Proofs.Session.Reachable

/-!
# Sessions move by move

Each action of the shell is made of small moves of the session: the engine's state is replaced, a
frame is entered, a chunk of standard input is consumed, and so on. `Move` lists them. Unlike
courses and passages, moves also lead to where an action is cut off by a call of `quit` or by a
bound, so that what every move keeps holds of a session at any time (`Evolves.moves`).

## Main results

* `Host.leads_operation`: a relation of all moves that keep the engine as it is (`Host.Moving`) is
  one of every operation, if it is one of what the engine does and of creating environments.
* `Host.moves_shell`: every action of the shell is made of moves.
* `Evolves.moves`: so is whatever the user of a session has it do.
-/

namespace ScriptShell

variable {engine : Engine}

/-! ## Moves -/

/-- An entry that goes with no other change of the session. -/
def Entry.Plain : Entry → Prop
  | .wrote _ _ | .logged _ | .fileRead _ _ | .fileWritten _ _ | .called _ _ | .settled _ => True
  | _ => False

/-- One small change of a session, with the entries that the journal gains. -/
inductive Move : Session engine → List Entry → Session engine → Prop
  | store {session : Session engine} (store : engine.Store) :
      Move session [] { session with store := store }
  | realm {session : Session engine} (realm : Realm) :
      Move session [] { session with realm := realm }
  | flags {session : Session engine} (flags : SamplingFlags) :
      Move session [] { session with flags := flags }
  | sampler {session : Session engine} (sampler : Sampler) :
      Move session [] { session with sampler := sampler }
  | files {session : Session engine} (files : Files) :
      Move session [] { session with files := files }
  | look {session : Session engine} (look : Look) : Move session [] (session.looked look)
  | day {session : Session engine} : Move session [] session.dayRead
  | note {session : Session engine} {entry : Entry} (hplain : entry.Plain) :
      Move session [entry] (session.note entry)
  | read {session : Session engine} :
      Move session [.lineRead session.input.takeChunk.1] session.reading
  | enter {session : Session engine} (frame : String) :
      Move session [.entered frame] (session.entering frame)
  | leave {session : Session engine} {frame : String} {outer : List String}
      (hframes : session.frames = frame :: outer) :
      Move session [.left frame] (session.leaving frame)
  | record {session : Session engine} (record : ProfileRecord) :
      Move session ((session.kept record).map Entry.recorded).toList (session.recording record)
  | makeRealm {session : Session engine} (store : engine.Store) :
      Move session [.realmCreated session.realms] (session.withNewRealm store)
  | queue {session : Session engine} (job : engine.Job) :
      Move session [.queued session.jobCount] (session.queueing job)
  | take {session : Session engine} :
      Move session [] { session with jobs := session.jobs.tail }
  | start {session : Session engine} (number : Nat) :
      Move session [.started number] (session.note (.started number))
  | interrupt {session : Session engine} (number : Nat) :
      Move session [.interrupted number] (session.note (.interrupted number))
  | drop {session : Session engine} : Move session [] { session with jobs := [] }

/-- Moves one after another. -/
inductive Moves : Session engine → List Entry → Session engine → Prop
  | stay (session : Session engine) : Moves session [] session
  | move {session middle after : Session engine} {first second : List Entry}
      (hmove : Move session first middle) (hmoves : Moves middle second after) :
      Moves session (first ++ second) after

namespace Moves

variable {session middle after : Session engine} {first second entries : List Entry}

theorem single (hmove : Move session entries after) : Moves session entries after := by
  have hmoves := Moves.move hmove (.stay after)
  rwa [List.append_nil] at hmoves

theorem append (hfirst : Moves session first middle) (hsecond : Moves middle second after) :
    Moves session (first ++ second) after := by
  induction hfirst with
  | stay => exact hsecond
  | move hmove _ ih =>
      rw [List.append_assoc]
      exact .move hmove (ih hsecond)

/-- The journal gains the entries of moves. -/
theorem history_eq (h : Moves session entries after) :
    after.history = entries.reverse ++ session.history := by
  induction h with
  | stay => rfl
  | move hmove _ ih =>
      have hmiddle := ih
      cases hmove with
      | record record =>
          rw [hmiddle, Session.recording_history]
          cases (Session.kept _ record) <;> simp
      | _ => simp [hmiddle]

theorem journal_eq (h : Moves session entries after) :
    after.journal = session.journal ++ entries := by
  simp [Session.journal, h.history_eq]

end Moves

namespace Host

variable {α β : Type} {session after : Session engine}

instance : Chained (@Moves engine) where
  stay := .stay
  append := .append

/-! ## Actions that lead somewhere -/

/-- Whether the action comes to its end or is cut off, the relation holds of the session before it
and the session behind. -/
def Leads (relation : Session engine → List Entry → Session engine → Prop)
    (action : Host engine α) : Prop :=
  ∀ session : Session engine, ∃ entries, relation session entries (action.outcome session).2

namespace Leads

variable {relation : Session engine → List Entry → Session engine → Prop}

/-- An action that always comes to its end. -/
theorem of_ends {action : Host engine α}
    (hends : ∀ session : Session engine, ∃ result after entries,
      Ends action session result after ∧ relation session entries after) :
    Leads relation action := by
  intro session
  obtain ⟨result, after, entries, hresult, hrelation⟩ := hends session
  rw [show action.outcome session = (.ok result, after) from hresult]
  exact ⟨entries, hrelation⟩

theorem get_bind {next : Session engine → Host engine β}
    (hnext : ∀ session, Leads relation (next session)) : Leads relation (get >>= next) := by
  intro session
  rw [outcome_bind]
  exact hnext session session

variable [Chained relation]

theorem pure (value : α) : Leads relation (pure value : Host engine α) :=
  fun session => ⟨[], Chained.stay session⟩

theorem throw (halt : Halt) : Leads relation (throw halt : Host engine α) :=
  fun session => ⟨[], Chained.stay session⟩

theorem bind {action : Host engine α} {next : α → Host engine β}
    (haction : Leads relation action) (hnext : ∀ value, Leads relation (next value)) :
    Leads relation (action >>= next) := by
  intro session
  obtain ⟨first, hfirst⟩ := haction session
  rw [outcome_bind]
  rcases houtcome : action.outcome session with ⟨halt | value, middle⟩
  · rw [houtcome] at hfirst
    exact ⟨first, hfirst⟩
  · rw [houtcome] at hfirst
    obtain ⟨second, hsecond⟩ := hnext value middle
    exact ⟨first ++ second, Chained.append hfirst hsecond⟩

end Leads

/-! ## Relations of moves -/

/-- The engine, the number of its realms and the options are as they were. -/
structure KeepsEngine (session after : Session engine) : Prop where
  store_eq : after.store = session.store
  realms_eq : after.realms = session.realms
  options_eq : after.options = session.options

/-- The relation holds of every move that keeps the engine as it is. -/
class Moving (relation : Session engine → List Entry → Session engine → Prop) : Prop
    extends Chained relation where
  move {session after : Session engine} {entries : List Entry}
    (hmove : Move session entries after) (hkeeps : KeepsEngine session after) :
    relation session entries after

instance : Moving (@Moves engine) where
  move hmove _ := .single hmove

section Moving

variable {relation : Session engine → List Entry → Session engine → Prop} [Moving relation]

/-- An action that always comes to its end and makes one move. -/
theorem leads_of_move {action : Host engine α}
    (hends : ∀ session : Session engine, ∃ result after entries,
      Ends action session result after ∧ Move session entries after ∧ KeepsEngine session after) :
    Leads relation action := by
  refine .of_ends fun session => ?_
  obtain ⟨result, after, entries, hresult, hmove, hkeeps⟩ := hends session
  exact ⟨result, after, entries, hresult, Moving.move hmove hkeeps⟩

theorem leads_note {entry : Entry} (hplain : entry.Plain) :
    Leads relation (note entry : Host engine Unit) :=
  leads_of_move fun _ => ⟨(), _, _, ends_note.mpr rfl, .note hplain, rfl, rfl, rfl⟩

theorem leads_modify {change : Session engine → Session engine}
    (hmove : ∀ session, Move session [] (change session) ∧ KeepsEngine session (change session)) :
    Leads relation (modify change : Host engine PUnit) :=
  leads_of_move fun session => ⟨(), _, _, ends_modify.mpr rfl, hmove session⟩

theorem leads_now (look : Look) : Leads relation (now look : Host engine Nat) :=
  leads_of_move fun _ => ⟨_, _, _, ends_now.mpr ⟨rfl, rfl⟩, .look look, rfl, rfl, rfl⟩

theorem leads_timeOfDay : Leads relation (timeOfDay : Host engine (Option Nat)) :=
  leads_of_move fun _ => ⟨_, _, _, ends_timeOfDay.mpr ⟨rfl, rfl⟩, .day, rfl, rfl, rfl⟩

theorem leads_readLine : Leads relation (readLine : Host engine Bytes) :=
  leads_of_move fun _ => ⟨_, _, _, ends_readLine.mpr ⟨rfl, rfl⟩, .read, rfl, rfl, rfl⟩

theorem leads_readFile (path : String) :
    Leads relation (readFile path : Host engine (Except IoError Bytes)) :=
  leads_of_move fun _ => ⟨_, _, _, ends_readFile.mpr ⟨rfl, rfl⟩, .note trivial, rfl, rfl, rfl⟩

theorem leads_changeFlags (change : SamplingFlags → SamplingFlags) :
    Leads relation (modify fun session => { session with flags := change session.flags } :
      Host engine PUnit) :=
  leads_modify fun _ => ⟨.flags _, rfl, rfl, rfl⟩

theorem leads_changeSampler (change : Session engine → Sampler) :
    Leads relation (modify fun session => { session with sampler := change session } :
      Host engine PUnit) :=
  leads_modify fun _ => ⟨.sampler _, rfl, rfl, rfl⟩

theorem leads_withRealm {action : Host engine α} (realm : Realm)
    (haction : Leads relation action) : Leads relation (withRealm realm action) :=
  .get_bind fun session => .bind (leads_modify fun _ => ⟨.realm realm, rfl, rfl, rfl⟩) fun _ =>
    haction.bind fun _ =>
      .bind (leads_modify fun _ => ⟨.realm session.realm, rfl, rfl, rfl⟩) fun _ => .pure _

theorem leads_leave : Leads relation (leave : Host engine Unit) := by
  refine .of_ends fun session => ?_
  cases hframes : session.frames with
  | nil =>
      exact ⟨(), session, [], ends_get_bind.mpr (by rw [hframes]; exact ends_pure.mpr ⟨rfl, rfl⟩),
        Chained.stay session⟩
  | cons frame outer =>
      exact ⟨(), _, _, (ends_leave hframes).mpr rfl,
        Moving.move (.leave hframes) ⟨rfl, rfl, rfl⟩⟩

theorem leads_enter (frame : String) : Leads relation (enter frame : Host engine Unit) :=
  leads_of_move fun _ => ⟨(), _, _, ends_enter.mpr rfl, .enter frame, rfl, rfl, rfl⟩

theorem leads_withFrame {action : Host engine α} (frame : String)
    (haction : Leads relation action) : Leads relation (withFrame frame action) :=
  (leads_enter frame).bind fun _ => haction.bind fun _ => leads_leave.bind fun _ => .pure _

/-! ## Script code -/

theorem leads_called {action : Host engine α} (realm : Realm) (native : Native)
    (haction : Leads relation action) : Leads relation (called realm native action) :=
  .get_bind fun _ => .bind (leads_note trivial) fun _ => leads_withRealm realm haction

theorem leads_respondUnshared {answer : Answer engine} {bound : Nat} {native : Native}
    (hnative : Unshared native) (arguments : List engine.Value) :
    Leads relation (respond answer bound native arguments).run := by
  rcases hnative with rfl | rfl | rfl
  · exact .throw .quit
  · exact leads_of_move fun _ =>
      ⟨_, _, _, ends_respond_stackTrace.mpr ⟨rfl, rfl⟩, .note trivial, rfl, rfl, rfl⟩
  · refine .of_ends fun session => ⟨_, _, Native.shows .dumpCallFrame session.frames,
      ends_respond_dumpCallFrame.mpr ⟨rfl, rfl⟩, ?_⟩
    cases session.frames with
    | nil => exact Chained.stay session
    | cons frame outer => exact Moving.move (.note trivial) ⟨rfl, rfl, rfl⟩

/-- The jobs at the end of an evaluation. -/
theorem leads_jobs : @JobClosed engine fun _ action => Leads relation action where
  pure := .pure
  bind := .bind
  lookJobs _ hnext := .get_bind fun _ => hnext _
  lookFrames _ hnext := .get_bind fun _ => hnext _
  exhausted := .throw .exhausted
  takeJob := leads_of_move fun _ => ⟨_, _, _, ends_takeJob.mpr ⟨rfl, rfl⟩, .take, rfl, rfl, rfl⟩
  started job := leads_of_move fun _ => ⟨(), _, _, ends_note.mpr rfl, .start job, rfl, rfl, rfl⟩
  settled _ := leads_note trivial
  interrupted job :=
    leads_of_move fun _ => ⟨(), _, _, ends_note.mpr rfl, .interrupt job, rfl, rfl, rfl⟩
  dropJobs := leads_modify fun _ => ⟨.drop, rfl, rfl, rfl⟩

theorem leads_elapsedSince (look : Look) (instant : Nat) :
    Leads relation (elapsedSince look instant : Host engine Duration) :=
  (leads_now look).bind fun _ => .pure _

theorem leads_record (record : ProfileRecord) :
    Leads relation (Host.record record : Host engine Unit) :=
  leads_of_move fun _ => ⟨(), _, _, ends_record.mpr rfl, .record record, rfl, rfl, rfl⟩

/-- What natives and evaluations do besides having the engine work. -/
theorem leads_service (hcreate : ∀ arguments,
      Leads relation (createEnvironment arguments : Attempt engine Realm).run) :
    @ServiceClosed engine fun _ action => Leads relation action where
  pure := .pure
  bind := .bind
  look _ hnext := .get_bind fun _ => hnext _ _ _
  exhausted := .throw .exhausted
  print _ _ := leads_note trivial
  nowCall := leads_now .call
  timeOfDay := leads_timeOfDay
  readLine := leads_readLine
  readFile := leads_readFile
  changeFlags := leads_changeFlags
  createEnvironment := hcreate
  withRealm := leads_withRealm
  called realm native _ := leads_called realm native
  calledUnshared _ realm native hnative arguments :=
    leads_called realm native (leads_respondUnshared hnative arguments)
  evaluate budget _ name hscript hjob hreport :=
    leads_withFrame name <| (leads_now .evaluation).bind fun began => hscript.bind fun result =>
      (leads_jobs.drainOutermost hjob budget).bind fun _ =>
        (leads_elapsedSince .evaluation began).bind fun _ =>
          (leads_record _).bind fun _ => hreport result
  checkSyntax _ _ name hreport :=
    leads_withFrame name <| (leads_now .evaluation).bind fun began => .get_bind fun _ =>
      (leads_elapsedSince .evaluation began).bind fun _ => (leads_record _).bind fun _ => hreport _

/-! ## The shell -/

theorem leads_openWindow (script : String) :
    Leads relation (openWindow script : Host engine Window) := by
  refine .get_bind fun session => ?_
  split
  · exact (leads_now .window).bind fun _ => leads_of_move fun _ =>
      ⟨_, _, _, ends_modifyGet.mpr rfl, .sampler _, rfl, rfl, rfl⟩
  · exact .pure _

theorem leads_closeWindow (window : Window) :
    Leads relation (closeWindow window : Host engine Unit) := by
  unfold closeWindow
  split
  · exact (leads_now .window).bind fun _ => leads_changeSampler _
  · exact .pure _

theorem leads_saveProfile (path : String) :
    Leads relation (Program.saveProfile path : Host engine (Except Failure Unit)) := by
  refine .of_ends fun session => ?_
  cases hprofile : session.profile with
  | none =>
      refine ⟨.ok (), session, [], ends_saveProfile.mpr ?_, Chained.stay session⟩
      rw [hprofile]
      exact ⟨rfl, rfl⟩
  | some records =>
      cases hwrite : session.files.write path (Bytes.ofString (Profile.render records)) with
      | ok files =>
          have hfiles : relation session [] { session with files := files } :=
            Moving.move (.files files) ⟨rfl, rfl, rfl⟩
          have hnote : Move { session with files := files } [.fileWritten path none]
              (Session.note { session with files := files } (.fileWritten path none)) :=
            .note trivial
          refine ⟨.ok (), _, _, ends_saveProfile.mpr ?_,
            Chained.append hfiles (Moving.move hnote ⟨rfl, rfl, rfl⟩)⟩
          simp only [hprofile, hwrite, and_self]
      | error error =>
          have hnote : Move session [.fileWritten path (some error)]
              (session.note (.fileWritten path (some error))) := .note trivial
          refine ⟨.error (.io error), _, _, ends_saveProfile.mpr ?_,
            Moving.move hnote ⟨rfl, rfl, rfl⟩⟩
          simp only [hprofile, hwrite, and_self]

section Shell

variable
  (hcreate : ∀ arguments, Leads relation (createEnvironment arguments : Attempt engine Realm).run)
  (hacts : @ActClosed engine fun _ action => Leads relation action)

include hcreate hacts

/-- The shell around script code. -/
theorem leads_shell : @ShellClosed engine fun _ action => Leads relation action where
  pure := .pure
  bind := .bind
  lookInstrumented _ hnext := .get_bind fun _ => hnext _
  lookInput _ hnext := .get_bind fun _ => hnext _
  exhausted := .throw .exhausted
  write _ _ := leads_note trivial
  log _ := leads_note trivial
  nowScript := leads_now .script
  readLine := leads_readLine
  readFile := leads_readFile
  changeFlags := leads_changeFlags
  changeSampler _ := leads_changeSampler _
  openWindow := leads_openWindow
  closeWindow := leads_closeWindow
  createEnvironment := hcreate
  evaluateIn := (leads_service hcreate).evaluateIn hacts
  checkSyntaxIn := (leads_service hcreate).checkSyntaxIn hacts
  stringifyIn := (leads_service hcreate).stringifyIn hacts

theorem leads_operation (budget : Nat) (operation : Operation engine) :
    Leads relation (operation.run budget) :=
  operation.holds (leads_shell hcreate hacts) budget (fun _ _ => leads_changeSampler _)
    fun path _ => leads_saveProfile path

end Shell

end Moving

/-! ## Actions made of moves -/

theorem moves_createEnvironment (arguments : List String) :
    Leads Moves (createEnvironment arguments : Attempt engine Realm).run := by
  refine .of_ends fun session => ?_
  obtain ⟨result, after, hends⟩ := exists_ends_createEnvironment session arguments
  rcases createEnvironment_cases hends with ⟨_, -, rfl⟩ | ⟨store, bound, hbound⟩
  · exact ⟨result, after, [], hends, .stay after⟩
  have hmade : Moves session ([.realmCreated session.realms] ++ [])
      { session.withNewRealm store with store := bound } :=
    .move (.makeRealm store) (.single (.store bound))
  rcases hbound with ⟨_, -, rfl⟩ | ⟨-, rfl⟩
  · exact ⟨result, _, _, hends, hmade⟩
  · exact ⟨result, _, _, hends, hmade.append (.single (.note trivial))⟩

/-- The engine is followed by moves. -/
theorem moves_engine : @EngineClosed engine fun _ action => Leads Moves action where
  pure := .pure
  bind := .bind
  look _ hnext := .get_bind fun _ => hnext _ _ _
  exhausted := .throw .exhausted
  setStore store := .of_ends fun _ => ⟨(), _, _, ends_modify.mpr rfl, .single (.store store)⟩
  queueJob job := leads_of_move fun _ =>
    ⟨(), _, _, ends_queueJob.mpr rfl, .queue job, rfl, rfl, rfl⟩
  thrownValue _ :=
    .of_ends fun _ => ⟨_, _, _, ends_thrownValue.mpr ⟨rfl, rfl⟩, .single (.store _)⟩

/-- The shell around script code makes moves. -/
theorem moves_shell : @ShellClosed engine fun _ action => Leads Moves action :=
  leads_shell moves_createEnvironment moves_engine.acts

theorem moves_operation (budget : Nat) (operation : Operation engine) :
    Leads Moves (operation.run budget) :=
  leads_operation moves_createEnvironment moves_engine.acts budget operation

end Host

/-! ## At any time -/

/-- The sessions that the user of a session gets to from a first one, by operations and by frames
held around them. Where an operation is cut off, the session is as it was then. -/
inductive Evolves (first : Session engine) : Session engine → Prop
  | refl : Evolves first first
  | operate {session : Session engine} (h : Evolves first session) (budget : Nat)
      (operation : Operation engine) :
      Evolves first ((operation.run budget).outcome session).2
  | enter {session : Session engine} (h : Evolves first session) (frame : String) :
      Evolves first (session.entering frame)
  | leave {session : Session engine} {frame : String} {outer : List String}
      (h : Evolves first session) (hframes : session.frames = frame :: outer) :
      Evolves first (session.leaving frame)

theorem Evolves.moves {first session : Session engine} (h : Evolves first session) :
    ∃ entries, Moves first entries session := by
  induction h with
  | refl => exact ⟨[], .stay first⟩
  | operate _ budget operation ih =>
      obtain ⟨entries, hmoves⟩ := ih
      obtain ⟨more, hmore⟩ := Host.moves_operation budget operation _
      exact ⟨entries ++ more, hmoves.append hmore⟩
  | enter _ frame ih =>
      obtain ⟨entries, hmoves⟩ := ih
      exact ⟨entries ++ [.entered frame], hmoves.append (.single (.enter frame))⟩
  | leave _ hframes ih =>
      obtain ⟨entries, hmoves⟩ := ih
      exact ⟨_, hmoves.append (.single (.leave hframes))⟩

end ScriptShell
