import ScriptShell.Proofs.Session.Parallel

/-!
# Actions that are not aware of the profile

What an action of the shell comes to does not depend on the profile: neither on whether profiling is
on nor on what was recorded. In two sessions with the same `Session.core` it comes to the same
result or is cut off alike, and leads to sessions with the same core again (`Host.Unaware`). The
core leaves out the files as well, since a saved profile is one of them; instead the files that an
action reads have to be the same.

The driver tells how long a script took where profiling is on, and only then looks at the clock for
it. Of what it tells, that is all that depends on the profile (`Host.unaware_execute`); the readings
of the clock for this use are left out of the core.
-/

namespace ScriptShell

variable {engine : Engine}

/-! ## What is left without the profile -/

/-- Whether an entry is one of the profile: a record, what comes of saving the records, or the event
that tells whether there are any. -/
def Entry.ofProfile : Entry → Bool
  | .recorded _ | .fileWritten _ _ | .logged (.runtimeCreated _ _)
  | .logged (.profileNotSaved _ _) => true
  | _ => false

/-- The entries that are not of the profile. -/
def Entry.besidesProfile (entries : List Entry) : List Entry :=
  entries.filter fun entry => !entry.ofProfile

@[simp] theorem Entry.besidesProfile_append (first second : List Entry) :
    besidesProfile (first ++ second) = besidesProfile first ++ besidesProfile second :=
  List.filter_append ..

@[simp] theorem Entry.besidesProfile_besidesProfile (entries : List Entry) :
    besidesProfile (besidesProfile entries) = besidesProfile entries := by
  simp [besidesProfile, List.filter_filter]

/-- The clock without its readings for how long scripts take. -/
def Clock.besidesScripts (clock : Clock) : Clock :=
  { clock with
    instants := fun
      | .script => fun _ => 0
      | .evaluation => clock.instants .evaluation
      | .window => clock.instants .window
      | .call => clock.instants .call }

theorem Clock.instant_besidesScripts (clock : Clock) {look : Look} (hlook : look ≠ .script) :
    clock.besidesScripts.instant look = clock.instant look := by
  cases look with
  | script => exact absurd rfl hlook
  | evaluation | window | call => rfl

namespace Session

/-- The session without the readings for how long scripts take. -/
def untimed (session : Session engine) : Session engine :=
  { session with clock := session.clock.besidesScripts }

/-- The session without its profile, its files and the readings for how long scripts take. -/
def core (session : Session engine) : Session engine :=
  { session with
    profile := none
    files := Files.empty
    clock := session.clock.besidesScripts
    history := Entry.besidesProfile session.history }

/-- The core without what happened. -/
def bare (session : Session engine) : Session engine :=
  { session with
    profile := none
    files := Files.empty
    clock := session.clock.besidesScripts
    history := [] }

theorem core_untimed (session : Session engine) : session.untimed.core = session.core :=
  rfl

theorem core_eq_iff {session other : Session engine} : session.core = other.core ↔
    session.bare = other.bare ∧
      Entry.besidesProfile session.history = Entry.besidesProfile other.history := by
  obtain ⟨⟩ := session
  obtain ⟨⟩ := other
  simp [core, bare, and_assoc]

end Session

/-- The paths of the files that were asked for. -/
def Entry.pathsRead (entries : List Entry) : List String :=
  entries.filterMap fun
    | .fileRead path _ => some path
    | _ => none

/-- The files that entries show to be read are the same in two file systems. -/
def ReadAlike (entries : List Entry) (files others : Files) : Prop :=
  ∀ path ∈ Entry.pathsRead entries, others.read path = files.read path

instance (entries : List Entry) (files others : Files) :
    Decidable (ReadAlike entries files others) :=
  inferInstanceAs (Decidable (∀ path ∈ Entry.pathsRead entries, _))

theorem readAlike_append {first second : List Entry} {files others : Files} :
    ReadAlike (first ++ second) files others ↔
      ReadAlike first files others ∧ ReadAlike second files others := by
  unfold ReadAlike Entry.pathsRead
  rw [List.filterMap_append, List.forall_mem_append]

namespace Host

variable {α β : Type} {session after : Session engine}

/-- In two sessions an action comes to the same result, or is cut off alike, and leads to the same
core. -/
structure Alike (action : Host engine α) (session other : Session engine) : Prop where
  result_eq : (action.outcome other).1 = (action.outcome session).1
  core_eq : (action.outcome other).2.core = (action.outcome session).2.core

theorem Alike.of_outcomes {action : Host engine α} {other afterOther : Session engine}
    {result : Except Halt α} (hfirst : action.outcome session = (result, after))
    (hsecond : action.outcome other = (result, afterOther))
    (hcore : afterOther.core = after.core) : action.Alike session other := by
  refine ⟨?_, ?_⟩
  · rw [hfirst, hsecond]
  · rw [hfirst, hsecond]
    exact hcore

/-- An action that is another one in both sessions. -/
theorem Alike.of_eq {action part : Host engine α} {other : Session engine}
    (hpart : part.Alike session other) (hfirst : action.outcome session = part.outcome session)
    (hsecond : action.outcome other = part.outcome other) : action.Alike session other := by
  obtain ⟨hresult, hcore⟩ := hpart
  rw [← hfirst, ← hsecond] at hresult hcore
  exact ⟨hresult, hcore⟩

theorem Alike.bind {action : Host engine α} {next : α → Host engine β} {other : Session engine}
    (haction : action.Alike session other)
    (hnext : ∀ value, (action.outcome session).1 = .ok value →
      (next value).Alike (action.outcome session).2 (action.outcome other).2) :
    (action >>= next).Alike session other := by
  obtain ⟨hresult, hcore⟩ := haction
  rcases hfirst : action.outcome session with ⟨halt | value, middle⟩ <;>
    rcases hsecond : action.outcome other with ⟨result, middleOther⟩ <;>
    rw [hfirst, hsecond] at hresult hcore
  · obtain rfl : result = .error halt := hresult
    have hhalts : (action >>= next).outcome session = (.error halt, middle) := by
      rw [outcome_bind, hfirst]
    have hhaltsOther : (action >>= next).outcome other = (.error halt, middleOther) := by
      rw [outcome_bind, hsecond]
    exact .of_outcomes hhalts hhaltsOther hcore
  · obtain rfl : result = .ok value := hresult
    rw [hfirst, hsecond] at hnext
    obtain ⟨hresultNext, hcoreNext⟩ := hnext value rfl
    have hnextFirst : (action >>= next).outcome session = (next value).outcome middle :=
      outcome_bind_of_ends hfirst
    have hnextSecond : (action >>= next).outcome other = (next value).outcome middleOther :=
      outcome_bind_of_ends hsecond
    rw [← hnextFirst, ← hnextSecond] at hresultNext hcoreNext
    exact ⟨hresultNext, hcoreNext⟩

/-- In sessions with the same core the action comes to the same, if the files that it reads are the
same. -/
def Unaware (action : Host engine α) : Prop :=
  ∀ session : Session engine, ∃ gained,
    (action.outcome session).2.history = gained.reverse ++ session.history ∧
    (action.outcome session).2.files = session.files ∧
    ∀ other : Session engine, other.core = session.core →
      ReadAlike gained session.files other.files → action.Alike session other

namespace Unaware

/-- An action that always comes to its end, with a result that can be told from the core. -/
theorem of_ends {action : Host engine α} (result : Session engine → α)
    (change : Session engine → Session engine) (gained : Session engine → List Entry)
    (hends : ∀ session, Ends action session (result session) (change session))
    (hhistory : ∀ session, (change session).history = (gained session).reverse ++ session.history)
    (hfiles : ∀ session, (change session).files = session.files)
    (hresult : ∀ session, result session = result session.core)
    (hchange : ∀ session, (change session).core = (change session.core).core) :
    Unaware action := by
  intro session
  have houtcome : ∀ other, action.outcome other = (.ok (result other), change other) := hends
  refine ⟨gained session, ?_, ?_, fun other hcore _ => ?_⟩
  · rw [houtcome, hhistory]
  · rw [houtcome, hfiles]
  · have hsame : result other = result session := by rw [hresult other, hcore, ← hresult session]
    refine .of_outcomes (houtcome session) (by rw [houtcome, hsame]) ?_
    rw [hchange other, hcore, ← hchange session]

/-- An action that always comes to its end, where it does to the core what it does to the session,
and leaves the same entries. -/
theorem of_change {action : Host engine α} (result : Session engine → α)
    (change : Session engine → Session engine) (gained : Session engine → List Entry)
    (hends : ∀ session, Ends action session (result session) (change session))
    (hhistory : ∀ session, (change session).history = (gained session).reverse ++ session.history)
    (hfiles : ∀ session, (change session).files = session.files)
    (hresult : ∀ session, result session = result session.core)
    (hgained : ∀ session, gained session = gained session.core)
    (hbare : ∀ session, (change session).bare = (change session.core).bare) : Unaware action := by
  refine .of_ends result change gained hends hhistory hfiles hresult fun session => ?_
  refine Session.core_eq_iff.mpr ⟨hbare session, ?_⟩
  rw [hhistory, hhistory, hgained session, Entry.besidesProfile_append,
    Entry.besidesProfile_append]
  simp [Session.core]

/-- An action that only changes the session, without an entry. -/
theorem modify {change : Session engine → Session engine}
    (hhistory : ∀ session, (change session).history = session.history)
    (hfiles : ∀ session, (change session).files = session.files)
    (hbare : ∀ session, (change session).bare = (change session.core).bare) :
    Unaware (modify change : Host engine PUnit) :=
  .of_change (fun _ => ()) change (fun _ => []) (fun _ => ends_modify.mpr rfl) hhistory hfiles
    (fun _ => rfl) (fun _ => rfl) hbare

theorem pure (value : α) : Unaware (pure value : Host engine α) :=
  .of_change (fun _ => value) id (fun _ => []) (fun _ => rfl) (fun _ => rfl) (fun _ => rfl)
    (fun _ => rfl) (fun _ => rfl) fun _ => rfl

theorem throw (halt : Halt) : Unaware (throw halt : Host engine α) :=
  fun _ => ⟨[], rfl, rfl, fun _ hcore _ => ⟨rfl, hcore⟩⟩

theorem bind {action : Host engine α} {next : α → Host engine β} (haction : Unaware action)
    (hnext : ∀ value, Unaware (next value)) : Unaware (action >>= next) := by
  intro session
  obtain ⟨first, hhistory, hfiles, hsame⟩ := haction session
  rcases houtcome : action.outcome session with ⟨halt | value, middle⟩
  · rw [outcome_bind, houtcome]
    rw [houtcome] at hhistory hfiles
    refine ⟨first, hhistory, hfiles, fun other hcore hreads => ?_⟩
    refine (hsame other hcore hreads).bind fun value hvalue => ?_
    rw [houtcome] at hvalue
    cases hvalue
  · obtain ⟨second, hhistoryNext, hfilesNext, hsameNext⟩ := hnext value middle
    have hends : (action >>= next).outcome session = (next value).outcome middle :=
      outcome_bind_of_ends houtcome
    rw [houtcome] at hhistory hfiles
    rw [hends]
    refine ⟨first ++ second, ?_, hfilesNext.trans hfiles, fun other hcore hreads => ?_⟩
    · rw [hhistoryNext, hhistory, List.reverse_append, List.append_assoc]
    · obtain ⟨hreadsFirst, hreadsSecond⟩ := readAlike_append.mp hreads
      have hfirst := hsame other hcore hreadsFirst
      refine hfirst.bind fun result hresult => ?_
      have hmiddle := hfirst.core_eq
      rw [houtcome] at hresult hmiddle ⊢
      obtain rfl := Except.ok.inj hresult
      refine hsameNext _ hmiddle ?_
      -- no action writes a file, so the files behind the first part are those before it
      obtain ⟨-, -, hfilesOther, -⟩ := haction other
      rw [hfilesOther, show middle.files = session.files from hfiles]
      exact hreadsSecond

/-- In two sessions with the same core and the same files. -/
theorem alike {action : Host engine α} (haction : Unaware action) {other : Session engine}
    (hcore : other.core = session.core) (hfiles : other.files = session.files) :
    action.Alike session other ∧
      (action.outcome other).2.files = (action.outcome session).2.files := by
  obtain ⟨gained, -, hkept, hsame⟩ := haction session
  obtain ⟨-, -, hkeptOther, -⟩ := haction other
  have hreads : ReadAlike gained session.files other.files := fun _ _ => by rw [hfiles]
  exact ⟨hsame other hcore hreads, by rw [hkept, hkeptOther, hfiles]⟩

/-- What follows a look at the session goes by nothing but its core. -/
theorem get_bind {next : Session engine → Host engine β} (hnext : ∀ session, Unaware (next session))
    (hpart : ∀ session, next session = next session.core) : Unaware (get >>= next) := by
  intro session
  obtain ⟨gained, hhistory, hfiles, hsame⟩ := hnext session session
  have houtcome : ∀ other, (get >>= next).outcome other = (next other).outcome other :=
    fun _ => outcome_bind_of_ends (ends_get.mpr ⟨rfl, rfl⟩)
  rw [houtcome]
  refine ⟨gained, hhistory, hfiles, fun other hcore hreads => ?_⟩
  refine (hsame other hcore hreads).of_eq (houtcome session) ?_
  rw [houtcome, hpart other, hcore, ← hpart session]

end Unaware

/-! ## Script code -/

theorem unaware_note (entry : Entry) : Unaware (note entry : Host engine Unit) :=
  .of_change (fun _ => ()) (·.note entry) (fun _ => [entry]) (fun _ => ends_note.mpr rfl)
    (fun _ => rfl) (fun _ => rfl) (fun _ => rfl) (fun _ => rfl) fun _ => rfl

/-- All looks but those for how long a script takes are the same with and without a profile. -/
theorem unaware_now {look : Look} (hlook : look ≠ .script) :
    Unaware (now look : Host engine Nat) :=
  .of_change (·.clock.instant look) (·.looked look) (fun _ => [])
    (fun _ => ends_now.mpr ⟨rfl, rfl⟩) (fun _ => rfl) (fun _ => rfl)
    (fun session => (session.clock.instant_besidesScripts hlook).symm) (fun _ => rfl) fun _ => rfl

theorem unaware_timeOfDay : Unaware (timeOfDay : Host engine (Option Nat)) :=
  .of_change (·.clock.day) (·.dayRead) (fun _ => []) (fun _ => ends_timeOfDay.mpr ⟨rfl, rfl⟩)
    (fun _ => rfl) (fun _ => rfl) (fun _ => rfl) (fun _ => rfl) fun _ => rfl

theorem unaware_queueJob (job : engine.Job) : Unaware (queueJob job) :=
  .of_change (fun _ => ()) (·.queueing job) (fun session => [.queued session.jobCount])
    (fun _ => ends_queueJob.mpr rfl) (fun _ => rfl) (fun _ => rfl) (fun _ => rfl) (fun _ => rfl)
    fun _ => rfl

theorem unaware_readLine : Unaware (readLine : Host engine Bytes) :=
  .of_change (·.input.takeChunk.1.chomp) (·.reading)
    (fun session => [.lineRead session.input.takeChunk.1]) (fun _ => ends_readLine.mpr ⟨rfl, rfl⟩)
    (fun _ => rfl) (fun _ => rfl) (fun _ => rfl) (fun _ => rfl) fun _ => rfl

theorem unaware_thrownValue (fault : engine.Fault) : Unaware (thrownValue fault) :=
  .of_change (fun session => (engine.thrown session.realm fault session.store).1)
    (fun session =>
      { session with store := (engine.thrown session.realm fault session.store).2 })
    (fun _ => []) (fun _ => ends_thrownValue.mpr ⟨rfl, rfl⟩) (fun _ => rfl) (fun _ => rfl)
    (fun _ => rfl) (fun _ => rfl) fun _ => rfl

/-- Reading a file is where files matter. -/
theorem unaware_readFile (path : String) :
    Unaware (readFile path : Host engine (Except IoError Bytes)) := by
  intro session
  have houtcome : ∀ other : Session engine,
      (readFile path : Host engine (Except IoError Bytes)).outcome other =
        (.ok (other.files.read path),
          other.note (.fileRead path (other.files.read path).isOk)) :=
    fun other => ends_readFile.mpr ⟨rfl, rfl⟩
  rw [houtcome]
  refine ⟨[.fileRead path (session.files.read path).isOk], rfl, rfl, fun other hcore hreads => ?_⟩
  have hread : other.files.read path = session.files.read path :=
    hreads path (List.mem_singleton_self _)
  refine .of_outcomes (houtcome session) (by rw [houtcome, hread]) ?_
  obtain ⟨hbare, hhistory⟩ := Session.core_eq_iff.mp hcore
  refine Session.core_eq_iff.mpr ⟨hbare, ?_⟩
  show Entry.besidesProfile ([_] ++ other.history) = Entry.besidesProfile ([_] ++ session.history)
  rw [Entry.besidesProfile_append, Entry.besidesProfile_append, hhistory]

/-- A record is nowhere but in the profile. -/
theorem unaware_record (record : ProfileRecord) :
    Unaware (Host.record record : Host engine Unit) := by
  refine .of_ends (fun _ => ()) (·.recording record)
    (fun session => ((session.kept record).map Entry.recorded).toList)
    (fun _ => ends_record.mpr rfl) (fun session => ?_) (fun _ => rfl) (fun _ => rfl)
    fun session => ?_
  · cases hkept : session.kept record <;> simp [hkept]
  · refine Session.core_eq_iff.mpr ⟨rfl, ?_⟩
    cases session.kept record <;>
      simp [Session.recording, Session.core, Session.kept, Entry.besidesProfile, Entry.ofProfile]

theorem unaware_setRealm (realm : Realm) :
    Unaware (modify fun session => { session with realm := realm } : Host engine PUnit) :=
  .modify (fun _ => rfl) (fun _ => rfl) fun _ => rfl

theorem unaware_withRealm {action : Host engine α} (realm : Realm) (haction : Unaware action) :
    Unaware (withRealm realm action) :=
  .get_bind (fun session => (unaware_setRealm realm).bind fun _ => haction.bind fun _ =>
    (unaware_setRealm session.realm).bind fun _ => .pure _) fun _ => rfl

theorem unaware_leave : Unaware (leave : Host engine Unit) := by
  refine .get_bind (fun session => ?_) fun _ => rfl
  cases session.frames with
  | nil => exact .pure ()
  | cons frame rest =>
      exact .bind (.modify (fun _ => rfl) (fun _ => rfl) fun _ => rfl) fun _ => unaware_note _

theorem unaware_enter (frame : String) : Unaware (enter frame : Host engine Unit) :=
  .of_change (fun _ => ()) (·.entering frame) (fun _ => [.entered frame])
    (fun _ => ends_enter.mpr rfl) (fun _ => rfl) (fun _ => rfl) (fun _ => rfl) (fun _ => rfl)
    fun _ => rfl

theorem unaware_withFrame {action : Host engine α} (frame : String) (haction : Unaware action) :
    Unaware (withFrame frame action) :=
  (unaware_enter frame).bind fun _ => haction.bind fun _ => unaware_leave.bind fun _ => .pure _

theorem unaware_furnish (arguments : List String) (realm : Realm) :
    Unaware (furnish arguments realm : Host engine (Except engine.Fault Realm)) := by
  refine .bind (unaware_withRealm realm ?_) fun installed => ?_
  · exact .of_change
      (fun session => (engine.install realm (Native.available session.options) arguments
        session.store).2)
      (fun session => { session with
        store := (engine.install realm (Native.available session.options) arguments
          session.store).1 })
      (fun _ => []) (fun _ => ends_modifyGet.mpr rfl) (fun _ => rfl) (fun _ => rfl)
      (fun _ => rfl) (fun _ => rfl) fun _ => rfl
  · cases installed with
    | error fault => exact .pure _
    | ok done => exact (unaware_note _).bind fun _ => .pure _

theorem unaware_createEnvironment (arguments : List String) :
    Unaware (createEnvironment arguments : Attempt engine Realm).run := by
  have hmake : ∀ store : engine.Store, Unaware
      (modify fun session => session.withNewRealm store : Host engine PUnit) := fun store =>
    .of_change (fun _ => ()) (fun session => session.withNewRealm store)
      (fun session => [.realmCreated session.realms]) (fun _ => ends_modify.mpr rfl)
      (fun _ => rfl) (fun _ => rfl) (fun _ => rfl) (fun _ => rfl) fun _ => rfl
  intro session
  have hparts : ∀ other : Session engine, other.core = session.core →
      other.realms = session.realms ∧ other.store = session.store := by
    intro other hcore
    have hrealms := congrArg Session.realms hcore
    have hstore := congrArg Session.store hcore
    exact ⟨hrealms, hstore⟩
  have hcreate := @outcome_createEnvironment engine arguments
  cases hrealm : engine.createRealm session.realms session.store with
  | error fault =>
      rw [hcreate, hrealm]
      refine ⟨[], rfl, rfl, fun other hcore _ => ?_⟩
      obtain ⟨hrealms, hstore⟩ := hparts other hcore
      exact .of_outcomes (by rw [hcreate, hrealm]) (by rw [hcreate, hrealms, hstore, hrealm]) hcore
  | ok store =>
      -- the realm is made in one step, and the rest follows
      obtain ⟨gained, hhistory, hfiles, hsame⟩ :=
        ((hmake store).bind fun _ => unaware_furnish arguments session.realms) session
      rw [hcreate, hrealm]
      refine ⟨gained, hhistory, hfiles, fun other hcore hreads => ?_⟩
      obtain ⟨hrealms, hstore⟩ := hparts other hcore
      refine (hsame other hcore hreads).of_eq ?_ ?_
      · rw [hcreate, hrealm]
        rfl
      · rw [hcreate, hrealms, hstore, hrealm]
        rfl

theorem unaware_called {action : Host engine α} (realm : Realm) (native : Native)
    (haction : Unaware action) : Unaware (called realm native action) :=
  .get_bind (fun _ => (unaware_note _).bind fun _ => unaware_withRealm realm haction) fun _ => rfl

theorem unaware_respondUnshared {answer : Answer engine} {bound : Nat} {native : Native}
    (hnative : Unshared native) (arguments : List engine.Value) :
    Unaware (respond answer bound native arguments).run := by
  rcases hnative with rfl | rfl | rfl
  · exact .throw .quit
  · exact .of_change (fun _ => .ok engine.undefined)
      (fun session => session.note (.wrote .stderr (stackTrace session.frames)))
      (fun session => [.wrote .stderr (stackTrace session.frames)])
      (fun _ => ends_respond_stackTrace.mpr ⟨rfl, rfl⟩) (fun _ => rfl) (fun _ => rfl)
      (fun _ => rfl) (fun _ => rfl) fun _ => rfl
  · exact .of_change (fun _ => .ok engine.undefined)
      (fun session => session.noteAll (Native.shows .dumpCallFrame session.frames))
      (fun session => Native.shows .dumpCallFrame session.frames)
      (fun _ => ends_respond_dumpCallFrame.mpr ⟨rfl, rfl⟩) (fun _ => rfl) (fun _ => rfl)
      (fun _ => rfl) (fun _ => rfl) fun _ => rfl

/-- Running the waiting jobs. -/
theorem unaware_jobs : @JobClosed engine fun _ action => Unaware action where
  pure := .pure
  bind := .bind
  lookJobs _ hnext := .get_bind (fun _ => hnext _) fun _ => rfl
  lookFrames _ hnext := .get_bind (fun _ => hnext _) fun _ => rfl
  exhausted := .throw .exhausted
  takeJob := .of_change (fun session => session.jobs.head?)
    (fun session => { session with jobs := session.jobs.tail }) (fun _ => [])
    (fun _ => ends_takeJob.mpr ⟨rfl, rfl⟩) (fun _ => rfl) (fun _ => rfl) (fun _ => rfl)
    (fun _ => rfl) fun _ => rfl
  started _ := unaware_note _
  settled _ := unaware_note _
  interrupted _ := unaware_note _
  dropJobs := .modify (fun _ => rfl) (fun _ => rfl) fun _ => rfl

theorem unaware_elapsedSince (instant : Nat) :
    Unaware (elapsedSince .evaluation instant : Host engine Duration) :=
  (unaware_now (by decide)).bind fun _ => .pure _

/-- Script code is not aware of the profile. -/
theorem unaware_closed : @ScriptClosed engine fun _ action => Unaware action where
  pure := .pure
  bind := .bind
  look _ hnext := .get_bind (fun _ => hnext _ _ _) fun _ => rfl
  exhausted := .throw .exhausted
  setStore _ := .modify (fun _ => rfl) (fun _ => rfl) fun _ => rfl
  queueJob := unaware_queueJob
  print _ _ := unaware_note _
  nowCall := unaware_now (by decide)
  timeOfDay := unaware_timeOfDay
  readLine := unaware_readLine
  readFile := unaware_readFile
  thrownValue := unaware_thrownValue
  changeFlags _ := .modify (fun _ => rfl) (fun _ => rfl) fun _ => rfl
  createEnvironment := unaware_createEnvironment
  withRealm := unaware_withRealm
  called realm native _ := unaware_called realm native
  calledUnshared _ realm native hnative arguments :=
    unaware_called realm native (unaware_respondUnshared hnative arguments)
  evaluate budget _ name hscript hjob hreport :=
    unaware_withFrame name <| (unaware_now (by decide)).bind fun began => hscript.bind fun result =>
      (unaware_jobs.drainOutermost hjob budget).bind fun _ =>
        (unaware_elapsedSince began).bind fun _ => (unaware_record _).bind fun _ => hreport result
  checkSyntax _ _ name hreport :=
    unaware_withFrame name <| (unaware_now (by decide)).bind fun began => .get_bind (fun _ =>
      (unaware_elapsedSince began).bind fun _ => (unaware_record _).bind fun _ => hreport _)
      fun _ => rfl

/-! ## The shell -/

/-- Neither is what is reported. -/
theorem unaware_reports : @ReportClosed engine fun _ action => Unaware action where
  pure := .pure
  bind := .bind
  lookInput _ hnext := .get_bind (fun _ => hnext _) fun _ => rfl
  exhausted := .throw .exhausted
  write _ _ := unaware_note _
  readLine := unaware_readLine
  readFile := unaware_readFile
  evaluateIn := unaware_closed.evaluateIn
  stringifyIn := unaware_closed.stringifyIn

theorem unaware_changeSampler (change : Session engine → Sampler)
    (hchange : ∀ session, change session = change session.core) :
    Unaware (modify fun session => { session with sampler := change session } :
      Host engine PUnit) :=
  .modify (fun _ => rfl) (fun _ => rfl) fun session => by
    show Session.bare { session with sampler := change session } =
      Session.bare { session with sampler := change session.core }
    rw [← hchange]

theorem unaware_openWindow (script : String) :
    Unaware (openWindow script : Host engine Window) := by
  refine .get_bind (fun session => ?_) fun _ => rfl
  split
  · exact (unaware_now (by decide)).bind fun instant => .of_change
      (fun session => (session.sampler.openWindow script instant).1)
      (fun session => { session with sampler := (session.sampler.openWindow script instant).2 })
      (fun _ => []) (fun _ => ends_modifyGet.mpr rfl) (fun _ => rfl) (fun _ => rfl)
      (fun _ => rfl) (fun _ => rfl) fun _ => rfl
  · exact .pure _

theorem unaware_closeWindow (window : Window) :
    Unaware (closeWindow window : Host engine Unit) := by
  unfold closeWindow
  split
  · exact (unaware_now (by decide)).bind fun _ => unaware_changeSampler _ fun _ => rfl
  · exact .pure _

/-! ## How long a script takes -/

/-- Two actions come to the same, but for the readings for how long scripts take. -/
def Resembles (action other : Host engine α) : Prop :=
  ∀ session : Session engine,
    (action.outcome session).1 = (other.outcome session).1 ∧
      (action.outcome session).2.untimed = (other.outcome session).2.untimed

namespace Resembles

theorem bind {action : Host engine α} {next others : α → Host engine β}
    (hnext : ∀ value, Resembles (next value) (others value)) :
    Resembles (action >>= next) (action >>= others) := by
  intro session
  rcases houtcome : action.outcome session with ⟨halt | value, middle⟩
  · simp only [outcome_bind, houtcome, true_and]
  · rw [outcome_bind_of_ends houtcome, outcome_bind_of_ends houtcome]
    exact hnext value middle

theorem get_bind {next : Session engine → Host engine β} {other : Host engine β}
    (hnext : ∀ session, Resembles (next session) other) : Resembles (get >>= next) other := by
  intro session
  rw [outcome_bind_of_ends (ends_get.mpr ⟨rfl, rfl⟩)]
  exact hnext session session

/-- An action is not aware of the profile where one that comes to the same is not. -/
theorem unaware {action other : Host engine α} (h : Resembles action other)
    (hother : Unaware other) : Unaware action := by
  intro session
  obtain ⟨gained, hhistory, hfiles, hsame⟩ := hother session
  obtain ⟨hresult, huntimed⟩ := h session
  have hhistories := congrArg Session.history huntimed
  have hfileses := congrArg Session.files huntimed
  refine ⟨gained, hhistories.trans hhistory, hfileses.trans hfiles, fun twin hcore hreads => ?_⟩
  obtain ⟨hresultTwin, huntimedTwin⟩ := h twin
  obtain ⟨hresults, hcores⟩ := hsame twin hcore hreads
  refine ⟨?_, ?_⟩
  · rw [hresultTwin, hresults, hresult]
  · rw [← Session.core_untimed, huntimedTwin, Session.core_untimed, hcores,
      ← Session.core_untimed, ← huntimed, Session.core_untimed]

end Resembles

/-- Where nobody is told how long a script took, it does not matter whether the clock was looked at
for it. -/
theorem resembles_elapsedMillis (wanted : Bool) (began : Nat) (entry : Entry) (result : β) :
    Resembles (do let _ ← elapsedMillis wanted began; note entry; return result)
      (do note entry; return result : Host engine β) := by
  intro session
  cases wanted with
  | true => exact ⟨rfl, rfl⟩
  | false => exact ⟨rfl, rfl⟩

theorem unaware_lookScript {next : Host engine β} (hnext : Unaware next) :
    Unaware (do let _ ← now .script; next) := by
  have hlook : Unaware (discard (now .script) : Host engine Unit) :=
    .of_change (fun _ => ()) (·.looked .script) (fun _ => []) (fun _ => rfl) (fun _ => rfl)
      (fun _ => rfl) (fun _ => rfl) (fun _ => rfl) fun _ => rfl
  exact hlook.bind fun _ => hnext

end Host

/-- What is told of a script, without how long it took. -/
def Execution.untimed (execution : Execution) : Execution :=
  { execution with elapsedMillis := none }

namespace Host

section

variable {budget : Nat} {environment : Realm} {out : Channel} {dump : Bool}

/-- The driver looks whether profiling is on, and does nothing with it but to tell how long a script
took. -/
theorem unaware_execute (script : Script) : Unaware
    (Except.map Execution.untimed <$> execute budget environment out dump script :
      Host engine (Except Failure Execution)) := by
  unfold execute
  rw [map_bind]
  refine (unaware_reports.openScript script).bind fun opened => ?_
  rcases opened with failure | ⟨name, source⟩
  · rw [map_pure]
    exact .pure _
  · simp only [map_bind, map_pure, Except.map, Execution.untimed]
    refine (unaware_note _).bind fun _ => ?_
    refine Resembles.unaware (.get_bind fun _ => .bind fun _ => .bind fun _ => .bind fun _ =>
      .bind fun _ => resembles_elapsedMillis _ _ _ _) ?_
    refine unaware_lookScript <| (unaware_openWindow name).bind fun window => ?_
    refine (unaware_reports.report source name).bind fun exception => ?_
    exact (unaware_closeWindow window).bind fun _ => (unaware_note _).bind fun _ => .pure _

/-- What the driver does behind a script of a list. -/
def goOn (budget : Nat) (environment : Realm) (out : Channel) (dump : Bool) (script : Script)
    (rest : List Script) : Except Failure Execution → Host engine Bool
  | .error failure => do
    log (.abortingRun script.payload failure)
    write .stderr (failure.message ++ "\n")
    return false
  | .ok execution => do
    let others ← executeAll budget environment out dump rest
    return execution.succeeded && others

/-- It does not go by how long the script took. -/
theorem executeAll_cons (script : Script) (rest : List Script) :
    (executeAll budget environment out dump (script :: rest) : Host engine Bool) =
      (Except.map Execution.untimed <$> execute budget environment out dump script) >>=
        goOn budget environment out dump script rest := by
  rw [executeAll, map_eq_pure_bind, bind_assoc]
  refine bind_congr fun result => ?_
  rw [pure_bind]
  cases result with
  | error failure => rfl
  | ok execution => rfl

theorem unaware_executeAll (scripts : List Script) :
    Unaware (executeAll budget environment out dump scripts : Host engine Bool) := by
  induction scripts with
  | nil => exact .pure _
  | cons script rest ih =>
      rw [executeAll_cons]
      refine (unaware_execute script).bind fun result => ?_
      cases result with
      | error failure =>
          exact (unaware_note _).bind fun _ => (unaware_note _).bind fun _ => .pure _
      | ok execution => exact ih.bind fun _ => .pure _

theorem unaware_runScripts (scripts : List Script) :
    Unaware (runScripts budget environment out dump scripts : Host engine Bool) :=
  (unaware_changeSampler (fun session => session.sampler.start) fun _ => rfl).bind fun _ =>
    (unaware_executeAll scripts).bind fun _ =>
      (unaware_changeSampler (fun session => session.sampler.stop) fun _ => rfl).bind fun _ =>
        .pure _

end

end Host

end ScriptShell
