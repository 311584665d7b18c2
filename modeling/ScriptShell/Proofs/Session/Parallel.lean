import ScriptShell.Proofs.Session.Loading
import ScriptShell.Proofs.Session.Twins

/-!
# What script code does in two sessions

Every action through which script code runs is side by side with itself from twins on, and an
evaluation with that of the same text under another name. How long an evaluation took may differ,
but that only goes into its record; what script code is told of the time is the same in both.

## Main results

* `Host.parallel_closed`: every action of script code.
* `Host.parallel_evaluateIn` and `Host.parallel_stringifyIn`: what the shell has the engine do.
-/

namespace ScriptShell

variable {engine : Engine}

namespace Host

variable {α β : Type}

/-! ## Basic actions -/

theorem parallel_note {entry other : Entry} (hplain : entry.Plain) (hother : other.Plain)
    (halike : entry.Alike other) :
    Parallel (note entry : Host engine Unit) (note other) :=
  fun _ _ htwin => .of_move () (ends_note.mpr rfl) (ends_note.mpr rfl) htwin (.note hplain)
    (.note hother) (.cons halike .nil) (htwin.note _ _)

theorem parallel_write (channel : Channel) (text : String) :
    Parallel (write channel text : Host engine Unit) (write channel text) :=
  parallel_note trivial trivial (.same _)

theorem parallel_log (event : LogEvent) :
    Parallel (log event : Host engine Unit) (log event) :=
  parallel_note trivial trivial (.same _)

/-- A change that leaves no entry. -/
theorem parallel_modify {change : Session engine → Session engine}
    (hmove : ∀ session, Move session [] (change session))
    (hchange : ∀ ⦃session twin : Session engine⦄, Twin session twin →
      Twin (change session) (change twin)) :
    Parallel (modify change : Host engine PUnit) (modify change) :=
  fun _ _ htwin => .of_move () (ends_modify.mpr rfl) (ends_modify.mpr rfl) htwin (hmove _) (hmove _)
    .nil (hchange htwin)

theorem parallel_setStore (store : engine.Store) :
    Parallel (setStore store) (setStore store) :=
  parallel_modify (fun _ => .store store) fun _ _ htwin => htwin.withStore store

theorem parallel_changeFlags (change : SamplingFlags → SamplingFlags) :
    Parallel
      (modify fun session => { session with flags := change session.flags } : Host engine PUnit)
      (modify fun session => { session with flags := change session.flags }) :=
  parallel_modify (fun _ => .flags _) fun _ _ htwin => htwin.withFlags change

theorem parallel_queueJob (job : engine.Job) : Parallel (queueJob job) (queueJob job) := by
  intro session twin htwin
  refine .of_move () (ends_queueJob.mpr rfl) (ends_queueJob.mpr rfl) htwin (.queue job) (.queue job)
    (.cons ?_ .nil) (htwin.queueing job)
  rw [htwin.jobCount_eq]
  exact .same _

theorem parallel_takeJob :
    Parallel (takeJob : Host engine (Option (Nat × engine.Job))) takeJob := by
  intro session twin htwin
  refine .of_move _ (ends_takeJob.mpr ⟨rfl, rfl⟩) (ends_takeJob.mpr ⟨?_, rfl⟩) htwin .take .take
    .nil ?_
  · rw [htwin.jobs_eq]
  · rw [htwin.jobs_eq]
    exact htwin.withJobs _

theorem parallel_readLine : Parallel (readLine : Host engine Bytes) readLine := by
  intro session twin htwin
  refine .of_move _ (ends_readLine.mpr ⟨rfl, rfl⟩) (ends_readLine.mpr ⟨?_, rfl⟩) htwin .read .read
    (.cons ?_ .nil) htwin.reading
  · rw [htwin.input_eq]
  · rw [htwin.input_eq]
    exact .same _

theorem parallel_readFile (path : String) :
    Parallel (readFile path : Host engine (Except IoError Bytes)) (readFile path) := by
  intro session twin htwin
  refine .of_move _ (ends_readFile.mpr ⟨rfl, rfl⟩) (ends_readFile.mpr ⟨?_, rfl⟩) htwin
    (.note trivial) (.note trivial) (.cons ?_ .nil) (htwin.note _ _)
  · rw [htwin.files_eq]
  · rw [htwin.files_eq]
    exact .same _

theorem parallel_thrownValue (fault : engine.Fault) :
    Parallel (thrownValue fault) (thrownValue fault) := by
  intro session twin htwin
  have hthrown : engine.thrown twin.realm fault twin.store =
      engine.thrown session.realm fault session.store := by
    rw [htwin.realm_eq, htwin.store_eq]
  refine .of_move _ (ends_thrownValue.mpr ⟨rfl, rfl⟩) (ends_thrownValue.mpr ⟨?_, rfl⟩) htwin
    (.store _) (.store _) .nil ?_
  · rw [hthrown]
  · rw [hthrown]
    exact htwin.withStore _

theorem parallel_nowCall : Parallel (now .call : Host engine Nat) (now .call) := by
  intro session twin htwin
  refine .of_move _ (ends_now.mpr ⟨rfl, rfl⟩) (ends_now.mpr ⟨?_, rfl⟩) htwin (.look .call)
    (.look .call) .nil (htwin.looked .call)
  exact (Clock.instant_call_of_told htwin.told_eq).symm

theorem parallel_timeOfDay : Parallel (timeOfDay : Host engine (Option Nat)) timeOfDay := by
  intro session twin htwin
  refine .of_move _ (ends_timeOfDay.mpr ⟨rfl, rfl⟩) (ends_timeOfDay.mpr ⟨?_, rfl⟩) htwin .day .day
    .nil htwin.dayRead
  exact (Clock.day_of_told htwin.told_eq).symm

/-- What comes behind a look at the clock may be told another instant in the second session. -/
theorem Parallel.now_bind (look : Look) {next nextOther : Nat → Host engine β}
    (hnext : ∀ instant other, Parallel (next instant) (nextOther other)) :
    Parallel (now look >>= next) (now look >>= nextOther) :=
  fun _ _ htwin => .of_step (outcome_bind_of_ends (ends_now.mpr ⟨rfl, rfl⟩))
    (outcome_bind_of_ends (ends_now.mpr ⟨rfl, rfl⟩)) htwin (.look look) (.look look) .nil
    (hnext _ _ (htwin.looked look))

theorem parallel_record {record other : ProfileRecord} (halike : record.Alike other) :
    Parallel (Host.record record : Host engine Unit) (Host.record other) := by
  intro session twin htwin
  refine .of_move () (ends_record.mpr rfl) (ends_record.mpr rfl) htwin (.record record)
    (.record other) ?_ (htwin.recording halike)
  have hprofile := htwin.profile
  unfold Session.kept
  generalize session.profile = records at hprofile ⊢
  generalize twin.profile = others at hprofile ⊢
  cases hprofile with
  | none => exact .nil
  | some => exact .cons (.recorded halike) .nil

theorem parallel_withRealm {action other : Host engine α} (realm : Realm)
    (haction : Parallel action other) :
    Parallel (withRealm realm action) (withRealm realm other) := by
  have hrealm (realm : Realm) : Parallel
      (modify fun session => { session with realm := realm } : Host engine PUnit)
      (modify fun session => { session with realm := realm }) :=
    parallel_modify (fun _ => .realm realm) fun _ _ htwin => htwin.withRealm realm
  intro session twin htwin
  refine .get_bind ?_
  rw [htwin.realm_eq]
  exact ((hrealm realm).bind fun _ => haction.bind fun result =>
    (hrealm session.realm).bind fun _ => .pure result) htwin

theorem parallel_leave : Parallel (leave : Host engine Unit) leave := by
  intro session twin htwin
  have hframes := htwin.frames
  cases hsession : session.frames with
  | nil =>
      rw [hsession, List.forall₂_nil_left_iff] at hframes
      unfold leave
      refine .get_bind ?_
      rw [hsession, hframes]
      exact Parallel.pure () htwin
  | cons frame outer =>
      rw [hsession, List.forall₂_cons_left_iff] at hframes
      obtain ⟨other, outerOther, hframe, -, htwins⟩ := hframes
      exact .of_move () ((ends_leave hsession).mpr rfl) ((ends_leave htwins).mpr rfl) htwin
        (.leave hsession) (.leave htwins) (.cons (.left hframe) .nil)
        (htwin.leaving hsession htwins)

theorem parallel_withFrame {action other : Host engine α} {frame frameOther : String}
    (hframe : Renamed frame frameOther) (haction : Parallel action other) :
    Parallel (withFrame frame action) (withFrame frameOther other) := by
  have henter : Parallel (enter frame : Host engine Unit) (enter frameOther) :=
    fun _ _ htwin => .of_move () (ends_enter.mpr rfl) (ends_enter.mpr rfl) htwin (.enter frame)
      (.enter frameOther) (.cons (.entered hframe) .nil) (htwin.entering hframe)
  exact henter.bind fun _ => haction.bind fun result => parallel_leave.bind fun _ => .pure result

/-- Actions follow each other in two sessions as they do in one. -/
theorem parallel_composes : @Composes engine fun _ action => Parallel action action where
  pure := .pure
  bind := .bind
  look next hnext := .get_bind (fun session => (session.store, session.realm, session.options))
    (fun (store, realm, options) => next store realm options)
    (fun _ _ htwin => by rw [htwin.store_eq, htwin.realm_eq, htwin.options_eq])
    fun _ => hnext _ _ _

/-- What the natives and the arguments of a new environment are bound with, once its realm is
made. -/
def furnish (arguments : List String) (realm : Realm) :
    Host engine (Except engine.Fault Realm) := do
  let installed ← withRealm realm do
    modifyGet fun session =>
      let (store, installed) :=
        engine.install realm (Native.available session.options) arguments session.store
      (installed, { session with store := store })
  match installed with
  | .error fault => return .error fault
  | .ok () =>
    log (.environmentCreated arguments.length)
    return .ok realm

theorem outcome_createEnvironment (arguments : List String) (session : Session engine) :
    (createEnvironment arguments : Attempt engine Realm).run.outcome session =
      match engine.createRealm session.realms session.store with
      | .error fault => (.ok (.error fault), session)
      | .ok store => (furnish arguments session.realms).outcome (session.withNewRealm store) := by
  unfold createEnvironment
  rw [ExceptT.run_mk, outcome_bind_of_ends (ends_get.mpr ⟨rfl, rfl⟩)]
  cases hmake : engine.createRealm session.realms session.store with
  | error fault =>
      simp only [hmake]
      rfl
  | ok store =>
      simp only [hmake]
      rfl

theorem parallel_furnish (arguments : List String) (realm : Realm) :
    Parallel (furnish arguments realm : Host engine (Except engine.Fault Realm))
      (furnish arguments realm) := by
  refine .bind (parallel_withRealm realm fun session twin htwin => ?_) fun installed => ?_
  · refine .of_move _ (ends_modifyGet.mpr rfl) (ends_modifyGet.mpr ?_) htwin (.store _) (.store _)
      .nil (htwin.withStore _)
    rw [htwin.options_eq, htwin.store_eq]
  · cases installed with
    | error fault => exact .pure _
    | ok done => exact (parallel_log _).bind fun _ => .pure _

theorem parallel_createEnvironment (arguments : List String) :
    Parallel (createEnvironment arguments : Attempt engine Realm).run
      (createEnvironment arguments).run := by
  intro session twin htwin
  have hfirst := outcome_createEnvironment arguments session
  have hsecond := outcome_createEnvironment arguments twin
  rw [htwin.realms_eq, htwin.store_eq] at hsecond
  cases hmake : engine.createRealm session.realms session.store with
  | error fault =>
      rw [hmake] at hfirst hsecond
      unfold Alongside
      rw [hfirst, hsecond]
      exact ⟨[], [], .stay htwin, rfl⟩
  | ok store =>
      rw [hmake] at hfirst hsecond
      refine .of_step hfirst hsecond htwin (.makeRealm store) (.makeRealm store) (.cons ?_ .nil)
        (parallel_furnish arguments _ (htwin.withNewRealm store))
      rw [htwin.realms_eq]
      exact .same _

/-- Running the waiting jobs. -/
theorem parallel_jobs : @JobClosed engine fun _ action => Parallel action action where
  pure := .pure
  bind := .bind
  lookJobs next hnext := .get_bind (fun session => session.jobs.isEmpty) next
    (fun _ _ htwin => by rw [htwin.jobs_eq]) hnext
  lookFrames next hnext := .get_bind (fun session => session.frames.length) next
    (fun _ _ htwin => htwin.frames.length_eq.symm) hnext
  exhausted := @fun _ => Parallel.throw _
  takeJob := parallel_takeJob
  started number _ _ htwin := .of_move () (ends_note.mpr rfl) (ends_note.mpr rfl) htwin
    (.start number) (.start number) (.cons (.same _) .nil) (htwin.note _ _)
  settled _ := parallel_note trivial trivial (.same _)
  interrupted number _ _ htwin := .of_move () (ends_note.mpr rfl) (ends_note.mpr rfl) htwin
    (.interrupt number) (.interrupt number) (.cons (.same _) .nil) (htwin.note _ _)
  dropJobs := parallel_modify (fun _ => .drop) fun _ _ htwin => htwin.withJobs []

/-! ## Actions that may throw to a script -/

theorem run_lift_bind (action : Host engine α) (next : α → Attempt engine β) :
    (lift action >>= next).run = action >>= fun value => (next value).run := by
  rw [ExceptT.run_bind]
  show Except.ok <$> action >>= _ = _
  rw [map_eq_pure_bind, bind_assoc]
  simp only [pure_bind]

/-! ## Evaluations and natives -/

/-- An evaluation and one of the same text under another name. How long they took goes into their
records and nowhere else. -/
theorem parallel_evaluate {budget : Nat} {source name other : String} (hname : Renamed name other)
    (hscript : Parallel (runSource (answer budget) source : Attempt engine engine.Value).run
      (runSource (answer budget) source).run)
    (hjob : ∀ job : engine.Job,
      Parallel (act (answer budget) fun realm => engine.runJob realm job).run
        (act (answer budget) fun realm => engine.runJob realm job).run)
    (hreport : ∀ result : Except engine.Fault engine.Value,
      Parallel (evaluated (answer budget) result) (evaluated (answer budget) result)) :
    Parallel (evaluate (answer budget) budget source name : Host engine (Evaluated engine))
      (evaluate (answer budget) budget source other) := by
  refine parallel_withFrame hname (.now_bind .evaluation fun began later => ?_)
  refine hscript.bind fun result => ?_
  refine (parallel_jobs.drainOutermost hjob budget).bind fun _ => ?_
  show Parallel (elapsedSince .evaluation began >>= _) (elapsedSince .evaluation later >>= _)
  unfold elapsedSince
  simp only [bind_assoc, pure_bind]
  refine .now_bind .evaluation fun ended endedLater => ?_
  refine .bind (parallel_record ?_) fun _ => hreport result
  exact ⟨hname, rfl, rfl⟩

theorem parallel_checkSyntax {budget : Nat} (source name : String)
    (hreport : ∀ result : Except engine.Fault engine.Value,
      Parallel (evaluated (answer budget) result) (evaluated (answer budget) result)) :
    Parallel (checkSyntax (answer budget) source name : Host engine (Evaluated engine))
      (checkSyntax (answer budget) source name) := by
  refine parallel_withFrame (.same name) (.now_bind .evaluation fun began later => ?_)
  intro session twin htwin
  refine .get_bind ?_
  rw [htwin.options_eq]
  unfold elapsedSince
  simp only [bind_assoc, pure_bind]
  refine Parallel.now_bind .evaluation (fun ended endedLater => ?_) htwin
  refine .bind (parallel_record ?_) fun _ => hreport _
  exact ⟨.same name, rfl, rfl⟩

theorem parallel_called {action : Host engine α} (realm : Realm) (native : Native)
    (haction : Parallel action action) :
    Parallel (called realm native action) (called realm native action) := by
  intro session twin htwin
  refine .get_bind (.bind ?_ fun _ => parallel_withRealm realm haction)
  exact .of_move () (ends_note.mpr rfl) (ends_note.mpr rfl) htwin (.note trivial) (.note trivial)
    (.cons (.called native htwin.frames) .nil) (htwin.note _ _)

/-- What is shown of the innermost frame. -/
theorem abreast_callFrame {session twin : Session engine} (htwin : Twin session twin) :
    Abreast session twin (Native.shows .dumpCallFrame session.frames)
      (Native.shows .dumpCallFrame twin.frames)
      (session.noteAll (Native.shows .dumpCallFrame session.frames))
      (twin.noteAll (Native.shows .dumpCallFrame twin.frames)) := by
  have hframes := htwin.frames
  generalize session.frames = frames at hframes ⊢
  generalize twin.frames = others at hframes ⊢
  cases hframes with
  | nil => exact .stay htwin
  | cons hframe =>
      exact .single htwin (.note trivial) (.note trivial) (.cons (.callFrame hframe) .nil)
        (htwin.note _ _)

/-- The natives that end the process or show the frames. -/
theorem parallel_respondUnshared {answer : Answer engine} {bound : Nat} {native : Native}
    (hnative : Unshared native) (arguments : List engine.Value) :
    Parallel (respond answer bound native arguments).run
      (respond answer bound native arguments).run := by
  rcases hnative with rfl | rfl | rfl
  · exact .throw .quit
  · exact fun session twin htwin => .of_move _ (ends_respond_stackTrace.mpr ⟨rfl, rfl⟩)
      (ends_respond_stackTrace.mpr ⟨rfl, rfl⟩) htwin (.note trivial) (.note trivial)
      (.cons (.stackTrace htwin.frames) .nil) (htwin.note _ _)
  · exact fun session twin htwin => .of_abreast _ (ends_respond_dumpCallFrame.mpr ⟨rfl, rfl⟩)
      (ends_respond_dumpCallFrame.mpr ⟨rfl, rfl⟩) (abreast_callFrame htwin)

/-- Every action of script code is side by side with itself. -/
theorem parallel_closed : @ScriptClosed engine fun _ action => Parallel action action where
  toComposes := parallel_composes
  exhausted := @fun _ => Parallel.throw _
  setStore := parallel_setStore
  queueJob := parallel_queueJob
  thrownValue := parallel_thrownValue
  print _ text := parallel_write _ text
  nowCall := parallel_nowCall
  timeOfDay := parallel_timeOfDay
  readLine := parallel_readLine
  readFile := parallel_readFile
  changeFlags := parallel_changeFlags
  createEnvironment := parallel_createEnvironment
  withRealm := parallel_withRealm
  called realm native _ := parallel_called realm native
  calledUnshared _ realm native hnative arguments :=
    parallel_called realm native (parallel_respondUnshared hnative arguments)
  evaluate _ _ name hscript hjob hreport := parallel_evaluate (.same name) hscript hjob hreport
  checkSyntax _ source name hreport := parallel_checkSyntax source name hreport

/-! ## Environments in use -/

theorem parallel_evaluateIn (budget : Nat) (environment : Realm) (source : String)
    {name other : String} (hname : Renamed name other) :
    Parallel (evaluateIn budget environment source name : Host engine (Evaluated engine))
      (evaluateIn budget environment source other) := by
  have hwork := (@parallel_closed engine).acts.work (parallel_closed.answer budget)
  exact parallel_withRealm environment (parallel_evaluate hname (hwork.runSource source)
    (parallel_closed.acts.runJob (parallel_closed.answer budget)) hwork.evaluated)

theorem parallel_stringifyIn (budget : Nat) (environment : Realm) (value : engine.Value) :
    Parallel (stringifyIn budget environment value) (stringifyIn budget environment value) :=
  parallel_closed.stringifyIn budget environment value

end Host

end ScriptShell
