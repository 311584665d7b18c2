import ScriptShell.Proofs.Session.Following

/-!
# Actions that are cut off

`Host.Ends` says nothing of an action that a call of `quit` or a bound cuts off. What the session
looks like then is said here, for every action and every session: whether an action comes to its
end or not, it touches no file and leaves the options, the state of profiling and whether the
sampler is enabled as they are; and it is `quit` that cut it off exactly where the last entry of the
journal is a call of `quit`, of which there is no other.

## Main results

* `Host.keeps_closed` and `Host.keeps_shell`: every action of the shell.
-/

namespace ScriptShell

variable {engine : Engine}

namespace Entry

/-- Whether an entry is a call of `quit`. -/
def quits : Entry → Bool
  | .called .quit _ => true
  | _ => false

/-- Whether an entry is about a file that was to be written. -/
def saves : Entry → Bool
  | .fileWritten _ _ => true
  | _ => false

/-- Whether an entry is about a record of the profile. -/
def profiles : Entry → Bool
  | .recorded _ => true
  | _ => false

end Entry

/-- From one session to another the journal gained entries, and what is set up before a run stayed
as it was. -/
structure Stays (session : Session engine) (entries : List Entry) (after : Session engine) :
    Prop where
  history_eq : after.history = entries.reverse ++ session.history
  files_eq : after.files = session.files
  options_eq : after.options = session.options
  enabled_eq : after.sampler.enabled = session.sampler.enabled
  profiling_eq : after.profile.isSome = session.profile.isSome
  unsaved : ∀ entry ∈ entries, entry.saves = false
  unprofiled : session.profile = none → ∀ entry ∈ entries, entry.profiles = false

namespace Stays

variable {session middle after : Session engine} {first second : List Entry}

theorem of_eq (hhistory : after.history = session.history) (hfiles : after.files = session.files)
    (hoptions : after.options = session.options)
    (henabled : after.sampler.enabled = session.sampler.enabled)
    (hprofile : after.profile = session.profile) : Stays session [] after :=
  ⟨hhistory, hfiles, hoptions, henabled, congrArg Option.isSome hprofile, List.forall_mem_nil _,
    fun _ => List.forall_mem_nil _⟩

theorem of_entry {entry : Entry} (hhistory : after.history = entry :: session.history)
    (hfiles : after.files = session.files) (hoptions : after.options = session.options)
    (henabled : after.sampler.enabled = session.sampler.enabled)
    (hprofile : after.profile = session.profile) (hsaves : entry.saves = false)
    (hprofiles : entry.profiles = false) : Stays session [entry] after :=
  ⟨hhistory, hfiles, hoptions, henabled, congrArg Option.isSome hprofile,
    List.forall_mem_singleton.mpr hsaves, fun _ => List.forall_mem_singleton.mpr hprofiles⟩

theorem note {entry : Entry} (hsaves : entry.saves = false) (hprofiles : entry.profiles = false) :
    Stays session [entry] (session.note entry) :=
  .of_entry rfl rfl rfl rfl rfl hsaves hprofiles

theorem profile_eq_none (h : Stays session first after) (hoff : session.profile = none) :
    after.profile = none := by
  have hsome := h.profiling_eq
  rw [hoff] at hsome
  exact Option.isNone_iff_eq_none.mp (Option.isSome_eq_false_iff.mp hsome)

theorem append (hfirst : Stays session first middle) (hsecond : Stays middle second after) :
    Stays session (first ++ second) after where
  history_eq := by rw [hsecond.history_eq, hfirst.history_eq]; simp
  files_eq := hsecond.files_eq.trans hfirst.files_eq
  options_eq := hsecond.options_eq.trans hfirst.options_eq
  enabled_eq := hsecond.enabled_eq.trans hfirst.enabled_eq
  profiling_eq := hsecond.profiling_eq.trans hfirst.profiling_eq
  unsaved := List.forall_mem_append.mpr ⟨hfirst.unsaved, hsecond.unsaved⟩
  unprofiled hoff := List.forall_mem_append.mpr
    ⟨hfirst.unprofiled hoff, hsecond.unprofiled (hfirst.profile_eq_none hoff)⟩

theorem journal_eq (h : Stays session first after) :
    after.journal = session.journal ++ first := by
  simp [Session.journal, h.history_eq]

end Stays

namespace Host

variable {α β : Type} {session after : Session engine}

/-- The entries end as the action did: in a call of `quit` where that cut it off, and with no such
call among them otherwise. -/
def Closes (ending : Except Halt α) (entries : List Entry) : Prop :=
  match ending with
  | .error .quit => ∃ before frames, entries = before ++ [.called .quit frames] ∧
      ∀ entry ∈ before, entry.quits = false
  | _ => ∀ entry ∈ entries, entry.quits = false

theorem Closes.append {ending : Except Halt α} {first second : List Entry}
    (hfirst : ∀ entry ∈ first, entry.quits = false) (hsecond : Closes ending second) :
    Closes ending (first ++ second) := by
  rcases ending with (_ | _) | value
  · obtain ⟨before, frames, rfl, hbefore⟩ := hsecond
    exact ⟨first ++ before, frames, by simp, List.forall_mem_append.mpr ⟨hfirst, hbefore⟩⟩
  · exact List.forall_mem_append.mpr ⟨hfirst, hsecond⟩
  · exact List.forall_mem_append.mpr ⟨hfirst, hsecond⟩

/-- Whether the action comes to its end or is cut off, what is set up before a run stays. -/
def Keeps (action : Host engine α) : Prop :=
  ∀ session : Session engine, ∃ entries,
    Stays session entries (action.outcome session).2 ∧ Closes (action.outcome session).1 entries

namespace Keeps

/-- An action that always comes to its end. -/
theorem of_ends {action : Host engine α}
    (hends : ∀ session : Session engine, ∃ result after entries,
      Ends action session result after ∧ Stays session entries after ∧
        ∀ entry ∈ entries, entry.quits = false) :
    Keeps action := by
  intro session
  obtain ⟨result, after, entries, hresult, hstays, hunquit⟩ := hends session
  rw [show action.outcome session = (.ok result, after) from hresult]
  exact ⟨entries, hstays, hunquit⟩

/-- An action that always comes to its end and leaves no entry. -/
theorem of_silent {action : Host engine α}
    (hends : ∀ session : Session engine, ∃ result after,
      Ends action session result after ∧ Stays session [] after) : Keeps action := by
  refine .of_ends fun session => ?_
  obtain ⟨result, after, hresult, hstays⟩ := hends session
  exact ⟨result, after, [], hresult, hstays, List.forall_mem_nil _⟩

/-- An action that always comes to its end and leaves one entry. -/
theorem of_entry {action : Host engine α} (entry : Session engine → Entry)
    (hends : ∀ session : Session engine, ∃ result after,
      Ends action session result after ∧ Stays session [entry session] after)
    (hquits : ∀ session, (entry session).quits = false) : Keeps action := by
  refine .of_ends fun session => ?_
  obtain ⟨result, after, hresult, hstays⟩ := hends session
  exact ⟨result, after, _, hresult, hstays, List.forall_mem_singleton.mpr (hquits session)⟩

theorem pure (value : α) : Keeps (pure value : Host engine α) :=
  .of_silent fun session => ⟨value, session, rfl, .of_eq rfl rfl rfl rfl rfl⟩

theorem exhausted : Keeps (throw .exhausted : Host engine α) :=
  fun _ => ⟨[], .of_eq rfl rfl rfl rfl rfl, List.forall_mem_nil _⟩

theorem bind {action : Host engine α} {next : α → Host engine β}
    (haction : Keeps action) (hnext : ∀ value, Keeps (next value)) :
    Keeps (action >>= next) := by
  intro session
  obtain ⟨first, hstays, hcloses⟩ := haction session
  rw [outcome_bind]
  rcases houtcome : action.outcome session with ⟨halt | value, middle⟩
  -- what cuts off the first part cuts off the whole, so that nothing comes behind a call of `quit`
  · rw [houtcome] at hstays hcloses
    exact ⟨first, hstays, by cases halt <;> exact hcloses⟩
  · rw [houtcome] at hstays hcloses
    obtain ⟨second, hstaysNext, hclosesNext⟩ := hnext value middle
    exact ⟨first ++ second, hstays.append hstaysNext, hclosesNext.append hcloses⟩

theorem get_bind {next : Session engine → Host engine β}
    (hnext : ∀ session, Keeps (next session)) : Keeps (get >>= next) := by
  intro session
  rw [outcome_bind]
  exact hnext session session

theorem note {entry : Entry} (hsaves : entry.saves = false) (hprofiles : entry.profiles = false)
    (hquits : entry.quits = false) : Keeps (note entry : Host engine Unit) :=
  .of_entry (fun _ => entry) (fun _ => ⟨(), _, ends_note.mpr rfl, .note hsaves hprofiles⟩)
    fun _ => hquits

theorem modify {change : Session engine → Session engine}
    (hstays : ∀ session, Stays session [] (change session)) :
    Keeps (modify change : Host engine PUnit) :=
  .of_silent fun session => ⟨(), _, ends_modify.mpr rfl, hstays session⟩

theorem modifyGet {change : Session engine → α × Session engine}
    (hstays : ∀ session, Stays session [] (change session).2) :
    Keeps (modifyGet change : Host engine α) :=
  .of_silent fun session => ⟨_, _, ends_modifyGet.mpr rfl, hstays session⟩

end Keeps

/-! ## Script code -/

theorem keeps_now (look : Look) : Keeps (now look : Host engine Nat) :=
  .modifyGet fun _ => .of_eq rfl rfl rfl rfl rfl

theorem keeps_timeOfDay : Keeps (timeOfDay : Host engine (Option Nat)) :=
  .modifyGet fun _ => .of_eq rfl rfl rfl rfl rfl

theorem keeps_setRealm (realm : Realm) :
    Keeps (modify fun session => { session with realm := realm } : Host engine PUnit) :=
  .modify fun _ => .of_eq rfl rfl rfl rfl rfl

theorem keeps_withRealm {action : Host engine α} (realm : Realm) (haction : Keeps action) :
    Keeps (withRealm realm action) :=
  .get_bind fun session => (keeps_setRealm realm).bind fun _ => haction.bind fun _ =>
    (keeps_setRealm session.realm).bind fun _ => .pure _

theorem keeps_queueJob (job : engine.Job) : Keeps (queueJob job) :=
  .of_entry (fun session => .queued session.jobCount)
    (fun _ => ⟨(), _, ends_queueJob.mpr rfl, .of_entry rfl rfl rfl rfl rfl rfl rfl⟩) fun _ => rfl

theorem keeps_readLine : Keeps (readLine : Host engine Bytes) :=
  .of_entry (fun session => .lineRead session.input.takeChunk.1)
    (fun _ => ⟨_, _, ends_readLine.mpr ⟨rfl, rfl⟩, .of_entry rfl rfl rfl rfl rfl rfl rfl⟩)
    fun _ => rfl

theorem keeps_readFile (path : String) :
    Keeps (readFile path : Host engine (Except IoError Bytes)) :=
  .of_entry (fun session => .fileRead path (session.files.read path).isOk)
    (fun _ => ⟨_, _, ends_readFile.mpr ⟨rfl, rfl⟩, .note rfl rfl⟩) fun _ => rfl

theorem keeps_thrownValue (fault : engine.Fault) : Keeps (thrownValue fault) :=
  .modifyGet fun _ => .of_eq rfl rfl rfl rfl rfl

private theorem exists_ends_bind {action : Host engine α} {next : α → Host engine β}
    {middle : Session engine} (value : α) (haction : Ends action session value middle)
    (hnext : ∃ result after, Ends (next value) middle result after) :
    ∃ result after, Ends (action >>= next) session result after := by
  obtain ⟨result, after, hnext⟩ := hnext
  exact ⟨result, after, ends_bind.mpr ⟨value, middle, haction, hnext⟩⟩

/-- Making an environment always comes to its end. -/
theorem exists_ends_createEnvironment (session : Session engine) (arguments : List String) :
    ∃ result after,
      Ends (createEnvironment arguments : Attempt engine Realm).run session result after := by
  unfold createEnvironment
  rw [ExceptT.run_mk]
  refine exists_ends_bind _ (ends_get.mpr ⟨rfl, rfl⟩) ?_
  cases hmake : engine.createRealm session.realms session.store with
  | error fault =>
      simp only [hmake]
      exact ⟨_, _, ends_pure.mpr ⟨rfl, rfl⟩⟩
  | ok store =>
      simp only [hmake]
      refine exists_ends_bind () (ends_set.mpr rfl) ?_
      refine exists_ends_bind () (ends_note.mpr rfl) ?_
      refine exists_ends_bind _ (ends_withRealm.mpr ⟨_, ends_modifyGet.mpr rfl, rfl⟩) ?_
      split
      · exact ⟨_, _, ends_pure.mpr ⟨rfl, rfl⟩⟩
      · exact exists_ends_bind () (ends_note.mpr rfl) ⟨_, _, ends_pure.mpr ⟨rfl, rfl⟩⟩

theorem keeps_createEnvironment (arguments : List String) :
    Keeps (createEnvironment arguments : Attempt engine Realm).run := by
  refine .of_ends fun session => ?_
  obtain ⟨result, after, hends⟩ := exists_ends_createEnvironment session arguments
  refine ⟨result, after, ?_⟩
  rcases createEnvironment_cases hends with ⟨_, -, rfl⟩ | ⟨store, bound, hbound⟩
  · exact ⟨[], hends, .of_eq rfl rfl rfl rfl rfl, List.forall_mem_nil _⟩
  have hmade : Stays session [.realmCreated session.realms]
      { session.withNewRealm store with store := bound } :=
    .of_entry rfl rfl rfl rfl rfl rfl rfl
  rcases hbound with ⟨_, -, rfl⟩ | ⟨-, rfl⟩
  · exact ⟨_, hends, hmade, List.forall_mem_singleton.mpr rfl⟩
  · exact ⟨_, hends, hmade.append (.note rfl rfl), by simp [Entry.quits]⟩

/-- What `quit` does is to cut the action off behind its call. -/
theorem keeps_called {action : Host engine α} (realm : Realm) {native : Native}
    (hnative : ¬ Unshared native) (haction : Keeps action) :
    Keeps (called realm native action) := by
  refine .get_bind fun session => .bind (.note rfl rfl ?_) fun _ => keeps_withRealm realm haction
  cases native with
  | quit => exact absurd (.inl rfl) hnative
  | _ => rfl

theorem keeps_calledUnshared (budget : Nat) (realm : Realm) {native : Native}
    (hnative : Unshared native) (arguments : List engine.Value) :
    Keeps (called realm native (respond (answer budget) budget native arguments).run) := by
  rcases hnative with rfl | rfl | rfl
  · intro session
    exact ⟨[.called .quit session.frames], .of_entry rfl rfl rfl rfl rfl rfl rfl, [],
      session.frames, rfl, List.forall_mem_nil _⟩
  all_goals
    refine .get_bind fun session => .bind (.note rfl rfl rfl) fun _ => keeps_withRealm realm ?_
  · exact .of_entry (fun session => .wrote .stderr (stackTrace session.frames)) (fun _ =>
      ⟨_, _, ends_respond_stackTrace.mpr ⟨rfl, rfl⟩, .note rfl rfl⟩) fun _ => rfl
  · refine .of_ends fun session => ?_
    refine ⟨_, _, Native.shows .dumpCallFrame session.frames,
      ends_respond_dumpCallFrame.mpr ⟨rfl, rfl⟩, ?_⟩
    cases session.frames with
    | nil => exact ⟨.of_eq rfl rfl rfl rfl rfl, List.forall_mem_nil _⟩
    | cons frame outer => exact ⟨.note rfl rfl, List.forall_mem_singleton.mpr rfl⟩

theorem keeps_enter (frame : String) : Keeps (enter frame : Host engine Unit) :=
  .of_entry (fun _ => .entered frame) (fun _ => ⟨(), _, ends_enter.mpr rfl,
    .of_entry rfl rfl rfl rfl rfl rfl rfl⟩) fun _ => rfl

theorem keeps_leave : Keeps (leave : Host engine Unit) := by
  refine .of_ends fun session => ?_
  cases hframes : session.frames with
  -- no evaluation leaves a frame that it did not enter, but here the session is any
  | nil =>
      refine ⟨(), session, [], ?_, .of_eq rfl rfl rfl rfl rfl, List.forall_mem_nil _⟩
      unfold leave
      rw [ends_get_bind]
      simp only [hframes]
      exact ends_pure.mpr ⟨rfl, rfl⟩
  | cons frame outer =>
      exact ⟨(), _, [.left frame], (ends_leave hframes).mpr rfl,
        .of_entry rfl rfl rfl rfl rfl rfl rfl, List.forall_mem_singleton.mpr rfl⟩

theorem keeps_record (record : ProfileRecord) : Keeps (Host.record record : Host engine Unit) := by
  refine .of_ends fun session => ⟨(), _, ((session.kept record).map Entry.recorded).toList,
    ends_record.mpr rfl, ?_, ?_⟩
  -- the entry is there only where profiling is on, as `Stays.unprofiled` has it
  · cases hprofile : session.profile with
    | none =>
        have hkept : session.kept record = none := by simp [Session.kept, hprofile]
        rw [hkept]
        exact .of_eq (by simp [hkept]) rfl rfl rfl (by simp [hprofile])
    | some records =>
        exact ⟨by simp [Session.kept, hprofile], rfl, rfl, rfl, by simp, by
          simp [Session.kept, hprofile, Entry.saves], by simp [hprofile]⟩
  · cases hprofile : session.profile <;> simp [Session.kept, hprofile, Entry.quits]

/-- The jobs at the end of an evaluation. -/
theorem keeps_jobs : @JobClosed engine fun _ action => Keeps action where
  pure := .pure
  bind := .bind
  lookJobs _ hnext := .get_bind fun _ => hnext _
  lookFrames _ hnext := .get_bind fun _ => hnext _
  exhausted := .exhausted
  takeJob := .of_silent fun _ => ⟨_, _, ends_takeJob.mpr ⟨rfl, rfl⟩, .of_eq rfl rfl rfl rfl rfl⟩
  started _ := .note rfl rfl rfl
  settled _ := .note rfl rfl rfl
  interrupted _ := .note rfl rfl rfl
  dropJobs := .modify fun _ => .of_eq rfl rfl rfl rfl rfl

theorem keeps_elapsedSince (look : Look) (instant : Nat) :
    Keeps (elapsedSince look instant : Host engine Duration) :=
  (keeps_now look).bind fun _ => .pure _

theorem keeps_withFrame {action : Host engine α} (frame : String) (haction : Keeps action) :
    Keeps (withFrame frame action) :=
  (keeps_enter frame).bind fun _ => haction.bind fun _ => keeps_leave.bind fun _ => .pure _

/-- Script code, however it comes to its end, leaves alone what is set up before a run. -/
theorem keeps_closed : @ScriptClosed engine fun _ action => Keeps action where
  pure := .pure
  bind := .bind
  look _ hnext := .get_bind fun _ => hnext _ _ _
  exhausted := .exhausted
  setStore _ := .modify fun _ => .of_eq rfl rfl rfl rfl rfl
  queueJob := keeps_queueJob
  print _ _ := .note rfl rfl rfl
  nowCall := keeps_now .call
  timeOfDay := keeps_timeOfDay
  readLine := keeps_readLine
  readFile := keeps_readFile
  thrownValue := keeps_thrownValue
  changeFlags _ := .modify fun _ => .of_eq rfl rfl rfl rfl rfl
  createEnvironment := keeps_createEnvironment
  withRealm := keeps_withRealm
  called := keeps_called
  calledUnshared := keeps_calledUnshared
  evaluate budget _ name hscript hjob hreport :=
    keeps_withFrame name <| (keeps_now .evaluation).bind fun began => hscript.bind fun result =>
      (keeps_jobs.drainOutermost hjob budget).bind fun _ =>
        (keeps_elapsedSince .evaluation began).bind fun _ =>
          (keeps_record _).bind fun _ => hreport result
  checkSyntax _ _ name hreport :=
    keeps_withFrame name <| (keeps_now .evaluation).bind fun began => .get_bind fun _ =>
      (keeps_elapsedSince .evaluation began).bind fun _ => (keeps_record _).bind fun _ => hreport _

/-! ## The shell -/

theorem keeps_changeSampler {change : Sampler → Sampler}
    (hchange : ∀ sampler, (change sampler).enabled = sampler.enabled) :
    Keeps (modify fun session => { session with sampler := change session.sampler } :
      Host engine PUnit) :=
  .modify fun session => .of_eq rfl rfl rfl (hchange session.sampler) rfl

theorem keeps_openWindow (script : String) : Keeps (openWindow script : Host engine Window) := by
  refine .get_bind fun _ => ?_
  split
  · refine (keeps_now .window).bind fun instant => .modifyGet fun session =>
      .of_eq rfl rfl rfl ?_ rfl
    show (session.sampler.openWindow script instant).2.enabled = _
    unfold Sampler.openWindow
    split <;> rfl
  · exact .pure _

theorem keeps_closeWindow (window : Window) : Keeps (closeWindow window : Host engine Unit) := by
  unfold closeWindow
  split
  · refine (keeps_now .window).bind fun instant => .modify fun session =>
      .of_eq rfl rfl rfl ?_ rfl
    show (session.sampler.closeWindow window instant session.flags).enabled = _
    unfold Sampler.closeWindow
    split <;> rfl
  · exact .pure _

/-- The shell around script code leaves alone what is set up before a run. -/
theorem keeps_shell : @ShellClosed engine fun _ action => Keeps action where
  pure := .pure
  bind := .bind
  lookInstrumented _ hnext := .get_bind fun _ => hnext _
  lookInput _ hnext := .get_bind fun _ => hnext _
  exhausted := .exhausted
  write _ _ := .note rfl rfl rfl
  log _ := .note rfl rfl rfl
  nowScript := keeps_now .script
  readLine := keeps_readLine
  readFile := keeps_readFile
  changeFlags := keeps_closed.changeFlags
  changeSampler := keeps_changeSampler
  openWindow := keeps_openWindow
  closeWindow := keeps_closeWindow
  createEnvironment := keeps_createEnvironment
  evaluateIn := keeps_closed.evaluateIn
  checkSyntaxIn := keeps_closed.checkSyntaxIn
  stringifyIn := keeps_closed.stringifyIn

end Host

end ScriptShell
