import ScriptShell.Language.Interpreter
import ScriptShell.Proofs.Session.Batch
import ScriptShell.Proofs.Session.Halting

/-!
# The phases of a run

A run of the program with a configuration makes an environment, runs the scripts, talks to the user
if that was asked for and every script succeeded, and then closes: it reports the exit status, saves
the profile and shows the samples, each on demand. The status is decided by the scripts alone; what
comes behind them cannot change it. A call of `quit` ends all of this where it stands, with status
zero.

## Main results

* `Program.phases_eq` splits a run into what scripts can cut off and the closing, which nothing can.
* `Program.ends_closing` says what the closing does.
* `run_by_phases` is about whole runs, from the arguments on.
-/

namespace ScriptShell

variable {engine : Engine}

namespace Program

/-! ## The phases -/

/-- The scripts and then, if that was asked for and all of them succeeded, the shell. -/
def talk (budget : Nat) (configuration : CommandLine.Configuration) (environment : Realm) :
    Host engine Bool := do
  let success ←
    Host.runScripts budget environment .stdout configuration.dump configuration.scripts
  if configuration.interactive && success then Host.shell budget environment .stdout
  return success

/-- The exit status for the success of the scripts. -/
def statusOf (success : Bool) : Nat :=
  if success then 0 else failureStatus

/-- What is done once neither a script nor a line is left. -/
def closing (configuration : CommandLine.Configuration) (success : Bool) : Host engine Nat := do
  let status := statusOf success
  if configuration.reportExit then Host.write .stdout (exitLine status)
  saveProfileTo configuration.profilePath
  dumpSamples
  return status

theorem phases_eq (budget : Nat) (configuration : CommandLine.Configuration) :
    (phases budget configuration : Host engine Nat) = (do
      match ← (Host.createEnvironment configuration.trailingArguments).run with
      | .error fault =>
        let text := engine.faultText fault (← get).store
        Host.write .stderr ((Failure.engine text).message ++ "\n")
        return failureStatus
      | .ok environment => talk budget configuration environment >>= closing configuration) := by
  unfold phases talk
  refine bind_congr fun made => ?_
  cases made with
  | error fault => rfl
  | ok environment =>
      dsimp only
      rw [bind_assoc]
      refine bind_congr fun success => ?_
      split
      · rw [bind_assoc]
        refine bind_congr fun _ => ?_
        rw [pure_bind]
        rfl
      · rfl

/-! ## The closing -/

/-- The line about the exit status, on demand. -/
def exitEntries (configuration : CommandLine.Configuration) (success : Bool) : List Entry :=
  if configuration.reportExit then [.wrote .stdout (exitLine (statusOf success))] else []

/-- Saving records under a path, if there is one: what that leaves in the journal, and the files
behind it. -/
def saving (path? : Option String) (records : List ProfileRecord) (files : Files) :
    List Entry × Files :=
  match path? with
  | none => ([], files)
  | some path =>
    match files.write path (Bytes.ofString (Profile.render records)) with
    | .ok written => ([.fileWritten path none], written)
    | .error error =>
      ([.fileWritten path (some error), .logged (.profileNotSaved path (.io error)),
        .wrote .stderr "could not save profiler output.\n"], files)

/-- The samples, where sampling is in use and they are to be shown. -/
def sampleEntries (options : Options) (sampler : Sampler) : List Entry :=
  if options.useSampling && options.dumpSampleData then [.wrote .stderr sampler.dump] else []

/-- What the closing leaves in the journal, in view of some files. -/
def closingEntries (configuration : CommandLine.Configuration) (success : Bool) (files : Files)
    (session : Session engine) : List Entry :=
  exitEntries configuration success ++
    (saving configuration.profilePath session.profileRecords files).1 ++
    sampleEntries configuration.options session.sampler

/-- The session behind the closing. -/
def closed (configuration : CommandLine.Configuration) (success : Bool)
    (session : Session engine) : Session engine :=
  Session.noteAll { session with
      files := (saving configuration.profilePath session.profileRecords session.files).2 }
    (closingEntries configuration success session.files session)

theorem quits_closingEntries (configuration : CommandLine.Configuration) (success : Bool)
    (files : Files) (session : Session engine) :
    ∀ entry ∈ closingEntries configuration success files session, entry.quits = false := by
  unfold closingEntries exitEntries saving sampleEntries
  refine List.forall_mem_append.mpr ⟨List.forall_mem_append.mpr ⟨?_, ?_⟩, ?_⟩
  · split <;> simp [Entry.quits]
  · split
    · simp
    · split <;> simp [Entry.quits]
  · split <;> simp [Entry.quits]

section Closing

variable {session : Session engine} {configuration : CommandLine.Configuration}

theorem ends_saveProfileTo {path? : Option String}
    (hprofiling : session.profile.isSome = path?.isSome) :
    Host.Ends (saveProfileTo path?) session ()
      (Session.noteAll
        { session with files := (saving path? session.profileRecords session.files).2 }
        (saving path? session.profileRecords session.files).1) := by
  cases path? with
  | none => exact Host.ends_pure.mpr ⟨rfl, rfl⟩
  | some path =>
      obtain ⟨records, hrecords⟩ := Option.isSome_iff_exists.mp hprofiling
      have hkept : session.profileRecords = records := by simp [Session.profileRecords, hrecords]
      unfold saveProfileTo
      rw [hkept, Host.ends_bind]
      cases hwrite : session.files.write path (Bytes.ofString (Profile.render records)) with
      | ok written =>
          have hsaved : Host.Ends (saveProfile path) session (.ok ())
              (Session.note { session with files := written } (.fileWritten path none)) :=
            Host.ends_saveProfile.mpr (by simp [hrecords, hwrite])
          refine ⟨_, _, hsaved, Host.ends_pure.mpr ⟨rfl, ?_⟩⟩
          simp only [saving, hwrite]
          rfl
      | error error =>
          have hsaved : Host.Ends (saveProfile path) session (.error (.io error))
              (session.note (.fileWritten path (some error))) :=
            Host.ends_saveProfile.mpr (by simp [hrecords, hwrite])
          refine ⟨_, _, hsaved, Host.ends_note_bind.mpr (Host.ends_note.mpr ?_)⟩
          simp only [saving, hwrite]
          rfl

theorem ends_dumpSamples :
    Host.Ends dumpSamples session () (session.noteAll
      (if session.sampler.enabled && session.options.dumpSampleData then
        [.wrote .stderr session.sampler.dump] else [])) := by
  unfold dumpSamples
  rw [Host.ends_get_bind]
  split
  · exact Host.ends_note.mpr rfl
  · exact Host.ends_pure.mpr ⟨rfl, rfl⟩

/-- The closing always comes to its end, with the status that the scripts decided on. -/
theorem ends_closing (success : Bool)
    (hprofiling : session.profile.isSome = configuration.profilePath.isSome)
    (henabled : session.sampler.enabled = configuration.options.useSampling)
    (hoptions : session.options = configuration.options) :
    Host.Ends (closing configuration success) session (statusOf success)
      (closed configuration success session) := by
  have hreported : Host.Ends
      (if configuration.reportExit then Host.write .stdout (exitLine (statusOf success))
        else pure () : Host engine Unit) session ()
      (session.noteAll (exitEntries configuration success)) := by
    unfold exitEntries
    split
    · exact Host.ends_note.mpr rfl
    · exact Host.ends_pure.mpr ⟨rfl, rfl⟩
  have hsaved := @ends_saveProfileTo engine
    (session.noteAll (exitEntries configuration success)) configuration.profilePath hprofiling
  -- without the `if` in front, each step of the closing is one bind
  have hclosing : (closing configuration success : Host engine Nat) =
      (if configuration.reportExit then Host.write .stdout (exitLine (statusOf success))
        else pure ()) >>= fun _ => saveProfileTo configuration.profilePath >>= fun _ =>
          dumpSamples >>= fun _ => pure (statusOf success) := by
    unfold closing
    split <;> rfl
  rw [hclosing]
  refine Host.ends_bind.mpr ⟨_, _, hreported, Host.ends_bind.mpr ⟨_, _, hsaved,
    Host.ends_bind.mpr ⟨_, _, ends_dumpSamples, Host.ends_pure.mpr ⟨rfl, ?_⟩⟩⟩⟩
  simp [closed, closingEntries, Session.noteAll, sampleEntries, henabled, hoptions,
    Session.profileRecords]

end Closing

/-! ## Scripts and shell -/

section Talk

variable {budget : Nat} {configuration : CommandLine.Configuration} {environment : Realm}
  {session after : Session engine}

theorem keeps_talk : Host.Keeps (talk budget configuration environment : Host engine Bool) := by
  refine Host.keeps_shell.bind (Host.keeps_shell.runScripts _) fun success => ?_
  split
  · exact Host.keeps_shell.bind Host.keeps_shell.shell fun _ => Host.keeps_shell.pure _
  · exact Host.keeps_shell.pure _

/-- The shell follows exactly where it was asked for and every script succeeded. -/
theorem ends_talk {success : Bool} :
    Host.Ends (talk budget configuration environment) session success after ↔
      ∃ batched, Host.Ends (Host.runScripts budget environment .stdout configuration.dump
          configuration.scripts) session success batched ∧
        if configuration.interactive && success then
          Host.Ends (Host.shell budget environment .stdout) batched () after
        else after = batched := by
  unfold talk
  rw [Host.ends_bind]
  constructor
  · rintro ⟨success, batched, hscripts, hends⟩
    split at hends
    · obtain ⟨_, _, hshell, hends⟩ := Host.ends_bind.mp hends
      obtain ⟨rfl, rfl⟩ := Host.ends_pure.mp hends
      exact ⟨batched, hscripts, by rwa [if_pos ‹_›]⟩
    · obtain ⟨rfl, rfl⟩ := Host.ends_pure.mp hends
      exact ⟨after, hscripts, by rw [if_neg ‹_›]⟩
  · rintro ⟨batched, hscripts, hshell⟩
    refine ⟨success, batched, hscripts, ?_⟩
    split at hshell
    · rw [if_pos ‹_›]
      exact Host.ends_bind.mpr ⟨(), after, hshell, Host.ends_pure.mpr ⟨rfl, rfl⟩⟩
    · rw [if_neg ‹_›]
      exact Host.ends_pure.mpr ⟨rfl, hshell⟩

end Talk

end Program

namespace Host

variable {budget : Nat} {environment : Realm} {out : Channel} {dump : Bool}
  {session after : Session engine}

/-- The shell begins with a prompt. -/
theorem journal_shell (hends : Ends (shell budget environment out) session () after) :
    ∃ rest, after.journal = session.journal ++ .wrote out prompt :: rest := by
  unfold shell at hends
  rw [ends_get_bind] at hends
  unfold shellLines at hends
  obtain ⟨_, prompted, hwrite, hends⟩ := ends_bind.mp hends
  -- the loop behind its first prompt
  have hread : Passes (readLine >>= fun line : Bytes =>
      if line = [] then write out "\n"
      else do
        evaluateLine budget environment out (decode line)
        shellLines budget environment out session.input.length : Host engine Unit) := by
    refine passes_closed.bind passes_closed.readLine fun line => ?_
    split
    · exact passes_write out _
    · exact passes_closed.bind (passes_closed.evaluateLine _) fun _ => passes_closed.shellLines _
  obtain ⟨rest, hpassage⟩ := hread hends
  refine ⟨rest, ?_⟩
  rw [hpassage.journal_eq, ends_note.mp hwrite]
  simp [Session.journal]

/-- The scripts that a run executes, and when it succeeds. -/
theorem batch_runScripts {scripts : List Script} {success : Bool}
    (hends : Ends (runScripts budget environment out dump scripts) session success after) :
    ∃ runs last, runs.map ScriptRun.script = scripts.takeWhile (Script.readable session.files) ∧
      Batch budget environment out dump { session with sampler := session.sampler.start } runs
        last ∧
      (success = true ↔ (∀ script ∈ scripts, script.readable session.files = true) ∧
        ∀ run ∈ runs, run.outcome.exception = none) := by
  obtain ⟨_, started, hstart, hends⟩ := ends_bind.mp hends
  obtain ⟨_, stopped, hall, hends⟩ := ends_bind.mp hends
  rw [ends_modify_bind, ends_pure] at hends
  obtain ⟨rfl, -⟩ := hends
  obtain ⟨runs, last, hscripts, hbatch, -, hsuccess⟩ := batch_executeAll hall
  obtain rfl := ends_modify.mp hstart
  exact ⟨runs, last, hscripts, hbatch, by rw [hsuccess, List.dropWhile_eq_nil_iff]⟩

end Host

/-! ## Whole runs -/

namespace Program

/-- The session in which the phases of a run begin. -/
def opening (engine : Engine) (surroundings : Surroundings)
    (configuration : CommandLine.Configuration) : Session engine :=
  Session.start engine configuration.options configuration.profilePath.isSome surroundings.input
    surroundings.files surroundings.clock

/-- The options, where they are to be listed before the run. -/
def listing (configuration : CommandLine.Configuration) : List Entry :=
  if configuration.dumpOptions then [.wrote .stderr configuration.options.dump] else []

/-- The exit status for the way in which the phases ended. -/
def endingStatus : Except Halt Nat → Nat
  | .ok status => status
  | .error .quit => 0
  | .error .exhausted => failureStatus

/-- Whether a bound cut an action off can be read off its ending. -/
instance decidableExhausted {α : Type} :
    (ending : Except Halt α) → Decidable (ending = .error .exhausted)
  | .error halt => decidable_of_iff (halt = .exhausted) ⟨congrArg Except.error, Except.error.inj⟩
  | .ok _ => isFalse nofun

theorem runConfiguration_eq (budget : Nat) (surroundings : Surroundings)
    (configuration : CommandLine.Configuration) {ending : Except Halt Nat}
    {session : Session engine} (houtcome : (phases budget configuration : Host engine Nat).outcome
      (opening engine surroundings configuration) = (ending, session)) :
    runConfiguration engine budget surroundings configuration =
      { status := endingStatus ending
        journal := listing configuration ++ session.journal
        files := session.files
        sampler := session.sampler } := by
  have hrun : (phases budget configuration : Host engine Nat).run.run
      (opening engine surroundings configuration) = (ending, session) := houtcome
  unfold runConfiguration
  unfold opening at hrun
  simp only [hrun]
  rcases ending with (_ | _) | _ <;> rfl

end Program

/-- What the scripts and the shell of a run did. -/
structure PhaseRun (engine : Engine) where
  /-- The scripts that were executed. -/
  runs : List (ScriptRun engine)
  /-- Whether every script was read and none threw. -/
  success : Bool
  /-- The session behind the scripts. -/
  batched : Session engine
  /-- What the shell left in the journal. -/
  shell : List Entry
  /-- The session behind the shell. -/
  talked : Session engine

/-- The phases of a run that nothing cut off, from the session with the environment on. -/
structure PhaseRun.Completes (budget : Nat) (surroundings : Surroundings)
    (configuration : CommandLine.Configuration) (environment : Realm) (made : Session engine)
    (outcome : Outcome) (phases : PhaseRun engine) : Prop where
  scripts_eq : phases.runs.map ScriptRun.script =
    configuration.scripts.takeWhile (Script.readable surroundings.files)
  batch : ∃ last, Batch budget environment .stdout configuration.dump
    { made with sampler := made.sampler.start } phases.runs last
  runs_scripts : Host.Ends (Host.runScripts budget environment .stdout configuration.dump
    configuration.scripts) made phases.success phases.batched
  success_iff : phases.success = true ↔
    (∀ script ∈ configuration.scripts, script.readable surroundings.files = true) ∧
      ∀ run ∈ phases.runs, run.outcome.exception = none
  shell_iff : if configuration.interactive && phases.success then
      Host.Ends (Host.shell budget environment .stdout) phases.batched () phases.talked ∧
        ∃ rest, phases.shell = .wrote .stdout Host.prompt :: rest
    else phases.talked = phases.batched ∧ phases.shell = []
  talked_eq : phases.talked.journal = phases.batched.journal ++ phases.shell
  unsaved : ∀ entry ∈ phases.talked.journal, entry.saves = false
  status_eq : outcome.status = if phases.success then 0 else 3
  journal_eq : outcome.journal = Program.listing configuration ++ phases.talked.journal ++
    Program.closingEntries configuration phases.success surroundings.files phases.talked
  files_eq : outcome.files = (Program.saving configuration.profilePath
    phases.talked.profileRecords surroundings.files).2
  sampler_eq : outcome.sampler = phases.talked.sampler

/-- A call of `quit` ended a run where it stood. -/
structure Outcome.Quit (files : Files) (outcome : Outcome) : Prop where
  status_eq : outcome.status = 0
  files_eq : outcome.files = files
  unsaved : ∀ entry ∈ outcome.journal, entry.saves = false
  journal_eq : ∃ before frames, outcome.journal = before ++ [.called .quit frames] ∧
    ∀ entry ∈ before, entry.quits = false

namespace Program

variable {budget : Nat} {surroundings : Surroundings} {configuration : CommandLine.Configuration}
  {environment : Realm} {made talked : Session engine}

/-- The phases behind an environment. -/
theorem outcome_phases {result : Except engine.Fault Realm} {session : Session engine}
    (hmade : Host.Ends (Host.createEnvironment configuration.trailingArguments).run session result
      made) :
    (phases budget configuration : Host engine Nat).outcome session =
      match result with
      | .error fault => (.ok failureStatus, made.note (.wrote .stderr
          ((Failure.engine (engine.faultText fault made.store)).message ++ "\n")))
      | .ok environment =>
        (talk budget configuration environment >>= closing configuration).outcome made := by
  have houtcome : (Host.createEnvironment configuration.trailingArguments).run.outcome session =
      (.ok result, made) := hmade
  rw [phases_eq, Host.outcome_bind, houtcome]
  cases result <;> rfl

theorem opening_profiling : (opening engine surroundings configuration).profile.isSome =
    configuration.profilePath.isSome := by
  unfold opening Session.start
  cases configuration.profilePath <;> rfl

/-- What there is before the scripts is neither a call of `quit` nor a file. -/
theorem quiet_opening {result : Except engine.Fault Realm}
    (hmade : Host.Ends (Host.createEnvironment configuration.trailingArguments).run
      (opening engine surroundings configuration) result made) :
    ∃ entries, Stays (opening engine surroundings configuration) entries made ∧
      ∀ entry ∈ listing configuration ++ made.journal,
        entry.quits = false ∧ entry.saves = false := by
  have hkeeps := Host.keeps_createEnvironment configuration.trailingArguments
    (opening engine surroundings configuration)
  rw [show (Host.createEnvironment configuration.trailingArguments).run.outcome
    (opening engine surroundings configuration) = (.ok result, made) from hmade] at hkeeps
  obtain ⟨entries, hstays, hunquit⟩ := hkeeps
  refine ⟨entries, hstays, ?_⟩
  rw [hstays.journal_eq]
  refine List.forall_mem_append.mpr ⟨?_, List.forall_mem_append.mpr ⟨?_, fun entry hentry => ?_⟩⟩
  · unfold listing
    split <;> simp [Entry.quits, Entry.saves]
  · simp [opening, Session.start, Session.journal, Entry.quits, Entry.saves]
  · exact ⟨hunquit entry hentry, hstays.unsaved entry hentry⟩

/-- What the scripts and the shell leave alone, counted from the opening on. -/
theorem stays_talk {entries : List Entry} {result : Except Halt Bool}
    (hstays : Stays (opening engine surroundings configuration) entries made)
    (htalk : (talk budget configuration environment : Host engine Bool).outcome made =
      (result, talked)) :
    ∃ gained, talked.journal = made.journal ++ gained ∧ Host.Closes result gained ∧
      Stays (opening engine surroundings configuration) (entries ++ gained) talked := by
  have hkeeps := @keeps_talk engine budget configuration environment made
  rw [htalk] at hkeeps
  obtain ⟨gained, hgained, hcloses⟩ := hkeeps
  exact ⟨gained, hgained.journal_eq, hcloses, hstays.append hgained⟩

/-- Where a call of `quit` cuts off the scripts or the shell, the run ends there. -/
theorem quit_of_talk
    (hmade : Host.Ends (Host.createEnvironment configuration.trailingArguments).run
      (opening engine surroundings configuration) (.ok environment) made)
    (htalk : (talk budget configuration environment : Host engine Bool).outcome made =
      (.error .quit, talked)) :
    (runConfiguration engine budget surroundings configuration).Quit surroundings.files := by
  obtain ⟨entries, hopened, hquiet⟩ := quiet_opening hmade
  obtain ⟨gained, hgained, ⟨before, frames, rfl, hbefore⟩, hstays⟩ := stays_talk hopened htalk
  have houtcome : (phases budget configuration : Host engine Nat).outcome
      (opening engine surroundings configuration) = (.error .quit, talked) := by
    rw [outcome_phases hmade]
    show (talk budget configuration environment >>= closing configuration).outcome made = _
    rw [Host.outcome_bind, htalk]
  rw [runConfiguration_eq budget surroundings configuration houtcome]
  refine ⟨rfl, hstays.files_eq, fun entry hentry => ?_, listing configuration ++ made.journal ++
    before, frames, ?_, ?_⟩
  · rw [hgained, ← List.append_assoc] at hentry
    rcases List.mem_append.mp hentry with hopening | hlast
    · exact (hquiet entry hopening).2
    · exact hstays.unsaved entry (List.mem_append_right _ hlast)
  · simp [hgained]
  · exact List.forall_mem_append.mpr ⟨fun entry hentry => (hquiet entry hentry).1, hbefore⟩

/-- Where nothing cuts off the scripts and the shell, all phases of the run take place. -/
theorem completes_of_talk {success : Bool}
    (hmade : Host.Ends (Host.createEnvironment configuration.trailingArguments).run
      (opening engine surroundings configuration) (.ok environment) made)
    (htalk : Host.Ends (talk budget configuration environment) made success talked) :
    (∃ phases : PhaseRun engine, phases.Completes budget surroundings configuration environment
        made (runConfiguration engine budget surroundings configuration)) ∧
      ∀ entry ∈ (runConfiguration engine budget surroundings configuration).journal,
        entry.quits = false := by
  obtain ⟨entries, hopened, hquiet⟩ := quiet_opening hmade
  obtain ⟨gained, hgained, hunquit, hstays⟩ := stays_talk hopened htalk
  -- scripts and shell left alone what the closing goes by
  have hprofiling : talked.profile.isSome = configuration.profilePath.isSome :=
    hstays.profiling_eq.trans opening_profiling
  have hclosing := ends_closing success hprofiling hstays.enabled_eq hstays.options_eq
  have houtcome : (phases budget configuration : Host engine Nat).outcome
      (opening engine surroundings configuration) =
        (.ok (statusOf success), closed configuration success talked) := by
    rw [outcome_phases hmade]
    exact Host.ends_bind.mpr ⟨success, talked, htalk, hclosing⟩
  have hrun := runConfiguration_eq budget surroundings configuration houtcome
  have hjournal : (runConfiguration engine budget surroundings configuration).journal =
      listing configuration ++ talked.journal ++
        closingEntries configuration success surroundings.files talked := by
    rw [hrun]
    simp [closed, Session.journal, hstays.files_eq, opening, Session.start]
  obtain ⟨batched, hscripts, hshell⟩ := ends_talk.mp htalk
  obtain ⟨runs, last, hruns, hbatch, hsuccess⟩ := Host.batch_runScripts hscripts
  rw [hopened.files_eq] at hruns hsuccess
  refine ⟨?_, ?_⟩
  · have hspoken : ∃ shell, talked.journal = batched.journal ++ shell ∧
        if configuration.interactive && success then
          Host.Ends (Host.shell budget environment .stdout) batched () talked ∧
            ∃ rest, shell = .wrote .stdout Host.prompt :: rest
        else talked = batched ∧ shell = [] := by
      split at hshell
      · obtain ⟨rest, hrest⟩ := Host.journal_shell hshell
        exact ⟨_, hrest, by rw [if_pos ‹_›]; exact ⟨hshell, rest, rfl⟩⟩
      · exact ⟨[], by simp [hshell], by rw [if_neg ‹_›]; exact ⟨hshell, rfl⟩⟩
    obtain ⟨shell, hspoken, hshell⟩ := hspoken
    refine ⟨⟨runs, success, batched, shell, talked⟩, hruns, ⟨last, hbatch⟩, hscripts, hsuccess,
      hshell, hspoken, ?_, by rw [hrun]; rfl, hjournal, ?_, by rw [hrun]; rfl⟩
    · rw [hgained]
      refine List.forall_mem_append.mpr ⟨fun entry hentry => ?_, fun entry hentry => ?_⟩
      · exact (hquiet entry (List.mem_append_right _ hentry)).2
      · exact hstays.unsaved entry (List.mem_append_right _ hentry)
    · rw [hrun]
      simp [closed, hstays.files_eq, opening, Session.start]
  · rw [hjournal, hgained, ← List.append_assoc]
    refine List.forall_mem_append.mpr ⟨List.forall_mem_append.mpr
      ⟨fun entry hentry => (hquiet entry hentry).1, hunquit⟩, ?_⟩
    exact quits_closingEntries configuration success surroundings.files talked

end Program

open Program in
/-- A command line that cannot be read gives status one, with its message and the usage on standard
error; the requests that only print give status zero; in these cases nothing else happens. With a
configuration, and with an environment, a run that no call of `quit` cuts off goes through all of
its phases, as `PhaseRun.Completes` says; one that is cut off ends with the call and with status
zero. The bounds of the engine are assumed to be great enough. -/
theorem run_by_phases (engine : Engine) (budget : Nat) (surroundings : Surroundings) :
    let outcome := run engine budget surroundings
    match CommandLine.parse (surroundings.arguments.map Utf8.decodeLossy) with
    | .error error => outcome.status = 1 ∧ outcome.files = surroundings.files ∧
        outcome.journal = [.wrote .stderr (error.message ++ "\n"), .wrote .stderr surroundings.usage]
    | .ok .help => outcome.status = 0 ∧ outcome.files = surroundings.files ∧
        outcome.journal = [.wrote .stderr surroundings.usage]
    | .ok (.listOptions options) => outcome.status = 0 ∧ outcome.files = surroundings.files ∧
        outcome.journal = [.wrote .stderr options.dump]
    | .ok (.run configuration) =>
      ∃ result made, Host.Ends (Host.createEnvironment configuration.trailingArguments).run
          (opening engine surroundings configuration) result made ∧
        match result with
        | .error fault => outcome.status = 3 ∧ outcome.files = surroundings.files ∧
            outcome.journal = listing configuration ++ made.journal ++ [.wrote .stderr
              ((Failure.engine (engine.faultText fault made.store)).message ++ "\n")]
        | .ok environment =>
          ((phases budget configuration : Host engine Nat).outcome
              (opening engine surroundings configuration)).1 ≠ .error .exhausted →
            ((∀ entry ∈ outcome.journal, entry.quits = false) → ∃ phases : PhaseRun engine,
              phases.Completes budget surroundings configuration environment made outcome) ∧
            ((∃ entry ∈ outcome.journal, entry.quits = true) →
              outcome.Quit surroundings.files) := by
  intro outcome
  cases hparse : CommandLine.parse (surroundings.arguments.map Utf8.decodeLossy) with
  | error error =>
      have houtcome : outcome =
          printOnly surroundings 1 [error.message ++ "\n", surroundings.usage] := by
        simp only [outcome, run, hparse]
      rw [houtcome]
      exact ⟨rfl, rfl, rfl⟩
  | ok request =>
      cases request with
      | help =>
          have houtcome : outcome = printOnly surroundings 0 [surroundings.usage] := by
            simp only [outcome, run, hparse]
          rw [houtcome]
          exact ⟨rfl, rfl, rfl⟩
      | listOptions options =>
          have houtcome : outcome = printOnly surroundings 0 [options.dump] := by
            simp only [outcome, run, hparse]
          rw [houtcome]
          exact ⟨rfl, rfl, rfl⟩
      | run configuration =>
          have houtcome : outcome = runConfiguration engine budget surroundings configuration := by
            simp only [outcome, run, hparse]
          rw [houtcome]
          obtain ⟨result, made, hmade⟩ := Host.exists_ends_createEnvironment
            (opening engine surroundings configuration) configuration.trailingArguments
          refine ⟨result, made, hmade, ?_⟩
          cases result with
          | error fault =>
              obtain ⟨entries, hstays, -⟩ := quiet_opening hmade
              rw [runConfiguration_eq budget surroundings configuration (outcome_phases hmade)]
              refine ⟨rfl, hstays.files_eq, ?_⟩
              simp [Session.journal]
          | ok environment =>
              intro hbounds
              rcases htalk : (talk budget configuration environment : Host engine Bool).outcome made
                with ⟨(_ | _) | success, talked⟩
              · have hquit := quit_of_talk hmade htalk
                refine ⟨fun hunquit => ?_, fun _ => hquit⟩
                obtain ⟨before, frames, hjournal, -⟩ := hquit.journal_eq
                cases hunquit (.called .quit frames) (by simp [hjournal])
              · refine absurd ?_ hbounds
                rw [outcome_phases hmade]
                show ((talk budget configuration environment >>= closing configuration).outcome
                  made).1 = _
                rw [Host.outcome_bind, htalk]
              · obtain ⟨hcompletes, hunquit⟩ := completes_of_talk hmade htalk
                refine ⟨fun _ => hcompletes, ?_⟩
                rintro ⟨entry, hentry, hquits⟩
                rw [hunquit entry hentry] at hquits
                cases hquits

/-- A run that reports its status, saves its profile where there is no directory and shows its
samples. -/
def failingSave (code : String) : Surroundings where
  arguments := ["-x", "-p", "gone/profile.json", "--useSampling=true", "-i", "-e", code].map
    Bytes.ofString
  input := []
  files := Files.empty
  logSetting := none
  clock := .ticking 0
  usage := "Usage: jsc [options] [files]\n"

/-- The configuration of such a run. -/
def failingSaveConfiguration (code : String) : CommandLine.Configuration where
  scripts := [.inline code]
  interactive := true
  profilePath := some "gone/profile.json"
  reportExit := true
  options := { useSampling := true }

open Program in
/-- A script that throws decides the status of a run that cannot save its profile; a script that
calls `quit` ends the run before it gets there. -/
theorem run_by_phases_failing_save :
    (∃ environment made, ∃ phases : PhaseRun Language.engine,
      phases.Completes 4 (failingSave "throw 'lost'") (failingSaveConfiguration "throw 'lost'")
        environment made (run Language.engine 4 (failingSave "throw 'lost'")) ∧
      phases.success = false ∧ phases.shell = []) ∧
    (run Language.engine 4 (failingSave "throw 'lost'")).stdout =
      "Exception: lost\njsc exiting 3\n" ∧
    (run Language.engine 4 (failingSave "quit()")).Quit Files.empty := by
  -- over all surroundings, since unfolding the two runs here would evaluate them symbolically
  have hphases_of : ∀ (surroundings : Surroundings) (configuration : CommandLine.Configuration),
      (CommandLine.parse (surroundings.arguments.map Utf8.decodeLossy)).toOption =
        some (.run configuration) →
      ((Host.createEnvironment configuration.trailingArguments).run.outcome
        (opening Language.engine surroundings configuration)).1.toOption.any (·.isOk) = true →
      ((phases 4 configuration).outcome
        (opening Language.engine surroundings configuration)).1 ≠ .error .exhausted →
      ∃ environment made,
        ((∀ entry ∈ (run Language.engine 4 surroundings).journal, entry.quits = false) →
          ∃ phases : PhaseRun Language.engine, phases.Completes 4 surroundings configuration
            environment made (run Language.engine 4 surroundings)) ∧
        ((∃ entry ∈ (run Language.engine 4 surroundings).journal, entry.quits = true) →
          (run Language.engine 4 surroundings).Quit surroundings.files) := by
    intro surroundings configuration hparse hplace hbounds
    have hrun := run_by_phases Language.engine 4 surroundings
    cases hrequest : CommandLine.parse (surroundings.arguments.map Utf8.decodeLossy) with
    | error error =>
        rw [hrequest] at hparse
        cases hparse
    | ok request =>
        rw [hrequest] at hparse hrun
        obtain rfl := Option.some.inj hparse
        obtain ⟨result, made, hmade, hrun⟩ := hrun
        rw [Host.Ends] at hmade
        rw [hmade] at hplace
        cases result with
        | error fault => cases hplace
        | ok environment => exact ⟨environment, made, hrun hbounds⟩
  obtain ⟨environment, made, hthrown, -⟩ := hphases_of (failingSave "throw 'lost'")
    (failingSaveConfiguration "throw 'lost'") (by decide +kernel) (by decide +kernel)
    (by decide +kernel)
  obtain ⟨-, -, -, hquit⟩ := hphases_of (failingSave "quit()") (failingSaveConfiguration "quit()")
    (by decide +kernel) (by decide +kernel) (by decide +kernel)
  obtain ⟨phases, hphases⟩ := hthrown (by decide +kernel)
  have hstatus : (run Language.engine 4 (failingSave "throw 'lost'")).status = 3 := by
    decide +kernel
  have hfailed : phases.success = false := by
    rw [hphases.status_eq] at hstatus
    cases hsuccess : phases.success with
    | true => simp [hsuccess] at hstatus
    | false => rfl
  have hshell := hphases.shell_iff
  rw [hfailed, Bool.and_false, if_neg Bool.false_ne_true] at hshell
  exact ⟨⟨environment, made, phases, hphases, hfailed, hshell.2⟩, by decide +kernel,
    hquit (by decide +kernel)⟩

end ScriptShell
