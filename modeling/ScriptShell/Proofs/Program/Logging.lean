import ScriptShell.Language.Interpreter
import ScriptShell.Proofs.Log.Directives
import ScriptShell.Proofs.Program.Phases
import ScriptShell.Proofs.Session.DriverTrace

/-!
# The events of a run

A run announces its steps. The first events are those of the runtime and of the main environment;
each script has its two events, with those of the environments that calls of `run` make between
them; the announcement of a script that cannot be read, or the first event of one that was cut off,
is the last one of the driver; the shell only makes environments; and at the end it may be announced
that the profile was not saved. `EventRun` holds the parts, `EventRun.Talks` and
`EventRun.Announces` say how they hang together. The setting of the log filter plays a part where
the journal is shown and nowhere before, and no phase looks back at what was announced.

## Main results

* `Program.blind_phases`: no phase depends on what is in the history.
* `Program.exists_talks` is about the scripts and the shell, whether or not they are cut off.
* `run_announces` is about whole runs.
-/

namespace ScriptShell

variable {engine : Engine}

/-! ## What the events tell -/

/-- What the events of a run tell of its scripts and its shell. -/
structure EventRun (engine : Engine) where
  /-- The scripts that were executed, each with the paths of the files that calls of `run` could
  read while it was. -/
  runs : List (ScriptRun engine × List String)
  /-- The scripts from the one on that could not be read or was cut off. -/
  others : List Script
  /-- How the scripts ended. -/
  ending : Except Halt Bool
  /-- What the scripts left behind those that were executed. -/
  tail : List Entry
  /-- The events of the tail. -/
  tailEvents : List LogEvent
  /-- What the shell left. -/
  shell : List Entry
  /-- The paths of the files that calls of `run` in the shell could read. -/
  shellPaths : List String

namespace EventRun

/-- What the scripts and the shell left. -/
def entries (trace : EventRun engine) (files : Files) : List Entry :=
  trace.runs.flatMap (fun run => run.1.entries .stdout files) ++ trace.tail ++ trace.shell

/-- The events of the scripts and of the shell. -/
def events (trace : EventRun engine) : List LogEvent :=
  trace.runs.flatMap (fun run => run.1.events run.2) ++ trace.tailEvents ++
    runEvents trace.shellPaths

/-- The event of the driver behind those of the scripts that were executed, if there is one. -/
def lastEvent (ending : Except Halt Bool) : List Script → List LogEvent
  | [] => []
  | script :: _ =>
    match ending with
    | .ok _ => [.abortingRun script.payload (.file script.payload)]
    | .error _ => [.evaluating script.sourceName]

/-- The events of the driver: two for each script that was executed, and at most one more. -/
def driverEvents (trace : EventRun engine) : List LogEvent :=
  trace.runs.flatMap (fun run =>
    [.evaluating run.1.name, .finished run.1.name run.1.outcome.exception.isNone]) ++
    lastEvent trace.ending trace.others

/-- The scripts and the shell behind an environment, from a session on. -/
structure Talks (budget : Nat) (configuration : CommandLine.Configuration) (environment : Realm)
    (session : Session engine) (trace : EventRun engine) : Prop where
  scripts_eq : trace.runs.map (·.1.script) ++ trace.others = configuration.scripts
  batch : ∃ last, Batch budget environment .stdout configuration.dump
    { session with sampler := session.sampler.start } (trace.runs.map Prod.fst) last
  told : ∀ run ∈ trace.runs, Told engine (run.1.evaluation.entries ++ run.1.rendering) run.2
  remains : Remains engine session.files trace.ending trace.others trace.tail trace.tailEvents
  shell_told : Told engine trace.shell trace.shellPaths
  /-- The shell follows only where it was asked for and every script succeeded. -/
  shell_of : trace.shell ≠ [] → trace.ending = .ok true ∧ configuration.interactive = true

/-- Whether an event comes from the driver. -/
def ofDriver (event : LogEvent) : Bool :=
  event.source = .driver

theorem filter_runEvents (paths : List String) : (runEvents paths).filter ofDriver = [] := by
  simp [runEvents, ofDriver, LogEvent.source]

namespace Talks

variable {budget : Nat} {configuration : CommandLine.Configuration} {environment : Realm}
  {session : Session engine} {trace : EventRun engine}

theorem events_entries (h : trace.Talks budget configuration environment session) :
    Entry.events (trace.entries session.files) = trace.events := by
  have hruns : ∀ runs : List (ScriptRun engine × List String),
      (∀ run ∈ runs, Told engine (run.1.evaluation.entries ++ run.1.rendering) run.2) →
      Entry.events (runs.flatMap fun run => run.1.entries .stdout session.files) =
        runs.flatMap fun run => run.1.events run.2 := by
    intro runs htold
    induction runs with
    | nil => rfl
    | cons run rest ih =>
        rw [List.flatMap_cons, List.flatMap_cons, Entry.events_append,
          ScriptRun.events_entries session.files (htold run List.mem_cons_self),
          ih fun other hother => htold other (List.mem_cons_of_mem _ hother)]
  simp only [entries, events, Entry.events_append, hruns trace.runs h.told, h.remains.events_eq,
    h.shell_told.events_eq]

/-- Where the scripts were cut off, and where one could not be read, there is one last event. -/
theorem filter_tailEvents (h : trace.Talks budget configuration environment session) :
    trace.tailEvents.filter ofDriver = lastEvent trace.ending trace.others := by
  have hremains := h.remains
  generalize trace.ending = ending, trace.others = others, trace.tail = tail,
    trace.tailEvents = events at hremains
  cases hremains with
  | done => rfl
  | aborted => rfl
  | @cut _ script _ name _ _ paths hopened _ =>
      have hname : (.evaluating name :: runEvents paths).filter ofDriver =
          .evaluating name :: (runEvents paths).filter ofDriver := rfl
      rw [hname, filter_runEvents, Script.name_of_opened hopened]
      rfl

theorem filter_events (h : trace.Talks budget configuration environment session) :
    trace.events.filter ofDriver = trace.driverEvents := by
  have hrun : ∀ run : ScriptRun engine × List String, (run.1.events run.2).filter ofDriver =
      [.evaluating run.1.name, .finished run.1.name run.1.outcome.exception.isNone] := by
    intro run
    have hsplit : (run.1.events run.2).filter ofDriver = .evaluating run.1.name ::
        (runEvents run.2 ++
          [LogEvent.finished run.1.name run.1.outcome.exception.isNone]).filter ofDriver := rfl
    rw [hsplit, List.filter_append, filter_runEvents]
    rfl
  unfold events driverEvents
  rw [List.filter_append, List.filter_append, filter_runEvents, List.append_nil,
    h.filter_tailEvents, List.filter_flatMap]
  simp only [hrun]

end Talks

end EventRun

/-- Each script of a batch has the paths of the files that calls of `run` could read. -/
theorem Batch.exists_told {budget : Nat} {environment : Realm} {out : Channel} {dump : Bool}
    {session after : Session engine} {runs : List (ScriptRun engine)}
    (h : Batch budget environment out dump session runs after) :
    ∃ told : List (ScriptRun engine × List String), told.map Prod.fst = runs ∧
      ∀ run ∈ told, Told engine (run.1.evaluation.entries ++ run.1.rendering) run.2 := by
  induction h with
  | nil => exact ⟨[], rfl, List.forall_mem_nil _⟩
  | @cons _ _ _ run runs hrun _ ih =>
      obtain ⟨told, hruns, htold⟩ := ih
      obtain ⟨paths, hpaths⟩ := hrun.tale
      exact ⟨(run, paths) :: told, congrArg (run :: ·) hruns,
        List.forall_mem_cons.mpr ⟨hpaths, htold⟩⟩

namespace Program

variable {budget : Nat} {configuration : CommandLine.Configuration} {environment : Realm}

/-! ## The phases -/

theorem blind_saveProfile (path : String) :
    Host.Blind (saveProfile path : Host engine (Except Failure Unit)) := by
  have hsaved : ∀ session : Session engine, ∃ result files, ∃ entries : List Entry, ∀ history,
      Host.Ends (saveProfile path) { session with history } result
        { session with files, history := entries.reverse ++ history } := by
    intro session
    cases hprofile : session.profile with
    | none =>
        exact ⟨.ok (), session.files, [], fun _ => Host.ends_saveProfile.mpr (by simp)⟩
    | some records =>
        cases hwrite : session.files.write path (Bytes.ofString (Profile.render records)) with
        | ok files =>
            exact ⟨.ok (), files, [.fileWritten path none],
              fun _ => Host.ends_saveProfile.mpr (by simp [hwrite, Session.note])⟩
        | error error =>
            exact ⟨.error (.io error), session.files, [.fileWritten path (some error)],
              fun _ => Host.ends_saveProfile.mpr (by simp [hwrite, Session.note])⟩
  intro session
  obtain ⟨result, files, entries, hends⟩ := hsaved session
  have houtcome : (saveProfile path).outcome session = _ := hends session.history
  refine ⟨entries, trivial, fun history => ?_⟩
  rw [houtcome]
  exact hends history

theorem blind_saveProfileTo (path? : Option String) :
    Host.Blind (saveProfileTo path? : Host engine Unit) := by
  cases path? with
  | none => exact .pure ()
  | some path =>
      refine .bind (blind_saveProfile path) fun saved => ?_
      cases saved with
      | ok => exact .pure ()
      | error failure => exact .bind (.note _) fun _ => .note _

theorem blind_dumpSamples : Host.Blind (dumpSamples : Host engine Unit) := by
  refine Host.Tells.get_bind (fun session => ?_) fun _ _ => rfl
  split
  · exact Host.Blind.note _
  · exact Host.Blind.pure ()

theorem blind_closing (success : Bool) :
    Host.Blind (closing configuration success : Host engine Nat) := by
  have hrest : Host.Blind (do
      saveProfileTo configuration.profilePath
      dumpSamples
      return statusOf success : Host engine Nat) :=
    .bind (blind_saveProfileTo _) fun _ => .bind blind_dumpSamples fun _ => .pure _
  unfold closing
  dsimp only
  split
  · exact .bind (.note _) fun _ => hrest
  · exact hrest

theorem blind_talk : Host.Blind (talk budget configuration environment : Host engine Bool) := by
  refine .bind (Host.blind_shell.runScripts _) fun success => ?_
  split
  · exact .bind Host.blind_shell.shell fun _ => .pure _
  · exact .pure _

/-- No phase depends on what is in the history. -/
theorem blind_phases (budget : Nat) (configuration : CommandLine.Configuration) :
    Host.Blind (phases budget configuration : Host engine Nat) := by
  rw [phases_eq]
  refine .bind (Host.blind_shell.createEnvironment _) fun made => ?_
  cases made with
  | ok environment => exact .bind blind_talk fun success => blind_closing success
  | error fault =>
      refine Host.Tells.get_bind (fun session => ?_) fun _ _ => rfl
      exact Host.Blind.bind (.note _) fun _ => .pure _

/-- Whether or not the scripts and the shell are cut off, what they leave has its place. -/
theorem exists_talks (session : Session engine) :
    ∃ trace : EventRun engine, trace.Talks budget configuration environment session ∧
      ((talk budget configuration environment).outcome session).2.journal =
        session.journal ++ trace.entries session.files ∧
      ∀ success, ((talk budget configuration environment).outcome session).1 = .ok success →
        trace.ending = .ok success := by
  rcases hscripts : (Host.runScripts budget environment .stdout configuration.dump
    configuration.scripts : Host engine Bool).outcome session with ⟨ending, after⟩
  have hdriven := @Host.driven_runScripts engine budget environment .stdout configuration.dump
    configuration.scripts session
  rw [hscripts] at hdriven
  obtain ⟨runs, last, others, tail, tailEvents, hall, hbatch, hjournal, hremains⟩ := hdriven
  obtain ⟨told, rfl, htold⟩ := hbatch.exists_told
  have hbatched : last.journal = session.journal ++ (told.map Prod.fst).flatMap _ :=
    hbatch.journal_eq
  -- the shell leaves something exactly where it follows
  have hspoken : ∃ shell shellPaths, Told engine shell shellPaths ∧
      (shell ≠ [] → ending = .ok true ∧ configuration.interactive = true) ∧
      ((talk budget configuration environment).outcome session).2.journal =
        after.journal ++ shell ∧
      ∀ success, ((talk budget configuration environment).outcome session).1 = .ok success →
        ending = .ok success := by
    unfold talk
    cases ending with
    | error halt =>
        rw [Host.outcome_bind, hscripts]
        exact ⟨[], [], .nil, absurd rfl, (List.append_nil _).symm,
          fun _ hsuccess => by cases hsuccess⟩
    | ok success =>
        rw [Host.outcome_bind_of_ends hscripts]
        by_cases hshell : (configuration.interactive && success) = true
        · obtain ⟨shell, ⟨shellPaths, hpaths⟩, hhistory⟩ :=
            (@Host.tale_shell engine budget environment .stdout).history_eq after
          obtain ⟨hinteractive, rfl⟩ := Bool.and_eq_true_iff.mp hshell
          have hjournal : ((Host.shell budget environment .stdout).outcome after).2.journal =
              after.journal ++ shell := by
            simp [Session.journal, hhistory]
          refine ⟨shell, shellPaths, hpaths, fun _ => ⟨rfl, hinteractive⟩, ?_⟩
          rw [if_pos hshell, Host.outcome_bind, ← hjournal]
          rcases (Host.shell budget environment .stdout).outcome after with ⟨_ | _, talked⟩
          · exact ⟨rfl, fun _ hsuccess => by cases hsuccess⟩
          · exact ⟨rfl, fun _ hsuccess => hsuccess⟩
        · rw [if_neg hshell]
          exact ⟨[], [], .nil, absurd rfl, (List.append_nil _).symm, fun _ hsuccess => hsuccess⟩
  obtain ⟨shell, shellPaths, hshell, hfollows, hspoken, hending⟩ := hspoken
  refine ⟨⟨told, others, ending, tail, tailEvents, shell, shellPaths⟩,
    ⟨?_, ⟨last, hbatch⟩, htold, hremains, hshell, hfollows⟩, ?_, hending⟩
  · rw [← hall, List.map_map]
    rfl
  · rw [hspoken, hjournal, hbatched, List.flatMap_map, EventRun.entries]
    simp only [List.append_assoc]

/-- The closing announces nothing, or that the profile was not saved. -/
theorem events_closingEntries (success : Bool) (files : Files) (session : Session engine) :
    Entry.events (closingEntries configuration success files session) = [] ∨
      ∃ path error, configuration.profilePath = some path ∧
        Entry.events (closingEntries configuration success files session) =
          [.profileNotSaved path (.io error)] := by
  have hexit : Entry.events (exitEntries configuration success) = [] := by
    unfold exitEntries
    split <;> rfl
  have hsamples : Entry.events (sampleEntries configuration.options session.sampler) = [] := by
    unfold sampleEntries
    split <;> rfl
  unfold closingEntries
  rw [Entry.events_append, Entry.events_append, hexit, hsamples, List.nil_append, List.append_nil]
  cases hpath : configuration.profilePath with
  | none => exact .inl rfl
  | some path =>
      cases hwrite : files.write path (Bytes.ofString (Profile.render session.profileRecords)) with
      | ok written =>
          simp only [saving, hwrite]
          exact .inl rfl
      | error error =>
          simp only [saving, hwrite]
          exact .inr ⟨path, error, rfl, rfl⟩

end Program

/-- What a run with a configuration announces, from the session with the environment on. -/
structure EventRun.Announces (budget : Nat) (surroundings : Surroundings)
    (configuration : CommandLine.Configuration) (environment : Realm) (made : Session engine)
    (journal closing : List Entry) (trace : EventRun engine) : Prop where
  talks : trace.Talks budget configuration environment made
  journal_eq : journal = Program.listing configuration ++
    [.logged (.runtimeCreated configuration.profilePath.isSome configuration.options.useSampling),
      .realmCreated environment,
      .logged (.environmentCreated configuration.trailingArguments.length)] ++
    trace.entries surroundings.files ++ closing
  closing_of : closing ≠ [] → ∃ success, trace.ending = .ok success
  closing_events : Entry.events closing = [] ∨ ∃ path error,
    configuration.profilePath = some path ∧
      Entry.events closing = [.profileNotSaved path (.io error)]
  events_eq : Entry.events journal =
    .runtimeCreated configuration.profilePath.isSome configuration.options.useSampling ::
      .environmentCreated configuration.trailingArguments.length ::
        (trace.events ++ Entry.events closing)
  driver_eq : (Entry.events journal).filter EventRun.ofDriver = trace.driverEvents

namespace Program

variable {budget : Nat} {surroundings : Surroundings} {configuration : CommandLine.Configuration}
  {environment : Realm} {made : Session engine}

theorem events_listing : Entry.events (listing configuration) = [] := by
  unfold listing
  split <;> rfl

/-- The parts of the journal tell its events. -/
theorem announces_of_journal {trace : EventRun engine} {journal closing : List Entry}
    (hfiles : made.files = surroundings.files)
    (htalks : trace.Talks budget configuration environment made)
    (hjournal : journal = listing configuration ++
      [.logged (.runtimeCreated configuration.profilePath.isSome configuration.options.useSampling),
        .realmCreated environment,
        .logged (.environmentCreated configuration.trailingArguments.length)] ++
      trace.entries surroundings.files ++ closing)
    (hclosing : closing ≠ [] → ∃ success, trace.ending = .ok success)
    (hevents : Entry.events closing = [] ∨ ∃ path error,
      configuration.profilePath = some path ∧
        Entry.events closing = [.profileNotSaved path (.io error)]) :
    trace.Announces budget surroundings configuration environment made journal closing := by
  have hall : Entry.events journal =
      .runtimeCreated configuration.profilePath.isSome configuration.options.useSampling ::
        .environmentCreated configuration.trailingArguments.length ::
          (trace.events ++ Entry.events closing) := by
    rw [hjournal, ← hfiles]
    simp only [Entry.events_append, events_listing, htalks.events_entries, List.nil_append,
      List.append_assoc]
    rfl
  have hlast : (Entry.events closing).filter EventRun.ofDriver = [] := by
    rcases hevents with hnone | ⟨path, error, -, hone⟩
    · rw [hnone]
      rfl
    · rw [hone]
      rfl
  refine ⟨htalks, hjournal, hclosing, hevents, hall, ?_⟩
  have hfirst : (Entry.events journal).filter EventRun.ofDriver =
      (trace.events ++ Entry.events closing).filter EventRun.ofDriver := by
    rw [hall]
    rfl
  rw [hfirst, List.filter_append, hlast, List.append_nil, htalks.filter_events]

/-- Behind the environment of a run, everything that is announced has its place. -/
theorem exists_announces
    (hmade : Host.Ends (Host.createEnvironment configuration.trailingArguments).run
      (opening engine surroundings configuration) (.ok environment) made)
    (hopening : made.journal =
      [.logged (.runtimeCreated configuration.profilePath.isSome configuration.options.useSampling),
        .realmCreated environment,
        .logged (.environmentCreated configuration.trailingArguments.length)]) :
    ∃ (trace : EventRun engine) (closing : List Entry),
      trace.Announces budget surroundings configuration environment made
        (runConfiguration engine budget surroundings configuration).journal closing := by
  obtain ⟨entries, hopened, -⟩ := quiet_opening hmade
  have hfiles : made.files = surroundings.files := hopened.files_eq
  obtain ⟨trace, htalks, htalked, hending⟩ :=
    @exists_talks engine budget configuration environment made
  rw [hopening, hfiles] at htalked
  rcases htalk : (talk budget configuration environment : Host engine Bool).outcome made with
    ⟨halt | success, talked⟩ <;> rw [htalk] at htalked hending
  · have houtcome : (phases budget configuration : Host engine Nat).outcome
        (opening engine surroundings configuration) = (.error halt, talked) := by
      rw [outcome_phases hmade]
      show (talk budget configuration environment >>= closing configuration).outcome made = _
      rw [Host.outcome_bind, htalk]
    refine ⟨trace, [], announces_of_journal hfiles htalks ?_ (absurd rfl) (.inl rfl)⟩
    rw [runConfiguration_eq budget surroundings configuration houtcome, htalked]
    simp only [List.append_assoc, List.append_nil]
  · obtain ⟨gained, -, -, hstays⟩ := stays_talk hopened htalk
    have hclosing := ends_closing success (hstays.profiling_eq.trans opening_profiling)
      hstays.enabled_eq hstays.options_eq
    have houtcome : (phases budget configuration : Host engine Nat).outcome
        (opening engine surroundings configuration) =
          (.ok (statusOf success), closed configuration success talked) := by
      rw [outcome_phases hmade]
      exact Host.ends_bind.mpr ⟨success, talked, htalk, hclosing⟩
    refine ⟨trace, closingEntries configuration success talked.files talked,
      announces_of_journal hfiles htalks ?_ (fun _ => ⟨success, hending success rfl⟩)
        (events_closingEntries _ _ _)⟩
    have hjournal : (closed configuration success talked).journal =
        talked.journal ++ closingEntries configuration success talked.files talked := by
      simp [closed, Session.journal]
    rw [runConfiguration_eq budget surroundings configuration houtcome, hjournal, htalked]
    simp only [List.append_assoc]

end Program

open Program in
/-- The setting of the log filter decides about nothing but the events that standard error shows,
and what it shows of a module are the events of that module among all, where the subscriber keeps to
the documentation of filters. No phase depends on what is
in the history, the events included. A run with a configuration announces the runtime, the
environment, then the scripts one after another, each with its two events and the environments that
calls of `run` make between them, a script that could not be read or that was cut off behind all
others, and the environments of the shell. Only an engine that refuses to make the environment, or
to furnish it, ends the run behind the first event. -/
theorem run_announces (engine : Engine) (budget : Nat) (surroundings : Surroundings)
    {subscriber : LogSubscriber} (hdocumented : subscriber.Documented) :
    let outcome := run engine budget surroundings
    (∀ setting, run engine budget { surroundings with logSetting := setting } = outcome) ∧
    outcome.ShowsEvents subscriber ∧
    (∀ configuration, Host.Blind (phases budget configuration : Host engine Nat)) ∧
    ∀ configuration,
      CommandLine.parse (surroundings.arguments.map Utf8.decodeLossy) = .ok (.run configuration) →
      ∃ result made, Host.Ends (Host.createEnvironment configuration.trailingArguments).run
          (opening engine surroundings configuration) result made ∧
        match result with
        | .error _ => engine.Refuses ∧ Entry.events outcome.journal =
            [.runtimeCreated configuration.profilePath.isSome configuration.options.useSampling]
        | .ok environment => ∃ (trace : EventRun engine) (closing : List Entry),
            trace.Announces budget surroundings configuration environment made outcome.journal
              closing := by
  intro outcome
  refine ⟨fun _ => rfl, outcome.showsEvents hdocumented, blind_phases budget,
    fun configuration hparse => ?_⟩
  have houtcome : outcome = runConfiguration engine budget surroundings configuration := by
    simp only [outcome, run, hparse]
  rw [houtcome]
  obtain ⟨result, made, hmade⟩ := Host.exists_ends_createEnvironment
    (opening engine surroundings configuration) configuration.trailingArguments
  obtain ⟨entries, hmakes, hhistory⟩ :=
    (Host.tells_createEnvironment configuration.trailingArguments).history_eq
      (opening engine surroundings configuration)
  rw [show _ = _ from hmade] at hmakes hhistory
  have hjournal : made.journal = .logged (.runtimeCreated configuration.profilePath.isSome
      configuration.options.useSampling) :: entries := by
    simp [Session.journal, show made.history = _ from hhistory, opening, Session.start]
  refine ⟨result, made, hmade, ?_⟩
  cases result with
  | ok environment =>
      obtain rfl : entries = _ := hmakes
      exact exists_announces hmade hjournal
  | error fault =>
      obtain ⟨hrefuses, hentries⟩ := hmakes
      have hsilent : Entry.events entries = [] := by
        rcases hentries with rfl | ⟨realm, rfl⟩ <;> rfl
      refine ⟨hrefuses, ?_⟩
      rw [runConfiguration_eq budget surroundings configuration (outcome_phases hmade)]
      have hreported : ∀ text, Entry.events (made.note (.wrote .stderr text)).journal =
          Entry.events made.journal := by
        intro text
        have hlast : (made.note (.wrote .stderr text)).journal =
            made.journal ++ [.wrote .stderr text] := by
          simp [Session.journal]
        rw [hlast, Entry.events_append]
        exact List.append_nil _
      rw [Entry.events_append, events_listing, hreported, hjournal]
      exact congrArg (_ :: ·) hsilent

/-- A run of a script that runs a file and then throws, in front of one that is missing. -/
def stumbling : Surroundings where
  arguments := ["first.js", "missing.js", "-e", "1"].map Bytes.ofString
  input := []
  files := (Files.empty.addFile "first.js" (Bytes.ofString "run('part.js'); throw 'lost'")).addFile
    "part.js" (Bytes.ofString "1")
  logSetting := none
  clock := .ticking 0
  usage := "Usage: jsc [options] [files]\n"

/-- The configuration of such a run. -/
def stumblingConfiguration : CommandLine.Configuration where
  scripts := [.file "first.js", .file "missing.js", .inline "1"]

theorem Language.not_refuses_engine : ¬ Language.engine.Refuses := by
  rintro (⟨realm, store, fault, hmake⟩ | ⟨realm, natives, arguments, store, fault, hinstall⟩)
  · cases hmake
  · cases hinstall

open Program in
/-- The file that is run makes an environment of its own, the script that throws is finished, and
the run is aborted at the one that is missing. A filter for the driver shows its events. -/
theorem run_announces_stumbling :
    LogDirective.subscriber.Documented ∧
    (run Language.engine 4 stumbling).ShowsEvents LogDirective.subscriber ∧
    (∃ environment made, ∃ trace : EventRun Language.engine, ∃ closing,
      trace.Announces 4 stumbling stumblingConfiguration environment made
        (run Language.engine 4 stumbling).journal closing) ∧
    Entry.events (run Language.engine 4 stumbling).journal =
      [.runtimeCreated false false, .environmentCreated 0, .evaluating "first.js",
        .environmentCreated 0, .finished "first.js" false,
        .abortingRun "missing.js" (.file "missing.js")] := by
  have hdocumented := LogDirective.documented_subscriber
  -- over all surroundings, since unfolding the run here would evaluate it symbolically
  have hannounces_of : ∀ (surroundings : Surroundings) (configuration : CommandLine.Configuration),
      (CommandLine.parse (surroundings.arguments.map Utf8.decodeLossy)).toOption =
        some (.run configuration) →
      ∃ environment made, ∃ trace : EventRun Language.engine, ∃ closing,
        trace.Announces 4 surroundings configuration environment made
          (run Language.engine 4 surroundings).journal closing := by
    intro surroundings configuration hparse
    have hrequest : CommandLine.parse (surroundings.arguments.map Utf8.decodeLossy) =
        .ok (.run configuration) := by
      rcases hresult : CommandLine.parse (surroundings.arguments.map Utf8.decodeLossy) with
        error | request <;> rw [hresult] at hparse
      · cases hparse
      · exact congrArg _ (Option.some.inj hparse)
    obtain ⟨-, -, -, htrace⟩ := run_announces Language.engine 4 surroundings hdocumented
    obtain ⟨result, made, -, htrace⟩ := htrace configuration hrequest
    cases result with
    | error fault => exact absurd htrace.1 Language.not_refuses_engine
    | ok environment => exact ⟨environment, made, htrace⟩
  obtain ⟨-, hshows, -⟩ := run_announces Language.engine 4 stumbling hdocumented
  exact ⟨hdocumented, hshows, hannounces_of stumbling stumblingConfiguration (by decide +kernel),
    by decide +kernel⟩

end ScriptShell
