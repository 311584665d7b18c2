import ScriptShell.Proofs.CommandLine.Grammar
import ScriptShell.Proofs.Program.Phases
import ScriptShell.Proofs.Session.Replies

/-!
# A run with and without profiling

Two command lines that differ in `-p` alone ask for the same, but for the path of the profile. The
phases up to the shell are not aware of the profile, and so come to the same in both runs. What the
closing does with the profile shows in one line at most, about a profile that could not be saved.

The clock is looked at equally often in both runs, with the same readings. So nothing has to be
assumed of the scripts: even one that asks for the time is told the same.

## Main results

* `CommandLine.parse_withoutProfile` is about the two command lines.
* `Program.phases_alike` is about the sessions of the two runs.
* `profiling_transparent` is about whole runs, and about all steps of a session.
-/

namespace ScriptShell

variable {engine : Engine}

/-! ## Command lines without a profile -/

namespace CommandLine

/-- The segments that do not ask for a profile. -/
def withoutProfile (segments : List Segment) : List Segment :=
  segments.filter fun segment => segment.profile?.isNone

/-- The configuration without a path for the profile. -/
def Configuration.unprofiled (configuration : Configuration) : Configuration :=
  { configuration with profilePath := none }

/-- The request without a path for the profile. -/
def Request.unprofiled : Request → Request
  | .run configuration => .run configuration.unprofiled
  | .help => .help
  | .listOptions options => .listOptions options

theorem unprofiled_apply (configuration : Configuration) (segment : Segment) :
    (configuration.apply segment).unprofiled =
      if segment.profile?.isNone then configuration.unprofiled.apply segment
      else configuration.unprofiled := by
  cases segment <;> rfl

theorem foldl_apply_withoutProfile (configuration : Configuration) (segments : List Segment) :
    (withoutProfile segments).foldl Configuration.apply configuration.unprofiled =
      (segments.foldl Configuration.apply configuration).unprofiled := by
  induction segments generalizing configuration with
  | nil => rfl
  | cons segment rest ih =>
      have happly := unprofiled_apply configuration segment
      rw [withoutProfile, List.filter_cons, List.foldl_cons]
      by_cases hprofile : segment.profile?.isNone
      · rw [if_pos hprofile] at happly ⊢
        rw [List.foldl_cons, ← happly]
        exact ih _
      · rw [if_neg hprofile] at happly ⊢
        rw [← happly]
        exact ih _

theorem ofSegments_withoutProfile (segments : List Segment) (trailing : List String) :
    Configuration.ofSegments (withoutProfile segments) trailing =
      (Configuration.ofSegments segments trailing).unprofiled := by
  have hfold : (withoutProfile segments).foldl Configuration.apply {} =
      (segments.foldl Configuration.apply {}).unprofiled :=
    foldl_apply_withoutProfile {} segments
  unfold Configuration.ofSegments
  rw [hfold]
  rfl

theorem request_withoutProfile (segments : List Segment) (trailing : List String) :
    Request.ofSegments (withoutProfile segments) trailing =
      (Request.ofSegments segments trailing).unprofiled := by
  have hlisting : (withoutProfile segments).contains .listOptions =
      segments.contains .listOptions := by
    rw [Bool.eq_iff_iff, List.contains_iff_mem, List.contains_iff_mem]
    simp [withoutProfile, Segment.profile?]
  unfold Request.ofSegments
  rw [hlisting, ofSegments_withoutProfile]
  by_cases hlists : segments.contains .listOptions
  · rw [if_pos hlists, if_pos hlists]
    rfl
  · rw [if_neg hlists, if_neg hlists]
    rfl

/-- Command lines that differ in `-p` alone ask for the same, but for the path of the profile. -/
theorem parse_withoutProfile {arguments plainArguments : List String} {segments : List Segment}
    {ending : Ending} (hprofiled : Decomposes arguments segments ending)
    (hplain : Decomposes plainArguments (withoutProfile segments) ending) :
    parse plainArguments = (parse arguments).map Request.unprofiled := by
  unfold parse
  rw [split_eq_of_decomposes hprofiled, split_eq_of_decomposes hplain]
  cases ending with
  | complete => exact congrArg Except.ok (request_withoutProfile segments [])
  | trailing rest => exact congrArg Except.ok (request_withoutProfile segments rest)
  | help word unread => rfl
  | missing flag => rfl

end CommandLine

/-! ## Journals -/

/-- What is written on standard error of a profile that could not be saved. -/
def unsavedLine : String :=
  "could not save profiler output.\n"

/-- Besides the profile, entries are those of a plain run; one more may tell that the profile could
not be saved. -/
def PlainBut (profiled plain : List Entry) : Prop :=
  ∃ before lines behind, Entry.besidesProfile plain = before ++ behind ∧
    Entry.besidesProfile profiled = before ++ lines ++ behind ∧
    (lines = [] ∨ lines = [.wrote .stderr unsavedLine])

theorem Entry.written_besidesProfile (channel : Channel) (entries : List Entry) :
    written channel (besidesProfile entries) = written channel entries := by
  unfold written besidesProfile
  rw [List.filterMap_filter]
  congr 1
  refine List.filterMap_congr fun entry _ => ?_
  cases entry with
  | logged event => cases event <;> rfl
  | _ => rfl

theorem Session.besidesProfile_journal {session other : Session engine}
    (hcore : other.core = session.core) :
    Entry.besidesProfile other.journal = Entry.besidesProfile session.journal := by
  have hhistory := (Session.core_eq_iff.mp hcore).2
  unfold Entry.besidesProfile at hhistory ⊢
  rw [Session.journal, Session.journal, List.filter_reverse, List.filter_reverse, hhistory]

theorem Session.sampler_eq_of_bare {session other : Session engine}
    (hbare : other.bare = session.bare) : other.sampler = session.sampler := by
  have hpart := congrArg Session.sampler hbare
  exact hpart

namespace PlainBut

variable {profiled plain : List Entry}

theorem of_eq (heq : Entry.besidesProfile profiled = Entry.besidesProfile plain) :
    PlainBut profiled plain :=
  ⟨Entry.besidesProfile plain, [], [], by simp, by simp [heq], .inl rfl⟩

/-- Behind what is the same besides the profile. -/
theorem after {first second : List Entry} (hplain : PlainBut profiled plain)
    (hsame : Entry.besidesProfile first = Entry.besidesProfile second) :
    PlainBut (first ++ profiled) (second ++ plain) := by
  obtain ⟨before, lines, behind, hbefore, hlines, hcases⟩ := hplain
  refine ⟨Entry.besidesProfile second ++ before, lines, behind, ?_, ?_, hcases⟩
  · rw [Entry.besidesProfile_append, hbefore, List.append_assoc]
  · rw [Entry.besidesProfile_append, hlines, hsame, List.append_assoc, List.append_assoc,
      List.append_assoc]

/-- On standard error there is one line more at most. -/
theorem written_stderr (hplain : PlainBut profiled plain) : ∃ before line behind,
    Entry.written .stderr plain = before ++ behind ∧
    Entry.written .stderr profiled = before ++ line ++ behind ∧
    (line = "" ∨ line = unsavedLine) := by
  obtain ⟨before, lines, behind, hbefore, hlines, hcases⟩ := hplain
  refine ⟨Entry.written .stderr before, Entry.written .stderr lines, Entry.written .stderr behind,
    ?_, ?_, ?_⟩
  · rw [← Entry.written_besidesProfile, hbefore, written_append]
  · rw [← Entry.written_besidesProfile, hlines, written_append, written_append]
  · rcases hcases with rfl | rfl
    · exact .inl rfl
    · exact .inr (by simp [Entry.written])

/-- Everywhere else the same is written. -/
theorem written_eq (hplain : PlainBut profiled plain) {channel : Channel}
    (hchannel : channel ≠ .stderr) :
    Entry.written channel profiled = Entry.written channel plain := by
  obtain ⟨before, lines, behind, hbefore, hlines, hcases⟩ := hplain
  have hsilent : Entry.written channel lines = "" := by
    rcases hcases with rfl | rfl
    · rfl
    · simp [Entry.written, hchannel.symm]
  calc Entry.written channel profiled
      = Entry.written channel (before ++ lines ++ behind) := by
        rw [← hlines, Entry.written_besidesProfile]
    _ = Entry.written channel (before ++ behind) := by
        rw [written_append, written_append, hsilent, String.append_empty, written_append]
    _ = Entry.written channel plain := by rw [← hbefore, Entry.written_besidesProfile]

end PlainBut

/-! ## The phases -/

namespace Program

section Phases

variable {budget : Nat} {configuration : CommandLine.Configuration} {environment : Realm}
  {session other : Session engine}

/-- The phases that scripts can cut off: the environment, the scripts and the shell. There is no
success to tell of where the environment could not be made. -/
def speak (budget : Nat) (configuration : CommandLine.Configuration) :
    Host engine (Option Bool) := do
  match ← (Host.createEnvironment configuration.trailingArguments).run with
  | .error fault =>
    let text := engine.faultText fault (← get).store
    Host.write .stderr ((Failure.engine text).message ++ "\n")
    return none
  | .ok environment => some <$> talk budget configuration environment

/-- What is left to do then. -/
def conclude (configuration : CommandLine.Configuration) : Option Bool → Host engine Nat
  | none => return failureStatus
  | some success => closing configuration success

theorem phases_eq_speak : (phases budget configuration : Host engine Nat) =
    speak budget configuration >>= conclude configuration := by
  rw [phases_eq]
  unfold speak
  rw [bind_assoc]
  refine bind_congr fun made => ?_
  cases made with
  | error fault => rfl
  | ok environment =>
      dsimp only
      rw [map_eq_pure_bind, bind_assoc]
      exact bind_congr fun success => by rw [pure_bind]; rfl

theorem unaware_talk :
    Host.Unaware (talk budget configuration environment : Host engine Bool) := by
  refine (Host.unaware_runScripts _).bind fun success => ?_
  by_cases hshell : (configuration.interactive && success) = true
  · rw [if_pos hshell]
    exact Host.unaware_reports.shell.bind fun _ => .pure _
  · rw [if_neg hshell]
    exact .pure _

/-- Up to the closing, a run is not aware of the profile. -/
theorem unaware_speak : Host.Unaware (speak budget configuration : Host engine (Option Bool)) := by
  refine (Host.unaware_createEnvironment _).bind fun made => ?_
  cases made with
  | error fault =>
      exact .get_bind (fun _ => (Host.unaware_note _).bind fun _ => .pure _) fun _ => rfl
  | ok environment => exact unaware_talk.map _

theorem keeps_speak : Host.Keeps (speak budget configuration : Host engine (Option Bool)) := by
  refine (Host.keeps_createEnvironment _).bind fun made => ?_
  cases made with
  | error fault =>
      exact .get_bind fun _ => (Host.Keeps.note rfl rfl rfl).bind fun _ => .pure _
  | ok environment =>
      show Host.Keeps (some <$> talk budget configuration environment)
      rw [map_eq_pure_bind]
      exact keeps_talk.bind fun _ => .pure _

/-- Of saving the records, one line at most is seen besides the profile. -/
theorem besidesProfile_saving (path? : Option String) (records : List ProfileRecord)
    (files : Files) :
    Entry.besidesProfile (saving path? records files).1 = [] ∨
      Entry.besidesProfile (saving path? records files).1 = [.wrote .stderr unsavedLine] := by
  cases path? with
  | none => exact .inl rfl
  | some path =>
      cases hwrite : files.write path (Bytes.ofString (Profile.render records)) with
      | ok written =>
          left
          simp only [saving, hwrite]
          rfl
      | error error =>
          right
          simp only [saving, hwrite]
          rfl

/-- The closings of two runs that differ in the profile. -/
theorem plainBut_closingEntries {success : Bool} {files others : Files}
    (hsampler : other.sampler = session.sampler) :
    PlainBut (closingEntries configuration success files other)
      (closingEntries configuration.unprofiled success others session) := by
  refine ⟨Entry.besidesProfile (exitEntries configuration success),
    Entry.besidesProfile (saving configuration.profilePath other.profileRecords files).1,
    Entry.besidesProfile (sampleEntries configuration.options session.sampler), ?_, ?_,
    besidesProfile_saving _ _ _⟩
  · unfold closingEntries
    rw [Entry.besidesProfile_append, Entry.besidesProfile_append]
    show _ ++ [] ++ _ = _
    rw [List.append_nil]
    rfl
  · unfold closingEntries
    rw [Entry.besidesProfile_append, Entry.besidesProfile_append, hsampler]

/-- Closing keeps two sessions apart in the profile alone. -/
theorem closed_alike (success : Bool) (hcore : other.core = session.core) :
    (closed configuration success other).bare =
        (closed configuration.unprofiled success session).bare ∧
      PlainBut (closed configuration success other).journal
        (closed configuration.unprofiled success session).journal := by
  have hbare := (Session.core_eq_iff.mp hcore).1
  have hkept : ∀ (configuration : CommandLine.Configuration) (session : Session engine),
      (closed configuration success session).bare = session.bare := by
    intro configuration session
    unfold closed Session.noteAll Session.bare
    rfl
  have hjournal : ∀ (configuration : CommandLine.Configuration) (session : Session engine),
      (closed configuration success session).journal =
        session.journal ++ closingEntries configuration success session.files session := by
    intro configuration session
    simp [closed, Session.journal]
  refine ⟨by rw [hkept, hkept, hbare], ?_⟩
  rw [hjournal, hjournal]
  have hsampler := Session.sampler_eq_of_bare hbare
  exact (plainBut_closingEntries hsampler).after (Session.besidesProfile_journal hcore)

/-- What the phases come to behind the opening, where nothing cuts them off. -/
theorem outcome_phases_of_speak {surroundings : Surroundings} {spoken : Option Bool}
    {talked : Session engine} (hspeak : Host.Ends (speak budget configuration)
      (opening engine surroundings configuration) spoken talked) :
    (phases budget configuration : Host engine Nat).outcome
      (opening engine surroundings configuration) =
        match spoken with
        | none => (.ok failureStatus, talked)
        | some success => (.ok (statusOf success), closed configuration success talked) := by
  rw [phases_eq_speak, Host.outcome_bind_of_ends hspeak]
  cases spoken with
  | none => rfl
  | some success =>
      obtain ⟨entries, hstays, -⟩ := @keeps_speak engine budget configuration
        (opening engine surroundings configuration)
      rw [show (speak budget configuration).outcome (opening engine surroundings configuration) =
        (.ok (some success), talked) from hspeak] at hstays
      exact ends_closing success (hstays.profiling_eq.trans opening_profiling) hstays.enabled_eq
        hstays.options_eq

/-- The phases of a run with a profile and of one without come to the same. The sessions that they
end in are the same but for the profile, the files and the history, where there may be a line more
about the profile. -/
theorem phases_alike (engine : Engine) (budget : Nat) (surroundings : Surroundings)
    (configuration : CommandLine.Configuration) :
    let profiled := (phases budget configuration : Host engine Nat).outcome
      (opening engine surroundings configuration)
    let plain := (phases budget configuration.unprofiled : Host engine Nat).outcome
      (opening engine surroundings configuration.unprofiled)
    profiled.1 = plain.1 ∧ profiled.2.bare = plain.2.bare ∧
      PlainBut profiled.2.journal plain.2.journal := by
  intro profiled plain
  -- up to the closing both runs do the same, in sessions with the same core
  obtain ⟨⟨hspoken, hcore⟩, -⟩ := (@unaware_speak engine budget configuration).alike
    (show (opening engine surroundings configuration).core =
      (opening engine surroundings configuration.unprofiled).core from rfl) rfl
  rcases hfirst : (speak budget configuration.unprofiled : Host engine (Option Bool)).outcome
    (opening engine surroundings configuration.unprofiled) with ⟨ending, talkedPlain⟩
  rcases hsecond : (speak budget configuration : Host engine (Option Bool)).outcome
    (opening engine surroundings configuration) with ⟨endingOther, talked⟩
  have hplainSpeak : (speak budget configuration : Host engine (Option Bool)).outcome
      (opening engine surroundings configuration.unprofiled) = (ending, talkedPlain) := hfirst
  rw [hplainSpeak, hsecond] at hspoken hcore
  obtain rfl : endingOther = ending := hspoken
  have hbare := (Session.core_eq_iff.mp hcore).1
  have hentries := Session.besidesProfile_journal hcore
  cases endingOther with
  | error halt =>
      have hprofiled : profiled = (.error halt, talked) := by
        show (phases budget configuration).outcome _ = _
        rw [phases_eq_speak, Host.outcome_bind, hsecond]
      have hplain : plain = (.error halt, talkedPlain) := by
        show (phases budget configuration.unprofiled).outcome _ = _
        rw [phases_eq_speak, Host.outcome_bind, hfirst]
      rw [hprofiled, hplain]
      exact ⟨rfl, hbare, .of_eq hentries⟩
  | ok spoken =>
      have hprofiled := outcome_phases_of_speak hsecond
      have hplain := outcome_phases_of_speak hfirst
      cases spoken with
      | none =>
          rw [show profiled = (.ok failureStatus, talked) from hprofiled,
            show plain = (.ok failureStatus, talkedPlain) from hplain]
          exact ⟨rfl, hbare, .of_eq hentries⟩
      | some success =>
          rw [show profiled = (.ok (statusOf success), closed configuration success talked) from
              hprofiled,
            show plain = (.ok (statusOf success),
              closed configuration.unprofiled success talkedPlain) from hplain]
          obtain ⟨hclosed, hjournal⟩ := closed_alike success hcore
          exact ⟨rfl, hclosed, hjournal⟩

end Phases

end Program

/-! ## Whole runs -/

/-- A run with a profile is the plain run, but for the profile and for one line about it. -/
structure Outcome.RunsAsPlain (profiled plain : Outcome) : Prop where
  status_eq : profiled.status = plain.status
  stdout_eq : profiled.stdout = plain.stdout
  stderr_eq : ∃ before line behind, Entry.written .stderr plain.journal = before ++ behind ∧
    Entry.written .stderr profiled.journal = before ++ line ++ behind ∧
    (line = "" ∨ line = unsavedLine)
  sampler_eq : profiled.sampler = plain.sampler
  journal_eq : PlainBut profiled.journal plain.journal

theorem Outcome.RunsAsPlain.of_journal {profiled plain : Outcome}
    (hstatus : profiled.status = plain.status) (hsampler : profiled.sampler = plain.sampler)
    (hjournal : PlainBut profiled.journal plain.journal) : profiled.RunsAsPlain plain where
  status_eq := hstatus
  stdout_eq := hjournal.written_eq nofun
  stderr_eq := hjournal.written_stderr
  sampler_eq := hsampler
  journal_eq := hjournal

namespace Program

theorem runConfiguration_runsAsPlain (engine : Engine) (budget : Nat) (surroundings : Surroundings)
    (configuration : CommandLine.Configuration) :
    (runConfiguration engine budget surroundings configuration).RunsAsPlain
      (runConfiguration engine budget surroundings configuration.unprofiled) := by
  obtain ⟨hending, hbare, hjournal⟩ := phases_alike engine budget surroundings configuration
  rcases hprofiled : (phases budget configuration : Host engine Nat).outcome
    (opening engine surroundings configuration) with ⟨ending, session⟩
  rcases hplain : (phases budget configuration.unprofiled : Host engine Nat).outcome
    (opening engine surroundings configuration.unprofiled) with ⟨endingPlain, sessionPlain⟩
  rw [hprofiled, hplain] at hending hbare hjournal
  obtain rfl : ending = endingPlain := hending
  rw [runConfiguration_eq budget surroundings configuration hprofiled,
    runConfiguration_eq budget surroundings configuration.unprofiled hplain]
  exact .of_journal rfl (Session.sampler_eq_of_bare hbare) (hjournal.after rfl)

theorem run_runsAsPlain (engine : Engine) (budget : Nat) (surroundings : Surroundings)
    {arguments : List Bytes} {segments : List CommandLine.Segment} {ending : CommandLine.Ending}
    (hprofiled : CommandLine.Decomposes (surroundings.arguments.map Utf8.decodeLossy) segments
      ending)
    (hplain : CommandLine.Decomposes (arguments.map Utf8.decodeLossy)
      (CommandLine.withoutProfile segments) ending) :
    (run engine budget surroundings).RunsAsPlain
      (run engine budget { surroundings with arguments := arguments }) := by
  have hparse := CommandLine.parse_withoutProfile hprofiled hplain
  have hsame : ∀ outcome : Outcome, outcome.RunsAsPlain outcome :=
    fun _ => .of_journal rfl rfl (.of_eq rfl)
  unfold run
  dsimp only
  rw [hparse]
  cases CommandLine.parse (surroundings.arguments.map Utf8.decodeLossy) with
  | error error => exact hsame _
  | ok request =>
      cases request with
      | help => exact hsame _
      | listOptions options => exact hsame _
      | run configuration =>
          exact runConfiguration_runsAsPlain engine budget surroundings configuration

end Program

open Program in
/-- Two runs whose command lines differ in `-p` alone end with the same status and the same samples,
write the same on standard output, and on standard error the same but for one line about a profile
that could not be saved. Their journals have the same evaluations, jobs and calls in the same order,
and the sessions that they end in are the same in everything else: store, jobs, frames and flags.

Two new sessions of which one is profiling are, after any steps, equal once the profile is erased,
and tell the same of each step, times aside. A profile that is saved on the way is a file more; then
this holds as long as no file is read that is another one by that. -/
theorem profiling_transparent (engine : Engine) (budget : Nat) :
    (∀ (surroundings : Surroundings) (arguments : List Bytes)
      (segments : List CommandLine.Segment) (ending : CommandLine.Ending),
      CommandLine.Decomposes (surroundings.arguments.map Utf8.decodeLossy) segments ending →
      CommandLine.Decomposes (arguments.map Utf8.decodeLossy)
        (CommandLine.withoutProfile segments) ending →
      (run engine budget surroundings).RunsAsPlain
        (run engine budget { surroundings with arguments := arguments })) ∧
    (∀ (surroundings : Surroundings) (configuration : CommandLine.Configuration),
      let profiled := (phases budget configuration : Host engine Nat).outcome
        (opening engine surroundings configuration)
      let plain := (phases budget configuration.unprofiled : Host engine Nat).outcome
        (opening engine surroundings configuration.unprofiled)
      profiled.1 = plain.1 ∧ profiled.2.bare = plain.2.bare) ∧
    ∀ (options : Options) (input : Bytes) (files : Files) (clock : Clock)
      (steps : List (SessionStep engine)),
      let profiled := (SessionStep.replyAll budget steps).outcome
        (Session.start engine options true input files clock)
      let plain := (SessionStep.replyAll budget steps).outcome
        (Session.start engine options false input files clock)
      ((∀ step ∈ steps, step.saves = false) →
        profiled.1 = plain.1 ∧ profiled.2.unprofiled = plain.2.unprofiled) ∧
      (SavedUnread budget steps (Session.start engine options false input files clock)
          (Session.start engine options true input files clock) →
        profiled.1 = plain.1 ∧ profiled.2.core = plain.2.core) := by
  refine ⟨fun surroundings arguments segments ending hprofiled hplain => ?_,
    fun surroundings configuration => ?_, fun options input files clock steps => ?_⟩
  · exact run_runsAsPlain engine budget surroundings hprofiled hplain
  · obtain ⟨hending, hbare, -⟩ := phases_alike engine budget surroundings configuration
    exact ⟨hending, hbare⟩
  · exact sessions_alike budget options input files clock steps

/-- A script in code, the profile saved, and a script in a file. -/
def savingSteps : List (SessionStep Language.engine) :=
  [.operate (.createEnvironment []),
    .operate (.runScripts 1 .stdout false [.inline "throw 'lost'"]),
    .operate (.saveProfile "kept.json"),
    .operate (.runScripts 1 .stdout true [.file "twice.js"])]

/-- The files of such a session. -/
def savingFiles : Files :=
  Files.empty.addFile "twice.js" (Bytes.ofString "2 * 2")

open Program in
/-- A profile that cannot be saved makes one line on standard error. In a session, the profile is
saved between two scripts. -/
theorem profiling_transparent_failing_save :
    (run Language.engine 4 (failingSave "throw 'lost'")).RunsAsPlain
      (run Language.engine 4 { failingSave "throw 'lost'" with
        arguments :=
          ["-x", "--useSampling=true", "-i", "-e", "throw 'lost'"].map Bytes.ofString }) ∧
    (run Language.engine 4 (failingSave "throw 'lost'")).stdout =
      "Exception: lost\njsc exiting 3\n" ∧
    ((SessionStep.replyAll 4 savingSteps).outcome
      (Session.start Language.engine {} true [] savingFiles (.ticking 0))).2.core =
        ((SessionStep.replyAll 4 savingSteps).outcome
          (Session.start Language.engine {} false [] savingFiles (.ticking 0))).2.core ∧
    ((SessionStep.replyAll 4 (savingSteps.take 2)).outcome
      (Session.start Language.engine {} true [] savingFiles (.ticking 0))).2.unprofiled =
        ((SessionStep.replyAll 4 (savingSteps.take 2)).outcome
          (Session.start Language.engine {} false [] savingFiles (.ticking 0))).2.unprofiled := by
  have hprofiled : CommandLine.Decomposes
      ((failingSave "throw 'lost'").arguments.map Utf8.decodeLossy)
      [.reportExit, .profile "gone/profile.json", .assignment "useSampling=true", .interactive,
        .inline "throw 'lost'"] .complete := by
    refine ⟨?_, trivial, by decide +kernel⟩
    simp only [List.forall_mem_cons, CommandLine.Segment.WellFormed, true_and]
    exact ⟨by decide, List.forall_mem_nil _⟩
  have hplain : CommandLine.Decomposes
      ((["-x", "--useSampling=true", "-i", "-e", "throw 'lost'"].map Bytes.ofString).map
        Utf8.decodeLossy)
      [.reportExit, .assignment "useSampling=true", .interactive, .inline "throw 'lost'"]
      .complete := by
    refine ⟨?_, trivial, by decide +kernel⟩
    simp only [List.forall_mem_cons, CommandLine.Segment.WellFormed, true_and]
    exact ⟨by decide, List.forall_mem_nil _⟩
  obtain ⟨hruns, -, hsessions⟩ := profiling_transparent Language.engine 4
  obtain ⟨-, hsaved⟩ := hsessions {} [] savingFiles (.ticking 0) savingSteps
  obtain ⟨hunsaved, -⟩ := hsessions {} [] savingFiles (.ticking 0) (savingSteps.take 2)
  obtain ⟨-, hcore⟩ := hsaved (by decide +kernel)
  obtain ⟨-, herased⟩ := hunsaved (by decide)
  exact ⟨hruns _ _ _ _ hprofiled hplain, by decide +kernel, hcore, herased⟩

end ScriptShell
