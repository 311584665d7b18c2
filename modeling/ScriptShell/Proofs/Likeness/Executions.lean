import ScriptShell.Proofs.Likeness.ThroughLoad
import ScriptShell.Proofs.Session.Batch

/-!
# Executing a file, and an inline script that loads it

The shell reads and evaluates a file, or it evaluates an inline script that loads the file. Around
the evaluations it does the same, under two names. So what both executions have in common comes from
their evaluations: `ScriptRun.Agrees` says how the executions stand to each other, and
`Likeness.LeftAlike` what is left of them. Both are shown here for an engine that gives up where it
is to stop.
-/

namespace ScriptShell

variable {engine : Engine}

/-! ## What is written -/

/-- What an entry writes comes before what the next ones write. -/
theorem written_cons (channel : Channel) (entry : Entry) (entries : List Entry) :
    Entry.written channel (entry :: entries) =
      Entry.written channel [entry] ++ Entry.written channel entries := by
  rw [← written_append, List.singleton_append]

/-- Whether an entry is a call of a native that shows frames. -/
def Entry.showsFrames : Entry → Bool
  | .called .stackTrace _ | .called .dumpCallFrame _ => true
  | _ => false

/-- Natives show frames on standard error. -/
theorem Native.written_shows {channel : Channel} (hchannel : channel ≠ .stderr) (native : Native)
    (frames : List String) : Entry.written channel (native.shows frames) = "" := by
  have hnone (text : String) : Entry.written channel [.wrote .stderr text] = "" := by
    simp [Entry.written, Ne.symm hchannel]
  cases native with
  | stackTrace => exact hnone _
  | dumpCallFrame =>
      cases frames with
      | nil => rfl
      | cons frame frames => exact hnone _
  | _ => rfl

/-- Where no frames are shown, mirrored entries wrote the same, and nothing is shown elsewhere than
on standard error. -/
theorem Entry.Mirrors.written_eq {timed : Prop} {frames others : List String}
    {entries copies : List Entry} {channel : Channel}
    (h : Entry.Mirrors timed frames others entries copies)
    (hplain : channel = .stderr → ∀ entry ∈ entries, entry.showsFrames = false) :
    Entry.written channel copies = Entry.written channel entries := by
  induction h with
  | nil => rfl
  | @same entries copies entry _ ih =>
      rw [written_cons channel entry copies, written_cons channel entry entries,
        ih fun hchannel other hother => hplain hchannel other (List.mem_cons_of_mem _ hother)]
  | @recorded entries copies record copy _ _ ih =>
      rw [written_cons channel (.recorded copy), written_cons channel (.recorded record),
        ih fun hchannel other hother => hplain hchannel other (List.mem_cons_of_mem _ hother)]
      rfl
  | @called entries copies native inner _ ih =>
      have hshows (frames : List String) : Entry.written channel (native.shows frames) = "" := by
        by_cases hchannel : channel = .stderr
        · have hcalled := hplain hchannel _ List.mem_cons_self
          rw [Native.shows_eq_nil (by rintro rfl; cases hcalled) (by rintro rfl; cases hcalled)]
          rfl
        · exact native.written_shows hchannel frames
      have hrest := ih fun hchannel other hother => hplain hchannel other
        (List.mem_cons_of_mem _ (List.mem_append_right _ hother))
      rw [written_cons, written_append, hshows, hrest,
        written_cons channel (.called _ _) (_ ++ entries), written_append, hshows]
      rfl

/-- An evaluation writes what its parts write. -/
theorem Evaluation.written_entries (channel : Channel) (evaluation : Evaluation) :
    Entry.written channel evaluation.entries = Entry.written channel evaluation.script ++
      Entry.written channel evaluation.jobs ++ Entry.written channel evaluation.report := by
  have hrecorded : Entry.written channel (evaluation.record.map Entry.recorded).toList = "" := by
    cases evaluation.record <;> rfl
  have hentered : Entry.written channel [.entered evaluation.name] = "" := rfl
  have hleft : Entry.written channel [.left evaluation.name] = "" := rfl
  rw [entries, closing, written_cons, written_append, written_append, written_append,
    written_append, hrecorded, hentered, hleft]
  simp

/-- An inline script that loads a file writes what the file writes. -/
theorem Evaluation.Loads.written_eq {path : String} {file inline : Evaluation} {channel : Channel}
    (h : file.Loads path inline)
    (hplain : channel = .stderr → ∀ entry ∈ file.entries, entry.showsFrames = false) :
    Entry.written channel inline.entries = Entry.written channel file.entries := by
  obtain ⟨loaded, hscript, hloaded⟩ := h.script
  have hran := hloaded.script.written_eq fun hchannel entry hentry => hplain hchannel entry (by
    simp [entries, hentry])
  have hjobs := h.jobs.written_eq fun hchannel entry hentry => hplain hchannel entry (by
    simp [entries, hentry])
  have hinner : Entry.written channel loaded.entries = Entry.written channel file.script := by
    rw [written_entries, hloaded.jobs_eq, hloaded.report_eq, hran]
    simp [Entry.written]
  have hinline : Entry.written channel inline.script = Entry.written channel file.script := by
    rw [hscript, written_cons, written_cons channel (.fileRead path true), hinner]
    simp [Entry.written]
  rw [written_entries, written_entries, hinline, hjobs, h.report_eq.1, h.report_eq.2]

namespace ScriptRun

/-- A script writes what its evaluation and its report write. -/
theorem written_entries (channel out : Channel) (files : Files) (run : ScriptRun engine) :
    Entry.written channel (run.entries out files) =
      Entry.written channel run.evaluation.entries ++ Entry.written channel run.rendering ++
        Entry.written channel (run.text.map (Entry.wrote out)).toList := by
  have hreads : Entry.written channel (run.script.reads files) = "" := by
    cases run.script <;> rfl
  have hevaluating : Entry.written channel [.logged (.evaluating run.name)] = "" := rfl
  have hfinished : Entry.written channel
      [.logged (.finished run.name run.outcome.exception.isNone)] = "" := rfl
  rw [entries, written_append, written_append, written_append, written_append, written_append,
    hreads, hevaluating, hfinished]
  simp

end ScriptRun

/-! ## What both executions have in common -/

/-- The sampler behind a window on a script. -/
def Sampler.behindWindow (sampler : Sampler) (name : String) (opening closing : Nat)
    (flags : SamplingFlags) : Sampler :=
  (sampler.openWindow name opening).2.closeWindow (sampler.openWindow name opening).1 closing flags

/-- What executing a file has in common with executing an inline script that loads it: both succeed
and complete with the same, which is reported alike, after the same entries but for frames and for
how long evaluations took, and the same is written. -/
structure ScriptRun.Agrees (file inlined : ScriptRun engine)
    (same : engine.Value → engine.Value → Prop) (out : Channel) (files : Files) (path : String) :
    Prop where
  completed : ∃ value own, file.outcome = .completed value ∧ inlined.outcome = .completed own ∧
    same value own
  succeeded : file.execution.succeeded = true ∧ inlined.execution.succeeded = true
  loads : file.evaluation.Loads path inlined.evaluation
  text_eq : inlined.text = file.text
  rendering : Entry.Mirrors False [] [] file.rendering inlined.rendering
  /-- Only frames are shown otherwise, which is done on standard error. -/
  written_eq : ∀ channel,
    (channel = .stderr → ∀ entry ∈ file.entries out files, entry.showsFrames = false) →
      Entry.written channel (inlined.entries out files) =
        Entry.written channel (file.entries out files)

/-- What is left behind an execution of a file and one of an inline script that loads it: both
sessions have the same for script code, and each sampler has a window more, on its own script. -/
structure Likeness.LeftAlike (likeness : Likeness engine engine) (path : String)
    (session fileAfter inlineAfter : Session engine) : Prop where
  coupled : likeness.Coupled ⟨[], []⟩ fileAfter inlineAfter
  sampled : ∃ opening closing, fileAfter.sampler =
    session.sampler.behindWindow path opening closing fileAfter.flags
  sampledInline : ∃ opening closing, inlineAfter.sampler =
    session.sampler.behindWindow Host.commandLineSource opening closing inlineAfter.flags

/-! ## From a session with no frame open -/

section Executing

open Likeness Host

variable {reached : engine.Store → Bool}
  {likeness : Likeness (engine.stoppingAt reached) (engine.stoppingAt reached)}
  {budget nested : Nat} {environment : Realm} {out : Channel} {dump : Bool}
  {path inline : String} {content : Bytes} {value : engine.Value}

/-- The chores of the shell are the same in every state of the engine. -/
theorem Tended.withStore {session after : Session engine} {entries : List Entry}
    (h : Tended session entries after) (store : engine.Store) :
    Tended { session with store := store } entries { after with store := store } where
  after_eq := by rw [h.after_eq]
  enabled_eq := h.enabled_eq
  told_eq := h.told_eq

/-- The chores of the shell leave sessions coupled, only their clocks may go apart. -/
theorem Likeness.Coupled.tended {one two : Engine} {likeness : Likeness one two} {offset : Offset}
    {session after : Session one} {twin behind : Session two} {entries others : List Entry}
    (h : likeness.Coupled offset session twin) (hloose : ¬ likeness.faithful)
    (hafter : Tended session entries after) (hbehind : Tended twin others behind) :
    likeness.Coupled offset after behind := by
  have htold := hbehind.told_eq.trans (h.told_eq.trans hafter.told_eq.symm)
  obtain ⟨clock, sampler, history, rfl⟩ : ∃ clock sampler history, after =
      { session with clock := clock, sampler := sampler, history := history } :=
    ⟨_, _, _, hafter.after_eq⟩
  obtain ⟨time, other, journal, rfl⟩ : ∃ clock sampler history, behind =
      { twin with clock := clock, sampler := sampler, history := history } :=
    ⟨_, _, _, hbehind.after_eq⟩
  exact
    { h with
      told_eq := htold
      clock_eq := fun hfaithful => absurd hfaithful hloose }

namespace Host

/-- A file that was evaluated in an environment is evaluated alike by an inline script. -/
theorem exists_evaluationLoading (hsound : likeness.Sound) (hloose : ¬ likeness.faithful)
    {begun evaluated opened : Session (engine.stoppingAt reached)}
    (load : LoadCall engine environment opened.options opened.store inline path)
    (honly : load.Only likeness.Store likeness.Value)
    (hcoupled : likeness.Coupled ⟨[], []⟩ begun { opened with store := load.given })
    (hread : opened.files.read path = .ok content)
    (hevaluates : Ends (evaluateIn budget environment (SourceBuffer.ofFile content).text path)
      begun (.completed value) evaluated) :
    ∃ file : Evaluation, Course .script begun file.entries evaluated ∧ file.name = path ∧
      Yields (evaluateIn nested environment inline commandLineSource) opened fun outcome behind =>
        ∃ own evaluation, outcome = .completed own ∧ likeness.Value value own ∧
          likeness.Coupled ⟨[], []⟩ evaluated behind ∧
          behind.history = evaluation.entries.reverse ++ opened.history ∧
          evaluation.name = commandLineSource ∧ file.Loads path evaluation := by
  obtain ⟨inside, hinside, rfl⟩ := ends_withRealm.mp hevaluates
  obtain ⟨run, hdrained, -⟩ := evaluationRun_of_follows
    (follows_closed.runSource (follows_answer budget) _)
    (fun _ => follows_closed.act (follows_answer budget) _)
    (follows_closed.evaluated (follows_answer budget)) hinside
  have hrealm : opened.realm = begun.realm := hcoupled.realm_eq
  refine ⟨run.evaluation, .inRealm environment run.course, rfl, ?_⟩
  have hyields := @yields_evaluateLoading engine reached likeness budget nested environment path
    inline commandLineSource content value hsound hloose { begun with realm := environment } inside
    { opened with realm := environment } load honly (hcoupled.withRealm environment) rfl hread run
    hdrained
  refine hyields.withRealm ?_
  rintro _ behind ⟨own, evaluation, rfl, hvalue, hbehind, hhistory, hname, hloads⟩
  refine ⟨own, evaluation, rfl, hvalue, ?_, hhistory, hname, hloads⟩
  rw [hrealm]
  exact hbehind.withRealm begun.realm

/-- The report on an inline script comes to its end if its evaluation and the conversion of what it
completed with do. -/
theorem yields_report {session : Session engine} {source name : String}
    {completesTo : engine.Value → Session engine → Prop}
    (hevaluates : Yields (evaluateIn budget environment source name) session fun outcome after =>
      ∃ value, outcome = .completed value ∧ completesTo value after)
    (hstringify : dump = true → ∀ ⦃value after⦄, completesTo value after →
      Yields (stringifyIn budget environment value) after fun _ _ => True) :
    Yields (report budget environment out dump source name) session fun _ _ => True := by
  refine hevaluates.bind ?_
  rintro _ after ⟨value, rfl, hvalue⟩
  cases dump with
  | false => exact .of_ends (ends_pure.mpr ⟨rfl, rfl⟩) trivial
  | true =>
      refine (hstringify rfl hvalue).bind fun text rendered _ => ?_
      exact .of_ends (ends_bind.mpr ⟨(), _, ends_note.mpr rfl, ends_pure.mpr ⟨rfl, rfl⟩⟩) trivial

/-- What the file completed with is converted to the same text behind the inline script. -/
theorem yields_stringifyLoading {one two : Engine} {likeness : Likeness one two}
    (hsound : likeness.Sound) (hloose : ¬ likeness.faithful) {evaluated rendered : Session one}
    {behind : Session two} {value : one.Value} {own : two.Value} {text : Option String}
    {rendering : List Entry}
    (hreports : Reports budget environment true (.completed value) evaluated text rendering
      rendered) (hvalue : likeness.Value value own)
    (hcoupled : likeness.Coupled ⟨[], []⟩ evaluated behind) :
    Yields (stringifyIn nested environment own) behind fun given after =>
      text = some ("End: " ++ given ++ "\n") ∧ likeness.Coupled ⟨[], []⟩ rendered after ∧
        ∃ copies, after.history = copies.reverse ++ behind.history ∧
          Entry.Mirrors False [] [] rendering copies := by
  cases hreports with
  | silent hdump => cases hdump
  | dumped _ hends hcourse =>
      refine (Yields.of_meets (pairs_stringifyIn hsound (fun hfaithful => absurd hfaithful hloose)
        environment hvalue hcoupled) hends).mono ?_
      rintro given after ⟨rfl, hafter, hgains⟩
      obtain ⟨entries, copies, hentries, hcopies, hmirrors⟩ := hgains.history
      obtain rfl : entries = rendering := Entry.eq_of_history_eq hentries hcourse.history_eq
      exact ⟨rfl, hafter, copies, hcopies, hmirrors.untimed⟩

end Host

/-- The same is reported of the file and of the inline script. -/
theorem Reports.loading {one two : Engine} {likeness : Likeness one two} (hsound : likeness.Sound)
    (hloose : ¬ likeness.faithful) {evaluated rendered : Session one} {behind after : Session two}
    {value : one.Value} {own : two.Value} {text given : Option String}
    {rendering converting : List Entry}
    (hfile : Reports budget environment dump (.completed value) evaluated text rendering rendered)
    (hinline : Reports nested environment dump (.completed own) behind given converting after)
    (hvalue : likeness.Value value own)
    (hcoupled : likeness.Coupled ⟨[], []⟩ evaluated behind) :
    given = text ∧ Entry.Mirrors False [] [] rendering converting ∧
      likeness.Coupled ⟨[], []⟩ rendered after := by
  cases hinline with
  | silent hdump =>
      cases hfile with
      | silent => exact ⟨rfl, .nil, hcoupled⟩
      | dumped hdumped => cases hdump.symm.trans hdumped
  | dumped hdump hends hcourse =>
      subst hdump
      obtain ⟨rfl, hafter, copies, hhistory, hmirrors⟩ :=
        (yields_stringifyLoading hsound hloose hfile hvalue hcoupled).holds_of_ends hends
      obtain rfl := Entry.eq_of_history_eq hcourse.history_eq hhistory
      exact ⟨rfl, hmirrors, hafter⟩

/-- The chores of the shell do not change what an inline script does. -/
def LoadCall.behind {session after : Session (engine.stoppingAt reached)} {entries : List Entry}
    (load : LoadCall engine environment session.options session.store inline path)
    (h : Tended session entries after) :
    LoadCall engine environment after.options after.store inline path where
  code := load.code
  before := load.before
  argument := load.argument
  others := load.others
  resume := load.resume
  given := load.given
  parse_eq := by
    rw [h.after_eq]
    exact load.parse_eq
  evaluate_eq := by
    rw [h.after_eq]
    exact load.evaluate_eq
  path_eq := load.path_eq

/-- A file that was executed could be read, and goes under its path. -/
theorem ScriptRun.Executes.of_file {session after : Session engine} {run : ScriptRun engine}
    (h : run.Executes budget environment out dump session after)
    (hscript : run.script = .file path) :
    run.name = path ∧ ∃ content, session.files.read path = .ok content ∧
      run.source = (SourceBuffer.ofFile content).text := by
  have hopened := h.opened
  rw [hscript] at hopened
  refine ⟨Script.name_of_opened hopened, ?_⟩
  cases hread : session.files.read path with
  | error error => simp [Script.opened, hread] at hopened
  | ok content =>
      simp only [Script.opened, hread, Except.ok.injEq, Prod.mk.injEq] at hopened
      exact ⟨content, rfl, hopened.2.symm⟩

namespace Host

section Loading

variable (hsound : likeness.Sound) (hloose : ¬ likeness.faithful)
  {session fileAfter opened : Session (engine.stoppingAt reached)} {others : List Entry}
  {file : ScriptRun (engine.stoppingAt reached)}
  (hframes : session.frames = []) (hjobs : ∀ job ∈ session.jobs, likeness.Job job.2 job.2)
  (load : LoadCall engine environment session.options session.store inline path)
  (honly : load.Only likeness.Store likeness.Value)
  (hfile : file.Executes budget environment out dump session fileAfter)
  (hscript : file.script = .file path) (hcompleted : file.outcome = .completed value)

include hsound hloose hframes hjobs honly hfile hscript hcompleted

/-- Once the inline script is opened, it is evaluated as the file was. -/
theorem exists_loaded (nested : Nat) (hopened : Tended session others opened) :
    ∃ evaluation : Evaluation, Course .script file.begun evaluation.entries file.evaluated ∧
      evaluation.name = path ∧
      Yields (evaluateIn nested environment inline commandLineSource) opened fun outcome behind =>
        ∃ own inlined, outcome = .completed own ∧ likeness.Value value own ∧
          likeness.Coupled ⟨[], []⟩ file.evaluated behind ∧
          behind.history = inlined.entries.reverse ++ opened.history ∧
          inlined.name = commandLineSource ∧ evaluation.Loads path inlined := by
  have hbase : likeness.Coupled ⟨[], []⟩ session { session with store := load.given } :=
    { store := honly.before
      realm_eq := rfl
      realms_eq := rfl
      jobs := List.forall₂_same.mpr fun job hjob => ⟨rfl, hjobs job hjob⟩
      jobCount_eq := rfl
      frames_eq := hframes
      others_eq := hframes
      outermost := Iff.rfl
      options_eq := rfl
      flags_eq := rfl
      profiling_eq := rfl
      input_eq := rfl
      files_eq := rfl
      told_eq := rfl
      clock_eq := fun _ => rfl }
  obtain ⟨hname, content, hread, hsource⟩ := hfile.of_file hscript
  have hevaluates := hfile.evaluates
  rw [hname, hsource, hcompleted] at hevaluates
  have hbehind : (load.behind hopened).Only likeness.Store likeness.Value :=
    ⟨by
      show likeness.Store opened.store load.given
      rw [hopened.after_eq]
      exact honly.before, honly.behind⟩
  exact exists_evaluationLoading hsound hloose (load.behind hopened) hbehind
    (hbase.tended hloose hfile.begins (hopened.withStore load.given))
    (by rw [hopened.files_eq]; exact hread) hevaluates

/-- An inline script that reaches no limit comes to its end. -/
theorem exists_ends_executeInline {nested : Nat}
    (hlimits : ((execute nested environment out dump (.inline inline)).outcome session).1 ≠
      .error .exhausted) :
    ∃ result after, Ends (execute nested environment out dump (.inline inline)) session result
      after := by
  rcases houtcome : (execute nested environment out dump (.inline inline)).outcome session with
    ⟨(_ | _) | result, after⟩
  · -- where the inline script called `quit` the file did so too, but that came to its end
    obtain ⟨_, _, opened, hnames, hopened, hhalts⟩ := halts_execute houtcome
    cases hnames
    obtain ⟨_, -, -, hevaluates⟩ := exists_loaded hsound hloose hframes hjobs load honly hfile
      hscript hcompleted nested hopened
    have hown : Yields (evaluateIn nested environment inline commandLineSource) opened
        fun outcome behind => ∃ own, outcome = .completed own ∧ likeness.Value value own ∧
          likeness.Coupled ⟨[], []⟩ file.evaluated behind := by
      refine hevaluates.mono ?_
      rintro _ behind ⟨own, _, rfl, hvalue, hcoupled, -⟩
      exact ⟨own, rfl, hvalue, hcoupled⟩
    refine absurd hhalts (Yields.not_quits (yields_report hown ?_) _)
    rintro rfl own behind ⟨hvalue, hcoupled⟩
    have hreports := hfile.reports
    rw [hcompleted] at hreports
    exact (yields_stringifyLoading hsound hloose hreports hvalue hcoupled).mono
      fun _ _ _ => trivial
  · rw [houtcome] at hlimits
    exact absurd rfl hlimits
  · exact ⟨result, after, houtcome⟩

/-- Whatever the inline script comes to agrees with what the file came to. -/
theorem agrees_executeInline {nested : Nat} {result : Except Failure Execution}
    {inlineAfter : Session (engine.stoppingAt reached)} (hwindow : file.Windowed session fileAfter)
    (hends : Ends (execute nested environment out dump (.inline inline)) session result
      inlineAfter) :
    ∃ (evaluation : Evaluation) (inlined : ScriptRun (engine.stoppingAt reached)),
      result = .ok inlined.execution ∧
      { file with evaluation := evaluation }.Executes budget environment out dump session
        fileAfter ∧
      inlined.script = .inline inline ∧
      inlined.Executes nested environment out dump session inlineAfter ∧
      { file with evaluation := evaluation }.Agrees inlined likeness.Value out session.files path ∧
      likeness.LeftAlike path session fileAfter inlineAfter := by
  rcases windowedRun hends with ⟨_, hopened, -⟩ | ⟨run, hrun, hresult, hexecutes, hrunWindow⟩
  · cases hopened
  have hnames := hexecutes.opened
  rw [hrun] at hnames
  obtain ⟨hname, hsource⟩ : commandLineSource = run.name ∧ inline = run.source := by
    simpa [Script.opened] using hnames
  obtain ⟨evaluation, hcourse, hevaluation, hyields⟩ := exists_loaded hsound hloose hframes hjobs
    load honly hfile hscript hcompleted nested hexecutes.begins
  have hevaluates := hexecutes.evaluates
  rw [← hname, ← hsource] at hevaluates
  obtain ⟨own, inlined, houtcome, hvalue, hcoupled, hhistory, hinlined, hloads⟩ :=
    hyields.holds_of_ends hevaluates
  -- an execution knows its evaluation by the entries only, so the coupled ones may take its place
  have hentries : run.evaluation.entries = inlined.entries :=
    Entry.eq_of_history_eq hexecutes.course.history_eq hhistory
  have hownCourse := hexecutes.course
  rw [hentries] at hownCourse
  have hfileReports := hfile.reports
  rw [hcompleted] at hfileReports
  have hreports := hexecutes.reports
  rw [houtcome] at hreports
  obtain ⟨htext, hrendering, hrendered⟩ :=
    hfileReports.loading hsound hloose hreports hvalue hcoupled
  have hfileExecutes : { file with evaluation := evaluation }.Executes budget environment out dump
      session fileAfter :=
    { hfile with course := hcourse, name_eq := hevaluation.trans (hfile.of_file hscript).1.symm }
  have hownExecutes : { run with evaluation := inlined }.Executes nested environment out dump
      session inlineAfter :=
    { hexecutes with course := hownCourse, name_eq := hinlined.trans hname }
  refine ⟨evaluation, { run with evaluation := inlined }, hresult, hfileExecutes, hrun,
    hownExecutes, ⟨⟨value, own, hcompleted, houtcome, hvalue⟩, ⟨?_, ?_⟩, hloads, htext, hrendering,
      fun channel hplain => ?_⟩, ⟨hrendered.tended hloose hfile.finishes hexecutes.finishes,
      ?_, ?_⟩⟩
  · exact hfile.succeeded_eq.trans (by rw [hcompleted]; rfl)
  · exact hexecutes.succeeded_eq.trans (by rw [houtcome]; rfl)
  · rw [ScriptRun.written_entries, ScriptRun.written_entries]
    have hevaluated := hloads.written_eq fun hchannel entry hentry => hplain hchannel entry (by
      simp [ScriptRun.entries, hentry])
    have hconverted := hrendering.written_eq fun hchannel entry hentry => hplain hchannel entry (by
      simp [ScriptRun.entries, hentry])
    rw [hevaluated, htext, hconverted]
  · obtain ⟨opening, closing, hsampler⟩ := hfile.sampler_eq hwindow
    rw [(hfile.of_file hscript).1] at hsampler
    exact ⟨opening, closing, by rw [hsampler, hfile.finishes.after_eq]; rfl⟩
  · obtain ⟨opening, closing, hsampler⟩ := hexecutes.sampler_eq hrunWindow
    rw [← hname] at hsampler
    exact ⟨opening, closing, by rw [hsampler, hexecutes.finishes.after_eq]; rfl⟩

end Loading

end Host

end Executing

end ScriptShell
