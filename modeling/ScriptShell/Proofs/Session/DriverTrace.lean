import ScriptShell.Proofs.Log.Shown
import ScriptShell.Proofs.Session.Batch
import ScriptShell.Proofs.Session.Telling

/-!
# The events of a batch

Each script that is executed has its event in front and another one behind, which tells whether it
threw; between the two are the events of the environments that calls of `run` make. A run of scripts
ends behind the last one, at the one that cannot be read, which is announced, or where the
evaluation of a script is cut off, so that its second event is missing (`Remains`). No event, nor
anything else in the history, has an effect on what follows (`Host.Blind`).

## Main results

* `Host.driven_runScripts` is about runs of scripts, whether they come to their end or not.
* `Host.blind_shell` and `Host.tale_shell` are about the shell around script code.
-/

namespace ScriptShell

variable {engine : Engine}

/-- The event of an environment that a call of `run` makes. -/
def runEvents (paths : List String) : List LogEvent :=
  paths.map fun _ => .environmentCreated 0

theorem runEvents_append (first second : List String) :
    runEvents (first ++ second) = runEvents first ++ runEvents second :=
  List.map_append

/-- The events of script code are those of the environments in which calls of `run` evaluate the
files that they could read, one each. -/
theorem Told.events_eq {entries : List Entry} {paths : List String}
    (h : Told engine entries paths) : Entry.events entries = runEvents paths := by
  induction h with
  | nil => rfl
  | append _ _ hfirst hsecond => rw [Entry.events_append, hfirst, hsecond, ← runEvents_append]
  | @aside entry haside =>
      cases entry with
      | logged event => exact haside.elim
      | _ => rfl
  | unconverted _ _ ih => exact ih
  | @read _ _ conversion _ path found _ _ _ ih =>
      show Entry.events (conversion ++ [.fileRead path found]) = _
      rw [Entry.events_append, ih]
      exact List.append_nil _
  | @refused _ conversion made _ path _ hmade _ ih =>
      have hsilent : Entry.events (.fileRead path true :: made) = [] := by
        rcases hmade with rfl | ⟨realm, rfl⟩ <;> rfl
      show Entry.events (conversion ++ .fileRead path true :: made) = _
      rw [Entry.events_append, ih, hsilent, List.append_nil]
  | @ran _ conversion body paths inside path _ _ _ hconversion hbody =>
      show Entry.events (conversion ++ _) = _
      rw [Entry.events_append, hconversion, runEvents_append]
      exact congrArg (fun events => _ ++ .environmentCreated 0 :: events) hbody

namespace Host

variable {α β : Type}

/-! ## Nothing that happened has an effect -/

/-- What happened before has no effect on the action. -/
abbrev Blind (action : Host engine α) : Prop :=
  Tells action fun _ _ => True

theorem TellsTale.blind {action : Host engine α} (h : TellsTale action) : Blind action :=
  h.mono fun _ _ _ => trivial

namespace Blind

theorem pure (value : α) : Blind (pure value : Host engine α) :=
  Tells.pure trivial

theorem bind {action : Host engine α} {next : α → Host engine β} (haction : Blind action)
    (hnext : ∀ value, Blind (next value)) : Blind (action >>= next) :=
  Tells.bind haction (fun _ _ _ => trivial) fun value _ _ => hnext value

theorem note (entry : Entry) : Blind (note entry : Host engine Unit) :=
  Tells.note trivial

theorem modify {change : Session engine → Session engine}
    (hchange : ∀ session history, change { session with history } =
      { change session with history }) : Blind (modify change : Host engine PUnit) :=
  Tells.modify trivial hchange

theorem modifyGet {change : Session engine → α × Session engine}
    (hchange : ∀ session history, change { session with history } =
      ((change session).1, { (change session).2 with history })) :
    Blind (modifyGet change : Host engine α) :=
  .of_ends (fun session => (change session).1) (fun session => (change session).2) (fun _ => [])
    (fun _ => ends_modifyGet.mpr rfl) (fun _ => trivial)
    (fun session history => by rw [hchange]) fun session history => by rw [hchange]; rfl

end Blind

theorem blind_openWindow (script : String) : Blind (openWindow script : Host engine Window) := by
  refine .get_bind (fun session => ?_) fun _ _ => rfl
  split
  · exact Blind.bind (tale_now .window).blind fun _ => .modifyGet fun _ _ => rfl
  · exact Blind.pure _

theorem blind_closeWindow (window : Window) : Blind (closeWindow window : Host engine Unit) := by
  unfold closeWindow
  split
  · exact Blind.bind (tale_now .window).blind fun _ => .modify fun _ _ => rfl
  · exact Blind.pure _

/-- What happened before has no effect on what the shell does around script code. -/
theorem blind_shell : @ShellClosed engine fun _ action => Blind action where
  pure := .pure
  bind := .bind
  lookInput _ hnext := .get_bind (fun _ => hnext _) fun _ _ => rfl
  lookInstrumented _ hnext := .get_bind (fun _ => hnext _) fun _ _ => rfl
  exhausted := .throw trivial
  write _ _ := .note _
  log _ := .note _
  nowScript := (tale_now .script).blind
  readLine := tale_readLine.blind
  readFile path := (tells_readFile path).mono fun _ _ _ => trivial
  changeFlags _ := .modify fun _ _ => rfl
  changeSampler _ := .modify fun _ _ => rfl
  openWindow := blind_openWindow
  closeWindow := blind_closeWindow
  createEnvironment arguments := (tells_createEnvironment arguments).mono fun _ _ _ => trivial
  evaluateIn budget environment source name :=
    (tells_evaluateIn budget environment source name).blind
  checkSyntaxIn budget environment source name := (tells_withRealm environment
    (tells_checkSyntax (tale_answer budget) source name)).mono fun _ _ _ => trivial
  stringifyIn budget environment value := (tells_stringifyIn budget environment value).blind

/-! ## What the shell tells -/

section Shell

variable {budget : Nat} {environment : Realm} {out : Channel} {dump : Bool}

theorem tale_evaluateLine (line : String) :
    TellsTale (evaluateLine budget environment out line : Host engine Unit) := by
  refine .bind (tells_evaluateIn budget environment line _) fun outcome => ?_
  cases outcome with
  | threw fault info => exact .note trivial
  | completed value =>
      exact .bind (tells_stringifyIn budget environment value) fun _ => .note trivial

theorem tale_shellLines (lines : Nat) :
    TellsTale (shellLines budget environment out lines : Host engine Unit) := by
  induction lines with
  | zero => exact .throw .nil
  | succ lines ih =>
      refine .bind (.note trivial) fun _ => .bind tale_readLine fun line => ?_
      split
      · exact .note trivial
      · exact .bind (tale_evaluateLine _) fun _ => ih

theorem tale_shell : TellsTale (shell budget environment out : Host engine Unit) :=
  .get_bind (fun session => tale_shellLines (session.input.length + 1)) fun _ _ => rfl

theorem tale_report (source name : String) : TellsTale
    (report budget environment out dump source name : Host engine (Option ExceptionInfo)) := by
  refine .bind (tells_evaluateIn budget environment source name) fun outcome => ?_
  cases outcome with
  | threw fault info => exact .bind (.note trivial) fun _ => .pure _
  | completed value =>
      show TellsTale (if dump then _ else _)
      split
      · refine .bind (tells_stringifyIn budget environment value) fun text => ?_
        exact .bind (.note trivial) fun _ => .pure _
      · exact .pure _

end Shell

/-- What the journal gained is what script code may add. -/
theorem TellsTale.of_journal {action : Host engine α} {session after : Session engine}
    {ending : Except Halt α} {entries : List Entry} (h : TellsTale action)
    (houtcome : action.outcome session = (ending, after))
    (hjournal : after.journal = session.journal ++ entries) : Tale engine entries := by
  obtain ⟨gained, htale, hgained⟩ := h.history_eq session
  rw [houtcome] at hgained
  have hhistory : after.history = gained.reverse ++ session.history := hgained
  have hsame : session.journal ++ gained = session.journal ++ entries := by
    rw [← hjournal]
    simp [Session.journal, hhistory]
  exact List.append_cancel_left hsame ▸ htale

end Host

/-! ## Scripts -/

namespace ScriptRun

/-- The events of a script, where calls of `run` could read the files with some paths. -/
def events (run : ScriptRun engine) (paths : List String) : List LogEvent :=
  .evaluating run.name ::
    (runEvents paths ++ [.finished run.name run.outcome.exception.isNone])

variable {budget : Nat} {environment : Realm} {out : Channel} {dump : Bool}
  {session after : Session engine} {run : ScriptRun engine} {paths : List String}

theorem events_entries (files : Files)
    (htold : Told engine (run.evaluation.entries ++ run.rendering) paths) :
    Entry.events (run.entries out files) = run.events paths := by
  have hreads : Entry.events (run.script.reads files) = [] := by cases run.script <;> rfl
  have htext : Entry.events (run.text.map (Entry.wrote out)).toList = [] := by
    cases run.text <;> rfl
  have hinside := htold.events_eq
  rw [Entry.events_append] at hinside
  simp only [entries, Entry.events_append, hreads, htext, events, ← hinside]
  simp [Entry.events, Entry.event?]

/-- What the evaluation of a script and its report added is what script code may add. -/
theorem Executes.tale (h : run.Executes budget environment out dump session after) :
    Tale engine (run.evaluation.entries ++ run.rendering) := by
  refine .append ((Host.tells_evaluateIn budget environment run.source run.name).of_journal
    h.evaluates h.course.journal_eq) ?_
  have hreports := h.reports
  generalize run.outcome = outcome, run.evaluated = evaluated, run.text = text,
    run.rendering = rendering, run.rendered = rendered at hreports
  cases hreports with
  | threw => exact .nil
  | silent hdump => exact .nil
  | dumped hdump hends hcourse =>
      exact (Host.tells_stringifyIn budget environment _).of_journal hends hcourse.journal_eq

end ScriptRun

/-- What a run of scripts leaves behind those that were executed: nothing, where there are no
others; the announcement that the next one cannot be read; or what the next one did up to where
its evaluation was cut off. -/
inductive Remains (engine : Engine) (files : Files) :
    Except Halt Bool → List Script → List Entry → List LogEvent → Prop
  | done {success : Bool} : Remains engine files (.ok success) [] [] []
  | aborted {script : Script} {rest : List Script} (hunreadable : script.readable files = false) :
      Remains engine files (.ok false) (script :: rest) (abortEntries (script :: rest))
        [.abortingRun script.payload (.file script.payload)]
  | cut {halt : Halt} {script : Script} {rest : List Script} {name source : String}
      {body : List Entry} {paths : List String} (hopened : script.opened files = .ok (name, source))
      (hbody : Told engine body paths) :
      Remains engine files (.error halt) (script :: rest)
        (script.reads files ++ .logged (.evaluating name) :: body)
        (.evaluating name :: runEvents paths)

theorem Remains.events_eq {files : Files} {ending : Except Halt Bool} {others : List Script}
    {tail : List Entry} {events : List LogEvent}
    (h : Remains engine files ending others tail events) : Entry.events tail = events := by
  cases h with
  | done => rfl
  | aborted => rfl
  | @cut _ script _ name _ body _ _ hbody =>
      have hreads : Entry.events (script.reads files) = [] := by cases script <;> rfl
      rw [Entry.events_append, hreads, ← hbody.events_eq]
      rfl

namespace Host

variable {budget : Nat} {environment : Realm} {out : Channel} {dump : Bool}
  {session after cut : Session engine} {scripts : List Script}

/-- The journal and the remaining scripts where a run of scripts stops. -/
def Driven (budget : Nat) (environment : Realm) (out : Channel) (dump : Bool)
    (scripts : List Script) (session : Session engine) (ending : Except Halt Bool)
    (after : Session engine) : Prop :=
  ∃ runs last others tail events, runs.map ScriptRun.script ++ others = scripts ∧
    Batch budget environment out dump session runs last ∧
    after.journal = last.journal ++ tail ∧
    Remains engine session.files ending others tail events

theorem driven_of_ends {success : Bool}
    (hends : Ends (executeAll budget environment out dump scripts) session success after) :
    Driven budget environment out dump scripts session (.ok success) after := by
  obtain ⟨runs, last, hscripts, hbatch, hafter, hsuccess⟩ := batch_executeAll hends
  have hwhole := List.takeWhile_append_dropWhile (p := Script.readable session.files) (l := scripts)
  have hhead := List.head?_dropWhile_not (Script.readable session.files) scripts
  rw [← hscripts] at hwhole
  generalize hothers : scripts.dropWhile (Script.readable session.files) = others
    at hwhole hhead hafter hsuccess
  have hjournal : after.journal = last.journal ++ abortEntries others := by
    rw [hafter, (Tended.noteAll last _).journal_eq]
  refine ⟨runs, last, others, abortEntries others, ?_⟩
  cases others with
  | nil => exact ⟨[], hwhole, hbatch, hjournal, .done⟩
  | cons script rest =>
      obtain rfl : success = false := by simpa using hsuccess
      exact ⟨_, hwhole, hbatch, hjournal, .aborted (by simpa using hhead)⟩

theorem driven_of_halts {halt : Halt}
    (hhalts : Halts (executeAll budget environment out dump scripts) session halt cut) :
    Driven budget environment out dump scripts session (.error halt) cut := by
  induction scripts generalizing session with
  | nil => cases hhalts
  | cons script rest ih =>
      rcases halts_bind.mp hhalts with hhalts | ⟨result, middle, hexecute, hhalts⟩
      · obtain ⟨name, source, begun, hopened, hbegins, hhalts⟩ := halts_execute hhalts
        obtain ⟨body, htale, hbody⟩ := (tale_report source name).history_eq begun
        rw [show _ = _ from hhalts] at hbody
        obtain ⟨paths, htold⟩ := htale
        refine ⟨[], session, _, _, _, rfl, .nil, ?_, .cut hopened htold⟩
        have hhistory : cut.history = body.reverse ++ begun.history := hbody
        have hjournal : cut.journal = begun.journal ++ body := by simp [Session.journal, hhistory]
        rw [hjournal, hbegins.journal_eq]
        simp
      · rcases scriptRun hexecute with ⟨failure, -, rfl, -⟩ | ⟨run, rfl, rfl, hrun⟩
        · cases hhalts
        · rcases halts_bind.mp hhalts with hhalts | ⟨_, _, -, hhalts⟩
          · obtain ⟨runs, last, others, tail, events, hscripts, hbatch, hjournal, hremains⟩ :=
              ih hhalts
            rw [hrun.files_eq] at hremains
            exact ⟨run :: runs, last, others, tail, events, by simp [← hscripts],
              .cons hrun hbatch, hjournal, hremains⟩
          · cases hhalts

/-- Whether or not it comes to its end, a run of scripts executes them one after another up to where
it stops. -/
theorem driven_runScripts (scripts : List Script) (session : Session engine) :
    let (ending, after) :=
      (runScripts budget environment out dump scripts).outcome session
    Driven budget environment out dump scripts
      { session with sampler := session.sampler.start } ending after := by
  have hstart : Ends (modify fun session => { session with sampler := session.sampler.start } :
      Host engine PUnit) session ⟨⟩ { session with sampler := session.sampler.start } :=
    ends_modify.mpr rfl
  unfold runScripts
  rw [outcome_bind_of_ends hstart]
  rcases ends_or_halts (executeAll budget environment out dump scripts)
    { session with sampler := session.sampler.start } with
    ⟨success, after, hends⟩ | ⟨halt, cut, hhalts⟩
  · rw [outcome_bind_of_ends hends]
    obtain ⟨runs, last, others, tail, events, hdriven⟩ := driven_of_ends hends
    exact ⟨runs, last, others, tail, events, hdriven⟩
  · rw [outcome_bind, show _ = _ from hhalts]
    exact driven_of_halts hhalts

end Host

end ScriptShell
