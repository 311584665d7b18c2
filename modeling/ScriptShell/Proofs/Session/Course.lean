import ScriptShell.Proofs.Session.Ending
import ScriptShell.Session.Natives

/-!
# The course of script code

Whatever an engine does, it reaches the session only through the natives and the job queue.
`Course` says once what can come of that: it relates a session, the entries that the journal gains
and the session behind them. Its constructors are the single strokes that natives make, the change
of realm around a native, and the two ways in which source text reaches the engine, each with its
parts in their order. The jobs at the end of an evaluation are a stage of their own, since only an
evaluation whose frame is the only one has any.

What holds along every course is an induction over these constructors. Here that is done for what
script code cannot change (`Course.setting_eq`) and for the journal (`Course.journal_eq`).
-/

namespace ScriptShell

variable {engine : Engine}

/-! ## Courses -/

/-- An evaluation or a syntax check as it stands in a journal, part by part. -/
structure Evaluation where
  name : String
  /-- Parsing and running the source text. -/
  script : List Entry
  /-- The jobs that ran behind it. -/
  jobs : List Entry
  /-- The record that the profile gained. -/
  record : Option ProfileRecord
  /-- Reading what is reported of something thrown. -/
  report : List Entry

namespace Evaluation

/-- What stands behind the jobs of an evaluation. -/
def closing (evaluation : Evaluation) : List Entry :=
  (evaluation.record.map Entry.recorded).toList ++ evaluation.report ++ [.left evaluation.name]

/-- The entries of an evaluation. -/
def entries (evaluation : Evaluation) : List Entry :=
  .entered evaluation.name :: (evaluation.script ++ evaluation.jobs ++ evaluation.closing)

end Evaluation

/-- What the natives that show frames write. -/
def Native.shows : Native → List String → List Entry
  | .stackTrace, frames => [.wrote .stderr (Host.stackTrace frames)]
  | .dumpCallFrame, frame :: _ => [.wrote .stderr ("--> Call frame: " ++ frame ++ "\n")]
  | _, _ => []

theorem Native.shows_eq_nil {native : Native} (hstack : native ≠ .stackTrace)
    (hframe : native ≠ .dumpCallFrame) (frames : List String) : native.shows frames = [] := by
  cases native with
  | stackTrace => exact absurd rfl hstack
  | dumpCallFrame => exact absurd rfl hframe
  | _ => rfl

/-- An entry that script code leaves by itself. Calls of natives are not among them, since what a
native shows of the frames comes with its call. -/
def Entry.Scripted : Entry → Prop
  | .wrote channel _ => channel ≠ .report
  | .called _ _ | .fileWritten _ _ => False
  | _ => True

namespace Session

/-- The session with more entries. -/
@[simps frames realm jobs jobCount options sampler profile files history]
def noteAll (session : Session engine) (entries : List Entry) : Session engine :=
  { session with history := entries.reverse ++ session.history }

theorem noteAll_note (session : Session engine) (entries : List Entry) (entry : Entry) :
    (session.noteAll entries).note entry = session.noteAll (entries ++ [entry]) := by
  simp [noteAll, note]

/-- The session after a native was called, with what it shows of the frames. -/
@[simps! frames realm jobs jobCount options sampler profile files history]
def calling (session : Session engine) (native : Native) : Session engine :=
  session.noteAll (.called native session.frames :: native.shows session.frames)

/-- The session with a realm more. -/
@[simps frames realm jobs jobCount options sampler profile files history]
def withNewRealm (session : Session engine) (store : engine.Store) : Session engine :=
  { session with
    store := store
    realms := session.realms + 1
    history := .realmCreated session.realms :: session.history }

/-- The session at the start of its first job. -/
@[simps frames realm jobs jobCount options sampler profile files history]
def starting (session : Session engine) (job : Nat) : Session engine :=
  { session with jobs := session.jobs.tail, history := .started job :: session.history }

/-- The session after a job that ended in an error. -/
@[simps frames realm jobs jobCount options sampler profile files history]
def interrupted (session : Session engine) (job : Nat) : Session engine :=
  { session with jobs := [], history := .interrupted job :: session.history }

end Session

/-- What script code cannot change. -/
structure Setting where
  frames : List String
  realm : Realm
  options : Options
  sampler : Sampler
  profiling : Bool
  files : Files

/-- The setting of a session. -/
def Session.setting (session : Session engine) : Setting where
  frames := session.frames
  realm := session.realm
  options := session.options
  sampler := session.sampler
  profiling := session.profile.isSome
  files := session.files

/-- One stroke of script code or of a native, with the entries that it leaves. -/
inductive Stroke : Session engine → List Entry → Session engine → Prop
  | work {session : Session engine} (store : engine.Store) :
      Stroke session [] { session with store := store }
  | look {session : Session engine} (look : Look) : Stroke session [] (session.looked look)
  | day {session : Session engine} : Stroke session [] session.dayRead
  | flag {session : Session engine} (flags : SamplingFlags) :
      Stroke session [] { session with flags := flags }
  | write {session : Session engine} {channel : Channel} (hout : channel ≠ .report)
      (text : String) : Stroke session [.wrote channel text] (session.note (.wrote channel text))
  | announce {session : Session engine} (arguments : Nat) :
      Stroke session [.logged (.environmentCreated arguments)]
        (session.note (.logged (.environmentCreated arguments)))
  | readFile {session : Session engine} (path : String) :
      Stroke session [.fileRead path (session.files.read path).isOk]
        (session.note (.fileRead path (session.files.read path).isOk))
  | readLine {session : Session engine} :
      Stroke session [.lineRead session.input.takeChunk.1] session.reading
  | queue {session : Session engine} (job : engine.Job) :
      Stroke session [.queued session.jobCount] (session.queueing job)
  | realm {session : Session engine} (store : engine.Store) :
      Stroke session [.realmCreated session.realms] (session.withNewRealm store)
  | call {session : Session engine} (native : Native) :
      Stroke session (.called native session.frames :: native.shows session.frames)
        (session.calling native)

/-- The stages of a course: script code, and the jobs at the end of an evaluation. -/
inductive Stage where
  | script
  | jobs

/-- What can happen between two sessions, with the entries that the journal gains. -/
inductive Course : Stage → Session engine → List Entry → Session engine → Prop
  | stay {session : Session engine} : Course .script session [] session
  | stroke {session after : Session engine} {entries : List Entry}
      (hstroke : Stroke session entries after) : Course .script session entries after
  | append {session middle after : Session engine} {first second : List Entry}
      (hfirst : Course .script session first middle)
      (hsecond : Course .script middle second after) :
      Course .script session (first ++ second) after
  | inRealm {session inside : Session engine} {entries : List Entry} (realm : Realm)
      (hinside : Course .script { session with realm := realm } entries inside) :
      Course .script session entries { inside with realm := session.realm }
  | checked {session reported : Session engine} {record : ProfileRecord} {report : List Entry}
      (hkind : record.kind = .checkSyntax)
      (hreport : Course .script
        ((((session.entering record.source).looked .evaluation).looked .evaluation).recording record)
        report reported) :
      Course .script session
        (⟨record.source, [], [], session.kept record, report⟩ : Evaluation).entries
        (reported.leaving record.source)
  | evaluated {session ran drained reported : Session engine} {record : ProfileRecord}
      {script jobs report : List Entry} (hkind : record.kind = .evaluate)
      (hscript : Course .script ((session.entering record.source).looked .evaluation) script ran)
      (hjobs : Course .jobs ran jobs drained)
      (hreport : Course .script ((drained.looked .evaluation).recording record) report reported) :
      Course .script session
        (⟨record.source, script, jobs, drained.kept record, report⟩ : Evaluation).entries
        (reported.leaving record.source)
  | nested {session : Session engine} (hframes : session.frames.length ≠ 1) :
      Course .jobs session [] session
  | drained {session : Session engine} (hframes : session.frames.length = 1)
      (hjobs : session.jobs = []) : Course .jobs session [] session
  | job {session settled after : Session engine} {number : Nat} {job : engine.Job}
      {rest : List (Nat × engine.Job)} {body more : List Entry}
      (hframes : session.frames.length = 1) (hjobs : session.jobs = (number, job) :: rest)
      (hbody : Course .script (session.starting number) body settled)
      (hmore : Course .jobs (settled.note (.settled number)) more after) :
      Course .jobs session (.started number :: (body ++ .settled number :: more)) after
  | interrupted {session failed : Session engine} {number : Nat} {job : engine.Job}
      {rest : List (Nat × engine.Job)} {body : List Entry}
      (hframes : session.frames.length = 1) (hjobs : session.jobs = (number, job) :: rest)
      (hbody : Course .script (session.starting number) body failed) :
      Course .jobs session (.started number :: (body ++ [.interrupted number]))
        (failed.interrupted number)

namespace Course

variable {stage : Stage} {session after : Session engine} {entries : List Entry}

/-! ## What every course keeps -/

/-- Script code leaves the setting of a session as it is. -/
theorem setting_eq (h : Course stage session entries after) : after.setting = session.setting := by
  induction h with
  | stay => rfl
  | stroke hstroke => cases hstroke <;> rfl
  | append _ _ ihfirst ihsecond => exact ihsecond.trans ihfirst
  | inRealm _ _ ih =>
      simp only [Session.setting, Setting.mk.injEq] at ih ⊢
      simp [ih]
  | checked _ _ ih =>
      simp only [Session.setting, Setting.mk.injEq] at ih ⊢
      simp [ih]
  | evaluated _ _ _ _ ihscript ihjobs ihreport =>
      simp only [Session.setting, Setting.mk.injEq] at ihscript ihjobs ihreport ⊢
      simp [ihscript, ihjobs, ihreport]
  | nested _ => rfl
  | drained _ _ => rfl
  | job _ _ _ _ ihbody ihmore => exact ihmore.trans ihbody
  | interrupted _ _ _ ih => exact ih

theorem frames_eq (h : Course stage session entries after) : after.frames = session.frames :=
  congrArg Setting.frames h.setting_eq

theorem realm_eq (h : Course stage session entries after) : after.realm = session.realm :=
  congrArg Setting.realm h.setting_eq

theorem files_eq (h : Course stage session entries after) : after.files = session.files :=
  congrArg Setting.files h.setting_eq

theorem sampler_eq (h : Course stage session entries after) : after.sampler = session.sampler :=
  congrArg Setting.sampler h.setting_eq

theorem profiling_eq (h : Course stage session entries after) :
    after.profile.isSome = session.profile.isSome :=
  congrArg Setting.profiling h.setting_eq

private theorem reverse_toList {α : Type} (option : Option α) :
    option.toList.reverse = option.toList := by
  cases option <;> rfl

/-- The journal gains the entries of a course. -/
theorem history_eq (h : Course stage session entries after) :
    after.history = entries.reverse ++ session.history := by
  induction h with
  | stay => rfl
  | stroke hstroke => cases hstroke <;> simp
  | append _ _ ihfirst ihsecond => simp [ihfirst, ihsecond]
  | inRealm _ _ ih => simpa using ih
  | checked _ _ ih => simp [Evaluation.entries, Evaluation.closing, ih, reverse_toList]
  | evaluated _ _ _ _ ihscript ihjobs ihreport =>
      simp [Evaluation.entries, Evaluation.closing, ihscript, ihjobs, ihreport, reverse_toList]
  | nested _ => rfl
  | drained _ _ => rfl
  | job _ _ _ _ ihbody ihmore => simp [ihbody, ihmore]
  | interrupted _ _ _ ih => simp [ih]

theorem journal_eq (h : Course stage session entries after) :
    after.journal = session.journal ++ entries := by
  simp [Session.journal, h.history_eq]

/-! ## The entries of a course -/

/-- Whatever holds of single scripted entries and of calls with what they show, and of entries put
together, holds of the entries of every course. -/
theorem entries_induction {motive : List Entry → Prop} (hnil : motive [])
    (happend : ∀ {first second}, motive first → motive second → motive (first ++ second))
    (hscripted : ∀ {entry}, Entry.Scripted entry → motive [entry])
    (hcall : ∀ native frames, motive (.called native frames :: native.shows frames))
    (h : Course stage session entries after) : motive entries := by
  have hevaluation : ∀ {evaluation : Evaluation}, motive evaluation.script →
      motive evaluation.jobs → motive evaluation.report → motive evaluation.entries := by
    intro evaluation hscript hjobs hreport
    have hentered : motive [.entered evaluation.name] := hscripted trivial
    have hrecorded : motive (evaluation.record.map Entry.recorded).toList := by
      cases evaluation.record with
      | none => exact hnil
      | some record => exact hscripted trivial
    have hleft : motive [.left evaluation.name] := hscripted trivial
    exact happend hentered (happend (happend hscript hjobs)
      (happend (happend hrecorded hreport) hleft))
  induction h with
  | stay => exact hnil
  | stroke hstroke =>
      cases hstroke with
      | work | look | day | flag => exact hnil
      | write hout => exact hscripted hout
      | announce | readFile | readLine | queue | realm => exact hscripted trivial
      | call native => exact hcall native _
  | append _ _ ihfirst ihsecond => exact happend ihfirst ihsecond
  | inRealm _ _ ih => exact ih
  | checked _ _ ih => exact hevaluation hnil hnil ih
  | evaluated _ _ _ _ ihscript ihjobs ihreport => exact hevaluation ihscript ihjobs ihreport
  | nested _ => exact hnil
  | drained _ _ => exact hnil
  | @job _ _ _ number _ _ _ _ _ _ _ _ ihbody ihmore =>
      have hstarted : motive [.started number] := hscripted trivial
      have hsettled : motive [.settled number] := hscripted trivial
      exact happend hstarted (happend ihbody (happend hsettled ihmore))
  | @interrupted _ _ number _ _ _ _ _ _ ihbody =>
      have hstarted : motive [.started number] := hscripted trivial
      have hdropped : motive [.interrupted number] := hscripted trivial
      exact happend hstarted (happend ihbody hdropped)

end Course

end ScriptShell
