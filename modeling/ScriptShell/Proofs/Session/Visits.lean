import ScriptShell.Proofs.Session.Following

/-!
# Evaluations and syntax checks, and how they nest

A visit is one evaluation or one syntax check: a source text reaches the engine inside a frame of
its own. Script code starts further visits at three stages of an evaluation, namely while its
source text runs, while jobs run behind it and while what it threw is read, and at the last of
these of a syntax check. `Visits` keeps the visits between two sessions in the shape in which they
nest, and `Visits.Between` says that they are the ones that took place there, each between its own
sessions and with nothing of its kind in between.

## Main results

* `Visits.Between.profile_eq`: the profile gains one record for each visit, behind those of its
  script and its jobs and before those of its report.
* `Visits.Between.marks_eq`: the frames and the records of the journal are those of the visits.
-/

namespace ScriptShell

variable {engine : Engine}

/-! ## Visits -/

/-- One evaluation or syntax check, with the sessions between its stages. -/
structure Visit (engine : Engine) where
  name : String
  kind : EvaluationKind
  source : String
  /-- What the engine made of the source text, by parsing and running it or by parsing alone. -/
  result : Except engine.Fault engine.Value
  /-- The session before the frame was entered. -/
  opened : Session engine
  /-- The session behind the run of the source text. -/
  ran : Session engine
  /-- The session behind the jobs. -/
  drained : Session engine
  /-- The session behind the report. -/
  reported : Session engine

namespace Visit

/-- The record of a visit: it threw if the engine's own work on the source text failed, whatever
became of the jobs and of the report. -/
def record (visit : Visit engine) : ProfileRecord where
  source := visit.name
  kind := visit.kind
  elapsed := Duration.ofNanos
    (visit.drained.clock.instant .evaluation - visit.opened.clock.instant .evaluation)
  threw := !visit.result.isOk

/-- The session in which the work on the source text began. -/
def begun (visit : Visit engine) : Session engine :=
  (visit.opened.entering visit.name).looked .evaluation

/-- The session with the record. -/
def recorded (visit : Visit engine) : Session engine :=
  (visit.drained.looked .evaluation).recording visit.record

/-- The session behind the frame. -/
def closed (visit : Visit engine) : Session engine :=
  visit.reported.leaving visit.name

/-- The engine did what the kind of the visit asks for. -/
def Works (budget : Nat) (visit : Visit engine) : Prop :=
  match visit.kind with
  | .evaluate =>
    Host.Ends (Host.runSource (Host.answer budget) visit.source).run visit.begun visit.result
        visit.ran ∧
      Host.Ends (Host.drainOutermost (Host.answer budget) budget) visit.ran () visit.drained
  | .checkSyntax =>
    visit.result = (engine.parse visit.opened.options visit.source).map
        (fun _ => engine.undefined) ∧
      visit.ran = visit.begun ∧ visit.drained = visit.begun

/-- The stages of a visit lead from one of its sessions to the next. -/
def Performed (visit : Visit engine) : Prop :=
  ∃ budget outcome, visit.Works budget ∧
    Host.Ends (Host.evaluated (Host.answer budget) visit.result) visit.recorded outcome
      visit.reported

end Visit

/-- Visits one after another, each with those that started inside it. -/
inductive Visits (engine : Engine) where
  | none
  | visit (own : Visit engine) (script jobs report next : Visits engine)

/-- Whether an entry is about the frame or the record of a visit. -/
def Entry.marks : Entry → Bool
  | .entered _ | .recorded _ | .left _ => true
  | _ => false

/-- Whether an entry is about a frame that was entered. -/
def Entry.enters : Entry → Bool
  | .entered _ => true
  | _ => false

/-- Between two sessions no frame was entered or left and the profile gained nothing. -/
structure Quiet (session after : Session engine) : Prop where
  profile_eq : after.profile = session.profile
  history : ∃ entries : List Entry, after.history = entries.reverse ++ session.history ∧
    ∀ entry ∈ entries, entry.marks = false

namespace Visits

/-- The visits and then others. -/
def append : Visits engine → Visits engine → Visits engine
  | .none, others => others
  | .visit own script jobs report next, others =>
    .visit own script jobs report (next.append others)

/-- The records of the visits. The record of a visit stands behind those of its script and its
jobs and before those of its report. -/
def records : Visits engine → List ProfileRecord
  | .none => []
  | .visit own script jobs report next =>
    script.records ++ jobs.records ++ own.record :: (report.records ++ next.records)

/-- What the visits leave in the journal about frames and records. -/
def marks : Visits engine → List Entry
  | .none => []
  | .visit own script jobs report next =>
    .entered own.name :: (script.marks ++ jobs.marks ++
      .recorded own.record :: (report.marks ++ .left own.name :: next.marks))

/-- As many frames are entered as records are gained. -/
theorem countP_enters_marks (visits : Visits engine) :
    visits.marks.countP Entry.enters = visits.records.length := by
  induction visits with
  | none => rfl
  | visit own script jobs report next ihscript ihjobs ihreport ihnext =>
      simp only [marks, records, List.countP_cons, List.countP_append, List.length_append,
        List.length_cons, ihscript, ihjobs, ihreport, ihnext, Entry.enters]
      simp only [Bool.false_eq_true, if_true, if_false]
      omega

/-- The visits are those that took place between two sessions. -/
def Between : Visits engine → Session engine → Session engine → Prop
  | .none, session, after => Quiet session after
  | .visit own script jobs report next, session, after =>
    Quiet session own.opened ∧ own.Performed ∧ script.Between own.begun own.ran ∧
      jobs.Between own.ran own.drained ∧ report.Between own.recorded own.reported ∧
      next.Between own.closed after

/-- There is one visit, as said, with whatever started inside it. -/
def Single (name : String) (kind : EvaluationKind) (source : String)
    (result : Except engine.Fault engine.Value) (visits : Visits engine) : Prop :=
  ∃ own script jobs report, visits = .visit own script jobs report .none ∧ own.name = name ∧
    own.kind = kind ∧ own.source = source ∧ own.result = result

end Visits

/-! ## Between two sessions -/

namespace Quiet

variable {session middle after : Session engine}

theorem refl (session : Session engine) : Quiet session session :=
  ⟨rfl, [], rfl, List.forall_mem_nil _⟩

theorem trans (hfirst : Quiet session middle) (hsecond : Quiet middle after) :
    Quiet session after := by
  obtain ⟨first, hmiddle, hfirstMarks⟩ := hfirst.history
  obtain ⟨second, hafter, hsecondMarks⟩ := hsecond.history
  refine ⟨hsecond.profile_eq.trans hfirst.profile_eq, first ++ second, ?_, ?_⟩
  · rw [hafter, hmiddle, List.reverse_append, List.append_assoc]
  · exact List.forall_mem_append.mpr ⟨hfirstMarks, hsecondMarks⟩

/-- A session in which neither profile nor history changed. -/
theorem of_eq (hprofile : after.profile = session.profile)
    (hhistory : after.history = session.history) : Quiet session after :=
  ⟨hprofile, [], hhistory, List.forall_mem_nil _⟩

theorem looked (session : Session engine) (look : Look) : Quiet session (session.looked look) :=
  .of_eq rfl rfl

theorem noteAll {entries : List Entry} (hentries : ∀ entry ∈ entries, entry.marks = false) :
    Quiet session (session.noteAll entries) :=
  ⟨rfl, entries, rfl, hentries⟩

theorem note {entry : Entry} (hentry : entry.marks = false) :
    Quiet session (session.note entry) :=
  ⟨rfl, [entry], rfl, by simpa using hentry⟩

theorem journal_eq (h : Quiet session after) :
    ∃ entries, after.journal = session.journal ++ entries ∧
      entries.filter Entry.marks = [] := by
  obtain ⟨entries, hhistory, hentries⟩ := h.history
  refine ⟨entries, by simp [Session.journal, hhistory], ?_⟩
  rw [List.filter_eq_nil_iff]
  intro entry hentry
  simp [hentries entry hentry]

end Quiet

namespace Visits.Between

variable {session begun middle after : Session engine} {visits others : Visits engine}

theorem quiet_left (hquiet : Quiet session begun) (h : visits.Between begun after) :
    visits.Between session after := by
  cases visits with
  | none => exact hquiet.trans h
  | visit own script jobs report next => exact ⟨hquiet.trans h.1, h.2⟩

theorem append (hfirst : visits.Between session middle) (hsecond : others.Between middle after) :
    (visits.append others).Between session after := by
  -- only `next` reaches the end of the visits; the other parts lie inside their visit
  induction visits generalizing session with
  | none => exact hsecond.quiet_left hfirst
  | visit own script jobs report next _ _ _ ihnext =>
      obtain ⟨hopened, hperformed, hscript, hjobs, hreport, hnext⟩ := hfirst
      exact ⟨hopened, hperformed, hscript, hjobs, hreport, ihnext hnext⟩

theorem quiet_right (h : visits.Between session middle) (hquiet : Quiet middle after) :
    visits.Between session after := by
  induction visits generalizing session with
  | none => exact Quiet.trans h hquiet
  | visit own script jobs report next _ _ _ ihnext =>
      obtain ⟨hopened, hperformed, hscript, hjobs, hreport, hnext⟩ := h
      exact ⟨hopened, hperformed, hscript, hjobs, hreport, ihnext hnext⟩

theorem inRealm {realm back : Realm} {inside : Session engine}
    (h : visits.Between { session with realm := realm } inside) :
    visits.Between session { inside with realm := back } := by
  have hbefore : Quiet session { session with realm := realm } := .of_eq rfl rfl
  have hbehind : Quiet inside { inside with realm := back } := .of_eq rfl rfl
  exact (h.quiet_right hbehind).quiet_left hbefore

/-- The profile gains the records of the visits. -/
theorem profile_eq (h : visits.Between session after) :
    after.profile = session.profile.map (· ++ visits.records) := by
  induction visits generalizing session after with
  | none => simp [h.profile_eq, records]
  | visit own script jobs report next ihscript ihjobs ihreport ihnext =>
      obtain ⟨hopened, -, hscript, hjobs, hreport, hnext⟩ := h
      have hbegun : own.begun.profile = session.profile := hopened.profile_eq
      have hrecorded : own.recorded.profile = own.drained.profile.map (· ++ [own.record]) := rfl
      have hclosed : own.closed.profile = own.reported.profile := rfl
      rw [ihnext hnext, hclosed, ihreport hreport, hrecorded, ihjobs hjobs, ihscript hscript,
        hbegun]
      simp [records, Option.map_map, Function.comp_def]

/-- Visits leave profiling on where it is on. -/
theorem profiling_eq (h : visits.Between session after) :
    after.profile.isSome = session.profile.isSome := by
  rw [h.profile_eq, Option.isSome_map]

/-- Where profiling is on, the frames and the records of the journal are those of the visits. -/
theorem marks_eq (h : visits.Between session after) (hprofiling : session.profile.isSome = true) :
    ∃ entries, after.journal = session.journal ++ entries ∧
      entries.filter Entry.marks = visits.marks := by
  induction visits generalizing session after with
  | none => exact Quiet.journal_eq h
  | visit own script jobs report next ihscript ihjobs ihreport ihnext =>
      obtain ⟨hopened, -, hscript, hjobs, hreport, hnext⟩ := h
      -- the record is in the journal if profiling is on when it is made
      have hopenedOn : own.opened.profile.isSome = true := by rw [hopened.profile_eq, hprofiling]
      have hran := hscript.profiling_eq.trans hopenedOn
      have hdrained := hjobs.profiling_eq.trans hran
      have hkept : (own.drained.looked .evaluation).kept own.record = some own.record := by
        obtain ⟨records, hrecords⟩ := Option.isSome_iff_exists.mp hdrained
        simp [Session.kept, hrecords]
      have hrecordedOn : own.recorded.profile.isSome = true := by
        simp [Visit.recorded, hdrained]
      have hreported := hreport.profiling_eq.trans hrecordedOn
      obtain ⟨first, hfirst, hfirstMarks⟩ := hopened.journal_eq
      obtain ⟨second, hsecond, hsecondMarks⟩ := ihscript hscript hopenedOn
      obtain ⟨third, hthird, hthirdMarks⟩ := ihjobs hjobs hran
      obtain ⟨fourth, hfourth, hfourthMarks⟩ := ihreport hreport hrecordedOn
      obtain ⟨fifth, hfifth, hfifthMarks⟩ := ihnext hnext hreported
      have hbegun : own.begun.journal = own.opened.journal ++ [.entered own.name] := by
        simp [Visit.begun, Session.journal]
      have hrecorded : own.recorded.journal = own.drained.journal ++ [.recorded own.record] := by
        simp [Visit.recorded, Session.journal, hkept]
      have hclosed : own.closed.journal = own.reported.journal ++ [.left own.name] := by
        simp [Visit.closed, Session.journal]
      refine ⟨first ++ .entered own.name :: (second ++ third ++ .recorded own.record ::
        (fourth ++ .left own.name :: fifth)), ?_, ?_⟩
      · rw [hfifth, hclosed, hfourth, hrecorded, hthird, hsecond, hbegun, hfirst]
        simp
      · simp [List.filter_cons, Entry.marks, hfirstMarks, hsecondMarks, hthirdMarks, hfourthMarks,
          hfifthMarks, marks]

end Visits.Between

/-- The visits took place between two sessions, and what the profile and the journal say of
evaluations and syntax checks is what they left there: one record for each frame entered. -/
structure Visits.Account (visits : Visits engine) (session after : Session engine) : Prop where
  between : visits.Between session after
  profile_eq : after.profile = session.profile.map (· ++ visits.records)
  journal_eq : session.profile.isSome = true → ∃ entries,
    after.journal = session.journal ++ entries ∧ entries.filter Entry.marks = visits.marks ∧
      entries.countP Entry.enters = visits.records.length

theorem Visits.Between.account {session after : Session engine} {visits : Visits engine}
    (h : visits.Between session after) : visits.Account session after where
  between := h
  profile_eq := h.profile_eq
  journal_eq hprofiling := by
    obtain ⟨entries, hjournal, hmarks⟩ := h.marks_eq hprofiling
    refine ⟨entries, hjournal, hmarks, ?_⟩
    rw [← visits.countP_enters_marks, ← hmarks, List.countP_filter]
    refine List.countP_congr fun entry _ => ?_
    cases entry <;> simp [Entry.enters, Entry.marks]

end ScriptShell
