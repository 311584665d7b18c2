import ScriptShell.Proofs.Likeness.Limits
import ScriptShell.Proofs.Session.Crossing
import ScriptShell.Proofs.Session.Jobs

/-!
# A file inside an inline script

An inline script that calls `load` (`LoadCall`) has the file evaluated inside its own frame. The
source text of the file is run there as it is where the file is the only script, but the jobs that
it leaves wait for the inline script. If that completes with what the call gave (`LoadCall.Only`),
its evaluation comes to what the evaluation of the file comes to (`Host.yields_evaluateLoading`),
and both leave the same entries but for the frames (`Evaluation.Loads`).

The evaluation of the file is known to have come to its end. That of the inline script follows it,
unless the engine or the shell gives up (`Host.Yields`). The engine gives up where it is to stop.
-/

namespace ScriptShell

variable {engine : Engine}

/-! ## Actions that may give up -/

namespace Host

variable {α β : Type} {session : Session engine}

/-- The action comes to its end as said, or gives up. -/
def Yields (action : Host engine α) (session : Session engine)
    (holds : α → Session engine → Prop) : Prop :=
  (∃ value after, Ends action session value after ∧ holds value after) ∨
    ∃ cut, Halts action session .exhausted cut

namespace Yields

variable {action : Host engine α} {holds : α → Session engine → Prop}

theorem of_ends {value : α} {after : Session engine} (hends : Ends action session value after)
    (hholds : holds value after) : Yields action session holds :=
  .inl ⟨value, after, hends, hholds⟩

theorem bind {next : α → Host engine β} {last : β → Session engine → Prop}
    (haction : Yields action session holds)
    (hnext : ∀ ⦃value middle⦄, holds value middle → Yields (next value) middle last) :
    Yields (action >>= next) session last := by
  rcases haction with ⟨value, middle, hends, hholds⟩ | ⟨cut, hhalts⟩
  · rcases hnext hholds with ⟨result, after, hlast, hresult⟩ | ⟨cut, hhalts⟩
    · exact .inl ⟨result, after, ends_bind.mpr ⟨value, middle, hends, hlast⟩, hresult⟩
    · exact .inr ⟨cut, (halts_bind_of_ends hends).mpr hhalts⟩
  · exact .inr ⟨cut, halts_bind.mpr (.inl hhalts)⟩

/-- What is left to do behind a step that comes to its end. -/
theorem step {first : Host engine β} {next : β → Host engine α} {value : β}
    {middle : Session engine} (hfirst : Ends first session value middle)
    (hnext : Yields (next value) middle holds) : Yields (first >>= next) session holds := by
  have hreached : Yields first session fun given after => given = value ∧ after = middle :=
    .of_ends hfirst ⟨rfl, rfl⟩
  exact hreached.bind (by rintro _ _ ⟨rfl, rfl⟩; exact hnext)

theorem run_step {first : Attempt engine β} {next : β → Attempt engine α} {value : β}
    {middle : Session engine} {last : Except engine.Fault α → Session engine → Prop}
    (hfirst : Ends first.run session (.ok value) middle)
    (hnext : Yields (next value).run middle last) : Yields (first >>= next).run session last := by
  rw [ExceptT.run_bind]
  exact .step hfirst hnext

theorem run_bind {first : Attempt engine β} {next : β → Attempt engine α}
    {firstTo : β → Session engine → Prop} {last : Except engine.Fault α → Session engine → Prop}
    (hfirst : Yields first.run session fun result middle =>
      ∃ value, result = .ok value ∧ firstTo value middle)
    (hnext : ∀ ⦃value middle⦄, firstTo value middle → Yields (next value).run middle last) :
    Yields (first >>= next).run session last := by
  rw [ExceptT.run_bind]
  refine hfirst.bind ?_
  rintro _ middle ⟨value, rfl, hvalue⟩
  exact hnext hvalue

theorem lift_bind {next : α → Attempt engine β}
    {last : Except engine.Fault β → Session engine → Prop}
    (haction : Yields action session holds)
    (hnext : ∀ ⦃value middle⦄, holds value middle → Yields (next value).run middle last) :
    Yields (lift action >>= next).run session last := by
  rw [run_lift_bind]
  exact haction.bind hnext

theorem mono {weak : α → Session engine → Prop} (h : Yields action session holds)
    (hweak : ∀ ⦃value after⦄, holds value after → weak value after) :
    Yields action session weak := by
  rcases h with ⟨value, after, hends, hholds⟩ | hhalts
  · exact .inl ⟨value, after, hends, hweak hholds⟩
  · exact .inr hhalts

theorem holds_of_ends (h : Yields action session holds) {value : α} {after : Session engine}
    (hends : Ends action session value after) : holds value after := by
  rcases h with ⟨given, behind, hgiven, hholds⟩ | ⟨cut, hhalts⟩
  · obtain ⟨rfl, rfl⟩ := hgiven.unique hends
    exact hholds
  · cases hends.symm.trans hhalts

theorem not_quits (h : Yields action session holds) (cut : Session engine) :
    ¬ Halts action session .quit cut := by
  intro hquits
  rcases h with ⟨given, behind, hends, -⟩ | ⟨other, hhalts⟩
  · cases hquits.symm.trans hends
  · cases hquits.symm.trans hhalts

theorem withRealm {realm : Realm} {last : α → Session engine → Prop}
    (h : Yields action { session with realm := realm } holds)
    (hlast : ∀ ⦃value inside⦄, holds value inside →
      last value { inside with realm := session.realm }) :
    Yields (Host.withRealm realm action) session last := by
  rcases h with ⟨value, inside, hends, hholds⟩ | ⟨cut, hhalts⟩
  · exact .inl ⟨value, _, ends_withRealm.mpr ⟨inside, hends, rfl⟩, hlast hholds⟩
  · refine .inr ⟨cut, ?_⟩
    rw [Halts, outcome_withRealm, show action.outcome _ = _ from hhalts]

end Yields

/-- Of two actions that meet, the second comes to an end that corresponds to that of the first, or
gives up. -/
theorem Yields.of_meets {one two : Engine} {likeness : Likeness one two} {offset : Offset}
    {rel : α → β → Prop} {action : Host one α} {other : Host two β} {session after : Session one}
    {twin : Session two} {value : α}
    (h : likeness.Meets offset rel session twin (action.outcome session) (other.outcome twin))
    (hends : Ends action session value after) :
    Yields other twin fun given behind => rel value given ∧ likeness.Coupled offset after behind ∧
      Gains likeness.faithful offset session after twin behind := by
  rcases h.ends_or_gaveUp hends with ⟨given, behind, hother, hmeets⟩ | ⟨-, cut, hhalts⟩
  · exact .inl ⟨given, behind, hother, hmeets⟩
  · exact .inr ⟨cut, hhalts⟩

/-- An evaluation completes if its source text does and its jobs come to their end. -/
theorem yields_evaluate {answer : Answer engine} {bound : Nat} {source name : String}
    {ranTo : engine.Value → Session engine → Prop}
    (drainedTo : engine.Value → Session engine → Prop)
    (hscript : Yields (runSource answer source).run ((session.entering name).looked .evaluation)
      fun result ran => ∃ value, result = .ok value ∧ ranTo value ran)
    (hjobs : ∀ ⦃value ran⦄, ranTo value ran → Yields (drainOutermost answer bound) ran
      fun _ drained => drained.frames = name :: session.frames ∧ drainedTo value drained) :
    Yields (evaluate answer bound source name) session fun outcome after =>
      ∃ value drained record, outcome = .completed value ∧ drainedTo value drained ∧
        after = ((drained.looked .evaluation).recording record).leaving name := by
  have hinside : Yields (do
      let began ← now .evaluation
      let result ← (runSource answer source).run
      drainOutermost answer bound
      record ⟨name, .evaluate, ← elapsedSince .evaluation began, !result.isOk⟩
      evaluated answer result) (session.entering name) fun outcome inside =>
        ∃ value drained record, outcome = .completed value ∧ drainedTo value drained ∧
          inside.frames = name :: session.frames ∧
          inside = (drained.looked .evaluation).recording record := by
    refine .step (ends_now.mpr ⟨rfl, rfl⟩) (hscript.bind ?_)
    rintro _ ran ⟨value, rfl, hvalue⟩
    refine (hjobs hvalue).bind fun _ drained ⟨hframes, hdone⟩ => ?_
    refine .step (ends_elapsedSince.mpr ⟨rfl, rfl⟩)
      (.step (ends_record.mpr rfl : Ends _ _ () _) ?_)
    exact .of_ends (ends_pure.mpr ⟨rfl, rfl⟩) ⟨value, drained, _, rfl, hdone, hframes, rfl⟩
  refine .step (ends_enter.mpr rfl : Ends _ _ () _) (hinside.bind ?_)
  rintro _ _ ⟨value, drained, record, rfl, hdone, hframes, rfl⟩
  refine .step ((ends_leave hframes).mpr rfl : Ends _ _ () _) ?_
  exact .of_ends (ends_pure.mpr ⟨rfl, rfl⟩) ⟨value, drained, record, rfl, hdone, rfl⟩

/-- The engine is followed through a call of a native. -/
theorem yields_perform_native {answer : Answer engine} {before : engine.Store} {realm : Realm}
    {callee : Native} {arguments : List engine.Value}
    {resume : engine.Store → Except engine.Fault engine.Value → engine.Acts α}
    {holds : Except engine.Fault α → Session engine → Prop}
    (hanswer : Yields (answer realm callee arguments).run { session with store := before }
      fun given after => Yields (perform answer (resume after.store given)).run after holds) :
    Yields (perform answer (.native before realm callee arguments resume)).run session holds :=
  .step (ends_setStore before session) (hanswer.bind fun _ _ hgiven =>
    .step (ends_get.mpr ⟨rfl, rfl⟩) hgiven)

theorem yields_perform_finish {answer : Answer engine} {store : engine.Store}
    {result : Except engine.Fault α} {holds : Except engine.Fault α → Session engine → Prop}
    (hholds : holds result { session with store := store }) :
    Yields (perform answer (.finish store result)).run session holds :=
  .step (ends_setStore store session) (.of_ends (ends_pure.mpr ⟨rfl, rfl⟩) hholds)

theorem yields_perform_exhausted {answer : Answer engine}
    {holds : Except engine.Fault α → Session engine → Prop} :
    Yields (perform answer (.exhausted : engine.Acts α)).run session holds :=
  .inr ⟨session, rfl⟩

end Host

/-- A value and the session behind it correspond to others, as does what the sessions gained. -/
structure Likeness.Tracks {one two : Engine} (likeness : Likeness one two) (offset : Offset)
    (session after : Session one) (twin : Session two) (value : one.Value) (own : two.Value)
    (behind : Session two) : Prop where
  value : likeness.Value value own
  coupled : likeness.Coupled offset after behind
  gains : Gains likeness.faithful offset session after twin behind

/-! ## Scripts that load a file -/

/-- An inline script that begins with a call of `load` on a path, under some options and from a
state of the engine on. -/
structure LoadCall (engine : Engine) (environment : Realm) (options : Options)
    (store : engine.Store) (inline path : String) where
  code : engine.Code
  /-- The state in which `load` is called. -/
  before : engine.Store
  argument : engine.Value
  others : List engine.Value
  /-- What the script does behind the call. -/
  resume : engine.Store → Except engine.Fault engine.Value → engine.Acts engine.Value
  /-- The state in which the argument is converted. -/
  given : engine.Store
  parse_eq : engine.parse options inline = .ok code
  evaluate_eq : engine.evaluate environment code store =
    .native before environment .load (argument :: others) resume
  path_eq : engine.toText environment argument before = .finish given (.ok path)

namespace LoadCall

variable {environment : Realm} {options : Options} {store : engine.Store} {inline path : String}

/-- The call is the only thing that the script does: up to it and behind it no state is reached that
script code could tell from another, and the script completes with what the call gave. -/
structure Only (load : LoadCall engine environment options store inline path)
    (alike : engine.Store → engine.Store → Prop) (same : engine.Value → engine.Value → Prop) :
    Prop where
  before : alike store load.given
  behind ⦃state after : engine.Store⦄ ⦃value own : engine.Value⦄ (hstate : alike state after)
    (hvalue : same value own) :
    ∃ last, load.resume after (.ok own) = .finish last (.ok own) ∧ alike state last

/-! ### On an engine that stops early -/

variable {reached : engine.Store → Bool} {session : Session (engine.stoppingAt reached)}

theorem evaluate_stoppingAt (load : LoadCall engine environment options store inline path) :
    (engine.stoppingAt reached).evaluate environment load.code store =
      if reached load.before then .exhausted
      else .native load.before environment .load (load.argument :: load.others) fun store given =>
        (load.resume store given).stoppingAt reached := by
  show ((engine.evaluate environment load.code store).stoppingAt reached : engine.Acts _) = _
  rw [load.evaluate_eq]
  rfl

theorem toText_stoppingAt (load : LoadCall engine environment options store inline path) :
    (engine.stoppingAt reached).toText environment load.argument load.before =
      if reached load.given then .exhausted else .finish load.given (.ok path) := by
  show ((engine.toText environment load.argument load.before).stoppingAt reached :
    engine.Acts _) = _
  rw [load.path_eq]
  rfl

/-- The session in which `load` has found the file. -/
def found (load : LoadCall engine environment options store inline path)
    (session : Session (engine.stoppingAt reached)) : Session (engine.stoppingAt reached) :=
  { session with
    store := load.given
    realm := environment
    history := .fileRead path true :: .called .load session.frames :: session.history }

open Host

/-- The call comes to what the evaluation of the file comes to, unless the engine stops. -/
theorem yields_answer {nested : Nat} {content : Bytes}
    {holds : Evaluated (engine.stoppingAt reached) → Session (engine.stoppingAt reached) → Prop}
    (load : LoadCall engine environment options store inline path)
    (hread : session.files.read path = .ok content)
    (hevaluates : ∀ budget, Yields
      (evaluate (answer budget) budget (SourceBuffer.ofFile content).text path)
      (load.found session) holds) :
    Yields (@answer (engine.stoppingAt reached) nested environment .load
        (load.argument :: load.others)).run
      { session with store := load.before } fun given after =>
        ∃ outcome inside, holds outcome inside ∧ given = outcome.toExcept ∧
          after = { inside with realm := session.realm } := by
  cases nested with
  | zero => exact .inr ⟨_, rfl⟩
  | succ budget =>
      let converted : Session (engine.stoppingAt reached) :=
        { session with
          store := load.given
          realm := environment
          history := .called .load session.frames :: session.history }
      have hpath : Yields (@toText (engine.stoppingAt reached) (answer budget) load.argument).run
          { converted with store := load.before } fun result after =>
            ∃ value, result = .ok value ∧ value = path ∧ after = converted := by
        refine .step (ends_get.mpr ⟨rfl, rfl⟩) ?_
        show Yields (perform (answer budget)
          ((engine.stoppingAt reached).toText environment load.argument load.before)).run _ _
        rw [load.toText_stoppingAt]
        split
        · exact yields_perform_exhausted
        · exact yields_perform_finish ⟨path, rfl, rfl, rfl⟩
      have hloads : Ends (loadSource path : Attempt (engine.stoppingAt reached) String).run
          converted (.ok (SourceBuffer.ofFile content).text) (load.found session) := by
        have hfound : converted.files.read path = .ok content := hread
        refine ends_loadSource.mpr ?_
        rw [hfound]
        exact ⟨rfl, rfl⟩
      have hrespond : Yields
          (@loadFile (engine.stoppingAt reached) (answer budget) budget load.argument).run
          { converted with store := load.before } fun given inside =>
            ∃ outcome, holds outcome inside ∧ given = outcome.toExcept := by
        refine hpath.run_bind ?_
        rintro _ _ ⟨rfl, rfl⟩
        refine .run_step hloads ?_
        exact ((hevaluates budget).lift_bind fun outcome inside hholds =>
          .of_ends (ends_pure.mpr ⟨rfl, rfl⟩) ⟨outcome, hholds, rfl⟩)
      refine .step (ends_get.mpr ⟨rfl, rfl⟩) (.step (ends_note.mpr rfl : Ends _ _ () _) ?_)
      refine Yields.withRealm hrespond ?_
      rintro _ inside ⟨outcome, hholds, rfl⟩
      exact ⟨outcome, inside, hholds, rfl, rfl⟩

/-- The script completes with what the evaluation of the file completes with. -/
theorem yields_runSource {nested : Nat} {content : Bytes}
    {completesTo lastTo : engine.Value → Session (engine.stoppingAt reached) → Prop}
    (load : LoadCall engine environment session.options session.store inline path)
    (hrealm : session.realm = environment) (hread : session.files.read path = .ok content)
    (hevaluates : ∀ budget, Yields
      (evaluate (answer budget) budget (SourceBuffer.ofFile content).text path)
      (load.found session) fun outcome inside =>
        ∃ value, outcome = .completed value ∧ completesTo value inside)
    (hresume : ∀ ⦃value inside⦄, completesTo value inside → ∃ last,
      load.resume inside.store (.ok value) = .finish last (.ok value) ∧
        lastTo value { inside with realm := environment, store := last }) :
    Yields (runSource (answer nested) inline).run session fun result after =>
      ∃ value, result = .ok value ∧ lastTo value after := by
  rw [runSource_eq]
  refine .step (ends_get.mpr ⟨rfl, rfl⟩) ?_
  rw [show (engine.stoppingAt reached).parse session.options inline = _ from load.parse_eq]
  refine .step (ends_get.mpr ⟨rfl, rfl⟩) ?_
  rw [hrealm]
  show Yields (perform (answer nested)
    ((engine.stoppingAt reached).evaluate environment load.code session.store)).run _ _
  rw [load.evaluate_stoppingAt]
  split
  · exact yields_perform_exhausted
  · -- all that the script does is to call `load`
    refine yields_perform_native ((load.yields_answer hread hevaluates).mono ?_)
    rintro _ _ ⟨_, inside, ⟨value, rfl, hvalue⟩, rfl, rfl⟩
    obtain ⟨last, hlast, hdone⟩ := hresume hvalue
    show Yields (@perform (engine.stoppingAt reached) _ (answer nested)
      ((load.resume inside.store (.ok value)).stoppingAt reached)).run _ _
    rw [hlast, Behaviour.stoppingAt]
    split
    · exact yields_perform_exhausted
    · refine yields_perform_finish ⟨value, rfl, ?_⟩
      rw [hrealm]
      exact hdone

end LoadCall

/-! ## Evaluations of a file -/

/-- Entries are known by what they make of a history. -/
theorem Entry.eq_of_history_eq {before after entries others : List Entry}
    (h : after = entries.reverse ++ before) (hother : after = others.reverse ++ before) :
    entries = others :=
  List.reverse_injective (List.append_cancel_right (h.symm.trans hother))

theorem Entry.Mirrors.idle {timed : Prop} {frames others : List String}
    {entries copies : List Entry} (h : Entry.Mirrors timed frames others entries copies)
    (hidle : Entry.Idle entries) : Entry.Idle copies := by
  induction h with
  | nil => exact Entry.idle_nil
  | same entry _ ih =>
      rw [← List.singleton_append, Entry.idle_append] at hidle ⊢
      exact ⟨hidle.1, ih hidle.2⟩
  | recorded hrecord _ ih =>
      rw [← List.singleton_append, Entry.idle_append] at hidle ⊢
      exact ⟨by simp [Entry.runsJob], ih hidle.2⟩
  | called native inner _ ih =>
      have hshows := native.idle_shows (inner ++ others)
      rw [← List.singleton_append, Entry.idle_append, Entry.idle_append] at hidle ⊢
      exact ⟨by simp [Entry.runsJob], hshows, ih hidle.2.2⟩

/-- A file was evaluated inside an inline script, and its source text left what is mirrored from
entries that it left elsewhere. No job ran behind it. -/
structure Evaluation.Nests (path inline : String) (script : List Entry) (loaded : Evaluation) :
    Prop where
  name_eq : loaded.name = path
  jobs_eq : loaded.jobs = []
  report_eq : loaded.report = []
  script : Entry.Mirrors False [path] [path, inline] script loaded.script

/-- How the evaluation of a file stands to that of an inline script that loads it. The file runs
inside the inline script and its jobs run behind that; otherwise both do the same. -/
structure Evaluation.Loads (path : String) (file inline : Evaluation) : Prop where
  script : ∃ loaded : Evaluation,
    inline.script = .called .load [inline.name] :: .fileRead path true :: loaded.entries ∧
    loaded.Nests path inline.name file.script
  jobs : Entry.Mirrors False [path] [inline.name] file.jobs inline.jobs
  report_eq : file.report = [] ∧ inline.report = []
  /-- No job runs before the file has completed, nor before the inline script has. -/
  idle : Entry.Idle file.script ∧ Entry.Idle inline.script

/-- An evaluation keeps one record at most. -/
theorem reverse_kept (session : Session engine) (record : ProfileRecord) :
    ((session.kept record).map Entry.recorded).toList.reverse =
      ((session.kept record).map Entry.recorded).toList := by
  cases session.kept record <;> rfl

namespace Host

/-- An evaluation that completed had nothing to report. -/
theorem EvaluationRun.of_completed {answer : Answer engine} {source name : String}
    {session after : Session engine} {value : engine.Value}
    (run : EvaluationRun answer source name session (.completed value) after) :
    run.result = .ok value ∧
      run.reported = (run.drained.looked .evaluation).recording run.record ∧
      run.report = [] := by
  obtain ⟨hresult, hreported⟩ := ends_evaluated.mp run.ends_report
  have hsame : run.reported = (run.drained.looked .evaluation).recording run.record := hreported
  refine ⟨hresult.symm, hsame, ?_⟩
  have hhistory := run.course_report.history_eq
  rw [hsame] at hhistory
  simpa using hhistory

section Loading

open Likeness

variable {reached : engine.Store → Bool}
  {likeness : Likeness (engine.stoppingAt reached) (engine.stoppingAt reached)}
  {budget nested : Nat} {environment : Realm} {path inline name : String} {content : Bytes}
  {value : engine.Value}
  (hsound : likeness.Sound) (hloose : ¬ likeness.faithful)

include hsound hloose

/-- The file is evaluated alike inside a frame of an inline script. No job runs behind it there. -/
theorem yields_evaluateFile {session ran found : Session (engine.stoppingAt reached)}
    {script : List Entry} {source : String}
    (hcoupled : likeness.Coupled ⟨[path], [name]⟩ session found)
    (hran : Ends (runSource (answer budget) source).run session (.ok value) ran)
    (hscript : ran.history = script.reverse ++ session.history) :
    Yields (evaluate (answer nested) nested source path) found fun outcome inside =>
      ∃ own, outcome = .completed own ∧ likeness.Value value own ∧
        likeness.Coupled ⟨[path], [name]⟩ ran inside ∧
        ∃ loaded : Evaluation, inside.history = loaded.entries.reverse ++ found.history ∧
          loaded.Nests path name script := by
  have hinner : likeness.Coupled ⟨[path], [path, name]⟩ session
      ((found.entering path).looked .evaluation) :=
    { hcoupled with
      others_eq := congrArg (path :: ·) hcoupled.others_eq
      outermost := iff_of_false (List.cons_ne_nil _ _) (List.cons_ne_nil _ _)
      told_eq := (Clock.told_looked_of_ne (by decide)).trans hcoupled.told_eq
      clock_eq := fun hfaithful => absurd hfaithful hloose }
  have hless : likeness.faithful → budget ≤ nested := fun hfaithful => absurd hfaithful hloose
  have hruns : Yields (runSource (answer nested) source).run
      ((found.entering path).looked .evaluation) fun result inside =>
        ∃ own, result = .ok own ∧ likeness.Tracks ⟨[path], [path, name]⟩ session ran
          ((found.entering path).looked .evaluation) value own inside := by
    refine (Yields.of_meets
      (pairs_runSource hsound (pairs_answer hsound hless) source hinner) hran).mono ?_
    rintro _ inside ⟨hresult, hinside, hgains⟩
    cases hresult with
    | ok hvalue => exact ⟨_, rfl, hvalue, hinside, hgains⟩
  refine (yields_evaluate (likeness.Tracks ⟨[path], [path, name]⟩ session ran
    ((found.entering path).looked .evaluation) value) hruns fun own inside hinside => ?_).mono ?_
  · -- two frames are open, so the evaluation leaves the jobs to the inline script
    have hnone : Ends (drainOutermost (answer nested) nested) inside () inside := by
      refine ends_get_bind.mpr ?_
      rw [if_neg (by rw [hinside.coupled.others_eq]; simp)]
      exact ends_pure.mpr ⟨rfl, rfl⟩
    refine .of_ends hnone ⟨?_, hinside⟩
    rw [hinside.coupled.others_eq, hcoupled.others_eq]
  · rintro _ _ ⟨own, drained, record, rfl, ⟨hvalue, hdrained, hgains⟩, rfl⟩
    obtain ⟨entries, copies, hhistory, hcopies, hmirrors⟩ := hgains.history
    obtain rfl : entries = script := Entry.eq_of_history_eq hhistory hscript
    refine ⟨own, rfl, hvalue, ?_, ⟨path, copies, [], drained.kept record, []⟩, ?_, rfl, rfl, rfl,
      hmirrors.untimed⟩
    · exact
        { hdrained with
          others_eq := congrArg List.tail hdrained.others_eq
          outermost := iff_of_false (List.cons_ne_nil _ _) (List.cons_ne_nil _ _)
          profiling_eq := (Option.isSome_map ..).trans hdrained.profiling_eq
          told_eq := (Clock.told_looked_of_ne (by decide)).trans hdrained.told_eq
          clock_eq := fun hfaithful => absurd hfaithful hloose }
    · simp [Evaluation.entries, Evaluation.closing, hcopies, reverse_kept]

/-- The source text of an inline script that loads the file completes with what the file completes
with. -/
theorem yields_runLoading {session ran twin : Session (engine.stoppingAt reached)}
    {script : List Entry}
    (load : LoadCall engine environment twin.options twin.store inline path)
    (honly : load.Only likeness.Store likeness.Value)
    (hcoupled : likeness.Coupled ⟨[path], [name]⟩ session { twin with store := load.given })
    (hrealm : twin.realm = environment) (hread : twin.files.read path = .ok content)
    (hran : Ends (runSource (answer budget) (SourceBuffer.ofFile content).text).run session
      (.ok value) ran)
    (hscript : ran.history = script.reverse ++ session.history)
    (hranRealm : ran.realm = environment) :
    Yields (runSource (answer nested) inline).run twin fun result after =>
      ∃ own, result = .ok own ∧ likeness.Value value own ∧
        likeness.Coupled ⟨[path], [name]⟩ ran after ∧
        ∃ loaded : Evaluation, after.history = (.called .load [name] :: .fileRead path true ::
            loaded.entries).reverse ++ twin.history ∧ loaded.Nests path name script := by
  have hfound : likeness.Coupled ⟨[path], [name]⟩ session (load.found twin) :=
    { hcoupled with realm_eq := hrealm.symm.trans hcoupled.realm_eq }
  refine load.yields_runSource hrealm hread
    (fun _ => yields_evaluateFile hsound hloose hfound hran hscript) ?_
  rintro own inside ⟨hvalue, hinside, loaded, hhistory, hloaded⟩
  obtain ⟨last, hlast, hstore⟩ := honly.behind hinside.store hvalue
  have hframes : twin.frames = [name] := hcoupled.others_eq
  refine ⟨last, hlast, hvalue, { hinside with store := hstore, realm_eq := ?_ }, loaded, ?_,
    hloaded⟩
  · exact hranRealm.symm
  · rw [hhistory, LoadCall.found, hframes]
    simp

/-- An inline script that loads the file is evaluated alike. -/
theorem yields_evaluateLoading {session after twin : Session (engine.stoppingAt reached)}
    (load : LoadCall engine environment twin.options twin.store inline path)
    (honly : load.Only likeness.Store likeness.Value)
    (hcoupled : likeness.Coupled ⟨[], []⟩ session { twin with store := load.given })
    (hrealm : twin.realm = environment) (hread : twin.files.read path = .ok content)
    (run : EvaluationRun (answer budget) (SourceBuffer.ofFile content).text path session
      (.completed value) after)
    (hdrained : Ends (drainOutermost (answer budget) budget) run.ran () run.drained) :
    Yields (evaluate (answer nested) nested inline name) twin fun outcome behind =>
      ∃ own evaluation, outcome = .completed own ∧ likeness.Value value own ∧
        likeness.Coupled ⟨[], []⟩ after behind ∧
        behind.history = evaluation.entries.reverse ++ twin.history ∧ evaluation.name = name ∧
        run.evaluation.Loads path evaluation := by
  obtain ⟨hresult, hreported, hreport⟩ := run.of_completed
  have hran := run.ends_script
  rw [hresult] at hran
  have hranRealm : run.ran.realm = environment := by
    rw [run.course_script.realm_eq, ← hrealm]
    exact hcoupled.realm_eq.symm
  have hentered : likeness.Coupled ⟨[path], [name]⟩ ((session.entering path).looked .evaluation)
      { ((twin.entering name).looked .evaluation) with store := load.given } :=
    { hcoupled.looked .evaluation with
      frames_eq := congrArg (path :: ·) hcoupled.frames_eq
      others_eq := congrArg (name :: ·) hcoupled.others_eq
      outermost := iff_of_false (List.cons_ne_nil _ _) (List.cons_ne_nil _ _) }
  have hless : likeness.faithful → budget ≤ nested := fun hfaithful => absurd hfaithful hloose
  have hruns : Yields (runSource (answer nested) inline).run
      ((twin.entering name).looked .evaluation) _ :=
    yields_runLoading hsound hloose load honly hentered hrealm hread hran
      run.course_script.history_eq hranRealm
  refine (yields_evaluate (fun own drained => likeness.Value value own ∧
    likeness.Coupled ⟨[path], [name]⟩ run.drained drained ∧
      ∃ (loaded : Evaluation) (copies : List Entry), drained.history = copies.reverse ++
          ((.called .load [name] :: .fileRead path true :: loaded.entries).reverse ++
            ((twin.entering name).looked .evaluation).history) ∧
        loaded.Nests path name run.script ∧ Entry.Mirrors False [path] [name] run.jobs copies)
    hruns fun own ran hran => ?_).mono ?_
  · -- behind the inline script the jobs run that ran behind the file
    obtain ⟨hvalue, hran, loaded, hhistory, hloaded⟩ := hran
    refine (Yields.of_meets (pairs_drainOutermost hsound (pairs_answer hsound hless) hless
      (iff_of_true rfl rfl) hran) hdrained).mono ?_
    rintro _ drained ⟨-, hdrained, hgains⟩
    obtain ⟨entries, copies, hentries, hcopies, hmirrors⟩ := hgains.history
    obtain rfl : entries = run.jobs := Entry.eq_of_history_eq hentries run.course_jobs.history_eq
    refine ⟨?_, hvalue, hdrained, loaded, copies, by rw [hcopies, hhistory], hloaded,
      hmirrors.untimed⟩
    rw [hdrained.others_eq, show twin.frames = [] from hcoupled.others_eq]
  · rintro _ _ ⟨own, drained, record, rfl, ⟨hvalue, hdrained, loaded, copies, hhistory, hloaded,
      hjobs⟩, rfl⟩
    have hidle : Entry.Idle run.script := run.course_script.idle (by simp)
    refine ⟨own, ⟨name, .called .load [name] :: .fileRead path true :: loaded.entries, copies,
      drained.kept record, []⟩, rfl, hvalue, ?_, ?_, rfl, ⟨⟨loaded, rfl, hloaded⟩, hjobs,
      ⟨hreport, rfl⟩, hidle, ?_⟩⟩
    · rw [run.after_eq, hreported]
      exact ((hdrained.looked .evaluation).recording run.record record).leaving rfl rfl Iff.rfl
    · simp [Evaluation.entries, Evaluation.closing, hhistory, reverse_kept]
    · have hloadedIdle : Entry.Idle loaded.entries := by
        refine Evaluation.idle_entries (hloaded.script.idle hidle) ?_ ?_
        · rw [hloaded.jobs_eq]
          exact Entry.idle_nil
        · rw [hloaded.report_eq]
          exact Entry.idle_nil
      simp [hloadedIdle, Entry.runsJob]

end Loading

end Host

end ScriptShell
