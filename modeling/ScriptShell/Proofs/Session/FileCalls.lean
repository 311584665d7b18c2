import ScriptShell.Proofs.Session.ProfileLog
import ScriptShell.Proofs.Session.Reading

/-!
# Calls of natives that are given a file

An evaluation and a syntax check come to their end in the same way: the engine works on the source
text, what it threw is read once and the frame is left (`Visit.Ended`). The natives `load`, `run`
and `checkSyntax` get hold of the text of a file, have it evaluated or checked, and hand on what it
threw.

## Main results

* `Host.ends_visit`: evaluations and syntax checks are visits that ended.
* `Host.answered_cases`: what a call of one of the three natives comes to.
* `Host.answered_of_threw`: where the visit threw, it is what the visit threw.
-/

namespace ScriptShell

variable {engine : Engine}

/-! ## Visits that ended -/

/-- What is reported of an outcome was read from a session on: nothing of a value. -/
def Evaluated.Reported (answer : Answer engine) (session : Session engine) :
    Evaluated engine → Session engine → Prop
  | .completed _, after => after = session
  | .threw fault info, after => Host.Reads answer fault session info after

/-- How a visit came to its end: its outcome is the result of the engine's own work and, where that
threw, what is reported of it was read once, inside the frame of the visit. -/
structure Visit.Ended (budget : Nat) (visit : Visit engine) (outcome : Evaluated engine) :
    Prop where
  works : visit.Works budget
  frames_eq : visit.recorded.frames = visit.name :: visit.opened.frames
  outcome_eq : outcome.toExcept = visit.result
  reports : outcome.Reported (Host.answer budget) visit.recorded visit.reported

/-- The visit is that of a source text under a name, from a session on. -/
structure Visit.Of (kind : EvaluationKind) (name source : String) (session : Session engine)
    (visit : Visit engine) : Prop where
  kind_eq : visit.kind = kind
  name_eq : visit.name = name
  source_eq : visit.source = source
  opened_eq : visit.opened = session

namespace Host

variable {α β : Type} {budget : Nat} {session after : Session engine}

/-- An evaluation or a syntax check. -/
def visit (budget : Nat) (kind : EvaluationKind) (source name : String) :
    Host engine (Evaluated engine) :=
  match kind with
  | .evaluate => evaluate (answer budget) budget source name
  | .checkSyntax => checkSyntax (answer budget) source name

theorem ends_evaluated {answer : Answer engine} {result : Except engine.Fault engine.Value}
    {outcome : Evaluated engine} :
    Ends (evaluated answer result) session outcome after ↔
      outcome.toExcept = result ∧ outcome.Reported answer session after := by
  unfold evaluated
  cases result with
  | ok value =>
      rw [ends_pure]
      cases outcome with
      | completed given => simp [Evaluated.toExcept, Evaluated.Reported]
      | threw fault info => simp [Evaluated.toExcept]
  | error fault =>
      simp only [ends_bind, ends_exceptionInfo, ends_pure]
      cases outcome with
      | completed given => simp [Evaluated.toExcept, Evaluated.Reported]
      | threw thrown info =>
          simp only [Evaluated.toExcept, Evaluated.Reported, Evaluated.threw.injEq,
            Except.error.injEq]
          constructor
          · rintro ⟨_, _, hreads, ⟨rfl, rfl⟩, rfl⟩
            exact ⟨rfl, hreads⟩
          · rintro ⟨rfl, hreads⟩
            exact ⟨_, _, hreads, ⟨rfl, rfl⟩, rfl⟩

theorem frames_recorded {visit : Visit engine} (hworks : visit.Works budget) :
    visit.recorded.frames = visit.name :: visit.opened.frames := by
  show visit.drained.frames = _
  unfold Visit.Works at hworks
  split at hworks
  · obtain ⟨hscript, hjobs⟩ := hworks
    have hanswer := @follows_answer engine budget
    obtain ⟨_, hscript⟩ := follows_closed.runSource hanswer _ hscript
    obtain ⟨_, hjobs⟩ := course_drainOutermost (fun _ => follows_closed.act hanswer _) _ hjobs
    rw [hjobs.frames_eq, hscript.frames_eq]
    rfl
  · rw [hworks.2.2]
    rfl

/-- Once the engine's work is done, what is left of a visit is to read what was thrown and to leave
the frame. -/
theorem outcome_visit {own : Visit engine} (hworks : own.Works budget) :
    (visit budget own.kind own.source own.name).outcome own.opened =
      (evaluated (answer budget) own.result >>= fun outcome => leave >>= fun _ =>
        pure outcome).outcome own.recorded := by
  obtain ⟨name, kind, source, result, opened, ran, drained, reported⟩ := own
  cases kind with
  | evaluate =>
      have hscript : Ends (runSource (answer budget) source).run
        ((opened.entering name).looked .evaluation) result ran := hworks.1
      have hjobs : Ends (drainOutermost (answer budget) budget) ran () drained := hworks.2
      show (evaluate (answer budget) budget source name).outcome opened = _
      unfold evaluate withFrame
      simp only [bind_assoc]
      rw [outcome_bind_of_ends (ends_enter.mpr rfl : Ends (enter _) _ () _),
        outcome_bind_of_ends (ends_now.mpr ⟨rfl, rfl⟩),
        outcome_bind_of_ends hscript,
        outcome_bind_of_ends hjobs, outcome_bind_of_ends (ends_elapsedSince.mpr ⟨rfl, rfl⟩),
        outcome_bind_of_ends (ends_record.mpr rfl : Ends (Host.record _) _ () _)]
      rfl
  | checkSyntax =>
      obtain ⟨hparsed, -, hdrained⟩ := hworks
      obtain rfl : drained = (opened.entering name).looked .evaluation := hdrained
      obtain rfl : result = (engine.parse opened.options source).map fun _ => engine.undefined :=
        hparsed
      show (checkSyntax (answer budget) source name).outcome opened = _
      unfold checkSyntax withFrame
      simp only [bind_assoc]
      rw [outcome_bind_of_ends (ends_enter.mpr rfl : Ends (enter _) _ () _),
        outcome_bind_of_ends (ends_now.mpr ⟨rfl, rfl⟩),
        outcome_bind_of_ends (ends_get.mpr ⟨rfl, rfl⟩),
        outcome_bind_of_ends (ends_elapsedSince.mpr ⟨rfl, rfl⟩),
        outcome_bind_of_ends (ends_record.mpr rfl : Ends (Host.record _) _ () _)]
      rfl

/-- Reading what was thrown leaves the frame open. -/
theorem frames_reported {own : Visit engine} {outcome : Evaluated engine}
    (hworks : own.Works budget)
    (hends : Ends (evaluated (answer budget) own.result) own.recorded outcome own.reported) :
    own.reported.frames = own.name :: own.opened.frames := by
  obtain ⟨_, hcourse⟩ := follows_closed.evaluated (follows_answer budget) own.result hends
  rw [hcourse.frames_eq, frames_recorded hworks]

/-- An evaluation or a syntax check is a visit that ended. -/
theorem ends_visit (kind : EvaluationKind) {source name : String} {outcome : Evaluated engine} :
    Ends (visit budget kind source name) session outcome after ↔
      ∃ own : Visit engine, own.Of kind name source session ∧ own.Ended budget outcome ∧
        after = own.closed := by
  constructor
  · intro hends
    have hworks : ∃ own : Visit engine, own.Of kind name source session ∧ own.Works budget := by
      cases kind with
      | evaluate =>
          obtain ⟨result, ran, drained, _, reported, hran, hdrained, -, -, -⟩ :=
            ends_evaluate.mp hends
          exact ⟨⟨name, .evaluate, source, result, session, ran, drained, reported⟩,
            ⟨rfl, rfl, rfl, rfl⟩, hran, hdrained⟩
      | checkSyntax =>
          exact ⟨⟨name, .checkSyntax, source,
            (engine.parse session.options source).map fun _ => engine.undefined, session,
            (session.entering name).looked .evaluation, (session.entering name).looked .evaluation,
            session⟩,
            ⟨rfl, rfl, rfl, rfl⟩, rfl, rfl, rfl⟩
    obtain ⟨own, ⟨rfl, rfl, rfl, rfl⟩, hworks⟩ := hworks
    have hrest := outcome_visit hworks
    rw [show (visit budget own.kind own.source own.name).outcome own.opened = _ from hends] at hrest
    obtain ⟨outcome, reported, hreported, hleave⟩ := ends_bind.mp hrest.symm
    -- the visit with the session behind what was read
    let done : Visit engine := { own with reported := reported }
    have hdone : done.Works budget := hworks
    have hframes := frames_reported hdone hreported
    obtain ⟨_, closed, hclosed, hpure⟩ := ends_bind.mp hleave
    obtain ⟨rfl, rfl⟩ := ends_pure.mp hpure
    obtain ⟨houtcome, hreads⟩ := ends_evaluated.mp hreported
    exact ⟨done, ⟨rfl, rfl, rfl, rfl⟩, ⟨hdone, frames_recorded hdone, houtcome, hreads⟩,
      (ends_leave hframes).mp hclosed⟩
  · rintro ⟨own, ⟨rfl, rfl, rfl, rfl⟩, hended, rfl⟩
    have hreported : Ends (evaluated (answer budget) own.result) own.recorded outcome
        own.reported := ends_evaluated.mpr ⟨hended.outcome_eq, hended.reports⟩
    have hframes := frames_reported hended.works hreported
    rw [Ends, outcome_visit hended.works]
    exact ends_bind.mpr ⟨_, _, hreported, ends_bind.mpr ⟨(), _, (ends_leave hframes).mpr rfl,
      ends_pure.mpr ⟨rfl, rfl⟩⟩⟩

end Host

/-! ## Natives that are given a file -/

/-- A call of a native by script code. -/
structure Call (engine : Engine) where
  /-- The realm that the native belongs to. -/
  realm : Realm
  native : Native
  arguments : List engine.Value

namespace Call

variable (budget : Nat) (call : Call engine) (session : Session engine)

/-- What the native does in answer to the call. -/
def answered : Host engine (Except engine.Fault engine.Value) :=
  (Host.answer budget call.realm call.native call.arguments).run

/-- The path that the first argument is converted to. -/
def path : Host engine (Except engine.Fault String) :=
  (Host.toText (Host.answer budget) (Host.firstArgument call.arguments)).run

/-- The session in which the native begins. -/
def within : Session engine :=
  { session.note (.called call.native session.frames) with realm := call.realm }

/-- The native gets hold of the text of a file. -/
def Finds (path source : String) (found : Session engine) : Prop :=
  ∃ converted content, Host.Ends (call.path budget) (call.within session) (.ok path) converted ∧
    converted.files.read path = .ok content ∧ source = (SourceBuffer.ofFile content).text ∧
    found = converted.note (.fileRead path true)

/-- The call comes to nothing: the argument cannot be converted, there is no such file or `run`
gets no environment. -/
inductive Fails : engine.Fault → Prop
  | unconverted {fault : engine.Fault} {inside : Session engine}
      (hends : Host.Ends (call.path budget) (call.within session) (.error fault) inside) :
      Fails fault
  | unreadable {path : String} {error : IoError} {converted : Session engine}
      (hends : Host.Ends (call.path budget) (call.within session) (.ok path) converted)
      (hread : converted.files.read path = .error error) :
      Fails (engine.errorOf (Failure.file path).message)
  | displaced {path source : String} {fault : engine.Fault} {found inside : Session engine}
      (hnative : call.native = .run) (hfinds : call.Finds budget session path source found)
      (hplace : Host.Ends (Host.createEnvironment []).run found (.error fault) inside) :
      Fails fault

end Call

/-- The session in which a native has the text of a file evaluated or checked. -/
inductive Native.Places : Native → Session engine → Session engine → Prop
  | load {found : Session engine} : Places .load found found
  | check {found : Session engine} : Places .checkSyntax found (found.looked .call)
  | run {found made : Session engine} {place : Realm}
      (hplace : Host.Ends (Host.createEnvironment []).run found (.ok place) made) :
      Places .run found { made.looked .call with realm := place }

/-- A native that is given a file has its text evaluated or checked, which is a visit. -/
structure Call.Visits (budget : Nat) (call : Call engine) (session : Session engine)
    (own : Visit engine) : Prop where
  kind_eq : call.native.visitKind? = some own.kind
  finds : ∃ found, call.Finds budget session own.name own.source found ∧
    call.native.Places found own.opened

namespace Host

variable {budget : Nat} {session after : Session engine}

/-- What a visit throws is handed on as it is; a visit that threw nothing is not made to. -/
def HandsOn (session : Session engine) (own : Visit engine)
    (given : Except engine.Fault engine.Value) (after : Session engine) : Prop :=
  match own.result with
  | .error fault => given = .error fault ∧ after = { own.closed with realm := session.realm }
  | .ok _ => given.isOk = true

private theorem handsOn_timed {own : Visit engine} {outcome : Evaluated engine} {began : Nat}
    {given : Except engine.Fault engine.Value} {middle : Session engine} {realm : Realm}
    (hended : own.Ended budget outcome)
    (htimed : Ends (timed began outcome).run { own.closed with realm := realm } given middle) :
    HandsOn session own given { middle with realm := session.realm } := by
  have hgiven := ends_timed.mp htimed
  rw [hended.outcome_eq] at hgiven
  unfold HandsOn
  cases hresult : own.result with
  | ok value =>
      rw [hresult] at hgiven
      rw [hgiven.1]
      rfl
  | error fault =>
      rw [hresult] at hgiven
      obtain ⟨rfl, rfl⟩ := hgiven
      exact ⟨rfl, rfl⟩

private theorem finds_withSource {call : Call engine} {inside : Session engine}
    {next : String → String → Attempt engine engine.Value}
    {given : Except engine.Fault engine.Value}
    (hends : Ends (withSource (answer budget) (firstArgument call.arguments) next).run
      (call.within session) given inside) :
    (∃ fault, call.Fails budget session fault ∧ given = .error fault) ∨
    ∃ path source found, call.Finds budget session path source found ∧
      Ends (next path source).run found given inside := by
  rcases ends_withSource.mp hends with ⟨fault, htext, rfl⟩ | ⟨path, converted, htext,
    ⟨error, hread, rfl, rfl⟩ | ⟨content, hread, hlast⟩⟩
  · exact .inl ⟨fault, .unconverted htext, rfl⟩
  · exact .inl ⟨_, .unreadable htext hread, rfl⟩
  · exact .inr ⟨path, _, _, ⟨converted, content, htext, hread, rfl, rfl⟩, hlast⟩

/-- A call of a native that is given a file fails before it gets so far, or hands on what comes of
the visit. -/
theorem answered_cases {call : Call engine} {kind : EvaluationKind}
    {given : Except engine.Fault engine.Value} (hkind : call.native.visitKind? = some kind)
    (hends : Ends (call.answered (budget + 1)) session given after) :
    (∃ fault, call.Fails budget session fault ∧ given = .error fault) ∨
    ∃ own outcome, call.Visits budget session own ∧ own.Ended budget outcome ∧
      HandsOn session own given after := by
  obtain ⟨realm, native, arguments⟩ := call
  obtain ⟨inside, hinside, rfl⟩ := ends_called.mp hends
  -- each of the three natives is `withSource` with what it does with the text of the file
  cases native with
  | load =>
      rcases finds_withSource hinside with hfails | ⟨path, source, found, hfinds, hlast⟩
      · exact .inl hfails
      obtain ⟨outcome, hevaluate, rfl⟩ := ends_evaluateLoaded.mp hlast
      obtain ⟨own, ⟨hown, rfl, rfl, rfl⟩, hended, rfl⟩ :=
        (ends_visit .evaluate).mp hevaluate
      refine .inr ⟨own, outcome, ⟨hown ▸ rfl, _, hfinds, .load⟩, hended, ?_⟩
      unfold HandsOn
      rw [hended.outcome_eq]
      cases own.result with
      | ok value => rfl
      | error fault => exact ⟨rfl, rfl⟩
  | run =>
      rcases finds_withSource hinside with hfails | ⟨path, source, found, hfinds, hlast⟩
      · exact .inl hfails
      rcases ends_evaluateApart.mp hlast with ⟨fault, hplace, rfl⟩ |
        ⟨place, made, outcome, _, hplace, hwithin, htimed⟩
      · exact .inl ⟨fault, .displaced rfl hfinds hplace, rfl⟩
      obtain ⟨_, hevaluate, rfl⟩ := ends_withRealm.mp hwithin
      obtain ⟨own, ⟨hown, rfl, rfl, hopened⟩, hended, rfl⟩ :=
        (ends_visit .evaluate).mp hevaluate
      exact .inr ⟨own, outcome, ⟨hown ▸ rfl, _, hfinds, hopened ▸ .run hplace⟩, hended,
        handsOn_timed hended htimed⟩
  | checkSyntax =>
      rcases finds_withSource hinside with hfails | ⟨path, source, found, hfinds, hlast⟩
      · exact .inl hfails
      obtain ⟨outcome, _, hcheck, htimed⟩ := ends_checkLoaded.mp hlast
      obtain ⟨own, ⟨hown, rfl, rfl, hopened⟩, hended, rfl⟩ :=
        (ends_visit .checkSyntax).mp hcheck
      exact .inr ⟨own, outcome, ⟨hown ▸ rfl, _, hfinds, hopened ▸ .check⟩, hended,
        handsOn_timed hended htimed⟩
  | _ => cases hkind

/-- Whatever a visit throws, the native that made it throws to the script that called. -/
theorem answered_of_threw {call : Call engine} {own : Visit engine} {fault : engine.Fault}
    {info : ExceptionInfo} (hvisits : call.Visits budget session own)
    (hended : own.Ended budget (.threw fault info)) :
    Ends (call.answered (budget + 1)) session (.error fault)
      { own.closed with realm := session.realm } := by
  obtain ⟨realm, native, arguments⟩ := call
  obtain ⟨hkind, found, ⟨converted, content, htext, hread, hsource, rfl⟩, hplaces⟩ := hvisits
  have hvisit : Ends (visit budget own.kind own.source own.name) own.opened (.threw fault info)
      own.closed := (ends_visit _).mpr ⟨own, ⟨rfl, rfl, rfl, rfl⟩, hended, rfl⟩
  rw [hsource] at hvisit
  generalize own.kind = kind at hkind hvisit
  generalize own.opened = opened at hplaces hvisit
  have hthrew : ∀ {began : Nat} {last : Session engine},
      Ends (timed began (.threw fault info : Evaluated engine)).run last (.error fault) last :=
    ends_timed.mpr ⟨rfl, rfl⟩
  cases hplaces with
  | load =>
      obtain rfl : kind = .evaluate := (Option.some.inj hkind).symm
      refine ends_called.mpr ⟨own.closed, ?_, rfl⟩
      refine ends_withSource.mpr (.inr ⟨_, converted, htext, .inr ⟨content, hread, ?_⟩⟩)
      exact ends_evaluateLoaded.mpr ⟨_, hvisit, rfl⟩
  | check =>
      obtain rfl : kind = .checkSyntax := (Option.some.inj hkind).symm
      refine ends_called.mpr ⟨own.closed, ?_, rfl⟩
      refine ends_withSource.mpr (.inr ⟨_, converted, htext, .inr ⟨content, hread, ?_⟩⟩)
      exact ends_checkLoaded.mpr ⟨_, _, hvisit, hthrew⟩
  | run hplace =>
      rename_i made place
      obtain rfl : kind = .evaluate := (Option.some.inj hkind).symm
      refine ends_called.mpr ⟨{ own.closed with realm := made.realm }, ?_, rfl⟩
      refine ends_withSource.mpr (.inr ⟨_, converted, htext, .inr ⟨content, hread, ?_⟩⟩)
      exact ends_evaluateApart.mpr (.inr ⟨place, made, _, _, hplace,
        ends_withRealm.mpr ⟨_, hvisit, rfl⟩, hthrew⟩)

end Host

/-- An error of script code is thrown by what comes behind the path. -/
theorem Call.not_fails {budget : Nat} {call : Call engine} {session converted : Session engine}
    {path : String} {fault : engine.Fault} (hnative : call.native ≠ .run)
    (hpath : Host.Ends (call.path budget) (call.within session) (.ok path) converted)
    (hfault : ∀ message, fault ≠ engine.errorOf message) : ¬ call.Fails budget session fault := by
  intro hfails
  cases hfails with
  | unconverted hends => cases (hends.unique hpath).1
  | unreadable _ _ => exact hfault _ rfl
  | displaced hrun _ _ => exact hnative hrun

end ScriptShell
