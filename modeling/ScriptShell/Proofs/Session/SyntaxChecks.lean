import ScriptShell.Proofs.Session.Answers
import ScriptShell.Proofs.Session.Jobs
import ScriptShell.Proofs.Session.Moves

/-!
# Syntax checks run nothing

A syntax check parses a source text inside a frame of its own. Where the text parses, all that the
check leaves is its record and the two entries about its frame. Where it does not, the only script
code that runs is what reading the syntax error reaches, and no job runs for that either: its frame
is open, and an evaluation inside another frame leaves the jobs alone (`Host.rests_checkSyntax`).

A check throws exactly where an evaluation of the same text fails at parsing, that is before any of
it is executed, and throws the same error.

## Main results

* `Host.rests_closed`: what runs while a frame is open runs no job, even where it is cut off.
* `syntax_check_runs_nothing`.
-/

namespace ScriptShell

open Entry

variable {engine : Engine}

/-! ## Frames that stay open -/

/-- If at least a number of frames were open, they still are, and no job ran. -/
def Rests (depth : Nat) (session : Session engine) (entries : List Entry)
    (after : Session engine) : Prop :=
  depth ≤ session.frames.length →
    after.journal = session.journal ++ entries ∧ session.frames <:+ after.frames ∧ Idle entries

namespace Host

variable {α β : Type} {depth : Nat} {session after : Session engine}

instance (depth : Nat) : Chained (@Rests engine depth) where
  stay session _ := ⟨(List.append_nil _).symm, List.suffix_refl _, idle_nil⟩
  append {session middle after first second} hfirst hsecond hdepth := by
    obtain ⟨hmiddle, hframes, hidle⟩ := hfirst hdepth
    obtain ⟨hafter, hframesAfter, hidleAfter⟩ := hsecond (Nat.le_trans hdepth hframes.length_le)
    refine ⟨?_, hframes.trans hframesAfter, idle_append.mpr ⟨hidle, hidleAfter⟩⟩
    rw [hafter, hmiddle, List.append_assoc]

theorem rests_mono {action : Host engine α} {deeper : Nat} (hdepth : depth ≤ deeper)
    (haction : Leads (Rests depth) action) : Leads (Rests deeper) action := by
  intro session
  obtain ⟨entries, hrests⟩ := haction session
  exact ⟨entries, fun hdeeper => hrests (Nat.le_trans hdepth hdeeper)⟩

/-- An action that always comes to its end and makes one move, which is neither about frames nor
about a job that runs. -/
theorem rests_of_move {action : Host engine α}
    (hends : ∀ session : Session engine, ∃ result after entries,
      Ends action session result after ∧ Move session entries after ∧
        after.frames = session.frames ∧ Idle entries) :
    Leads (Rests depth) action := by
  refine .of_ends fun session => ?_
  obtain ⟨result, after, entries, hresult, hmove, hframes, hidle⟩ := hends session
  refine ⟨result, after, entries, hresult, fun _ => ⟨(Moves.single hmove).journal_eq, ?_, hidle⟩⟩
  exact hframes ▸ List.suffix_refl _

theorem rests_note {entry : Entry} (hplain : entry.Plain) (hidle : entry.runsJob = false) :
    Leads (Rests depth) (note entry : Host engine Unit) :=
  rests_of_move fun _ =>
    ⟨(), _, _, ends_note.mpr rfl, .note hplain, rfl, idle_cons.mpr ⟨hidle, idle_nil⟩⟩

theorem rests_modify {change : Session engine → Session engine}
    (hmove : ∀ session, Move session [] (change session))
    (hframes : ∀ session, (change session).frames = session.frames) :
    Leads (Rests depth) (modify change : Host engine PUnit) :=
  rests_of_move fun session =>
    ⟨(), _, [], ends_modify.mpr rfl, hmove session, hframes session, idle_nil⟩

theorem rests_now (look : Look) : Leads (Rests depth) (now look : Host engine Nat) :=
  rests_of_move fun _ => ⟨_, _, _, ends_now.mpr ⟨rfl, rfl⟩, .look look, rfl, idle_nil⟩

theorem rests_elapsedSince (look : Look) (instant : Nat) :
    Leads (Rests depth) (elapsedSince look instant : Host engine Duration) :=
  (rests_now look).bind fun _ => .pure _

theorem rests_record (record : ProfileRecord) :
    Leads (Rests depth) (Host.record record : Host engine Unit) := by
  refine rests_of_move fun session => ⟨(), _, _, ends_record.mpr rfl, .record record, rfl, ?_⟩
  cases session.kept record with
  | none => exact idle_nil
  | some kept => exact idle_cons.mpr ⟨rfl, idle_nil⟩

theorem rests_withRealm {action : Host engine α} (realm : Realm)
    (haction : Leads (Rests depth) action) : Leads (Rests depth) (withRealm realm action) :=
  .get_bind fun session => .bind (rests_modify (fun _ => .realm realm) fun _ => rfl) fun _ =>
    haction.bind fun _ => .bind (rests_modify (fun _ => .realm session.realm) fun _ => rfl)
      fun _ => .pure _

theorem rests_createEnvironment (arguments : List String) :
    Leads (Rests 1) (createEnvironment arguments : Attempt engine Realm).run := by
  refine .of_ends fun session => ?_
  obtain ⟨result, after, hends⟩ := exists_ends_createEnvironment session arguments
  obtain ⟨entries, hcourse, -⟩ := course_createEnvironment hends
  refine ⟨result, after, entries, hends, fun hdepth => ⟨hcourse.journal_eq, ?_, ?_⟩⟩
  · exact hcourse.frames_eq ▸ List.suffix_refl _
  · exact hcourse.idle (List.length_pos_iff.mp hdepth)

theorem rests_called {action : Host engine α} (realm : Realm) (native : Native)
    (haction : Leads (Rests depth) action) : Leads (Rests depth) (called realm native action) :=
  .get_bind fun _ => .bind (rests_note trivial rfl) fun _ => rests_withRealm realm haction

theorem rests_respondUnshared {answer : Answer engine} {bound : Nat} {native : Native}
    (hnative : Unshared native) (arguments : List engine.Value) :
    Leads (Rests depth) (respond answer bound native arguments).run := by
  rcases hnative with rfl | rfl | rfl
  · exact .throw .quit
  · exact rests_of_move fun _ => ⟨_, _, _, ends_respond_stackTrace.mpr ⟨rfl, rfl⟩, .note trivial,
      rfl, Native.idle_shows .stackTrace _⟩
  · refine .of_ends fun session => ⟨_, _, Native.shows .dumpCallFrame session.frames,
      ends_respond_dumpCallFrame.mpr ⟨rfl, rfl⟩, fun _ => ⟨?_, List.suffix_refl _,
        Native.idle_shows .dumpCallFrame _⟩⟩
    simp [Session.journal]

/-- What runs inside a frame finds one frame more. -/
theorem rests_withFrame {action : Host engine α} (frame : String)
    (haction : Leads (Rests (depth + 1)) action) :
    Leads (Rests depth) (withFrame frame action) := by
  intro session
  obtain ⟨entries, hrests⟩ := haction (session.entering frame)
  unfold withFrame
  rw [outcome_bind_of_ends (ends_enter.mpr rfl : Ends (enter frame) session () _), outcome_bind]
  have hjournal : (session.entering frame).journal = session.journal ++ [.entered frame] := by
    simp [Session.journal]
  rcases houtcome : action.outcome (session.entering frame) with ⟨halt | result, inside⟩
  · refine ⟨.entered frame :: entries, fun hdepth => ?_⟩
    obtain ⟨hinside, hframes, hidle⟩ := hrests (Nat.succ_le_succ hdepth)
    rw [houtcome] at hinside hframes
    refine ⟨?_, (List.suffix_cons frame _).trans hframes, idle_cons.mpr ⟨rfl, hidle⟩⟩
    rw [hinside, hjournal, List.append_assoc]
    rfl
  · cases hinside : inside.frames with
    | nil =>
        refine ⟨[], fun hdepth => ?_⟩
        obtain ⟨-, hframes, -⟩ := hrests (Nat.succ_le_succ hdepth)
        rw [houtcome, hinside, List.suffix_nil] at hframes
        cases hframes
    | cons innermost outer =>
        refine ⟨.entered frame :: (entries ++ [.left innermost]), fun hdepth => ?_⟩
        obtain ⟨hjournalInside, hframes, hidle⟩ := hrests (Nat.succ_le_succ hdepth)
        rw [houtcome] at hjournalInside hframes
        have hleave : Ends (leave >>= fun _ => pure result) inside result
            (inside.leaving innermost) :=
          ends_bind.mpr ⟨(), _, (ends_leave hinside).mpr rfl, ends_pure.mpr ⟨rfl, rfl⟩⟩
        dsimp only
        rw [show (leave >>= fun _ => pure result).outcome inside = _ from hleave]
        refine ⟨?_, ?_, by simpa [runsJob] using hidle⟩
        · have hleaving : (inside.leaving innermost).journal =
              inside.journal ++ [.left innermost] := by
            simp [Session.journal]
          rw [hleaving, hjournalInside, hjournal]
          simp
        · -- the frame that was entered is among those that are open, and at most it is left
          rw [Session.leaving_frames, hinside, List.tail_cons]
          rw [Session.entering_frames, hinside, List.suffix_cons_iff] at hframes
          rcases hframes with heq | hbelow
          · exact (List.cons.inj heq).2 ▸ List.suffix_refl _
          · exact (List.suffix_cons frame _).trans hbelow

/-- Jobs are left alone where more frames than one are open. -/
theorem rests_drainOutermost (answer : Answer engine) (bound : Nat) :
    Leads (Rests 2) (drainOutermost answer bound) := by
  intro session
  refine ⟨[], fun hdepth => ?_⟩
  have hends : Ends (drainOutermost answer bound) session () session := by
    unfold drainOutermost
    rw [ends_get_bind, if_neg (by omega)]
    exact ends_pure.mpr ⟨rfl, rfl⟩
  rw [show (drainOutermost answer bound).outcome session = _ from hends]
  exact ⟨(List.append_nil _).symm, List.suffix_refl _, idle_nil⟩

theorem rests_checkSyntax_of_reports {answer : Answer engine} (source name : String)
    (hreport : ∀ result, Leads (Rests (depth + 1)) (evaluated answer result)) :
    Leads (Rests depth) (checkSyntax answer source name) :=
  rests_withFrame name <| (rests_now .evaluation).bind fun began => .get_bind fun _ =>
    (rests_elapsedSince .evaluation began).bind fun _ => (rests_record _).bind fun _ => hreport _

/-- Script code that runs while a frame is open runs no job. -/
theorem rests_closed : @ScriptClosed engine fun _ action => Leads (Rests 1) action where
  pure := .pure
  bind := .bind
  look _ hnext := .get_bind fun _ => hnext _ _ _
  exhausted := .throw .exhausted
  setStore store := rests_modify (fun _ => .store store) fun _ => rfl
  queueJob job := rests_of_move fun _ =>
    ⟨(), _, _, ends_queueJob.mpr rfl, .queue job, rfl, idle_cons.mpr ⟨rfl, idle_nil⟩⟩
  print _ _ := rests_note trivial rfl
  nowCall := rests_now .call
  timeOfDay := rests_of_move fun _ =>
    ⟨_, _, _, ends_timeOfDay.mpr ⟨rfl, rfl⟩, .day, rfl, idle_nil⟩
  readLine := rests_of_move fun _ =>
    ⟨_, _, _, ends_readLine.mpr ⟨rfl, rfl⟩, .read, rfl, idle_cons.mpr ⟨rfl, idle_nil⟩⟩
  readFile _ := rests_of_move fun _ => ⟨_, _, _, ends_readFile.mpr ⟨rfl, rfl⟩, .note trivial, rfl,
    idle_cons.mpr ⟨rfl, idle_nil⟩⟩
  thrownValue _ := rests_of_move fun _ =>
    ⟨_, _, _, ends_thrownValue.mpr ⟨rfl, rfl⟩, .store _, rfl, idle_nil⟩
  changeFlags _ := rests_modify (fun _ => .flags _) fun _ => rfl
  createEnvironment := rests_createEnvironment
  withRealm := rests_withRealm
  called realm native _ := rests_called realm native
  calledUnshared _ realm native hnative arguments :=
    rests_called realm native (rests_respondUnshared hnative arguments)
  evaluate budget _ name hscript _ hreport :=
    rests_withFrame name <| (rests_now .evaluation).bind fun began =>
      (rests_mono (Nat.le_succ 1) hscript).bind fun result =>
        (rests_drainOutermost _ budget).bind fun _ =>
          (rests_elapsedSince .evaluation began).bind fun _ => (rests_record _).bind fun _ =>
            rests_mono (Nat.le_succ 1) (hreport result)
  checkSyntax _ source name hreport :=
    rests_checkSyntax_of_reports source name fun result =>
      rests_mono (Nat.le_succ 1) (hreport result)

/-- A syntax check runs no job, whatever frames are open. -/
theorem rests_checkSyntax (budget : Nat) (source name : String) :
    Leads (Rests 0) (checkSyntax (answer budget) source name : Host engine (Evaluated engine)) :=
  rests_checkSyntax_of_reports source name (rests_closed.evaluated (rests_closed.answer budget))

end Host

/-! ## What a check leaves -/

/-- The record of a syntax check in a session: between its two looks at the clock it only parses. -/
def Session.syntaxRecord (session : Session engine) (name : String) (threw : Bool) :
    ProfileRecord :=
  ⟨name, .checkSyntax, Duration.ofNanos
    ((session.clock.looked .evaluation).instant .evaluation - session.clock.instant .evaluation),
    threw⟩

/-- The session inside a syntax check, with its record. -/
def Session.checking (session : Session engine) (name : String) (threw : Bool) : Session engine :=
  { session with
    frames := name :: session.frames
    clock := (session.clock.looked .evaluation).looked .evaluation
    profile := session.profile.map (· ++ [session.syntaxRecord name threw])
    history := ((session.kept (session.syntaxRecord name threw)).map Entry.recorded).toList ++
      .entered name :: session.history }

/-- An evaluation fails at parsing: its source text is refused, and the session in which the engine
gave it up is the one in which it took it up. -/
structure Visit.FailsAtParsing (own : Visit engine) (fault : engine.Fault) : Prop where
  kind_eq : own.kind = .evaluate
  refused : engine.parse own.opened.options own.source = .error fault
  result_eq : own.result = .error fault
  ran_eq : own.ran = own.begun

namespace Host

variable {budget : Nat} {source name : String} {session after behind : Session engine}
  {fault : engine.Fault}

/-- What a check made of its text is all that it does not leave to the reading of an error. -/
theorem outcome_checkSyntax (budget : Nat) (source name : String) (session : Session engine)
    {result : Except engine.Fault engine.Value}
    (hresult : (engine.parse session.options source).map (fun _ => engine.undefined) = result) :
    (checkSyntax (answer budget) source name).outcome session =
      (evaluated (answer budget) result >>= fun outcome => leave >>= fun _ => pure outcome).outcome
        (session.checking name (!result.isOk)) := by
  let own : Visit engine := ⟨name, .checkSyntax, source, result, session,
    (session.entering name).looked .evaluation, (session.entering name).looked .evaluation,
    session⟩
  have hrecord : own.record = session.syntaxRecord name (!result.isOk) := rfl
  have hrecorded : own.recorded = session.checking name (!result.isOk) := by
    rw [Visit.recorded, hrecord]
    rfl
  have hworks : own.Works budget := ⟨hresult.symm, rfl, rfl⟩
  rw [← hrecorded]
  exact outcome_visit hworks

/-- A text that parses leaves nothing but a record. -/
theorem ends_checkSyntax_of_parses {code : engine.Code}
    (hparse : engine.parse session.options source = .ok code) :
    Ends (checkSyntax (answer budget) source name) session (.completed engine.undefined)
      { session with
        clock := (session.clock.looked .evaluation).looked .evaluation
        profile := session.profile.map (· ++ [session.syntaxRecord name false])
        history := .left name :: (session.checking name false).history } := by
  have hresult : (engine.parse session.options source).map (fun _ => engine.undefined) =
      .ok engine.undefined := by
    rw [hparse]
    rfl
  have hframes : (session.checking name false).frames = name :: session.frames := rfl
  rw [Ends, outcome_checkSyntax budget source name session hresult]
  exact ends_bind.mpr ⟨_, _, ends_pure.mpr ⟨rfl, rfl⟩,
    ends_bind.mpr ⟨(), _, (ends_leave hframes).mpr rfl, ends_pure.mpr ⟨rfl, rfl⟩⟩⟩

/-- A text that does not parse is followed by the reading of the error, and by nothing else. -/
theorem reads_of_refused (hparse : engine.parse session.options source = .error fault) :
    (∃ info reported,
      Ends (checkSyntax (answer budget) source name) session (.threw fault info)
          (reported.leaving name) ∧
        Reads (answer budget) fault (session.checking name true) info reported) ∨
    ∃ halt cut, Halts (checkSyntax (answer budget) source name) session halt cut ∧
      ReadingHalts (answer budget) fault (session.checking name true) halt cut := by
  have hresult : (engine.parse session.options source).map (fun _ => engine.undefined) =
      .error fault := by
    rw [hparse]
    rfl
  have houtcome := outcome_checkSyntax budget source name session hresult
  rcases reads_or_halts (answer budget) fault (session.checking name true) with
    ⟨info, reported, hends, hreads⟩ | ⟨halt, cut, hhalts, hreading⟩
  · obtain ⟨_, hcourse⟩ := follows_exceptionInfo (follows_answer budget) fault hends
    have hframes : reported.frames = name :: session.frames := hcourse.frames_eq
    refine .inl ⟨info, reported, ?_, hreads⟩
    rw [Ends, houtcome]
    exact ends_bind.mpr ⟨.threw fault info, reported, ends_evaluated.mpr ⟨rfl, hreads⟩,
      ends_bind.mpr ⟨(), _, (ends_leave hframes).mpr rfl, ends_pure.mpr ⟨rfl, rfl⟩⟩⟩
  · refine .inr ⟨halt, cut, ?_, hreading⟩
    rw [Halts, houtcome]
    exact halts_bind.mpr (.inl (halts_bind.mpr (.inl hhalts)))

/-! ## Checks and evaluations -/

theorem map_eq_error_iff {α β ε : Type} {result : Except ε α} {change : α → β} {error : ε} :
    result.map change = .error error ↔ result = .error error := by
  cases result <;> simp [Except.map]

theorem result_eq_error_iff {check : Visit engine}
    (hcheck : check.Of .checkSyntax name source session) (hchecks : check.Works budget) :
    check.result = .error fault ↔ engine.parse session.options source = .error fault := by
  unfold Visit.Works at hchecks
  rw [hcheck.kind_eq] at hchecks
  rw [hchecks.1, map_eq_error_iff, hcheck.opened_eq, hcheck.source_eq]

/-- A check throws what an evaluation of the same text fails with at parsing. -/
theorem check_throws_iff {check evaluation : Visit engine}
    (hcheck : check.Of .checkSyntax name source session)
    (hevaluation : evaluation.Of .evaluate name source session)
    (hchecks : check.Works budget) (hevaluates : evaluation.Works budget) :
    check.result = .error fault ↔ evaluation.FailsAtParsing fault := by
  unfold Visit.Works at hevaluates
  rw [hevaluation.kind_eq] at hevaluates
  have hoptions : evaluation.begun.options = session.options := by
    rw [← hevaluation.opened_eq]
    rfl
  rw [result_eq_error_iff hcheck hchecks]
  constructor
  · intro hparse
    have hscript := hevaluates.1
    rw [runSource_eq, ends_get_bind, hoptions, hevaluation.source_eq, hparse] at hscript
    obtain ⟨hresult, hran⟩ := ends_pure.mp hscript
    refine ⟨hevaluation.kind_eq, ?_, hresult, hran⟩
    rw [hevaluation.opened_eq, hevaluation.source_eq, hparse]
  · intro hfails
    rw [← hfails.refused, hevaluation.opened_eq, hevaluation.source_eq]

/-- Where both come to their end, the check throws an error exactly if the text does not parse and
the evaluation throws that error. -/
theorem threw_iff_threw {outcome other : Evaluated engine}
    (hchecks : Ends (checkSyntax (answer budget) source name) session outcome after)
    (hevaluates : Ends (evaluate (answer budget) budget source name) session other behind) :
    outcome.toExcept = .error fault ↔
      engine.parse session.options source = .error fault ∧ other.toExcept = .error fault := by
  obtain ⟨check, hcheck, hended, -⟩ := (ends_visit .checkSyntax).mp hchecks
  obtain ⟨evaluation, hevaluation, hother, -⟩ := (ends_visit .evaluate).mp hevaluates
  rw [hended.outcome_eq, hother.outcome_eq, result_eq_error_iff hcheck hended.works]
  constructor
  · intro hparse
    have hthrows := (result_eq_error_iff hcheck hended.works).mpr hparse
    have hfails := (check_throws_iff hcheck hevaluation hended.works hother.works).mp hthrows
    exact ⟨hparse, hfails.result_eq⟩
  · exact And.left

end Host

open Host in
/-- A syntax check runs nothing of its text and agrees with an evaluation on what does not parse.

A text that parses leaves a record, and all else as it was but for the time and the entries about
the frame. A text that does not parse leaves a record that it threw, and what script code runs then
is what `Host.Reads` and `Host.ReadingHalts` say of the error. In no case does a job run. A check
throws an error exactly where an evaluation of the same text fails with it at parsing. The native
`checkSyntax` is, from the text of its file on, such a check and a look at the clock. -/
theorem syntax_check_runs_nothing (engine : Engine) (budget : Nat) :
    (∀ source name (session : Session engine) code,
      engine.parse session.options source = .ok code →
        Ends (checkSyntax (answer budget) source name) session (.completed engine.undefined)
          { session with
            clock := (session.clock.looked .evaluation).looked .evaluation
            profile := session.profile.map (· ++ [session.syntaxRecord name false])
            history := .left name :: (session.checking name false).history }) ∧
    (∀ source name (session : Session engine) fault,
      engine.parse session.options source = .error fault →
        (∃ info reported,
          Ends (checkSyntax (answer budget) source name) session (.threw fault info)
              (reported.leaving name) ∧
            Reads (answer budget) fault (session.checking name true) info reported) ∨
        ∃ halt cut, Halts (checkSyntax (answer budget) source name) session halt cut ∧
          ReadingHalts (answer budget) fault (session.checking name true) halt cut) ∧
    (∀ source name (session : Session engine), ∃ entries,
      ((checkSyntax (answer budget) source name).outcome session).2.journal =
          session.journal ++ entries ∧
        Idle entries) ∧
    (∀ source name session fault (check evaluation : Visit engine),
      check.Of .checkSyntax name source session → evaluation.Of .evaluate name source session →
        check.Works budget → evaluation.Works budget →
          (check.result = .error fault ↔ evaluation.FailsAtParsing fault)) ∧
    (∀ source name (session after behind : Session engine) outcome other fault,
      Ends (checkSyntax (answer budget) source name) session outcome after →
        Ends (evaluate (answer budget) budget source name) session other behind →
          (outcome.toExcept = .error fault ↔
            engine.parse session.options source = .error fault ∧
              other.toExcept = .error fault)) ∧
    ∀ (call : Call engine) session path source found, call.native = .checkSyntax →
      call.Finds budget session path source found →
        (call.answered (budget + 1)).outcome session =
          timedSince (found.clock.instant .call) session.realm
            ((checkSyntax (answer budget) source path).outcome (found.looked .call)) := by
  refine ⟨fun _ _ _ _ => ends_checkSyntax_of_parses, fun _ _ _ _ => reads_of_refused,
    fun source name session => ?_, fun _ _ _ _ _ _ => check_throws_iff,
    fun _ _ _ _ _ _ _ _ => threw_iff_threw, fun _ _ _ _ _ => outcome_check⟩
  obtain ⟨entries, hrests⟩ := rests_checkSyntax budget source name session
  obtain ⟨hjournal, -, hidle⟩ := hrests (Nat.zero_le _)
  exact ⟨entries, hjournal, hidle⟩

/-- A session with an environment, in which a script made up a text for syntax errors. -/
def oddSession : Session Language.engine :=
  let fresh := ((Host.createEnvironment [] : Attempt Language.engine Realm).run.outcome
    (Session.start Language.engine {} true [] Files.empty (.ticking 0))).2
  let told := ((Host.evaluateIn 3 1 ("SyntaxError.prototype.toString = " ++
    "function () \x7b print('read'); return 'odd' \x7d") "odd.js").outcome fresh).2
  { told with realm := 1 }

/-- Whether something was thrown and is reported with a message. -/
def Evaluated.threwWith (message : String) : Evaluated engine → Bool
  | .completed _ => false
  | .threw _ info => info.message = message

/-- A text that parses is not run, and of one that does not only the error is read. -/
theorem syntax_check_runs_nothing_odd :
    (∃ code after, Language.engine.parse oddSession.options "print('run')" = .ok code ∧
      Host.Ends (Host.checkSyntax (Host.answer 3) "print('run')" "a.js") oddSession
        (.completed Language.engine.undefined) after ∧
      Entry.written .stdout after.journal = "" ∧
      after.profileRecords.map (·.threw) = [false, false]) ∧
    ∃ fault info after, Language.engine.parse oddSession.options "print('run'" = .error fault ∧
      Host.Ends (Host.checkSyntax (Host.answer 3) "print('run'" "b.js") oddSession
        (.threw fault info) after ∧
      info.message = "odd" ∧ Entry.written .stdout after.journal = "read\n" ∧
      after.profileRecords.map (·.threw) = [false, true] := by
  obtain ⟨hparses, hrefuses, -⟩ := syntax_check_runs_nothing Language.engine 3
  constructor
  · have hcomputed : (Language.engine.parse oddSession.options "print('run')").isOk = true ∧
        Entry.written .stdout ((Host.checkSyntax (Host.answer 3) "print('run')" "a.js").outcome
          oddSession).2.journal = "" ∧
        ((Host.checkSyntax (Host.answer 3) "print('run')" "a.js").outcome
          oddSession).2.profileRecords.map (·.threw) = [false, false] := by
      decide +kernel
    obtain ⟨hok, hwritten, hrecords⟩ := hcomputed
    cases hparse : Language.engine.parse oddSession.options "print('run')" with
    | error fault =>
        rw [hparse] at hok
        cases hok
    | ok code =>
        have hends := hparses "print('run')" "a.js" oddSession code hparse
        rw [show (Host.checkSyntax (Host.answer 3) "print('run')" "a.js").outcome oddSession = _
          from hends] at hwritten hrecords
        exact ⟨code, _, rfl, hends, hwritten, hrecords⟩
  · have hcomputed : (Language.engine.parse oddSession.options "print('run'").isOk = false ∧
        ((Host.checkSyntax (Host.answer 3) "print('run'" "b.js").outcome
          oddSession).1.toOption.any (Evaluated.threwWith "odd") = true ∧
        Entry.written .stdout ((Host.checkSyntax (Host.answer 3) "print('run'" "b.js").outcome
          oddSession).2.journal = "read\n" ∧
        ((Host.checkSyntax (Host.answer 3) "print('run'" "b.js").outcome
          oddSession).2.profileRecords.map (·.threw) = [false, true] := by
      decide +kernel
    obtain ⟨hrefused, hodd, hwritten, hrecords⟩ := hcomputed
    cases hparse : Language.engine.parse oddSession.options "print('run'" with
    | ok code =>
        rw [hparse] at hrefused
        cases hrefused
    | error fault =>
        rcases hrefuses "print('run'" "b.js" oddSession fault hparse with
          ⟨info, reported, hends, -⟩ | ⟨halt, cut, hhalts, -⟩
        · rw [show (Host.checkSyntax (Host.answer 3) "print('run'" "b.js").outcome oddSession = _
            from hends] at hodd hwritten hrecords
          exact ⟨fault, info, _, rfl, hends, decide_eq_true_eq.mp hodd, hwritten, hrecords⟩
        · rw [show (Host.checkSyntax (Host.answer 3) "print('run'" "b.js").outcome oddSession = _
            from hhalts] at hodd
          cases hodd

end ScriptShell
