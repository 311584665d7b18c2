import ScriptShell.Proofs.Session.Conversation
import ScriptShell.Proofs.Session.Parallel
import ScriptShell.Proofs.Text.Utf8

/-!
# The shell and a run of scripts

The shell that is fed some lines and a run of the same texts as scripts of the command line, with
what they complete with dumped, are two loops over the same evaluations. Line by line they come to
the same outcomes, in step (`LineRun.Matches`), and what differs is what each loop writes around an
outcome.

## Main results

* `Host.matched_or_cut`: one line and one script.
* `lifecycles_agree`: all of them.
-/

namespace ScriptShell

variable {engine : Engine}

/-! ## A line and its script -/

/-- What a run of scripts writes of an outcome where the shell echoes a text. -/
def Evaluated.dumped (echoed : String) : Evaluated engine → String
  | .completed _ => "End: " ++ echoed ++ "\n"
  | .threw _ info => echoed ++ "\n" ++ info.stackReport

/-- A line of the shell and a script of the command line came to the same. The evaluation of the
line begins in the session `prompted`. -/
structure LineRun.Matches (prompted : Session engine) (run : LineRun engine)
    (script : ScriptRun engine) : Prop where
  script_eq : script.script = .inline (decode run.line)
  name_eq : script.name = Host.commandLineSource
  source_eq : script.source = decode run.line
  outcome_eq : script.outcome = run.outcome
  steps : Abreast prompted script.begun run.evaluation.entries script.evaluation.entries
      run.evaluated script.evaluated ∧
    Abreast run.evaluated script.evaluated run.rendering script.rendering run.rendered
      script.rendered
  text_eq : script.text = some (run.outcome.dumped run.text)

/-- Lines and scripts that were evaluated one after another, each line in step with its script. -/
inductive Lifecycles (budget : Nat) (environment : Realm) (out : Channel) :
    Session engine → Session engine → List (LineRun engine) → List (ScriptRun engine) →
      Session engine → Session engine → Prop
  | nil {session twin : Session engine} (htwin : Twin session twin) :
      Lifecycles budget environment out session twin [] [] session twin
  | cons {session twin middle middleTwin last lastTwin : Session engine} {run : LineRun engine}
      {script : ScriptRun engine} {runs : List (LineRun engine)}
      {scripts : List (ScriptRun engine)} (htwin : Twin session twin)
      (hrun : run.Executes budget environment out session middle)
      (hscript : script.Executes budget environment out true twin middleTwin)
      (hmatches : run.Matches (session.note (.wrote out Host.prompt)) script)
      (hrest : Lifecycles budget environment out middle middleTwin runs scripts last lastTwin) :
      Lifecycles budget environment out session twin (run :: runs) (script :: scripts) last lastTwin

namespace Lifecycles

variable {budget : Nat} {environment : Realm} {out : Channel}
  {session twin last lastTwin : Session engine} {runs : List (LineRun engine)}
  {scripts : List (ScriptRun engine)}

theorem conversation
    (h : Lifecycles budget environment out session twin runs scripts last lastTwin) :
    Conversation budget environment out session runs last := by
  induction h with
  | nil => exact .nil
  | cons _ hrun _ _ _ ih => exact .cons hrun ih

theorem batch (h : Lifecycles budget environment out session twin runs scripts last lastTwin) :
    Batch budget environment out true twin scripts lastTwin := by
  induction h with
  | nil => exact .nil
  | cons _ _ hscript _ _ ih => exact .cons hscript ih

theorem dumped_eq (h : Lifecycles budget environment out session twin runs scripts last lastTwin) :
    scripts.map (fun script => script.text.getD "") =
      runs.map fun run => run.outcome.dumped run.text := by
  induction h with
  | nil => rfl
  | cons _ _ _ hmatches _ ih => rw [List.map_cons, List.map_cons, ih, hmatches.text_eq, Option.getD]

theorem twin_last (h : Lifecycles budget environment out session twin runs scripts last lastTwin) :
    Twin last lastTwin := by
  induction h with
  | nil htwin => exact htwin
  | cons _ _ _ _ _ ih => exact ih

end Lifecycles

/-- What a loop writes makes no difference. -/
theorem Twin.noted {session twin : Session engine} (h : Twin session twin)
    (entry : Entry) : Twin (session.note entry) twin :=
  { h with }

/-- What a loop does between evaluations makes no difference. -/
theorem Twin.tended {session twin after : Session engine} {entries : List Entry}
    (h : Twin session twin) (htended : Tended twin entries after) : Twin session after := by
  have hafter := htended.after_eq
  have htold := htended.told_eq
  generalize after.clock = clock at hafter htold
  generalize after.sampler = sampler at hafter
  subst hafter
  exact { h with told_eq := htold.trans h.told_eq }

/-- Where both sessions followed courses, what they left is alike. -/
theorem Abreast.of_courses {session twin after behind : Session engine}
    {gained others entries entriesTwin : List Entry}
    (h : Abreast session twin gained others after behind)
    (hcourse : Course .script session entries after)
    (hcourseTwin : Course .script twin entriesTwin behind) :
    Abreast session twin entries entriesTwin after behind := by
  obtain rfl : gained = entries :=
    List.append_cancel_left (h.moves.journal_eq.symm.trans hcourse.journal_eq)
  obtain rfl : others = entriesTwin :=
    List.append_cancel_left (h.moves_other.journal_eq.symm.trans hcourseTwin.journal_eq)
  exact h

namespace Host

variable {budget : Nat} {environment : Realm} {out : Channel}
  {session twin after behind cut : Session engine} {halt : Halt}

/-! ## Being cut off -/

/-- The shell cuts a line off where it is evaluated or where its value is converted. -/
def LineHalts (budget : Nat) (environment : Realm) (source name : String)
    (session : Session engine) (halt : Halt) (cut : Session engine) : Prop :=
  Halts (evaluateIn budget environment source name) session halt cut ∨
    ∃ value evaluated, Ends (evaluateIn budget environment source name) session
      (.completed value) evaluated ∧ Halts (stringifyIn budget environment value) evaluated halt cut

theorem halts_report {source name : String}
    (hhalts : Halts (report budget environment out true source name) session halt cut) :
    LineHalts budget environment source name session halt cut := by
  rcases halts_bind.mp hhalts with hhalts | ⟨outcome, evaluated, hends, hhalts⟩
  · exact .inl hhalts
  cases outcome with
  | threw fault info => cases hhalts
  | completed value =>
      rcases halts_bind.mp hhalts with hhalts | ⟨text, rendered, -, hhalts⟩
      · exact .inr ⟨value, evaluated, hends, hhalts⟩
      · cases hhalts

theorem halts_evaluateLine {line : String} (h : LineHalts budget environment line
    interpreterSource session halt cut) :
    Halts (evaluateLine budget environment out line) session halt cut := by
  refine halts_bind.mpr (h.imp_right ?_)
  rintro ⟨value, evaluated, hends, hhalts⟩
  exact ⟨_, _, hends, halts_bind.mpr (.inl hhalts)⟩

/-- Where the execution of a script of the command line is cut off, its report is. -/
theorem halts_executeInline {source : String} (hhalts :
    Halts (execute budget environment out true (.inline source)) session halt cut) :
    ∃ begun, Tended session [.logged (.evaluating commandLineSource)] begun ∧
      LineHalts budget environment source commandLineSource begun halt cut := by
  obtain ⟨name, _, begun, hopened, hbegins, hhalts⟩ := halts_execute hhalts
  cases hopened
  exact ⟨begun, hbegins, halts_report hhalts⟩

/-! ## Step by step -/

/-- What the shell does with an outcome. -/
def echo (budget : Nat) (environment : Realm) (out : Channel) :
    Evaluated engine → Host engine Unit
  | .completed value => do write out ((← stringifyIn budget environment value) ++ "\n")
  | .threw _ info => write out info.headline

theorem evaluateLine_eq (line : String) :
    (evaluateLine budget environment out line : Host engine Unit) =
      evaluateIn budget environment line interpreterSource >>= echo budget environment out := by
  refine bind_congr fun outcome => ?_
  cases outcome <;> rfl

/-- What the shell echoes of an outcome goes with what a run of scripts reports of it. -/
theorem echoes_of_reports {outcome : Evaluated engine} {rendered : Session engine}
    {text : Option String} {entries : List Entry} (htwin : Twin session twin)
    (hreports : Reports budget environment true outcome twin text entries rendered) :
    ∃ echoed rendering after, Echoes budget environment outcome session echoed rendering after ∧
      Ends (echo budget environment out outcome) session ()
        (after.note (.wrote out (echoed ++ "\n"))) ∧
      Abreast session twin rendering entries after rendered ∧
      text = some (outcome.dumped echoed) := by
  cases hreports with
  | threw => exact ⟨_, [], session, .threw, ends_note.mpr rfl, .stay htwin, rfl⟩
  | silent hdump => cases hdump
  | dumped _ hends hcourse =>
      obtain ⟨gained, others, after, hstringify, habreast⟩ :=
        (parallel_stringifyIn budget environment _ htwin).ends hends
      obtain ⟨rendering, hrendering⟩ := follows_stringifyIn budget environment _ hstringify
      exact ⟨_, rendering, after, .completed hstringify hrendering,
        ends_bind.mpr ⟨_, _, hstringify, ends_note.mpr rfl⟩,
        habreast.of_courses hrendering hcourse, rfl⟩

section Line

variable {line : Bytes} (htwin : Twin session twin)

include htwin

/-- Where a script was executed, the line came to the same. -/
theorem matches_of_executes {script : ScriptRun engine} {middleTwin : Session engine}
    (hscript : script.script = .inline (decode line))
    (hexecutes : script.Executes budget environment out true twin middleTwin) :
    ∃ (run : LineRun engine) (middle : Session engine), run.line = line ∧
      Ends (evaluateLine budget environment out (decode line)) (session.note (.wrote out prompt)) ()
        middle ∧
      run.Executes budget environment out session middle ∧
      run.Matches (session.note (.wrote out prompt)) script ∧
      Twin middle middleTwin := by
  have hopened := hexecutes.opened
  rw [hscript] at hopened
  obtain ⟨hname, hsource⟩ : commandLineSource = script.name ∧ decode line = script.source := by
    simpa [Script.opened] using hopened
  have hevaluates := hexecutes.evaluates
  rw [← hname, ← hsource] at hevaluates
  rw [evaluateLine_eq]
  have hbegun := htwin.tended hexecutes.begins
  obtain ⟨gained, others, evaluated, hevaluated, habreast⟩ :=
    (parallel_evaluateIn budget environment (decode line) .line (hbegun.noted _)).ends hevaluates
  obtain ⟨echoed, rendering, rendered, hechoes, hecho, hrendering, htext⟩ :=
    echoes_of_reports habreast.last hexecutes.reports
  obtain ⟨inside, ⟨run⟩, rfl⟩ := evaluationRun_of_evaluateIn hevaluated
  have hcourse := Course.inRealm environment run.course
  refine ⟨⟨line, script.outcome, _, run.evaluation, echoed, rendering, rendered⟩, _, rfl,
    ends_bind.mpr ⟨_, _, hevaluated, hecho⟩, ⟨hevaluated, hcourse, rfl, hechoes, rfl⟩,
    ⟨hscript, hname.symm, hsource.symm, rfl,
      ⟨habreast.of_courses hcourse hexecutes.course, hrendering⟩, htext⟩, ?_⟩
  exact (hrendering.last.noted _).tended hexecutes.finishes

/-- A line and its script come to the same, or are cut off alike. -/
theorem matched_or_cut :
    (∃ (run : LineRun engine) (script : ScriptRun engine) (middle middleTwin : Session engine),
      run.line = line ∧
      Ends (evaluateLine budget environment out (decode line)) (session.note (.wrote out prompt)) ()
        middle ∧
      Ends (execute budget environment out true (.inline (decode line))) twin
        (.ok script.execution) middleTwin ∧
      run.Executes budget environment out session middle ∧
      script.Executes budget environment out true twin middleTwin ∧
      run.Matches (session.note (.wrote out prompt)) script ∧
      Twin middle middleTwin) ∨
    ∃ halt cut cutTwin,
      Halts (evaluateLine budget environment out (decode line)) (session.note (.wrote out prompt))
        halt cut ∧
      Halts (execute budget environment out true (.inline (decode line))) twin halt cutTwin ∧
      Twin cut cutTwin := by
  -- the script decides on the case, since only its run tells in which session its evaluation began
  rcases ends_or_halts (execute budget environment out true (.inline (decode line))) twin with
    ⟨result, middleTwin, hexecute⟩ | ⟨halt, cutTwin, hexecute⟩
  · left
    rcases scriptRun hexecute with ⟨failure, hopened, -⟩ | ⟨script, hscript, rfl, hexecutes⟩
    · cases hopened
    · obtain ⟨run, middle, hline, hends, hrun, hmatches, hlast⟩ :=
        matches_of_executes htwin hscript hexecutes
      exact ⟨run, script, middle, middleTwin, hline, hends, hexecute, hrun, hexecutes, hmatches,
        hlast⟩
  · right
    obtain ⟨begun, htended, hline⟩ := halts_executeInline hexecute
    have hbegun := htwin.tended htended
    have hevaluation := parallel_evaluateIn budget environment (decode line) .line
      (hbegun.noted (.wrote out prompt))
    rcases hline with hhalts | ⟨value, evaluatedTwin, hends, hhalts⟩
    · obtain ⟨cut, hcut, hlast⟩ := hevaluation.halts hhalts
      exact ⟨halt, cut, cutTwin, halts_evaluateLine (.inl hcut), hexecute, hlast⟩
    · obtain ⟨_, _, evaluated, hevaluated, habreast⟩ := hevaluation.ends hends
      obtain ⟨cut, hcut, hlast⟩ :=
        (parallel_stringifyIn budget environment value habreast.last).halts hhalts
      exact ⟨halt, cut, cutTwin, halts_evaluateLine (.inr ⟨value, evaluated, hevaluated, hcut⟩),
        hexecute, hlast⟩

end Line

/-! ## All lines -/

/-- The shell on lines and a run of the scripts go through the same evaluations, until both are at
their ends or both are cut off. -/
theorem lifecycles_converse {lines : List Bytes} (htwin : Twin session twin) :
    ∃ runs scripts last lastTwin,
      Lifecycles budget environment out session twin runs scripts last lastTwin ∧
      runs.map LineRun.line <+: lines ∧
      (runs.length = lines.length ∧
        Ends (converse budget environment out lines) session ()
          ((last.note (.wrote out prompt)).note (.wrote out "\n")) ∧
        Ends (executeAll budget environment out true (lines.map fun line => .inline (decode line)))
          twin (runs.all fun run => run.outcome.exception.isNone) lastTwin ∨
      ∃ halt cut cutTwin, Halts (converse budget environment out lines) session halt cut ∧
        Halts (executeAll budget environment out true (lines.map fun line => .inline (decode line)))
          twin halt cutTwin ∧
        Twin cut cutTwin) := by
  induction lines generalizing session twin with
  | nil =>
      exact ⟨[], [], session, twin, .nil htwin, List.nil_prefix,
        .inl ⟨rfl, ends_note_bind.mpr (ends_note.mpr rfl), ends_pure.mpr ⟨rfl, rfl⟩⟩⟩
  | cons line rest ih =>
      have hprompt : Ends (write out prompt : Host engine Unit) session ()
          (session.note (.wrote out prompt)) :=
        ends_note.mpr rfl
      rcases @matched_or_cut engine budget environment out session twin line htwin with
        ⟨run, script, middle, middleTwin, rfl, hline, hexecute, hrun, hscript, hmatches, hnext⟩ |
        ⟨halt, cut, cutTwin, hline, hexecute, hlast⟩
      · obtain ⟨runs, scripts, last, lastTwin, hruns, hlines, hloops⟩ :=
          ih hnext
        refine ⟨run :: runs, script :: scripts, last, lastTwin,
          .cons htwin hrun hscript hmatches hruns, List.cons_prefix_cons.mpr ⟨rfl, hlines⟩, ?_⟩
        rcases hloops with
          ⟨hlength, hconverse, hexecutes⟩ | ⟨halt, cut, cutTwin, hconverse, hexecutes, hlast⟩
        · have hsucceeded : script.execution.succeeded = run.outcome.exception.isNone := by
            rw [hscript.succeeded_eq, hmatches.outcome_eq]
          refine .inl ⟨congrArg (· + 1) hlength, ?_, ?_⟩
          · exact ends_bind.mpr ⟨_, _, hprompt, ends_bind.mpr ⟨_, _, hline, hconverse⟩⟩
          · refine ends_bind.mpr ⟨_, _, hexecute, ends_bind.mpr ⟨_, _, hexecutes, ?_⟩⟩
            rw [List.all_cons, hsucceeded]
            exact ends_pure.mpr ⟨rfl, rfl⟩
        · refine .inr ⟨halt, cut, cutTwin, ?_, ?_, hlast⟩
          · exact (halts_bind_of_ends hprompt).mpr ((halts_bind_of_ends hline).mpr hconverse)
          · exact (halts_bind_of_ends hexecute).mpr (halts_bind.mpr (.inl hexecutes))
      · refine ⟨[], [], session, twin, .nil htwin, List.nil_prefix,
          .inr ⟨halt, cut, cutTwin, ?_, ?_, hlast⟩⟩
        · exact (halts_bind_of_ends hprompt).mpr (halts_bind.mpr (.inl hline))
        · exact halts_bind.mpr (.inl hexecute)

end Host

/-- The shell that is fed non-empty texts line by line, and a run of the same texts as scripts of
the command line with what they complete with dumped, go through the same evaluations in step: the
same states of the engine, jobs, outputs of natives, sampling flags and records of the profile, but
for the name of the source, the sampler and how long the evaluations took. Either both come to their
ends, or both are cut off alike. -/
theorem lifecycles_agree (engine : Engine) (budget : Nat) (environment : Realm) (out : Channel)
    (session : Session engine) (texts : List String)
    (htexts : ∀ text ∈ texts, text ≠ "" ∧ '\n' ∉ text.toList) :
    Bytes.spoken (texts.flatMap fun text => Bytes.ofString text ++ [Bytes.newline]) =
        texts.map Bytes.ofString ∧
    ∀ input : Bytes, input.spoken = texts.map Bytes.ofString →
      let shell := (Host.shellOn budget environment out input).outcome session
      let driver :=
        (Host.runScripts budget environment out true (texts.map Script.inline)).outcome session
      ∃ runs scripts last lastTwin,
        Lifecycles budget environment out session
          { session with sampler := session.sampler.start } runs scripts last lastTwin ∧
        runs.map LineRun.line <+: texts.map Bytes.ofString ∧
        (runs.length = texts.length ∧
          shell = (.ok input.unspoken, (last.note (.wrote out "> ")).note (.wrote out "\n")) ∧
          driver = (.ok (runs.all fun run => run.outcome.exception.isNone),
            { lastTwin with sampler := lastTwin.sampler.stop }) ∧
          (out = .report →
            Entry.written .report shell.2.journal = Entry.written .report session.journal ++
              String.join (runs.map fun run => "> " ++ run.text ++ "\n") ++ "> \n" ∧
            Entry.written .report driver.2.journal = Entry.written .report session.journal ++
              String.join (runs.map fun run => run.outcome.dumped run.text)) ∨
        ∃ halt, shell.1 = .error halt ∧ driver.1 = .error halt) ∧
        Twin shell.2 driver.2 := by
  refine ⟨?_, fun input hinput => ?_⟩
  · have hlines : ∀ line ∈ texts.map Bytes.ofString, Bytes.newline ∉ line ∧ line ≠ [] := by
      intro line hline
      obtain ⟨text, htext, rfl⟩ := List.mem_map.mp hline
      obtain ⟨hne, hnewline⟩ := htexts text htext
      exact ⟨Bytes.newline_notMem_ofString hnewline, Bytes.ofString_ne_nil hne⟩
    have hspoken := Bytes.spoken_flatMap hlines
    rwa [List.flatMap_map] at hspoken
  · rw [Host.shellOn_eq, hinput]
    intro shell driver
    have hscripts : (texts.map Bytes.ofString).map (fun line => Script.inline (decode line)) =
        texts.map Script.inline := by
      rw [List.map_map]
      exact List.map_congr_left fun text _ => congrArg Script.inline (decode_ofString text)
    have hstarted : Twin session { session with sampler := session.sampler.start } :=
      { Twin.refl session with }
    obtain ⟨runs, scripts, last, lastTwin, hlifecycles, hlines, hloops⟩ :=
      Host.lifecycles_converse hstarted
    rw [hscripts] at hloops
    refine ⟨runs, scripts, last, lastTwin, hlifecycles, hlines, ?_⟩
    rcases hloops with
      ⟨hlength, hconverse, hexecutes⟩ | ⟨halt, cut, cutTwin, hconverse, hexecutes, hcut⟩
    · have hdriver : driver = (.ok (runs.all fun run => run.outcome.exception.isNone),
          { lastTwin with sampler := lastTwin.sampler.stop }) :=
        Host.ends_modify_bind.mpr (Host.ends_bind.mpr
          ⟨_, _, hexecutes, Host.ends_modify_bind.mpr (Host.ends_pure.mpr ⟨rfl, rfl⟩)⟩)
      have hshell : shell = (.ok input.unspoken,
          (last.note (.wrote out "> ")).note (.wrote out "\n")) :=
        Host.ends_bind.mpr ⟨(), _, hconverse, Host.ends_pure.mpr ⟨rfl, rfl⟩⟩
      have hlast := hlifecycles.twin_last
      rw [List.length_map] at hlength
      refine ⟨.inl ⟨hlength, hshell, hdriver, ?_⟩, ?_⟩
      · rintro rfl
        rw [hdriver, hshell]
        refine ⟨hlifecycles.conversation.written_closing, ?_⟩
        show Entry.written .report lastTwin.journal = _
        rw [hlifecycles.batch.journal_eq, written_append, hlifecycles.batch.written_report,
          hlifecycles.dumped_eq]
        rfl
      · rw [hdriver, hshell]
        exact { (hlast.noted _).noted _ with }
    · have hdriver : driver = (.error halt, cutTwin) :=
        Host.halts_bind.mpr
          (.inr ⟨(), _, Host.ends_modify.mpr rfl, Host.halts_bind.mpr (.inl hexecutes)⟩)
      have hshell : shell = (.error halt, cut) := Host.halts_bind.mpr (.inl hconverse)
      rw [hdriver, hshell]
      exact ⟨.inr ⟨halt, rfl, rfl⟩, hcut⟩

/-- Lines of which the first completes with an object whose conversion has effects, the second is no
script and the third throws. -/
def effectiveTexts : List String :=
  ["var n = 0; (\x7b toString() \x7b n += 1; print(n); return 'shown'; \x7d \x7d)", ")",
    "throw 'lost'", "n"]

/-- The effects of a conversion come before the next line in the shell as in a run of scripts. -/
theorem lifecycles_agree_effects :
    ∃ runs scripts last lastTwin,
      Lifecycles 5 1 .report talkingSession
        { talkingSession with sampler := talkingSession.sampler.start } runs scripts last lastTwin ∧
      runs.map LineRun.line = effectiveTexts.map Bytes.ofString := by
  obtain ⟨hspoken, hagree⟩ := lifecycles_agree Language.engine 5 1 .report talkingSession
    effectiveTexts (by decide)
  have hcomputed : ((Host.shellOn 5 1 .report (effectiveTexts.flatMap fun text =>
        Bytes.ofString text ++ [Bytes.newline])).outcome talkingSession).1 = .ok [] := by
    decide +kernel
  obtain ⟨runs, scripts, last, lastTwin, hlifecycles, hlines, hended, -⟩ :=
    hagree _ hspoken
  refine ⟨runs, scripts, last, lastTwin, hlifecycles, ?_⟩
  rcases hended with ⟨hlength, -, -⟩ | ⟨halt, hhalt, -⟩
  · exact hlines.eq_of_length (by simp [hlength])
  · rw [hcomputed] at hhalt
    cases hhalt

end ScriptShell
