import ScriptShell.Proofs.Session.Batch
import ScriptShell.Proofs.Text.Chunks

/-!
# The shell line by line

The shell on a text of its own evaluates the lines before the first empty one, each in the session
behind the one before, and echoes what comes of each. `Host.shellOn_eq` takes the loop over octets
apart into the cutting of lines, which is a matter of the text alone, and a loop over lines
(`Host.converse`); `Conversation` says what the second loop does.

## Main results

* `Host.shellOn_eq`: the bound of the loop is never used up, and only the lines before the first
  empty one matter.
* `shell_by_lines`.
-/

namespace ScriptShell

variable {engine : Engine}

/-! ## One line -/

/-- What is echoed of an outcome, from the session behind the evaluation on: the text, what its
computation left in the journal, and the session behind it. -/
inductive Echoes (budget : Nat) (environment : Realm) :
    Evaluated engine → Session engine → String → List Entry → Session engine → Prop
  | threw {fault : engine.Fault} {info : ExceptionInfo} {session : Session engine} :
      Echoes budget environment (.threw fault info) session ("Exception: " ++ info.message) []
        session
  | completed {value : engine.Value} {session after : Session engine} {text : String}
      {entries : List Entry}
      (hends : Host.Ends (Host.stringifyIn budget environment value) session text after)
      (hcourse : Course .script session entries after) :
      Echoes budget environment (.completed value) session text entries after

theorem Echoes.course {budget : Nat} {environment : Realm} {outcome : Evaluated engine}
    {session after : Session engine} {text : String} {entries : List Entry}
    (h : Echoes budget environment outcome session text entries after) :
    Course .script session entries after := by
  cases h with
  | threw => exact .stay
  | completed _ hcourse => exact hcourse

/-- One line that was evaluated. -/
structure LineRun (engine : Engine) where
  /-- The octets of the line, without a newline. -/
  line : Bytes
  outcome : Evaluated engine
  /-- The session behind the evaluation. -/
  evaluated : Session engine
  /-- The evaluation as it stands in the journal. -/
  evaluation : Evaluation
  /-- What was echoed of the outcome. -/
  text : String
  /-- What computing that text left in the journal. -/
  rendering : List Entry
  /-- The session in which the text was written. -/
  rendered : Session engine

namespace LineRun

/-- What a line leaves in the journal, the prompt before it included. -/
def entries (out : Channel) (run : LineRun engine) : List Entry :=
  .wrote out Host.prompt :: (run.evaluation.entries ++ run.rendering ++
    [.wrote out (run.text ++ "\n")])

/-- What a line and its prompt and echo come to on a channel that scripts do not write to. -/
def transcript (run : LineRun engine) : String :=
  Host.prompt ++ run.text ++ "\n"

/-- How the parts of a line that was evaluated hang together. -/
structure Executes (budget : Nat) (environment : Realm) (out : Channel)
    (session : Session engine) (run : LineRun engine) (after : Session engine) : Prop where
  evaluates : Host.Ends
    (Host.evaluateIn budget environment (decode run.line) Host.interpreterSource)
    (session.note (.wrote out Host.prompt)) run.outcome run.evaluated
  course : Course .script (session.note (.wrote out Host.prompt)) run.evaluation.entries
    run.evaluated
  name_eq : run.evaluation.name = Host.interpreterSource
  echoes : Echoes budget environment run.outcome run.evaluated run.text run.rendering run.rendered
  after_eq : after = run.rendered.note (.wrote out (run.text ++ "\n"))

namespace Executes

variable {budget : Nat} {environment : Realm} {out : Channel} {session after : Session engine}
  {run : LineRun engine}

theorem journal_eq (h : run.Executes budget environment out session after) :
    after.journal = session.journal ++ run.entries out := by
  have hafter : after.journal = run.rendered.journal ++ [.wrote out (run.text ++ "\n")] := by
    rw [h.after_eq]
    simp [Session.journal]
  have hprompted : (session.note (.wrote out Host.prompt)).journal =
      session.journal ++ [.wrote out Host.prompt] := by
    simp [Session.journal]
  rw [hafter, h.echoes.course.journal_eq, h.course.journal_eq, hprompted]
  simp [entries]

/-- Scripts add nothing to the report of the shell. -/
theorem written_report (h : run.Executes budget environment .report session after) :
    Entry.written .report (run.entries .report) = run.transcript := by
  have hcons : run.entries .report = [.wrote .report Host.prompt] ++ run.evaluation.entries ++
      run.rendering ++ [.wrote .report (run.text ++ "\n")] := by
    simp [entries]
  rw [hcons, written_append, written_append, written_append, h.course.written_report,
    h.echoes.course.written_report]
  simp [Entry.written, transcript, String.append_assoc]

end Executes

end LineRun

/-! ## Line after line -/

/-- Lines that were evaluated one after another, each in the session behind the one before. -/
inductive Conversation (budget : Nat) (environment : Realm) (out : Channel) :
    Session engine → List (LineRun engine) → Session engine → Prop
  | nil {session : Session engine} : Conversation budget environment out session [] session
  | cons {session middle after : Session engine} {run : LineRun engine}
      {runs : List (LineRun engine)}
      (hrun : run.Executes budget environment out session middle)
      (hruns : Conversation budget environment out middle runs after) :
      Conversation budget environment out session (run :: runs) after

namespace Conversation

variable {budget : Nat} {environment : Realm} {out : Channel} {session after : Session engine}
  {runs : List (LineRun engine)}

theorem journal_eq (h : Conversation budget environment out session runs after) :
    after.journal = session.journal ++ runs.flatMap (LineRun.entries out) := by
  induction h with
  | nil => simp
  | cons hrun _ ih =>
      rw [ih, hrun.journal_eq, List.flatMap_cons, List.append_assoc]

theorem written_report (h : Conversation budget environment .report session runs after) :
    Entry.written .report (runs.flatMap (LineRun.entries .report)) =
      String.join (runs.map LineRun.transcript) := by
  induction h with
  | nil => rfl
  | cons hrun _ ih =>
      rw [List.flatMap_cons, written_append, hrun.written_report, ih, List.map_cons,
        String.join_cons]

/-- The journal behind the last prompt, where no line is left. -/
theorem journal_closing (h : Conversation budget environment out session runs after) :
    ((after.note (.wrote out Host.prompt)).note (.wrote out "\n")).journal =
      session.journal ++ runs.flatMap (LineRun.entries out) ++
        [.wrote out "> ", .wrote out "\n"] := by
  rw [← h.journal_eq]
  simp [Session.journal, Host.prompt]

theorem written_closing (h : Conversation budget environment .report session runs after) :
    Entry.written .report
        ((after.note (.wrote .report Host.prompt)).note (.wrote .report "\n")).journal =
      Entry.written .report session.journal ++ String.join (runs.map LineRun.transcript) ++
        "> \n" := by
  rw [h.journal_closing, written_append, written_append, h.written_report]
  rfl

end Conversation

namespace Host

variable {budget : Nat} {environment : Realm} {out : Channel} {session after : Session engine}

theorem ends_evaluateLine {line : Bytes}
    (hends : Ends (evaluateLine budget environment out (decode line))
      (session.note (.wrote out prompt)) () after) :
    ∃ run : LineRun engine, run.line = line ∧
      run.Executes budget environment out session after := by
  unfold evaluateLine at hends
  obtain ⟨outcome, evaluated, hevaluate, hends⟩ := ends_bind.mp hends
  obtain ⟨inside, ⟨run⟩, rfl⟩ := evaluationRun_of_evaluateIn hevaluate
  have hcourse := Course.inRealm environment run.course
  cases outcome with
  | completed value =>
      obtain ⟨text, rendered, hstringify, hwrite⟩ := ends_bind.mp hends
      obtain ⟨rendering, hrendering⟩ := follows_stringifyIn budget environment value hstringify
      exact ⟨⟨line, _, _, run.evaluation, text, rendering, rendered⟩, rfl, hevaluate, hcourse, rfl,
        .completed hstringify hrendering, ends_note.mp hwrite⟩
  | threw fault info =>
      exact ⟨⟨line, _, _, run.evaluation, _, [], _⟩, rfl, hevaluate, hcourse, rfl, .threw,
        ends_note.mp hends⟩

/-! ## Lines and octets -/

/-- The shell on lines that a text was cut into before. -/
def converse (budget : Nat) (environment : Realm) (out : Channel) :
    List Bytes → Host engine Unit
  | [] => do
    write out prompt
    write out "\n"
  | line :: rest => do
    write out prompt
    evaluateLine budget environment out (decode line)
    converse budget environment out rest

private theorem shellOnLines_eq {lines : Nat} {input : Bytes} (hlines : input.length < lines) :
    (shellOnLines budget environment out lines input : Host engine Bytes) = do
      converse budget environment out input.spoken
      return input.unspoken := by
  induction lines generalizing input with
  | zero => omega
  | succ lines ih =>
      rw [Bytes.spoken_eq, Bytes.unspoken_eq]
      unfold shellOnLines
      by_cases hline : input.takeChunk.1.chomp = []
      · simp only [if_pos hline, converse, bind_assoc]
      · -- the bound is on octets, and a line that is evaluated takes at least one of them
        have hshorter := Bytes.length_takeChunk_lt hline
        simp only [if_neg hline, converse, bind_assoc]
        rw [ih (by omega)]

/-- What the shell does with a text depends on the lines before the first empty one alone, and it
evaluates all of them and leaves what stands behind it. -/
theorem shellOn_eq (budget : Nat) (environment : Realm) (out : Channel) (input : Bytes) :
    (shellOn budget environment out input : Host engine Bytes) = do
      converse budget environment out input.spoken
      return input.unspoken :=
  shellOnLines_eq (Nat.lt_succ_self _)

/-- How the shell on lines ends, from the prompt behind the lines that it evaluated on: no line is
left, or the next one cuts it off. -/
def Stops {α : Type} (budget : Nat) (environment : Realm) (out : Channel) (shell : Except Halt α)
    (result : α) (rest : List Bytes) (last after : Session engine) : Prop :=
  match rest with
  | [] => shell = .ok result ∧
      after = (last.note (.wrote out prompt)).note (.wrote out "\n")
  | line :: _ => ∃ halt, shell = .error halt ∧
      (evaluateLine budget environment out (decode line)).outcome
        (last.note (.wrote out prompt)) = (.error halt, after)

/-- The shell evaluates all lines, or those up to the first that cuts it off. -/
theorem conversation_converse (budget : Nat) (environment : Realm) (out : Channel)
    (lines : List Bytes) (session : Session engine) :
    ∃ runs rest last, runs.map LineRun.line ++ rest = lines ∧
      Conversation budget environment out session runs last ∧
      Stops budget environment out ((converse budget environment out lines).outcome session).1 ()
        rest last ((converse budget environment out lines).outcome session).2 := by
  induction lines generalizing session with
  | nil => exact ⟨[], [], session, rfl, .nil, rfl, rfl⟩
  | cons line lines ih =>
      have hconverse : (converse budget environment out (line :: lines)).outcome session =
          (evaluateLine budget environment out (decode line) >>= fun _ =>
            converse budget environment out lines).outcome (session.note (.wrote out prompt)) := rfl
      rw [hconverse, outcome_bind]
      rcases hevaluate : (evaluateLine budget environment out (decode line)).outcome
        (session.note (.wrote out prompt)) with ⟨halt | _, middle⟩
      · exact ⟨[], line :: lines, session, rfl, .nil, halt, rfl, hevaluate⟩
      · obtain ⟨run, hline, hrun⟩ := ends_evaluateLine hevaluate
        obtain ⟨runs, rest, last, hlines, hruns, hstops⟩ := ih middle
        refine ⟨run :: runs, rest, last, ?_, .cons hrun hruns, hstops⟩
        rw [List.map_cons, hline, List.cons_append, hlines]

theorem Stops.shellOn {input : Bytes} {rest : List Bytes} {last : Session engine}
    (h : Stops budget environment out
      ((converse budget environment out input.spoken).outcome session).1 () rest last
      ((converse budget environment out input.spoken).outcome session).2) :
    Stops budget environment out
      ((Host.shellOn budget environment out input).outcome session).1 input.unspoken rest last
      ((Host.shellOn budget environment out input).outcome session).2 := by
  rw [shellOn_eq, outcome_bind]
  rcases hconverse : (converse budget environment out input.spoken).outcome session with
    ⟨halt | _, after⟩ <;> rw [hconverse] at h
  · cases rest with
    | nil => cases h.1
    | cons line rest =>
        obtain ⟨other, hhalt, hcut⟩ := h
        cases hhalt
        exact ⟨halt, rfl, hcut⟩
  · cases rest with
    | nil => exact ⟨rfl, h.2⟩
    | cons line rest =>
        obtain ⟨halt, hhalt, -⟩ := h
        cases hhalt

end Host

/-- The shell on a text evaluates the lines before the first empty one in their order, each once and
in the environment, whatever the lines before came to, unless one of them cuts it off. It writes a
prompt before each line, what comes of the line behind it, and a last prompt and a newline where no
line is left. There is at most one line more than there are newlines. What stands behind the first
empty line is left unread, and nothing in it matters. -/
theorem shell_by_lines (engine : Engine) (budget : Nat) (environment : Realm) (out : Channel)
    (session : Session engine) :
    (∀ input : Bytes,
      let outcome := (Host.shellOn budget environment out input).outcome session
      ∃ runs rest last, runs.map LineRun.line ++ rest = input.spoken ∧
        Conversation budget environment out session runs last ∧
        Host.Stops budget environment out outcome.1 input.unspoken rest last outcome.2 ∧
        runs.length ≤ input.count Bytes.newline + 1 ∧
        (rest = [] → outcome.2.journal = session.journal ++ runs.flatMap (LineRun.entries out) ++
            [.wrote out "> ", .wrote out "\n"] ∧
          (out = .report → Entry.written .report outcome.2.journal =
            Entry.written .report session.journal ++ String.join (runs.map LineRun.transcript) ++
              "> \n"))) ∧
    ∀ (lines : List Bytes) (tail : Bytes), (∀ line ∈ lines, Bytes.newline ∉ line ∧ line ≠ []) →
      (Host.shellOn budget environment out
          (lines.flatMap (· ++ [Bytes.newline]) ++ Bytes.newline :: tail) : Host engine Bytes) = do
        let _ ← Host.shellOn budget environment out (lines.flatMap (· ++ [Bytes.newline]))
        return tail := by
  refine ⟨fun input => ?_, fun lines tail hlines => ?_⟩
  · obtain ⟨runs, rest, last, hlines, hruns, hstops⟩ :=
      Host.conversation_converse budget environment out input.spoken session
    have hstops := hstops.shellOn
    refine ⟨runs, rest, last, hlines, hruns, hstops, ?_, fun hrest => ?_⟩
    · have hlength := congrArg List.length hlines
      rw [List.length_append, List.length_map] at hlength
      have hspoken := input.length_spoken_le
      omega
    · subst hrest
      rw [hstops.2]
      refine ⟨hruns.journal_closing, ?_⟩
      rintro rfl
      exact hruns.written_closing
  · have hlast : Bytes.spoken (Bytes.newline :: tail) = [] := by
      rw [Bytes.spoken_eq]
      rfl
    have hleft : Bytes.unspoken (Bytes.newline :: tail) = tail := by
      rw [Bytes.unspoken_eq]
      rfl
    simp only [Host.shellOn_eq, Bytes.spoken_flatMap_append hlines, Bytes.spoken_flatMap hlines,
      Bytes.unspoken_flatMap_append hlines, hlast, hleft, List.append_nil, bind_assoc, pure_bind]

/-- A session with one environment in it. -/
def talkingSession : Session Language.engine :=
  ((Host.createEnvironment []).run.outcome
    (.start Language.engine {} false [] Files.empty (.ticking 0))).2

/-- A line with nothing but a carriage return is evaluated, lines go on behind one that throws and
one that is no script, and what stands behind the empty line is not looked at. -/
theorem shell_by_lines_carriage_return :
    (∃ runs last, runs.map LineRun.line =
        ["1 + 1", "\r", "throw 'lost'", ")"].map Bytes.ofString ∧
      Conversation 4 1 .report talkingSession runs last) ∧
    (Host.shellOn 4 1 .report (Bytes.ofString "1 + 1\n\r\nthrow 'lost'\n)\n\n2") :
        Host Language.engine Bytes) = do
      let _ ← Host.shellOn 4 1 .report (Bytes.ofString "1 + 1\n\r\nthrow 'lost'\n)\n")
      return Bytes.ofString "2" := by
  obtain ⟨hlines, htail⟩ := shell_by_lines Language.engine 4 1 .report talkingSession
  refine ⟨?_, htail (["1 + 1", "\r", "throw 'lost'", ")"].map Bytes.ofString)
    (Bytes.ofString "2") (by decide +kernel)⟩
  obtain ⟨runs, rest, last, hruns, hconversation, hstops, -⟩ :=
    hlines (Bytes.ofString "1 + 1\n\r\nthrow 'lost'\n)\n\n2")
  have hended : ((Host.shellOn 4 1 .report (Bytes.ofString
      "1 + 1\n\r\nthrow 'lost'\n)\n\n2")).outcome talkingSession).1 =
        .ok (Bytes.ofString "2") := by
    decide +kernel
  cases rest with
  | nil =>
      rw [List.append_nil] at hruns
      exact ⟨runs, last, hruns.trans (by decide +kernel), hconversation⟩
  | cons line rest =>
      obtain ⟨halt, hhalt, -⟩ := hstops
      rw [hended] at hhalt
      cases hhalt

example : Entry.written .report ((Host.shellOn 4 1 .report (Bytes.ofString
    "1 + 1\n\r\nthrow 'lost'\n\n2")).outcome talkingSession).2.journal =
    "> 2\n> undefined\n> Exception: lost\n> \n" := by
  decide +kernel

end ScriptShell
