import ScriptShell.Proofs.Program.Phases
import ScriptShell.Proofs.Session.Moves
import ScriptShell.Proofs.Text.Chunks

/-!
# Standard input

Scripts and the shell read standard input by turns, in an order that the scripts choose. Whoever
reads gets the next line of the octets that are left (`Session.Hands`), and all that was read so far
are the chunks of the input from its beginning on (`Session.Supplied`), since no other move of a
session touches the input (`Moves.takeChunks_eq`).

## Main results

* `Host.ends_answer_readline`: the native `readline` is handed one line.
* `Host.dialogue`: so is the shell for each prompt, until it is handed an empty one.
* `standard_input_by_chunks`.
-/

namespace ScriptShell

variable {engine : Engine}

/-! ## What was read -/

/-- The chunks of standard input that entries tell of. -/
def Entry.chunksRead (entries : List Entry) : List Bytes :=
  entries.filterMap fun
    | .lineRead chunk => some chunk
    | _ => none

@[simp] theorem Entry.chunksRead_append (first second : List Entry) :
    chunksRead (first ++ second) = chunksRead first ++ chunksRead second :=
  List.filterMap_append

/-- The session has read a number of chunks of some octets from their beginning on, and an empty
one each time there was none left; the rest is its standard input. -/
structure Session.Supplied (octets : Bytes) (count : Nat) (session : Session engine) : Prop where
  chunks_eq : Entry.chunksRead session.journal =
    octets.chunks.take count ++ List.replicate (count - octets.chunks.length) []
  input_eq : session.input = (octets.chunks.drop count).flatten
  append_eq : (Entry.chunksRead session.journal).flatten ++ session.input = octets

/-- A move takes the chunks it tells of from the front of standard input. -/
theorem Move.takeChunks_eq {session after : Session engine} {entries : List Entry}
    (h : Move session entries after) :
    session.input.takeChunks (Entry.chunksRead entries).length =
      (Entry.chunksRead entries, after.input) := by
  cases h with
  | read => rfl
  | record record => cases session.kept record <;> rfl
  | note hplain =>
      rename_i entry
      cases entry with
      | wrote | logged | fileRead | fileWritten | called | settled => rfl
      | _ => exact hplain.elim
  | _ => rfl

theorem Moves.takeChunks_eq {session after : Session engine} {entries : List Entry}
    (h : Moves session entries after) :
    session.input.takeChunks (Entry.chunksRead entries).length =
      (Entry.chunksRead entries, after.input) := by
  induction h with
  | stay => rfl
  | move hmove _ ih =>
      rw [Entry.chunksRead_append, List.length_append, Bytes.takeChunks_add, hmove.takeChunks_eq,
        ih]

/-- Where nothing was read of standard input yet, moves supply a session from its beginning on. -/
theorem Moves.supplied {session after : Session engine} {entries : List Entry}
    (h : Moves session entries after) (hunread : Entry.chunksRead session.journal = []) :
    after.Supplied session.input (Entry.chunksRead entries).length := by
  have htaken := h.takeChunks_eq
  rw [Bytes.takeChunks_eq, Prod.mk.injEq] at htaken
  obtain ⟨hchunks, hinput⟩ := htaken
  have hread : Entry.chunksRead after.journal = Entry.chunksRead entries := by
    rw [h.journal_eq, Entry.chunksRead_append, hunread, List.nil_append]
  refine ⟨hread.trans hchunks.symm, hinput.symm, ?_⟩
  have hflatten := congrArg List.flatten hchunks
  rw [List.flatten_append, List.flatten_replicate_nil, List.append_nil] at hflatten
  rw [hread, ← hinput]
  calc (Entry.chunksRead entries).flatten ++
          (session.input.chunks.drop (Entry.chunksRead entries).length).flatten
      = (session.input.chunks.take (Entry.chunksRead entries).length).flatten ++
          (session.input.chunks.drop (Entry.chunksRead entries).length).flatten := by
        rw [hflatten]
    _ = session.input := by
        rw [← List.flatten_append, List.take_append_drop, Bytes.flatten_chunks]

/-! ## Handing over a line -/

/-- A reader is handed the next line of standard input: what stands before a newline, which is
consumed with it, or all that is left where there is no newline. -/
inductive Session.Hands (session : Session engine) : Bytes → Session engine → Prop
  | line {line rest : Bytes} (hinput : session.input = line ++ Bytes.newline :: rest)
      (hline : Bytes.newline ∉ line) :
      Hands session line { session with
        input := rest
        history := .lineRead (line ++ [Bytes.newline]) :: session.history }
  | last {line : Bytes} (hinput : session.input = line) (hline : Bytes.newline ∉ line) :
      Hands session line { session with input := [], history := .lineRead line :: session.history }

theorem Session.hands_reading (session : Session engine) :
    session.Hands session.input.takeChunk.1.chomp session.reading := by
  have hreading : session.reading = { session with
      input := session.input.takeChunk.2
      history := .lineRead session.input.takeChunk.1 :: session.history } := rfl
  rw [hreading]
  by_cases hmem : Bytes.newline ∈ session.input
  · obtain ⟨line, rest, hinput, hline⟩ := List.eq_append_cons_of_mem hmem
    rw [hinput, Bytes.takeChunk_append_newline hline, Bytes.chomp_append_newline]
    exact .line hinput hline
  · rw [Bytes.takeChunk_of_notMem hmem, Bytes.chomp_of_notMem hmem]
    exact .last rfl hmem

namespace Session.Hands

variable {session after : Session engine} {line : Bytes}

theorem length_lt (h : session.Hands line after) (hne : line ≠ []) :
    after.input.length < session.input.length := by
  cases h with
  | line hinput hline =>
      rw [hinput, List.length_append, List.length_cons]
      show _ < _ + (_ + 1)
      exact Nat.lt_add_left _ (Nat.lt_succ_self _)
  | last hinput hline =>
      rw [hinput]
      exact List.length_pos_iff.mpr hne

/-- At the end of the input there is an empty line, for each reader that asks for one. -/
theorem eq_nil (h : session.Hands line after) (hend : session.input = []) :
    line = [] ∧ after.input = [] := by
  cases h with
  | line hinput hline =>
      rw [hend] at hinput
      exact absurd hinput.symm (List.append_ne_nil_of_right_ne_nil _ (List.cons_ne_nil _ _))
  | last hinput hline => exact ⟨hinput ▸ hend, rfl⟩

end Session.Hands

namespace Host

variable {α : Type} {budget : Nat} {environment : Realm} {out : Channel}
  {session after : Session engine}

theorem Leads.exists_of_ends {relation : Session engine → List Entry → Session engine → Prop}
    {action : Host engine α} {result : α} (haction : Leads relation action)
    (hends : Ends action session result after) : ∃ entries, relation session entries after := by
  obtain ⟨entries, hentries⟩ := haction session
  rw [show action.outcome session = (.ok result, after) from hends] at hentries
  exact ⟨entries, hentries⟩

/-! ## The native -/

theorem ends_answer_readline (realm : Realm) (arguments : List engine.Value)
    (session : Session engine) :
    ∃ line after, (session.note (.called .readline session.frames)).Hands line after ∧
      Ends (answer (budget + 1) realm .readline arguments).run session
        (.ok (engine.ofText (decode line))) after := by
  refine ⟨_, _, Session.hands_reading _, ?_⟩
  show Ends (called realm .readline _) session _ _
  unfold called
  rw [ends_get_bind, ends_note_bind, ends_withRealm]
  refine ⟨{ (session.note (.called .readline session.frames)).reading with realm := realm }, ?_,
    rfl⟩
  show Ends (lift readLine >>= fun line => pure (engine.ofText (decode line))).run _ _ _
  rw [ends_run_lift_bind]
  exact ⟨_, _, ends_readLine.mpr ⟨rfl, rfl⟩, ends_run_pure.mpr ⟨rfl, rfl⟩⟩

/-! ## The shell -/

/-- The shell prompts, is handed a line that is not empty and evaluates it, any number of times. -/
inductive Dialogue (budget : Nat) (environment : Realm) (out : Channel) :
    Session engine → Session engine → Prop
  | stay (session : Session engine) : Dialogue budget environment out session session
  | line {session heard middle after : Session engine} {line : Bytes}
      (hhands : (session.note (.wrote out prompt)).Hands line heard) (hline : line ≠ [])
      (hends : Ends (evaluateLine budget environment out (decode line)) heard () middle)
      (hdialogue : Dialogue budget environment out middle after) :
      Dialogue budget environment out session after

/-- Evaluating a line makes standard input no longer. -/
theorem length_input_evaluateLine {line : String}
    (hends : Ends (evaluateLine budget environment out line) session () after) :
    after.input.length ≤ session.input.length := by
  have hleads : Leads Moves (evaluateLine budget environment out line : Host engine Unit) :=
    moves_shell.evaluateLine line
  obtain ⟨entries, hmoves⟩ := hleads.exists_of_ends hends
  have htaken := Bytes.length_takeChunks_le (Entry.chunksRead entries).length session.input
  rwa [hmoves.takeChunks_eq] at htaken

/-- How the shell ends, from the last prompt on: it was handed an empty line, or the line that it
was handed cuts it off. -/
def Concludes (budget : Nat) (environment : Realm) (out : Channel) (shell : Except Halt Unit)
    (last after : Session engine) : Prop :=
  ∃ line heard, (last.note (.wrote out prompt)).Hands line heard ∧
    ((line = [] ∧ shell = .ok () ∧ after = heard.note (.wrote out "\n")) ∨
      line ≠ [] ∧ ∃ halt, shell = .error halt ∧
        (evaluateLine budget environment out (decode line)).outcome heard = (.error halt, after))

private theorem dialogue_shellLines {lines : Nat} (hlines : session.input.length < lines) :
    ∃ last, Dialogue budget environment out session last ∧
      Concludes budget environment out
        ((shellLines budget environment out lines).outcome session).1 last
        ((shellLines budget environment out lines).outcome session).2 := by
  induction lines generalizing session with
  | zero => omega
  | succ lines ih =>
      let heard := (session.note (.wrote out prompt)).reading
      let line := (session.note (.wrote out prompt)).input.takeChunk.1.chomp
      have hhands : (session.note (.wrote out prompt)).Hands line heard := Session.hands_reading _
      have hshell : (shellLines budget environment out (lines + 1)).outcome session =
          (if line = [] then write out "\n" else do
            evaluateLine budget environment out (decode line)
            shellLines budget environment out lines).outcome heard := rfl
      rw [hshell]
      by_cases hline : line = []
      · rw [if_pos hline]
        exact ⟨session, .stay session, line, heard, hhands, .inl ⟨hline, rfl, rfl⟩⟩
      rw [if_neg hline, outcome_bind]
      rcases houtcome : (evaluateLine budget environment out (decode line)).outcome heard with
        ⟨halt | _, middle⟩
      · exact ⟨session, .stay session, line, heard, hhands, .inr ⟨hline, halt, rfl, houtcome⟩⟩
      · -- the line may have had more of the input read, but no action puts any back
        have hless := hhands.length_lt hline
        have hmiddle := length_input_evaluateLine houtcome
        have hinput : (session.note (.wrote out prompt)).input = session.input := rfl
        rw [hinput] at hless
        have hshorter : middle.input.length < lines := by omega
        obtain ⟨last, hdialogue, hlast⟩ := ih hshorter
        exact ⟨last, .line hhands hline houtcome hdialogue, hlast⟩

/-- The shell is handed a line for each of its prompts. It always gets to an empty line or to one
that cuts it off, since every line that it evaluates shortens the input. -/
theorem dialogue (budget : Nat) (environment : Realm) (out : Channel) (session : Session engine) :
    ∃ last, Dialogue budget environment out session last ∧
      Concludes budget environment out ((shell budget environment out).outcome session).1 last
        ((shell budget environment out).outcome session).2 :=
  dialogue_shellLines (Nat.lt_succ_self _)

end Host

/-! ## Whole runs -/

namespace Program

open Host

theorem moves_saveProfileTo (path? : Option String) :
    Leads Moves (saveProfileTo path? : Host engine Unit) := by
  cases path? with
  | none => exact .pure _
  | some path =>
      refine (leads_saveProfile path).bind fun saved => ?_
      cases saved with
      | ok _ => exact .pure _
      | error failure => exact (moves_shell.log _).bind fun _ => moves_shell.write _ _

theorem moves_dumpSamples : Leads Moves (dumpSamples : Host engine Unit) := by
  refine .get_bind fun session => ?_
  split
  · exact moves_shell.write _ _
  · exact .pure _

theorem moves_closing (configuration : CommandLine.Configuration) (success : Bool) :
    Leads Moves (closing configuration success : Host engine Nat) := by
  have hsaved : Leads Moves (do
      saveProfileTo configuration.profilePath
      dumpSamples
      return statusOf success : Host engine Nat) :=
    (moves_saveProfileTo _).bind fun _ => moves_dumpSamples.bind fun _ => .pure _
  unfold closing
  dsimp only
  split
  · exact (moves_shell.write _ _).bind fun _ => hsaved
  · exact hsaved

/-- The phases of a run make moves, to where a call of `quit` or a bound cuts the run off. -/
theorem moves_phases (budget : Nat) (configuration : CommandLine.Configuration) :
    Leads Moves (phases budget configuration : Host engine Nat) := by
  rw [phases_eq]
  refine .bind (moves_createEnvironment _) fun made => ?_
  cases made with
  | error fault => exact .get_bind fun _ => (moves_shell.write _ _).bind fun _ => .pure _
  | ok environment =>
      refine .bind ?_ fun success => moves_closing configuration success
      refine (moves_shell.runScripts _).bind fun success => ?_
      split
      · exact moves_shell.shell.bind fun _ => .pure _
      · exact .pure _

theorem chunksRead_listing (configuration : CommandLine.Configuration) :
    Entry.chunksRead (listing configuration) = [] := by
  unfold listing
  split <;> rfl

/-- What a run of the program reads of standard input. -/
theorem chunksRead_run (engine : Engine) (budget : Nat) (surroundings : Surroundings) :
    ∃ count, Entry.chunksRead (run engine budget surroundings).journal =
      surroundings.input.chunks.take count ++
        List.replicate (count - surroundings.input.chunks.length) [] := by
  unfold run
  split
  · exact ⟨0, by simp [printOnly, Entry.chunksRead]⟩
  · exact ⟨0, by simp [printOnly, Entry.chunksRead]⟩
  · exact ⟨0, by simp [printOnly, Entry.chunksRead]⟩
  · rename_i configuration _
    obtain ⟨entries, hmoves⟩ := moves_phases budget configuration
      (opening engine surroundings configuration)
    rcases houtcome : (phases budget configuration : Host engine Nat).outcome
      (opening engine surroundings configuration) with ⟨ending, session⟩
    rw [houtcome] at hmoves
    have hjournal : Entry.chunksRead
        (runConfiguration engine budget surroundings configuration).journal =
          Entry.chunksRead session.journal := by
      rw [runConfiguration_eq budget surroundings configuration houtcome]
      simp [chunksRead_listing]
    exact ⟨_, hjournal.trans (hmoves.supplied rfl).chunks_eq⟩

end Program

/-- Whatever the user of a session has it do is made of moves, and wherever moves lead from a new
session on, the chunks of standard input that were read so far are the first ones, in their order,
and the rest is unread; a run of the program reads the first chunks as well. Each call of `readline`
and each prompt of the shell gets one line; a line that is empty, as all are at the end of the
input, ends the shell there. -/
theorem standard_input_by_chunks (engine : Engine) (budget : Nat) :
    (∀ options profiling input files clock (session : Session engine),
      let first := Session.start engine options profiling input files clock
      (Evolves first session → ∃ entries, Moves first entries session) ∧
        ∀ entries, Moves first entries session →
          session.Supplied input (Entry.chunksRead entries).length) ∧
    (∀ surroundings : Surroundings, ∃ count,
      Entry.chunksRead (Program.run engine budget surroundings).journal =
        surroundings.input.chunks.take count ++
          List.replicate (count - surroundings.input.chunks.length) []) ∧
    (∀ realm arguments (session : Session engine), ∃ line after,
      (session.note (.called .readline session.frames)).Hands line after ∧
        Host.Ends (Host.answer (budget + 1) realm .readline arguments).run session
          (.ok (engine.ofText (decode line))) after) ∧
    (∀ environment out (session : Session engine), ∃ last,
      Host.Dialogue budget environment out session last ∧
        Host.Concludes budget environment out
          ((Host.shell budget environment out).outcome session).1 last
          ((Host.shell budget environment out).outcome session).2) ∧
    ∀ (session after : Session engine) line, session.Hands line after → session.input = [] →
      line = [] ∧ after.input = [] :=
  ⟨fun _ _ _ _ _ _ => ⟨Evolves.moves, fun _ hmoves => hmoves.supplied rfl⟩,
    Program.chunksRead_run engine budget, Host.ends_answer_readline, Host.dialogue budget,
    fun _ _ _ hhands => hhands.eq_nil⟩

/-- A shell on standard input that evaluates a call of `readline`, up to a blank line. -/
def alternatingSession : Session Language.engine :=
  let first := Session.start Language.engine {} false
    (Bytes.ofString "readline()\nheard\n\nunread") Files.empty (.ticking 0)
  let opened := ((Operation.createEnvironment []).run 4).outcome first
  (((Operation.shell 1 .report).run 4).outcome opened.2).2

/-- The line behind the call goes to the script, and what stands behind the blank line is left. -/
theorem standard_input_by_chunks_alternating :
    (∃ count, alternatingSession.Supplied (Bytes.ofString "readline()\nheard\n\nunread") count) ∧
      alternatingSession.input = Bytes.ofString "unread" ∧
      Entry.written .report alternatingSession.journal = "> heard\n> \n" := by
  refine ⟨?_, by decide +kernel⟩
  obtain ⟨hstarted, -⟩ := standard_input_by_chunks Language.engine 4
  obtain ⟨hmoves, hsupplied⟩ := hstarted {} false (Bytes.ofString "readline()\nheard\n\nunread")
    Files.empty (.ticking 0) alternatingSession
  obtain ⟨entries, hentries⟩ := hmoves ((Evolves.refl.operate 4 (.createEnvironment [])).operate 4
    (.shell 1 .report))
  exact ⟨_, hsupplied entries hentries⟩

end ScriptShell
