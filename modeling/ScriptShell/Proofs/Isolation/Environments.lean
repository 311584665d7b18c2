import ScriptShell.Proofs.Isolation.Places
import ScriptShell.Proofs.Isolation.Regions

/-!
# Environments are isolated

Where the engine keeps realms apart, the shell keeps environments apart. Each has a realm of its
own. Whatever is evaluated in one environment makes no difference to the others, nested evaluations
included, at any time of a session. And a file that is evaluated by `run` makes no difference to the
script that calls, but for what comes back.
-/

namespace ScriptShell

variable {engine : Engine}

/-- What holds at every place of a list holds wherever it is split. -/
private theorem forall_splits {α : Type} {list : List α} {holds : List α → α → Prop}
    (h : ∀ index (hindex : index < list.length), holds (list.take index) list[index]) :
    ∀ before element behind, list = before ++ element :: behind → holds before element := by
  rintro before element behind rfl
  simpa using h before.length (by simp)

namespace Marks

/-- In both environments an object is bound to the same name. A script in the first leaves a job,
which is run behind it, and another one there runs a file that binds the name as well. Both objects
are rendered. -/
def asks : List (Ask Language.regional) :=
  [.take (.operate (.createEnvironment [])), .take (.operate (.createEnvironment [])),
    .take (.operate (.evaluate 1
      "mark = \x7bname: 'one'\x7d; Promise.resolve('later').then(print); mark" "first.js")),
    .take (.operate (.evaluate 2 "mark = \x7bname: 'two'\x7d" "second.js")),
    .take (.operate (.evaluate 1 "run('inner.js'); print(mark.name)" "first.js")),
    .render 1 2, .render 2 3,
    .take (.operate (.evaluate 2 "print(mark.name)" "second.js"))]

def files : Files :=
  Files.empty.addFile "inner.js" (Bytes.ofString "mark = 'inner'")

abbrev first : Session Language.regional :=
  Session.start Language.regional {} false [] files (.ticking 0)

abbrev turns : List (Turn Language.regional) :=
  Ask.turns 4 asks [] first

/-- What a turn prints. -/
def printed (effect : Except Halt (Reply Language.regional) × List Entry) : String :=
  Entry.written .stdout effect.2

/-- The session in which the script in the first environment calls `run`. -/
abbrev session : Session Language.regional :=
  ((turns.map Turn.session).getD 4 first).entering "first.js"

/-- The script in the first environment calls `run`. -/
def call : Call Language.regional :=
  ⟨1, .run, [Language.regional.ofText "inner.js"]⟩

/-- The session in which `run` has found the file. -/
abbrev found : Session Language.regional :=
  ((call.path 3).outcome (call.within session)).2.note (.fileRead "inner.js" true)

/-- The turns in the first environment can be told from those in the second, and `run` gets hold of
its file and of a realm. -/
theorem computed :
    (∀ turn ∈ turns, turn.session.frames = [] ∧ turn.session.jobs.isEmpty = true ∧
      (turn.isIn 1 = true → (turn.after 4).input = turn.session.input ∧
        (turn.after 4).flags = turn.session.flags)) ∧
    (∀ index (hindex : index < turns.length),
      (∀ place ∈ turns[index].ask.environment?,
        ∃ earlier ∈ turns.take index, earlier.made? 4 = some place) ∧
      ∀ number ∈ turns[index].ask.shown?, ∀ earlier ∈ (turns.take index)[number]?,
        earlier.isIn 1 = turns[index].isIn 1) ∧
    turns.map (fun turn => printed (turn.effect 4)) =
      ["", "", "later\n", "", "one\n", "", "", "two\n"] ∧
    (Turn.elsewhere 1 turns).map (fun turn => printed (turn.effect 4)) =
      ["", "", "", "", "two\n"] ∧
    ((call.path 3).outcome (call.within session)).1.toOption.any (fun converted =>
      match converted with
      | .ok path => path = "inner.js"
      | .error _ => false) = true ∧
    ((call.path 3).outcome (call.within session)).2.files.read "inner.js" =
      .ok (Bytes.ofString "mark = 'inner'") ∧
    (SourceBuffer.ofFile (Bytes.ofString "mark = 'inner'")).text = "mark = 'inner'" ∧
    found.frames.isEmpty = false ∧
    ((Host.createEnvironment []).run.outcome found).1.toOption.any (fun made => match made with
      | .ok place => place = (3 : Nat)
      | .error _ => false) = true := by
  decide +kernel

theorem separate : Separate Language.division 4 1 turns where
  settled turn hturn :=
    have hsettled := computed.1 turn hturn
    ⟨hsettled.1, List.isEmpty_iff.mp hsettled.2.1⟩
  sampling turn hturn := by
    have hkeeps : ∀ ask ∈ asks, ∀ told, (Turn.mk first told ask).step.KeepsEnabled := by
      simp [asks, Turn.step, SessionStep.KeepsEnabled]
    exact hkeeps turn.ask (Ask.ask_mem_of_mem_turns hturn) turn.told
  made := forall_splits fun index hindex => (computed.2.1 index hindex).1
  handed turn hturn := by
    have hnothing : ∀ ask ∈ asks, ask.handed? = none := by
      simp [asks, Ask.handed?]
    intro value hvalue
    rw [hnothing turn.ask (Ask.ask_mem_of_mem_turns hturn)] at hvalue
    cases hvalue
  shown := forall_splits fun index hindex => (computed.2.1 index hindex).2
  quiet turn hturn := (computed.1 turn hturn).2.2

theorem finds : call.Finds 3 session "inner.js" "mark = 'inner'" found := by
  obtain ⟨-, -, -, -, hpath, hread, htext, -⟩ := computed
  obtain ⟨converted, hends, hconverted⟩ := Host.exists_ends hpath
  cases converted with
  | error fault => cases hconverted
  | ok path =>
      obtain rfl : path = "inner.js" := decide_eq_true_eq.mp hconverted
      exact ⟨_, _, hends, hread, htext.symm, rfl⟩

end Marks

end ScriptShell
