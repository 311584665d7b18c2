import ScriptShell.Proofs.Session.FileCalls
import ScriptShell.Proofs.Session.Telling

/-!
# What calls with a file come to

Once `load` or `checkSyntax` got hold of the text of a file, what the call comes to is what the
evaluation or the syntax check comes to, whether that comes to its end or is cut off: `load` hands
its value on and `checkSyntax` tells how long it took.
-/

namespace ScriptShell

variable {engine : Engine}

namespace Host

variable {α : Type} {budget : Nat} {session found : Session engine} {call : Call engine}
  {path source : String}

/-- What `run` comes to with an evaluation, and `checkSyntax` with a syntax check, that began at an
instant: the time that it took, or what was thrown. -/
def timedSince (began : Nat) (realm : Realm) : Except Halt (Evaluated engine) × Session engine →
    Except Halt (Except engine.Fault engine.Value) × Session engine
  | (.ok (.completed _), after) =>
    (.ok (.ok (engine.ofNumber
        (Duration.ofNanos (after.clock.instant .call - began)).inMilliseconds)),
      { after.looked .call with realm := realm })
  | (.ok (.threw fault _), after) => (.ok (.error fault), { after with realm := realm })
  | (.error halt, after) => (.error halt, after)

theorem outcome_run_bind_of_ends {action : Attempt engine α}
    {next : α → Attempt engine engine.Value} {value : α} {middle : Session engine}
    (hends : Ends action.run session (.ok value) middle) :
    (action >>= next).run.outcome session = (next value).run.outcome middle := by
  rw [ExceptT.run_bind, outcome_bind_of_ends hends]

/-- A native that got hold of the text of a file goes on with it. -/
theorem outcome_answered (next : String → String → Attempt engine engine.Value)
    (hnext : respond (answer budget) budget call.native call.arguments =
      withSource (answer budget) (firstArgument call.arguments) next)
    (hfinds : call.Finds budget session path source found) :
    (call.answered (budget + 1)).outcome session =
      match (next path source).run.outcome found with
      | (.ok given, inside) => (.ok given, { inside with realm := session.realm })
      | (.error halt, inside) => (.error halt, inside) := by
  obtain ⟨converted, content, hpath, hread, rfl, rfl⟩ := hfinds
  have hloads : Ends (loadSource path : Attempt engine String).run converted
      (.ok (SourceBuffer.ofFile content).text) (converted.note (.fileRead path true)) :=
    ends_loadSource.mpr (by simp [hread, Except.isOk, Except.toBool])
  have hwithin : (respond (answer budget) budget call.native call.arguments).run.outcome
      (call.within session) = (next path (SourceBuffer.ofFile content).text).run.outcome
        (converted.note (.fileRead path true)) := by
    rw [hnext, withSource, outcome_run_bind_of_ends hpath, outcome_run_bind_of_ends hloads]
  show (withRealm call.realm
    (respond (answer budget) budget call.native call.arguments).run).outcome
      (session.note (.called call.native session.frames)) = _
  have hinside : { session.note (.called call.native session.frames) with realm := call.realm } =
      call.within session := rfl
  rw [outcome_withRealm, hinside, hwithin]
  rcases (next path (SourceBuffer.ofFile content).text).run.outcome
    (converted.note (.fileRead path true)) with ⟨halt | given, inside⟩
  · rfl
  · rfl

/-- `checkSyntax` checks the text behind a look at the clock. -/
theorem outcome_check (hnative : call.native = .checkSyntax)
    (hfinds : call.Finds budget session path source found) :
    (call.answered (budget + 1)).outcome session =
      timedSince (found.clock.instant .call) session.realm
        ((checkSyntax (answer budget) source path).outcome (found.looked .call)) := by
  rw [outcome_answered (fun path source => do
    let began ← lift (now .call)
    let outcome ← lift (checkSyntax (answer budget) source path)
    timed began outcome) (by rw [hnative]; rfl) hfinds, run_lift_bind,
    outcome_bind_of_ends (ends_now.mpr ⟨rfl, rfl⟩), run_lift_bind, outcome_bind]
  rcases (checkSyntax (answer budget) source path).outcome (found.looked .call) with
    ⟨halt | outcome, after⟩
  · rfl
  · cases outcome with
    | completed value =>
        have htold : Ends (timed (found.clock.instant .call) (.completed value)).run after _ _ :=
          ends_timed.mpr ⟨rfl, rfl⟩
        rw [Ends] at htold
        dsimp only
        rw [htold]
        rfl
    | threw fault info => rfl

end Host

end ScriptShell
