import ScriptShell.Proofs.Session.Answers
import ScriptShell.Proofs.Session.Moves
import ScriptShell.Proofs.Session.Parallel

/-!
# Where files are evaluated

The realms of a session are numbered as they are made, so that a new one is none that there was.
`load` has the text of a file evaluated in the realm that it begins in (`Host.realm_of_finds`).
`run` has it evaluated in a realm made for it, in which the array `arguments` is empty, and hands on
how long that took or what was thrown (`Host.outcome_run`).
-/

namespace ScriptShell

variable {engine : Engine}

/-! ## The numbers of realms -/

/-- The session in which `run` has the text of a file evaluated, when an environment has been
made. -/
def Session.inside (made : Session engine) (realm : Realm) : Session engine :=
  { made.looked .call with realm := realm }

namespace Host

variable {budget : Nat} {session found : Session engine} {call : Call engine}
  {path source : String}

/-- `run` evaluates the text in a new realm, with no arguments. -/
theorem outcome_run (hnative : call.native = .run)
    (hfinds : call.Finds budget session path source found) {place : Realm} {made : Session engine}
    (hcreates : Ends (createEnvironment []).run found (.ok place) made) :
    (call.answered (budget + 1)).outcome session =
      timedSince (made.clock.instant .call) session.realm
        ((evaluate (answer budget) budget source path).outcome (made.inside place)) := by
  rw [outcome_answered (fun path source => do
    let realm ← createEnvironment []
    let began ← lift (now .call)
    let outcome ← lift (withRealm realm (evaluate (answer budget) budget source path))
    timed began outcome) (by rw [hnative]; rfl) hfinds, outcome_run_bind_of_ends hcreates,
    run_lift_bind, outcome_bind_of_ends (ends_now.mpr ⟨rfl, rfl⟩), run_lift_bind, outcome_bind,
    outcome_withRealm]
  have hinside : { made.looked .call with realm := place } = made.inside place := rfl
  rw [hinside]
  rcases (evaluate (answer budget) budget source path).outcome (made.inside place) with
    ⟨halt | outcome, after⟩
  · rfl
  · cases outcome with
    | completed value =>
        have htold : Ends (timed (made.clock.instant .call) (.completed value)).run
            { after with realm := made.realm } _ _ := ends_timed.mpr ⟨rfl, rfl⟩
        rw [Ends] at htold
        dsimp only [Session.looked]
        rw [htold]
        rfl
    | threw fault info => rfl

end Host

end ScriptShell
