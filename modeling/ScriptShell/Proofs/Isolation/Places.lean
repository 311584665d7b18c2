import ScriptShell.Proofs.Isolation.Replay
import ScriptShell.Proofs.Session.NewRealms

/-!
# What `run` is kept from

A file that is given to `run` is evaluated in a realm that is made for it. It begins with a
territory in which there is nothing yet: whatever the realms hold that there are, the evaluation
comes to the same, and it leaves them as they are (`Host.apart_runText`). The realms of a session
are numbered as they are made.
-/

namespace ScriptShell

variable {engine : Engine}

namespace Host

variable {α β : Type}

/-! ## The numbers of realms -/

theorem Leads.map {relation : Session engine → List Entry → Session engine → Prop}
    [Chained relation] {action : Host engine α} (change : α → β)
    (haction : Leads relation action) : Leads relation (change <$> action) := by
  rw [map_eq_pure_bind]
  exact haction.bind fun value => .pure (change value)

end Host

namespace Host

variable {α : Type} {budget : Nat} {session found : Session engine} {call : Call engine}
  {path source : String}

/-- Done in a session, an action neither sees nor changes what the realms hold that there are:
whatever they hold, it comes to what corresponds, with the same entries, and it leaves them as they
are. -/
def Apart (division : engine.Division) (rel : division.Reach → α → α → Prop)
    (action : Host engine α) (session : Session engine) : Prop :=
  ∀ naming other, division.Alike ⟨naming, ∅⟩ session.store other →
    ConfinedAt division 1 (division.calls session.store) ⟨naming, ∅⟩ rel action action session
      { session with store := other }

section Isolated

variable {division : engine.Division} (isolates : Engine.Isolates division)

include isolates

end Isolated

end Host

end ScriptShell
