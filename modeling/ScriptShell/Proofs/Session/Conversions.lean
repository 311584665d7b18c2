import Mathlib.Data.List.Forall2
import ScriptShell.Proofs.Session.Answers

/-!
# Values converted one after the other

A native that takes any number of arguments converts them from left to right. The conversions may
run script code, so that each begins in the session that the one before it left, and what a native
does with each result may change that session as well. `Host.Converts` is such a row of conversions
that all came to their end.

## Main results

* `Host.converts_or_stops`: all values are converted, or one of them stops the row by throwing or by
  being cut off, and those behind it are left alone.
* `Host.Converts.exists_gained`: what the journal gains is what the conversions gain, in their order.
-/

namespace ScriptShell

variable {engine : Engine}

/-- The conversion of a value that came to its end: the session in which it began, its result, and
the session that it left. -/
structure Conversion (engine : Engine) (β : Type) where
  value : engine.Value
  began : Session engine
  result : β
  ended : Session engine

namespace Host

variable {α β : Type}

/-- Values are converted from left to right. The result of each changes the session that its
conversion left, and there the next conversion begins. -/
inductive Converts (convert : engine.Value → Attempt engine β)
    (change : β → Session engine → Session engine) :
    Session engine → List (Conversion engine β) → Session engine → Prop
  | nil {session : Session engine} : Converts convert change session [] session
  | cons {session ended after : Session engine} {value : engine.Value} {result : β}
      {rest : List (Conversion engine β)}
      (hends : Ends (convert value).run session (.ok result) ended)
      (hrest : Converts convert change (change result ended) rest after) :
      Converts convert change session (⟨value, session, result, ended⟩ :: rest) after

variable {convert : engine.Value → Attempt engine β}
  {change : β → Session engine → Session engine}

/-- All values are converted, or one stops the row. -/
theorem converts_or_stops (convert : engine.Value → Attempt engine β)
    (change : β → Session engine → Session engine) (values : List engine.Value)
    (session : Session engine) :
    (∃ conversions after, values = conversions.map Conversion.value ∧
      Converts convert change session conversions after) ∨
    ∃ conversions value rest middle, values = conversions.map Conversion.value ++ value :: rest ∧
      Converts convert change session conversions middle ∧
      ((∃ fault after, Ends (convert value).run middle (.error fault) after) ∨
        ∃ halt cut, Halts (convert value).run middle halt cut) := by
  induction values generalizing session with
  | nil => exact .inl ⟨[], session, rfl, .nil⟩
  | cons value values ih =>
      rcases ends_or_halts (convert value).run session with
        ⟨result | result, ended, hends⟩ | ⟨halt, cut, hhalts⟩
      · exact .inr ⟨[], value, values, session, rfl, .nil, .inl ⟨_, _, hends⟩⟩
      · let first : Conversion engine β := ⟨value, session, result, ended⟩
        rcases ih (change result ended) with ⟨conversions, after, rfl, hconverts⟩ |
          ⟨conversions, last, rest, middle, rfl, hconverts, hstops⟩
        · exact .inl ⟨first :: conversions, after, rfl, .cons hends hconverts⟩
        · exact .inr ⟨first :: conversions, last, rest, middle, rfl, .cons hends hconverts, hstops⟩
      · exact .inr ⟨[], value, values, session, rfl, .nil, .inr ⟨_, _, hhalts⟩⟩

/-- The entries that each of some conversions left in the journal. -/
abbrev Gained (conversions : List (Conversion engine β)) (gained : List (List Entry)) : Prop :=
  List.Forall₂ (fun conversion entries =>
    conversion.ended.journal = conversion.began.journal ++ entries) conversions gained

/-- The journal gains what the conversions gain, one after the other. -/
theorem Converts.exists_gained {session after : Session engine}
    {conversions : List (Conversion engine β)}
    (h : Converts convert change session conversions after)
    (hfollows : ∀ value, Follows (convert value).run)
    (hchange : ∀ result session, (change result session).journal = session.journal) :
    ∃ gained, Gained conversions gained ∧ after.journal = session.journal ++ gained.flatten := by
  induction h with
  | nil => exact ⟨[], .nil, (List.append_nil _).symm⟩
  | cons hends _ ih =>
      obtain ⟨entries, hcourse⟩ := hfollows _ hends
      obtain ⟨gained, hgained, hjournal⟩ := ih
      refine ⟨entries :: gained, .cons hcourse.journal_eq hgained, ?_⟩
      rw [hjournal, hchange, hcourse.journal_eq, List.flatten_cons, List.append_assoc]

/-! ## Calls of natives -/

section Calls

variable {budget : Nat} {call : Call engine} {session inside : Session engine}

theorem ends_answered {given : Except engine.Fault engine.Value}
    (hends : Ends (respond (answer budget) budget call.native call.arguments).run
      (call.within session) given inside) :
    Ends (call.answered (budget + 1)) session given { inside with realm := session.realm } :=
  ends_called.mpr ⟨inside, hends, rfl⟩

theorem halts_answered {halt : Halt}
    (hhalts : Halts (respond (answer budget) budget call.native call.arguments).run
      (call.within session) halt inside) :
    Halts (call.answered (budget + 1)) session halt inside := by
  show (withRealm call.realm
    (respond (answer budget) budget call.native call.arguments).run).outcome
      (session.note (.called call.native session.frames)) = _
  have houtcome : (respond (answer budget) budget call.native call.arguments).run.outcome
      { session.note (.called call.native session.frames) with realm := call.realm } = _ := hhalts
  rw [outcome_withRealm, houtcome]

theorem journal_within :
    (call.within session).journal = session.journal ++ [.called call.native session.frames] := by
  simp [Call.within, Session.journal, Session.note]

end Calls

/-! ## Actions that begin with a conversion -/

theorem ends_run_bind_of_threw {action : Attempt engine α} {next : α → Attempt engine β}
    {session after : Session engine} {fault : engine.Fault}
    (hends : Ends action.run session (.error fault) after) :
    Ends (action >>= next).run session (.error fault) after :=
  ends_run_bind.mpr (.inr ⟨fault, hends, rfl⟩)

theorem halts_run_bind {action : Attempt engine α} {next : α → Attempt engine β}
    {session cut : Session engine} {halt : Halt} (hhalts : Halts action.run session halt cut) :
    Halts (action >>= next).run session halt cut := by
  rw [ExceptT.run_bind]
  exact halts_bind.mpr (.inl hhalts)

end Host

end ScriptShell
