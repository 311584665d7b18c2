import ScriptShell.Proofs.Session.Conversions

/-!
# Printing is all or nothing

The native `print` converts its arguments to texts, one after the other, and writes the line that
they form once the last of them was converted. Where a conversion throws, or is cut off, the call
ends with it and nothing is written (`outcome_texts_bind` is the induction over the row).

## Main result

* `Host.print_all_or_nothing`.
-/

namespace ScriptShell

variable {engine : Engine}

namespace Host

variable {session : Session engine}

/-- The conversion to a text leaves the session as the conversion of the next argument finds it. -/
abbrev ConvertsTexts (answer : Answer engine) :
    Session engine → List (Conversion engine String) → Session engine → Prop :=
  Converts (toText answer) fun _ session => session

/-- The line of some texts. -/
def lineOf (texts : List String) : String :=
  " ".intercalate texts ++ "\n"

/-- What behind some converted arguments is still to be converted, is converted next. -/
theorem outcome_texts_bind {answer : Answer engine} {middle : Session engine}
    {conversions : List (Conversion engine String)}
    (hconverts : ConvertsTexts answer session conversions middle) (rest : List engine.Value)
    (next : List String → Attempt engine engine.Value) :
    (texts answer (conversions.map Conversion.value ++ rest) >>= next).run.outcome session =
      (texts answer rest >>= fun others =>
        next (conversions.map Conversion.result ++ others)).run.outcome middle := by
  induction hconverts generalizing next with
  | nil => rfl
  | @cons session ended after value result conversions hends _ ih =>
      show ((toText answer value >>= fun text =>
        texts answer (conversions.map Conversion.value ++ rest) >>= fun others =>
          pure (text :: others)) >>= next).run.outcome session = _
      simp only [bind_assoc, pure_bind]
      rw [outcome_run_bind_of_ends hends, ih fun others => next (result :: others)]
      rfl

theorem outcome_print_append {answer : Answer engine} {middle : Session engine}
    {conversions : List (Conversion engine String)}
    (hconverts : ConvertsTexts answer session conversions middle) (rest : List engine.Value) :
    (print answer (conversions.map Conversion.value ++ rest)).run.outcome session =
      (texts answer rest >>= fun others => do
        lift (write .stdout (lineOf (conversions.map Conversion.result ++ others)))
        return engine.undefined).run.outcome middle :=
  outcome_texts_bind hconverts rest fun line => do
    lift (write .stdout (lineOf line))
    return engine.undefined

/-- Once all arguments are converted, their line is written. -/
theorem ends_print {answer : Answer engine} {converted : Session engine}
    {conversions : List (Conversion engine String)}
    (hconverts : ConvertsTexts answer session conversions converted) :
    Ends (print answer (conversions.map Conversion.value)).run session (.ok engine.undefined)
      (converted.note (.wrote .stdout (lineOf (conversions.map Conversion.result)))) := by
  have houtcome := outcome_print_append hconverts []
  rw [List.append_nil] at houtcome
  rw [Ends, houtcome]
  refine ends_run_bind.mpr (.inl ⟨[], converted, ends_run_pure.mpr ⟨rfl, rfl⟩, ?_⟩)
  rw [List.append_nil]
  exact ends_run_lift_bind.mpr ⟨(), _, ends_note.mpr rfl, ends_run_pure.mpr ⟨rfl, rfl⟩⟩

/-- What the call of `print` comes to: all arguments are converted and their line is written behind
what the conversions left, or a conversion throws or is cut off, and nothing else is done. -/
inductive Prints (budget : Nat) (call : Call engine) (session : Session engine) : Prop
  | printed {conversions : List (Conversion engine String)} {gained : List (List Entry)}
      {converted after : Session engine}
      (harguments : call.arguments = conversions.map Conversion.value)
      (hconverts : ConvertsTexts (answer budget) (call.within session) conversions converted)
      (hgained : Gained conversions gained)
      (hends : Ends (call.answered (budget + 1)) session (.ok engine.undefined) after)
      (hafter : after = { converted.note (.wrote .stdout
        (lineOf (conversions.map Conversion.result))) with realm := session.realm })
      (hjournal : after.journal = session.journal ++ .called .print session.frames ::
        (gained.flatten ++ [.wrote .stdout (lineOf (conversions.map Conversion.result))]))
  | threw {conversions : List (Conversion engine String)} {gained : List (List Entry)}
      {value : engine.Value} {rest : List engine.Value} {fault : engine.Fault} {last : List Entry}
      {converted failed after : Session engine}
      (harguments : call.arguments = conversions.map Conversion.value ++ value :: rest)
      (hconverts : ConvertsTexts (answer budget) (call.within session) conversions converted)
      (hgained : Gained conversions gained)
      (hthrew : Ends (toText (answer budget) value).run converted (.error fault) failed)
      (hlast : failed.journal = converted.journal ++ last)
      (hends : Ends (call.answered (budget + 1)) session (.error fault) after)
      (hafter : after = { failed with realm := session.realm })
      (hjournal : after.journal = session.journal ++ .called .print session.frames ::
        (gained.flatten ++ last))
  | halted {conversions : List (Conversion engine String)} {value : engine.Value}
      {rest : List engine.Value} {halt : Halt} {converted cut : Session engine}
      (harguments : call.arguments = conversions.map Conversion.value ++ value :: rest)
      (hconverts : ConvertsTexts (answer budget) (call.within session) conversions converted)
      (hcut : Halts (toText (answer budget) value).run converted halt cut)
      (hhalts : Halts (call.answered (budget + 1)) session halt cut)

/-- What is gained behind the call of a native. -/
private theorem journal_of_gained {call : Call engine} {converted : Session engine}
    {entries : List Entry}
    (hjournal : converted.journal = (call.within session).journal ++ entries) :
    converted.journal =
      session.journal ++ .called call.native session.frames :: entries := by
  rw [hjournal, journal_within, List.append_assoc, List.singleton_append]

/-- Whatever the arguments are and whatever script code their conversions run, `print` converts them
from left to right, and then writes one line or does nothing of its own. -/
theorem print_all_or_nothing (engine : Engine) (budget : Nat) (realm : Realm)
    (arguments : List engine.Value) (session : Session engine) :
    Prints budget ⟨realm, .print, arguments⟩ session := by
  let call : Call engine := ⟨realm, .print, arguments⟩
  have hfollows : ∀ value : engine.Value, Follows (toText (answer budget) value).run :=
    fun value => follows_closed.toText (follows_answer budget) value
  rcases converts_or_stops (toText (answer budget)) (fun _ session => session) arguments
    (call.within session) with ⟨conversions, converted, rfl, hconverts⟩ |
      ⟨conversions, value, rest, converted, rfl, hconverts, hstops⟩
  · obtain ⟨gained, hgained, hjournal⟩ := hconverts.exists_gained hfollows fun _ _ => rfl
    refine .printed rfl hconverts hgained (ends_answered (ends_print hconverts)) rfl ?_
    have hentries := journal_of_gained hjournal
    simp only [Session.journal, Session.note, List.reverse_cons] at hentries ⊢
    rw [hentries, List.append_assoc, List.cons_append]
  · obtain ⟨gained, hgained, hjournal⟩ := hconverts.exists_gained hfollows fun _ _ => rfl
    have houtcome := outcome_print_append hconverts (value :: rest)
    rcases hstops with ⟨fault, failed, hthrew⟩ | ⟨halt, cut, hcut⟩
    · have hends : Ends (print (answer budget)
          (conversions.map Conversion.value ++ value :: rest)).run (call.within session)
            (.error fault) failed := by
        rw [Ends, houtcome]
        exact ends_run_bind_of_threw (ends_run_bind_of_threw hthrew)
      obtain ⟨last, hcourse⟩ := hfollows value hthrew
      refine .threw rfl hconverts hgained hthrew hcourse.journal_eq (ends_answered hends) rfl ?_
      show failed.journal = _
      rw [hcourse.journal_eq, journal_of_gained hjournal, List.append_assoc, List.cons_append]
    · have hhalts : Halts (print (answer budget)
          (conversions.map Conversion.value ++ value :: rest)).run (call.within session) halt
            cut := by
        rw [Halts, houtcome]
        exact halts_run_bind (halts_run_bind hcut)
      exact .halted rfl hconverts hcut (halts_answered hhalts)

end Host

end ScriptShell
