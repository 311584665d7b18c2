import ScriptShell.Proofs.Session.Ending

/-!
# Reading what was thrown

What the shell reads out of something thrown, whatever script code does while it is read: a
conversion that throws is made up for by the engine's own rendering, and a stack text that cannot be
had is left out. `Host.Reads` says so without the steps, and `Host.ReadingHalts` lists the only ways
in which no information comes of it, which are those in which script code ends the process or uses
up a bound.

## Main results

* `Host.ends_exceptionInfo`: reading comes to its end exactly as `Host.Reads` says.
* `Host.reads_or_halts`: there is no other way than these.
-/

namespace ScriptShell

variable {engine : Engine}

namespace Host

variable {α β : Type} {session after : Session engine} {answer : Answer engine}

/-! ## Being cut off -/

/-- The action is cut off in the session `cut`. -/
def Halts (action : Host engine α) (session : Session engine) (halt : Halt)
    (cut : Session engine) : Prop :=
  action.outcome session = (.error halt, cut)

theorem halts_bind {action : Host engine α} {next : α → Host engine β} {halt : Halt}
    {cut : Session engine} :
    Halts (action >>= next) session halt cut ↔ Halts action session halt cut ∨
      ∃ value middle, Ends action session value middle ∧ Halts (next value) middle halt cut := by
  unfold Halts Ends
  rw [outcome_bind]
  rcases action.outcome session with ⟨stopped | value, middle⟩
  · simp
  · constructor
    · intro h
      exact .inr ⟨value, middle, rfl, h⟩
    · rintro (h | ⟨_, _, heq, h⟩)
      · cases h
      · cases heq
        exact h

theorem halts_pure {value : α} {halt : Halt} {cut : Session engine} :
    ¬ Halts (pure value) session halt cut := by
  intro h
  cases h

/-- An action comes to its end or is cut off. -/
theorem ends_or_halts (action : Host engine α) (session : Session engine) :
    (∃ result after, Ends action session result after) ∨
      ∃ halt cut, Halts action session halt cut := by
  rcases houtcome : action.outcome session with ⟨halt | result, after⟩
  · exact .inr ⟨halt, after, houtcome⟩
  · exact .inl ⟨result, after, houtcome⟩

theorem outcome_bind_of_ends {action : Host engine α} {next : α → Host engine β} {value : α}
    {middle : Session engine} (hends : Ends action session value middle) :
    (action >>= next).outcome session = (next value).outcome middle := by
  rw [outcome_bind, show action.outcome session = (.ok value, middle) from hends]

theorem halts_bind_of_ends {action : Host engine α} {next : α → Host engine β} {value : α}
    {middle cut : Session engine} {halt : Halt} (hends : Ends action session value middle) :
    Halts (action >>= next) session halt cut ↔ Halts (next value) middle halt cut := by
  unfold Halts
  rw [outcome_bind_of_ends hends]

theorem Ends.unique {action : Host engine α} {first second : α} {one other : Session engine}
    (hfirst : Ends action session first one) (hsecond : Ends action session second other) :
    first = second ∧ one = other := by
  have heq := hfirst.symm.trans hsecond
  simpa using heq

/-! ## Values as text -/

/-- The text of a value: what it is converted to or, where the conversion throws, the engine's own
rendering of it. -/
inductive Renders (answer : Answer engine) (value : engine.Value) (session : Session engine) :
    String → Session engine → Prop
  | converted {text : String} {after : Session engine}
      (hends : Ends (toText answer value).run session (.ok text) after) :
      Renders answer value session text after
  | displayed {fault : engine.Fault} {after : Session engine}
      (hends : Ends (toText answer value).run session (.error fault) after) :
      Renders answer value session (engine.display value after.store) after

theorem ends_stringify {value : engine.Value} {text : String} :
    Ends (stringify answer value) session text after ↔ Renders answer value session text after := by
  unfold stringify
  rw [ends_bind]
  constructor
  · rintro ⟨converted | fault, middle, hends, hrest⟩
    · rw [ends_get_bind, ends_pure] at hrest
      obtain ⟨rfl, rfl⟩ := hrest
      exact .displayed hends
    · obtain ⟨rfl, rfl⟩ := ends_pure.mp hrest
      exact .converted hends
  · intro h
    cases h with
    | converted hends => exact ⟨_, _, hends, ends_pure.mpr ⟨rfl, rfl⟩⟩
    | displayed hends =>
        exact ⟨_, _, hends, ends_get_bind.mpr (ends_pure.mpr ⟨rfl, rfl⟩)⟩

theorem halts_stringify {value : engine.Value} {halt : Halt} :
    Halts (stringify answer value) session halt after →
      Halts (toText answer value).run session halt after := by
  unfold stringify
  rw [halts_bind]
  rintro (h | ⟨converted | fault, middle, -, hrest⟩)
  · exact h
  · cases hrest
  · cases hrest

/-! ## Stack texts -/

/-- The property `stack` of a value is read. -/
def readStack (answer : Answer engine) (value : engine.Value) :
    Host engine (Except engine.Fault engine.Value) :=
  (act answer fun realm => engine.stack realm value).run

/-- The stack text of a value. It has one if it is an object whose property `stack` can be read and
holds neither `undefined` nor `null`. -/
inductive ReadsStack (answer : Answer engine) (value : engine.Value) (session : Session engine) :
    Option String → Session engine → Prop
  | primitive (hobject : engine.isObject value = false) :
      ReadsStack answer value session none session
  | threw {fault : engine.Fault} {after : Session engine} (hobject : engine.isObject value = true)
      (hends : Ends (readStack answer value) session (.error fault) after) :
      ReadsStack answer value session none after
  | nullish {stack : engine.Value} {after : Session engine}
      (hobject : engine.isObject value = true)
      (hends : Ends (readStack answer value) session (.ok stack) after)
      (hnullish : engine.isNullish stack = true) :
      ReadsStack answer value session none after
  | text {stack : engine.Value} {text : String} {middle after : Session engine}
      (hobject : engine.isObject value = true)
      (hends : Ends (readStack answer value) session (.ok stack) middle)
      (hnullish : engine.isNullish stack = false)
      (htext : Renders answer stack middle text after) :
      ReadsStack answer value session (some text) after

theorem ends_stackText {value : engine.Value} {stack : Option String} :
    Ends (stackText answer value) session stack after ↔
      ReadsStack answer value session stack after := by
  unfold stackText
  constructor
  · intro hends
    split at hends
    · rename_i hobject
      obtain ⟨result, middle, hstack, hends⟩ := ends_bind.mp hends
      cases result with
      | error fault =>
          obtain ⟨rfl, rfl⟩ := ends_pure.mp hends
          exact .threw hobject hstack
      | ok value =>
          dsimp only at hends
          split at hends
          · obtain ⟨rfl, rfl⟩ := ends_pure.mp hends
            exact .nullish hobject hstack ‹_›
          · obtain ⟨text, _, htext, hends⟩ := ends_bind.mp hends
            obtain ⟨rfl, rfl⟩ := ends_pure.mp hends
            exact .text hobject hstack (Bool.eq_false_iff.mpr ‹_›) (ends_stringify.mp htext)
    · obtain ⟨rfl, rfl⟩ := ends_pure.mp hends
      exact .primitive (Bool.eq_false_iff.mpr ‹_›)
  · intro h
    cases h with
    | primitive hobject =>
        rw [if_neg (Bool.eq_false_iff.mp hobject)]
        exact ends_pure.mpr ⟨rfl, rfl⟩
    | threw hobject hends =>
        rw [if_pos hobject]
        exact ends_bind.mpr ⟨_, _, hends, ends_pure.mpr ⟨rfl, rfl⟩⟩
    | nullish hobject hends hnullish =>
        rw [if_pos hobject]
        refine ends_bind.mpr ⟨_, _, hends, ?_⟩
        dsimp only
        rw [if_pos hnullish]
        exact ends_pure.mpr ⟨rfl, rfl⟩
    | text hobject hends hnullish htext =>
        rw [if_pos hobject]
        refine ends_bind.mpr ⟨_, _, hends, ?_⟩
        dsimp only
        rw [if_neg (Bool.eq_false_iff.mp hnullish)]
        exact ends_bind.mpr ⟨_, _, ends_stringify.mpr htext, ends_pure.mpr ⟨rfl, rfl⟩⟩

/-! ## What is reported -/

/-- The value of something thrown, in the realm of a session. -/
def thrownIn (session : Session engine) (fault : engine.Fault) : engine.Value :=
  (engine.thrown session.realm fault session.store).1

/-- The session once that value was made. -/
def throwing (session : Session engine) (fault : engine.Fault) : Session engine :=
  { session with store := (engine.thrown session.realm fault session.store).2 }

/-- What is read out of something thrown: of an error that script code cannot catch its text and
nothing else, and no script code runs; the text and then the stack text of the thrown value
otherwise. -/
inductive Reads (answer : Answer engine) (fault : engine.Fault) (session : Session engine) :
    ExceptionInfo → Session engine → Prop
  | limit {text : String} (hlimit : engine.limitText? fault = some text) :
      Reads answer fault session { message := text } session
  | value {message : String} {stack : Option String} {middle after : Session engine}
      (hlimit : engine.limitText? fault = none)
      (hmessage : Renders answer (thrownIn session fault) (throwing session fault) message middle)
      (hstack : ReadsStack answer (thrownIn session fault) middle stack after) :
      Reads answer fault session ⟨message, stack.map Lines.split⟩ after

theorem ends_exceptionInfo {fault : engine.Fault} {info : ExceptionInfo} :
    Ends (exceptionInfo answer fault) session info after ↔
      Reads answer fault session info after := by
  unfold exceptionInfo
  cases hlimit : engine.limitText? fault with
  | some text =>
      simp only [ends_pure]
      constructor
      · rintro ⟨rfl, rfl⟩
        exact .limit hlimit
      · intro h
        cases h with
        | limit htext =>
            rw [hlimit, Option.some.injEq] at htext
            exact ⟨by rw [htext], rfl⟩
        | value hnone _ _ =>
            rw [hlimit] at hnone
            cases hnone
  | none =>
      simp only [ends_bind, ends_thrownValue, ends_stringify, ends_stackText]
      constructor
      · rintro ⟨_, _, ⟨rfl, rfl⟩, message, middle, hmessage, stack, _, hstack, hends⟩
        cases stack with
        | none =>
            obtain ⟨rfl, rfl⟩ := ends_pure.mp hends
            exact .value hlimit hmessage hstack
        | some stack =>
            obtain ⟨rfl, rfl⟩ := ends_pure.mp hends
            exact .value hlimit hmessage hstack
      · intro h
        cases h with
        | limit htext =>
            rw [hlimit] at htext
            cases htext
        | value _ hmessage hstack =>
            refine ⟨_, _, ⟨rfl, rfl⟩, _, _, hmessage, _, _, hstack, ?_⟩
            split <;> exact ends_pure.mpr ⟨rfl, rfl⟩

/-- Reading what was thrown is cut off while script code runs for it: the conversion of the value,
the getter of its property `stack` or the conversion of what that gave. -/
inductive ReadingHalts (answer : Answer engine) (fault : engine.Fault) (session : Session engine)
    (halt : Halt) (cut : Session engine) : Prop
  | message (hlimit : engine.limitText? fault = none)
      (hhalts : Halts (toText answer (thrownIn session fault)).run (throwing session fault) halt
        cut)
  | stack {message : String} {middle : Session engine} (hlimit : engine.limitText? fault = none)
      (hmessage : Renders answer (thrownIn session fault) (throwing session fault) message middle)
      (hhalts : Halts (readStack answer (thrownIn session fault)) middle halt cut)
  | text {message : String} {stack : engine.Value} {middle read : Session engine}
      (hlimit : engine.limitText? fault = none)
      (hmessage : Renders answer (thrownIn session fault) (throwing session fault) message middle)
      (hstack : Ends (readStack answer (thrownIn session fault)) middle (.ok stack) read)
      (hhalts : Halts (toText answer stack).run read halt cut)

private theorem halts_stackText {value : engine.Value} {halt : Halt}
    (hhalts : Halts (stackText answer value) session halt after) :
    Halts (readStack answer value) session halt after ∨
      ∃ stack read, Ends (readStack answer value) session (.ok stack) read ∧
        Halts (toText answer stack).run read halt after := by
  unfold stackText at hhalts
  split at hhalts
  · rcases halts_bind.mp hhalts with hhalts | ⟨result, read, hread, hhalts⟩
    · exact .inl hhalts
    cases result with
    | error fault => exact (halts_pure hhalts).elim
    | ok stack =>
        dsimp only at hhalts
        split at hhalts
        · exact (halts_pure hhalts).elim
        · rcases halts_bind.mp hhalts with hhalts | ⟨_, _, -, hhalts⟩
          · exact .inr ⟨stack, read, hread, halts_stringify hhalts⟩
          · exact (halts_pure hhalts).elim
  · exact (halts_pure hhalts).elim

theorem halts_exceptionInfo {fault : engine.Fault} {halt : Halt}
    (hhalts : Halts (exceptionInfo answer fault) session halt after) :
    ReadingHalts answer fault session halt after := by
  unfold exceptionInfo at hhalts
  cases hlimit : engine.limitText? fault with
  | some text =>
      simp only [hlimit] at hhalts
      exact (halts_pure hhalts).elim
  | none =>
      simp only [hlimit] at hhalts
      rcases halts_bind.mp hhalts with hhalts | ⟨_, _, hthrown, hhalts⟩
      · cases hhalts
      obtain ⟨rfl, rfl⟩ := ends_thrownValue.mp hthrown
      rcases halts_bind.mp hhalts with hhalts | ⟨message, middle, hmessage, hhalts⟩
      · exact .message hlimit (halts_stringify hhalts)
      rcases halts_bind.mp hhalts with hhalts | ⟨stack, _, -, hhalts⟩
      · rcases halts_stackText hhalts with hhalts | ⟨stack, read, hread, hhalts⟩
        · exact .stack hlimit (ends_stringify.mp hmessage) hhalts
        · exact .text hlimit (ends_stringify.mp hmessage) hread hhalts
      · cases stack <;> exact (halts_pure hhalts).elim

/-- Information always comes of something thrown, unless script code cuts the reading off. -/
theorem reads_or_halts (answer : Answer engine) (fault : engine.Fault) (session : Session engine) :
    (∃ info after, Ends (exceptionInfo answer fault) session info after ∧
      Reads answer fault session info after) ∨
    ∃ halt cut, Halts (exceptionInfo answer fault) session halt cut ∧
      ReadingHalts answer fault session halt cut := by
  rcases ends_or_halts (exceptionInfo answer fault) session with
    ⟨info, after, hends⟩ | ⟨halt, cut, hhalts⟩
  · exact .inl ⟨info, after, hends, ends_exceptionInfo.mp hends⟩
  · exact .inr ⟨halt, cut, hhalts, halts_exceptionInfo hhalts⟩

end Host

end ScriptShell
