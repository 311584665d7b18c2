import ScriptShell.Proofs.Session.Ending
import ScriptShell.Session.Natives

/-!
# Natives that load files

`load`, `run` and `checkSyntax` begin in the same way: the argument is converted to a path and the
file under the path is read. Then `load` evaluates the text where it is called, `run` evaluates it
in a new environment and `checkSyntax` parses it. Each of the three is taken apart here.
-/

namespace ScriptShell

variable {engine : Engine}

namespace Host

variable {α : Type} {session after : Session engine} {answer : Answer engine} {bound : Nat}
  {argument : engine.Value}

/-! ## Loading -/

/-- Something done with the path that a value is converted to and with the text of the file. -/
def withSource (answer : Answer engine) (argument : engine.Value)
    (next : String → String → Attempt engine α) : Attempt engine α := do
  let path ← toText answer argument
  let source ← loadSource path
  next path source

theorem ends_loadSource {path : String} {result : Except engine.Fault String} :
    Ends (loadSource path : Attempt engine String).run session result after ↔
      (match session.files.read path with
        | .ok content => result = .ok (SourceBuffer.ofFile content).text
        | .error _ => result = .error (engine.errorOf (Failure.file path).message)) ∧
      after = session.note (.fileRead path (session.files.read path).isOk) := by
  unfold loadSource
  rw [ends_run_lift_bind]
  simp only [ends_readFile]
  constructor
  · rintro ⟨_, _, ⟨rfl, rfl⟩, hends⟩
    cases hread : session.files.read path with
    | ok content =>
        simp only [hread] at hends
        exact ends_run_pure.mp hends
    | error error =>
        simp only [hread] at hends
        exact ends_pure.mp hends
  · rintro ⟨hresult, rfl⟩
    refine ⟨_, _, ⟨rfl, rfl⟩, ?_⟩
    cases hread : session.files.read path with
    | ok content =>
        simp only [hread] at hresult ⊢
        exact ends_run_pure.mpr ⟨hresult, rfl⟩
    | error error =>
        simp only [hread] at hresult ⊢
        exact ends_pure.mpr ⟨hresult, rfl⟩

/-- A conversion that throws ends the native, and so does a file that cannot be read. -/
theorem ends_withSource {next : String → String → Attempt engine α}
    {result : Except engine.Fault α} :
    Ends (withSource answer argument next).run session result after ↔
      (∃ fault, Ends (toText answer argument).run session (.error fault) after ∧
        result = .error fault) ∨
      ∃ path converted, Ends (toText answer argument).run session (.ok path) converted ∧
        ((∃ error, converted.files.read path = .error error ∧
            result = .error (engine.errorOf (Failure.file path).message) ∧
            after = converted.note (.fileRead path false)) ∨
          ∃ content, converted.files.read path = .ok content ∧
            Ends (next path (SourceBuffer.ofFile content).text).run
              (converted.note (.fileRead path true)) result after) := by
  unfold withSource
  rw [ends_run_bind, or_comm]
  refine or_congr Iff.rfl (exists_congr fun path => exists_congr fun converted =>
    and_congr_right fun _ => ?_)
  rw [ends_run_bind]
  simp only [ends_loadSource]
  cases hread : converted.files.read path with
  | ok content =>
      constructor
      · rintro (⟨_, _, ⟨heq, rfl⟩, hends⟩ | ⟨_, ⟨heq, -⟩, -⟩)
        · cases heq
          exact .inr ⟨content, rfl, hends⟩
        · cases heq
      · rintro (⟨_, heq, -⟩ | ⟨_, heq, hends⟩)
        · cases heq
        · cases heq
          exact .inl ⟨_, _, ⟨rfl, rfl⟩, hends⟩
  | error error =>
      constructor
      · rintro (⟨_, _, ⟨heq, -⟩, -⟩ | ⟨_, ⟨heq, rfl⟩, rfl⟩)
        · cases heq
        · cases heq
          exact .inl ⟨error, rfl, rfl, rfl⟩
      · rintro (⟨_, heq, rfl, rfl⟩ | ⟨_, heq, -⟩)
        · exact .inr ⟨_, ⟨rfl, rfl⟩, rfl⟩
        · cases heq

/-! ## What follows the loading -/

/-- What a native gives back that evaluated or checked something: how long it took, or what was
thrown. -/
def timed (began : Nat) (outcome : Evaluated engine) : Attempt engine engine.Value := do
  discard (settle outcome.toExcept)
  lift (elapsedNumber began)

theorem ends_timed {began : Nat} {outcome : Evaluated engine}
    {result : Except engine.Fault engine.Value} :
    Ends (timed began outcome).run session result after ↔
      match outcome.toExcept with
      | .ok _ =>
        result = .ok (engine.ofNumber
            (Duration.ofNanos (session.clock.instant .call - began)).inMilliseconds) ∧
          after = session.looked .call
      | .error fault => result = .error fault ∧ after = session := by
  unfold timed
  cases outcome.toExcept with
  | ok value =>
      show Ends (Except.ok <$> elapsedNumber began) session result after ↔ _
      unfold elapsedNumber
      simp only [map_eq_pure_bind, ends_bind, ends_elapsedSince, ends_pure]
      constructor
      · rintro ⟨_, _, ⟨_, _, ⟨rfl, rfl⟩, rfl, rfl⟩, rfl, rfl⟩
        exact ⟨rfl, rfl⟩
      · rintro ⟨rfl, rfl⟩
        exact ⟨_, _, ⟨_, _, ⟨rfl, rfl⟩, rfl, rfl⟩, rfl, rfl⟩
  | error fault => exact ends_pure

variable {path source : String} {result : Except engine.Fault engine.Value}

/-- `load` evaluates the text where it is called and hands the outcome on. -/
theorem ends_evaluateLoaded :
    Ends (do
        let outcome ← lift (evaluate answer bound source path)
        settle outcome.toExcept : Attempt engine engine.Value).run session result after ↔
      ∃ outcome, Ends (evaluate answer bound source path) session outcome after ∧
        result = outcome.toExcept := by
  rw [ends_run_lift_bind]
  constructor
  · rintro ⟨outcome, _, hevaluate, hends⟩
    obtain ⟨rfl, rfl⟩ := ends_pure.mp hends
    exact ⟨outcome, hevaluate, rfl⟩
  · rintro ⟨outcome, hevaluate, rfl⟩
    exact ⟨outcome, after, hevaluate, ends_pure.mpr ⟨rfl, rfl⟩⟩

/-- `run` makes an environment, which may fail, and evaluates the text in it. -/
theorem ends_evaluateApart :
    Ends (do
        let realm ← createEnvironment []
        let began ← lift (now .call)
        let outcome ← lift (withRealm realm (evaluate answer bound source path))
        timed began outcome : Attempt engine engine.Value).run session result after ↔
      (∃ fault, Ends (createEnvironment []).run session (.error fault) after ∧
        result = .error fault) ∨
      ∃ realm made outcome evaluated,
        Ends (createEnvironment []).run session (.ok realm) made ∧
        Ends (withRealm realm (evaluate answer bound source path)) (made.looked .call) outcome
          evaluated ∧
        Ends (timed (made.clock.instant .call) outcome).run evaluated result after := by
  rw [ends_run_bind, or_comm]
  refine or_congr Iff.rfl (exists_congr fun realm => ?_)
  simp only [ends_run_lift_bind, ends_now]
  constructor
  · rintro ⟨made, hmade, _, _, ⟨rfl, rfl⟩, outcome, evaluated, hevaluate, htimed⟩
    exact ⟨made, outcome, evaluated, hmade, hevaluate, htimed⟩
  · rintro ⟨made, outcome, evaluated, hmade, hevaluate, htimed⟩
    exact ⟨made, hmade, _, _, ⟨rfl, rfl⟩, outcome, evaluated, hevaluate, htimed⟩

/-- `checkSyntax` parses the text. -/
theorem ends_checkLoaded :
    Ends (do
        let began ← lift (now .call)
        let outcome ← lift (checkSyntax answer source path)
        timed began outcome : Attempt engine engine.Value).run session result after ↔
      ∃ outcome checked,
        Ends (checkSyntax answer source path) (session.looked .call) outcome checked ∧
        Ends (timed (session.clock.instant .call) outcome).run checked result after := by
  simp only [ends_run_lift_bind, ends_now]
  constructor
  · rintro ⟨_, _, ⟨rfl, rfl⟩, outcome, checked, hcheck, htimed⟩
    exact ⟨outcome, checked, hcheck, htimed⟩
  · rintro ⟨outcome, checked, hcheck, htimed⟩
    exact ⟨_, _, ⟨rfl, rfl⟩, outcome, checked, hcheck, htimed⟩

end Host

end ScriptShell
