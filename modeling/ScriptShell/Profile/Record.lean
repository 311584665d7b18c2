import ScriptShell.Decimal.Layout
import ScriptShell.Profile.Json

/-!
# The profile

The profile keeps one record for each evaluation and each syntax check, in the order in which
they ended. It is written as one JSON document with a version number; a record on its own has the
same fields on one line.
-/

namespace ScriptShell

/-- A span of time. -/
structure Duration where
  seconds : UInt64
  nanos : Nat
  deriving DecidableEq, Repr, Inhabited

/-- The span of so many nanoseconds. -/
def Duration.ofNanos (nanos : Nat) : Duration :=
  ⟨(nanos / 1000000000).toUInt64, nanos % 1000000000⟩

/-- A span of time in seconds. -/
def Duration.inSeconds (duration : Duration) : Float :=
  duration.seconds.toFloat + duration.nanos.toUInt64.toFloat / 1000000000.0

/-- A span of time in milliseconds. -/
def Duration.inMilliseconds (duration : Duration) : Float :=
  duration.inSeconds * 1000.0

/-- What the shell did with a source text. -/
inductive EvaluationKind where
  | evaluate
  | checkSyntax
  deriving DecidableEq, Repr

/-- The spelling of a kind. -/
def EvaluationKind.spelling : EvaluationKind → String
  | .evaluate => "evaluate"
  | .checkSyntax => "checkSyntax"

/-- What is kept of one evaluation or syntax check. -/
structure ProfileRecord where
  source : String
  kind : EvaluationKind
  elapsed : Duration
  threw : Bool
  deriving DecidableEq, Repr

namespace ProfileRecord

/-- The number token of the elapsed milliseconds. -/
def elapsedToken (record : ProfileRecord) : String :=
  Decimal.Layout.profile.float record.elapsed.inMilliseconds

/-- A record as a document, with the number token of the elapsed time as given. -/
def document (elapsed : String) (record : ProfileRecord) : Json :=
  .object
    [("source", .text record.source), ("kind", .text record.kind.spelling),
      ("elapsedMs", .number elapsed), ("threw", .boolean record.threw)]

/-- A record on one line. -/
def line (record : ProfileRecord) : String :=
  String.ofList (record.document record.elapsedToken).compact

end ProfileRecord

namespace Profile

/-- Records as one document, with the elapsed times as `elapsed` writes them. -/
def document (elapsed : ProfileRecord → String) (records : List ProfileRecord) : Json :=
  .object
    [("version", .number "1"),
      ("records", .array (records.map fun record => record.document (elapsed record)))]

/-- The text of a profile, with the elapsed times as `elapsed` writes them: one document and a
final newline. -/
def renderWith (elapsed : ProfileRecord → String) (records : List ProfileRecord) : String :=
  String.ofList ((document elapsed records).pretty 0 ++ ['\n'])

/-- The text of a profile. -/
def render (records : List ProfileRecord) : String :=
  renderWith ProfileRecord.elapsedToken records

end Profile

end ScriptShell
