import ScriptShell.Failure

/-!
# Log events

The shell announces a few of its steps as events of level *debug*, each from one of its parts. What
becomes of an event is up to a `LogSubscriber`: it reads a filter from a setting, decides by the
metadata of an event whether the filter lets it through, and makes a line of it.
-/

namespace ScriptShell

/-! ## Events -/

/-- The part of the shell that an event comes from. -/
inductive LogSource where
  | runtime
  | environment
  | driver
  | program
  deriving DecidableEq, Repr

/-- The module path of a part. -/
def LogSource.target : LogSource → String
  | .runtime => "jsc::runtime"
  | .environment => "jsc::environment"
  | .driver => "jsc::driver"
  | .program => "jsc"

/-- A step that the shell announces. -/
inductive LogEvent where
  | runtimeCreated (profile sampling : Bool)
  | environmentCreated (arguments : Nat)
  | evaluating (script : String)
  | finished (script : String) (succeeded : Bool)
  | abortingRun (script : String) (failure : Failure)
  | profileNotSaved (path : String) (failure : Failure)
  deriving DecidableEq, Repr

/-- How weighty an event is, the weightiest level first. -/
inductive LogLevel where
  | error
  | warn
  | info
  | debug
  | trace
  deriving DecidableEq, Repr

/-- The place of a level among the levels. -/
def LogLevel.rank : LogLevel → Nat
  | .error => 0
  | .warn => 1
  | .info => 2
  | .debug => 3
  | .trace => 4

/-- What a filter is told about an event. -/
structure LogMetadata where
  target : String
  level : LogLevel
  /-- The names of the values that come with the event. -/
  fields : List String
  deriving DecidableEq, Repr

namespace LogEvent

/-- Where an event comes from. -/
def source : LogEvent → LogSource
  | .runtimeCreated _ _ => .runtime
  | .environmentCreated _ => .environment
  | .evaluating _ | .finished _ _ | .abortingRun _ _ => .driver
  | .profileNotSaved _ _ => .program

/-- The names of the values that come with an event. -/
def fields : LogEvent → List String
  | .runtimeCreated _ _ => ["message", "profile", "sampling"]
  | .environmentCreated _ => ["message", "arguments"]
  | .evaluating _ | .abortingRun _ _ => ["message", "script"]
  | .finished _ _ => ["message", "script", "succeeded"]
  | .profileNotSaved _ _ => ["message", "path"]

/-- The metadata of an event. -/
def metadata (event : LogEvent) : LogMetadata where
  target := event.source.target
  level := .debug
  fields := event.fields

end LogEvent

/-! ## Subscribers -/

/-- What takes the events. -/
structure LogSubscriber where
  /-- The filters of events. -/
  Filter : Type
  /-- Reads a filter, if the text is one. -/
  read? : String → Option Filter
  /-- Reads a filter, without the parts of the text that cannot be read. -/
  readLossy : String → Filter
  /-- Whether a filter lets an event through. -/
  enabled : Filter → LogMetadata → Bool
  /-- The line of an event at a place of the journal. -/
  line : Nat → LogEvent → String

/-- The filter of a setting: where it is absent or cannot be read, that of warnings. -/
def LogSubscriber.filterOf (subscriber : LogSubscriber) (setting : Option String) :
    subscriber.Filter :=
  (setting.bind subscriber.read?).getD (subscriber.readLossy "warn")

end ScriptShell
