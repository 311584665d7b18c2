import ScriptShell.Decimal.Read
import ScriptShell.Options

/-!
# What the shell asks of a script engine

The shell is written against an engine it knows only by its operations. The engine's state, its
values and what it throws are opaque to the shell. While the engine works it may need the shell:
script code calls a native, or a promise queues a job. A `Behaviour` is all that the engine can do
in one operation: a finite tree that ends in a value or in something thrown, and whose inner nodes
are calls of natives and queued jobs. Each node carries the engine's state at that point, and a
native gives back the state it leaves behind together with its result.
-/

namespace ScriptShell

/-- A realm is named by a number. -/
abbrev Realm := Nat

/-! ## Natives -/

/-- The functions that the shell offers to scripts. -/
inductive Native where
  | debug
  | describe
  | print
  | quit
  | gc
  | dumpCallFrame
  | releaseExecutableMemory
  | version
  | run
  | load
  | checkSyntax
  | stackTrace
  | readline
  | preciseTime
  | setSamplingFlags
  | clearSamplingFlags
  deriving DecidableEq, Repr

namespace Native

/-- The name under which scripts find a native. -/
def name : Native → String
  | .debug => "debug"
  | .describe => "describe"
  | .print => "print"
  | .quit => "quit"
  | .gc => "gc"
  | .dumpCallFrame => "dumpCallFrame"
  | .releaseExecutableMemory => "releaseExecutableMemory"
  | .version => "version"
  | .run => "run"
  | .load => "load"
  | .checkSyntax => "checkSyntax"
  | .stackTrace => "jscStack"
  | .readline => "readline"
  | .preciseTime => "preciseTime"
  | .setSamplingFlags => "setSamplingFlags"
  | .clearSamplingFlags => "clearSamplingFlags"

/-- The number of parameters that a native reports. -/
def arity : Native → Nat
  | .quit | .gc | .dumpCallFrame | .releaseExecutableMemory | .readline | .preciseTime => 0
  | _ => 1

/-- The natives that every environment has. -/
def general : List Native :=
  [.debug, .describe, .print, .quit, .gc, .dumpCallFrame, .releaseExecutableMemory, .version,
    .run, .load, .checkSyntax, .stackTrace, .readline, .preciseTime]

/-- The natives that an environment has only while sampling is in use. -/
def sampling : List Native :=
  [.setSamplingFlags, .clearSamplingFlags]

/-- The natives of an environment under some options. -/
def available (options : Options) : List Native :=
  general ++ if options.useSampling then sampling else []

end Native

/-! ## Behaviours -/

/-- All that an engine can do in one operation. -/
inductive Behaviour (Store Value Fault Job : Type) (α : Type) where
  /-- The operation ends with a result or by throwing. -/
  | finish (store : Store) (result : Except Fault α)
  /-- Script code calls a native, which belongs to a realm. -/
  | native (store : Store) (realm : Realm) (callee : Native) (arguments : List Value)
      (resume : Store → Except Fault Value → Behaviour Store Value Fault Job α)
  /-- A job is queued. -/
  | enqueue (store : Store) (job : Job)
      (resume : Store → Behaviour Store Value Fault Job α)
  /-- The engine cannot go on within its bounds. -/
  | exhausted

namespace Behaviour

variable {Store Value Fault Job α β : Type}

/-- One behaviour and then another, which sees the state and the result of the first. -/
def andThen (first : Behaviour Store Value Fault Job α)
    (next : Store → Except Fault α → Behaviour Store Value Fault Job β) :
    Behaviour Store Value Fault Job β :=
  match first with
  | .finish store result => next store result
  | .native store realm callee arguments resume =>
    .native store realm callee arguments fun store answer => (resume store answer).andThen next
  | .enqueue store job resume => .enqueue store job fun store => (resume store).andThen next
  | .exhausted => .exhausted

@[simp] theorem finish_andThen (store : Store) (result : Except Fault α)
    (next : Store → Except Fault α → Behaviour Store Value Fault Job β) :
    (finish store result).andThen next = next store result :=
  rfl

/-- Nothing more to do leaves a behaviour as it is. -/
@[simp] theorem andThen_finish (first : Behaviour Store Value Fault Job α) :
    first.andThen finish = first := by
  induction first with
  | finish store result => rfl
  | native store realm callee arguments resume ih => simp only [andThen, ih]
  | enqueue store job resume ih => simp only [andThen, ih]
  | exhausted => rfl

/-- Whenever the engine hands out its state, it is one that stands in a relation to the state that
it was given last. -/
inductive Grows (growsTo : Store → Store → Prop) :
    Store → Behaviour Store Value Fault Job α → Prop
  | finish {store after : Store} (result : Except Fault α) (hgrows : growsTo store after) :
      Grows growsTo store (.finish after result)
  | native {store after : Store} {realm : Realm} {callee : Native} {arguments : List Value}
      {resume : Store → Except Fault Value → Behaviour Store Value Fault Job α}
      (hgrows : growsTo store after)
      (hresume : ∀ given answer, Grows growsTo given (resume given answer)) :
      Grows growsTo store (.native after realm callee arguments resume)
  | enqueue {store after : Store} {job : Job}
      {resume : Store → Behaviour Store Value Fault Job α} (hgrows : growsTo store after)
      (hresume : ∀ given, Grows growsTo given (resume given)) :
      Grows growsTo store (.enqueue after job resume)
  | exhausted {store : Store} : Grows growsTo store .exhausted

theorem Grows.mono {growsTo leadsTo : Store → Store → Prop}
    (hmono : ∀ {store after}, growsTo store after → leadsTo store after) {store : Store}
    {behaviour : Behaviour Store Value Fault Job α} (h : behaviour.Grows growsTo store) :
    behaviour.Grows leadsTo store := by
  induction h with
  | finish result hgrows => exact .finish result (hmono hgrows)
  | native hgrows _ ih => exact .native (hmono hgrows) ih
  | enqueue hgrows _ ih => exact .enqueue (hmono hgrows) ih
  | exhausted => exact .exhausted

end Behaviour

/-! ## Engines -/

/-- The operations of a script engine. -/
structure Engine where
  /-- The state of the engine: everything that scripts can reach. -/
  Store : Type
  /-- The values of the script language. -/
  Value : Type
  /-- What script code throws, and the errors that it cannot catch. -/
  Fault : Type
  /-- A promise job. -/
  Job : Type
  /-- A parsed script. -/
  Code : Type
  /-- The state of a new engine under some options. -/
  start : Options → Store
  /-- Makes a realm of its own under a new name. -/
  createRealm : Realm → Store → Except Fault Store
  /-- Binds natives and the array `arguments` in a realm. -/
  install : Realm → List Native → List String → Store → Store × Except Fault Unit
  /-- Parses a script without running it. -/
  parse : Options → String → Except Fault Code
  /-- Runs a parsed script in a realm. -/
  evaluate : Realm → Code → Store → Behaviour Store Value Fault Job Value
  /-- Runs a promise job that was queued. -/
  runJob : Realm → Job → Store → Behaviour Store Value Fault Job Unit
  /-- The conversion to a string, with lone surrogates escaped. -/
  toText : Realm → Value → Store → Behaviour Store Value Fault Job String
  /-- The conversion to a number. -/
  toNumber : Realm → Value → Store → Behaviour Store Value Fault Job Numeric
  /-- Reads the property `stack` of a value. -/
  stack : Realm → Value → Store → Behaviour Store Value Fault Job Value
  /-- The engine's own rendering of a value, which runs no script code. -/
  display : Value → Store → String
  /-- The value that a handler would receive for something thrown, in a realm. -/
  thrown : Realm → Fault → Store → Value × Store
  /-- The text of an error that script code cannot catch. -/
  limitText? : Fault → Option String
  /-- The text of something thrown that reaches the shell. -/
  faultText : Fault → Store → String
  /-- Whether a value is an object. -/
  isObject : Value → Bool
  /-- Whether a value is `undefined` or `null`. -/
  isNullish : Value → Bool
  /-- The value `undefined`. -/
  undefined : Value
  /-- The value `null`. -/
  null : Value
  /-- The string of a text. -/
  ofText : String → Value
  /-- The number of a binary64. -/
  ofNumber : Float → Value
  /-- An error of the class `Error` with a message. -/
  errorOf : String → Fault

/-- What an engine does in one operation with a result of some type. -/
abbrev Engine.Acts (engine : Engine) (α : Type) : Type :=
  Behaviour engine.Store engine.Value engine.Fault engine.Job α

end ScriptShell
