import ScriptShell.Log
import ScriptShell.Text.Quoted

/-!
# Filters made of directives

The subscriber of the command. A filter is a list of directives between commas, each of a level,
for all events or for those whose target starts with a name; of several directives that fit an event
the one with the longest name decides. There are no directives about spans, since the shell has
none, and the lines carry no time.
-/

namespace ScriptShell

/-! ## Lines -/

namespace LogEvent

/-- The word of a boolean. -/
def word (value : Bool) : String :=
  if value then "true" else "false"

/-- An event in words. -/
def message : LogEvent → String
  | .runtimeCreated profile sampling =>
    "engine runtime created profile=" ++ word profile ++ " sampling=" ++ word sampling
  | .environmentCreated arguments => "host environment created arguments=" ++ arguments.repr
  | .evaluating script => "evaluating script=" ++ Quoted.quote script
  | .finished script succeeded =>
    "finished script=" ++ Quoted.quote script ++ " succeeded=" ++ word succeeded
  | .abortingRun script failure =>
    "aborting run: " ++ failure.message ++ " script=" ++ Quoted.quote script
  | .profileNotSaved path failure => failure.message ++ " path=" ++ path

end LogEvent

/-! ## Directives -/

/-- Up to which level events are let through. -/
inductive LogBound where
  | off
  | upTo (level : LogLevel)
  deriving DecidableEq, Repr

namespace LogBound

/-- Whether events of a level are let through. -/
def admits : LogBound → LogLevel → Bool
  | .off, _ => false
  | .upTo bound, level => level.rank ≤ bound.rank

/-- Reads a bound, by its name in letters of any case or by its number. -/
def ofWord? (text : List Char) : Option LogBound :=
  let lower := String.ofList (text.map Char.toLower)
  if lower = "off" || lower = "0" then some .off
  else if lower = "error" || lower = "1" then some (.upTo .error)
  else if lower = "warn" || lower = "2" then some (.upTo .warn)
  else if lower = "info" || lower = "3" then some (.upTo .info)
  else if lower = "debug" || lower = "4" then some (.upTo .debug)
  else if lower = "trace" || lower = "5" then some (.upTo .trace)
  else none

end LogBound

/-- One directive: a bound, for all events or for those whose target starts with a name. -/
structure LogDirective where
  target : List Char
  bound : LogBound
  deriving DecidableEq, Repr

namespace LogDirective

/-- The character can be the first one of a directive. -/
def opens (c : Char) : Bool :=
  c.isAlphanum || c = '-' || c = ':' || c = '_'

/-- Reads a directive without blanks around it. A bound that is left out behind a name admits all
events. -/
def read? : List Char → Option LogDirective
  | [] => some ⟨[], .upTo .trace⟩
  | text@(first :: _) =>
    if !opens first then none
    else match text.span (· != '=') with
      | (target, [_]) => some ⟨target, .upTo .trace⟩
      | (target, _ :: word) => (LogBound.ofWord? word).map fun bound => ⟨target, bound⟩
      | (_, []) =>
        match LogBound.ofWord? text with
        | some bound => some ⟨[], bound⟩
        | none => some ⟨text, .upTo .trace⟩

/-- Whether a directive is about the events of a target. -/
def fits (directive : LogDirective) (target : String) : Bool :=
  directive.target.isPrefixOf target.toList

/-- A text without the blanks around it. -/
def trim (text : List Char) : List Char :=
  ((text.dropWhile Char.isWhitespace).reverse.dropWhile Char.isWhitespace).reverse

/-- The directives of a text, as far as each can be read. -/
def readAll (text : String) : List (Option LogDirective) :=
  ((text.toList.splitOn ',').filter (· ≠ [])).map fun part => read? (trim part)

/-- The bound for the events of a target: that of the directive with the longest name, of equally
long ones that of the last. -/
def boundOf (directives : List LogDirective) (target : String) : LogBound :=
  ((directives.filter (·.fits target)).foldl
    (fun (best : Nat × LogBound) directive =>
      if best.1 ≤ directive.target.length then (directive.target.length, directive.bound) else best)
    (0, .off)).2

/-- The subscriber of the command. -/
def subscriber : LogSubscriber where
  Filter := List LogDirective
  read? text := (readAll text).mapM id
  readLossy text := (readAll text).filterMap id
  enabled directives metadata := (boundOf directives metadata.target).admits metadata.level
  line _ event := "DEBUG " ++ event.message ++ "\n"

end LogDirective

end ScriptShell
