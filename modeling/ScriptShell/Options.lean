/-!
# Engine options

Six named settings, each either a boolean or an unsigned 64-bit number, changed by assignments
of the form `name=value`. An assignment is accepted or rejected by its text alone; a rejected one
leaves the table as it was, and an accepted one changes only the option it names.
-/

namespace ScriptShell

/-! ## Names and kinds -/

/-- The name of an engine option. -/
inductive OptionName where
  | maxLoopIterations
  | maxRecursionDepth
  | maxStackSize
  | strictMode
  | useSampling
  | dumpSampleData
  deriving DecidableEq, Repr

/-- The two kinds of option values. -/
inductive OptionKind where
  | boolean
  | unsigned
  deriving DecidableEq, Repr

namespace OptionName

/-- All options, in the order in which they are listed. -/
def all : List OptionName :=
  [.maxLoopIterations, .maxRecursionDepth, .maxStackSize, .strictMode, .useSampling,
    .dumpSampleData]

/-- The spelling of an option. -/
def spelling : OptionName → String
  | .maxLoopIterations => "maxLoopIterations"
  | .maxRecursionDepth => "maxRecursionDepth"
  | .maxStackSize => "maxStackSize"
  | .strictMode => "strictMode"
  | .useSampling => "useSampling"
  | .dumpSampleData => "dumpSampleData"

/-- The option with a spelling. -/
def ofSpelling? (spelling : String) : Option OptionName :=
  all.find? fun name => name.spelling = spelling

/-- What an option does, in one line. -/
def description : OptionName → String
  | .maxLoopIterations => "iterations a single loop may run before it throws"
  | .maxRecursionDepth => "nested function calls allowed before a RangeError"
  | .maxStackSize => "value stack slots available to the interpreter"
  | .strictMode => "evaluate every script as strict mode code"
  | .useSampling => "record a sampling window per script and bind the sampling flag natives"
  | .dumpSampleData => "print collected sampling windows at shutdown"

/-- The kind of value that an option holds. -/
def kind : OptionName → OptionKind
  | .maxLoopIterations | .maxRecursionDepth | .maxStackSize => .unsigned
  | .strictMode | .useSampling | .dumpSampleData => .boolean

end OptionName

/-! ## Values -/

/-- The value of an option. -/
inductive OptionValue where
  | boolean (value : Bool)
  | unsigned (value : UInt64)
  deriving DecidableEq, Repr

namespace OptionValue

/-- The text of a value. -/
def display : OptionValue → String
  | .boolean true => "true"
  | .boolean false => "false"
  | .unsigned value => value.toNat.repr

/-- The number that decimal digits stand for, behind those already read. -/
def readDigits? (value : Nat) : List Char → Option Nat
  | [] => some value
  | c :: rest =>
    if '0' ≤ c && c ≤ '9' then readDigits? (value * 10 + (c.toNat - '0'.toNat)) rest else none

/-- Reads an optional plus sign and then decimal digits, at least one, below `2 ^ 64`. -/
def readUnsigned? (text : List Char) : Option UInt64 :=
  let digits := match text with
    | '+' :: rest => rest
    | text => text
  if digits = [] then none
  else match readDigits? 0 digits with
    | some value => if value < Nat.pow 2 64 then some value.toUInt64 else none
    | none => none

/-- Reads a boolean, as a word or as a digit. -/
def readBoolean? (text : List Char) : Option Bool :=
  if text = ['t', 'r', 'u', 'e'] || text = ['1'] then some true
  else if text = ['f', 'a', 'l', 's', 'e'] || text = ['0'] then some false
  else none

/-- Reads a value of a kind. -/
def read? (kind : OptionKind) (text : List Char) : Option OptionValue :=
  match kind with
  | .boolean => (readBoolean? text).map .boolean
  | .unsigned => (readUnsigned? text).map .unsigned

end OptionValue

/-! ## The table -/

/-- The engine options with their values, at first the defaults. -/
structure Options where
  maxLoopIterations : UInt64 := 0xFFFFFFFFFFFFFFFF
  maxRecursionDepth : UInt64 := 512
  maxStackSize : UInt64 := 1024
  strictMode : Bool := false
  useSampling : Bool := false
  dumpSampleData : Bool := true
  deriving DecidableEq, Repr, Inhabited

namespace Options

/-- The value of an option. -/
def get (options : Options) : OptionName → OptionValue
  | .maxLoopIterations => .unsigned options.maxLoopIterations
  | .maxRecursionDepth => .unsigned options.maxRecursionDepth
  | .maxStackSize => .unsigned options.maxStackSize
  | .strictMode => .boolean options.strictMode
  | .useSampling => .boolean options.useSampling
  | .dumpSampleData => .boolean options.dumpSampleData

/-- The table with one option changed. A value of the other kind changes nothing. -/
def set (options : Options) : OptionName → OptionValue → Options
  | .maxLoopIterations, .unsigned value => { options with maxLoopIterations := value }
  | .maxRecursionDepth, .unsigned value => { options with maxRecursionDepth := value }
  | .maxStackSize, .unsigned value => { options with maxStackSize := value }
  | .strictMode, .boolean value => { options with strictMode := value }
  | .useSampling, .boolean value => { options with useSampling := value }
  | .dumpSampleData, .boolean value => { options with dumpSampleData := value }
  | _, _ => options

/-- The option and the value that an assignment names, if it is one. The name ends at the first
equals sign. -/
def readAssignment? (text : String) : Option (OptionName × OptionValue) :=
  match text.toList.span (· != '=') with
  | (name, _ :: value) => do
    let name ← OptionName.ofSpelling? (String.ofList name)
    let value ← OptionValue.read? name.kind value
    pure (name, value)
  | (_, []) => none

/-- The table after an assignment, if it is accepted. -/
def assign? (options : Options) (text : String) : Option Options :=
  (readAssignment? text).map fun (name, value) => options.set name value

/-- The table after an assignment, which is ignored if it is not accepted. -/
def assign (options : Options) (text : String) : Options :=
  (options.assign? text).getD options

/-- The line that shows one option. -/
def dumpLine (options : Options) (name : OptionName) : String :=
  "   " ++ name.spelling ++ "=" ++ (options.get name).display ++ "   ... " ++ name.description ++
    "\n"

/-- All options with their values and descriptions, a line each under a heading. -/
def dump (options : Options) : String :=
  "All engine options:\n" ++ String.join (OptionName.all.map options.dumpLine)

end Options

end ScriptShell
