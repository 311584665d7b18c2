import ScriptShell.Language.Convert
import ScriptShell.Text.Field

/-!
# Dates

A date is a number of milliseconds since the start of 1970, in Universal Time.
-/

namespace ScriptShell.Language

/-! ## The calendar -/

/-- A moment in the terms of the calendar. -/
structure CalendarTime where
  year : Int
  /-- From zero for January on. -/
  month : Nat
  day : Nat
  weekday : Nat
  hour : Nat
  minute : Nat
  second : Nat
  millisecond : Nat

namespace CalendarTime

/-- The moment after a number of milliseconds. The years of the calculation begin in March, so that
a leap day is the last one of its year, and 400 of them make an era. -/
def ofMilliseconds (milliseconds : Int) : CalendarTime :=
  let days := milliseconds.fdiv 86400000
  let rest := (milliseconds - days * 86400000).toNat
  let shifted := days + 719468
  let era := shifted.fdiv 146097
  let dayOfEra := (shifted - era * 146097).toNat
  let yearOfEra := (dayOfEra - dayOfEra / 1460 + dayOfEra / 36524 - dayOfEra / 146096) / 365
  let dayOfYear := dayOfEra - (365 * yearOfEra + yearOfEra / 4 - yearOfEra / 100)
  let monthFromMarch := (5 * dayOfYear + 2) / 153
  let month := (monthFromMarch + 2) % 12
  { year := era * 400 + yearOfEra + if month < 2 then 1 else 0
    month := month
    day := dayOfYear - (153 * monthFromMarch + 2) / 5 + 1
    weekday := ((days + 4) % 7).toNat
    hour := rest / 3600000
    minute := rest / 60000 % 60
    second := rest / 1000 % 60
    millisecond := rest % 1000 }

/-- A number with at least so many digits. -/
def padded (width number : Nat) : String :=
  String.ofList (padLeft width '0' (Nat.toDigits 10 number))

/-- The short names of the months. -/
def monthNames : List String :=
  ["Jan", "Feb", "Mar", "Apr", "May", "Jun", "Jul", "Aug", "Sep", "Oct", "Nov", "Dec"]

/-- The short names of the days of the week. -/
def weekdayNames : List String :=
  ["Sun", "Mon", "Tue", "Wed", "Thu", "Fri", "Sat"]

/-- The time of day up to the second. -/
def clock (time : CalendarTime) : String :=
  padded 2 time.hour ++ ":" ++ padded 2 time.minute ++ ":" ++ padded 2 time.second

/-- A moment in words. -/
def words (time : CalendarTime) : String :=
  weekdayNames.getD time.weekday "" ++ " " ++ monthNames.getD time.month "" ++ " " ++
    padded 2 time.day ++ " " ++ padded 4 time.year.toNat ++ " " ++ time.clock ++ " GMT+0000"

/-- A moment in the format of the standard for dates. -/
def standard (time : CalendarTime) : String :=
  padded 4 time.year.toNat ++ "-" ++ padded 2 (time.month + 1) ++ "-" ++ padded 2 time.day ++
    "T" ++ time.clock ++ "." ++ padded 3 time.millisecond ++ "Z"

end CalendarTime

namespace Run

/-! ## Methods -/

/-- The milliseconds of the present moment. -/
def presentTime : Run Float := do
  return Float.ofNat (← store).time

/-- The present moment as a number. -/
def dateNow : Run Value := do
  return .number (← presentTime)

/-- What the constructor of dates makes: the present moment, or that of a number. -/
def constructDate (arguments : List Value) (target : Value) : Run Value := do
  let milliseconds ← match arguments with
    | [] => presentTime
    | value :: _ => do
      let number ← toNumber value
      pure (if number.abs ≤ 8640000000000000.0 then Numerals.toInteger number else 0.0 / 0.0)
  return .object (← newOf target .date (.date milliseconds))

/-- The milliseconds of `this`. -/
def thisTime (this : Value) : Run Float := do
  match this with
  | .object id =>
    match (← object id).kind with
    | .date milliseconds => return milliseconds
    | _ => typeError "'this' is not a Date"
  | _ => typeError "'this' is not a Date"

/-- The milliseconds of a date. -/
def dateGetTime (this : Value) : Run Value := do
  return .number (← thisTime this)

/-- A date in words. -/
def dateToString (this : Value) : Run Value := do
  match Numerals.truncate? (← thisTime this) with
  | some milliseconds => return .ofString (CalendarTime.ofMilliseconds milliseconds).words
  | none => return .ofString "Invalid Date"

/-- A date in the standard format. -/
def dateToIsoString (this : Value) : Run Value := do
  match Numerals.truncate? (← thisTime this) with
  | some milliseconds => return .ofString (CalendarTime.ofMilliseconds milliseconds).standard
  | none => fail .range "Invalid time value"

end Run

end ScriptShell.Language
