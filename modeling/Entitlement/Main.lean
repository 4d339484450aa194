import Entitlement.Command.Run
import Std.Time.DateTime.Timestamp

/-!
# The program

The outer layer: it hands the arguments, the environment, the files and the time
to `Entitlement.Command.run`, prints what comes back and ends with the exit code.

The program comes without a database engine, so it opens no database; records are
read from fixtures.
-/

namespace Entitlement.Command

/-! ## The time of day

A point in time as a text of the calendar: year, month and day, then hours,
minutes and seconds, in universal time. -/

/-- A number with leading zeros up to a width. -/
def padded (width n : Nat) : String :=
  let digits := Nat.toDigits 10 n
  String.ofList (List.replicate (width - digits.length) '0' ++ digits)

/-- Whether a year has a 29th of February. -/
def isLeapYear (year : Nat) : Bool := year % 4 = 0 && (year % 100 != 0 || year % 400 = 0)

/-- The number of days of a year. -/
def daysOfYear (year : Nat) : Nat := if isLeapYear year then 366 else 365

/-- The numbers of days of the months of a year. -/
def monthLengths (year : Nat) : List Nat :=
  [31, if isLeapYear year then 29 else 28, 31, 30, 31, 30, 31, 31, 30, 31, 30, 31]

/-- The year of a day, counted from the first day of a year, and the day within that
year. -/
def yearFrom (year day : Nat) : Nat × Nat :=
  if daysOfYear year ≤ day then yearFrom (year + 1) (day - daysOfYear year) else (year, day)
termination_by day
decreasing_by
  rename_i hlate
  have : 0 < daysOfYear year := by unfold daysOfYear; split <;> decide
  omega

/-- The month of a day, counted from the first day of a month, and the day within
that month. -/
def monthFrom (month day : Nat) : List Nat → Nat × Nat
  | [] => (month, day)
  | length :: rest =>
      if length ≤ day then monthFrom (month + 1) (day - length) rest else (month, day)

/-- The text of a number of seconds after the start of the year 1970. -/
def timeText (seconds : Nat) : String :=
  let (year, dayOfYear) := yearFrom 1970 (seconds / 86400)
  let (month, day) := monthFrom 1 dayOfYear (monthLengths year)
  let second := seconds % 86400
  padded 4 year ++ "-" ++ padded 2 month ++ "-" ++ padded 2 (day + 1) ++ "T" ++
    padded 2 (second / 3600) ++ ":" ++ padded 2 (second / 60 % 60) ++ ":" ++
    padded 2 (second % 60) ++ "Z"

/-! ## Files and settings -/

/-- The number of an error; it may come with a sign. -/
def errorNumber (code : UInt32) : Nat :=
  if code.toNat < Nat.pow 2 31 then code.toNat else Nat.pow 2 32 - code.toNat

/-- The reason for a failure to read a file. -/
def reasonText : IO.Error → String
  | .noFileOrDirectory .. => "No such file or directory (os error 2)"
  | .permissionDenied .. => "Permission denied (os error 13)"
  | .inappropriateType _ code _ =>
      if errorNumber code = 20 then "Not a directory (os error 20)"
      else "Is a directory (os error 21)"
  | .invalidArgument _ code _ =>
      if errorNumber code = 36 then "File name too long (os error 36)"
      else "Invalid argument (os error 22)"
  | .userError _ => "stream did not contain valid UTF-8"
  | error => toString error

/-- The text of a file, or the reason why it cannot be read. -/
def readFile (path : String) : IO (Except String String) := do
  try
    return .ok (← IO.FS.readFile path)
  catch error =>
    return .error (reasonText error)

/-- The files that an invocation reads. -/
def Invocation.files : Invocation → List String
  | .check fixture .. => fixture.toList
  | .summarize fixture _ => fixture.toList
  | .flatten path => [path]
  | .migrate => []

/-- The parts of a text that may be names of settings: of those at the beginning of a
line, of those after a dollar sign, and of those in braces. -/
def namesIn (text : String) : List String :=
  let ends : List (Char → Bool) := [fun c => !EnvFile.continuesName c,
    fun c => !EnvFile.isNameChar c, fun c => c = '\x7b' || c = '\x7d']
  ends.flatMap fun isEnd => (text.split isEnd).toList.map (·.toString)

/-- What surrounds the program, as far as an invocation depends on it. -/
def surroundings (paths : List String) : IO World := do
  let files ← (".env" :: paths).mapM fun path => return (path, ← readFile path)
  let mentioned :=
    match files.lookup ".env" with
    | some (.ok text) => namesIn text
    | _ => []
  let names := ["AUTHZ_MODE", "AUTHZ_STRICT_LEVELS", "DATABASE_URL"] ++ mentioned
  let bindings ← names.mapM fun name => return (name, ← IO.getEnv name)
  let now ← Std.Time.Timestamp.now
  return {
    environment := fun name => (bindings.lookup name).join
    file := fun path => (files.lookup path).getD (.error "not read")
    present := fun _ => false
    connect := fun _ _ _ => .refused
    now := timeText now.toSecondsSinceUnixEpoch.val.toNat }

/-! ## The run -/

/-- Reports the end of a run; its exit code. -/
def Ending.report : Ending → IO UInt32
  | .aborted => do
      IO.eprintln "a setting of .env cannot be added"
      return 101
  | .printed output => do
      IO.print output
      return 0
  | .failed failure => do
      IO.eprintln ("Error: " ++ failure.message)
      return 1
  | .misused (some report) => do
      IO.eprint ("error: " ++ report)
      return 2
  | .misused none => do
      IO.eprintln "error: invalid arguments"
      return 2

end Entitlement.Command

open Entitlement.Command in
/-- Runs the program. -/
def main (arguments : List String) : IO UInt32 := do
  let paths :=
    match Invocation.ofArguments arguments with
    | .ok invocation => invocation.files
    | .error _ => []
  (run (← surroundings paths) arguments).report
