/-
GuardCost/Utility/Calendar.lean

Dates.  Days are counted from the first of January 1970, a Thursday; years,
months and days follow by the rules of the Gregorian calendar.
-/
import GuardCost.Utility.Expression

namespace GuardCost.Utility

open Process

/-- A point in time in the terms of the calendar. -/
structure Moment where
  year : Nat
  /-- The month, from zero on. -/
  month : Nat
  day : Nat
  hour : Nat
  minute : Nat
  second : Nat
  /-- The day in the year, from zero on. -/
  dayOfYear : Nat
  /-- The day in the week; Sunday is zero. -/
  weekday : Nat
  deriving DecidableEq, Repr

namespace Moment

/-- Whether a year has a day more. -/
def isLeap (year : Nat) : Bool := year % 4 = 0 && (year % 100 ≠ 0 || year % 400 = 0)

/-- The lengths of the months. -/
def monthLengths (year : Nat) : List Nat :=
  [31, if isLeap year then 29 else 28, 31, 30, 31, 30, 31, 31, 30, 31, 30, 31]

/-- The year that a day is in, and the day in it, given how many years may come
at most. -/
def splitYears (allowance year days : Nat) : Nat × Nat :=
  match allowance with
  | 0 => (year, days)
  | n + 1 =>
    let length := if isLeap year then 366 else 365
    if days < length then (year, days) else splitYears n (year + 1) (days - length)

/-- The month that a day is in, and the day in it. -/
def splitMonths (month days : Nat) : List Nat → Nat × Nat
  | [] => (month, days)
  | length :: rest =>
    if days < length then (month, days) else splitMonths (month + 1) (days - length) rest

/-- A number of seconds since the start of 1970 in the terms of the calendar. -/
def ofSeconds (seconds : Nat) : Moment :=
  let days := seconds / 86400
  let rest := seconds % 86400
  let (year, dayOfYear) := splitYears (days / 365 + 1) 1970 days
  let (month, day) := splitMonths 0 dayOfYear (monthLengths year)
  { year, month, day := day + 1, hour := rest / 3600, minute := rest / 60 % 60
    second := rest % 60, dayOfYear, weekday := (days + 4) % 7 }

/-- The names of the days. -/
def dayNames : List String :=
  ["Sunday", "Monday", "Tuesday", "Wednesday", "Thursday", "Friday", "Saturday"]

/-- The names of the months. -/
def monthNames : List String :=
  ["January", "February", "March", "April", "May", "June", "July", "August", "September",
    "October", "November", "December"]

/-- A number in so many digits. -/
def digits (width n : Nat) : String :=
  let ds := toString n
  String.ofList (List.replicate (width - ds.length) '0') ++ ds

/-- The first three letters of a name. -/
def short (names : List String) (i : Nat) : String :=
  String.ofList ((names.getD i "").toList.take 3)

/-- The time of the day. -/
def clock (m : Moment) : String :=
  digits 2 m.hour ++ ":" ++ digits 2 m.minute ++ ":" ++ digits 2 m.second

/-- The date in numbers. -/
def numbers (m : Moment) : String :=
  digits 4 m.year ++ "-" ++ digits 2 (m.month + 1) ++ "-" ++ digits 2 m.day

/-- The day of the month in two places. -/
def paddedDay (m : Moment) : String := aligned 2 (toString m.day)

/-- The date and the time, as they are usually shown. -/
def usual (m : Moment) : String :=
  short dayNames m.weekday ++ " " ++ short monthNames m.month ++ " " ++ paddedDay m ++ " "
    ++ clock m ++ " UTC " ++ toString m.year

/-- The hour of a clock of twelve hours. -/
def halfHour (m : Moment) : Nat := if m.hour % 12 = 0 then 12 else m.hour % 12

/-- What a letter in a format stands for. -/
def field? (m : Moment) (seconds nanoseconds : Nat) (c : Char) : Option String :=
  match c with
  | 'Y' => some (toString m.year)
  | 'C' => some (digits 2 (m.year / 100))
  | 'y' => some (digits 2 (m.year % 100))
  | 'm' => some (digits 2 (m.month + 1))
  | 'd' => some (digits 2 m.day)
  | 'e' => some (paddedDay m)
  | 'H' => some (digits 2 m.hour)
  | 'k' => some (aligned 2 (toString m.hour))
  | 'I' => some (digits 2 m.halfHour)
  | 'l' => some (aligned 2 (toString m.halfHour))
  | 'M' => some (digits 2 m.minute)
  | 'S' => some (digits 2 m.second)
  | 'N' => some (digits 9 nanoseconds)
  | 's' => some (toString seconds)
  | 'j' => some (digits 3 (m.dayOfYear + 1))
  | 'a' => some (short dayNames m.weekday)
  | 'A' => some (dayNames.getD m.weekday "")
  | 'b' => some (short monthNames m.month)
  | 'h' => some (short monthNames m.month)
  | 'B' => some (monthNames.getD m.month "")
  | 'p' => some (if m.hour < 12 then "AM" else "PM")
  | 'P' => some (if m.hour < 12 then "am" else "pm")
  | 'u' => some (toString (if m.weekday = 0 then 7 else m.weekday))
  | 'w' => some (toString m.weekday)
  | 'q' => some (toString (m.month / 3 + 1))
  | 'Z' => some "UTC"
  | 'z' => some "+0000"
  | 'n' => some "\n"
  | 't' => some "\t"
  | '%' => some "%"
  | 'F' => some (numbers m)
  | 'T' => some (clock m)
  | 'X' => some (clock m)
  | 'R' => some (digits 2 m.hour ++ ":" ++ digits 2 m.minute)
  | 'D' => some (digits 2 (m.month + 1) ++ "/" ++ digits 2 m.day ++ "/" ++ digits 2 (m.year % 100))
  | 'x' => some (digits 2 (m.month + 1) ++ "/" ++ digits 2 m.day ++ "/" ++ digits 2 (m.year % 100))
  | 'c' =>
    some (short dayNames m.weekday ++ " " ++ short monthNames m.month ++ " " ++ paddedDay m
      ++ " " ++ clock m ++ " " ++ toString m.year)
  | _ => none

/-- A moment in a format. -/
def inFormat (m : Moment) (seconds nanoseconds : Nat) : List Char → String
  | '%' :: '-' :: c :: cs =>
    let field := (m.field? seconds nanoseconds c).getD ("%-" ++ c.toString)
    let short := (field.toList.dropWhile fun c => c == '0' || c == ' ')
    (if short.isEmpty then "0" else String.ofList short) ++ m.inFormat seconds nanoseconds cs
  | '%' :: '3' :: 'N' :: cs =>
    digits 3 (nanoseconds / 1000000) ++ m.inFormat seconds nanoseconds cs
  | '%' :: '6' :: 'N' :: cs =>
    digits 6 (nanoseconds / 1000) ++ m.inFormat seconds nanoseconds cs
  | '%' :: c :: cs =>
    (m.field? seconds nanoseconds c).getD ("%" ++ c.toString) ++ m.inFormat seconds nanoseconds cs
  | c :: cs => c.toString ++ m.inFormat seconds nanoseconds cs
  | [] => ""

end Moment

/-- The nanoseconds in a second. -/
def perSecond : Nat := 1000000000

/-- Write the date. -/
def writeDate : Tool := fun _ arguments => do
  let known := [switch 'u' "utc", ⟨"u", none, some "universal", .nothing⟩, valued 'd' "date",
    valued 'r' "reference", switch 'R' "rfc-email", ⟨"I", 'I', some "iso-8601", .maybe⟩,
    named "rfc-3339" .value]
  let line ← parse known true 1 arguments
  let p ← get
  let time ← match line.value? "d", line.value? "r" with
    | some text, _ =>
      let cs := text.toList
      match cs with
      | '@' :: ds =>
        match natural? (String.ofList ds) with
        | some n => pure (n * perSecond)
        | none => fatal 1 ("invalid date " ++ quoteForShell text)
      | _ =>
        if text == "now" || text.isEmpty then pure p.machine.clock
        else match touchAll.dayOf? text with
          | some time => pure time
          | none => fatal 1 ("invalid date " ++ quoteForShell text)
    | none, some file =>
      match p.machine.files.modified? p.directory (pathOf file) with
      | some time => pure time
      | none => fatal 1 (quoteIfNeeded file ++ ": No such file or directory")
    | none, none => pure p.machine.clock
  let (seconds, nanoseconds) := (time / perSecond, time % perSecond)
  let m := Moment.ofSeconds seconds
  match line.operands with
  | _ :: extra :: _ => misuse 1 ("extra operand " ++ quoteForShell extra)
  | [operand] =>
    match operand.toList with
    | '+' :: format => emitLine (m.inFormat seconds nanoseconds format)
    | _ => fatal 1 ("invalid date " ++ quoteForShell operand)
  | [] =>
    if line.has "R" then
      emitLine (Moment.short Moment.dayNames m.weekday ++ ", " ++ Moment.digits 2 m.day ++ " "
        ++ Moment.short Moment.monthNames m.month ++ " " ++ toString m.year ++ " " ++ m.clock
        ++ " +0000")
    else if line.has "I" then
      match line.value? "I" with
      | some "seconds" => emitLine (m.numbers ++ "T" ++ m.clock ++ "+00:00")
      | _ => emitLine m.numbers
    else emitLine m.usual
  return 0

end GuardCost.Utility
