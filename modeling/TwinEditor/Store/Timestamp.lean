import TwinEditor.Text.Trim
import TwinEditor.Text.Blank

/-!
# Points in time

A point in time is a day of the Gregorian calendar and a time of that day, both in universal time. It
is read from a date, a time and an offset from universal time, and written with a fraction of three,
six or nine digits, or none when the second is full. Seconds run up to 60, the place of a leap second.
-/

namespace TwinEditor
namespace Store

/-- A day of the calendar. Years before the year zero are negative. -/
structure Day where
  year : Int
  month : Nat
  day : Nat
  deriving Repr, DecidableEq

namespace Day

/-- Whether a year has a leap day. -/
def isLeapYear (year : Int) : Bool :=
  year % 4 == 0 && (year % 100 != 0 || year % 400 == 0)

/-- The number of days of a month. -/
def monthLength (year : Int) (month : Nat) : Nat :=
  if month = 2 then if isLeapYear year then 29 else 28
  else if month = 4 ∨ month = 6 ∨ month = 9 ∨ month = 11 then 30
  else 31

/-- The first year that can be represented. -/
def minYear : Int := -262143

/-- The last year that can be represented. -/
def maxYear : Int := 262142

/-- Whether a day is one of the calendar and within the years that can be represented. -/
def isValid (date : Day) : Bool :=
  minYear ≤ date.year ∧ date.year ≤ maxYear ∧ 1 ≤ date.month ∧ date.month ≤ 12 ∧ 1 ≤ date.day ∧
    date.day ≤ monthLength date.year date.month

/-- The day after. -/
def next (date : Day) : Day :=
  if date.day < monthLength date.year date.month then { date with day := date.day + 1 }
  else if date.month < 12 then ⟨date.year, date.month + 1, 1⟩
  else ⟨date.year + 1, 1, 1⟩

/-- The day before. -/
def previous (date : Day) : Day :=
  if 1 < date.day then { date with day := date.day - 1 }
  else if 1 < date.month then ⟨date.year, date.month - 1, monthLength date.year (date.month - 1)⟩
  else ⟨date.year - 1, 12, 31⟩

/-- The day a given number of days later, or earlier when the number is negative. -/
def shift (date : Day) (days : Int) : Day :=
  if days < 0 then Nat.repeat previous days.natAbs date else Nat.repeat next days.natAbs date

end Day

/-- A point in time in universal time. -/
structure Timestamp where
  date : Day
  minuteOfDay : Nat
  second : Nat
  nanosecond : Nat
  deriving Repr, DecidableEq

namespace Timestamp

/-- A number with at least a given count of digits. -/
def padded (width number : Nat) : String :=
  let digits := toString number
  "".pushn '0' (width - digits.length) ++ digits

/-- The text of a year: four digits, and a sign where it has more or is negative. -/
def yearText (year : Int) : String :=
  if year < 0 then "-" ++ padded 4 year.natAbs
  else if 9999 < year then "+" ++ padded 4 year.natAbs
  else padded 4 year.natAbs

/-- The text of the fraction of a second. -/
def fractionText (nanosecond : Nat) : String :=
  if nanosecond = 0 then ""
  else if nanosecond % 1000000 = 0 then "." ++ padded 3 (nanosecond / 1000000)
  else if nanosecond % 1000 = 0 then "." ++ padded 6 (nanosecond / 1000)
  else "." ++ padded 9 nanosecond

/-- The text of a point in time. -/
def toText (time : Timestamp) : String :=
  yearText time.date.year ++ "-" ++ padded 2 time.date.month ++ "-" ++ padded 2 time.date.day ++
    "T" ++ padded 2 (time.minuteOfDay / 60) ++ ":" ++ padded 2 (time.minuteOfDay % 60) ++ ":" ++
    padded 2 time.second ++ fractionText time.nanosecond ++ "Z"

/-- A point in time given by a local date and time and the minutes that local time is ahead. -/
def ofLocal? (date : Day) (hour minute second nanosecond : Nat) (ahead : Int) :
    Option Timestamp :=
  if date.isValid ∧ hour < 24 ∧ minute < 60 ∧ second ≤ 60 ∧ ahead.natAbs < 1440 then
    let minutes : Int := 60 * hour + minute - ahead
    let shifted := date.shift (minutes.fdiv 1440)
    if shifted.isValid then some ⟨shifted, (minutes.fmod 1440).toNat, second, nanosecond⟩ else none
  else none

/-- Read at most a given count of digits, and at least one. -/
def readDigits? (most : Nat) (text : List Char) : Option (Nat × List Char) :=
  let digits := (text.take most).takeWhile Char.isDigit
  if digits.isEmpty then none
  else some (digits.foldl (fun number c => 10 * number + (c.toNat - '0'.toNat)) 0,
    text.drop digits.length)

/-- Read a number after any blanks. -/
def readNumber? (text : List Char) : Option (Nat × List Char) :=
  readDigits? 2 (Text.trimStart Text.isBlank text)

/-- Read a character after any blanks. -/
def readMark? (mark : Char) (text : List Char) : Option (List Char) :=
  match Text.trimStart Text.isBlank text with
  | c :: rest => if c = mark then some rest else none
  | [] => none

/-- Read a year after any blanks. With a sign it may have any count of digits. -/
def readYear? (text : List Char) : Option (Int × List Char) :=
  match Text.trimStart Text.isBlank text with
  | '-' :: rest => (readDigits? rest.length rest).map fun (year, rest) => (-(year : Int), rest)
  | '+' :: rest => (readDigits? rest.length rest).map fun (year, rest) => ((year : Int), rest)
  | rest => (readDigits? 4 rest).map fun (year, rest) => ((year : Int), rest)

/-- Read a fraction of a second. Digits after the ninth do not count. -/
def readFraction? : List Char → Option (Nat × List Char)
  | '.' :: text => do
      let (number, rest) ← readDigits? 9 text
      return (number * Nat.pow 10 (9 - (text.length - rest.length)), rest.dropWhile Char.isDigit)
  | text => some (0, text)

/-- Whether a character separates the hours of an offset from its minutes. -/
def isOffsetSeparator (c : Char) : Bool :=
  c == ':' || Text.isBlank c

/-- Read exactly two digits. -/
def readTwoDigits? : List Char → Option (Nat × List Char)
  | first :: second :: rest =>
      if first.isDigit ∧ second.isDigit then
        some (10 * (first.toNat - '0'.toNat) + (second.toNat - '0'.toNat), rest)
      else none
  | _ => none

/-- Read the hours and minutes of an offset. -/
def readHoursAndMinutes? (text : List Char) : Option (Nat × List Char) := do
  let (hours, rest) ← readTwoDigits? text
  let (minutes, rest) ← readTwoDigits? (rest.dropWhile isOffsetSeparator)
  if minutes < 60 then return (60 * hours + minutes, rest) else none

/-- Read an offset from universal time: the minutes that local time is ahead. -/
def readOffset? (text : List Char) : Option (Int × List Char) :=
  match text with
  | c :: rest =>
      if c = 'Z' ∨ c = 'z' then some (0, rest)
      else if (text.take 3).map Char.toUpper = ['U', 'T', 'C'] then some (0, text.drop 3)
      else if c = '+' then (readHoursAndMinutes? rest).map fun (ahead, rest) => ((ahead : Int), rest)
      else if c = '-' ∨ c = '\u2212' then
        (readHoursAndMinutes? rest).map fun (behind, rest) => (-(behind : Int), rest)
      else none
  | [] => none

/-- Whether a character separates a date from a time. -/
def isDateSeparator (c : Char) : Bool :=
  c == 'T' || c == 't' || c == ' '

/-- Read a date. Blanks may stand between its parts. -/
def readDay? (text : List Char) : Option (Day × List Char) := do
  let (year, rest) ← readYear? text
  let (month, rest) ← readNumber? (← readMark? '-' rest)
  let (day, rest) ← readNumber? (← readMark? '-' rest)
  return (⟨year, month, day⟩, rest)

/-- Read a point in time. Blanks may stand between its parts and at the end. -/
def ofText? (text : String) : Option Timestamp := do
  let (date, rest) ← readDay? text.toList
  let separator :: rest := rest | none
  if !isDateSeparator separator then none
  let (hour, rest) ← readNumber? rest
  let (minute, rest) ← readNumber? (← readMark? ':' rest)
  let (second, rest) ← readNumber? (← readMark? ':' rest)
  let (nanosecond, rest) ← readFraction? rest
  let (ahead, rest) ← readOffset? (Text.trimStart Text.isBlank rest)
  if !rest.all Text.isBlank then none
  ofLocal? date hour minute second nanosecond ahead

end Timestamp
end Store
end TwinEditor
