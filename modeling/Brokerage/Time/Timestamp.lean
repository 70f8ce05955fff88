import Brokerage.Json.Draft
import Brokerage.Json.Printer
import Brokerage.Text.Blank

/-! # Points in time

A timestamp counts seconds from the start of 1970 in UTC. It is read from a date, a time of day
and an offset, and written in UTC with as many groups of three decimals as it takes.
-/

namespace Brokerage

/-- A leap second is the second before it with a full second of nanoseconds or more. -/
structure Timestamp where
  seconds : Int
  nanoseconds : Nat
  deriving DecidableEq, Repr, Inhabited

/-- A day of the calendar. -/
structure CalendarDay where
  year : Int
  month : Nat
  day : Nat
  deriving DecidableEq, Repr

namespace CalendarDay

def isLeapYear (year : Int) : Bool := year % 4 = 0 && (year % 100 != 0 || year % 400 = 0)

def monthLength (year : Int) (month : Nat) : Nat :=
  if month = 2 then (if isLeapYear year then 29 else 28)
  else if month = 4 || month = 6 || month = 9 || month = 11 then 30
  else 31

def isValid (d : CalendarDay) : Bool :=
  1 ≤ d.month && d.month ≤ 12 && 1 ≤ d.day && d.day ≤ monthLength d.year d.month

/-- Days since the start of 1970. Years are taken to start in March, so that a leap day is the
last day of its year. -/
def toDays (d : CalendarDay) : Int :=
  let year := if d.month ≤ 2 then d.year - 1 else d.year
  let month : Int := if d.month ≤ 2 then d.month + 9 else d.month - 3
  let dayOfYear := (153 * month + 2) / 5 + d.day - 1
  let era := year / 400
  let yearOfEra := year % 400
  era * 146097 + yearOfEra * 365 + yearOfEra / 4 - yearOfEra / 100 + dayOfYear - 719468

/-- The day that is some days after the start of 1970. -/
def ofDays (days : Int) : CalendarDay :=
  let shifted := days + 719468
  let era := shifted / 146097
  let dayOfEra := shifted % 146097
  let yearOfEra :=
    (dayOfEra - dayOfEra / 1460 + dayOfEra / 36524 - dayOfEra / 146096) / 365
  let dayOfYear := dayOfEra - (365 * yearOfEra + yearOfEra / 4 - yearOfEra / 100)
  let month := (5 * dayOfYear + 2) / 153
  let day := dayOfYear - (153 * month + 2) / 5 + 1
  let month := if month < 10 then month + 3 else month - 9
  ⟨era * 400 + yearOfEra + (if month ≤ 2 then 1 else 0), month.toNat, day.toNat⟩

end CalendarDay

namespace Timestamp

/-- The years that a timestamp may fall into. -/
def yearInRange (year : Int) : Bool := -262143 ≤ year && year ≤ 262142

/-! ## Reading -/

/-- A number of one to `width` digits after blanks. -/
def scanDigits (width : Nat) (input : List Char) : Option (Nat × List Char) :=
  let input := trimFront input
  let (digits, _) := leadingDigits (input.take width)
  if digits = [] then none else some (ofDigits digits, input.drop digits.length)

/-- A year after blanks: four digits at most, or any number of them after a sign. -/
def scanYear (input : List Char) : Option (Int × List Char) :=
  match trimFront input with
  | '-' :: rest =>
    match leadingDigits rest with
    | ([], _) => none
    | (digits, after) => some (-ofDigits digits, after)
  | '+' :: rest =>
    match leadingDigits rest with
    | ([], _) => none
    | (digits, after) => some (ofDigits digits, after)
  | rest => (scanDigits 4 rest).map fun (n, after) => ((n : Int), after)

/-- A given character after blanks. -/
def scanMark (mark : Char) (input : List Char) : Option (List Char) :=
  match trimFront input with
  | c :: rest => if c = mark then some rest else none
  | [] => none

/-- The nanoseconds after a point: nine decimals count, further ones are dropped. -/
def scanFraction : List Char → Option (Nat × List Char)
  | '.' :: rest =>
    match leadingDigits rest with
    | ([], _) => none
    | (digits, after) =>
      let kept := digits.take 9
      some (ofDigits kept * 10 ^ (9 - kept.length), after)
  | rest => some (0, rest)

/-- Two digits. -/
def scanPair : List Char → Option (Nat × List Char)
  | a :: b :: rest => do return (10 * (← digitValue? a) + (← digitValue? b), rest)
  | _ => none

/-- An offset from UTC in seconds: a letter `Z`, the word `UTC`, or a sign, hours and minutes. -/
def scanOffset (input : List Char) : Option (Int × List Char) := do
  let input := trimFront input
  if (String.ofList (input.take 3)).toLower = "utc" then return (0, input.drop 3)
  match input with
  | 'Z' :: rest | 'z' :: rest => return (0, rest)
  | sign :: rest =>
    if sign != '+' && sign != '-' && sign != '\u2212' then none
    let (hours, rest) ← scanPair rest
    let (minutes, rest) ← scanPair (rest.dropWhile fun c => c = ':' || isBlank c)
    if 60 ≤ minutes then none
    let size : Int := hours * 3600 + minutes * 60
    return (if sign = '+' then size else -size, rest)
  | [] => none

/-- Read a date, a time of day and an offset. -/
def read? (text : String) : Option Timestamp := do
  let (year, rest) ← scanYear text.toList
  let (month, rest) ← scanDigits 2 (← scanMark '-' rest)
  let (day, rest) ← scanDigits 2 (← scanMark '-' rest)
  let rest ←
    match rest with
    | 'T' :: rest | 't' :: rest | ' ' :: rest => some rest
    | _ => none
  let (hour, rest) ← scanDigits 2 rest
  let (minute, rest) ← scanDigits 2 (← scanMark ':' rest)
  let (second, rest) ← scanDigits 2 (← scanMark ':' rest)
  let (nanosecond, rest) ← scanFraction rest
  let (offset, rest) ← scanOffset rest
  let date : CalendarDay := ⟨year, month, day⟩
  if trimFront rest != [] || !date.isValid || !yearInRange year then none
  if 24 ≤ hour || 60 ≤ minute || 61 ≤ second || 86400 ≤ offset.natAbs then none
  let leap := second = 60
  let timeOfDay := hour * 3600 + minute * 60 + (if leap then 59 else second)
  let seconds := date.toDays * 86400 + timeOfDay - offset
  if !yearInRange (CalendarDay.ofDays (seconds / 86400)).year then none
  return ⟨seconds, nanosecond + if leap then 1000000000 else 0⟩

/-! ## Writing -/

/-- A number with zeros in front up to a width. -/
def padded (width n : Nat) : List Char :=
  let digits := decimalDigits n
  List.replicate (width - digits.length) '0' ++ digits

/-- A year has four digits, and a sign where four digits are too few. -/
def yearChars (year : Int) : List Char :=
  if 0 ≤ year && year ≤ 9999 then padded 4 year.toNat
  else (if year < 0 then '-' else '+') :: padded 4 year.natAbs

/-- The decimals of a second: none, three, six or nine. -/
def fractionChars (nanosecond : Nat) : List Char :=
  if nanosecond = 0 then []
  else if nanosecond % 1000000 = 0 then '.' :: padded 3 (nanosecond / 1000000)
  else if nanosecond % 1000 = 0 then '.' :: padded 6 (nanosecond / 1000)
  else '.' :: padded 9 nanosecond

/-- The text in UTC. -/
def text (t : Timestamp) : String :=
  let date := CalendarDay.ofDays (t.seconds / 86400)
  let time := (t.seconds % 86400).toNat
  let second := time % 60 + if 1000000000 ≤ t.nanoseconds then 1 else 0
  String.ofList (yearChars date.year ++ '-' :: padded 2 date.month ++ '-' :: padded 2 date.day ++
    'T' :: padded 2 (time / 3600) ++ ':' :: padded 2 (time / 60 % 60) ++ ':' :: padded 2 second ++
    fractionChars (t.nanoseconds % 1000000000) ++ ['Z'])

end Timestamp
end Brokerage
