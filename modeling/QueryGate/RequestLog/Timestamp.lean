import QueryGate.Decimal.Reader
import QueryGate.Text.WhiteSpace

/-!
# Timestamps

Points in time, in universal time down to the nanosecond, leap seconds included. A timestamp is
written with the fewest of 0, 3, 6 and 9 places that say it exactly (`Timestamp.text`), and read
with any offset from universal time (`Timestamp.ofText?`).
-/

namespace QueryGate

/-- A date of the Gregorian calendar, extended to all years. -/
structure Date where
  year : Int
  month : Nat
  day : Nat
  deriving DecidableEq, Repr

namespace Date

/-- Whether a year has a 29th of February. -/
def isLeap (year : Int) : Bool :=
  year % 4 == 0 && (year % 100 != 0 || year % 400 == 0)

/-- The number of days in a month. -/
def daysIn (year : Int) (month : Nat) : Nat :=
  if month = 2 then if isLeap year then 29 else 28
  else if month = 4 ∨ month = 6 ∨ month = 9 ∨ month = 11 then 30
  else 31

/-- Whether the month has this day, in one of the years that are kept track of. -/
def isValid (d : Date) : Bool :=
  -262143 ≤ d.year && d.year ≤ 262142 && 1 ≤ d.month && d.month ≤ 12 && 1 ≤ d.day &&
    d.day ≤ daysIn d.year d.month

/-- Days between the first of March of the year 0 and a date. Years are counted from March, so
that a leap day is the last one of its year. -/
def dayNumber (d : Date) : Int :=
  let y := if d.month ≤ 2 then d.year - 1 else d.year
  let m := (d.month + 9) % 12
  365 * y + y / 4 - y / 100 + y / 400 + ((153 * m + 2) / 5 + d.day - 1 : Nat)

/-- Days in 400 years. -/
def cycle : Nat := 146097

/-- The date with a day number. -/
def ofDayNumber (n : Int) : Date :=
  let era := n / cycle
  let day := (n % cycle).toNat
  let yearOfEra := (day - day / 1460 + day / 36524 - day / 146096) / 365
  let dayOfYear := day - (365 * yearOfEra + yearOfEra / 4 - yearOfEra / 100)
  let m := (5 * dayOfYear + 2) / 153
  let month := if m < 10 then m + 3 else m - 9
  { year := era * 400 + yearOfEra + (if month ≤ 2 then 1 else 0)
    month := month
    day := dayOfYear - (153 * m + 2) / 5 + 1 }

end Date

/-- A point in time. -/
structure Timestamp where
  /-- The day number of the date. -/
  day : Int
  /-- The second of the day. -/
  second : Nat
  /-- Nanoseconds; a full second and more within a leap second. -/
  nano : Nat
  deriving DecidableEq, Repr

namespace Timestamp

/-- Seconds in a day. -/
def daySeconds : Nat := 86400

/-- Nanoseconds in a second. -/
def secondNanos : Nat := Nat.pow 10 9

/-- The timestamp that lies seconds and nanoseconds after the first second of 1970. -/
def ofUnix (seconds : Int) (nano : Nat) : Timestamp where
  day := Date.dayNumber ⟨1970, 1, 1⟩ + seconds / daySeconds
  second := (seconds % daySeconds).toNat
  nano := nano

/-- A number with at least the given count of digits. -/
def padded (width n : Nat) : List Char :=
  let digits := Nat.toDigits 10 n
  List.replicate (width - digits.length) '0' ++ digits

/-- A year : four digits, or a sign and at least four. -/
def yearText (y : Int) : List Char :=
  if 0 ≤ y ∧ y ≤ 9999 then padded 4 y.toNat
  else (if y < 0 then '-' else '+') :: padded 4 y.natAbs

/-- The fraction of a second. -/
def fractionText (nano : Nat) : List Char :=
  if nano = 0 then []
  else if nano % 1000000 = 0 then '.' :: padded 3 (nano / 1000000)
  else if nano % 1000 = 0 then '.' :: padded 6 (nano / 1000)
  else '.' :: padded 9 nano

/-- The text of a timestamp. -/
def text (t : Timestamp) : List Char :=
  let d := Date.ofDayNumber t.day
  let second := t.second % 60 + t.nano / secondNanos
  yearText d.year ++ '-' :: padded 2 d.month ++ '-' :: padded 2 d.day ++
    'T' :: padded 2 (t.second / 3600) ++ ':' :: padded 2 (t.second / 60 % 60) ++
    ':' :: padded 2 second ++ fractionText (t.nano % secondNanos) ++ ['Z']

/-- At least one digit and at most `width`, and what follows. -/
def digits? (width : Nat) (s : List Char) : Option (Nat × List Char) :=
  let run := (s.take width).takeWhile Char.isDigit
  if run.isEmpty then none else some (Decimal.digitsValue run, s.drop run.length)

/-- A number of at most `width` digits behind white space. -/
def number? (width : Nat) (s : List Char) : Option (Nat × List Char) :=
  digits? width (Text.trimStart s)

/-- The rest of a text behind a character and the white space in front of it. -/
def mark? (c : Char) (s : List Char) : Option (List Char) :=
  match Text.trimStart s with
  | x :: rest => if x == c then some rest else none
  | [] => none

/-- A year of four digits at most, or of any length behind a sign. -/
def year? (s : List Char) : Option (Int × List Char) :=
  match Text.trimStart s with
  | '-' :: rest => (digits? rest.length rest).map fun (n, t) => (-(n : Int), t)
  | '+' :: rest => (digits? rest.length rest).map fun (n, t) => ((n : Int), t)
  | rest => (digits? 4 rest).map fun (n, t) => ((n : Int), t)

/-- Nanoseconds behind a point; digits after the ninth do not count. -/
def fraction? : List Char → Option (Nat × List Char)
  | '.' :: s =>
    let run := s.takeWhile Char.isDigit
    if run.isEmpty then none
    else
      let kept := run.take 9
      some (Decimal.digitsValue kept * Nat.pow 10 (9 - kept.length), s.drop run.length)
  | s => some (0, s)

/-- Two digits at the start of a text. -/
def twoDigits? (s : List Char) : Option (Nat × List Char) :=
  match s with
  | a :: b :: rest => if a.isDigit && b.isDigit then some (Decimal.digitsValue [a, b], rest) else none
  | _ => none

/-- The offset from universal time in seconds : a letter for none, or a sign, hours and
minutes. -/
def offset? (s : List Char) : Option (Int × List Char) :=
  match s with
  | [] => none
  | c :: rest =>
    if Text.sameLetters (s.take 3) "UTC".toList then some (0, s.drop 3)
    else if c == 'Z' || c == 'z' then some (0, rest)
    else if c == '+' || c == '-' || c == '\u2212' then do
      let (hours, rest) ← twoDigits? rest
      let (minutes, rest) ← twoDigits? (rest.dropWhile fun c => c == ':' || Text.isWhite c)
      if 59 < minutes then none
      else
        let seconds : Int := (hours * 3600 + minutes * 60 : Nat)
        some (if c == '+' then seconds else -seconds, rest)
    else none

/-- The timestamp for a time of day at an offset from universal time. Second 60 is a leap
second. -/
def ofLocal (date : Date) (hour minute second nano : Nat) (offset : Int) : Timestamp :=
  let leap := second / 60
  let seconds : Int := (hour * 3600 + minute * 60 + (second - leap) : Nat) - offset
  { day := date.dayNumber + seconds / daySeconds
    second := (seconds % daySeconds).toNat
    nano := nano + leap * secondNanos }

/-- The timestamp a text stands for : date, time and offset, with white space between them and
their parts. -/
def ofText? (s : List Char) : Option Timestamp := do
  let (year, s) ← year? s
  let (month, s) ← number? 2 (← mark? '-' s)
  let (day, s) ← number? 2 (← mark? '-' s)
  let s ← match s with
    | c :: rest => if c == 'T' || c == 't' || c == ' ' then some rest else none
    | [] => none
  let (hour, s) ← number? 2 s
  let (minute, s) ← number? 2 (← mark? ':' s)
  let (second, s) ← number? 2 (← mark? ':' s)
  let (nano, s) ← fraction? s
  let (offset, s) ← offset? (Text.trimStart s)
  let date : Date := ⟨year, month, day⟩
  let time := ofLocal date hour minute second nano offset
  let fits := date.isValid && hour ≤ 23 && minute ≤ 59 && second ≤ 60 &&
    offset.natAbs < daySeconds && (Date.ofDayNumber time.day).isValid
  if Text.isBlank s && fits then some time else none

end Timestamp

end QueryGate
