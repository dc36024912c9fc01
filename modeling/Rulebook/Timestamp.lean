/-
This file holds points in time. A point is a count of seconds from the start of 1970 in UTC and a
count of nanoseconds; a leap second is the second before it with a thousand million nanoseconds
more. Texts are read in a relaxed form of RFC 3339, with blanks between the parts and any offset
from UTC, and are written in UTC with as many fraction digits as are needed: none, 3, 6 or 9.
-/
import Rulebook.Number.Reading

namespace Rulebook

/-- A point in time. -/
structure Timestamp where
  seconds : Int
  nanoseconds : Nat
  deriving DecidableEq, Inhabited

namespace Timestamp

/-! ### The calendar -/

/-- The number of days from the start of 1970 to a date. The years are counted from March, so
that a leap day is the last day of its year. -/
def daysOf (year : Int) (month day : Nat) : Int :=
  let shifted := if month ≤ 2 then year - 1 else year
  let era := shifted / 400
  let yearOfEra := shifted % 400
  let monthFromMarch : Int := if month ≤ 2 then month + 9 else (month : Int) - 3
  let dayOfYear := (153 * monthFromMarch + 2) / 5 + day - 1
  let dayOfEra := yearOfEra * 365 + yearOfEra / 4 - yearOfEra / 100 + dayOfYear
  era * 146097 + dayOfEra - 719468

/-- The date that is a number of days from the start of 1970: year, month and day. -/
def dateOf (days : Int) : Int × Nat × Nat :=
  let shifted := days + 719468
  let era := shifted / 146097
  let dayOfEra := shifted % 146097
  let yearOfEra := (dayOfEra - dayOfEra / 1460 + dayOfEra / 36524 - dayOfEra / 146096) / 365
  let dayOfYear := dayOfEra - (365 * yearOfEra + yearOfEra / 4 - yearOfEra / 100)
  let monthFromMarch := (5 * dayOfYear + 2) / 153
  let day := dayOfYear - (153 * monthFromMarch + 2) / 5 + 1
  let month := if monthFromMarch < 10 then monthFromMarch + 3 else monthFromMarch - 9
  let year := yearOfEra + era * 400 + (if month ≤ 2 then 1 else 0)
  (year, month.toNat, day.toNat)

/-- Whether a year has a leap day. -/
def isLeap (year : Int) : Bool := year % 4 == 0 && (year % 100 != 0 || year % 400 == 0)

/-- The number of days of a month. -/
def daysInMonth (year : Int) (month : Nat) : Nat :=
  if month = 2 then (if isLeap year then 29 else 28)
  else if month = 4 ∨ month = 6 ∨ month = 9 ∨ month = 11 then 30
  else 31

/-- The years that can be represented. -/
def isYear (year : Int) : Bool := decide (-262143 ≤ year ∧ year ≤ 262142)

/-! ### Reading -/

/-- What follows the blanks at the front. -/
def skipBlanks (characters : List Char) : List Char := characters.dropWhile Text.isBlank

/-- A number of at least one and at most `width` digits behind blanks. -/
def readNumber (width : Nat) (characters : List Char) : Option (Nat × List Char) :=
  let start := skipBlanks characters
  let digits := (start.take width).takeWhile Char.isDigit
  if digits.isEmpty then none else some (digitsValue digits, start.drop digits.length)

/-- A year behind blanks: four digits at most, or a sign and any number of digits. -/
def readYear (characters : List Char) : Option (Int × List Char) :=
  match skipBlanks characters with
  | '-' :: rest => unbounded rest fun year => -(year : Int)
  | '+' :: rest => unbounded rest fun year => (year : Int)
  | start => (readNumber 4 start).map fun (year, rest) => ((year : Int), rest)
where
  /-- Digits directly behind the sign. -/
  unbounded (rest : List Char) (signed : Nat → Int) : Option (Int × List Char) :=
    match spanDigits rest with
    | ([], _) => none
    | (digits, rest) => some (signed (digitsValue digits), rest)

/-- A separator behind blanks. -/
def readMark (mark : Char) (characters : List Char) : Option (List Char) :=
  match skipBlanks characters with
  | character :: rest => if character = mark then some rest else none
  | [] => none

/-- The letter or blank between date and time. -/
def readSeparator : List Char → Option (List Char)
  | character :: rest =>
    if character = 't' ∨ character = 'T' ∨ character = ' ' then some rest else none
  | [] => none

/-- The nanoseconds of a fraction, if a point stands at the front. Digits beyond the ninth are
left out. -/
def readFraction : List Char → Option (Nat × List Char)
  | '.' :: rest =>
    match spanDigits rest with
    | ([], _) => none
    | (digits, rest) =>
      let kept := digits.take 9
      some (digitsValue kept * Nat.pow 10 (9 - kept.length), rest)
  | characters => some (0, characters)

/-- Two digits. -/
def readPair : List Char → Option (Nat × List Char)
  | tens :: ones :: rest =>
    if tens.isDigit && ones.isDigit then some (digitsValue [tens, ones], rest) else none
  | _ => none

/-- The sign of an offset: whether it is a minus. -/
def readOffsetSign : List Char → Option (Bool × List Char)
  | '+' :: rest => some (false, rest)
  | '-' :: rest => some (true, rest)
  | '−' :: rest => some (true, rest)
  | _ => none

/-- The seconds by which local time is ahead of UTC: `Z`, `UTC` in any case, or hours and minutes
with colons or blanks between them. -/
def readOffset (characters : List Char) : Option (Int × List Char) :=
  if (characters.take 3).map Char.toLower = ['u', 't', 'c'] then some (0, characters.drop 3)
  else if (characters.take 1).map Char.toLower = ['z'] then some (0, characters.drop 1)
  else do
    let (negative, unsigned) ← readOffsetSign characters
    let (hours, rest) ← readPair unsigned
    let (minutes, rest) ←
      readPair (rest.dropWhile fun character => character == ':' || Text.isBlank character)
    if 59 < minutes then none
    else
      let size : Int := hours * 3600 + minutes * 60
      if 86400 ≤ size then none else some (if negative then -size else size, rest)

/-- A point in time from its parts. The second 60 is a leap second. -/
def ofParts? (year : Int) (month day hour minute second nanoseconds : Nat) (offset : Int) :
    Option Timestamp :=
  if isYear year ∧ 1 ≤ month ∧ month ≤ 12 ∧ 1 ≤ day ∧ day ≤ daysInMonth year month
      ∧ hour < 24 ∧ minute < 60 ∧ second ≤ 60 then
    let leap := second == 60
    let secondOfDay : Int := hour * 3600 + minute * 60 + (if leap then 59 else second)
    let seconds := daysOf year month day * 86400 + secondOfDay - offset
    if isYear (dateOf (seconds / 86400)).1 then
      some ⟨seconds, nanoseconds + (if leap then 1000000000 else 0)⟩
    else none
  else none

/-- The point in time that a list of characters writes. -/
def ofChars? (characters : List Char) : Option Timestamp := do
  let (year, rest) ← readYear characters
  let rest ← readMark '-' rest
  let (month, rest) ← readNumber 2 rest
  let rest ← readMark '-' rest
  let (day, rest) ← readNumber 2 rest
  let rest ← readSeparator rest
  let (hour, rest) ← readNumber 2 rest
  let rest ← readMark ':' rest
  let (minute, rest) ← readNumber 2 rest
  let rest ← readMark ':' rest
  let (second, rest) ← readNumber 2 rest
  let (nanoseconds, rest) ← readFraction rest
  let (offset, rest) ← readOffset (skipBlanks rest)
  if (skipBlanks rest).isEmpty then
    ofParts? year month day hour minute second nanoseconds offset
  else none

/-- The point in time that a text writes. -/
def ofText? (text : String) : Option Timestamp := ofChars? text.toList

/-! ### Writing -/

/-- A number with at least `width` digits. -/
def padded (width value : Nat) : String :=
  let digits := value.repr
  String.ofList (List.replicate (width - digits.length) '0') ++ digits

/-- A year: four digits, or a sign and at least four digits outside of 0 to 9999. -/
def yearText (year : Int) : String :=
  if 0 ≤ year ∧ year ≤ 9999 then padded 4 year.toNat
  else (if year < 0 then "-" else "+") ++ padded 4 year.natAbs

/-- The fraction of a second, as short as thousands allow. -/
def fractionText (nanoseconds : Nat) : String :=
  if nanoseconds = 0 then ""
  else if nanoseconds % 1000000 = 0 then "." ++ padded 3 (nanoseconds / 1000000)
  else if nanoseconds % 1000 = 0 then "." ++ padded 6 (nanoseconds / 1000)
  else "." ++ padded 9 nanoseconds

/-- The text of a point in time. -/
def display (time : Timestamp) : String :=
  let (year, month, day) := dateOf (time.seconds / 86400)
  let secondOfDay := (time.seconds % 86400).toNat
  let leap := 1000000000 ≤ time.nanoseconds
  let second := secondOfDay % 60 + (if leap then 1 else 0)
  let nanoseconds := if leap then time.nanoseconds - 1000000000 else time.nanoseconds
  yearText year ++ "-" ++ padded 2 month ++ "-" ++ padded 2 day ++ "T"
    ++ padded 2 (secondOfDay / 3600) ++ ":" ++ padded 2 (secondOfDay / 60 % 60) ++ ":"
    ++ padded 2 second ++ fractionText nanoseconds ++ "Z"

end Timestamp

end Rulebook
