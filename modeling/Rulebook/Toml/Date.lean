/-
This file reads dates and times as TOML writes them: a date, a time of day, or both, and then
perhaps an offset from UTC. They mean nothing to the settings but their text, which is written in
one form: `T` between date and time, a capital `Z`, and no needless zero at the end of a fraction.
-/
import Rulebook.Timestamp

namespace Rulebook.Toml

/-- A date of the calendar. -/
structure Date where
  year : Nat
  month : Nat
  day : Nat
  deriving DecidableEq

/-- A time of day. The seconds may be left out, and so may their fraction. -/
structure Time where
  hour : Nat
  minute : Nat
  second : Option Nat
  nanosecond : Option Nat
  deriving DecidableEq

/-- What local time has to do with UTC. -/
inductive Offset where
  /-- It is UTC. -/
  | utc
  /-- It is ahead of UTC by some minutes, or behind if they are below zero. -/
  | ahead (minutes : Int)
  deriving DecidableEq

/-- A date, a time of day, or both. -/
inductive Moment where
  | date (date : Date)
  | time (time : Time)
  | dateTime (date : Date) (time : Time) (offset : Option Offset)
  deriving DecidableEq

/-! ### Reading -/

/-- What follows a mark. -/
def readMark (mark : Char) : List Char → Option (List Char)
  | character :: rest => if character = mark then some rest else none
  | [] => none

/-- A date at the front: four digits, two and two, with minus signs between them. -/
def readDate (characters : List Char) : Option (Date × List Char) := do
  let (century, rest) ← Timestamp.readPair characters
  let (yearOfCentury, rest) ← Timestamp.readPair rest
  let (month, rest) ← Timestamp.readPair (← readMark '-' rest)
  let (day, rest) ← Timestamp.readPair (← readMark '-' rest)
  let year := 100 * century + yearOfCentury
  if 1 ≤ month ∧ month ≤ 12 ∧ 1 ≤ day ∧ day ≤ Timestamp.daysInMonth year month then
    some (⟨year, month, day⟩, rest)
  else none

/-- The seconds of a time, if a colon stands at the front. -/
def readSeconds : List Char → Option (Option Nat × List Char)
  | ':' :: rest => (Timestamp.readPair rest).map fun (second, rest) => (some second, rest)
  | characters => some (none, characters)

/-- The nanoseconds of a time with seconds, if a point stands at the front. Digits beyond the ninth
are left out. -/
def readNanoseconds (second : Option Nat) (characters : List Char) :
    Option (Option Nat × List Char) :=
  if second.isSome ∧ characters.head? = some '.' then
    (Timestamp.readFraction characters).map fun (nanosecond, rest) => (some nanosecond, rest)
  else some (none, characters)

/-- A time of day at the front. The second 60 is a leap second, and any minute may have one. -/
def readTime (characters : List Char) : Option (Time × List Char) := do
  let (hour, rest) ← Timestamp.readPair characters
  let (minute, rest) ← Timestamp.readPair (← readMark ':' rest)
  let (second, rest) ← readSeconds rest
  let (nanosecond, rest) ← readNanoseconds second rest
  if hour < 24 ∧ minute < 60 ∧ second.getD 0 ≤ 60 then
    some (⟨hour, minute, second, nanosecond⟩, rest)
  else none

/-- Hours and minutes of an offset, all that is left. -/
def offsetMinutes? (characters : List Char) : Option Nat := do
  let (hours, rest) ← Timestamp.readPair characters
  let (minutes, rest) ← Timestamp.readPair (← readMark ':' rest)
  if hours < 24 ∧ minutes < 60 ∧ rest = [] then some (60 * hours + minutes) else none

/-- An offset, all that is left; there may be none. -/
def offset? : List Char → Option (Option Offset)
  | [] => some none
  | '+' :: rest => (offsetMinutes? rest).map fun minutes => some (.ahead minutes)
  | '-' :: rest => (offsetMinutes? rest).map fun minutes => some (.ahead (-minutes))
  | [mark] => if mark = 'Z' ∨ mark = 'z' then some (some .utc) else none
  | _ => none

/-- The date or time that some characters write, all of them. -/
def moment? (characters : List Char) : Option Moment :=
  match readDate characters with
  | some (date, []) => some (.date date)
  | some (date, mark :: rest) =>
    if mark = 'T' ∨ mark = 't' ∨ mark = ' ' then do
      let (time, rest) ← readTime rest
      some (.dateTime date time (← offset? rest))
    else none
  | none =>
    match readTime characters with
    | some (time, []) => some (.time time)
    | _ => none

/-! ### Writing -/

/-- The text of a date. -/
def Date.display (date : Date) : String :=
  Timestamp.padded 4 date.year ++ "-" ++ Timestamp.padded 2 date.month ++ "-"
    ++ Timestamp.padded 2 date.day

/-- The digits of a fraction, at least one. -/
def fractionDigits (nanosecond : Nat) : String :=
  let digits := (Timestamp.padded 9 nanosecond).toList.reverse.dropWhile (· == '0')
  if digits.isEmpty then "0" else String.ofList digits.reverse

/-- The text of a time of day. -/
def Time.display (time : Time) : String :=
  let second := (time.second.map fun second => ":" ++ Timestamp.padded 2 second).getD ""
  let fraction := (time.nanosecond.map fun nanosecond => "." ++ fractionDigits nanosecond).getD ""
  Timestamp.padded 2 time.hour ++ ":" ++ Timestamp.padded 2 time.minute ++ second ++ fraction

/-- The text of an offset. -/
def Offset.display : Offset → String
  | .utc => "Z"
  | .ahead minutes =>
    (if minutes < 0 then "-" else "+") ++ Timestamp.padded 2 (minutes.natAbs / 60) ++ ":"
      ++ Timestamp.padded 2 (minutes.natAbs % 60)

/-- The text of a date or time. -/
def Moment.display : Moment → String
  | .date day => day.display
  | .time clock => clock.display
  | .dateTime day clock offset =>
    day.display ++ "T" ++ clock.display ++ (offset.map Offset.display).getD ""

end Rulebook.Toml
