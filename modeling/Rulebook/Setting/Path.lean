/-
This file holds paths into settings. A path has steps, each into a table by a name or into a list
by a position. A setting can be laid at any path: what is in the way of a step gives way to an
empty table or list, and lists grow as far as they must. A path is written with points before its
names and brackets around its positions.
-/
import Rulebook.Setting

namespace Rulebook.Setting

/-- A step into a setting. -/
inductive Step where
  /-- Into a table, by a name. -/
  | name (name : String)
  /-- Into a list, by a position. Positions below zero count from the end. -/
  | position (position : Int)
  deriving DecidableEq

/-! ### Laying -/

/-- The items of a list with room for a position, and the place of that position. Room is made by
items that are nothing, behind the others or, for a position before the first, in front of them. -/
def roomFor (position : Int) (items : List Setting) : List Setting × Nat :=
  let distance := position.natAbs
  if 0 ≤ position then
    (items ++ List.replicate (distance + 1 - items.length) .nothing, distance)
  else if distance ≤ items.length then (items, items.length - distance)
  else (List.replicate (distance - items.length) .nothing ++ items, 0)

/-- A setting with another laid over it at a path. -/
def layAt (later : Setting) : List Step → Setting → Setting
  | [], earlier => earlier.overlay later
  | .name name :: rest, earlier =>
    let inner := (earlier.entries.lookup name).getD .nothing
    .table (assign name (layAt later rest inner) earlier.entries)
  | .position position :: rest, earlier =>
    let (items, place) := roomFor position earlier.items
    .list (items.modify place fun inner => layAt later rest inner)

/-- The setting at a path of names. -/
def get? (setting : Setting) : List String → Option Setting
  | [] => some setting
  | name :: rest => (setting.entries.lookup name).bind fun inner => inner.get? rest

/-! ### Reading -/

/-- Characters of names that need no quotes. -/
def isNameCharacter (character : Char) : Bool :=
  character.isAlphanum || character == '_' || character == '-'

/-- Blanks that may stand around a position. -/
def isPathBlank (character : Char) : Bool := character == ' ' || character == '\t'

/-- The position that is written between brackets: digits behind an optional minus sign. -/
def position? (characters : List Char) : Option Int :=
  let (negative, unsigned) := match characters.dropWhile isPathBlank with
    | '-' :: rest => (true, rest)
    | rest => (false, rest)
  let (digits, rest) := spanDigits unsigned
  let size : Int := digitsValue digits
  let position := if negative then -size else size
  if !digits.isEmpty && rest.all isPathBlank && isShort position then some position else none

/-- The steps that some characters write: names behind points, and positions in brackets. -/
def readSteps : Nat → List Char → Option (List Step)
  | _, [] => some []
  | 0, _ => none
  | fuel + 1, mark :: rest =>
    if mark = '.' then
      let name := rest.takeWhile isNameCharacter
      if name.isEmpty then none
      else
        (readSteps fuel (rest.dropWhile isNameCharacter)).map (.name (String.ofList name) :: ·)
    else if mark = '[' then
      match rest.span (· != ']') with
      | (_, []) => none
      | (inside, _ :: rest) =>
        (position? inside).bind fun position =>
          (readSteps fuel rest).map (.position position :: ·)
    else none

/-- The path that the name of a setting writes, with no point before its first name. A name that
writes no path stands for itself. -/
def pathOf (name : List Char) : List Step :=
  (readSteps (name.length + 1) ('.' :: name)).getD [.name (String.ofList name)]

end Rulebook.Setting
