/-
This file holds settings as they are given: texts, numbers, Booleans, lists and tables of settings.
Tables are laid over each other name by name, so that a later one replaces what it names and leaves
the rest. A setting is read as the kind that is asked for by generous rules: a number may stand
where a text is wanted, and a text that spells a Boolean or a number where one of these is.
-/
import Rulebook.Number.Reading

namespace Rulebook

/-- A setting as it is given. -/
inductive Setting where
  /-- An item of a list that was never given. -/
  | nothing
  | text (characters : String)
  | integer (value : Int)
  | real (value : Number)
  | bool (value : Bool)
  | list (items : List Setting)
  | table (entries : List (String × Setting))
  deriving Inhabited

namespace Setting

/-! ### Layers -/

/-- The entries of a table; anything else has none. -/
def entries : Setting → List (String × Setting)
  | .table entries => entries
  | _ => []

/-- The items of a list; anything else has none. -/
def items : Setting → List Setting
  | .list items => items
  | _ => []

/-- Entries with one replaced, or added at the end. -/
def assign (name : String) (value : Setting) :
    List (String × Setting) → List (String × Setting)
  | [] => [(name, value)]
  | (head, old) :: rest =>
    if head = name then (name, value) :: rest else (head, old) :: assign name value rest

mutual

/-- A setting laid over an earlier one. A table is laid over the earlier entries one by one, and
anything else replaces the earlier setting. -/
def overlay (earlier : Setting) : Setting → Setting
  | .table entries => .table (overlayEntries earlier.entries entries)
  | later => later

/-- Entries laid over earlier ones. -/
def overlayEntries (earlier : List (String × Setting)) :
    List (String × Setting) → List (String × Setting)
  | [] => earlier
  | (name, later) :: rest =>
    let inner := (earlier.lookup name).getD .nothing
    overlayEntries (assign name (overlay inner later) earlier) rest

end

/-! ### Kinds -/

/-- The setting as a text: numbers and Booleans are written out. -/
def asText? : Setting → Option String
  | .text characters => some characters
  | .integer value => some (toString value)
  | .real value => some value.display
  | .bool value => some (if value then "true" else "false")
  | _ => none

/-- The Boolean that a text spells. -/
def spelledFlag? (characters : String) : Option Bool :=
  match Text.lower characters with
  | "true" => some true
  | "on" => some true
  | "yes" => some true
  | "1" => some true
  | "false" => some false
  | "off" => some false
  | "no" => some false
  | "0" => some false
  | _ => none

/-- The setting as a Boolean: a Boolean, a number that may be zero, or a text that spells one. -/
def asFlag? : Setting → Option Bool
  | .bool value => some value
  | .integer value => some (value != 0)
  | .real value => some (!value.isZero)
  | .text characters => spelledFlag? characters
  | _ => none

/-- Whether an integer has at most 64 bits, its sign included. -/
def isShort (value : Int) : Bool :=
  decide (-(Nat.pow 2 63 : Int) ≤ value ∧ value < (Nat.pow 2 63 : Int))

/-- The largest count. -/
def maxCount : Nat := Nat.pow 2 64 - 1

/-- A double rounded to a count, halves upwards; what is too small or no number is zero, and what
is too large is the largest count. -/
def roundedCount : Number → Nat
  | .nan => 0
  | .infinite negative => if negative then 0 else maxCount
  | .finite negative ticks _ =>
    if negative then 0 else min maxCount ((2 * ticks + ticksPerOne) / (2 * ticksPerOne))

/-- The count that a text spells: a word for a Boolean, or digits after an optional plus sign. -/
def spelledCount? (characters : String) : Option Nat :=
  match Text.lower characters with
  | "true" => some 1
  | "on" => some 1
  | "yes" => some 1
  | "false" => some 0
  | "off" => some 0
  | "no" => some 0
  | _ =>
    let digits := match characters.toList with
      | '+' :: rest => rest
      | digits => digits
    if digits.isEmpty || !digits.all Char.isDigit then none else some (digitsValue digits)

/-- The setting as a count that is at most `limit`. -/
def asCount? (limit : Nat) (setting : Setting) : Option Nat :=
  let count := match setting with
    | .integer value => if 0 ≤ value then some value.toNat else none
    | .real value => some (roundedCount value)
    | .bool value => some (if value then 1 else 0)
    | .text characters => spelledCount? characters
    | _ => none
  count.filter fun value => value ≤ limit

end Setting

end Rulebook
