/-
This file holds events: the name of a signal and the arguments that come with it. Parts of the
arguments are reached by a path, whose parts are separated by points and lead into objects by name
and into lists by position.
-/
import Rulebook.Value

namespace Rulebook

/-- The arguments of an event. -/
structure EventArgs where
  data : Json := .null
  deriving Inhabited

/-- Something that happened, as it is announced to the rules. -/
structure Event where
  signal : String
  args : EventArgs := {}
  deriving Inhabited

/-! ### Paths -/

/-- The parts of a text between points; the empty text has one empty part. -/
def pathParts : List Char → List (List Char)
  | [] => [[]]
  | '.' :: rest => [] :: pathParts rest
  | character :: rest =>
    match pathParts rest with
    | [] => [[character]]
    | part :: parts => (character :: part) :: parts

/-- The position a part of a path names: digits after an optional plus sign, below `2 ^ 64`. -/
def position? (part : List Char) : Option Nat :=
  let digits := match part with
    | '+' :: rest => rest
    | _ => part
  if digits.isEmpty || !digits.all Char.isDigit then none
  else
    let index := digitsValue digits
    if index < Nat.pow 2 64 then some index else none

/-- One step into a value. -/
def Json.child? (value : Json) (part : List Char) : Option Json :=
  match value with
  | .map fields => Fields.find? fields (String.ofList part)
  | .list items => (position? part).bind fun index => items[index]?
  | _ => none

/-- The value that the parts of a path lead to. -/
def Json.descend? (value : Json) : List (List Char) → Option Json
  | [] => some value
  | part :: parts => (value.child? part).bind fun child => child.descend? parts

namespace EventArgs

/-- The part of the arguments at a path. -/
def field? (args : EventArgs) (path : String) : Option Json :=
  args.data.descend? (pathParts path.toList)

/-- The value at a path; null if nothing is there. -/
def value (args : EventArgs) (path : String) : Value :=
  match args.field? path with
  | some found => Value.ofJson found
  | none => .null

end EventArgs

end Rulebook
