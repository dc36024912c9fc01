/-
This file holds the values that rules compute with: what a property returns, what a condition
compares with, and the keyword arguments of properties and actions. A value is read as a number,
a Boolean or a text by the rules below; equality is strict (same kind, same content) and follows
the equality of doubles, so a value that holds a NaN is not equal to itself.
-/
import Rulebook.Json
import Rulebook.Text.Blank

namespace Rulebook

/-- A value. The names of a map are in increasing order. -/
inductive Value where
  | null
  | bool (value : Bool)
  | number (value : Number)
  | text (characters : String)
  | list (items : List Value)
  | map (fields : List (String × Value))
  deriving Inhabited

/-- Keyword arguments. -/
abbrev Kwargs := Fields Value

namespace Value

/-! ### Kinds and views -/

/-- The name of a value's kind. -/
def typeName : Value → String
  | .null => "null"
  | .bool _ => "boolean"
  | .number _ => "number"
  | .text _ => "string"
  | .list _ => "list"
  | .map _ => "map"

/-- Whether the value is null. -/
def isNull : Value → Bool
  | .null => true
  | _ => false

/-- The characters of a text. -/
def asText? : Value → Option String
  | .text characters => some characters
  | _ => none

/-- The value as a number: a number, or a text that spells one between blanks. -/
def asNumber? : Value → Option Number
  | .number value => some value
  | .text characters => Number.ofText? (Text.trim characters)
  | _ => none

/-- The Boolean that a text spells. -/
def spelledBool? (characters : String) : Option Bool :=
  let word := Text.lower (Text.trim characters)
  if word = "true" ∨ word = "1" then some true
  else if word = "false" ∨ word = "0" then some false
  else none

/-- The value as a Boolean: a Boolean, or a text that spells one between blanks. -/
def asBool? : Value → Option Bool
  | .bool value => some value
  | .text characters => spelledBool? characters
  | _ => none

/-- Whether the value counts as true: everything but null, false, zero and what is empty. -/
def isTruthy : Value → Bool
  | .null => false
  | .bool value => value
  | .number value => !value.isZero
  | .text characters => !characters.isEmpty
  | .list items => !items.isEmpty
  | .map fields => !fields.isEmpty

/-! ### Text -/

mutual

/-- The value as it is shown: texts without quotes, items and entries separated by `, `. -/
def display : Value → String
  | .null => "null"
  | .bool value => if value then "true" else "false"
  | .number value => value.display
  | .text characters => characters
  | .list [] => "[]"
  | .list (item :: rest) => "[" ++ display item ++ displayItems rest ++ "]"
  | .map [] => "\x7b\x7d"
  | .map ((name, value) :: rest) =>
    "\x7b" ++ name ++ ": " ++ display value ++ displayFields rest ++ "\x7d"

/-- Further items of a list. -/
def displayItems : List Value → String
  | [] => ""
  | item :: rest => ", " ++ display item ++ displayItems rest

/-- Further entries of a map. -/
def displayFields : List (String × Value) → String
  | [] => ""
  | (name, value) :: rest => ", " ++ name ++ ": " ++ display value ++ displayFields rest

end

/-- The text that the operators on texts see: a text itself, nothing for null, else what is
shown. -/
def toText : Value → String
  | .text characters => characters
  | .null => ""
  | value => value.display

/-! ### Strict equality -/

mutual

/-- Same kind and same content. -/
def same : Value → Value → Bool
  | .null, .null => true
  | .bool left, .bool right => left == right
  | .number left, .number right => left.same right
  | .text left, .text right => left == right
  | .list left, .list right => sameItems left right
  | .map left, .map right => sameFields left right
  | _, _ => false

/-- The items of two lists agree one by one. -/
def sameItems : List Value → List Value → Bool
  | [], [] => true
  | left :: lefts, right :: rights => same left right && sameItems lefts rights
  | _, _ => false

/-- The entries of two maps agree one by one. -/
def sameFields : List (String × Value) → List (String × Value) → Bool
  | [], [] => true
  | (leftName, left) :: lefts, (rightName, right) :: rights =>
    leftName == rightName && same left right && sameFields lefts rights
  | _, _ => false

end

/-! ### Order of names -/

mutual

/-- Every map in the value lists its names in strictly increasing order. -/
def Ordered : Value → Prop
  | .list items => OrderedItems items
  | .map fields => Fields.Sorted fields ∧ OrderedFields fields
  | _ => True

/-- Every item is ordered. -/
def OrderedItems : List Value → Prop
  | [] => True
  | item :: rest => Ordered item ∧ OrderedItems rest

/-- The value of every entry is ordered. -/
def OrderedFields : List (String × Value) → Prop
  | [] => True
  | (_, value) :: rest => Ordered value ∧ OrderedFields rest

end

/-! ### From and to JSON -/

mutual

/-- The value of a JSON value; an integer becomes the nearest double. -/
def ofJson : Json → Value
  | .null => .null
  | .bool value => .bool value
  | .integer value => .number (Number.ofInt value)
  | .real value => .number value
  | .text characters => .text characters
  | .list items => .list (ofJsonItems items)
  | .map fields => .map (ofJsonFields fields)

/-- The values of the items of a list. -/
def ofJsonItems : List Json → List Value
  | [] => []
  | item :: rest => ofJson item :: ofJsonItems rest

/-- The values of the entries of an object. -/
def ofJsonFields : List (String × Json) → List (String × Value)
  | [] => []
  | (name, value) :: rest => (name, ofJson value) :: ofJsonFields rest

end

/-- The value of a number in a JSON text. -/
def ofNumeral : Numeral → Value
  | .integer value => .number (Number.ofInt value)
  | .real value => .number value

/-- The name and the value of an entry of an object. -/
def entryOf? (read : Document → Option Value) (entry : Option String × Document) :
    Option (String × Value) := do
  return (← entry.1, ← read entry.2)

/-- The ways to read a document, which does not tell what kind of value it writes, in the order in
which they are tried. Items and entries are read by `read?`; without it there is no room for them.
An object of which two entries have one name keeps the later. -/
def alternatives (read? : Option (Document → Option Value)) : List (Document → Option Value) := [
  fun
    | .null => some .null
    | _ => none,
  fun
    | .bool value => some (.bool value)
    | _ => none,
  fun
    | .number numeral => numeral.map ofNumeral
    | _ => none,
  fun
    | .text characters => characters.map .text
    | _ => none,
  fun
    | .list items => do
      let read ← read?
      return .list (← items.mapM read)
    | _ => none,
  fun
    | .object entries => do
      let read ← read?
      return .map (Fields.ofList (← entries.mapM (entryOf? read)))
    | _ => none]

/-- The value of a document whose lists and objects nest at most `room` deep: what the first
alternative makes of it that takes it. -/
def ofDocument? : Nat → Document → Option Value
  | 0, document => (alternatives none).findSome? fun alternative => alternative document
  | room + 1, document =>
    (alternatives (some (ofDocument? room))).findSome? fun alternative => alternative document

/-- The value that a JSON text writes. -/
def ofText? (text : String) : Option Value :=
  (Document.ofText? text).bind (ofDocument? Json.nestingLimit)

mutual

/-- The JSON value of a value. JSON has no infinities and no NaN, so these become null. -/
def toJson : Value → Json
  | .null => .null
  | .bool value => .bool value
  | .number value => if value.isFinite then .real value else .null
  | .text characters => .text characters
  | .list items => .list (toJsonItems items)
  | .map fields => .map (toJsonFields fields)

/-- The JSON values of the items of a list. -/
def toJsonItems : List Value → List Json
  | [] => []
  | item :: rest => toJson item :: toJsonItems rest

/-- The JSON values of the entries of a map. -/
def toJsonFields : List (String × Value) → List (String × Json)
  | [] => []
  | (name, value) :: rest => (name, toJson value) :: toJsonFields rest

end

/-- The JSON text of a value. -/
def render (value : Value) : String := value.toJson.render

end Value

end Rulebook
