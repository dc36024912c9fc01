/-
This file holds JSON values: a document whose parts all have a value, with the entries of each
object by name. A document is turned into a value with a limit on how deep lists and objects may
nest, and a value is written as a text without blanks.
-/
import Rulebook.Json.Document
import Rulebook.Fields

namespace Rulebook

/-- A JSON value. -/
inductive Json where
  | null
  | bool (value : Bool)
  /-- An integer of 64 bits. -/
  | integer (value : Int)
  /-- A finite double. -/
  | real (value : Number)
  | text (characters : String)
  | list (items : List Json)
  | map (fields : List (String × Json))
  deriving Inhabited

namespace Json

/-- How deep lists and objects may nest in a text that is read. -/
def nestingLimit : Nat := 127

/-! ### From documents -/

/-- The value of a number. -/
def ofNumeral : Numeral → Json
  | .integer value => .integer value
  | .real value => .real value

mutual

/-- The value of a document whose lists and objects nest at most `room` deep. -/
def ofDocument? (room : Nat) : Document → Option Json
  | .null => some .null
  | .bool value => some (.bool value)
  | .number numeral => numeral.map ofNumeral
  | .text characters => characters.map .text
  | .list items =>
    match room with
    | 0 => none
    | room + 1 => (ofItems? room items).map .list
  | .object entries =>
    match room with
    | 0 => none
    | room + 1 => (ofEntries? room entries).map fun entries => .map (Fields.ofList entries)

/-- The values of the items of a list. -/
def ofItems? (room : Nat) : List Document → Option (List Json)
  | [] => some []
  | item :: rest => do
    let value ← ofDocument? room item
    let values ← ofItems? room rest
    some (value :: values)

/-- The names and values of the entries of an object. -/
def ofEntries? (room : Nat) : List (Option String × Document) → Option (List (String × Json))
  | [] => some []
  | (name, item) :: rest => do
    let name ← name
    let value ← ofDocument? room item
    let entries ← ofEntries? room rest
    some ((name, value) :: entries)

end

/-- The value that a text writes. -/
def ofText? (text : String) : Option Json := (Document.ofText? text).bind (ofDocument? nestingLimit)

/-! ### Writing -/

/-- JSON numbers keep the fraction of a whole double, and have an exponent below `10 ^ -5` and
from `10 ^ 16` on; a tie goes to the even digit. -/
def numberLayout : Number.Layout :=
  ⟨.even, ['.', '0'], fun point => decide (-5 < point ∧ point ≤ 16)⟩

/-- A double as JSON writes it; what is not finite has no number in JSON and is written as null. -/
def numberText : Number → String
  | .nan => "null"
  | .infinite _ => "null"
  | .finite negative ticks _ => numberLayout.finiteText negative ticks

/-- A hexadecimal digit in lower case. -/
def hexDigit (value : Nat) : Char :=
  if value < 10 then Char.ofNat ('0'.toNat + value) else Char.ofNat ('a'.toNat + (value - 10))

/-- A character inside quotes. -/
def escapeChar (character : Char) : List Char :=
  match character with
  | '"' => ['\\', '"']
  | '\\' => ['\\', '\\']
  | '\x08' => ['\\', 'b']
  | '\x0c' => ['\\', 'f']
  | '\n' => ['\\', 'n']
  | '\r' => ['\\', 'r']
  | '\t' => ['\\', 't']
  | _ =>
    if character.toNat < 32 then
      ['\\', 'u', '0', '0', hexDigit (character.toNat / 16), hexDigit (character.toNat % 16)]
    else [character]

/-- A text in quotes. -/
def quoted (text : String) : List Char := '"' :: (text.toList.flatMap escapeChar ++ ['"'])

mutual

/-- The characters of a value without blanks. -/
def chars : Json → List Char
  | .null => "null".toList
  | .bool value => (if value then "true" else "false").toList
  | .integer value => (toString value).toList
  | .real value => (numberText value).toList
  | .text characters => quoted characters
  | .list [] => ['[', ']']
  | .list (item :: rest) => '[' :: (item.chars ++ itemChars rest ++ [']'])
  | .map [] => ['{', '}']
  | .map ((name, value) :: rest) =>
    '{' :: (quoted name ++ ':' :: (value.chars ++ fieldChars rest ++ ['}']))

/-- Further items, each behind a comma. -/
def itemChars : List Json → List Char
  | [] => []
  | item :: rest => ',' :: (item.chars ++ itemChars rest)

/-- Further entries, each behind a comma. -/
def fieldChars : List (String × Json) → List Char
  | [] => []
  | (name, value) :: rest => ',' :: (quoted name ++ ':' :: (value.chars ++ fieldChars rest))

end

/-- The text of a value without blanks. -/
def render (value : Json) : String := String.ofList value.chars

end Json

end Rulebook
