/-
This file holds the classes of characters that a pattern can ask for by a name: the classes with a
one-letter escape, the ASCII classes, and the categories, scripts and properties of the standard.
-/
import Rulebook.Pattern.Tree
import Rulebook.CharSet.Age
import Rulebook.CharSet.Break
import Rulebook.CharSet.Extension

namespace Rulebook.Pattern

/-- The decimal digits. -/
def digits : CharSet := CharSet.ofCategories ["Nd"]

/-- The characters of words: letters, marks, decimal digits, connectors and joiners. -/
def wordCharacters : CharSet :=
  ((CharSet.ofCategories ["Mc", "Me", "Mn", "Nd", "Pc"]).union CharSet.alphabetic).union
    CharSet.joinControl

/-- The ASCII digits. -/
def asciiDigits : CharSet := ⟨[(48, 57)]⟩

/-- The ASCII blanks. -/
def asciiSpaces : CharSet := ⟨[(9, 13), (32, 32)]⟩

/-- The ASCII letters, digits and the underscore. -/
def asciiWordCharacters : CharSet := ⟨[(48, 57), (65, 90), (95, 95), (97, 122)]⟩

/-- A class with a one-letter escape. -/
def letterClass (unicode : Bool) : LetterClass → CharSet
  | .digit => if unicode then digits else asciiDigits
  | .space => if unicode then CharSet.whiteSpace else asciiSpaces
  | .word => if unicode then wordCharacters else asciiWordCharacters

/-- An ASCII class by its name. -/
def asciiClass (name : String) : CharSet :=
  match name with
  | "alnum" => ⟨[(48, 57), (65, 90), (97, 122)]⟩
  | "alpha" => ⟨[(65, 90), (97, 122)]⟩
  | "ascii" => CharSet.ascii
  | "blank" => ⟨[(9, 9), (32, 32)]⟩
  | "cntrl" => ⟨[(0, 31), (127, 127)]⟩
  | "digit" => asciiDigits
  | "graph" => ⟨[(33, 126)]⟩
  | "lower" => ⟨[(97, 122)]⟩
  | "print" => ⟨[(32, 126)]⟩
  | "punct" => ⟨[(33, 47), (58, 64), (91, 96), (123, 126)]⟩
  | "space" => asciiSpaces
  | "upper" => ⟨[(65, 90)]⟩
  | "word" => asciiWordCharacters
  | "xdigit" => ⟨[(48, 57), (65, 70), (97, 102)]⟩
  | _ => CharSet.empty

/-- A name in lower case without blanks, hyphens, underscores, a leading `is` and characters that
are not ASCII. -/
def normalizeName (name : String) : String :=
  let characters := name.toList
  let lowered := characters.map Char.toLower
  let (prefixed, counted) := match lowered with
    | 'i' :: 's' :: rest => (true, rest)
    | _ => (false, lowered)
  let kept := counted.filter fun character =>
    character.toNat < 128 && character != ' ' && character != '_' && character != '-'
  if prefixed && kept == ['c'] then "isc" else String.ofList kept

/-- A general category or one of the classes that are named beside them. -/
def generalCategory? (name : String) : Option CharSet :=
  match name with
  | "any" => some CharSet.all
  | "assigned" => some (CharSet.ofCategories ["Cn"]).complement
  | "ascii" => some CharSet.ascii
  | _ => CharSet.category? name

/-- A class that is asked for by one name: a property, a general category or a script. The names
of three categories are also short names of properties and mean the categories. -/
def namedClass? (name : String) : Option CharSet :=
  let asProperty := if name = "cf" ∨ name = "sc" ∨ name = "lc" then none
    else CharSet.property? name
  asProperty.orElse fun _ => (generalCategory? name).orElse fun _ => CharSet.script? name

/-- The class of a property with several values. Some properties have classes for patterns, the
others have none. -/
def valuedClass? (property value : String) : Option CharSet :=
  match property with
  | "gc" | "generalcategory" => generalCategory? value
  | "sc" | "script" => CharSet.script? value
  | "scx" | "scriptextensions" => CharSet.scriptExtension? value
  | "age" => CharSet.age? value
  | "gcb" | "graphemeclusterbreak" => CharSet.graphemeBreak? value
  | "wb" | "wordbreak" => CharSet.wordBreak? value
  | "sb" | "sentencebreak" => CharSet.sentenceBreak? value
  | _ => none

/-- The class that a query names. A query for what differs names the class to be negated. -/
def UnicodeQuery.class? : UnicodeQuery → Option CharSet
  | .named name => namedClass? (normalizeName name)
  | .valued _ name value => valuedClass? (normalizeName name) (normalizeName value)

/-- Whether a query asks for what is not in the class it names. -/
def UnicodeQuery.differs : UnicodeQuery → Bool
  | .named _ => false
  | .valued differs _ _ => differs

end Rulebook.Pattern
