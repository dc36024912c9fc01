/-
This file reads JSON texts as they are written. A document keeps every entry of an object in the
order of the text, repeated names included, and it keeps what is well written but has no value: a
number too large for a double, and a text with half of a surrogate pair. Such parts are refused
only where they are used, so a part that nobody asks for may hold them.
-/
import Rulebook.Json.Numeral

namespace Rulebook

/-- A JSON text as it is written. -/
inductive Document where
  | null
  | bool (value : Bool)
  /-- A number; none if it is too large for a double. -/
  | number (numeral : Option Numeral)
  /-- A text; none if it holds half of a surrogate pair. -/
  | text (characters : Option String)
  | list (items : List Document)
  | object (entries : List (Option String × Document))

namespace Document

/-! ### Blanks and numbers -/

/-- The blanks allowed between the parts of a JSON text. -/
def isSpace (character : Char) : Bool :=
  character == ' ' || character == '\n' || character == '\t' || character == '\r'

/-- What follows the blanks at the front. -/
def skipSpace (characters : List Char) : List Char := characters.dropWhile isSpace

/-- Digits at the front, at least one. -/
def readDigits (characters : List Char) : Option (List Char × List Char) :=
  match spanDigits characters with
  | ([], _) => none
  | digits => some digits

/-- The fraction at the front, if a point stands there. -/
def readFraction : List Char → Option (List Char × List Char)
  | '.' :: rest => readDigits rest
  | characters => some ([], characters)

/-- The exponent at the front, if its mark stands there. -/
def readExponent : List Char → Option (Option (Bool × List Char) × List Char)
  | [] => some (none, [])
  | mark :: rest =>
    if mark = 'e' ∨ mark = 'E' then do
      let (negative, unsigned) := splitSign rest
      let (digits, rest) ← readDigits unsigned
      some (some (negative, digits), rest)
    else some (none, mark :: rest)

/-- The minus sign at the front, if there is one. -/
def readMinus : List Char → Bool × List Char
  | '-' :: rest => (true, rest)
  | characters => (false, characters)

/-- A number at the front. Its whole part has no leading zero. -/
def readNumber (characters : List Char) : Option (WrittenNumber × List Char) := do
  let (negative, unsigned) := readMinus characters
  let (whole, afterWhole) ← readDigits unsigned
  if whole.head? == some '0' && whole.length != 1 then none
  else
    let (fraction, afterFraction) ← readFraction afterWhole
    let (exponent, rest) ← readExponent afterFraction
    some (⟨negative, whole, fraction, exponent⟩, rest)

/-! ### Texts -/

/-- A piece of a text: a character, or a UTF-16 code unit written with four hexadecimal digits. -/
inductive Piece where
  | character (character : Char)
  | unit (code : Nat)
  deriving DecidableEq

/-- The value of a hexadecimal digit. -/
def hexDigit? (character : Char) : Option Nat :=
  if '0' ≤ character ∧ character ≤ '9' then some (character.toNat - '0'.toNat)
  else if 'a' ≤ character ∧ character ≤ 'f' then some (character.toNat - 'a'.toNat + 10)
  else if 'A' ≤ character ∧ character ≤ 'F' then some (character.toNat - 'A'.toNat + 10)
  else none

/-- The value of hexadecimal digits. -/
def hexValue? (digits : List Char) : Option Nat :=
  digits.foldlM (fun value digit => (hexDigit? digit).map (16 * value + ·)) 0

/-- The character that a backslash and a letter stand for. -/
def escaped? : Char → Option Char
  | '"' => some '"'
  | '\\' => some '\\'
  | '/' => some '/'
  | 'b' => some '\x08'
  | 'f' => some '\x0c'
  | 'n' => some '\n'
  | 'r' => some '\r'
  | 't' => some '\t'
  | _ => none

/-- The pieces up to the closing quote. Control characters must be escaped. -/
def readPieces (done : List Piece) : List Char → Option (List Piece × List Char)
  | [] => none
  | '"' :: rest => some (done.reverse, rest)
  | '\\' :: 'u' :: first :: second :: third :: fourth :: rest =>
    match hexValue? [first, second, third, fourth] with
    | some code => readPieces (.unit code :: done) rest
    | none => none
  | '\\' :: letter :: rest =>
    match escaped? letter with
    | some character => readPieces (.character character :: done) rest
    | none => none
  | character :: rest =>
    if character.toNat < 32 then none else readPieces (.character character :: done) rest

/-- A leading half of a surrogate pair. -/
def isLeading (code : Nat) : Bool := decide (0xD800 ≤ code ∧ code ≤ 0xDBFF)

/-- A trailing half of a surrogate pair. -/
def isTrailing (code : Nat) : Bool := decide (0xDC00 ≤ code ∧ code ≤ 0xDFFF)

/-- The character of a surrogate pair. -/
def pairCharacter (leading trailing : Nat) : Char :=
  Char.ofNat (0x10000 + (leading - 0xD800) * 0x400 + (trailing - 0xDC00))

/-- The characters that pieces spell; none if a half of a surrogate pair stands alone. -/
def joinPieces (done : List Char) : List Piece → Option (List Char)
  | [] => some done.reverse
  | .character character :: rest => joinPieces (character :: done) rest
  | .unit leading :: .unit trailing :: rest =>
    if isLeading leading then
      if isTrailing trailing then joinPieces (pairCharacter leading trailing :: done) rest
      else none
    else if isTrailing leading then none
    else joinPieces (Char.ofNat leading :: done) (.unit trailing :: rest)
  | .unit code :: rest =>
    if isLeading code || isTrailing code then none
    else joinPieces (Char.ofNat code :: done) rest

/-- A text behind its opening quote. -/
def readText (characters : List Char) : Option (Option String × List Char) :=
  (readPieces [] characters).map fun (pieces, rest) =>
    ((joinPieces [] pieces).map String.ofList, rest)

/-! ### Values -/

mutual

/-- A value at the front, blanks before it skipped. -/
def readValue : Nat → List Char → Option (Document × List Char)
  | 0, _ => none
  | fuel + 1, characters =>
    match skipSpace characters with
    | 'n' :: 'u' :: 'l' :: 'l' :: rest => some (.null, rest)
    | 't' :: 'r' :: 'u' :: 'e' :: rest => some (.bool true, rest)
    | 'f' :: 'a' :: 'l' :: 's' :: 'e' :: rest => some (.bool false, rest)
    | '"' :: rest => (readText rest).map fun (characters, rest) => (.text characters, rest)
    | '[' :: rest =>
      match skipSpace rest with
      | ']' :: rest => some (.list [], rest)
      | rest => (readItems fuel rest).map fun (items, rest) => (.list items, rest)
    | '{' :: rest =>
      match skipSpace rest with
      | '}' :: rest => some (.object [], rest)
      | rest => (readEntries fuel rest).map fun (entries, rest) => (.object entries, rest)
    | rest => (readNumber rest).map fun (written, rest) => (.number written.numeral?, rest)

/-- The items of a list up to its closing bracket, at least one. -/
def readItems : Nat → List Char → Option (List Document × List Char)
  | 0, _ => none
  | fuel + 1, characters =>
    match readValue fuel characters with
    | none => none
    | some (item, rest) =>
      match skipSpace rest with
      | ']' :: rest => some ([item], rest)
      | ',' :: rest => (readItems fuel rest).map fun (items, rest) => (item :: items, rest)
      | _ => none

/-- The entries of an object up to its closing brace, at least one. -/
def readEntries : Nat → List Char → Option (List (Option String × Document) × List Char)
  | 0, _ => none
  | fuel + 1, characters =>
    match skipSpace characters with
    | '"' :: rest =>
      match readText rest with
      | none => none
      | some (name, rest) =>
        match skipSpace rest with
        | ':' :: rest =>
          match readValue fuel rest with
          | none => none
          | some (value, rest) =>
            match skipSpace rest with
            | '}' :: rest => some ([(name, value)], rest)
            | ',' :: rest =>
              (readEntries fuel rest).map fun (entries, rest) => ((name, value) :: entries, rest)
            | _ => none
        | _ => none
    | _ => none

end

/-- The document that a list of characters writes; nothing but blanks may follow it. Every nested
call passes a character or follows one that did, so twice the length is enough fuel. -/
def ofChars? (characters : List Char) : Option Document :=
  match readValue (2 * characters.length + 2) characters with
  | some (document, rest) => if (skipSpace rest).isEmpty then some document else none
  | none => none

/-- The document that a text writes. -/
def ofText? (text : String) : Option Document := ofChars? text.toList

end Document

end Rulebook
