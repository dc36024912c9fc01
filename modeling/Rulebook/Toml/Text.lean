/-
This file reads the smallest parts of TOML texts: blanks, ends of lines and comments between the
other parts, texts in quotes of all four kinds, and keys with points.
-/
import Rulebook.Setting.Path
import Rulebook.Json.Document

namespace Rulebook.Toml

/-! ### Blanks and comments -/

/-- What follows blanks and tabs. -/
def skipBlanks (characters : List Char) : List Char :=
  characters.dropWhile fun character => character == ' ' || character == '\t'

/-- Control characters that may not stand in comments and texts. -/
def isControl (character : Char) : Bool :=
  (character.toNat < 32 && character != '\t') || character.toNat == 127

/-- What follows the end of a line; a comment may stand before it. -/
def endOfLine? (characters : List Char) : Option (List Char) :=
  let rest := match skipBlanks characters with
    | '#' :: comment => comment.dropWhile fun character => !isControl character
    | rest => rest
  match rest with
  | [] => some []
  | '\n' :: rest => some rest
  | '\r' :: '\n' :: rest => some rest
  | _ => none

/-- What follows blanks, ends of lines and comments. -/
def skipLines : Nat → List Char → List Char
  | 0, characters => characters
  | fuel + 1, characters =>
    let rest := skipBlanks characters
    match rest with
    | [] => []
    | _ :: _ =>
      match endOfLine? rest with
      | some rest => skipLines fuel rest
      | none => rest

/-! ### Texts -/

/-- The character of a code written in hexadecimal digits. -/
def codeCharacter? (digits : List Char) : Option Char :=
  (Document.hexValue? digits).bind fun code =>
    if code.isValidChar then some (Char.ofNat code) else none

/-- The character of an escape behind its backslash, and what follows. -/
def readEscape : List Char → Option (Char × List Char)
  | 'b' :: rest => some ('\x08', rest)
  | 't' :: rest => some ('\t', rest)
  | 'n' :: rest => some ('\n', rest)
  | 'f' :: rest => some ('\x0c', rest)
  | 'r' :: rest => some ('\r', rest)
  | 'e' :: rest => some ('\x1b', rest)
  | '"' :: rest => some ('"', rest)
  | '\\' :: rest => some ('\\', rest)
  | mark :: rest =>
    let count := if mark = 'x' then 2 else if mark = 'u' then 4 else if mark = 'U' then 8 else 0
    let digits := rest.take count
    if count = 0 ∨ digits.length ≠ count then none
    else (codeCharacter? digits).map fun character => (character, rest.drop count)
  | [] => none

/-- A text of one line behind its opening quote. -/
def readShortText (quote : Char) : Nat → List Char → List Char → Option (String × List Char)
  | 0, _, _ => none
  | _, _, [] => none
  | fuel + 1, done, character :: rest =>
    if character = quote then some (String.ofList done.reverse, rest)
    else if character = '\\' ∧ quote = '"' then
      (readEscape rest).bind fun (character, rest) =>
        readShortText quote fuel (character :: done) rest
    else if isControl character then none
    else readShortText quote fuel (character :: done) rest

/-- Quotes at the front: how many there are. -/
def countQuotes (quote : Char) (characters : List Char) : Nat :=
  (characters.takeWhile (· == quote)).length

/-- What follows blanks and ends of lines, without comments. -/
def skipSpace : List Char → List Char
  | '\r' :: '\n' :: rest => skipSpace rest
  | character :: rest =>
    if character == ' ' || character == '\t' || character == '\n' then skipSpace rest
    else character :: rest
  | [] => []

/-- What follows a backslash at the end of a line, with the blanks up to the next character. -/
def continuation? (characters : List Char) : Option (List Char) :=
  match skipBlanks characters with
  | '\n' :: rest => some (skipSpace rest)
  | '\r' :: '\n' :: rest => some (skipSpace rest)
  | _ => none

/-- A text of many lines behind its opening quotes. Up to two quotes may stand before the closing
ones. -/
def readLongText (quote : Char) : Nat → List Char → List Char → Option (String × List Char)
  | 0, _, _ => none
  | _, _, [] => none
  | fuel + 1, done, character :: rest =>
    if character = quote then
      let quotes := countQuotes quote (character :: rest)
      if quotes < 3 then readLongText quote fuel (quote :: done) rest
      else if quotes ≤ 5 then
        some (String.ofList ((List.replicate (quotes - 3) quote ++ done).reverse),
          rest.drop (quotes - 1))
      else none
    else if character = '\\' ∧ quote = '"' then
      match continuation? rest with
      | some rest => readLongText quote fuel done rest
      | none =>
        (readEscape rest).bind fun (character, rest) =>
          readLongText quote fuel (character :: done) rest
    else if character = '\n' then readLongText quote fuel ('\n' :: done) rest
    else if character = '\r' then
      match rest with
      | '\n' :: rest => readLongText quote fuel ('\n' :: '\r' :: done) rest
      | _ => none
    else if isControl character then none
    else readLongText quote fuel (character :: done) rest

/-- The end of a line right behind the opening quotes does not belong to the text. -/
def dropFirstLineEnd : List Char → List Char
  | '\n' :: rest => rest
  | '\r' :: '\n' :: rest => rest
  | characters => characters

/-- A text at its opening quote. -/
def readText? (characters : List Char) : Option (String × List Char) :=
  match characters with
  | '"' :: '"' :: '"' :: rest => readLongText '"' (rest.length + 1) [] (dropFirstLineEnd rest)
  | '\'' :: '\'' :: '\'' :: rest => readLongText '\'' (rest.length + 1) [] (dropFirstLineEnd rest)
  | '"' :: rest => readShortText '"' (rest.length + 1) [] rest
  | '\'' :: rest => readShortText '\'' (rest.length + 1) [] rest
  | _ => none

/-! ### Keys -/

/-- One part of a key: bare, or a text of one line. -/
def readKeyPart (characters : List Char) : Option (String × List Char) :=
  match characters with
  | '"' :: rest => readShortText '"' (rest.length + 1) [] rest
  | '\'' :: rest => readShortText '\'' (rest.length + 1) [] rest
  | _ =>
    match characters.takeWhile Setting.isNameCharacter with
    | [] => none
    | name => some (String.ofList name, characters.dropWhile Setting.isNameCharacter)

/-- Parts of a key with points between them. -/
def readKeyParts : Nat → List Char → Option (List String × List Char)
  | 0, _ => none
  | fuel + 1, characters => do
    let (part, rest) ← readKeyPart (skipBlanks characters)
    match skipBlanks rest with
    | '.' :: rest =>
      let (parts, rest) ← readKeyParts fuel rest
      some (part :: parts, rest)
    | rest => some ([part], rest)

/-- How deep values may be nested, and how many parts a key may have. -/
def maxDepth : Nat := 80

/-- A key: its parts, which must not be too many. -/
def readKey (characters : List Char) : Option (List String × List Char) :=
  (readKeyParts (characters.length + 1) characters).filter fun (parts, _) =>
    parts.length ≤ maxDepth

end Rulebook.Toml
