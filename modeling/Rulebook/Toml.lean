/-
This file reads TOML texts into settings: tables in brackets, lists of tables in double brackets,
keys with points, and values, which are texts, words, lists, and tables in braces. A key or table
that is given twice is an error, and so are values that are nested too deep.
-/
import Rulebook.Toml.Word
import Rulebook.Toml.Table

namespace Rulebook.Toml

/-! ### Values -/

mutual

/-- A value at the front, with so many levels of lists and tables in braces. -/
def readValue : Nat → Nat → List Char → Option (Setting × List Char)
  | 0, _, _ => none
  | fuel + 1, levels, characters =>
    match characters, levels with
    | '"' :: _, _ => (readText? characters).map fun (text, rest) => (.text text, rest)
    | '\'' :: _, _ => (readText? characters).map fun (text, rest) => (.text text, rest)
    | '[' :: rest, levels + 1 =>
      (readItems fuel levels rest).map fun (items, rest) => (.list items, rest)
    | '{' :: rest, levels + 1 =>
      match skipLines rest.length rest with
      | '}' :: rest => some (.table [], rest)
      | rest => (readPairs fuel levels [] rest).map fun (entries, rest) =>
        (.table (settings entries), rest)
    | _, _ => readWord characters

/-- The items of a list up to its closing bracket. -/
def readItems : Nat → Nat → List Char → Option (List Setting × List Char)
  | 0, _, _ => none
  | fuel + 1, levels, characters =>
    match skipLines characters.length characters with
    | ']' :: rest => some ([], rest)
    | characters => do
      let (item, rest) ← readValue fuel levels characters
      match skipLines rest.length rest with
      | ']' :: rest => some ([item], rest)
      | ',' :: rest =>
        let (items, rest) ← readItems fuel levels rest
        some (item :: items, rest)
      | _ => none

/-- The entries of a table in braces up to its closing brace, added to those read before. Ends of
lines and comments may stand between the parts, and a comma before the brace. -/
def readPairs : Nat → Nat → Entries → List Char → Option (Entries × List Char)
  | 0, _, _, _ => none
  | fuel + 1, levels, entries, characters => do
    let (key, rest) ← readKey characters
    match skipLines rest.length rest with
    | '=' :: rest =>
      let (value, rest) ← readValue fuel levels (skipLines rest.length rest)
      let entries ← insertAt value key entries
      match skipLines rest.length rest with
      | '}' :: rest => some (entries, rest)
      | ',' :: rest =>
        match skipLines rest.length rest with
        | '}' :: rest => some (entries, rest)
        | rest => readPairs fuel levels entries rest
      | _ => none
    | _ => none

end

/-! ### Documents -/

/-- What a line does: it opens a table, adds a table to a list, or sets a key. -/
inductive Statement where
  | openTable (path : List String)
  | openItem (path : List String)
  | assign (key : List String) (value : Setting)

/-- A statement at the front, up to the end of its line. -/
def readStatement (characters : List Char) : Option (Statement × List Char) := do
  match characters with
  | '[' :: '[' :: rest =>
    let (path, rest) ← readKey rest
    match rest with
    | ']' :: ']' :: rest => some (.openItem path, ← endOfLine? rest)
    | _ => none
  | '[' :: rest =>
    let (path, rest) ← readKey rest
    match rest with
    | ']' :: rest => some (.openTable path, ← endOfLine? rest)
    | _ => none
  | _ =>
    let (key, rest) ← readKey characters
    match rest with
    | '=' :: rest =>
      let (value, rest) ← readValue (rest.length + 1) maxDepth (skipBlanks rest)
      some (.assign key value, ← endOfLine? rest)
    | _ => none

/-- The entries of a document after the rest of its lines. `path` names the table that is open. -/
def readStatements : Nat → List String → Entries → List Char → Option Entries
  | 0, _, _, _ => none
  | fuel + 1, path, entries, characters =>
    match skipLines (characters.length + 1) characters with
    | [] => some entries
    | characters => do
      let (statement, rest) ← readStatement characters
      match statement with
      | .openTable path => readStatements fuel path (← openTable path entries) rest
      | .openItem path => readStatements fuel path (← openItem path entries) rest
      | .assign key value =>
        readStatements fuel path (← inside (insertAt value key) path entries) rest

/-- A text without the mark of its byte order. -/
def withoutMark : List Char → List Char
  | '\uFEFF' :: rest => rest
  | characters => characters

/-- The table that a text writes. -/
def ofText? (text : String) : Option Setting :=
  let characters := withoutMark text.toList
  (readStatements (characters.length + 1) [] [] characters).map fun entries =>
    .table (settings entries)

end Rulebook.Toml
