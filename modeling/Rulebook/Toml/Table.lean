/-
This file holds TOML documents while they are read. Each table knows how it came about, which says
who may add to it: a table that has been named in brackets or written in braces is finished, one
that is only a part of another name may still be named, and one that keys with points have made is
open to such keys alone.
-/
import Rulebook.Setting

namespace Rulebook.Toml

/-- How a table came about, which says who may add to it. -/
inductive Origin where
  /-- As a part of the name of another table. -/
  | implied
  /-- By its own name in brackets. -/
  | named
  /-- As a part of a key with points. -/
  | dotted
  deriving DecidableEq

/-- A part of a document while it is read. -/
inductive Node where
  | setting (value : Setting)
  | table (origin : Origin) (entries : List (String × Node))
  /-- A list of tables: the finished ones and the one that is open. -/
  | tables (finished : List Setting) (entries : List (String × Node))

/-- The entries of a table. -/
abbrev Entries := List (String × Node)

mutual

/-- The setting of a part. -/
def Node.toSetting : Node → Setting
  | .setting value => value
  | .table _ entries => .table (settings entries)
  | .tables finished entries => .list (finished ++ [.table (settings entries)])

/-- The settings of entries. -/
def settings : List (String × Node) → List (String × Setting)
  | [] => []
  | (name, node) :: rest => (name, node.toSetting) :: settings rest

end

/-- Entries with one replaced, or added at the end. -/
def assign (entries : Entries) (name : String) (node : Node) : Entries :=
  match entries with
  | [] => [(name, node)]
  | (head, old) :: rest =>
    if head = name then (name, node) :: rest else (head, old) :: assign rest name node

/-! ### Adding -/

/-- The entries with a setting under a key; none if something is there already. The tables that
a key with points goes through are made by it. Such a key may also go on through tables that are
only parts of names, and through the open table of a list, but it may not add to them. -/
def insertAt (value : Setting) : List String → Entries → Option Entries
  | [], _ => none
  | [name], entries =>
    match entries.lookup name with
    | none => some (assign entries name (.setting value))
    | some _ => none
  | name :: rest, entries =>
    let goesOn := rest.length != 1
    match entries.lookup name with
    | none => (insertAt value rest []).map fun inner => assign entries name (.table .dotted inner)
    | some (.table origin inner) =>
      if origin = .dotted ∨ (origin = .implied ∧ goesOn) then
        (insertAt value rest inner).map fun inner => assign entries name (.table origin inner)
      else none
    | some (.tables finished inner) =>
      if goesOn then
        (insertAt value rest inner).map fun inner => assign entries name (.tables finished inner)
      else none
    | some (.setting _) => none

/-- The entries with a table opened by its name in brackets. -/
def openTable : List String → Entries → Option Entries
  | [], _ => none
  | [name], entries =>
    match entries.lookup name with
    | none => some (assign entries name (.table .named []))
    | some (.table .implied inner) => some (assign entries name (.table .named inner))
    | some _ => none
  | name :: rest, entries =>
    match entries.lookup name with
    | none => (openTable rest []).map fun inner => assign entries name (.table .implied inner)
    | some (.table origin inner) =>
      (openTable rest inner).map fun inner => assign entries name (.table origin inner)
    | some (.tables finished inner) =>
      (openTable rest inner).map fun inner => assign entries name (.tables finished inner)
    | some (.setting _) => none

/-- The entries with a table added to a list of tables. -/
def openItem : List String → Entries → Option Entries
  | [], _ => none
  | [name], entries =>
    match entries.lookup name with
    | none => some (assign entries name (.tables [] []))
    | some (.tables finished inner) =>
      some (assign entries name (.tables (finished ++ [.table (settings inner)]) []))
    | some _ => none
  | name :: rest, entries =>
    match entries.lookup name with
    | none => (openItem rest []).map fun inner => assign entries name (.table .implied inner)
    | some (.table origin inner) =>
      (openItem rest inner).map fun inner => assign entries name (.table origin inner)
    | some (.tables finished inner) =>
      (openItem rest inner).map fun inner => assign entries name (.tables finished inner)
    | some (.setting _) => none

/-- The entries with a change inside the table at a path. -/
def inside (change : Entries → Option Entries) : List String → Entries → Option Entries
  | [], entries => change entries
  | name :: rest, entries =>
    match entries.lookup name with
    | some (.table origin inner) =>
      (inside change rest inner).map fun inner => assign entries name (.table origin inner)
    | some (.tables finished inner) =>
      (inside change rest inner).map fun inner => assign entries name (.tables finished inner)
    | _ => none

end Rulebook.Toml
