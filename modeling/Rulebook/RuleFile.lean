/-
This file loads files of rule sets. A file is a JSON list of rule sets, or an object that has such
a list under the name `rule_sets`. The rule sets are compiled one by one; those that are refused
are left out and reported, and the others make a new table. A file that cannot be read as a list
of rule sets changes nothing.
-/
import Rulebook.Compiler
import Rulebook.Dispatch

namespace Rulebook

/-! ### Reading -/

namespace RuleFile

/-- The list of rule sets in a document: the document itself, or what it has under the name
`rule_sets`. -/
def list? : Document → Option Document
  | .list items => some (.list items)
  | .object entries =>
    (Document.wantedEntries? ["rule_sets"] entries).bind (List.lookup "rule_sets")
  | _ => none

/-- The rule sets of a document. Every part of the document must have a value, also the parts that
rule sets do not look at. -/
def ofDocument? (absent : Absent) (document : Document) : Option (List RuleSet) := do
  let _ ← Json.ofDocument? Json.nestingLimit document
  (← list? document).asList? Json.nestingLimit fun room index =>
    RuleSet.ofDocument? absent [index] room

/-- The rule sets of a text. -/
def ofText? (absent : Absent) (text : String) : Option (List RuleSet) :=
  (Document.ofText? text).bind (ofDocument? absent)

end RuleFile

/-! ### Compiling -/

variable {World : Type}

/-- What became of the rule sets of a file. -/
structure LoadReport (World : Type) where
  table : DispatchTable World
  /-- How many rule sets were accepted, the ones that are not enabled included. -/
  compiled : Nat
  /-- The names of the refused rule sets, each with its error. -/
  rejected : List (String × RuleError)

/-- Compiles rule sets in order. Gives the accepted ones and the refused ones, each in order, and
the compiler after it. -/
def Compiler.compileEach (compiler : Compiler World) :
    List RuleSet → (List (CompiledRuleSet World) × List (String × RuleError)) × Compiler World
  | [] => (([], []), compiler)
  | ruleSet :: rest =>
    match compiler.compile ruleSet with
    | (.ok compiled, compiler) =>
      let ((accepted, rejected), compiler) := compiler.compileEach rest
      ((compiled :: accepted, rejected), compiler)
    | (.error error, compiler) =>
      let ((accepted, rejected), compiler) := compiler.compileEach rest
      ((accepted, (ruleSet.name, error) :: rejected), compiler)

/-- Compiles rule sets and makes the table of those that are accepted and enabled. -/
def Compiler.compileAll (compiler : Compiler World) (ruleSets : List RuleSet) :
    LoadReport World × Compiler World :=
  let ((accepted, rejected), compiler) := compiler.compileEach ruleSets
  (⟨DispatchTable.build accepted, accepted.length, rejected⟩, compiler)

end Rulebook
