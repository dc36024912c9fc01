/-
This file makes providers from tables of methods. A table says how the state of an instance is
made from the arguments of an event, and holds one function on that state for every method name. A
name that is entered again replaces the earlier function.
-/
import Rulebook.Provider

namespace Rulebook

/-- A property in a table: the operators it allows, and how it is read. -/
structure Accessor (World State : Type) where
  operators : Option (List String)
  read : State → Kwargs → Effect World ProviderError Value

/-- A table of properties. -/
structure VariablesTable (World State : Type) where
  build : EventArgs → Effect World ProviderError State
  accessors : Fields (Accessor World State) := []

namespace VariablesTable

variable {World State : Type}

/-- The table with a property that allows all operators. -/
def accessor (table : VariablesTable World State) (name : String)
    (read : State → Kwargs → Effect World ProviderError Value) : VariablesTable World State :=
  { table with accessors := table.accessors.insert name ⟨none, read⟩ }

/-- The table with a property that allows only some operators. -/
def restrictedAccessor (table : VariablesTable World State) (name : String)
    (operators : List String) (read : State → Kwargs → Effect World ProviderError Value) :
    VariablesTable World State :=
  { table with accessors := table.accessors.insert name ⟨some operators, read⟩ }

/-- The instance of a state. -/
def instanceOf (table : VariablesTable World State) (state : State) :
    VariablesInstance World where
  get property kwargs :=
    match table.accessors.find? property with
    | some accessor => accessor.read state kwargs
    | none => throw (.unknownMethod property)

/-- The provider that a table describes. -/
def toProvider (table : VariablesTable World State) : VariablesProvider World where
  properties := table.accessors.map fun (name, accessor) => ⟨name, accessor.operators⟩
  construct args := do return table.instanceOf (← table.build args)

end VariablesTable

/-- How an action of a table runs. -/
abbrev ActionBody (World State : Type) :=
  State → VariablesInstance World → Kwargs → Effect World ProviderError Unit

/-- A table of actions. -/
structure ActionsTable (World State : Type) where
  build : EventArgs → Effect World ProviderError State
  bodies : Fields (ActionBody World State) := []

namespace ActionsTable

variable {World State : Type}

/-- The table with an action. -/
def action (table : ActionsTable World State) (name : String) (body : ActionBody World State) :
    ActionsTable World State :=
  { table with bodies := table.bodies.insert name body }

/-- The instance of a state. -/
def instanceOf (table : ActionsTable World State) (state : State) : ActionsInstance World where
  run action vars kwargs :=
    match table.bodies.find? action with
    | some body => body state vars kwargs
    | none => throw (.unknownMethod action)

/-- The provider that a table describes. -/
def toProvider (table : ActionsTable World State) : ActionsProvider World where
  actions := table.bodies.names
  construct args := do return table.instanceOf (← table.build args)

end ActionsTable

end Rulebook
