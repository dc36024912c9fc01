/-
This file holds the registry of providers, in which rule sets look up the providers they name, and
the choices it offers to those who write rules.
-/
import Rulebook.Provider.Table
import Rulebook.Operator

namespace Rulebook

/-- Providers by name. -/
structure ProviderRegistry (World : Type) where
  variablesByName : Fields (VariablesProvider World) := []
  actionsByName : Fields (ActionsProvider World) := []

namespace ProviderRegistry

variable {World : Type}

/-- The registry with variables under a name; earlier ones are replaced. -/
def registerVariables (registry : ProviderRegistry World) (name : String)
    (provider : VariablesProvider World) : ProviderRegistry World :=
  { registry with variablesByName := registry.variablesByName.insert name provider }

/-- The registry with actions under a name; earlier ones are replaced. -/
def registerActions (registry : ProviderRegistry World) (name : String)
    (provider : ActionsProvider World) : ProviderRegistry World :=
  { registry with actionsByName := registry.actionsByName.insert name provider }

/-- The names of the variables, in order. -/
def variablesNames (registry : ProviderRegistry World) : List String :=
  registry.variablesByName.names

/-- The names of the actions, in order. -/
def actionsNames (registry : ProviderRegistry World) : List String := registry.actionsByName.names

/-- The properties that may be chosen from some variables. -/
def propertyChoices (registry : ProviderRegistry World) (provider : String) : List String :=
  match registry.variablesByName.find? provider with
  | some found => found.properties.map (·.name)
  | none => []

/-- The operators that a property declares. -/
def declaredOperators? (registry : ProviderRegistry World) (provider property : String) :
    Option (List String) := do
  let found ← registry.variablesByName.find? provider
  let descriptor ← found.properties.find? (·.name == property)
  descriptor.operators

/-- The operators that may be chosen for a property: those it declares, else the ones offered by
default. -/
def operatorChoices (registry : ProviderRegistry World) (provider property : String) :
    List String :=
  (registry.declaredOperators? provider property).getD Operator.offered

/-- The actions that may be chosen. -/
def actionChoices (registry : ProviderRegistry World) (provider : String) : List String :=
  match registry.actionsByName.find? provider with
  | some found => found.actions
  | none => []

end ProviderRegistry

end Rulebook
