/-
This file holds providers: what the names of properties and actions in a rule set stand for. For
every trigger a provider makes an instance from the arguments of the event; the instance of the
variables answers properties, the instance of the actions runs actions and may read properties.
-/
import Rulebook.Effect
import Rulebook.Event

namespace Rulebook

/-- What goes wrong inside a provider. -/
inductive ProviderError where
  | unknownMethod (name : String)
  | invalidEvent (reason : String)
  | failed (reason : String)
  deriving DecidableEq

/-- The text of a provider's error. -/
def ProviderError.message : ProviderError → String
  | .unknownMethod name => s!"未知方法: {name}"
  | .invalidEvent reason => s!"事件参数无效: {reason}"
  | .failed reason => reason

/-- A property that a provider offers. -/
structure PropertyDescriptor where
  name : String
  /-- The operators that may be used with it; none if all may. -/
  operators : Option (List String) := none
  deriving DecidableEq

/-- Whether an operator may be used with a property. -/
def PropertyDescriptor.allows (property : PropertyDescriptor) (operator : String) : Bool :=
  match property.operators with
  | none => true
  | some operators => operators.contains operator

/-- Variables for one event. -/
structure VariablesInstance (World : Type) where
  get : String → Kwargs → Effect World ProviderError Value

/-- Actions for one event. -/
structure ActionsInstance (World : Type) where
  run : String → VariablesInstance World → Kwargs → Effect World ProviderError Unit

/-- A kind of variables: the properties it offers, and how an instance is made. -/
structure VariablesProvider (World : Type) where
  properties : List PropertyDescriptor
  construct : EventArgs → Effect World ProviderError (VariablesInstance World)

/-- A kind of actions: the actions it offers, and how an instance is made. -/
structure ActionsProvider (World : Type) where
  actions : List String
  construct : EventArgs → Effect World ProviderError (ActionsInstance World)

end Rulebook
