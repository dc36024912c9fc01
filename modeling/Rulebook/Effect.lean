/-
This file holds steps with effects. A step may change a world and ends in a result or in an error;
what it changed before an error stays changed. Providers of properties and actions are written in
steps, so what a run does to the world can be said and compared.
-/

namespace Rulebook

/-- A step on a world `World` that ends in a result or in an error. -/
abbrev Effect (World Error Result : Type) := ExceptT Error (StateM World) Result

namespace Effect

variable {World Error Result : Type}

/-- Runs a step: how it ends, and the world after it. -/
def perform (step : Effect World Error Result) (world : World) : Except Error Result × World :=
  (ExceptT.run step).run world

/-- A step that changes the world and succeeds. -/
def change (update : World → World) : Effect World Error Unit := modify update

/-- A step that cannot fail. -/
def outcome (step : Effect World Error Result) : StateM World (Except Error Result) :=
  ExceptT.run step

end Effect

end Rulebook
