/-
This file says that reading at a path can be cut at any of its points: one reads at the part before
the point, and then at the part behind it inside what was found. Something is found in both ways or
in neither, and it is the same. This holds whatever the parts are: an empty text leads to the entry
with the empty name, and a part that spells a position leads into a list or to an entry of that
name, depending on what it meets.

The properties of sales transitions are read in this way. The description of the transition is cut
out of the event when the variables are made, and every property is read inside it.
-/
import Rulebook.Proofs.Transition

namespace Rulebook

/-- Something is at a path that is cut at a point if something is at the first part and, inside of
it, this is at the second part. -/
theorem EventArgs.field?_joined_eq_some_iff {args : EventArgs} {first second : String}
    {found : Json} :
    args.field? (first ++ "." ++ second) = some found ↔
      ∃ inner, args.field? first = some inner ∧ EventArgs.field? ⟨inner⟩ second = some found := by
  rw [field?_joined, Option.bind_eq_some_iff]

namespace Sales

variable {args transition : EventArgs} {World : Type}

theorem transition?_of_field? {fields : Fields Json}
    (described : args.field? "instance" = some (.map fields)) :
    transition? args = some ⟨.map fields⟩ :=
  transition?_eq_some_iff.mpr ⟨fields, field?_instance_eq_some_iff.mp described, rfl⟩

/-- What is read in the description is read in the event, below the name of the description. -/
theorem readAt_performs (described : transition? args = some transition) (path : String)
    (kwargs : Kwargs) (world : World) :
    (readAt path transition kwargs).perform world =
      (.ok (args.value ("instance." ++ path)), world) := by
  rw [← value_transition described]
  rfl

/-- Instances of the variables read an event below the name of the description: at any path, and so
all properties that are offered. -/
def ReadsInside (args transition : EventArgs) (World : Type) : Prop :=
  (variablesTable : VariablesTable World EventArgs).toProvider.construct args =
      pure (variablesTable.instanceOf transition) ∧
    (∀ path kwargs (world : World), (readAt path transition kwargs).perform world =
      (.ok (args.value ("instance." ++ path)), world)) ∧
    ∀ property descriptor,
      (variablesTable : VariablesTable World EventArgs).toProvider.property? property =
          some descriptor →
        ∃ path, path? property = some path ∧ ∀ kwargs (world : World),
          ((variablesTable.instanceOf transition).get property kwargs).perform world =
            (.ok (args.value ("instance." ++ path)), world)

theorem readsInside (described : transition? args = some transition) :
    ReadsInside args transition World := by
  refine ⟨construct_of_described described, readAt_performs described, fun property _ offered => ?_⟩
  obtain ⟨path, atPath⟩ := exists_path offered
  exact ⟨path, atPath, get_performs_of_path described atPath⟩

end Sales

/-- Paths compose: what is at two paths in a row is at the path that joins them, and nothing else
is. So the properties of a sales transition, which are read inside its description, are read off the
event at the paths below the name of the description. -/
theorem EventArgs.paths_compose (args : EventArgs) :
    (∀ (first second : String) (found : Json),
      args.field? (first ++ "." ++ second) = some found ↔
        ∃ inner, args.field? first = some inner ∧
          EventArgs.field? ⟨inner⟩ second = some found) ∧
    ∀ fields, args.field? "instance" = some (.map fields) →
      ∀ World, Sales.ReadsInside args ⟨.map fields⟩ World :=
  ⟨fun _ _ _ => field?_joined_eq_some_iff,
    fun _ described _ => Sales.readsInside (Sales.transition?_of_field? described)⟩

/-- An event with a transition of the spot 7 and, under the empty name, a list of a text and an
object whose entry is named like a position. -/
def EventArgs.oddlyNamed : EventArgs :=
  ⟨.map [("instance", .map [
    ("", .list [.text "a", .map [("01", .text "b")]]),
    ("spot", .map [("id", .integer 7)])])]⟩

theorem EventArgs.paths_compose_oddlyNamed :
    EventArgs.oddlyNamed.field? "instance..+1.01" = some (.text "b") ∧
    ∃ transition, Sales.transition? oddlyNamed = some transition ∧
      ∀ kwargs, ((Sales.variablesTable.instanceOf transition : VariablesInstance Unit).get
          "get_spot_id" kwargs).perform () =
        (.ok (.number (.ofInt 7)), ()) := by
  obtain ⟨compose, inside⟩ := paths_compose oddlyNamed
  refine ⟨(compose "instance." "+1.01" (.text "b")).mpr ⟨_, rfl, rfl⟩, ?_⟩
  obtain ⟨-, -, properties⟩ := inside _ rfl Unit
  obtain ⟨path, atPath, read⟩ := properties "get_spot_id" ⟨"get_spot_id", some ["eq", "ne"]⟩ rfl
  obtain rfl := Option.some.inj atPath
  exact ⟨_, Sales.transition?_of_field? rfl, fun kwargs => read kwargs ()⟩

end Rulebook
