/-
This file says that paths compose. A path that is cut at any of its points leads where its second
part leads from where its first part led, so reading inside a part of an event is reading the event
itself at a longer path. Nothing is asked of the parts: they may be empty, name positions of lists,
or lead nowhere.
-/
import Rulebook.Event

namespace Rulebook

/-- Even the empty text has a part. -/
theorem pathParts_ne_nil (path : List Char) : pathParts path ≠ [] := by
  fun_cases pathParts path <;> exact List.cons_ne_nil _ _

/-- A point separates the parts before it from those after it. -/
theorem pathParts_append (first second : List Char) :
    pathParts (first ++ '.' :: second) = pathParts first ++ pathParts second := by
  fun_induction pathParts first with
  | case1 => rfl
  | case2 rest inductionHypothesis => exact congrArg (List.cons []) inductionHypothesis
  | case3 character rest noPoint none inductionHypothesis => exact absurd none (pathParts_ne_nil rest)
  | case4 character rest noPoint part parts found inductionHypothesis =>
    rw [List.cons_append, pathParts, inductionHypothesis, found]
    · rfl
    · exact noPoint

namespace Json

/-- Going down some parts and then others is going down all of them. -/
theorem descend?_append (value : Json) (first second : List (List Char)) :
    value.descend? (first ++ second) = (value.descend? first).bind (·.descend? second) := by
  induction first generalizing value with
  | nil => rfl
  | cons part parts inductionHypothesis =>
    rw [List.cons_append, descend?, descend?, Option.bind_assoc]
    exact congrArg (Option.bind _) (funext inductionHypothesis)

end Json

namespace EventArgs

/-- What is at a path is at its second part inside what is at its first part. -/
theorem field?_joined (args : EventArgs) (first second : String) :
    args.field? (first ++ "." ++ second) =
      (args.field? first).bind fun found => EventArgs.field? ⟨found⟩ second := by
  have characters : (first ++ "." ++ second).toList = first.toList ++ '.' :: second.toList := by
    simp
  unfold field?
  rw [characters, pathParts_append, Json.descend?_append]

theorem value_joined {args : EventArgs} {first : String} {found : Json}
    (inside : args.field? first = some found) (second : String) :
    args.value (first ++ "." ++ second) = EventArgs.value ⟨found⟩ second := by
  unfold value
  rw [field?_joined, inside, Option.bind_some]

end EventArgs

end Rulebook
