/-
This file holds the comparison operators of conditions. The left side of a comparison is what a
property returned, the right side is the text a condition stores, and each operator converts as
its own rule says. Operators are found by identifier in a registry; an alias finds the operator of
another identifier, which keeps its own canonical one.
-/
import Rulebook.Value
import Rulebook.Pattern
import Rulebook.RuleError

namespace Rulebook

/-- Two values that cannot be compared: what was expected, and the kind of what was found. -/
structure Mismatch where
  expected : String
  actual : String
  deriving DecidableEq

/-- A mismatch on account of a value. -/
def Mismatch.of (expected : String) (value : Value) : Mismatch := ⟨expected, value.typeName⟩

/-- A comparison operator with its canonical identifier. -/
structure Operator where
  id : String
  holds : Value → Value → Except Mismatch Bool

namespace Operator

/-! ### Comparing -/

/-- The order of two values; none if a NaN takes part. A number is compared with what the right
side is as a number. A text is compared with a text by the order of characters, and with a number
as the number it spells. -/
def order? : Value → Value → Except Mismatch (Option Ordering)
  | .number left, right =>
    match right.asNumber? with
    | some right => .ok (left.compare? right)
    | none => .error (.of "number" right)
  | .text left, .text right => .ok (some (compare left right))
  | .text left, .number right =>
    match (Value.text left).asNumber? with
    | some left => .ok (left.compare? right)
    | none => .error (.of "number" (.text left))
  | .text _, right => .error (.of "string or number" right)
  | left, _ => .error (.of "number or string" left)

/-- Equality after the right side is converted to the kind of the left side. Numbers are compared
exactly. -/
def looselyEqual : Value → Value → Bool
  | .null, right => right.isNull
  | _, .null => false
  | .number left, right =>
    match right.asNumber? with
    | some right => left.same right
    | none => false
  | .bool left, right => right.asBool? == some left
  | .text left, right => left == right.toText
  | left, right => left.same right

/-- The left side as a text. -/
def textOf (value : Value) : Except Mismatch String :=
  match value with
  | .text characters => .ok characters
  | _ => .error (.of "string" value)

/-- Whether one list of characters is a part of another. -/
def isPart (part : List Char) : List Char → Bool
  | [] => part.isEmpty
  | character :: rest => part.isPrefixOf (character :: rest) || isPart part rest

/-- A text contains the texts that are part of it, a list contains what is loosely equal to one of
its items. -/
def containing (left right : Value) : Except Mismatch Bool :=
  match left with
  | .text characters => .ok (isPart right.toText.toList characters.toList)
  | .list items => .ok (items.any fun item => looselyEqual item right)
  | _ => .error (.of "string or list" left)

/-- A text matches the pattern that the right side spells. -/
def matching (left right : Value) : Except Mismatch Bool := do
  let text ← textOf left
  match Pattern.ofText? right.toText with
  | .ok pattern => .ok (pattern.isMatch text)
  | .error _ => .error (.of "valid regex pattern" right)

/-- An operator that asks for the order of its sides. -/
def ordering (id : String) (wanted : Ordering → Bool) : Operator where
  id
  holds left right := do
    match ← order? left right with
    | some order => return wanted order
    | none => return false

/-- An operator that asks something of two texts; the left side must be one. -/
def onTexts (id : String) (holds : List Char → List Char → Bool) : Operator where
  id
  holds left right := do return holds (← textOf left).toList right.toText.toList

/-! ### The operators -/

/-- The canonical identifier of the operator on patterns. -/
def matchesId : String := "matches"

/-- Whether an identifier is that of the operator on patterns. -/
def isPatternId (id : String) : Bool := id == matchesId

/-- The operators that are registered by default. -/
def defaults : List Operator := [
  ordering "lt" (· == .lt),
  ordering "le" (· != .gt),
  ordering "ge" (· != .lt),
  ordering "gt" (· == .gt),
  ⟨"eq", fun left right => .ok (looselyEqual left right)⟩,
  ⟨"ne", fun left right => .ok (!looselyEqual left right)⟩,
  ⟨"not", fun left _ => .ok (!left.isTruthy)⟩,
  ⟨"truth", fun left _ => .ok left.isTruthy⟩,
  ⟨"is", fun left right => .ok (left.same right)⟩,
  ⟨"isNot", fun left right => .ok (!left.same right)⟩,
  onTexts "startsWith" fun left right => right.isPrefixOf left,
  onTexts "endsWith" fun left right => right.isSuffixOf left,
  ⟨"contains", containing⟩,
  ⟨matchesId, matching⟩]

/-- The identifiers offered to authors when a property does not say which operators it allows. -/
def offered : List String :=
  ["lt", "le", "eq", "ne", "ge", "gt", "not", "truth", "is", "isNot", "startsWith", "endsWith"]

/-- The dotted identifiers of older rules, each with the identifier it stands for. -/
def legacyAliases : List (String × String) := [
  ("operator.lt", "lt"), ("operator.le", "le"), ("operator.eq", "eq"), ("operator.ne", "ne"),
  ("operator.ge", "ge"), ("operator.gt", "gt"), ("operator.not_", "not"),
  ("operator.truth", "truth"), ("operator.is_", "is"), ("operator.is_not", "isNot"),
  ("str.startswith", "startsWith"), ("str.endswith", "endsWith")]

/-- The operator on one pattern. It does not look at its right side. -/
def ofPattern (text : String) : Except PatternFault Operator := do
  let pattern ← Pattern.ofText? text
  return ⟨matchesId, fun left _ => do return pattern.isMatch (← textOf left)⟩

/-- How an operator is shown to programmers. -/
def describe (operator : Operator) : String :=
  "ComparisonOperator \x7b id: " ++ Text.quoted operator.id ++ " \x7d"

end Operator

/-- Operators by identifier. -/
structure OperatorRegistry where
  entries : Fields Operator := []

namespace OperatorRegistry

/-- No operators. -/
def empty : OperatorRegistry := {}

/-- The operator of an identifier. -/
def find? (registry : OperatorRegistry) (id : String) : Option Operator :=
  registry.entries.find? id

/-- Whether an identifier is registered. -/
def contains (registry : OperatorRegistry) (id : String) : Bool := registry.entries.contains id

/-- The registered identifiers, in order. -/
def ids (registry : OperatorRegistry) : List String := registry.entries.names

/-- The registry with an operator under its canonical identifier; an older one is replaced. -/
def register (registry : OperatorRegistry) (operator : Operator) : OperatorRegistry :=
  ⟨registry.entries.insert operator.id operator⟩

/-- The registry in which a further identifier finds the operator of `target`. Nothing changes if
`target` is not registered. -/
def addAlias (registry : OperatorRegistry) (id target : String) : OperatorRegistry :=
  match registry.find? target with
  | some operator => ⟨registry.entries.insert id operator⟩
  | none => registry

/-- The operator of an identifier, or the fault that there is none. -/
def resolve (registry : OperatorRegistry) (id : String) : Except RuleError Operator :=
  match registry.find? id with
  | some operator => .ok operator
  | none => .error (.located (.unknownOperator id) {})

/-- The registry of the default operators and the dotted identifiers. -/
def defaults : OperatorRegistry :=
  Operator.legacyAliases.foldl (fun registry entry => registry.addAlias entry.1 entry.2)
    (Operator.defaults.foldl register empty)

end OperatorRegistry

end Rulebook
