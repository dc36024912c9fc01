/-
This file says what becomes of a value that is written as JSON and read again. JSON has no number
for what is not finite, so null is written in its place; all else comes back as it was, whatever a
text spells and whichever names the entries of a map have. The reader knows a value by the shape of
its text alone, so the proof follows the value, and for its numbers it is a premise that their texts
come back.

Lists and objects are read down to a fixed depth. How deep they nest in a value is said by recursion
on the value, and at every level the room that the reader has left is compared with it. So a value
is read back if it fits, and nothing is read if it does not.
-/
import Rulebook.Proofs.Conversion

namespace Rulebook

/-! ### Entries in order -/

namespace Fields

variable {α : Type}

/-- A name behind all others is added at the end. -/
theorem insert_of_above {fields : Fields α} {name : String}
    (above : ∀ pair ∈ fields, pair.1 < name) (entry : α) :
    fields.insert name entry = fields ++ [(name, entry)] := by
  induction fields with
  | nil => rfl
  | cons head rest inductionHypothesis =>
    obtain ⟨first, value⟩ := head
    have before : first < name := above (first, value) List.mem_cons_self
    have notAfter : ¬ name < first := String.lt_asymm before
    have different : name ≠ first := fun same => String.lt_irrefl _ (same ▸ before)
    unfold insert
    rw [if_neg notAfter, if_neg different,
      inductionHypothesis fun pair member => above pair (List.mem_cons_of_mem _ member)]
    rfl

/-- Entries that are in order stay as they are. -/
theorem ofList_of_sorted {fields : Fields α} (sorted : fields.Sorted) : ofList fields = fields := by
  induction fields using List.reverseRecOn with
  | nil => rfl
  | append_singleton earlier entry inductionHypothesis =>
    obtain ⟨earlierSorted, -, below⟩ := List.pairwise_append.mp sorted
    have above : ∀ pair ∈ earlier, pair.1 < entry.1 := fun pair member =>
      below pair member entry (List.mem_singleton_self entry)
    have built : ofList (earlier ++ [entry]) = (ofList earlier).insert entry.1 entry.2 := by
      unfold ofList
      rw [List.foldl_append]
      rfl
    rw [built, inductionHypothesis earlierSorted, insert_of_above above]

end Fields

/-! ### Depth -/

namespace Json

mutual

/-- How deep lists and objects nest in a value. -/
def depth : Json → Nat
  | .list items => itemsDepth items + 1
  | .map fields => fieldsDepth fields + 1
  | .null | .bool _ | .integer _ | .real _ | .text _ => 0

/-- How deep they nest in the items of a list. -/
def itemsDepth : List Json → Nat
  | [] => 0
  | item :: rest => max item.depth (itemsDepth rest)

/-- How deep they nest in the fields of an object. -/
def fieldsDepth : List (String × Json) → Nat
  | [] => 0
  | (_, value) :: rest => max value.depth (fieldsDepth rest)

end

theorem itemsDepth_le_iff {items : List Json} {room : Nat} :
    itemsDepth items ≤ room ↔ ∀ item ∈ items, item.depth ≤ room := by
  induction items with
  | nil => exact iff_of_true (Nat.zero_le room) nofun
  | cons item rest inductionHypothesis =>
    rw [itemsDepth, Nat.max_le, List.forall_mem_cons, inductionHypothesis]

theorem fieldsDepth_le_iff {fields : List (String × Json)} {room : Nat} :
    fieldsDepth fields ≤ room ↔ ∀ field ∈ fields, field.2.depth ≤ room := by
  induction fields with
  | nil => exact iff_of_true (Nat.zero_le room) nofun
  | cons field rest inductionHypothesis =>
    rw [fieldsDepth, Nat.max_le, List.forall_mem_cons, inductionHypothesis]

end Json

/-! ### Numbers in values -/

namespace Value

mutual

/-- All numbers in a value have a property. -/
def EveryNumber (holds : Number → Prop) : Value → Prop
  | .number value => holds value
  | .list items => EveryItemNumber holds items
  | .map fields => EveryFieldNumber holds fields
  | .null | .bool _ | .text _ => True

/-- All numbers in some items have a property. -/
def EveryItemNumber (holds : Number → Prop) : List Value → Prop
  | [] => True
  | item :: rest => item.EveryNumber holds ∧ EveryItemNumber holds rest

/-- All numbers in some entries have a property. -/
def EveryFieldNumber (holds : Number → Prop) : List (String × Value) → Prop
  | [] => True
  | (_, value) :: rest => value.EveryNumber holds ∧ EveryFieldNumber holds rest

end

mutual

/-- The value with null in place of every number that is not finite. -/
def withoutNonFinite : Value → Value
  | .number value => if value.isFinite then .number value else .null
  | .list items => .list (itemsWithoutNonFinite items)
  | .map fields => .map (fieldsWithoutNonFinite fields)
  | .null => .null
  | .bool value => .bool value
  | .text characters => .text characters

/-- The items with null in place of such numbers. -/
def itemsWithoutNonFinite : List Value → List Value
  | [] => []
  | item :: rest => item.withoutNonFinite :: itemsWithoutNonFinite rest

/-- The entries with null in place of such numbers. -/
def fieldsWithoutNonFinite : List (String × Value) → List (String × Value)
  | [] => []
  | (name, value) :: rest => (name, value.withoutNonFinite) :: fieldsWithoutNonFinite rest

end

mutual

/-- A value whose numbers are all finite stays as it is. -/
theorem withoutNonFinite_eq_self : ∀ value : Value,
    value.EveryNumber (fun number => number.isFinite = true) → value.withoutNonFinite = value
  | .null, _ | .bool _, _ | .text _, _ => rfl
  | .number _, finite => if_pos finite
  | .list items, finite => congrArg Value.list (itemsWithoutNonFinite_eq_self items finite)
  | .map fields, finite => congrArg Value.map (fieldsWithoutNonFinite_eq_self fields finite)

/-- So do items. -/
theorem itemsWithoutNonFinite_eq_self : ∀ items : List Value,
    EveryItemNumber (fun number => number.isFinite = true) items →
      itemsWithoutNonFinite items = items
  | [], _ => rfl
  | item :: rest, finite => by
    rw [itemsWithoutNonFinite, withoutNonFinite_eq_self item finite.1,
      itemsWithoutNonFinite_eq_self rest finite.2]

/-- So do entries. -/
theorem fieldsWithoutNonFinite_eq_self : ∀ fields : List (String × Value),
    EveryFieldNumber (fun number => number.isFinite = true) fields →
      fieldsWithoutNonFinite fields = fields
  | [], _ => rfl
  | (name, value) :: rest, finite => by
    rw [fieldsWithoutNonFinite, withoutNonFinite_eq_self value finite.1,
      fieldsWithoutNonFinite_eq_self rest finite.2]

end

theorem fieldsWithoutNonFinite_eq_mapValues (fields : List (String × Value)) :
    fieldsWithoutNonFinite fields = Fields.mapValues withoutNonFinite fields := by
  induction fields with
  | nil => rfl
  | cons field rest inductionHypothesis =>
    rw [fieldsWithoutNonFinite, inductionHypothesis]
    rfl

mutual

/-- What holds of all numbers of a value holds of all that are written for it. -/
theorem everyReal_toJson {holds : Number → Prop} : ∀ value : Value, value.EveryNumber holds →
    value.toJson.EveryReal holds
  | .null, _ | .bool _, _ | .text _, _ => trivial
  | .number value, every => by
    unfold toJson
    split
    · exact every
    · trivial
  | .list items, every => everyItemReal_toJsonItems items every
  | .map fields, every => everyFieldReal_toJsonFields fields every

/-- So it does for items. -/
theorem everyItemReal_toJsonItems {holds : Number → Prop} : ∀ items : List Value,
    EveryItemNumber holds items → Json.EveryItemReal holds (toJsonItems items)
  | [], _ => trivial
  | item :: rest, every =>
    ⟨everyReal_toJson item every.1, everyItemReal_toJsonItems rest every.2⟩

/-- So it does for entries. -/
theorem everyFieldReal_toJsonFields {holds : Number → Prop} : ∀ fields : List (String × Value),
    EveryFieldNumber holds fields → Json.EveryFieldReal holds (toJsonFields fields)
  | [], _ => trivial
  | (_, value) :: rest, every =>
    ⟨everyReal_toJson value every.1, everyFieldReal_toJsonFields rest every.2⟩

end

/-! ### Reading what was written -/

mutual

theorem ofShape?_toJson : ∀ (value : Value), value.Ordered → ∀ room : Nat,
    ofShape? room value.toJson.document =
      if value.toJson.depth ≤ room then some value.withoutNonFinite else none
  | .null, _, room | .bool _, _, room | .text _, _, room => (if_pos (Nat.zero_le room)).symm
  | .number value, _, room => by
    by_cases finite : value.isFinite = true
    · simp [toJson, withoutNonFinite, Json.document, Json.depth, ofShape?, ofNumeral, finite]
    · simp [toJson, withoutNonFinite, Json.document, Json.depth, ofShape?, finite]
  | .list items, _, 0 => rfl
  | .list items, ordered, room + 1 => by
    show (ofItems? room (Json.itemDocuments (toJsonItems items))).map Value.list = _
    rw [ofItems?_toJsonItems items ordered room]
    simp only [toJson, Json.depth, withoutNonFinite, Nat.add_le_add_iff_right]
    split <;> rfl
  | .map fields, _, 0 => rfl
  | .map fields, ordered, room + 1 => by
    show (ofEntries? room (Json.fieldDocuments (toJsonFields fields))).map _ = _
    rw [ofEntries?_toJsonFields fields ordered.2 room]
    have sorted : Fields.Sorted (fieldsWithoutNonFinite fields) := by
      rw [fieldsWithoutNonFinite_eq_mapValues]
      exact List.pairwise_map.mpr ordered.1
    simp only [toJson, Json.depth, withoutNonFinite, Nat.add_le_add_iff_right]
    split
    · rw [Option.map_some, Fields.ofList_of_sorted sorted]
    · rfl

theorem ofItems?_toJsonItems : ∀ (items : List Value), OrderedItems items → ∀ room : Nat,
    ofItems? room (Json.itemDocuments (toJsonItems items)) =
      if Json.itemsDepth (toJsonItems items) ≤ room then some (itemsWithoutNonFinite items)
      else none
  | [], _, room => (if_pos (Nat.zero_le room)).symm
  | item :: rest, ordered, room => by
    unfold toJsonItems Json.itemDocuments Json.itemsDepth ofItems? itemsWithoutNonFinite
    rw [ofShape?_toJson item ordered.1 room, ofItems?_toJsonItems rest ordered.2 room]
    simp only [Nat.max_le]
    by_cases first : item.toJson.depth ≤ room
    · by_cases others : Json.itemsDepth (toJsonItems rest) ≤ room
      · simp [first, others]
      · simp [first, others]
    · simp [first]

theorem ofEntries?_toJsonFields : ∀ (fields : List (String × Value)), OrderedFields fields →
    ∀ room : Nat, ofEntries? room (Json.fieldDocuments (toJsonFields fields)) =
      if Json.fieldsDepth (toJsonFields fields) ≤ room then some (fieldsWithoutNonFinite fields)
      else none
  | [], _, room => (if_pos (Nat.zero_le room)).symm
  | (name, value) :: rest, ordered, room => by
    unfold toJsonFields Json.fieldDocuments Json.fieldsDepth ofEntries? fieldsWithoutNonFinite
    rw [ofShape?_toJson value ordered.1 room, ofEntries?_toJsonFields rest ordered.2 room]
    simp only [Nat.max_le]
    by_cases first : value.toJson.depth ≤ room
    · by_cases others : Json.fieldsDepth (toJsonFields rest) ≤ room
      · simp [first, others]
      · simp [first, others]
    · simp [first]

end

/-- What is written for a value is read as the value without its numbers that are not finite, if
the value nests no deeper than there is room, and is not read otherwise. -/
theorem ofDocument?_toJson (value : Value) (ordered : value.Ordered) (room : Nat) :
    ofDocument? room value.toJson.document =
      if value.toJson.depth ≤ room then some value.withoutNonFinite else none :=
  (ofDocument?_eq_ofShape? room _).trans (value.ofShape?_toJson ordered room)

/-- A value that is written as JSON and read again is the same value with null in place of every
number that is not finite. If lists and objects nest too deep in it, its text is refused. -/
theorem ofText?_written (value : Value) (ordered : value.Ordered)
    (legible : value.EveryNumber Json.Legible) :
    ofText? value.render =
      if value.toJson.depth ≤ Json.nestingLimit then some value.withoutNonFinite else none := by
  unfold ofText? render
  rw [value.toJson.ofText?_render (value.everyReal_toJson legible)]
  exact value.ofDocument?_toJson ordered Json.nestingLimit

/-! ### A map with odd names -/

/-- The number -1.5. -/
def minusOneAndAHalf : Number := Number.ofDecimal true 15 (-1)

theorem legible_minusOneAndAHalf : Json.Legible minusOneAndAHalf := by
  intro _ rest ends
  have text : (Json.numberText minusOneAndAHalf).toList = ['-', '1', '.', '5'] := by
    decide +kernel
  refine ⟨⟨true, ['1'], ['5'], none⟩, ?_, by decide +kernel⟩
  rw [text]
  cases rest with
  | nil => rfl
  | cons mark rest => rcases ends with rfl | rfl | rfl <;> rfl

/-- A map with an empty name and one of a quote, a point and a newline, a text that spells null,
numbers that are not finite, and an empty list and map. -/
def oddMap : Value := .map [
  ("", .text "null"),
  ("\".\n", .list [.number .nan, .number minusOneAndAHalf, .number (.infinite true), .list [],
    .map []])]

theorem ofText?_written_oddMap :
    ofText? oddMap.render = some (.map [
      ("", .text "null"),
      ("\".\n", .list [.null, .number minusOneAndAHalf, .null, .list [], .map []])]) := by
  have ordered : oddMap.Ordered := by
    refine ⟨?_, trivial,
      ⟨trivial, trivial, trivial, trivial, ⟨Fields.sorted_nil, trivial⟩, trivial⟩, trivial⟩
    show List.Pairwise _ _
    decide
  have legible : oddMap.EveryNumber Json.Legible :=
    ⟨trivial, ⟨nofun, legible_minusOneAndAHalf, nofun, trivial, trivial, trivial⟩, trivial⟩
  have finite : minusOneAndAHalf.isFinite = true := by decide +kernel
  have notNumber : Number.nan.isFinite = false := rfl
  have infinite : (Number.infinite true).isFinite = false := rfl
  rw [ofText?_written oddMap ordered legible, if_pos (by decide +kernel)]
  simp [oddMap, withoutNonFinite, itemsWithoutNonFinite, fieldsWithoutNonFinite, finite, notNumber,
    infinite]

end Value

end Rulebook
