/-
This file says that a JSON text means the same value in two ways. The keyword arguments of a rule
set are read as values at once; the arguments of an event are read as JSON and parts of them are
turned into values later. Turning into values keeps the names of all entries, so it does not matter
whether entries of one name are dropped before or after it.

A value is read by trying alternatives, of which each takes documents of one shape. So the order in
which they are tried does not matter, and one may look at the shape of a document first.

JSON has no NaN, and a value without a NaN is the same as itself. So what is written twice is the
same value, in whichever of the two ways it is read.
-/
import Mathlib.Data.List.Induction
import Rulebook.RuleSet.Definition
import Rulebook.Proofs.Fields
import Rulebook.Proofs.Written

namespace Rulebook

/-! ### Entries that are turned into others -/

namespace Fields

variable {First Second : Type} (convert : First → Second)

/-- The entries with their names, each turned into another. -/
def mapValues (fields : Fields First) : Fields Second :=
  fields.map fun entry => (entry.1, convert entry.2)

theorem mapValues_insert (fields : Fields First) (name : String) (entry : First) :
    mapValues convert (fields.insert name entry) =
      (mapValues convert fields).insert name (convert entry) := by
  induction fields with
  | nil => rfl
  | cons head rest inductionHypothesis =>
    show mapValues convert (insert (head :: rest) name entry) =
      insert ((head.1, convert head.2) :: mapValues convert rest) name (convert entry)
    unfold insert
    split
    · rfl
    · split
      · rfl
      · exact congrArg _ inductionHypothesis

theorem mapValues_ofList (entries : List (String × First)) :
    mapValues convert (ofList entries) = ofList (mapValues convert entries) := by
  unfold ofList
  induction entries using List.reverseRecOn with
  | nil => rfl
  | append_singleton earlier entry inductionHypothesis =>
    rw [List.foldl_append, List.foldl_cons, List.foldl_nil, mapValues_insert, inductionHypothesis,
      mapValues, mapValues, List.map_append, List.foldl_append]
    rfl

end Fields

namespace Value

/-! ### Reading by shape -/

mutual

/-- The value of a document by its shape. -/
def ofShape? (room : Nat) : Document → Option Value
  | .null => some .null
  | .bool value => some (.bool value)
  | .number numeral => numeral.map ofNumeral
  | .text characters => characters.map .text
  | .list items =>
    match room with
    | 0 => none
    | room + 1 => (ofItems? room items).map .list
  | .object entries =>
    match room with
    | 0 => none
    | room + 1 => (ofEntries? room entries).map fun entries => .map (Fields.ofList entries)

/-- The values of the items of a list. -/
def ofItems? (room : Nat) : List Document → Option (List Value)
  | [] => some []
  | item :: rest => do
    let value ← ofShape? room item
    let values ← ofItems? room rest
    some (value :: values)

/-- The names and values of the entries of an object. -/
def ofEntries? (room : Nat) : List (Option String × Document) → Option (List (String × Value))
  | [] => some []
  | (name, item) :: rest => do
    let name ← name
    let value ← ofShape? room item
    let entries ← ofEntries? room rest
    some ((name, value) :: entries)

end

theorem ofDocument?_list (room : Nat) (items : List Document) :
    ofDocument? (room + 1) (.list items) = (items.mapM (ofDocument? room)).map .list := by
  cases read : items.mapM (ofDocument? room) <;> simp [ofDocument?, alternatives, read]

theorem ofDocument?_object (room : Nat) (entries : List (Option String × Document)) :
    ofDocument? (room + 1) (.object entries) =
      (entries.mapM (entryOf? (ofDocument? room))).map fun named => .map (Fields.ofList named) := by
  cases read : entries.mapM (entryOf? (ofDocument? room)) <;>
    simp [ofDocument?, alternatives, read]

mutual

/-- Trying the alternatives in their order is reading by shape, because each shape is taken by one
of them only. -/
theorem ofDocument?_eq_ofShape? : ∀ (room : Nat) (document : Document),
    ofDocument? room document = ofShape? room document
  | 0, .null | _ + 1, .null | 0, .bool _ | _ + 1, .bool _ => rfl
  | 0, .number numeral | _ + 1, .number numeral => by cases numeral <;> rfl
  | 0, .text characters | _ + 1, .text characters => by cases characters <;> rfl
  | 0, .list _ | 0, .object _ => rfl
  | room + 1, .list items => by
    rw [ofDocument?_list, mapM_ofDocument? room items]
    rfl
  | room + 1, .object entries => by
    rw [ofDocument?_object, mapM_entryOf? room entries]
    rfl

theorem mapM_ofDocument? : ∀ (room : Nat) (items : List Document),
    items.mapM (ofDocument? room) = ofItems? room items
  | _, [] => rfl
  | room, item :: rest => by
    rw [List.mapM_cons, ofDocument?_eq_ofShape? room item, mapM_ofDocument? room rest]
    rfl

theorem mapM_entryOf? : ∀ (room : Nat) (entries : List (Option String × Document)),
    entries.mapM (entryOf? (ofDocument? room)) = ofEntries? room entries
  | _, [] => rfl
  | room, (name, item) :: rest => by
    rw [List.mapM_cons, mapM_entryOf? room rest, entryOf?, ofDocument?_eq_ofShape? room item]
    cases name with
    | none => rfl
    | some name => cases read : ofShape? room item <;> simp [ofEntries?, read]

end

/-! ### Two ways to a value -/

theorem ofJsonItems_eq_map (items : List Json) : ofJsonItems items = items.map ofJson := by
  induction items with
  | nil => rfl
  | cons item rest inductionHypothesis =>
    rw [ofJsonItems, List.map_cons, inductionHypothesis]

theorem ofJsonFields_eq_mapValues (fields : Fields Json) :
    ofJsonFields fields = Fields.mapValues ofJson fields := by
  induction fields with
  | nil => rfl
  | cons head rest inductionHypothesis =>
    rw [ofJsonFields, inductionHypothesis]
    rfl

theorem ofJson_ofNumeral (numeral : Numeral) :
    ofJson (Json.ofNumeral numeral) = ofNumeral numeral := by
  cases numeral <;> rfl

mutual

theorem ofShape?_eq : ∀ (room : Nat) (document : Document),
    ofShape? room document = (Json.ofDocument? room document).map ofJson
  | _, .null => rfl
  | _, .bool _ => rfl
  | _, .number numeral => by
    unfold ofShape? Json.ofDocument?
    rw [Option.map_map]
    exact congrArg (Option.map · numeral) (funext fun numeral => (ofJson_ofNumeral numeral).symm)
  | _, .text characters => by
    unfold ofShape? Json.ofDocument?
    rw [Option.map_map]
    rfl
  | 0, .list _ => rfl
  | room + 1, .list items => by
    unfold ofShape? Json.ofDocument?
    dsimp only
    rw [ofItems?_eq room items, Option.map_map, Option.map_map]
    exact congrArg (Option.map · _) (funext fun items => congrArg _ (ofJsonItems_eq_map items).symm)
  | 0, .object _ => rfl
  | room + 1, .object entries => by
    unfold ofShape? Json.ofDocument?
    dsimp only
    rw [ofEntries?_eq room entries, Option.map_map, Option.map_map]
    refine congrArg (Option.map · _) (funext fun entries => congrArg Value.map ?_)
    rw [ofJsonFields_eq_mapValues]
    exact (Fields.mapValues_ofList ofJson entries).symm

theorem ofItems?_eq : ∀ (room : Nat) (items : List Document),
    ofItems? room items = (Json.ofItems? room items).map (List.map ofJson)
  | _, [] => rfl
  | room, item :: rest => by
    unfold ofItems? Json.ofItems?
    rw [ofShape?_eq room item, ofItems?_eq room rest]
    cases Json.ofDocument? room item with
    | none => rfl
    | some value => cases Json.ofItems? room rest <;> rfl

theorem ofEntries?_eq : ∀ (room : Nat) (entries : List (Option String × Document)),
    ofEntries? room entries = (Json.ofEntries? room entries).map (Fields.mapValues ofJson)
  | _, [] => rfl
  | room, (name, item) :: rest => by
    unfold ofEntries? Json.ofEntries?
    rw [ofShape?_eq room item, ofEntries?_eq room rest]
    cases name with
    | none => rfl
    | some name =>
      cases Json.ofDocument? room item with
      | none => rfl
      | some value => cases Json.ofEntries? room rest <;> rfl

end

/-- A document is read as a value by reading it as JSON. -/
theorem ofDocument?_eq (room : Nat) (document : Document) :
    ofDocument? room document = (Json.ofDocument? room document).map ofJson :=
  (ofDocument?_eq_ofShape? room document).trans (ofShape?_eq room document)

end Value

/-- Keyword arguments are the values of an object. -/
theorem Document.asKwargs?_eq_some_iff {room : Nat} {document : Document} {kwargs : Kwargs} :
    document.asKwargs? room = some kwargs ↔
      ∃ fields, Json.ofDocument? room document = some (.map fields) ∧
        kwargs = Fields.mapValues Value.ofJson fields := by
  unfold asKwargs?
  rw [Value.ofDocument?_eq]
  constructor
  · intro read
    split at read
    · next fields found =>
      obtain rfl := Option.some.inj read
      obtain ⟨json, isJson, same⟩ := Option.map_eq_some_iff.mp found
      cases json with
      | map entries =>
        refine ⟨entries, isJson, ?_⟩
        rw [← Value.ofJsonFields_eq_mapValues]
        exact (Value.map.inj same).symm
      | _ => exact nomatch same
    · exact nomatch read
  · rintro ⟨fields, isJson, rfl⟩
    rw [isJson, ← Value.ofJsonFields_eq_mapValues]
    rfl

/-! ### Values without a NaN -/

namespace Number

theorem ofTicks_ne_nan (negative : Bool) (numerator denominator : Nat) :
    ofTicks negative numerator denominator ≠ .nan := by
  unfold ofTicks
  split <;> exact nofun

theorem ofInt_ne_nan (value : Int) : ofInt value ≠ .nan := ofTicks_ne_nan _ _ _

/-- Every number but a NaN is the same as itself. -/
theorem same_self {value : Number} (number : value ≠ .nan) : value.same value = true := by
  cases value with
  | nan => exact absurd rfl number
  | infinite negative => cases negative <;> rfl
  | finite negative ticks representable => simp [same, compare?]

end Number

namespace Value

mutual

/-- The value of JSON without a NaN is the same as itself. -/
theorem same_ofJson : ∀ json : Json, json.EveryReal (· ≠ .nan) →
    same (ofJson json) (ofJson json) = true
  | .null, _ => rfl
  | .bool _, _ => beq_self_eq_true _
  | .integer value, _ => Number.same_self (Number.ofInt_ne_nan value)
  | .real _, isNumber => Number.same_self isNumber
  | .text _, _ => beq_self_eq_true _
  | .list items, numbers => sameItems_ofJsonItems items numbers
  | .map fields, numbers => sameFields_ofJsonFields fields numbers

/-- So are items. -/
theorem sameItems_ofJsonItems : ∀ items : List Json, Json.EveryItemReal (· ≠ .nan) items →
    sameItems (ofJsonItems items) (ofJsonItems items) = true
  | [], _ => rfl
  | item :: rest, numbers => by
    unfold ofJsonItems sameItems
    rw [same_ofJson item numbers.1, sameItems_ofJsonItems rest numbers.2]
    rfl

/-- So are fields. -/
theorem sameFields_ofJsonFields : ∀ fields : List (String × Json),
    Json.EveryFieldReal (· ≠ .nan) fields →
      sameFields (ofJsonFields fields) (ofJsonFields fields) = true
  | [], _ => rfl
  | (name, value) :: rest, numbers => by
    unfold ofJsonFields sameFields
    rw [beq_self_eq_true, same_ofJson value numbers.1, sameFields_ofJsonFields rest numbers.2]
    rfl

end

end Value

end Rulebook
