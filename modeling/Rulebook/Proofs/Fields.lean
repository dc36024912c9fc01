/-
This file says what is found in entries by name. Inserting an entry changes what its name finds and
nothing else, so in entries made from a list every name finds the last entry of the list that bears
it.
-/
import Rulebook.Fields

namespace Rulebook.Fields

variable {α : Type}

theorem find?_cons_self (fields : Fields α) (name : String) (entry : α) :
    find? ((name, entry) :: fields) name = some entry := List.lookup_cons_self

theorem find?_cons_of_ne (fields : Fields α) {name head : String} (entry : α)
    (other : name ≠ head) : find? ((head, entry) :: fields) name = fields.find? name := by
  unfold find?
  rw [List.lookup_cons, beq_eq_false_iff_ne.mpr other]

/-- In a single entry only its name finds something. -/
theorem find?_singleton_eq_some_iff {name head : String} {entry found : α} :
    find? [(head, entry)] name = some found ↔ name = head ∧ found = entry := by
  by_cases same : name = head
  · subst same
    simp [find?_cons_self, eq_comm]
  · rw [find?_cons_of_ne [] entry same]
    exact iff_of_false nofun fun both => same both.1

/-- A name finds something exactly if it is one of the names. -/
theorem exists_find?_iff {fields : Fields α} {name : String} :
    (∃ entry, fields.find? name = some entry) ↔ name ∈ fields.names := by
  rw [← Option.isSome_iff_exists, find?, List.lookup_isSome_iff, names, List.mem_map]
  exact exists_congr fun entry => and_congr_right fun _ => by rw [beq_iff_eq, eq_comm]

theorem find?_insert_self (fields : Fields α) (name : String) (entry : α) :
    (fields.insert name entry).find? name = some entry := by
  induction fields with
  | nil => exact find?_cons_self [] name entry
  | cons head rest inductionHypothesis =>
    obtain ⟨first, value⟩ := head
    unfold insert
    split
    · exact find?_cons_self _ name entry
    · split
      · exact find?_cons_self _ name entry
      · next different => rw [find?_cons_of_ne _ _ different, inductionHypothesis]

theorem find?_insert_of_ne (fields : Fields α) {name inserted : String} (entry : α)
    (other : name ≠ inserted) :
    (fields.insert inserted entry).find? name = fields.find? name := by
  induction fields with
  | nil => exact find?_cons_of_ne [] entry other
  | cons head rest inductionHypothesis =>
    obtain ⟨first, value⟩ := head
    unfold insert
    split
    · exact find?_cons_of_ne _ entry other
    · split
      · next equal =>
        subst equal
        rw [find?_cons_of_ne _ entry other, find?_cons_of_ne _ value other]
      · by_cases same : name = first
        · subst same
          rw [find?_cons_self, find?_cons_self]
        · rw [find?_cons_of_ne _ value same, find?_cons_of_ne _ value same, inductionHypothesis]

theorem find?_insert (fields : Fields α) (name inserted : String) (entry : α) :
    (fields.insert inserted entry).find? name =
      if name = inserted then some entry else fields.find? name := by
  by_cases same : name = inserted
  · rw [if_pos same, same, find?_insert_self]
  · rw [if_neg same, find?_insert_of_ne fields entry same]

/-- What holds of all entries and of the one that is inserted still holds of all. -/
theorem forall_find?_insert {fields : Fields α} {holds : α → Prop} {inserted : String} {entry : α}
    (all : ∀ name other, fields.find? name = some other → holds other) (new : holds entry) :
    ∀ name other, (fields.insert inserted entry).find? name = some other → holds other := by
  intro name other found
  rw [find?_insert] at found
  by_cases same : name = inserted
  · rw [if_pos same] at found
    exact Option.some.inj found ▸ new
  · rw [if_neg same] at found
    exact all name other found

/-- Of several entries with one name the last counts. -/
theorem find?_ofList (entries : List (String × α)) (name : String) :
    (ofList entries).find? name =
      (entries.reverse.find? fun entry => entry.1 == name).map (·.2) := by
  unfold ofList
  rw [← List.foldr_reverse]
  generalize entries.reverse = latest
  induction latest with
  | nil => rfl
  | cons entry earlier inductionHypothesis =>
    rw [List.foldr_cons, find?_insert, inductionHypothesis, List.find?_cons]
    by_cases same : name = entry.1
    · rw [if_pos same, beq_iff_eq.mpr same.symm]
      rfl
    · rw [if_neg same, beq_eq_false_iff_ne.mpr (Ne.symm same)]

end Rulebook.Fields
