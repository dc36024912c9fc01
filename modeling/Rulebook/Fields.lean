/-
This file holds associations of names and things, kept as a list in strictly increasing order of
the names. The order of names is that of their characters' code points. Entries are reached by
name, and inserting an entry replaces the one of that name.
-/

namespace Rulebook

/-- Entries by name, in increasing order of the names. -/
abbrev Fields (α : Type) := List (String × α)

namespace Fields

variable {α : Type}

/-- The entry of a name. -/
def find? (fields : Fields α) (name : String) : Option α := List.lookup name fields

/-- Whether there is an entry of this name. -/
def contains (fields : Fields α) (name : String) : Bool := (fields.find? name).isSome

/-- The entries with one added in its place, or replaced. -/
def insert (fields : Fields α) (name : String) (entry : α) : Fields α :=
  match fields with
  | [] => [(name, entry)]
  | (head, value) :: rest =>
    if name < head then (name, entry) :: (head, value) :: rest
    else if name = head then (name, entry) :: rest
    else (head, value) :: Fields.insert rest name entry

/-- The entries of a list put in order; of two with one name the later stays. -/
def ofList (entries : List (String × α)) : Fields α :=
  entries.foldl (fun fields entry => fields.insert entry.1 entry.2) []

/-- The names, in order. -/
def names (fields : Fields α) : List String := fields.map Prod.fst

/-- The names are strictly increasing, so each occurs once. -/
def Sorted (fields : Fields α) : Prop := fields.Pairwise fun first second => first.1 < second.1

theorem sorted_nil : Sorted ([] : Fields α) := List.Pairwise.nil

/-- The names after inserting are the old ones and the new one. -/
theorem mem_insert (fields : Fields α) (name : String) (entry : α) (pair : String × α)
    (member : pair ∈ fields.insert name entry) : pair = (name, entry) ∨ pair ∈ fields := by
  induction fields with
  | nil =>
    simp only [insert, List.mem_singleton] at member
    exact Or.inl member
  | cons head rest inductionHypothesis =>
    obtain ⟨first, value⟩ := head
    unfold insert at member
    split at member
    · simpa [List.mem_cons] using member
    · split at member
      · rcases List.mem_cons.mp member with equal | inRest
        · exact Or.inl equal
        · exact Or.inr (List.mem_cons_of_mem _ inRest)
      · rcases List.mem_cons.mp member with equal | inRest
        · exact Or.inr (equal ▸ List.mem_cons_self)
        · rcases inductionHypothesis inRest with equal | inTail
          · exact Or.inl equal
          · exact Or.inr (List.mem_cons_of_mem _ inTail)

theorem Sorted.insert {fields : Fields α} (sorted : fields.Sorted) (name : String) (entry : α) :
    (fields.insert name entry).Sorted := by
  induction fields with
  | nil => exact List.pairwise_singleton _ _
  | cons head rest inductionHypothesis =>
    obtain ⟨first, value⟩ := head
    obtain ⟨below, restSorted⟩ := List.pairwise_cons.mp sorted
    unfold Fields.insert
    split
    · next before =>
      refine List.pairwise_cons.mpr ⟨fun pair member => ?_, sorted⟩
      rcases List.mem_cons.mp member with equal | inRest
      · exact equal ▸ before
      · exact String.lt_trans before (below pair inRest)
    · split
      · next equal =>
        subst equal
        exact List.pairwise_cons.mpr ⟨below, restSorted⟩
      · next notBefore different =>
        refine List.pairwise_cons.mpr ⟨fun pair member => ?_, inductionHypothesis restSorted⟩
        rcases mem_insert rest name entry pair member with equal | inRest
        · subst equal
          by_cases before : first < name
          · exact before
          · exact absurd (String.le_antisymm (String.not_lt.mp before)
              (String.not_lt.mp notBefore)) different
        · exact below pair inRest

theorem sorted_ofList (entries : List (String × α)) : (ofList entries).Sorted := by
  have step : ∀ (rest : List (String × α)) (fields : Fields α), fields.Sorted →
      (rest.foldl (fun fields entry => fields.insert entry.1 entry.2) fields).Sorted := by
    intro rest
    induction rest with
    | nil => exact fun _ sorted => sorted
    | cons entry rest inductionHypothesis =>
      exact fun fields sorted => inductionHypothesis _ (sorted.insert entry.1 entry.2)
  exact step entries [] sorted_nil

end Fields

end Rulebook
