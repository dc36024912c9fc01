/-
This file says that a TOML text gives tables without repeated names. While a document is read, the
entries of each of its tables have different names: a key or a table goes where no entry of its
name is, or into the table that is there, and an entry is only ever replaced by one of its own name.
Each statement of a document keeps this, and so does the whole of them.
-/
import Rulebook.Toml
import Rulebook.Proofs.Layers

namespace Rulebook.Toml

/-! ### Parts of documents -/

mutual

/-- That no table in a part of a document has a name twice, the tables in lists left aside. -/
def Node.Distinct : Node → Prop
  | .setting value => value.Distinct
  | .table _ entries => (entries.map Prod.fst).Nodup ∧ DistinctNodes entries
  | .tables _ _ => True

/-- That this holds for each of some entries. -/
def DistinctNodes : List (String × Node) → Prop
  | [] => True
  | (_, node) :: rest => node.Distinct ∧ DistinctNodes rest

end

/-- That entries have different names, and so have those of the tables in them. -/
def Unrepeated (entries : Entries) : Prop :=
  (entries.map Prod.fst).Nodup ∧ DistinctNodes entries

theorem unrepeated_nil : Unrepeated [] := ⟨List.nodup_nil, trivial⟩

theorem map_fst_settings : ∀ entries : Entries,
    (settings entries).map Prod.fst = entries.map Prod.fst
  | [] => by rw [settings]; rfl
  | (name, node) :: rest => by
    rw [settings, List.map_cons, List.map_cons, map_fst_settings rest]

mutual

theorem Node.distinct_toSetting : ∀ {node : Node}, node.Distinct → node.toSetting.Distinct
  | .setting _, distinct => distinct
  | .table _ entries, distinct =>
    ⟨(map_fst_settings entries).symm ▸ distinct.1, distinctEntries_settings distinct.2⟩
  | .tables _ _, _ => trivial

theorem distinctEntries_settings : ∀ {entries : Entries},
    DistinctNodes entries → Setting.DistinctEntries (settings entries)
  | [], _ => by rw [settings]; trivial
  | (_, _) :: _, distinct => by
    rw [settings]
    exact ⟨Node.distinct_toSetting distinct.1, distinctEntries_settings distinct.2⟩

end

/-- The table of entries without repeated names has no repeated names. -/
theorem Unrepeated.distinct_table {entries : Entries} (unrepeated : Unrepeated entries) :
    (Setting.table (settings entries)).Distinct :=
  ⟨(map_fst_settings entries).symm ▸ unrepeated.1, distinctEntries_settings unrepeated.2⟩

theorem mem_names_assign {entries : Entries} {name other : String} {node : Node}
    (member : other ∈ (assign entries name node).map Prod.fst) :
    other = name ∨ other ∈ entries.map Prod.fst := by
  induction entries with
  | nil => exact Or.inl (List.mem_singleton.mp member)
  | cons entry rest inductionHypothesis =>
    obtain ⟨head, old⟩ := entry
    unfold assign at member
    by_cases same : head = name
    · rw [if_pos same] at member
      obtain first | inside := List.mem_cons.mp member
      · exact Or.inl first
      · exact Or.inr (List.mem_cons_of_mem _ inside)
    · rw [if_neg same] at member
      obtain rfl | inside := List.mem_cons.mp member
      · exact Or.inr List.mem_cons_self
      · exact (inductionHypothesis inside).imp_right (List.mem_cons_of_mem _)

/-- An entry that is replaced by one of its own name, or added where there is none, repeats
nothing. -/
theorem Unrepeated.assigned {entries : Entries} (unrepeated : Unrepeated entries) (name : String)
    (node : Node) (distinct : node.Distinct) : Unrepeated (assign entries name node) := by
  induction entries with
  | nil => exact ⟨List.pairwise_singleton _ name, distinct, trivial⟩
  | cons entry rest inductionHypothesis =>
    obtain ⟨head, old⟩ := entry
    obtain ⟨names, first, others⟩ := unrepeated
    obtain ⟨fresh, restNames⟩ := List.nodup_cons.mp names
    unfold assign
    by_cases same : head = name
    · rw [if_pos same]
      exact ⟨List.nodup_cons.mpr ⟨same ▸ fresh, restNames⟩, distinct, others⟩
    · rw [if_neg same]
      obtain ⟨assigned, nodes⟩ := inductionHypothesis ⟨restNames, others⟩
      refine ⟨List.nodup_cons.mpr ⟨fun member => ?_, assigned⟩, first, nodes⟩
      exact (mem_names_assign member).elim same fresh

theorem Unrepeated.distinct_of_lookup {entries : Entries} (unrepeated : Unrepeated entries)
    {name : String} {node : Node} (found : entries.lookup name = some node) : node.Distinct := by
  have nodes := unrepeated.2
  clear unrepeated
  induction entries with
  | nil => exact nomatch found
  | cons entry rest inductionHypothesis =>
    rw [lookup_cons_eq_ite] at found
    by_cases same : name = entry.1
    · rw [if_pos same] at found
      exact Option.some.inj found ▸ nodes.1
    · rw [if_neg same] at found
      exact inductionHypothesis found nodes.2

/-! ### Adding to a document -/

/-- That entries have no repeated names, if there are any. -/
def GivesUnrepeated (given : Option Entries) : Prop := ∀ entries ∈ given, Unrepeated entries

section Adding

variable {entries : Entries} {given : Option Entries}

theorem givesUnrepeated_none : GivesUnrepeated none := fun _ member => nomatch member

theorem Unrepeated.gives (unrepeated : Unrepeated entries) : GivesUnrepeated (some entries) :=
  fun _ member => Option.some.inj member ▸ unrepeated

/-- A table takes the place of the old one. -/
theorem Unrepeated.withTable (unrepeated : Unrepeated entries) (name : String) (origin : Origin)
    {inner : Entries} (within : Unrepeated inner) :
    Unrepeated (assign entries name (.table origin inner)) :=
  unrepeated.assigned name (.table origin inner) within

/-- A list of tables takes the place of the old one. -/
theorem Unrepeated.withTables (unrepeated : Unrepeated entries) (name : String)
    (finished : List Setting) (inner : Entries) :
    Unrepeated (assign entries name (.tables finished inner)) :=
  unrepeated.assigned name (.tables finished inner) trivial

theorem GivesUnrepeated.intoTable (inner : GivesUnrepeated given) (unrepeated : Unrepeated entries)
    (name : String) (origin : Origin) :
    GivesUnrepeated (given.map fun inner => assign entries name (.table origin inner)) := by
  intro result member
  obtain ⟨inside, isThere, rfl⟩ := Option.map_eq_some_iff.mp member
  exact unrepeated.withTable name origin (inner inside isThere)

theorem Unrepeated.intoTables (unrepeated : Unrepeated entries) (name : String)
    (finished : List Setting) :
    GivesUnrepeated (given.map fun inner => assign entries name (.tables finished inner)) := by
  intro result member
  obtain ⟨inside, _, rfl⟩ := Option.map_eq_some_iff.mp member
  exact unrepeated.withTables name finished inside

/-- A key is not given twice. -/
theorem Unrepeated.inserted {value : Setting} (distinct : value.Distinct) {key : List String}
    (unrepeated : Unrepeated entries) : GivesUnrepeated (insertAt value key entries) := by
  fun_induction insertAt value key entries with
  | case2 name => exact (unrepeated.assigned name (.setting value) distinct).gives
  | case4 name _ _ _ _ inductionHypothesis =>
    exact (inductionHypothesis unrepeated_nil).intoTable unrepeated name _
  | case5 name _ _ _ _ _ _ found _ inductionHypothesis =>
    exact (inductionHypothesis (unrepeated.distinct_of_lookup found)).intoTable unrepeated name _
  | case7 name => exact unrepeated.intoTables name _
  | _ => exact givesUnrepeated_none

/-- A table is not opened twice. -/
theorem Unrepeated.opened {path : List String} (unrepeated : Unrepeated entries) :
    GivesUnrepeated (openTable path entries) := by
  fun_induction openTable path entries with
  | case2 name => exact (unrepeated.withTable name .named unrepeated_nil).gives
  | case3 name _ _ found =>
    exact (unrepeated.withTable name .named (unrepeated.distinct_of_lookup found)).gives
  | case5 name _ _ _ _ inductionHypothesis =>
    exact (inductionHypothesis unrepeated_nil).intoTable unrepeated name _
  | case6 name _ _ _ _ _ found inductionHypothesis =>
    exact (inductionHypothesis (unrepeated.distinct_of_lookup found)).intoTable unrepeated name _
  | case7 name => exact unrepeated.intoTables name _
  | _ => exact givesUnrepeated_none

/-- A table that is added to a list of tables leaves the names as they are. -/
theorem Unrepeated.itemOpened {path : List String} (unrepeated : Unrepeated entries) :
    GivesUnrepeated (openItem path entries) := by
  fun_induction openItem path entries with
  | case2 name => exact (unrepeated.withTables name _ _).gives
  | case3 name => exact (unrepeated.withTables name _ _).gives
  | case5 name _ _ _ _ inductionHypothesis =>
    exact (inductionHypothesis unrepeated_nil).intoTable unrepeated name _
  | case6 name _ _ _ _ _ found inductionHypothesis =>
    exact (inductionHypothesis (unrepeated.distinct_of_lookup found)).intoTable unrepeated name _
  | case7 name => exact unrepeated.intoTables name _
  | _ => exact givesUnrepeated_none

/-- A change that repeats no names repeats none inside a table either. -/
theorem Unrepeated.changedInside {change : Entries → Option Entries}
    (keeps : ∀ {entries : Entries}, Unrepeated entries → GivesUnrepeated (change entries))
    {path : List String} (unrepeated : Unrepeated entries) :
    GivesUnrepeated (inside change path entries) := by
  fun_induction inside change path entries with
  | case1 => exact keeps unrepeated
  | case2 name _ _ _ _ found inductionHypothesis =>
    exact (inductionHypothesis (unrepeated.distinct_of_lookup found)).intoTable unrepeated name _
  | case3 name => exact unrepeated.intoTables name _
  | case4 => exact givesUnrepeated_none

end Adding

/-! ### Values -/

theorem isSingle_of_integer? {value : Int} {setting : Setting}
    (read : integer? value = some setting) : setting.isSingle := by
  unfold integer? at read
  split at read
  · exact Option.some.inj read ▸ rfl
  · exact nomatch read

theorem isSingle_of_baseInteger? {base : Nat} {digits : List Char} {setting : Setting}
    (read : baseInteger? base digits = some setting) : setting.isSingle := by
  obtain ⟨_, _, read⟩ := Option.bind_eq_some_iff.mp read
  obtain ⟨_, _, read⟩ := Option.bind_eq_some_iff.mp read
  exact isSingle_of_integer? read

theorem isSingle_of_decimal? {characters : List Char} {setting : Setting}
    (read : decimal? characters = some setting) : setting.isSingle := by
  unfold decimal? at read
  generalize splitSign characters = parts at read
  obtain ⟨whole, _, read⟩ := Option.bind_eq_some_iff.mp read
  dsimp only at read
  split at read
  · exact isSingle_of_integer? read
  · split at read <;>
      simp only [Option.bind_eq_bind, Option.bind_some, Option.bind_eq_some_iff,
        Option.ite_none_left_eq_some, Option.some.injEq] at read
    · obtain ⟨_, _, _, _, _, _, _, rfl⟩ := read
      rfl
    · obtain ⟨_, _, _, _, _, rfl⟩ := read
      rfl

/-- A word is a text, a number or a Boolean. -/
theorem isSingle_of_word? {characters : List Char} {setting : Setting}
    (read : word? characters = some setting) : setting.isSingle := by
  unfold word? at read
  split at read
  case h_1 | h_2 => exact Option.some.inj read ▸ rfl
  case h_3 | h_4 | h_5 => exact isSingle_of_baseInteger? read
  case h_6 =>
    dsimp only at read
    split at read
    case h_1 | h_2 => exact Option.some.inj read ▸ rfl
    case h_3 =>
      split at read
      · exact Option.some.inj read ▸ rfl
      · exact isSingle_of_decimal? read

mutual

/-- A value has no table with repeated names. -/
theorem distinct_of_readValue : ∀ {fuel levels : Nat} {characters rest : List Char}
    {value : Setting}, readValue fuel levels characters = some (value, rest) → value.Distinct
  | 0, _, _, _, _, read => by
    rw [readValue] at read
    exact nomatch read
  | fuel + 1, levels, characters, rest, value, read => by
    unfold readValue at read
    split at read
    case h_1 | h_2 | h_3 =>
      obtain ⟨_, _, made⟩ := Option.map_eq_some_iff.mp read
      obtain ⟨rfl, -⟩ := Prod.mk.inj made
      trivial
    case h_4 =>
      split at read
      · obtain ⟨rfl, -⟩ := Prod.mk.inj (Option.some.inj read)
        exact unrepeated_nil.distinct_table
      · obtain ⟨_, readInside, made⟩ := Option.map_eq_some_iff.mp read
        obtain ⟨rfl, -⟩ := Prod.mk.inj made
        exact (unrepeated_of_readPairs unrepeated_nil readInside).distinct_table
    case h_5 =>
      obtain ⟨_, word, made⟩ := Option.map_eq_some_iff.mp read
      obtain ⟨rfl, -⟩ := Prod.mk.inj made
      exact Setting.distinct_of_isSingle (isSingle_of_word? word)

/-- The entries of a table in braces have no repeated names. -/
theorem unrepeated_of_readPairs : ∀ {fuel levels : Nat} {entries result : Entries}
    {characters rest : List Char}, Unrepeated entries →
    readPairs fuel levels entries characters = some (result, rest) → Unrepeated result
  | 0, _, _, _, _, _, _, read => by
    rw [readPairs] at read
    exact nomatch read
  | fuel + 1, levels, entries, result, characters, rest, unrepeated, read => by
    unfold readPairs at read
    obtain ⟨_, _, read⟩ := Option.bind_eq_some_iff.mp read
    dsimp only at read
    split at read
    · obtain ⟨_, readInside, read⟩ := Option.bind_eq_some_iff.mp read
      obtain ⟨_, inserted, read⟩ := Option.bind_eq_some_iff.mp read
      have together := unrepeated.inserted (distinct_of_readValue readInside) _ inserted
      split at read
      · obtain ⟨rfl, -⟩ := Prod.mk.inj (Option.some.inj read)
        exact together
      · split at read
        · obtain ⟨rfl, -⟩ := Prod.mk.inj (Option.some.inj read)
          exact together
        · exact unrepeated_of_readPairs together read
      · exact nomatch read
    · exact nomatch read

end

/-! ### Documents -/

/-- A statement that sets a key sets it to a value without repeated names. -/
theorem distinct_of_readStatement {characters rest : List Char} {key : List String}
    {value : Setting} (read : readStatement characters = some (.assign key value, rest)) :
    value.Distinct := by
  unfold readStatement at read
  split at read
  case h_1 | h_2 =>
    obtain ⟨_, _, read⟩ := Option.bind_eq_some_iff.mp read
    dsimp only at read
    split at read
    · obtain ⟨_, _, opened⟩ := Option.bind_eq_some_iff.mp read
      cases opened
    · cases read
  case h_3 =>
    obtain ⟨_, _, read⟩ := Option.bind_eq_some_iff.mp read
    dsimp only at read
    split at read
    · obtain ⟨_, readFirst, read⟩ := Option.bind_eq_some_iff.mp read
      obtain ⟨_, _, assigned⟩ := Option.bind_eq_some_iff.mp read
      obtain ⟨same, -⟩ := Prod.mk.inj (Option.some.inj assigned)
      obtain ⟨-, rfl⟩ := Statement.assign.inj same
      exact distinct_of_readValue readFirst
    · cases read

/-- The statements of a document repeat no names. -/
theorem unrepeated_of_readStatements : ∀ {fuel : Nat} {path : List String}
    {entries result : Entries} {characters : List Char}, Unrepeated entries →
    readStatements fuel path entries characters = some result → Unrepeated result
  | 0, _, _, _, _, _, read => by
    rw [readStatements] at read
    exact nomatch read
  | fuel + 1, path, entries, result, characters, unrepeated, read => by
    unfold readStatements at read
    split at read
    · exact Option.some.inj read ▸ unrepeated
    · obtain ⟨⟨statement, rest⟩, readFirst, read⟩ := Option.bind_eq_some_iff.mp read
      cases statement with
      | openTable path =>
        obtain ⟨_, opened, read⟩ := Option.bind_eq_some_iff.mp read
        exact unrepeated_of_readStatements (unrepeated.opened _ opened) read
      | openItem path =>
        obtain ⟨_, opened, read⟩ := Option.bind_eq_some_iff.mp read
        exact unrepeated_of_readStatements (unrepeated.itemOpened _ opened) read
      | assign key value =>
        obtain ⟨_, changed, read⟩ := Option.bind_eq_some_iff.mp read
        have distinct := distinct_of_readStatement readFirst
        refine unrepeated_of_readStatements (unrepeated.changedInside ?_ _ changed) read
        exact fun earlier => earlier.inserted distinct

/-- A text writes a table without repeated names. -/
theorem distinct_of_ofText? {text : String} {table : Setting}
    (written : ofText? text = some table) : table.Distinct := by
  obtain ⟨entries, read, rfl⟩ := Option.map_eq_some_iff.mp written
  exact (unrepeated_of_readStatements unrepeated_nil read).distinct_table

end Rulebook.Toml
