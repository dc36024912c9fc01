/-
This file says what layers make of one setting. A layer gives for a place what its own setting has
at the rest of the place, once the path of the layer is behind. Laid over some settings, the layer
puts that there, or leaves the place as it was if it gives nothing for it. After layers that follow
each other a place has what the last one gives that gives anything, or what was there earlier.

This needs tables where groups of settings go, and no table with a name twice; and what is given
must be a text, a number or a Boolean, because tables are laid over each other and not replaced.
-/
import Mathlib.Data.List.TakeWhile
import Rulebook.Settings

namespace Rulebook

/-- A lookup in entries with a first one. -/
theorem lookup_cons_eq_ite {α : Type} (name head : String) (value : α)
    (rest : List (String × α)) :
    ((head, value) :: rest).lookup name = if name = head then some value else rest.lookup name := by
  by_cases same : name = head
  · simp [same]
  · simp only [List.lookup_cons, beq_false_of_ne same, if_neg same]

theorem lookup_eq_none_of_not_mem {α : Type} {name : String} {entries : List (String × α)}
    (fresh : name ∉ entries.map Prod.fst) : entries.lookup name = none :=
  List.lookup_eq_none_iff.mpr fun entry member => bne_iff_ne.mpr fun same =>
    fresh (List.mem_map.mpr ⟨entry, member, same.symm⟩)

namespace Setting

/-! ### Kinds of settings -/

/-- Whether a setting is a text, a number or a Boolean. -/
def isSingle : Setting → Bool
  | .text _ | .integer _ | .real _ | .bool _ => true
  | .nothing | .list _ | .table _ => false

/-- Whether a setting is a table. -/
def isTable : Setting → Bool
  | .table _ => true
  | _ => false

mutual

/-- That no table in a setting has a name twice, the tables in lists left aside. -/
def Distinct : Setting → Prop
  | .table entries => (entries.map Prod.fst).Nodup ∧ DistinctEntries entries
  | _ => True

/-- That this holds for each of some entries. -/
def DistinctEntries : List (String × Setting) → Prop
  | [] => True
  | (_, inner) :: rest => inner.Distinct ∧ DistinctEntries rest

end

theorem distinct_of_isSingle {setting : Setting} (single : setting.isSingle) :
    setting.Distinct := by
  cases setting with
  | table => exact absurd single Bool.false_ne_true
  | _ => trivial

theorem distinct_of_mem {entries : List (String × Setting)} (distinct : DistinctEntries entries)
    {entry : String × Setting} (member : entry ∈ entries) : entry.2.Distinct := by
  induction entries with
  | nil => exact absurd member List.not_mem_nil
  | cons head rest inductionHypothesis =>
    obtain rfl | inside := List.mem_cons.mp member
    · exact distinct.1
    · exact inductionHypothesis distinct.2 inside

@[simp] theorem entries_table (entries : List (String × Setting)) :
    (Setting.table entries).entries = entries := rfl

@[simp] theorem entries_nothing : Setting.nothing.entries = [] := rfl

theorem get?_singleton (setting : Setting) (name : String) :
    setting.get? [name] = setting.entries.lookup name := by
  cases found : setting.entries.lookup name <;> simp [get?, found]

theorem get?_pair (setting : Setting) (group name : String) :
    setting.get? [group, name] =
      (setting.entries.lookup group).bind fun inner => inner.entries.lookup name := by
  cases found : setting.entries.lookup group with
  | none => simp [get?, found]
  | some inner => simp [get?, found]

/-! ### Settings over settings -/

theorem lookup_assign (name other : String) (value : Setting)
    (entries : List (String × Setting)) :
    (assign name value entries).lookup other =
      if other = name then some value else entries.lookup other := by
  induction entries with
  | nil => exact lookup_cons_eq_ite other name value []
  | cons entry rest inductionHypothesis =>
    obtain ⟨head, old⟩ := entry
    by_cases found : head = name
    · subst found
      by_cases same : other = head <;> simp [assign, lookup_cons_eq_ite, same]
    · by_cases same : other = name
      · subst same
        simp [assign, lookup_cons_eq_ite, found, Ne.symm found, inductionHypothesis]
      · simp [assign, lookup_cons_eq_ite, found, same, inductionHypothesis]

/-- A text, a number or a Boolean replaces whatever it is laid over. -/
theorem overlay_of_isSingle {later : Setting} (single : later.isSingle) (earlier : Setting) :
    earlier.overlay later = later := by
  cases later with
  | table => exact absurd single Bool.false_ne_true
  | _ => rfl

/-- An entry of a table that is laid over another one counts if there is one. -/
theorem lookup_overlayEntries {name : String} {entries : List (String × Setting)}
    (names : (entries.map Prod.fst).Nodup)
    (single : ∀ later ∈ entries.lookup name, later.isSingle) (earlier : List (String × Setting)) :
    (overlayEntries earlier entries).lookup name =
      (entries.lookup name).or (earlier.lookup name) := by
  induction entries generalizing earlier with
  | nil => rfl
  | cons entry rest inductionHypothesis =>
    obtain ⟨head, later⟩ := entry
    obtain ⟨fresh, restNames⟩ := List.nodup_cons.mp names
    rw [lookup_cons_eq_ite] at single ⊢
    rw [overlayEntries]
    by_cases same : name = head
    · have unseen : rest.lookup name = none := lookup_eq_none_of_not_mem (same ▸ fresh)
      rw [if_pos same] at single ⊢
      have given : later.isSingle := single later rfl
      rw [inductionHypothesis restNames (by simp [unseen]), unseen, lookup_assign, if_pos same,
        overlay_of_isSingle given, Option.none_or, Option.some_or]
    · rw [if_neg same] at single ⊢
      rw [inductionHypothesis restNames single, lookup_assign, if_neg same]

/-! ### What a setting gives at a place -/

/-- What a setting that goes to a path gives at a place: what it has at the rest of the place. A
setting that goes further in than the place gives a table or a list there, and one that goes
elsewhere gives nothing. -/
def gives? (setting : Setting) : List Step → List String → Option Setting
  | [], place => setting.get? place
  | .name _ :: _, [] => some (.table [])
  | .position _ :: _, [] => some (.list [])
  | .name name :: path, head :: place => if name = head then setting.gives? path place else none
  | .position _ :: _, _ :: _ => none

theorem gives?_names (setting : Setting) (names : List String) :
    setting.gives? (names.map .name) names = some setting := by
  induction names with
  | nil => rfl
  | cons name rest inductionHypothesis =>
    rw [List.map_cons, gives?, if_pos rfl]
    exact inductionHypothesis

theorem gives?_of_apart (setting : Setting) {names place : List String}
    (notWithin : ¬ names <+: place) (notAround : ¬ place <+: names) :
    setting.gives? (names.map .name) place = none := by
  induction names generalizing place with
  | nil => exact absurd List.nil_prefix notWithin
  | cons name rest inductionHypothesis =>
    cases place with
    | nil => exact absurd List.nil_prefix notAround
    | cons head more =>
      rw [List.map_cons, gives?]
      by_cases same : name = head
      · rw [if_pos same]
        refine inductionHypothesis (fun within => notWithin ?_) fun around => notAround ?_
        · exact List.cons_prefix_cons.mpr ⟨same, within⟩
        · exact List.cons_prefix_cons.mpr ⟨same.symm, around⟩
      · exact if_neg same

/-- A setting that gives a table for a group makes the group a table. -/
theorem isTable_layAt {later : Setting} {path : List Step}
    (keeps : ∀ given ∈ later.gives? path [], given.isTable) (earlier : Setting) :
    (layAt later path earlier).isTable := by
  match path with
  | [] =>
    have table : later.isTable := keeps later rfl
    cases later with
    | table => rfl
    | _ => exact absurd table Bool.false_ne_true
  | .name _ :: _ => rfl
  | .position _ :: _ => exact absurd (keeps _ rfl) Bool.false_ne_true

/-- What a setting gives for an entry of a group is put there, and otherwise the entry is what it
was. -/
theorem lookup_layAt {later : Setting} {path : List Step} {name : String}
    (keeps : ∀ given ∈ later.gives? path [], given.isTable) (distinct : later.Distinct)
    (single : ∀ given ∈ later.gives? path [name], given.isSingle) (group : Setting) :
    (layAt later path group).entries.lookup name =
      (later.gives? path [name]).or (group.entries.lookup name) := by
  match path with
  | [] =>
    have table : later.isTable := keeps later rfl
    cases later with
    | table entries =>
      rw [gives?, get?_singleton] at single ⊢
      exact lookup_overlayEntries distinct.1 single group.entries
    | _ => exact absurd table Bool.false_ne_true
  | .name head :: rest =>
    rw [layAt, entries_table, lookup_assign]
    by_cases same : name = head
    · rw [gives?, if_pos same.symm] at single ⊢
      rw [if_pos same]
      match rest with
      | [] =>
        have given : later.isSingle := single later rfl
        exact congrArg some (overlay_of_isSingle given _)
      | .name _ :: _ => exact absurd (single _ rfl) Bool.false_ne_true
      | .position _ :: _ => exact absurd (single _ rfl) Bool.false_ne_true
    · rw [gives?, if_neg (Ne.symm same), if_neg same, Option.none_or]
  | .position _ :: _ => exact absurd (keeps _ rfl) Bool.false_ne_true

/-! ### Groups -/

/-- What a setting holds in a group, or the whole of it. -/
def inside (setting : Setting) : Option String → Setting
  | none => setting
  | some group => (setting.entries.lookup group).getD .nothing

theorem get?_place (setting : Setting) (group : Option String) (name : String) :
    setting.get? (group.toList ++ [name]) = (setting.inside group).entries.lookup name := by
  cases group with
  | none => exact get?_singleton setting name
  | some group =>
    refine (get?_pair setting group name).trans ?_
    cases found : setting.entries.lookup group with
    | none => simp [inside, found]
    | some inner => simp [inside, found]

theorem inside_some (setting : Setting) (group : String) :
    setting.inside (some group) = (setting.get? [group]).getD .nothing := by
  rw [get?_singleton, inside]

/-- The names of the groups of settings. -/
def groups : List String := ["engine", "observability"]

/-- That the groups of settings are tables, where they are there. -/
def IsGrouped (setting : Setting) : Prop :=
  ∀ group ∈ groups, ∀ inner ∈ setting.get? [group], inner.isTable

end Setting

/-! ### Layers over settings -/

namespace Settings.Layer

open Setting (inside groups)

variable {layer : Layer} {layers : List Layer}

/-- What a layer gives at a place. -/
def gives? (layer : Layer) (place : List String) : Option Setting :=
  layer.setting.gives? layer.path place

/-- What the last of some layers gives that gives anything at a place. -/
def lastGiven? (layers : List Layer) (place : List String) : Option Setting :=
  layers.reverse.findSome? fun layer => layer.gives? place

theorem lastGiven?_cons (layer : Layer) (rest : List Layer) (place : List String) :
    lastGiven? (layer :: rest) place = (lastGiven? rest place).or (layer.gives? place) := by
  simp [lastGiven?]

theorem exists_of_lastGiven? {place : List String} {given : Setting}
    (found : lastGiven? layers place = some given) :
    ∃ layer ∈ layers, layer.gives? place = some given := by
  obtain ⟨layer, member, gives⟩ := List.exists_of_findSome?_eq_some found
  exact ⟨layer, List.mem_reverse.mp member, gives⟩

/-- That a layer puts tables where groups of settings go. -/
def KeepsGroups (layer : Layer) : Prop :=
  ∀ group ∈ groups, ∀ inner ∈ layer.gives? [group], inner.isTable

/-- Layers as files and variables give them: a path starts with a name, and no table has a name
twice. -/
structure IsRegular (layer : Layer) : Prop where
  named : ∃ name rest, layer.path = .name name :: rest
  distinct : layer.setting.Distinct

theorem isRegular_pathOf (name : List Char) {setting : Setting} (distinct : setting.Distinct) :
    IsRegular ⟨Setting.pathOf name, setting⟩ := by
  refine ⟨?_, distinct⟩
  unfold Setting.pathOf Setting.readSteps
  simp only [reduceIte]
  split
  · exact ⟨_, _, rfl⟩
  · cases Setting.readSteps name.length (name.dropWhile Setting.isNameCharacter) <;>
      exact ⟨_, _, rfl⟩

/-- That a name has only characters that need no quotes. -/
def IsPlain (name : String) : Prop :=
  name ≠ "" ∧ ∀ character ∈ name.toList, Setting.isNameCharacter character

/-- A plain name is the only step of the path that it writes. -/
theorem pathOf_plain {name : String} (plain : IsPlain name) :
    Setting.pathOf name.toList = [.name name] := by
  obtain ⟨notEmpty, allowed⟩ := plain
  have taken : name.toList.takeWhile Setting.isNameCharacter = name.toList :=
    List.takeWhile_eq_self_iff.mpr allowed
  have dropped : name.toList.dropWhile Setting.isNameCharacter = [] :=
    List.dropWhile_eq_nil_iff.mpr allowed
  have written : name.toList.isEmpty = false := by
    simpa using notEmpty
  unfold Setting.pathOf Setting.readSteps
  simp [taken, dropped, written, Setting.readSteps]

theorem isTable_onto (regular : layer.IsRegular) (setting : Setting) :
    (onto setting layer).isTable := by
  obtain ⟨name, rest, path⟩ := regular.named
  unfold onto
  rw [path]
  rfl

/-- What is in a group after a layer that goes into it, or into another one. -/
theorem get?_onto {name : String} {rest : List Setting.Step}
    (path : layer.path = .name name :: rest) (setting : Setting) (group : String) :
    (onto setting layer).get? [group] =
      if group = name then some (Setting.layAt layer.setting rest (setting.inside (some name)))
      else setting.get? [group] := by
  unfold onto
  rw [path, Setting.get?_singleton, Setting.get?_singleton]
  exact Setting.lookup_assign ..

theorem gives?_cons {name : String} {rest : List Setting.Step}
    (path : layer.path = .name name :: rest) (head : String) (place : List String) :
    layer.gives? (head :: place) =
      if name = head then layer.setting.gives? rest place else none := by
  rw [gives?, path, Setting.gives?]

/-- Layers of entries with plain and different names give what the table of the entries has. -/
theorem lastGiven?_plain {entries : List (String × Setting)}
    (plain : ∀ entry ∈ entries, IsPlain entry.1) (names : (entries.map Prod.fst).Nodup)
    (head : String) (place : List String) :
    lastGiven? (entries.map fun entry => ofNamed entry.1 entry.2) (head :: place) =
      (Setting.table entries).get? (head :: place) := by
  induction entries with
  | nil => rfl
  | cons entry rest inductionHypothesis =>
    obtain ⟨name, setting⟩ := entry
    obtain ⟨fresh, restNames⟩ := List.nodup_cons.mp names
    have path : (ofNamed name setting).path = [.name name] :=
      pathOf_plain (plain _ List.mem_cons_self)
    have others := inductionHypothesis
      (fun other member => plain other (List.mem_cons_of_mem _ member)) restNames
    rw [List.map_cons, lastGiven?_cons, others, gives?_cons path, Setting.get?, Setting.get?,
      Setting.entries_table, Setting.entries_table, lookup_cons_eq_ite]
    by_cases same : name = head
    · subst same
      rw [lookup_eq_none_of_not_mem fresh, if_pos rfl, if_pos rfl]
      rfl
    · rw [if_neg same, if_neg (Ne.symm same), Option.or_none]

/-- Groups stay tables under a layer that puts tables there. -/
theorem isGrouped_onto (regular : layer.IsRegular) (keeps : layer.KeepsGroups) {setting : Setting}
    (grouped : setting.IsGrouped) : (onto setting layer).IsGrouped := by
  obtain ⟨name, rest, path⟩ := regular.named
  intro group known inner present
  rw [get?_onto path] at present
  by_cases same : group = name
  · rw [if_pos same] at present
    obtain rfl := Option.some.inj present
    have given := keeps group known
    rw [gives?_cons path, if_pos same.symm] at given
    exact Setting.isTable_layAt given _
  · rw [if_neg same] at present
    exact grouped group known inner present

/-- Layers keep a table with tables for its groups so, if each of them puts tables there. -/
theorem isGrouped_foldl_onto (regular : ∀ layer ∈ layers, layer.IsRegular)
    (keeps : ∀ layer ∈ layers, layer.KeepsGroups) {earlier : Setting} (table : earlier.isTable)
    (grouped : earlier.IsGrouped) :
    (layers.foldl onto earlier).isTable ∧ (layers.foldl onto earlier).IsGrouped := by
  refine List.foldlRecOn (motive := fun setting => setting.isTable ∧ setting.IsGrouped) layers onto
    ⟨table, grouped⟩ ?_
  intro setting invariant layer member
  exact ⟨isTable_onto (regular layer member) setting,
    isGrouped_onto (regular layer member) (keeps layer member) invariant.2⟩

/-- A setting is what a layer gives for it, or what it was before if the layer gives nothing. -/
theorem get?_onto_place (regular : layer.IsRegular) (keeps : layer.KeepsGroups)
    {group : Option String} (known : ∀ name ∈ group, name ∈ groups) {name : String}
    (single : ∀ given ∈ layer.gives? (group.toList ++ [name]), given.isSingle)
    (setting : Setting) :
    (onto setting layer).get? (group.toList ++ [name]) =
      (layer.gives? (group.toList ++ [name])).or (setting.get? (group.toList ++ [name])) := by
  obtain ⟨⟨head, rest, path⟩, distinct⟩ := regular
  rw [Setting.get?_place, Setting.get?_place]
  cases group with
  | none =>
    have table : ∀ given ∈ layer.gives? [], given.isTable := by
      unfold gives?
      rw [path]
      exact fun given member => Option.some.inj member ▸ rfl
    exact Setting.lookup_layAt table distinct single setting
  | some group =>
    have whole : (onto setting layer).inside (some group) =
        if group = head then Setting.layAt layer.setting rest (setting.inside (some head))
        else setting.inside (some group) := by
      rw [Setting.inside_some, get?_onto path, Setting.inside_some setting group]
      split <;> rfl
    show List.lookup name ((onto setting layer).inside (some group)).entries =
      (layer.gives? [group, name]).or _
    have table := keeps group (known group rfl)
    rw [gives?_cons path] at table
    have given : ∀ given ∈ layer.gives? [group, name], given.isSingle := single
    rw [gives?_cons path] at given ⊢
    rw [whole]
    by_cases same : group = head
    · rw [if_pos same.symm] at table given ⊢
      rw [if_pos same, ← same]
      exact Setting.lookup_layAt table distinct given _
    · rw [if_neg (Ne.symm same), if_neg same, Option.none_or]

/-- After some layers a setting is what the last of them gives that gives anything for it, or what
it was before. -/
theorem get?_foldl_onto {group : Option String} (known : ∀ name ∈ group, name ∈ groups)
    {name : String} :
    ∀ {layers : List Layer}, (∀ layer ∈ layers, layer.IsRegular) →
      (∀ layer ∈ layers, layer.KeepsGroups) →
      (∀ layer ∈ layers, ∀ given ∈ layer.gives? (group.toList ++ [name]), given.isSingle) →
      ∀ earlier, (layers.foldl onto earlier).get? (group.toList ++ [name]) =
        (lastGiven? layers (group.toList ++ [name])).or
          (earlier.get? (group.toList ++ [name]))
  | [], _, _, _, _ => rfl
  | layer :: rest, regular, keeps, single, earlier => by
    have first := get?_onto_place (regular layer List.mem_cons_self)
      (keeps layer List.mem_cons_self) known (single layer List.mem_cons_self) earlier
    have others := get?_foldl_onto known
      (fun other member => regular other (List.mem_cons_of_mem layer member))
      (fun other member => keeps other (List.mem_cons_of_mem layer member))
      (fun other member => single other (List.mem_cons_of_mem layer member)) (onto earlier layer)
    rw [List.foldl_cons, others, first, lastGiven?_cons, Option.or_assoc]

instance (layer : Layer) : Decidable layer.KeepsGroups :=
  inferInstanceAs (Decidable (∀ group ∈ groups, ∀ inner ∈ layer.gives? [group], inner.isTable))

end Settings.Layer

end Rulebook
