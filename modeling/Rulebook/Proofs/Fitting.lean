/-
This file says that settings that can be read stay so when more is laid over them. All that is asked
of a layer is that it puts tables where groups of settings go, and that what it gives for a setting
can be read; what else it has does not matter. A group may be a list, with its settings in order: a
layer that goes into such a list makes it a table, and the settings that go with the list have their
built-in values again.

Settings that are read have at each place what the setting there is read as.
-/
import Rulebook.Proofs.Leaves

namespace Rulebook

open Setting (groups)

namespace Settings

/-! ### Settings of one group -/

/-- That the settings of a group are read among some entries, one by one, where they may be
missing. -/
def ReadsAmong (settings : Settings) (group : Option String) (entries : List (String × Setting)) :
    Prop :=
  ∀ leaf : Leaf, leaf.group = group →
    field? entries leaf.name (leaf.of {}) leaf.read? = some (leaf.of settings)

/-- That all that is given for the settings of a group among some entries can be read. -/
def FitAmong (group : Option String) (entries : List (String × Setting)) : Prop :=
  ∀ leaf : Leaf, leaf.group = group →
    ∀ given ∈ entries.lookup leaf.name, (leaf.read? given).isSome

/-- The names of the settings in a group, in order. -/
def namesIn (group : String) : List String :=
  (Leaf.all.filter fun leaf => leaf.group = some group).map Leaf.name

/-- That a group can be read. -/
def FitsGroup (group : String) (inner : Setting) : Prop :=
  ∃ entries, fields? (namesIn group) inner = some entries ∧ FitAmong (some group) entries

section Groups

variable {settings : Settings} {group : Option String} {entries : List (String × Setting)}
  {inner : Setting}

theorem ReadsAmong.read? (reads : settings.ReadsAmong group entries) {leaf : Leaf}
    (inGroup : leaf.group = group) {given : Setting}
    (found : entries.lookup leaf.name = some given) :
    leaf.read? given = some (leaf.of settings) := by
  have read := reads leaf inGroup
  unfold field? at read
  rw [found] at read
  exact read

theorem ReadsAmong.fitAmong (reads : settings.ReadsAmong group entries) :
    FitAmong group entries :=
  fun _ inGroup _ found => Option.isSome_of_eq_some (reads.read? inGroup found)

theorem FitAmong.exists_readsAmong (fit : FitAmong group entries) :
    ∃ settings : Settings, settings.ReadsAmong group entries := by
  refine ⟨Leaf.settings fun leaf =>
    (field? entries leaf.name (leaf.of {}) leaf.read?).getD (leaf.of {}), fun leaf inGroup => ?_⟩
  have readable : (field? entries leaf.name (leaf.of {}) leaf.read?).isSome := by
    unfold field?
    cases found : entries.lookup leaf.name with
    | none => rfl
    | some given => exact fit leaf inGroup given found
  obtain ⟨value, read⟩ := Option.isSome_iff_exists.mp readable
  rw [Leaf.of_settings, read]
  rfl

theorem fitAmong_nil : FitAmong group [] := fun _ _ _ found => nomatch found

/-- The settings of the engine are read one by one. -/
theorem engine?_eq_some_iff :
    engine? inner = some settings.engine ↔
      ∃ entries, fields? (namesIn "engine") inner = some entries ∧
        settings.ReadsAmong (some "engine") entries := by
  constructor
  · intro read
    simp only [engine?, Option.bind_eq_bind, Option.bind_eq_some_iff] at read
    obtain ⟨entries, opened, _, first, _, second, _, third, _, fourth, made⟩ := read
    obtain ⟨rfl, rfl, rfl, rfl⟩ := EngineSettings.mk.inj (Option.some.inj made)
    refine ⟨entries, opened, fun leaf inGroup => ?_⟩
    cases leaf with
    | rulesPath => exact first
    | triggerTimeoutMs => exact second
    | watchRules => exact third
    | reloadDebounceMs => exact fourth
    | _ => exact absurd inGroup (by decide)
  · rintro ⟨entries, opened, reads⟩
    have asTable : engine? inner = engine? (.table entries) := congrArg (Option.bind · _) opened
    rw [asTable]
    exact engine?_table reads

/-- The settings of logs and measures are read one by one. -/
theorem observability?_eq_some_iff :
    observability? inner = some settings.observability ↔
      ∃ entries, fields? (namesIn "observability") inner = some entries ∧
        settings.ReadsAmong (some "observability") entries := by
  constructor
  · intro read
    simp only [observability?, Option.bind_eq_bind, Option.bind_eq_some_iff] at read
    obtain ⟨entries, opened, _, first, _, second, _, third, _, fourth, made⟩ := read
    obtain ⟨rfl, rfl, rfl, rfl⟩ := ObservabilitySettings.mk.inj (Option.some.inj made)
    refine ⟨entries, opened, fun leaf inGroup => ?_⟩
    cases leaf with
    | logLevel => exact first
    | jsonLogs => exact second
    | metricsEnabled => exact third
    | metricsPort => exact fourth
    | _ => exact absurd inGroup (by decide)
  · rintro ⟨entries, opened, reads⟩
    have asTable : observability? inner = observability? (.table entries) :=
      congrArg (Option.bind · _) opened
    rw [asTable]
    exact observability?_table reads

/-- A group whose settings are read one by one can be read if all that is given for them can be. -/
theorem isSome_group?_iff {α : Type} {name : String} {read : Setting → Option α}
    {part : Settings → α} (complete : ∀ value, ∃ settings, part settings = value)
    (oneByOne : ∀ settings : Settings, read inner = some (part settings) ↔
      ∃ entries, fields? (namesIn name) inner = some entries ∧
        settings.ReadsAmong (some name) entries) :
    (read inner).isSome ↔ FitsGroup name inner := by
  constructor
  · intro readable
    obtain ⟨value, read⟩ := Option.isSome_iff_exists.mp readable
    obtain ⟨settings, rfl⟩ := complete value
    obtain ⟨entries, opened, reads⟩ := (oneByOne settings).mp read
    exact ⟨entries, opened, reads.fitAmong⟩
  · rintro ⟨entries, opened, fit⟩
    obtain ⟨settings, reads⟩ := fit.exists_readsAmong
    exact Option.isSome_of_eq_some ((oneByOne settings).mpr ⟨entries, opened, reads⟩)

theorem isSome_engine?_iff : (engine? inner).isSome ↔ FitsGroup "engine" inner :=
  isSome_group?_iff (fun engine => ⟨{ engine }, rfl⟩) fun _ => engine?_eq_some_iff

theorem isSome_observability?_iff :
    (observability? inner).isSome ↔ FitsGroup "observability" inner :=
  isSome_group?_iff (fun observability => ⟨{ observability }, rfl⟩)
    fun _ => observability?_eq_some_iff

end Groups

/-! ### All settings -/

/-- That a table of settings can be read. -/
structure Fits (setting : Setting) : Prop where
  outside : FitAmong none setting.entries
  inside : ∀ group ∈ groups, ∀ inner ∈ setting.get? [group], FitsGroup group inner

section Reading

variable {setting : Setting} {settings : Settings} {entries : List (String × Setting)}

/-- A table is read as its groups are, and one by one what is beside them. -/
theorem ofSetting?_table_eq_some_iff :
    ofSetting? (.table entries) = some settings ↔
      settings.ReadsAmong none entries ∧
        field? entries "engine" {} engine? = some settings.engine ∧
        field? entries "observability" {} observability? = some settings.observability := by
  constructor
  · intro read
    simp only [ofSetting?, fields?, Option.bind_eq_bind, Option.bind_some,
      Option.bind_eq_some_iff] at read
    obtain ⟨_, first, _, second, _, engine, _, observability, made⟩ := read
    obtain ⟨rfl, rfl, rfl, rfl⟩ := Settings.mk.inj (Option.some.inj made)
    refine ⟨fun leaf inGroup => ?_, engine, observability⟩
    cases leaf with
    | serviceName => exact first
    | environment => exact second
    | _ => exact absurd inGroup (by decide)
  · rintro ⟨reads, engine, observability⟩
    have first : field? entries "service_name" "" Setting.asText? = some settings.serviceName :=
      reads .serviceName rfl
    have second : field? entries "environment" "" Setting.asText? = some settings.environment :=
      reads .environment rfl
    simp only [ofSetting?, fields?, Option.bind_eq_bind, Option.bind_some, first, second, engine,
      observability]
    rfl

/-- A group that may be missing can be read if it is missing, or if what is there can be read. -/
theorem isSome_field?_iff {α : Type} {group : String} {builtIn : α} {read : Setting → Option α} :
    (field? entries group builtIn read).isSome ↔
      ∀ inner ∈ entries.lookup group, (read inner).isSome := by
  unfold field?
  cases entries.lookup group <;> simp

theorem forall_mem_groups {holds : String → Prop} :
    (∀ group ∈ groups, holds group) ↔ holds "engine" ∧ holds "observability" := by
  simp [groups]

theorem exists_eq_table (table : setting.isTable) : ∃ entries, setting = .table entries := by
  cases setting with
  | table entries => exact ⟨entries, rfl⟩
  | _ => exact absurd table Bool.false_ne_true

/-- A table can be read just if all that it has for settings can be. -/
theorem isSome_ofSetting?_iff (table : setting.isTable) :
    (ofSetting? setting).isSome ↔ Fits setting := by
  obtain ⟨entries, rfl⟩ := exists_eq_table table
  have inside : (∀ group ∈ groups, ∀ inner ∈ (Setting.table entries).get? [group],
      FitsGroup group inner) ↔
      (field? entries "engine" {} engine?).isSome ∧
        (field? entries "observability" {} observability?).isSome := by
    rw [forall_mem_groups, isSome_field?_iff, isSome_field?_iff]
    simp only [Setting.get?_singleton, Setting.entries_table, isSome_engine?_iff,
      isSome_observability?_iff]
  constructor
  · intro readable
    obtain ⟨settings, read⟩ := Option.isSome_iff_exists.mp readable
    obtain ⟨reads, engine, observability⟩ := ofSetting?_table_eq_some_iff.mp read
    exact ⟨reads.fitAmong, inside.mpr
      ⟨Option.isSome_of_eq_some engine, Option.isSome_of_eq_some observability⟩⟩
  · intro fits
    obtain ⟨settings, reads⟩ := fits.outside.exists_readsAmong
    obtain ⟨someEngine, someObservability⟩ := inside.mp fits.inside
    obtain ⟨engine, readEngine⟩ := Option.isSome_iff_exists.mp someEngine
    obtain ⟨observability, readObservability⟩ := Option.isSome_iff_exists.mp someObservability
    have together :
        ({ settings with engine, observability } : Settings).ReadsAmong none entries := by
      intro leaf inGroup
      refine (reads leaf inGroup).trans ?_
      cases leaf with
      | serviceName | environment => rfl
      | _ => exact absurd inGroup (by decide)
    exact Option.isSome_of_eq_some
      (ofSetting?_table_eq_some_iff.mpr ⟨together, readEngine, readObservability⟩)

/-- What has an entry is a table. -/
theorem isTable_of_lookup {inner : Setting} {name : String} {given : Setting}
    (found : inner.entries.lookup name = some given) : inner.isTable := by
  cases inner with
  | table => rfl
  | _ => exact nomatch found

theorem fields?_of_isTable {inner : Setting} (table : inner.isTable) (names : List String) :
    fields? names inner = some inner.entries := by
  obtain ⟨entries, rfl⟩ := exists_eq_table table
  rfl

/-- What stands at the place of a setting is what the setting is read from. -/
theorem read?_of_ofSetting? (table : setting.isTable) (read : ofSetting? setting = some settings)
    {leaf : Leaf} {given : Setting} (found : setting.get? leaf.place = some given) :
    leaf.read? given = some (leaf.of settings) := by
  obtain ⟨entries, rfl⟩ := exists_eq_table table
  obtain ⟨outside, engine, observability⟩ := ofSetting?_table_eq_some_iff.mp read
  have inside : ∀ group ∈ groups, ∀ inner ∈ (Setting.table entries).get? [group], ∃ fields,
      fields? (namesIn group) inner = some fields ∧
        settings.ReadsAmong (some group) fields := by
    simp only [Setting.get?_singleton, Setting.entries_table]
    refine forall_mem_groups.mpr ⟨fun inner isThere => ?_, fun inner isThere => ?_⟩
    · unfold field? at engine
      rw [show entries.lookup "engine" = some inner from isThere] at engine
      exact engine?_eq_some_iff.mp engine
    · unfold field? at observability
      rw [show entries.lookup "observability" = some inner from isThere] at observability
      exact observability?_eq_some_iff.mp observability
  unfold Leaf.place at found
  rw [Setting.get?_place] at found
  cases inGroup : leaf.group with
  | none =>
    rw [inGroup] at found
    exact outside.read? inGroup found
  | some group =>
    rw [inGroup, Setting.inside_some] at found
    have known : group ∈ groups := leaf.group_mem_groups group inGroup
    cases isThere : (Setting.table entries).get? [group] with
    | none =>
      rw [isThere] at found
      exact nomatch found
    | some inner =>
      rw [isThere, Option.getD_some] at found
      obtain ⟨fields, opened, reads⟩ := inside group known inner isThere
      rw [fields?_of_isTable (isTable_of_lookup found)] at opened
      obtain rfl := Option.some.inj opened
      exact reads.read? inGroup found

end Reading

/-! ### Layers over settings that can be read -/

namespace Layer

/-- That a layer puts tables where groups of settings go, and that what it gives for a setting can
be read. -/
structure Acceptable (layer : Layer) : Prop where
  keeps : layer.KeepsGroups
  readable : ∀ leaf : Leaf, ∀ given ∈ layer.gives? leaf.place, (leaf.read? given).isSome

section Acceptable

variable {layer : Layer} {layers : List Layer} {setting : Setting}

theorem Acceptable.isSingle (acceptable : layer.Acceptable) (leaf : Leaf) :
    ∀ given ∈ layer.gives? leaf.place, given.isSingle :=
  fun given gives => Leaf.isSingle_of_read? (acceptable.readable leaf given gives)

/-- What goes into a group finds there what can be read, or nothing. -/
theorem fitAmong_inside (fits : Fits setting) {group : String} (known : group ∈ groups) :
    FitAmong (some group) (setting.inside (some group)).entries := by
  rw [Setting.inside_some]
  cases isThere : setting.get? [group] with
  | none => exact fitAmong_nil
  | some inner =>
    obtain ⟨fields, opened, fit⟩ := fits.inside group known inner isThere
    intro leaf inGroup given found
    rw [Option.getD_some] at found
    rw [fields?_of_isTable (isTable_of_lookup found)] at opened
    obtain rfl := Option.some.inj opened
    exact fit leaf inGroup given found

/-- Beside the groups there is what the layer gives, or what was there before. -/
theorem Acceptable.fitAmong_onto (acceptable : layer.Acceptable) (regular : layer.IsRegular)
    (fits : Fits setting) : FitAmong none (onto setting layer).entries := by
  intro leaf outside given found
  have place : leaf.place = (none : Option String).toList ++ [leaf.name] := by
    rw [Leaf.place, outside]
  have single := acceptable.isSingle leaf
  rw [place] at single
  have known : ∀ name ∈ (none : Option String), name ∈ groups :=
    fun name member => absurd member (Option.not_mem_none name)
  have together := get?_onto_place regular acceptable.keeps known single setting
  rw [Setting.get?_place, Setting.get?_place, ← place] at together
  obtain gives | ⟨_, earlier⟩ := Option.or_eq_some_iff.mp (together.symm.trans found)
  · exact acceptable.readable leaf given gives
  · exact fits.outside leaf outside given earlier

/-- A group that the layer goes into is a table, with what the layer gives or what was there before;
another group is left alone. -/
theorem Acceptable.fitsGroup_onto (acceptable : layer.Acceptable) (regular : layer.IsRegular)
    (fits : Fits setting) {group : String} (known : group ∈ groups) {inner : Setting}
    (present : (onto setting layer).get? [group] = some inner) : FitsGroup group inner := by
  obtain ⟨head, rest, path⟩ := regular.named
  rw [get?_onto path] at present
  by_cases same : group = head
  · rw [if_pos same] at present
    obtain rfl := Option.some.inj present
    subst same
    have gives : ∀ place, layer.gives? (group :: place) = layer.setting.gives? rest place :=
      fun place => (gives?_cons path group place).trans (if_pos rfl)
    have keeps : ∀ given ∈ layer.setting.gives? rest [], given.isTable :=
      gives [] ▸ acceptable.keeps group known
    -- A list is made a table here, and then it has nothing of what stood in the list.
    have table := Setting.isTable_layAt keeps (setting.inside (some group))
    refine ⟨_, fields?_of_isTable table _, fun leaf inGroup given found => ?_⟩
    have place : leaf.place = [group, leaf.name] := by rw [Leaf.place, inGroup]; rfl
    have readable := acceptable.readable leaf
    have single := acceptable.isSingle leaf
    rw [place, gives] at readable single
    rw [Setting.lookup_layAt keeps regular.distinct single] at found
    obtain later | ⟨_, earlier⟩ := Option.or_eq_some_iff.mp found
    · exact readable given later
    · exact fitAmong_inside fits known leaf inGroup given earlier
  · rw [if_neg same] at present
    exact fits.inside group known inner present

/-- An acceptable layer over settings that can be read gives settings that can be read. -/
theorem Acceptable.fits_onto (acceptable : layer.Acceptable) (regular : layer.IsRegular)
    (fits : Fits setting) : Fits (onto setting layer) where
  outside := acceptable.fitAmong_onto regular fits
  inside _ known _ present := acceptable.fitsGroup_onto regular fits known present

/-- Acceptable layers over settings that can be read give settings that can be read. -/
theorem fits_foldl_onto (regular : ∀ layer ∈ layers, layer.IsRegular)
    (acceptable : ∀ layer ∈ layers, layer.Acceptable) (table : setting.isTable)
    (fits : Fits setting) :
    (layers.foldl onto setting).isTable ∧ Fits (layers.foldl onto setting) := by
  refine List.foldlRecOn (motive := fun setting => setting.isTable ∧ Fits setting) layers onto
    ⟨table, fits⟩ ?_
  intro setting invariant layer member
  exact ⟨isTable_onto (regular layer member) setting,
    (acceptable layer member).fits_onto (regular layer member) invariant.2⟩

end Acceptable

end Layer

end Settings

end Rulebook
