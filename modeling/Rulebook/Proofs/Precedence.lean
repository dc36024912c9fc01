/-
This file says which source of settings counts. A variable of the process comes before the file of
the service, that before the file of the environment, and that before the default file; where none
of them gives a setting, it has its built-in value. This holds for each setting by itself, those
inside a group too, so a source that gives some settings of a group leaves the others to the rest.

The files are looked up by name, and a file that is not there is stood in for by the one with a
second extension. That file can only be one of the other two, and then it is asked for by its own
name as well, so standing in changes nothing. A file without a name in front of its extension is
passed over, and so the law asks for a service with a name.
-/
import Rulebook.Proofs.Unrepeated
import Rulebook.Proofs.Leaves

namespace Rulebook

open Setting (groups)

namespace Settings

/-! ### Layers of files and of variables -/

namespace Layer

theorem isRegular_of_ofFile? {content : ByteArray} {layers : List Layer}
    (given : ofFile? content = some layers) : ∀ layer ∈ layers, layer.IsRegular := by
  intro layer member
  simp only [ofFile?, Option.bind_eq_bind, Option.bind_eq_some_iff] at given
  obtain ⟨_, _, table, written, listed⟩ := given
  obtain rfl := Option.some.inj listed
  obtain ⟨entry, inside, rfl⟩ := List.mem_map.mp member
  have distinct := Toml.distinct_of_ofText? written
  cases table with
  | table entries =>
    exact isRegular_pathOf entry.1.toList (Setting.distinct_of_mem distinct.2 inside)
  | _ => exact absurd inside List.not_mem_nil

theorem isRegular_of_ofVariable? {name text : String} {layer : Layer}
    (given : ofVariable? name text = some layer) : layer.IsRegular := by
  obtain ⟨path, written, rfl⟩ := Option.map_eq_some_iff.mp given
  simp only [variablePath?, Option.ite_none_right_eq_some, Option.some.injEq] at written
  obtain ⟨_, rfl⟩ := written
  exact isRegular_pathOf _ (Setting.distinct_of_isSingle (isSingle_ofVariable text))

end Layer

/-! ### What each source gives -/

namespace Sources

/-- The layers that the content of a file gives, if there is a file. -/
def contentLayers (content : Option ByteArray) : List Layer := (content.bind Layer.ofFile?).getD []

/-- What a file gives at a place. -/
def written? (content : Option ByteArray) (place : List String) : Option Setting :=
  Layer.lastGiven? (contentLayers content) place

/-- What the last variable that is for a setting gives for it. -/
def spoken? (environmentVariables : List (String × String)) (leaf : Leaf) : Option Setting :=
  (environmentVariables.reverse.find? fun entry => leaf.IsNamedBy entry.1).map fun entry =>
    ofVariable entry.2

/-- The content of the file that is called after something. -/
def ownContent (sources : Sources) (subject : String) : Option ByteArray :=
  sources.file (fileName subject)

/-- That the file that is called after something gives what its table has, if the outer names of the
table are plain. -/
def GivesTable (sources : Sources) (subject : String) : Prop :=
  ∀ content ∈ sources.ownContent subject, ∀ text ∈ String.fromUTF8? content, ∀ entries,
    Toml.ofText? (String.ofList (Toml.withoutMark text.toList)) = some (.table entries) →
    (∀ entry ∈ entries, Layer.IsPlain entry.1) → ∀ leaf : Leaf,
      written? (sources.ownContent subject) leaf.place = (Setting.table entries).get? leaf.place

/-- The built-in settings. -/
def builtIn (sources : Sources) : Settings :=
  { serviceName := sources.serviceName, environment := sources.environmentName }

/-- What the source that counts gives for a setting: the variables, or else the file of the
service, or else that of the environment, or else the default file. -/
def given? (sources : Sources) (leaf : Leaf) : Option Setting :=
  (spoken? sources.environmentVariables leaf).or <|
    (written? (sources.ownContent sources.serviceName) leaf.place).or <|
      (written? (sources.ownContent sources.environmentName) leaf.place).or <|
        written? (sources.ownContent "default") leaf.place

/-- That a variable gives nothing for any setting. -/
def Elsewhere (entry : String × String) : Prop :=
  ∀ layer ∈ Layer.ofVariable? entry.1 entry.2,
    layer.KeepsGroups ∧ ∀ leaf ∈ Leaf.all, layer.gives? leaf.place = none

/-- That a variable is for a setting that can read it, or gives nothing for any setting. -/
def Known (entry : String × String) : Prop :=
  (∃ leaf ∈ Leaf.all, leaf.IsNamedBy entry.1 ∧ (leaf.read? (ofVariable entry.2)).isSome) ∨
    Elsewhere entry

/-- Sources that can be read: the environment has a file name, there are no files but the three,
groups of settings are tables in them, and every setting in files and variables can be read as its
kind. -/
structure Tidy (sources : Sources) : Prop where
  environmentNamed : isNamed sources.environmentName
  onlyFiles : ∀ name, (sources.file name).isSome →
    ∃ subject ∈ sources.subjects, name = fileName subject
  readable : ∀ subject ∈ sources.subjects, ∀ content ∈ sources.ownContent subject,
    (Layer.ofFile? content).isSome
  grouped : ∀ subject ∈ sources.subjects,
    ∀ layer ∈ contentLayers (sources.ownContent subject), layer.KeepsGroups
  acceptable : ∀ subject ∈ sources.subjects,
    ∀ layer ∈ contentLayers (sources.ownContent subject), ∀ leaf ∈ Leaf.all,
      ∀ given ∈ layer.gives? leaf.place, (leaf.read? given).isSome
  known : ∀ entry ∈ sources.environmentVariables, Known entry

end Sources

/-- That each setting is what the source that counts gives for it, or has its built-in value if no
source gives it. -/
def Follows (settings : Settings) (sources : Sources) : Prop :=
  ∀ leaf : Leaf, match sources.given? leaf with
    | some given => leaf.read? given = some (leaf.of settings)
    | none => leaf.of settings = leaf.of sources.builtIn

theorem Follows.read? {settings : Settings} {sources : Sources} (follows : settings.Follows sources)
    {leaf : Leaf} {given : Setting} (counts : sources.given? leaf = some given) :
    leaf.read? given = some (leaf.of settings) := by
  have law := follows leaf
  rw [counts] at law
  exact law

namespace Sources

/-! ### Files by themselves -/

theorem isRegular_of_mem_contentLayers (content : Option ByteArray) :
    ∀ layer ∈ contentLayers content, layer.IsRegular := by
  intro layer member
  unfold contentLayers at member
  cases given : content.bind Layer.ofFile? with
  | none =>
    rw [given] at member
    exact absurd member List.not_mem_nil
  | some layers =>
    rw [given] at member
    obtain ⟨bytes, _, read⟩ := Option.bind_eq_some_iff.mp given
    exact Layer.isRegular_of_ofFile? read layer member

/-- What a file with plain names gives is what the table that it writes has. -/
theorem givesTable (sources : Sources) (subject : String) : sources.GivesTable subject := by
  intro content present text decoded entries written plain leaf
  have layers : contentLayers (some content) =
      entries.map fun entry => Layer.ofNamed entry.1 entry.2 := by
    have decoded : String.fromUTF8? content = some text := decoded
    simp [contentLayers, Layer.ofFile?, decoded, written]
  have found : sources.ownContent subject = some content := present
  obtain ⟨head, place, same⟩ : ∃ head place, leaf.place = head :: place := by
    cases leaf <;> exact ⟨_, _, rfl⟩
  rw [found, written?, layers, same]
  exact Layer.lastGiven?_plain plain (Toml.distinct_of_ofText? written).1 head place

/-! ### Variables by themselves -/

/-- The layers that the variables of the process give. -/
def variableLayers (environmentVariables : List (String × String)) : List Layer :=
  environmentVariables.filterMap fun entry => Layer.ofVariable? entry.1 entry.2

theorem spoken?_cons (entry : String × String) (rest : List (String × String)) (leaf : Leaf) :
    spoken? (entry :: rest) leaf = (spoken? rest leaf).or
      (if leaf.IsNamedBy entry.1 then some (ofVariable entry.2) else none) := by
  unfold spoken?
  rw [List.reverse_cons, List.find?_append]
  by_cases named : leaf.IsNamedBy entry.1 <;> simp [named]

variable {entry : String × String}

theorem Known.accepted (known : Known entry) {leaf : Leaf} (named : leaf.IsNamedBy entry.1) :
    (leaf.read? (ofVariable entry.2)).isSome := by
  obtain ⟨other, _, otherNamed, accepted⟩ | elsewhere := known
  · exact named.unique otherNamed ▸ accepted
  · obtain ⟨_, nothing⟩ := elsewhere _ (Leaf.ofVariable?_of_isNamedBy named entry.2)
    have given := leaf.gives?_path leaf (ofVariable entry.2)
    rw [if_pos rfl] at given
    exact nomatch given.symm.trans (nothing leaf leaf.mem_all)

/-- The layer of a variable gives its text for the setting that the variable is for, and nothing for
any other. -/
theorem Known.gives? (known : Known entry) {layer : Layer}
    (given : Layer.ofVariable? entry.1 entry.2 = some layer) (leaf : Leaf) :
    layer.gives? leaf.place =
      if leaf.IsNamedBy entry.1 then some (ofVariable entry.2) else none := by
  by_cases named : leaf.IsNamedBy entry.1
  · obtain rfl := Option.some.inj
      (given.symm.trans (Leaf.ofVariable?_of_isNamedBy named entry.2))
    rw [if_pos named]
    exact (leaf.gives?_path leaf _).trans (if_pos rfl)
  · rw [if_neg named]
    obtain ⟨other, _, otherNamed, _⟩ | elsewhere := known
    · obtain rfl := Option.some.inj
        (given.symm.trans (Leaf.ofVariable?_of_isNamedBy otherNamed entry.2))
      have differs : other ≠ leaf := fun same => named (same ▸ otherNamed)
      exact (other.gives?_path leaf _).trans (if_neg differs)
    · exact (elsewhere layer given).2 leaf leaf.mem_all

theorem Known.keepsGroups (known : Known entry) {layer : Layer}
    (given : Layer.ofVariable? entry.1 entry.2 = some layer) : layer.KeepsGroups := by
  obtain ⟨leaf, _, named, _⟩ | elsewhere := known
  · obtain rfl := Option.some.inj
      (given.symm.trans (Leaf.ofVariable?_of_isNamedBy named entry.2))
    exact leaf.keepsGroups_path _
  · exact (elsewhere layer given).1

/-- The layers of variables give for a setting what the last variable for it says. -/
theorem lastGiven?_variableLayers {environmentVariables : List (String × String)}
    (known : ∀ entry ∈ environmentVariables, Known entry) (leaf : Leaf) :
    Layer.lastGiven? (variableLayers environmentVariables) leaf.place =
      spoken? environmentVariables leaf := by
  induction environmentVariables with
  | nil => rfl
  | cons entry rest inductionHypothesis =>
    have others := inductionHypothesis fun other member =>
      known other (List.mem_cons_of_mem entry member)
    rw [spoken?_cons, ← others, variableLayers, List.filterMap_cons]
    cases given : Layer.ofVariable? entry.1 entry.2 with
    | none =>
      have unnamed : ¬ leaf.IsNamedBy entry.1 := fun named =>
        nomatch given.symm.trans (Leaf.ofVariable?_of_isNamedBy named entry.2)
      rw [if_neg unnamed, Option.or_none]
      rfl
    | some layer =>
      rw [← (known entry List.mem_cons_self).gives? given leaf]
      exact Layer.lastGiven?_cons ..

/-! ### Files that stand in -/

section Subjects

variable {sources : Sources} {subject : String}

theorem default_mem_subjects : "default" ∈ sources.subjects := by simp [subjects]

theorem environmentName_mem_subjects : sources.environmentName ∈ sources.subjects := by
  simp [subjects]

theorem serviceName_mem_subjects : sources.serviceName ∈ sources.subjects := by simp [subjects]

theorem fileName_injective : Function.Injective fileName := by
  intro first second same
  exact (String.append_left_inj ".toml").mp same

theorem spareName_eq (subject : String) : spareName subject = fileName (subject ++ ".toml") := by
  unfold spareName fileName
  rw [String.append_assoc]
  rfl

/-- The default file stands in for no other. -/
theorem append_ne_default (subject : String) : subject ++ ".toml" ≠ "default" := by
  intro same
  have ends := congrArg (fun text => text.toList.getLast?) same
  simp at ends

/-- The file that is read for a subject is that of the subject, or it is not there and another of
the files stands in for it, or none does. -/
theorem Tidy.content?_eq (tidy : sources.Tidy) (named : isNamed subject) :
    sources.content? subject = sources.ownContent subject ∨
      sources.ownContent subject = none ∧ ∃ other ∈ sources.subjects, other ≠ "default" ∧
        (sources.ownContent other).isSome ∧
        sources.content? subject = sources.ownContent other := by
  unfold content? ownContent
  cases present : sources.file (fileName subject) with
  | some content => exact Or.inl (if_pos named)
  | none =>
    cases spare : sources.file (spareName subject) with
    | none => exact Or.inl rfl
    | some content =>
      obtain ⟨other, member, same⟩ := tidy.onlyFiles _ (Option.isSome_of_eq_some spare)
      have standsIn : other = subject ++ ".toml" :=
        fileName_injective (same.symm.trans (spareName_eq subject))
      rw [same] at spare
      refine Or.inr ⟨rfl, other, member, ?_, Option.isSome_of_eq_some spare, spare.symm⟩
      rw [standsIn]
      exact append_ne_default subject

theorem Tidy.isNamed_of_mem (tidy : sources.Tidy) (named : isNamed sources.serviceName)
    (member : subject ∈ sources.subjects) : isNamed subject := by
  unfold subjects at member
  simp only [List.mem_cons, List.not_mem_nil, or_false] at member
  obtain rfl | rfl | rfl := member
  · decide +kernel
  · exact tidy.environmentNamed
  · exact named

/-- What is read for a subject is its own file; or there is no such file, and then it is another of
the files, which is read itself and counts for more than the default file. -/
theorem Tidy.content?_cases (tidy : sources.Tidy) (named : isNamed sources.serviceName)
    (member : subject ∈ sources.subjects) :
    sources.content? subject = sources.ownContent subject ∨
      sources.ownContent subject = none ∧
        ∃ other, (other = sources.environmentName ∨ other = sources.serviceName) ∧
          sources.content? other = sources.ownContent other ∧
          sources.content? subject = sources.ownContent other := by
  obtain same | ⟨absent, other, present, differs, isThere, standsIn⟩ :=
    tidy.content?_eq (tidy.isNamed_of_mem named member)
  · exact Or.inl same
  · have others : other = sources.environmentName ∨ other = sources.serviceName := by
      simpa [subjects, differs] using present
    have ownName : sources.content? other = sources.ownContent other := by
      obtain ⟨content, found⟩ := Option.isSome_iff_exists.mp isThere
      unfold ownContent at found ⊢
      unfold content?
      rw [found]
      exact if_pos (tidy.isNamed_of_mem named present)
    exact Or.inr ⟨absent, other, others, ownName, standsIn⟩

/-- Standing in changes nothing: a file that stands in for another counts by its own name before
the other would. -/
theorem Tidy.written?_content? (tidy : sources.Tidy) (named : isNamed sources.serviceName)
    (place : List String) :
    (written? (sources.content? sources.serviceName) place).or
        ((written? (sources.content? sources.environmentName) place).or
          (written? (sources.content? "default") place)) =
      (written? (sources.ownContent sources.serviceName) place).or
        ((written? (sources.ownContent sources.environmentName) place).or
          (written? (sources.ownContent "default") place)) := by
  have empty : written? none place = none := rfl
  -- One file after the other is called by its own name, the one that counts least first.
  have default := tidy.content?_cases named default_mem_subjects
  have environment := tidy.content?_cases named environmentName_mem_subjects
  have service := tidy.content?_cases named serviceName_mem_subjects
  calc
    _ = (written? (sources.content? sources.serviceName) place).or
        ((written? (sources.content? sources.environmentName) place).or
          (written? (sources.ownContent "default") place)) := by
      obtain same | ⟨absent, other, rfl | rfl, own, standsIn⟩ := default
      · rw [same]
      · rw [standsIn, own, absent, empty, Option.or_self, Option.or_none]
      · rw [standsIn, own, absent, empty, Option.or_none]
        cases written? (sources.ownContent sources.serviceName) place <;> simp
    _ = (written? (sources.content? sources.serviceName) place).or
        ((written? (sources.ownContent sources.environmentName) place).or
          (written? (sources.ownContent "default") place)) := by
      obtain same | ⟨absent, other, rfl | rfl, own, standsIn⟩ := environment
      · rw [same]
      · rw [standsIn]
      · rw [standsIn, own, absent, empty, Option.none_or, ← Option.or_assoc, Option.or_self]
    _ = _ := by
      obtain same | ⟨absent, other, rfl | rfl, own, standsIn⟩ := service
      · rw [same]
      · rw [standsIn, absent, empty, Option.none_or, ← Option.or_assoc, Option.or_self]
      · rw [standsIn]

end Subjects

/-! ### All layers -/

section Layers

variable {sources : Sources} {subject : String}

/-- What is read for a subject is the content of one of the files, or nothing. -/
theorem Tidy.content?_eq_ownContent (tidy : sources.Tidy) (named : isNamed sources.serviceName)
    (member : subject ∈ sources.subjects) :
    ∃ other ∈ sources.subjects, sources.content? subject = sources.ownContent other := by
  obtain same | ⟨_, other, present, _, _, standsIn⟩ :=
    tidy.content?_eq (tidy.isNamed_of_mem named member)
  · exact ⟨subject, member, same⟩
  · exact ⟨other, present, standsIn⟩

/-- The layers of all files are those of each subject in turn. -/
theorem mapM_ofFile? {subjects : List String}
    (readable : ∀ subject ∈ subjects, ∀ content ∈ sources.content? subject,
      (Layer.ofFile? content).isSome) :
    ((subjects.filterMap sources.content?).mapM Layer.ofFile?).map List.flatten =
      some (subjects.flatMap fun subject => contentLayers (sources.content? subject)) := by
  induction subjects with
  | nil => rfl
  | cons subject rest inductionHypothesis =>
    have others := inductionHypothesis fun other member =>
      readable other (List.mem_cons_of_mem _ member)
    rw [List.flatMap_cons]
    obtain ⟨lists, read, flat⟩ := Option.map_eq_some_iff.mp others
    cases content : sources.content? subject with
    | none =>
      rw [List.filterMap_cons_none content, others]
      rfl
    | some content =>
      obtain ⟨layers, given⟩ :=
        Option.isSome_iff_exists.mp (readable subject List.mem_cons_self _ ‹_›)
      rw [List.filterMap_cons_some ‹_›, List.mapM_cons, given, read, ← flat]
      simp [contentLayers, given]

/-- The layers of all files that are read. -/
def readLayers (sources : Sources) : List Layer :=
  sources.subjects.flatMap fun subject => contentLayers (sources.content? subject)

/-- The built-in values as a setting. -/
def baseSetting (sources : Sources) : Setting :=
  .table [("service_name", .text sources.serviceName),
    ("environment", .text sources.environmentName)]

/-- All layers over the built-in values, if every file can be read. -/
def whole (sources : Sources) : Setting :=
  (variableLayers sources.environmentVariables).foldl Layer.onto
    (sources.readLayers.foldl Layer.onto sources.baseSetting)

theorem pathOf_serviceName : Setting.pathOf "service_name".toList = [.name "service_name"] := by
  decide +kernel

theorem pathOf_environment : Setting.pathOf "environment".toList = [.name "environment"] := by
  decide +kernel

theorem foldl_baseLayers :
    sources.baseLayers.foldl Layer.onto (.table []) = sources.baseSetting := by
  unfold baseLayers Layer.ofNamed
  rw [pathOf_serviceName, pathOf_environment]
  rfl

theorem Tidy.load?_eq (tidy : sources.Tidy) (named : isNamed sources.serviceName) :
    load? sources = ofSetting? sources.whole := by
  have files : sources.fileLayers? = some sources.readLayers := by
    refine mapM_ofFile? fun subject member content present => ?_
    obtain ⟨other, isSubject, same⟩ := tidy.content?_eq_ownContent named member
    exact tidy.readable other isSubject content (same ▸ present)
  have layers : sources.layers? = some (sources.baseLayers ++ sources.readLayers ++
      variableLayers sources.environmentVariables) := by
    unfold layers?
    rw [files]
    rfl
  unfold load? whole
  rw [layers, ← foldl_baseLayers, ← List.foldl_append, ← List.foldl_append]
  rfl

theorem isGrouped_baseSetting : sources.baseSetting.IsGrouped := by
  have noGroup : ∀ group ∈ groups, sources.baseSetting.get? [group] = none := by
    simp [baseSetting, groups, Setting.get?, Setting.entries, lookup_cons_eq_ite]
  intro group known inner present
  exact absurd present (by simp [noGroup group known])

/-- Where no source says otherwise, each setting has its built-in value. -/
theorem readIn?_baseSetting (leaf : Leaf) :
    leaf.readIn? sources.baseSetting = some (leaf.of sources.builtIn) := by
  cases leaf <;> rfl

/-- Variables, laid over earlier settings. -/
theorem get?_foldl_variableLayers {environmentVariables : List (String × String)}
    (known : ∀ entry ∈ environmentVariables, Known entry) (leaf : Leaf) (earlier : Setting) :
    ((variableLayers environmentVariables).foldl Layer.onto earlier).get? leaf.place =
      (spoken? environmentVariables leaf).or (earlier.get? leaf.place) := by
  rw [← lastGiven?_variableLayers known leaf]
  refine Layer.get?_foldl_onto leaf.group_mem_groups ?_ ?_ ?_ earlier
  all_goals
    intro layer member
    obtain ⟨entry, inside, given⟩ := List.mem_filterMap.mp member
  · exact Layer.isRegular_of_ofVariable? given
  · exact (known entry inside).keepsGroups given
  · intro setting gives
    have gives : layer.gives? leaf.place = some setting := gives
    rw [(known entry inside).gives? given leaf] at gives
    obtain ⟨_, same⟩ := Option.ite_none_right_eq_some.mp gives
    exact Option.some.inj same ▸ isSingle_ofVariable entry.2

section Tidy

variable (tidy : sources.Tidy) (named : isNamed sources.serviceName)

include tidy named

theorem Tidy.keepsGroups_content? (member : subject ∈ sources.subjects) :
    ∀ layer ∈ contentLayers (sources.content? subject), layer.KeepsGroups := by
  obtain ⟨other, isSubject, same⟩ := tidy.content?_eq_ownContent named member
  rw [same]
  exact tidy.grouped other isSubject

/-- What is read for a subject, laid over earlier settings. -/
theorem Tidy.get?_foldl_content? (member : subject ∈ sources.subjects) (leaf : Leaf)
    (earlier : Setting) :
    ((contentLayers (sources.content? subject)).foldl Layer.onto earlier).get? leaf.place =
      (written? (sources.content? subject) leaf.place).or (earlier.get? leaf.place) := by
  refine Layer.get?_foldl_onto leaf.group_mem_groups (isRegular_of_mem_contentLayers _)
    (tidy.keepsGroups_content? named member) (fun layer inside given gives => ?_) earlier
  obtain ⟨other, isSubject, same⟩ := tidy.content?_eq_ownContent named member
  rw [same] at inside
  exact Leaf.isSingle_of_read?
    (tidy.acceptable other isSubject layer inside leaf leaf.mem_all given gives)

/-- All layers together give for a setting what the source that counts gives. -/
theorem Tidy.get?_whole (leaf : Leaf) :
    sources.whole.get? leaf.place =
      (sources.given? leaf).or (sources.baseSetting.get? leaf.place) := by
  have files := tidy.written?_content? named leaf.place
  have service := tidy.get?_foldl_content? named serviceName_mem_subjects leaf
  have environment := tidy.get?_foldl_content? named environmentName_mem_subjects leaf
  have default := tidy.get?_foldl_content? named default_mem_subjects leaf
  unfold whole readLayers subjects given?
  simp only [List.foldl_append, List.flatMap_cons, List.flatMap_nil, List.append_nil]
  rw [get?_foldl_variableLayers tidy.known, service, environment, default, ← files]
  simp only [Option.or_assoc]

/-- All layers together give a table, and tables for the groups of settings. -/
theorem Tidy.isGrouped_whole : sources.whole.isTable ∧ sources.whole.IsGrouped := by
  have files : (sources.readLayers.foldl Layer.onto sources.baseSetting).isTable ∧
      (sources.readLayers.foldl Layer.onto sources.baseSetting).IsGrouped := by
    refine Layer.isGrouped_foldl_onto (fun layer member => ?_) (fun layer member => ?_)
      rfl isGrouped_baseSetting
    all_goals obtain ⟨subject, isSubject, inside⟩ := List.mem_flatMap.mp member
    · exact isRegular_of_mem_contentLayers _ layer inside
    · exact tidy.keepsGroups_content? named isSubject layer inside
  refine Layer.isGrouped_foldl_onto (fun layer member => ?_) (fun layer member => ?_)
    files.1 files.2
  all_goals obtain ⟨entry, inside, given⟩ := List.mem_filterMap.mp member
  · exact Layer.isRegular_of_ofVariable? given
  · exact (tidy.known entry inside).keepsGroups given

/-- Each setting is read as what the source that counts gives for it. -/
theorem Tidy.readIn?_whole (leaf : Leaf) :
    leaf.readIn? sources.whole =
      match sources.given? leaf with
      | some given => leaf.read? given
      | none => some (leaf.of sources.builtIn) := by
  have together := tidy.get?_whole named leaf
  cases counts : sources.given? leaf with
  | none =>
    rw [← readIn?_baseSetting leaf]
    unfold Leaf.readIn?
    rw [together, counts, Option.none_or]
  | some given =>
    unfold Leaf.readIn?
    rw [together, counts, Option.some_or]

end Tidy

/-- What a file gives for a setting can be read. -/
theorem Tidy.isSome_read?_written? (tidy : sources.Tidy) (isSubject : subject ∈ sources.subjects)
    {leaf : Leaf} {given : Setting}
    (writes : written? (sources.ownContent subject) leaf.place = some given) :
    (leaf.read? given).isSome := by
  obtain ⟨layer, inside, gives⟩ := Layer.exists_of_lastGiven? writes
  exact tidy.acceptable subject isSubject layer inside leaf leaf.mem_all given gives

/-- What the variables give for a setting can be read. -/
theorem isSome_read?_spoken? {environmentVariables : List (String × String)}
    (known : ∀ entry ∈ environmentVariables, Known entry) {leaf : Leaf} {given : Setting}
    (speaks : spoken? environmentVariables leaf = some given) : (leaf.read? given).isSome := by
  obtain ⟨entry, found, rfl⟩ := Option.map_eq_some_iff.mp speaks
  have inside := List.mem_reverse.mp (List.mem_of_find?_eq_some found)
  have named := List.find?_some found
  exact (known entry inside).accepted (of_decide_eq_true named)

/-- What counts for a setting can be read. -/
theorem Tidy.isSome_read?_given? (tidy : sources.Tidy) {leaf : Leaf} {given : Setting}
    (counts : sources.given? leaf = some given) : (leaf.read? given).isSome := by
  obtain byVariables | ⟨_, files⟩ := Option.or_eq_some_iff.mp counts
  · exact isSome_read?_spoken? tidy.known byVariables
  obtain service | ⟨_, files⟩ := Option.or_eq_some_iff.mp files
  · exact tidy.isSome_read?_written? serviceName_mem_subjects service
  obtain environment | ⟨_, default⟩ := Option.or_eq_some_iff.mp files
  · exact tidy.isSome_read?_written? environmentName_mem_subjects environment
  · exact tidy.isSome_read?_written? default_mem_subjects default

end Layers

/-! ### Which source counts -/

/-- The sources of settings count one after the other, for each setting by itself: the settings
are loaded, and each is what the variables of the process give for it, or else the file of the
service, or else that of the environment, or else the default file, or else its built-in value; and
what a file with plain names gives is what its table has. -/
theorem load?_follows {sources : Sources} (tidy : sources.Tidy)
    (named : isNamed sources.serviceName) :
    (∃ settings, load? sources = some settings ∧ settings.Follows sources) ∧
      ∀ subject ∈ sources.subjects, sources.GivesTable subject := by
  have readable : ∀ leaf : Leaf, (leaf.readIn? sources.whole).isSome := by
    intro leaf
    rw [tidy.readIn?_whole named]
    cases counts : sources.given? leaf with
    | none => rfl
    | some given => exact tidy.isSome_read?_given? counts
  let settings := Leaf.settings fun leaf => (leaf.readIn? sources.whole).get (readable leaf)
  have each : ∀ leaf : Leaf, leaf.readIn? sources.whole = some (leaf.of settings) := by
    intro leaf
    rw [Leaf.of_settings, Option.some_get]
  obtain ⟨table, grouped⟩ := tidy.isGrouped_whole named
  refine ⟨⟨settings, ?_, fun leaf => ?_⟩, ?_⟩
  · rw [tidy.load?_eq named]
    exact ofSetting?_of_readIn? table grouped each
  · have read := each leaf
    rw [tidy.readIn?_whole named] at read
    cases counts : sources.given? leaf with
    | none =>
      rw [counts] at read
      exact (Option.some.inj read).symm
    | some given =>
      rw [counts] at read
      exact read
  · exact fun subject _ => sources.givesTable subject

/-- Sources with files of some texts. -/
def ofTexts (serviceName : String) (files environmentVariables : List (String × String)) :
    Sources where
  serviceName
  environment := environmentVariables.lookup "RULES_ENV"
  file name := (files.lookup name).map String.toUTF8
  environmentVariables

section Texts

variable {serviceName : String} {files environmentVariables : List (String × String)}

/-- A file of some texts is there if one of them is called so. -/
theorem isSome_file_ofTexts_iff {name : String} :
    ((ofTexts serviceName files environmentVariables).file name).isSome ↔
      name ∈ files.map Prod.fst := by
  show ((files.lookup name).map String.toUTF8).isSome ↔ _
  rw [Option.isSome_map, List.lookup_isSome_iff, List.mem_map]
  exact exists_congr fun _ => and_congr_right' (beq_iff_eq.trans eq_comm)

instance (entry : String × String) : Decidable (Elsewhere entry) :=
  inferInstanceAs (Decidable (∀ layer ∈ Layer.ofVariable? entry.1 entry.2,
    layer.KeepsGroups ∧ ∀ leaf ∈ Leaf.all, layer.gives? leaf.place = none))

instance (entry : String × String) : Decidable (Known entry) :=
  inferInstanceAs (Decidable ((∃ leaf ∈ Leaf.all, leaf.IsNamedBy entry.1 ∧
    (leaf.read? (ofVariable entry.2)).isSome) ∨ Elsewhere entry))

/-- That sources with files of some texts are tidy can be decided. -/
theorem tidy_ofTexts_iff : (ofTexts serviceName files environmentVariables).Tidy ↔
    let sources := ofTexts serviceName files environmentVariables
    isNamed sources.environmentName ∧
      (∀ name ∈ files.map Prod.fst, ∃ subject ∈ sources.subjects, name = fileName subject) ∧
      (∀ subject ∈ sources.subjects, ∀ content ∈ sources.ownContent subject,
        (Layer.ofFile? content).isSome) ∧
      (∀ subject ∈ sources.subjects,
        ∀ layer ∈ contentLayers (sources.ownContent subject), layer.KeepsGroups) ∧
      (∀ subject ∈ sources.subjects,
        ∀ layer ∈ contentLayers (sources.ownContent subject), ∀ leaf ∈ Leaf.all,
          ∀ given ∈ layer.gives? leaf.place, (leaf.read? given).isSome) ∧
      ∀ entry ∈ environmentVariables, Known entry := by
  constructor
  · rintro ⟨named, only, readable, grouped, acceptable, known⟩
    exact ⟨named, fun name member => only name (isSome_file_ofTexts_iff.mpr member), readable,
      grouped, acceptable, known⟩
  · rintro ⟨named, only, readable, grouped, acceptable, known⟩
    exact ⟨named, fun name present => only name (isSome_file_ofTexts_iff.mp present), readable,
      grouped, acceptable, known⟩

end Texts

/-- Files that give some settings of a group, and a variable for another. -/
def layeredSources : Sources :=
  ofTexts "rule-dispatcher"
    [("default.toml", "[engine]\nrules_path = \"all\"\ntrigger_timeout_ms = 1000\n"),
      ("rule-dispatcher.toml", "[engine]\nrules_path = \"own\"\n")]
    [("RULES_ENGINE__WATCH_RULES", "off")]

theorem tidy_layeredSources : layeredSources.Tidy := tidy_ofTexts_iff.mpr (by decide +kernel)

/-- The law at sources that share the settings of a group among them. -/
theorem load?_follows_layeredSources :
    layeredSources.Tidy ∧ isNamed layeredSources.serviceName ∧
      ∃ settings, load? layeredSources = some settings ∧ settings.Follows layeredSources :=
  have named : isNamed layeredSources.serviceName := by decide +kernel
  ⟨tidy_layeredSources, named, (load?_follows tidy_layeredSources named).1⟩

/-- A service without a name, and the file that is called after it. -/
def unnamedSources : Sources :=
  ofTexts "" [(".toml", "[engine]\nrules_path = \"own\"\n")] []

theorem tidy_unnamedSources : unnamedSources.Tidy := tidy_ofTexts_iff.mpr (by decide +kernel)

/-- The file of a service without a name does not count, though nothing else gives what it
gives. -/
theorem unnamed_not_follows : unnamedSources.Tidy ∧
    ¬ ∃ settings, load? unnamedSources = some settings ∧ settings.Follows unnamedSources := by
  refine ⟨tidy_unnamedSources, fun ⟨settings, loaded, follows⟩ => ?_⟩
  have builtIn : load? unnamedSources = some { environment := "development" } := by
    decide +kernel
  have counted : (unnamedSources.given? .rulesPath).bind Setting.asText? = some "own" := by
    decide +kernel
  obtain rfl := Option.some.inj (loaded.symm.trans builtIn)
  obtain ⟨given, counts, read⟩ := Option.bind_eq_some_iff.mp counted
  have same : some "own" = some "config/rules.json" := read.symm.trans (follows.read? counts)
  exact absurd same (by decide)

end Sources

end Settings

end Rulebook
