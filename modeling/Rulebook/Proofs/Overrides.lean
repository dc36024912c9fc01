/-
This file says what becomes of a setting that is a text when a variable of the process gives it. The
text of the variable is first read as a Boolean, an integer or a double, and what it is read as is
written out again where a text is wanted. So a text that spells none of these is kept, and one that
spells something is kept just if it is the way in which that is written: `007`, `+7` and `TRUE` are
not, and a path of digits and points may lose some of them.

Whatever the text is, the settings are loaded if they would be without the variables.
-/
import Rulebook.Proofs.Fitting
import Rulebook.Proofs.Integers
import Rulebook.Proofs.Precedence

namespace Rulebook

/-! ### Spellings of numbers -/

/-- A text whose first character is neither a sign nor a digit nor a point spells no number, unless
it is the name of one. -/
theorem Number.ofText?_eq_none {text : String} {first : Char} {rest : List Char}
    (shape : text.toList = first :: rest) (noMark : first ∉ ['-', '+', '.'])
    (noDigit : first.isDigit = false) (noName : (first :: rest).map Char.toLower ∉
      [['i', 'n', 'f'], ['i', 'n', 'f', 'i', 'n', 'i', 't', 'y'], ['n', 'a', 'n']]) :
    Number.ofText? text = none := by
  simp only [List.mem_cons, List.not_mem_nil, or_false, not_or] at noName noMark
  obtain ⟨noMinus, noPlus, noPoint⟩ := noMark
  have unsigned : splitSign (first :: rest) = (false, first :: rest) := by
    simp [splitSign, noMinus, noPlus]
  have noWhole : spanDigits (first :: rest) = ([], first :: rest) := by
    simp [spanDigits, noDigit]
  have noFraction : splitFraction (first :: rest) = ([], first :: rest) := by
    simp [splitFraction, noPoint]
  unfold Number.ofText?
  rw [shape, unsigned]
  dsimp only
  rw [if_neg (not_or.mpr ⟨noName.1, noName.2.1⟩), if_neg noName.2.2]
  unfold decimalOf?
  rw [noWhole]
  dsimp only
  rw [noFraction]
  rfl

/-- What is spelled without a fraction and an exponent is digits, and a sign or none. -/
theorem WrittenNumber.spelled_whole_iff {negative : Bool} {digits characters : List Char} :
    Spelled ⟨negative, digits, [], none⟩ characters ↔
      ∃ sign, SpelledSign negative sign ∧ Digits digits ∧ characters = sign ++ digits := by
  constructor
  · rintro ⟨sign, _, _, signed, whole, ⟨-, rfl⟩ | ⟨⟨nonempty, -⟩, -⟩, rfl, rfl⟩
    · exact ⟨sign, signed, whole, by simp⟩
    · exact absurd rfl nonempty
  · rintro ⟨sign, signed, whole, rfl⟩
    exact ⟨sign, [], [], signed, whole, .inl ⟨rfl, rfl⟩, rfl, by simp⟩

namespace Settings

/-! ### What texts spell -/

/-- How a Boolean is written. -/
def flagText (flag : Bool) : String := if flag then "true" else "false"

/-- That a text spells a Boolean, in any case. -/
def SpellsFlag (text : String) (flag : Bool) : Prop := Text.lower text = flagText flag

/-- That a text spells an integer of 64 bits, by digits and a sign or none. -/
def SpellsInteger (text : String) (value : Int) : Prop :=
  ∃ negative digits, WrittenNumber.Spelled ⟨negative, digits, [], none⟩ text.toList ∧
    value = (if negative then -(digitsValue digits : Int) else digitsValue digits) ∧
    Setting.isShort value = true

section Spelling

variable {text : String} {value : Int} {flag : Bool} {number : Number}

theorem spellsFlag_flagText (flag : Bool) : SpellsFlag (flagText flag) flag := by
  unfold SpellsFlag
  cases flag <;> decide +kernel

/-- An integer is spelled as it is written. -/
theorem spellsInteger_toString (short : Setting.isShort value = true) :
    SpellsInteger (toString value) value := by
  have digits : WrittenNumber.Digits (Nat.toDigits 10 value.natAbs) :=
    ⟨Nat.toDigits_ne_nil, Document.isDigit_toDigits _⟩
  have size : digitsValue (Nat.toDigits 10 value.natAbs) = value.natAbs :=
    Nat.ofDigitChars_ten_toDigits
  refine ⟨decide (value < 0), _, WrittenNumber.spelled_whole_iff.mpr
    ⟨_, ?_, digits, toList_toString_int value⟩, ?_, short⟩
  · by_cases negative : value < 0 <;> simp [negative, WrittenNumber.SpelledSign]
  · rw [size]
    by_cases negative : value < 0
    · rw [decide_eq_true negative, if_pos rfl]
      omega
    · rw [decide_eq_false negative, if_neg Bool.false_ne_true]
      omega

/-- An integer can be read as a double, too. -/
theorem SpellsInteger.ofText?_ne_none (spells : SpellsInteger text value) :
    Number.ofText? text ≠ none := by
  obtain ⟨negative, digits, spelled, -, -⟩ := spells
  have read := WrittenNumber.ofText?_of_spelled spelled
  rw [String.ofList_toList] at read
  exact Option.ne_none_iff_exists'.mpr ⟨_, read⟩

/-- No Boolean is spelled like a number. -/
theorem SpellsFlag.ofText?_eq_none (spells : SpellsFlag text flag) :
    Number.ofText? text = none := by
  have letters : text.toList.map Char.toLower = (flagText flag).toList := by
    rw [← String.toList_map]
    exact congrArg String.toList spells
  cases shape : text.toList with
  | nil =>
    rw [shape] at letters
    cases flag <;> exact nomatch letters
  | cons first rest =>
    rw [shape] at letters
    have starts : first.toLower = 't' ∨ first.toLower = 'f' := by
      cases flag
      · exact .inr (List.cons.inj letters).1
      · exact .inl (List.cons.inj letters).1
    refine Number.ofText?_eq_none shape (fun mark => ?_) (Bool.eq_false_iff.mpr fun digit => ?_) ?_
    · simp only [List.mem_cons, List.not_mem_nil, or_false] at mark
      rcases mark with rfl | rfl | rfl <;> exact absurd starts (by decide)
    · rw [WrittenNumber.toLower_of_isDigit digit] at starts
      rcases starts with rfl | rfl <;> exact nomatch digit
    · rw [letters]
      cases flag <;> decide

/-! ### What a variable is read as -/

theorem SpellsFlag.ofVariable_eq (spells : SpellsFlag text flag) :
    ofVariable text = .bool flag := by
  unfold SpellsFlag at spells
  unfold ofVariable
  rw [spells]
  cases flag <;> rfl

theorem SpellsInteger.ofVariable_eq (spells : SpellsInteger text value) :
    ofVariable text = .integer value := by
  have noFlag : ∀ flag, ¬ SpellsFlag text flag := fun _ isFlag =>
    spells.ofText?_ne_none isFlag.ofText?_eq_none
  obtain ⟨negative, digits, spelled, rfl, short⟩ := spells
  obtain ⟨sign, signed, ⟨nonempty, all⟩, parts⟩ := WrittenNumber.spelled_whole_iff.mp spelled
  obtain ⟨digit, others, rfl⟩ := List.exists_cons_of_ne_nil nonempty
  have unsigned : splitSign text.toList = (negative, digit :: others) := by
    rw [parts]
    exact WrittenNumber.splitSign_append signed (all digit List.mem_cons_self) others
  have isInteger : (!(digit :: others).isEmpty && (digit :: others).all Char.isDigit) = true := by
    rw [List.all_eq_true.mpr all]
    rfl
  unfold ofVariable
  split
  · next same => exact absurd same (noFlag true)
  · next same => exact absurd same (noFlag false)
  · rw [unsigned]
    dsimp only
    rw [isInteger, short]
    rfl

/-- What is no Boolean and no integer is a double, if it spells one. -/
theorem ofVariable_eq (noFlag : ∀ flag, ¬ SpellsFlag text flag)
    (noInteger : ∀ value, ¬ SpellsInteger text value) :
    ofVariable text = ((Number.ofText? text).map Setting.real).getD (.text text) := by
  unfold ofVariable
  split
  · next same => exact absurd same (noFlag true)
  · next same => exact absurd same (noFlag false)
  · obtain ⟨sign, signed, parts⟩ := Document.exists_append_of_splitSign text.toList
    generalize splitSign text.toList = split at signed parts
    obtain ⟨negative, digits⟩ := split
    dsimp only at signed parts ⊢
    generalize size :
      (if negative = true then -(digitsValue digits : Int) else digitsValue digits) = value
    have noDigits :
        ¬ (!digits.isEmpty && digits.all Char.isDigit && Setting.isShort value) = true := by
      intro isInteger
      simp only [Bool.and_eq_true, Bool.not_eq_true', List.isEmpty_eq_false_iff,
        List.all_eq_true] at isInteger
      obtain ⟨isDigits, short⟩ := isInteger
      exact noInteger value ⟨negative, digits,
        WrittenNumber.spelled_whole_iff.mpr ⟨sign, signed, isDigits, parts⟩, size.symm, short⟩
    rw [if_neg noDigits]
    cases Number.ofText? text <;> rfl

end Spelling

/-! ### What a text is written as -/

/-- That a text, read as what it spells and written out again, becomes some text: a Boolean or an
integer has one way in which it is written, another number is written as the double that it is, and
the rest stays as it is. -/
inductive WrittenOut (text : String) : String → Prop where
  | flag {flag : Bool} (spells : SpellsFlag text flag) : WrittenOut text (flagText flag)
  | integer {value : Int} (spells : SpellsInteger text value) : WrittenOut text (toString value)
  | real {number : Number} (noInteger : ∀ value, ¬ SpellsInteger text value)
      (spells : Number.ofText? text = some number) : WrittenOut text number.display
  | other (noFlag : ∀ flag, ¬ SpellsFlag text flag) (noNumber : Number.ofText? text = none) :
      WrittenOut text text

/-- That a text spells nothing, or is the way in which that is written which it spells. -/
inductive Kept (text : String) : Prop where
  | flag (flag : Bool) (written : text = flagText flag)
  | integer (value : Int) (short : Setting.isShort value = true) (written : text = toString value)
  | real (number : Number) (noInteger : ∀ value, ¬ SpellsInteger text value)
      (spells : Number.ofText? text = some number) (written : text = number.display)
  | other (noFlag : ∀ flag, ¬ SpellsFlag text flag) (noNumber : Number.ofText? text = none)

section Writing

variable {text shown : String}

/-- A text is written out as what a variable with this text is read as. -/
theorem asText?_ofVariable_eq_some_iff :
    (ofVariable text).asText? = some shown ↔ WrittenOut text shown := by
  constructor
  · intro written
    -- The order is that in which a variable is read; a double comes last, as every integer is one.
    by_cases isFlag : ∃ flag, SpellsFlag text flag
    · obtain ⟨flag, spells⟩ := isFlag
      rw [spells.ofVariable_eq] at written
      obtain rfl := Option.some.inj written
      exact .flag spells
    by_cases isInteger : ∃ value, SpellsInteger text value
    · obtain ⟨value, spells⟩ := isInteger
      rw [spells.ofVariable_eq] at written
      obtain rfl := Option.some.inj written
      exact .integer spells
    have noFlag := not_exists.mp isFlag
    have noInteger := not_exists.mp isInteger
    rw [ofVariable_eq noFlag noInteger] at written
    cases spells : Number.ofText? text with
    | none =>
      rw [spells] at written
      obtain rfl := Option.some.inj written
      exact .other noFlag spells
    | some number =>
      rw [spells] at written
      obtain rfl := Option.some.inj written
      exact .real noInteger spells
  · intro written
    cases written with
    | flag spells =>
      rw [spells.ofVariable_eq]
      rfl
    | integer spells =>
      rw [spells.ofVariable_eq]
      rfl
    | real noInteger spells =>
      have noFlag : ∀ flag, ¬ SpellsFlag text flag := fun flag isFlag =>
        nomatch spells.symm.trans isFlag.ofText?_eq_none
      rw [ofVariable_eq noFlag noInteger, spells]
      rfl
    | other noFlag noNumber =>
      have noInteger : ∀ value, ¬ SpellsInteger text value := fun value isInteger =>
        isInteger.ofText?_ne_none noNumber
      rw [ofVariable_eq noFlag noInteger, noNumber]
      rfl

theorem Kept.writtenOut (kept : Kept text) : WrittenOut text text := by
  cases kept with
  | flag flag written =>
    have out := WrittenOut.flag (spellsFlag_flagText flag)
    rwa [← written] at out
  | integer value short written =>
    have out := WrittenOut.integer (spellsInteger_toString short)
    rwa [← written] at out
  | real number noInteger spells written =>
    have out := WrittenOut.real noInteger spells
    rwa [← written] at out
  | other noFlag noNumber => exact .other noFlag noNumber

/-- A text comes out as it went in just if it is kept. -/
theorem WrittenOut.eq_iff_kept (written : WrittenOut text shown) : shown = text ↔ Kept text := by
  constructor
  · intro same
    cases written with
    | flag spells => exact .flag _ same.symm
    | integer spells =>
      obtain ⟨_, _, _, _, short⟩ := spells
      exact .integer _ short same.symm
    | real noInteger spells => exact .real _ noInteger spells same.symm
    | other noFlag noNumber => exact .other noFlag noNumber
  · intro kept
    exact Option.some.inj ((asText?_ofVariable_eq_some_iff.mpr written).symm.trans
      (asText?_ofVariable_eq_some_iff.mpr kept.writtenOut))

/-- An ordinary text is kept: one that begins with no sign, digit or point and is not the name of a
Boolean or a number. -/
theorem Kept.of_ordinary {first : Char} {rest : List Char} (shape : text.toList = first :: rest)
    (noMark : first ∉ ['-', '+', '.']) (noDigit : first.isDigit = false)
    (noName : (first :: rest).map Char.toLower ∉
      [['i', 'n', 'f'], ['i', 'n', 'f', 'i', 'n', 'i', 't', 'y'], ['n', 'a', 'n']])
    (noFlag : ∀ flag, ¬ SpellsFlag text flag) : Kept text :=
  .other noFlag (Number.ofText?_eq_none shape noMark noDigit noName)

example : Kept "config/2024.10.json" :=
  .of_ordinary rfl (by decide) rfl (by decide) (by unfold SpellsFlag; decide +kernel)

end Writing

/-! ### Settings that are texts -/

/-- A setting that is a text. -/
inductive TextSetting where
  | serviceName | environment | rulesPath | logLevel

namespace TextSetting

/-- All settings that are texts. -/
def all : List TextSetting := [serviceName, environment, rulesPath, logLevel]

/-- The setting among all settings. -/
def leaf : TextSetting → Leaf
  | .serviceName => .serviceName
  | .environment => .environment
  | .rulesPath => .rulesPath
  | .logLevel => .logLevel

/-- The text of a setting. -/
def of (settings : Settings) : TextSetting → String
  | .serviceName => settings.serviceName
  | .environment => settings.environment
  | .rulesPath => settings.engine.rulesPath
  | .logLevel => settings.observability.logLevel

variable {setting : TextSetting}

theorem asText?_of_read? {settings : Settings} {given : Setting}
    (read : setting.leaf.read? given = some (setting.leaf.of settings)) :
    given.asText? = some (of settings setting) := by
  cases setting <;> exact read

/-- A setting that is a text can be read from any variable. -/
theorem isSome_read?_ofVariable (text : String) :
    (setting.leaf.read? (ofVariable text)).isSome := by
  have readable : (ofVariable text).asText?.isSome := by
    have single := isSingle_ofVariable text
    cases read : ofVariable text with
    | nothing | list | table =>
      rw [read] at single
      exact absurd single Bool.false_ne_true
    | _ => rfl
  cases setting <;> exact readable

end TextSetting

namespace Sources

/-- The text of the last variable that is for a setting. -/
def said? (sources : Sources) (setting : TextSetting) : Option String :=
  (sources.environmentVariables.reverse.find? fun entry =>
    setting.leaf.IsNamedBy entry.1).map Prod.snd

/-- The sources without variables of the process. -/
def withoutVariables (sources : Sources) : Sources := { sources with environmentVariables := [] }

/-- That every file that is there can be read, has tables as groups, and gives for every setting
what can be read as its kind. -/
structure WellTyped (sources : Sources) : Prop where
  readable : ∀ subject ∈ sources.subjects, ∀ content ∈ sources.content? subject,
    (Layer.ofFile? content).isSome
  acceptable : ∀ subject ∈ sources.subjects,
    ∀ layer ∈ contentLayers (sources.content? subject), layer.Acceptable

section Loading

variable {sources : Sources}

theorem spoken?_eq_map_said? (setting : TextSetting) :
    spoken? sources.environmentVariables setting.leaf =
      (sources.said? setting).map ofVariable := by
  unfold spoken? said?
  rw [Option.map_map]
  rfl

theorem known_of_isNamedBy {setting : TextSetting} {entry : String × String}
    (named : setting.leaf.IsNamedBy entry.1) : Known entry :=
  .inl ⟨setting.leaf, setting.leaf.mem_all, named, TextSetting.isSome_read?_ofVariable entry.2⟩

/-- What is loaded is read from the built-in values under the files under the variables. -/
theorem load?_eq_bind (sources : Sources) :
    load? sources = sources.fileLayers?.bind fun files =>
      ofSetting? ((variableLayers sources.environmentVariables).foldl Layer.onto
        (files.foldl Layer.onto sources.baseSetting)) := by
  unfold load? layers?
  cases sources.fileLayers? with
  | none => rfl
  | some files =>
    simp only [← foldl_baseLayers, ← List.foldl_append]
    rfl

/-- The layers of the files that are read are regular. -/
theorem isRegular_of_fileLayers? {files : List Layer} (read : sources.fileLayers? = some files) :
    ∀ layer ∈ files, layer.IsRegular := by
  obtain ⟨lists, listsRead, rfl⟩ := Option.map_eq_some_iff.mp read
  clear read
  generalize sources.subjects.filterMap sources.content? = contents at listsRead
  induction contents generalizing lists with
  | nil =>
    obtain rfl := Option.some.inj listsRead
    exact fun layer member => absurd member List.not_mem_nil
  | cons content rest inductionHypothesis =>
    simp only [List.mapM_cons, Option.bind_eq_bind, Option.bind_eq_some_iff] at listsRead
    obtain ⟨layers, given, others, restRead, listed⟩ := listsRead
    obtain rfl := Option.some.inj listed
    intro layer member
    rw [List.flatten_cons, List.mem_append] at member
    obtain first | later := member
    · exact Layer.isRegular_of_ofFile? given layer first
    · exact inductionHypothesis others restRead layer later

theorem fits_baseSetting (sources : Sources) : Fits sources.baseSetting :=
  (isSome_ofSetting?_iff rfl).mp rfl

/-- Well-typed files can be loaded by themselves. -/
theorem WellTyped.isSome_load?_withoutVariables (wellTyped : sources.WellTyped) :
    (load? sources.withoutVariables).isSome := by
  have files : sources.withoutVariables.fileLayers? = some sources.readLayers :=
    mapM_ofFile? wellTyped.readable
  have regular : ∀ layer ∈ sources.readLayers, layer.IsRegular :=
    isRegular_of_fileLayers? files
  have acceptable : ∀ layer ∈ sources.readLayers, layer.Acceptable := by
    intro layer member
    obtain ⟨subject, isSubject, inside⟩ := List.mem_flatMap.mp member
    exact wellTyped.acceptable subject isSubject layer inside
  obtain ⟨table, fits⟩ :=
    Layer.fits_foldl_onto regular acceptable rfl sources.fits_baseSetting
  rw [load?_eq_bind, files]
  exact (isSome_ofSetting?_iff table).mpr fits

/-- Variables that their settings can read spoil nothing: with them the settings are loaded if they
are without them, and what the variables give is what their settings are read from. -/
theorem exists_load? (known : ∀ entry ∈ sources.environmentVariables, Known entry)
    (files : (load? sources.withoutVariables).isSome) :
    ∃ settings, load? sources = some settings ∧
      ∀ leaf given, spoken? sources.environmentVariables leaf = some given →
        leaf.read? given = some (leaf.of settings) := by
  rw [load?_eq_bind] at files
  obtain ⟨_, loaded⟩ := Option.isSome_iff_exists.mp files
  obtain ⟨layers, read, made⟩ := Option.bind_eq_some_iff.mp loaded
  have read : sources.fileLayers? = some layers := read
  have table : (layers.foldl Layer.onto sources.baseSetting).isTable :=
    List.foldlRecOn (motive := fun setting => setting.isTable) layers Layer.onto rfl
      fun setting _ layer member =>
        Layer.isTable_onto (isRegular_of_fileLayers? read layer member) setting
  have fits : Fits (layers.foldl Layer.onto sources.baseSetting) :=
    (isSome_ofSetting?_iff table).mp (Option.isSome_of_eq_some made)
  have regular : ∀ layer ∈ variableLayers sources.environmentVariables, layer.IsRegular := by
    intro layer member
    obtain ⟨entry, _, given⟩ := List.mem_filterMap.mp member
    exact Layer.isRegular_of_ofVariable? given
  have acceptable : ∀ layer ∈ variableLayers sources.environmentVariables, layer.Acceptable := by
    intro layer member
    obtain ⟨entry, inside, given⟩ := List.mem_filterMap.mp member
    refine ⟨(known entry inside).keepsGroups given, fun leaf setting gives => ?_⟩
    have gives : layer.gives? leaf.place = some setting := gives
    rw [(known entry inside).gives? given leaf] at gives
    obtain ⟨named, same⟩ := Option.ite_none_right_eq_some.mp gives
    exact Option.some.inj same ▸ (known entry inside).accepted named
  obtain ⟨wholeTable, wholeFits⟩ := Layer.fits_foldl_onto regular acceptable table fits
  obtain ⟨settings, whole⟩ :=
    Option.isSome_iff_exists.mp ((isSome_ofSetting?_iff wholeTable).mpr wholeFits)
  refine ⟨settings, ?_, fun leaf given speaks => read?_of_ofSetting? wholeTable whole ?_⟩
  · rw [load?_eq_bind, read]
    exact whole
  · rw [get?_foldl_variableLayers known, speaks, Option.some_or]

end Loading

/-! ### What a variable makes of a text -/

/-- Whatever texts the variables hold that are for settings that are texts, the settings are loaded
if the files are well-typed or can be loaded by themselves, and the other variables are known. Each
such setting is then the text of its last variable, written out as what it spells; so it is that
text itself just if it spells nothing or is the way in which that is written which it spells. -/
theorem load?_writes_out {sources : Sources}
    (others : ∀ entry ∈ sources.environmentVariables,
      (∃ setting ∈ TextSetting.all, setting.leaf.IsNamedBy entry.1) ∨ Known entry)
    (files : sources.WellTyped ∨ (load? sources.withoutVariables).isSome) :
    ∃ settings, load? sources = some settings ∧
      ∀ setting text, sources.said? setting = some text →
        WrittenOut text (setting.of settings) ∧ (setting.of settings = text ↔ Kept text) := by
  have known : ∀ entry ∈ sources.environmentVariables, Known entry := by
    intro entry member
    obtain ⟨setting, _, named⟩ | known := others entry member
    · exact known_of_isNamedBy named
    · exact known
  have alone : (load? sources.withoutVariables).isSome := by
    obtain wellTyped | alone := files
    · exact wellTyped.isSome_load?_withoutVariables
    · exact alone
  obtain ⟨settings, loaded, each⟩ := exists_load? known alone
  refine ⟨settings, loaded, fun setting text said => ?_⟩
  have speaks : spoken? sources.environmentVariables setting.leaf = some (ofVariable text) := by
    rw [spoken?_eq_map_said?, said]
    rfl
  have written : WrittenOut text (setting.of settings) :=
    asText?_ofVariable_eq_some_iff.mp (TextSetting.asText?_of_read? (each _ _ speaks))
  exact ⟨written, written.eq_iff_kept⟩

/-- Variables for all settings that are texts, one for another setting, and a file. -/
def spokenSources : Sources :=
  ofTexts "rule-dispatcher" [("default.toml", "[engine]\nrules_path = \"rules\"\n")]
    [("RULES_SERVICE_NAME", ""), ("RULES_ENVIRONMENT", "+7"),
      ("RULES_ENGINE__RULES_PATH", "2024.10"), ("RULES_ENGINE__WATCH_RULES", "off"),
      ("RULES_OBSERVABILITY__LOG_LEVEL", "TRUE")]

/-- The law at texts that spell an integer, a double and a Boolean, and at one that spells
nothing. -/
theorem load?_writes_out_spokenSources :
    (∀ entry ∈ spokenSources.environmentVariables,
      (∃ setting ∈ TextSetting.all, setting.leaf.IsNamedBy entry.1) ∨ Known entry) ∧
      (load? spokenSources.withoutVariables).isSome ∧
      ∃ settings, load? spokenSources = some settings ∧
        (settings.serviceName = "" ∧ Kept "") ∧
        (settings.environment = "7" ∧ ¬ Kept "+7") ∧
        (settings.engine.rulesPath = "2024.1" ∧ ¬ Kept "2024.10") ∧
        settings.observability.logLevel = "true" ∧ ¬ Kept "TRUE" := by
  have others : ∀ entry ∈ spokenSources.environmentVariables,
      (∃ setting ∈ TextSetting.all, setting.leaf.IsNamedBy entry.1) ∨ Known entry := by
    decide +kernel
  have files : (load? spokenSources.withoutVariables).isSome := by decide +kernel
  obtain ⟨settings, loaded, each⟩ := load?_writes_out others (.inr files)
  -- What the settings are follows from the law; nothing has to be loaded for it.
  have shows : ∀ (setting : TextSetting) (text shown : String),
      spokenSources.said? setting = some text → (ofVariable text).asText? = some shown →
      setting.of settings = shown ∧ (shown = text ↔ Kept text) := by
    intro setting text shown said out
    obtain ⟨written, kept⟩ := each setting text said
    obtain rfl : setting.of settings = shown := Option.some.inj
      ((asText?_ofVariable_eq_some_iff.mpr written).symm.trans out)
    exact ⟨rfl, kept⟩
  have serviceName := shows .serviceName "" "" (by decide +kernel) (by decide +kernel)
  have environment := shows .environment "+7" "7" (by decide +kernel) (by decide +kernel)
  have rulesPath := shows .rulesPath "2024.10" "2024.1" (by decide +kernel) (by decide +kernel)
  have logLevel := shows .logLevel "TRUE" "true" (by decide +kernel) (by decide +kernel)
  exact ⟨others, files, settings, loaded, ⟨serviceName.1, serviceName.2.mp rfl⟩,
    ⟨environment.1, mt environment.2.mpr (by decide)⟩,
    ⟨rulesPath.1, mt rulesPath.2.mpr (by decide)⟩,
    logLevel.1, mt logLevel.2.mpr (by decide)⟩

/-- A variable for the path of the rules with a text that is no number but for its looks. -/
def paddedSources : Sources :=
  ofTexts "rule-dispatcher" [] [("RULES_ENGINE__RULES_PATH", "007")]

/-- The settings are not what the variables say, though nothing is amiss without the variables. -/
theorem load?_loses_zeros :
    (load? paddedSources.withoutVariables).isSome ∧
      paddedSources.said? .rulesPath = some "007" ∧
      ¬ ∃ settings, load? paddedSources = some settings ∧ settings.engine.rulesPath = "007" := by
  refine ⟨by decide +kernel, by decide +kernel, fun ⟨settings, loaded, verbatim⟩ => ?_⟩
  have shortened : (load? paddedSources).map (fun settings => settings.engine.rulesPath) =
      some "7" := by
    decide +kernel
  rw [loaded] at shortened
  exact absurd (verbatim.symm.trans (Option.some.inj shortened)) (by decide)

end Sources

end Settings

end Rulebook
