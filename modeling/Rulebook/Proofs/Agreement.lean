/-
This file says that it does not matter in which of two ways a JSON text becomes a value: read as a
value at once, as keyword arguments are, or read as the arguments of an event and turned into a
value afterwards. The two ways refuse the same texts and find the same value in all others. So a
filter that is compared with an argument compares what the texts say and not how they were read.

What they find is a value whose maps have their names in order, each name with the last of its
entries. It is the same as itself, because no number of a text is read as a NaN: a significand is
multiplied by a power of ten, or divided by powers of ten that are neither zero nor infinite.
-/
import Mathlib.Data.List.Forall2
import Rulebook.Proofs.Conversion
import Rulebook.Proofs.Rounding

namespace Rulebook

/-! ### Numbers that are read -/

namespace Number

/-- A quotient is a number if the divisor is neither zero nor infinite. -/
theorem div_ne_nan {value divisor : Number} (number : value ≠ .nan)
    (finite : divisor.isFinite = true) (nonzero : divisor.isZero = false) :
    value.div divisor ≠ .nan := by
  cases divisor with
  | nan => exact nomatch finite
  | infinite negative => exact nomatch finite
  | finite negative ticks representable =>
    cases value with
    | nan => exact absurd rfl number
    | infinite sign => exact nofun
    | finite sign size representable =>
      have notZero : (ticks == 0) = false := nonzero
      simp [div, notZero, ofTicks_ne_nan]

theorem neg_ne_nan {value : Number} (number : value ≠ .nan) : value.neg ≠ .nan := by
  cases value with
  | nan => exact absurd rfl number
  | infinite negative => exact nofun
  | finite negative ticks representable => exact nofun

end Number

namespace WrittenNumber

/-- The powers of ten that numbers are divided by are neither zero nor infinite. -/
theorem powerOfTen_finite {exponent : Nat} (small : exponent ≤ 308) :
    (powerOfTen exponent).isFinite = true ∧ (powerOfTen exponent).isZero = false := by
  -- The highest exponent has a name, so that no power of it is computed on the way.
  obtain ⟨highest, isHighest⟩ : ∃ highest, highest = 308 := ⟨_, rfl⟩
  have room : Nat.pow 10 highest * ticksPerOne +
      (Nat.pow 10 highest * ticksPerOne / Nat.pow 2 52 + 1) < infiniteTicks := by
    rw [isHighest]
    decide +kernel
  rw [← isHighest] at small
  have power : Nat.pow 10 exponent ≤ Nat.pow 10 highest := Nat.pow_le_pow_right (by decide) small
  have unit : 2 ≤ ticksPerOne := by decide +kernel
  have many : 2 ≤ Nat.pow 10 exponent * ticksPerOne :=
    Nat.le_trans unit (Nat.le_mul_of_pos_left _ (Nat.pow_pos (by decide)))
  unfold powerOfTen Number.ofNat
  exact Number.ofTicks_finite many (Nat.mul_le_mul_right ticksPerOne power) room

theorem scaleDown_ne_nan {value : Number} (number : value ≠ .nan) (exponent : Nat) :
    scaleDown value exponent ≠ .nan := by
  induction exponent using Nat.strong_induction_on generalizing value with
  | _ exponent inductionHypothesis =>
    have divided {power : Nat} (small : power ≤ 308) : value.div (powerOfTen power) ≠ .nan :=
      Number.div_ne_nan number (powerOfTen_finite small).1 (powerOfTen_finite small).2
    unfold scaleDown
    split
    · next small => exact divided small
    · split
      · exact number
      · exact inductionHypothesis _ (by omega) (divided (Nat.le_refl 308))

theorem scaleUp?_ne_nan {value scaled : Number} (number : value ≠ .nan) {exponent : Nat}
    (found : scaleUp? value exponent = some scaled) : scaled ≠ .nan := by
  unfold scaleUp? at found
  split at found
  · exact Option.some.inj found ▸ number
  · split at found
    · dsimp only at found
      split at found
      · next finite =>
        rintro rfl
        rw [Option.some.inj found] at finite
        exact nomatch finite
      · exact nomatch found
    · exact nomatch found

/-- No number of a text is read as a NaN. -/
theorem numeral?_ne_nan (written : WrittenNumber) : written.numeral? ≠ some (.real .nan) := by
  have scaled_ne_nan {significand : Nat} {exponent : Int} {value : Number}
      (found : scaled? significand exponent = some value) : value ≠ .nan := by
    have number : Number.ofNat significand ≠ .nan := Number.ofTicks_ne_nan _ _ _
    unfold scaled? at found
    dsimp only at found
    split at found
    · exact scaleUp?_ne_nan number found
    · exact Option.some.inj found ▸ scaleDown_ne_nan number _
  intro read
  unfold numeral? at read
  split at read
  · exact nomatch read
  · obtain ⟨value, real, isNan⟩ := Option.map_eq_some_iff.mp read
    obtain rfl := Numeral.real.inj isNan
    obtain ⟨scaled, found, signed⟩ := Option.map_eq_some_iff.mp real
    split at signed
    · exact Number.neg_ne_nan (scaled_ne_nan found) signed
    · exact scaled_ne_nan found signed

end WrittenNumber

/-! ### Numbers of documents -/

namespace Document

mutual

/-- No number in a document is a NaN. -/
def NoNan : Document → Prop
  | .number numeral => numeral ≠ some (.real .nan)
  | .list items => NoItemNan items
  | .object entries => NoEntryNan entries
  | .null | .bool _ | .text _ => True

/-- No number in some items is a NaN. -/
def NoItemNan : List Document → Prop
  | [] => True
  | item :: rest => item.NoNan ∧ NoItemNan rest

/-- No number in some entries is a NaN. -/
def NoEntryNan : List (Option String × Document) → Prop
  | [] => True
  | (_, value) :: rest => value.NoNan ∧ NoEntryNan rest

end

mutual

/-- No number is read as a NaN. -/
theorem noNan_of_readValue : ∀ {fuel : Nat} {characters rest : List Char}
    {document : Document}, readValue fuel characters = some (document, rest) →
      document.NoNan
  | 0, _, _, _, read => nomatch read
  | fuel + 1, characters, rest, document, read => by
    unfold readValue at read
    split at read
    case h_1 | h_2 | h_3 =>
      obtain ⟨rfl, -⟩ := Prod.mk.inj (Option.some.inj read)
      trivial
    case h_4 =>
      obtain ⟨⟨characters, after⟩, -, made⟩ := Option.map_eq_some_iff.mp read
      obtain ⟨rfl, -⟩ := Prod.mk.inj made
      trivial
    case h_5 =>
      split at read
      · obtain ⟨rfl, -⟩ := Prod.mk.inj (Option.some.inj read)
        trivial
      · obtain ⟨⟨items, after⟩, readInside, made⟩ := Option.map_eq_some_iff.mp read
        obtain ⟨rfl, -⟩ := Prod.mk.inj made
        exact noItemNan_of_readItems readInside
    case h_6 =>
      split at read
      · obtain ⟨rfl, -⟩ := Prod.mk.inj (Option.some.inj read)
        trivial
      · obtain ⟨⟨entries, after⟩, readInside, made⟩ := Option.map_eq_some_iff.mp read
        obtain ⟨rfl, -⟩ := Prod.mk.inj made
        exact noEntryNan_of_readEntries readInside
    case h_7 =>
      obtain ⟨⟨written, after⟩, -, made⟩ := Option.map_eq_some_iff.mp read
      obtain ⟨rfl, -⟩ := Prod.mk.inj made
      exact written.numeral?_ne_nan

/-- Nor is one in items. -/
theorem noItemNan_of_readItems : ∀ {fuel : Nat} {characters rest : List Char}
    {items : List Document}, readItems fuel characters = some (items, rest) →
      NoItemNan items
  | 0, _, _, _, read => nomatch read
  | fuel + 1, characters, rest, items, read => by
    unfold readItems at read
    split at read
    · exact nomatch read
    · next item after readFirst =>
      have first := noNan_of_readValue readFirst
      split at read
      · obtain ⟨rfl, -⟩ := Prod.mk.inj (Option.some.inj read)
        exact ⟨first, trivial⟩
      · obtain ⟨⟨others, behind⟩, readOthers, made⟩ := Option.map_eq_some_iff.mp read
        obtain ⟨rfl, -⟩ := Prod.mk.inj made
        exact ⟨first, noItemNan_of_readItems readOthers⟩
      · exact nomatch read

/-- Nor is one in entries. -/
theorem noEntryNan_of_readEntries : ∀ {fuel : Nat} {characters rest : List Char}
    {entries : List (Option String × Document)},
      readEntries fuel characters = some (entries, rest) → NoEntryNan entries
  | 0, _, _, _, read => nomatch read
  | fuel + 1, characters, rest, entries, read => by
    unfold readEntries at read
    split at read
    · split at read
      · exact nomatch read
      · split at read
        · split at read
          · exact nomatch read
          · next value after readFirst =>
            have first := noNan_of_readValue readFirst
            split at read
            · obtain ⟨rfl, -⟩ := Prod.mk.inj (Option.some.inj read)
              exact ⟨first, trivial⟩
            · obtain ⟨⟨others, behind⟩, readOthers, made⟩ := Option.map_eq_some_iff.mp read
              obtain ⟨rfl, -⟩ := Prod.mk.inj made
              exact ⟨first, noEntryNan_of_readEntries readOthers⟩
            · exact nomatch read
        · exact nomatch read
    · exact nomatch read

end

/-- No number of a text is read as a NaN. -/
theorem noNan_of_ofText? {text : String} {document : Document}
    (read : ofText? text = some document) : document.NoNan := by
  unfold ofText? ofChars? at read
  split at read
  · next found =>
    split at read
    · exact Option.some.inj read ▸ noNan_of_readValue found
    · exact nomatch read
  · exact nomatch read

end Document

/-! ### Values that are read -/

namespace Fields

/-- Entries made from a list are entries of the list. -/
theorem mem_of_mem_ofList {α : Type} {entries : List (String × α)} {pair : String × α}
    (member : pair ∈ ofList entries) : pair ∈ entries := by
  unfold ofList at member
  induction entries using List.reverseRecOn with
  | nil => exact member
  | append_singleton earlier entry inductionHypothesis =>
    rw [List.foldl_append] at member
    rcases mem_insert _ _ _ _ member with rfl | inside
    · exact List.mem_append_right _ (List.mem_singleton_self _)
    · exact List.mem_append_left _ (inductionHypothesis inside)

end Fields

namespace Value

/-- The names of all maps in a value are in order, and it is the same as itself. -/
structure Proper (value : Value) : Prop where
  ordered : value.Ordered
  same_self : value.same value = true

namespace Proper

theorem list {items : List Value} (proper : ∀ item ∈ items, item.Proper) :
    (Value.list items).Proper := by
  induction items with
  | nil => exact ⟨trivial, rfl⟩
  | cons item rest inductionHypothesis =>
    obtain ⟨first, others⟩ := List.forall_mem_cons.mp proper
    obtain ⟨ordered, same⟩ := inductionHypothesis others
    refine ⟨⟨first.ordered, ordered⟩, ?_⟩
    show (item.same item && sameItems rest rest) = true
    rw [first.same_self, Bool.true_and]
    exact same

theorem map {fields : Fields Value} (sorted : fields.Sorted)
    (proper : ∀ entry ∈ fields, entry.2.Proper) : (Value.map fields).Proper := by
  have entries : OrderedFields fields ∧ sameFields fields fields = true := by
    clear sorted
    induction fields with
    | nil => exact ⟨trivial, rfl⟩
    | cons entry rest inductionHypothesis =>
      obtain ⟨first, others⟩ := List.forall_mem_cons.mp proper
      obtain ⟨ordered, same⟩ := inductionHypothesis others
      refine ⟨⟨first.ordered, ordered⟩, ?_⟩
      show (entry.1 == entry.1 && entry.2.same entry.2 && sameFields rest rest) = true
      rw [beq_self_eq_true, first.same_self, same]
      rfl
  exact ⟨⟨sorted, entries.1⟩, entries.2⟩

end Proper

mutual

theorem proper_of_ofShape? : ∀ {room : Nat} {document : Document} {value : Value},
    document.NoNan → ofShape? room document = some value → value.Proper
  | _, .null, _, _, read => Option.some.inj read ▸ ⟨trivial, rfl⟩
  | _, .bool _, _, _, read => Option.some.inj read ▸ ⟨trivial, beq_self_eq_true _⟩
  | _, .number _, _, numbers, read => by
    obtain ⟨numeral, found, rfl⟩ := Option.map_eq_some_iff.mp read
    cases numeral with
    | integer value => exact ⟨trivial, Number.same_self (Number.ofInt_ne_nan value)⟩
    | real value =>
      have number : value ≠ .nan := fun isNan => numbers (isNan ▸ found)
      exact ⟨trivial, Number.same_self number⟩
  | _, .text _, _, _, read => by
    obtain ⟨characters, -, rfl⟩ := Option.map_eq_some_iff.mp read
    exact ⟨trivial, beq_self_eq_true _⟩
  | 0, .list _, _, _, read => nomatch read
  | room + 1, .list items, _, numbers, read => by
    obtain ⟨values, inside, rfl⟩ := Option.map_eq_some_iff.mp read
    exact .list (proper_of_ofItems? numbers inside)
  | 0, .object _, _, _, read => nomatch read
  | room + 1, .object entries, _, numbers, read => by
    obtain ⟨named, inside, rfl⟩ := Option.map_eq_some_iff.mp read
    exact .map (Fields.sorted_ofList named) fun entry member =>
      proper_of_ofEntries? numbers inside entry (Fields.mem_of_mem_ofList member)

theorem proper_of_ofItems? : ∀ {room : Nat} {items : List Document} {values : List Value},
    Document.NoItemNan items → ofItems? room items = some values →
      ∀ value ∈ values, value.Proper
  | _, [], _, _, read => Option.some.inj read ▸ nofun
  | room, item :: rest, _, numbers, read => by
    obtain ⟨value, readFirst, read⟩ := Option.bind_eq_some_iff.mp read
    obtain ⟨values, readOthers, made⟩ := Option.bind_eq_some_iff.mp read
    rw [← Option.some.inj made]
    exact List.forall_mem_cons.mpr
      ⟨proper_of_ofShape? numbers.1 readFirst, proper_of_ofItems? numbers.2 readOthers⟩

theorem proper_of_ofEntries? : ∀ {room : Nat} {entries : List (Option String × Document)}
    {named : List (String × Value)}, Document.NoEntryNan entries →
      ofEntries? room entries = some named → ∀ entry ∈ named, entry.2.Proper
  | _, [], _, _, read => Option.some.inj read ▸ nofun
  | room, (_, _) :: rest, _, numbers, read => by
    obtain ⟨name, -, read⟩ := Option.bind_eq_some_iff.mp read
    obtain ⟨value, readFirst, read⟩ := Option.bind_eq_some_iff.mp read
    obtain ⟨others, readOthers, made⟩ := Option.bind_eq_some_iff.mp read
    rw [← Option.some.inj made]
    exact List.forall_mem_cons.mpr
      ⟨proper_of_ofShape? numbers.1 readFirst, proper_of_ofEntries? numbers.2 readOthers⟩

end

/-- A document without a NaN is read as a proper value. -/
theorem proper_of_ofDocument? {room : Nat} {document : Document} {value : Value}
    (numbers : document.NoNan) (read : ofDocument? room document = some value) : value.Proper :=
  proper_of_ofShape? numbers ((ofDocument?_eq_ofShape? room document).symm.trans read)

/-! ### Names that are repeated -/

/-- Whether an entry of a document is read as an entry of a map. -/
def ReadsEntry (room : Nat) (entry : Option String × Document) (pair : String × Value) : Prop :=
  entry.1 = some pair.1 ∧ ofDocument? room entry.2 = some pair.2

theorem forall₂_readsEntry {room : Nat} {entries : List (Option String × Document)}
    {named : List (String × Value)} (read : ofEntries? room entries = some named) :
    List.Forall₂ (ReadsEntry room) entries named := by
  induction entries generalizing named with
  | nil => exact Option.some.inj read ▸ .nil
  | cons entry rest inductionHypothesis =>
    obtain ⟨name, isName, read⟩ := Option.bind_eq_some_iff.mp read
    obtain ⟨value, readFirst, read⟩ := Option.bind_eq_some_iff.mp read
    obtain ⟨others, readOthers, made⟩ := Option.bind_eq_some_iff.mp read
    rw [← Option.some.inj made]
    exact .cons ⟨isName, (ofDocument?_eq_ofShape? room entry.2).trans readFirst⟩
      (inductionHypothesis readOthers)

/-- A name finds the same place among the entries of a document and among those of the map. -/
theorem find?_of_readsEntry {room : Nat} {entries : List (Option String × Document)}
    {named : List (String × Value)} (corresponding : List.Forall₂ (ReadsEntry room) entries named)
    (name : String) :
    (named.find? fun pair => pair.1 == name).map (·.2) =
      (entries.find? fun entry => entry.1 == some name).bind fun entry =>
        ofDocument? room entry.2 := by
  induction corresponding with
  | nil => rfl
  | @cons entry pair _ _ first _ inductionHypothesis =>
    by_cases same : pair.1 = name
    · simp [first.1, same, first.2]
    · rw [List.find?_cons_of_neg (by simpa using same),
        List.find?_cons_of_neg (by simpa [first.1] using same), inductionHypothesis]

/-- In a map that is read every name finds the value of the last entry that bears it. -/
theorem find?_of_ofDocument? {room : Nat} {entries : List (Option String × Document)}
    {fields : Fields Value} (read : ofDocument? (room + 1) (.object entries) = some (.map fields))
    (name : String) :
    fields.find? name =
      (entries.reverse.find? fun entry => entry.1 == some name).bind fun entry =>
        ofDocument? room entry.2 := by
  rw [ofDocument?_eq_ofShape?] at read
  obtain ⟨named, inside, made⟩ := Option.map_eq_some_iff.mp read
  obtain rfl := Value.map.inj made
  rw [Fields.find?_ofList]
  exact find?_of_readsEntry (List.rel_reverse (forall₂_readsEntry inside)) name

/-- A text that is read as a value at once is refused exactly if it is refused as the arguments of
an event, and otherwise it is the same value in both ways. The value is the same as itself, the
names in its maps are in order, and of entries with one name the last counts. -/
theorem ofText?_agrees (text : String) :
    ofText? text = (Json.ofText? text).map ofJson ∧
    (∀ value, ofText? text = some value → value.Ordered ∧ value.same value = true) ∧
    ∀ (room : Nat) (entries : List (Option String × Document)) (fields : Fields Value),
      ofDocument? (room + 1) (.object entries) = some (.map fields) →
        ∀ name, fields.find? name =
          (entries.reverse.find? fun entry => entry.1 == some name).bind fun entry =>
            ofDocument? room entry.2 := by
  refine ⟨?_, fun value read => ?_, fun room entries fields read => find?_of_ofDocument? read⟩
  · unfold ofText? Json.ofText?
    cases Document.ofText? text with
    | none => rfl
    | some document => exact ofDocument?_eq Json.nestingLimit document
  · obtain ⟨document, readDocument, readValue⟩ := Option.bind_eq_some_iff.mp read
    have proper := proper_of_ofDocument? (Document.noNan_of_ofText? readDocument) readValue
    exact ⟨proper.ordered, proper.same_self⟩

/-- The fields of a map. -/
def fields? : Value → Option (Fields Value)
  | .map fields => some fields
  | _ => none

theorem eq_map_of_fields? {value : Value} {fields : Fields Value}
    (found : value.fields? = some fields) : value = .map fields := by
  cases value with
  | map => exact congrArg Value.map (Option.some.inj found)
  | _ => exact nomatch found

/-- An object with a name that is repeated, minus zero and an integer of more than 64 bits. -/
def repeatedText : String := "\x7b\"b\": -0, \"a\": 18446744073709551616, \"b\": [1e2]\x7d"

theorem ofText?_agrees_repeatedText :
    ∃ fields : Fields Value, fields.names = ["a", "b"] ∧
      ofText? repeatedText = some (.map fields) ∧
      (Json.ofText? repeatedText).map ofJson = some (.map fields) ∧
      (Value.map fields).same (.map fields) = true ∧
      (fields.find? "b").map typeName = some "list" := by
  obtain ⟨agrees, proper, -⟩ := ofText?_agrees repeatedText
  have shape : ((ofText? repeatedText).bind fields?).map
      (fun fields => (Fields.names fields, (Fields.find? fields "b").map typeName)) =
        some (["a", "b"], some "list") := by
    decide +kernel
  obtain ⟨fields, found, same⟩ := Option.map_eq_some_iff.mp shape
  obtain ⟨value, read, isMap⟩ := Option.bind_eq_some_iff.mp found
  obtain rfl := eq_map_of_fields? isMap
  obtain ⟨names, last⟩ := Prod.mk.inj same
  exact ⟨fields, names, read, agrees ▸ read, (proper _ read).2, last⟩

end Value

end Rulebook
