/-
This file says that a JSON text that was written is read back: reading what is written for a value
gives the document of the value. Texts come back as they were, whatever quotes, backslashes and
control characters they hold, and lists and objects with all their parts in order.

The reader is given fuel. A value that is nested in another one costs two units for every character
in front of it, so twice the length is enough; this bound is carried through the items of lists and
the entries of objects. Integers come back by their digits. For doubles it is left open what their
texts are read as: where they occur, that their texts come back is a premise.
-/
import Mathlib.Algebra.Ring.Int.Defs
import Rulebook.Proofs.Printed

namespace Rulebook

/-! ### Texts -/

namespace Json

theorem hexValue?_control : ∀ code < 32,
    Document.hexValue? ['0', '0', hexDigit (code / 16), hexDigit (code % 16)] = some code := by
  decide

end Json

namespace Document

/-- The piece that is written for a character. -/
def pieceOf (character : Char) : Piece :=
  if (Json.escapeChar character).take 2 = ['\\', 'u'] then .unit character.toNat
  else .character character

/-- What is written for a character is read as one piece. -/
theorem readPieces_escapeChar (character : Char) (done : List Piece) (rest : List Char) :
    readPieces done (Json.escapeChar character ++ rest) =
      readPieces (pieceOf character :: done) rest := by
  unfold pieceOf
  rcases Json.escapeChar_cases character with
    ⟨letter, written, notU, named⟩ | ⟨control, written⟩ | ⟨printed, notQuote, notBackslash, written⟩
  · rw [written, if_neg (by simpa using notU)]
    simp [readPieces, notU, named]
  · rw [written]
    simp [readPieces, Json.hexValue?_control _ control]
  · rw [written, if_neg (by simp)]
    simp [readPieces, notBackslash, Nat.not_lt.mpr printed]

theorem readPieces_flatMap_escapeChar (characters : List Char) (done : List Piece)
    (rest : List Char) :
    readPieces done (characters.flatMap Json.escapeChar ++ '"' :: rest) =
      some (done.reverse ++ characters.map pieceOf, rest) := by
  induction characters generalizing done with
  | nil => simp [readPieces]
  | cons character others inductionHypothesis =>
    rw [List.flatMap_cons, List.append_assoc, readPieces_escapeChar, inductionHypothesis]
    simp

/-- The code of a control character is no half of a surrogate pair. -/
theorem joinPieces_unit {code : Nat} (control : code < 32) (done : List Char)
    (rest : List Piece) :
    joinPieces done (.unit code :: rest) = joinPieces (Char.ofNat code :: done) rest := by
  have notLeading : isLeading code = false := by simp [isLeading]; omega
  have notTrailing : isTrailing code = false := by simp [isTrailing]; omega
  rcases rest with _ | ⟨_ | _, others⟩ <;> simp [joinPieces, notLeading, notTrailing]

/-- Only control characters are written by their codes. -/
theorem pieceOf_cases (character : Char) :
    pieceOf character = .character character ∨
      (character.toNat < 32 ∧ pieceOf character = .unit character.toNat) := by
  unfold pieceOf
  rcases Json.escapeChar_cases character with
    ⟨letter, written, notU, -⟩ | ⟨control, written⟩ | ⟨-, -, -, written⟩
  · exact .inl (if_neg (by rw [written]; simpa using notU))
  · exact .inr ⟨control, if_pos (by rw [written]; rfl)⟩
  · exact .inl (if_neg (by rw [written]; simp))

theorem joinPieces_map_pieceOf (characters done : List Char) :
    joinPieces done (characters.map pieceOf) = some (done.reverse ++ characters) := by
  induction characters generalizing done with
  | nil => simp [joinPieces]
  | cons character others inductionHypothesis =>
    have joined : joinPieces done (pieceOf character :: others.map pieceOf) =
        joinPieces (character :: done) (others.map pieceOf) := by
      rcases pieceOf_cases character with same | ⟨control, coded⟩
      · rw [same]
        rfl
      · rw [coded, joinPieces_unit control, Char.ofNat_toNat]
    rw [List.map_cons, joined, inductionHypothesis]
    simp

/-- A text that was written in quotes is read back. -/
theorem readText_quoted (text : String) (rest : List Char) :
    readText (text.toList.flatMap Json.escapeChar ++ '"' :: rest) = some (some text, rest) := by
  unfold readText
  rw [readPieces_flatMap_escapeChar]
  show some ((joinPieces [] (text.toList.map pieceOf)).map String.ofList, rest) = _
  rw [joinPieces_map_pieceOf, List.reverse_nil, List.nil_append, Option.map_some,
    String.ofList_toList]

end Document

/-! ### Numbers -/

/-- An integer as it is written. -/
def WrittenNumber.ofInt (value : Int) : WrittenNumber where
  negative := decide (value < 0)
  whole := Nat.toDigits 10 value.natAbs
  fraction := []
  exponent := none

namespace Document

/-- What may follow a number: nothing, or a mark between the parts of a JSON text. -/
def AtEnd : List Char → Prop
  | [] => True
  | mark :: _ => mark = ',' ∨ mark = ']' ∨ mark = '}'

theorem not_isDigit_of_atEnd {mark : Char} {rest : List Char} (ends : AtEnd (mark :: rest)) :
    mark.isDigit = false := by
  rcases ends with rfl | rfl | rfl <;> rfl

theorem readFraction_of_atEnd {rest : List Char} (ends : AtEnd rest) :
    readFraction rest = some ([], rest) := by
  rcases rest with _ | ⟨mark, rest⟩
  · rfl
  · rcases ends with rfl | rfl | rfl <;> rfl

theorem readExponent_of_atEnd {rest : List Char} (ends : AtEnd rest) :
    readExponent rest = some (none, rest) := by
  rcases rest with _ | ⟨mark, rest⟩
  · rfl
  · rcases ends with rfl | rfl | rfl <;> rfl

theorem readDigits_append {digits : List Char} (all : ∀ digit ∈ digits, digit.isDigit = true)
    (nonempty : digits ≠ []) {rest : List Char} (ends : AtEnd rest) :
    readDigits (digits ++ rest) = some (digits, rest) := by
  have spans : spanDigits (digits ++ rest) = (digits, rest) := by
    unfold spanDigits
    rw [List.takeWhile_append_of_pos all, List.dropWhile_append_of_pos all]
    cases rest with
    | nil => simp
    | cons mark rest => simp [not_isDigit_of_atEnd ends]
  unfold readDigits
  rw [spans]
  cases digits with
  | nil => exact absurd rfl nonempty
  | cons => rfl

theorem isDigit_toDigits (value : Nat) : ∀ digit ∈ Nat.toDigits 10 value, digit.isDigit = true :=
  fun _ => Nat.isDigit_of_mem_toDigits (by decide) (by decide)

/-- The digits of a positive number do not begin with a zero. -/
theorem head?_toDigits {value : Nat} (positive : 0 < value) :
    (Nat.toDigits 10 value).head? ≠ some '0' := by
  induction value using Nat.base_induction 10 (by decide) with
  | single value small =>
    have single : ∀ digit < 10, 0 < digit → [Nat.digitChar digit].head? ≠ some '0' := by decide
    rw [Nat.toDigits_of_lt_base small]
    exact single value small positive
  | digit value digit small nonzero inductionHypothesis =>
    rw [← Nat.toDigits_append_toDigits (by decide) nonzero small, List.head?_append]
    cases shape : Nat.toDigits 10 value with
    | nil => exact absurd shape Nat.toDigits_ne_nil
    | cons first others =>
      rw [shape] at inductionHypothesis
      exact inductionHypothesis nonzero

/-- Only zero is written with a zero at the front, and it has no other digit. -/
theorem noLeadingZero_toDigits (value : Nat) :
    ((Nat.toDigits 10 value).head? == some '0' && (Nat.toDigits 10 value).length != 1) = false := by
  rcases Nat.eq_zero_or_pos value with zero | positive
  · rw [zero]
    rfl
  · simp [head?_toDigits positive]

theorem readMinus_toString (value : Int) (rest : List Char) :
    readMinus ((toString value).toList ++ rest) =
      (decide (value < 0), Nat.toDigits 10 value.natAbs ++ rest) := by
  rw [toList_toString_int]
  by_cases negative : value < 0
  · simp [negative, readMinus]
  · cases shape : Nat.toDigits 10 value.natAbs with
    | nil => exact absurd shape Nat.toDigits_ne_nil
    | cons digit others =>
      have notMinus : digit ≠ '-' := by
        rintro rfl
        exact absurd (isDigit_toDigits value.natAbs '-' (shape ▸ List.mem_cons_self)) (by decide)
      simp [negative, readMinus, notMinus]

/-- An integer that was written is read back. -/
theorem readNumber_ofInt (value : Int) {rest : List Char} (ends : AtEnd rest) :
    readNumber ((toString value).toList ++ rest) = some (.ofInt value, rest) := by
  have digits := readDigits_append (isDigit_toDigits value.natAbs) Nat.toDigits_ne_nil ends
  unfold readNumber
  simp only [readMinus_toString, digits, noLeadingZero_toDigits, readFraction_of_atEnd ends,
    readExponent_of_atEnd ends, Option.bind_eq_bind, Option.bind_some]
  rfl

end Document

/-- An integer of 64 bits keeps its value. -/
theorem WrittenNumber.numeral?_ofInt {value : Int} (low : -(2 ^ 63) ≤ value)
    (high : value < 2 ^ 64) : (WrittenNumber.ofInt value).numeral? = some (.integer value) := by
  have size : digitsValue (Nat.toDigits 10 value.natAbs) = value.natAbs :=
    Nat.ofDigitChars_ten_toDigits
  have integer : (WrittenNumber.ofInt value).integer? = some value := by
    unfold integer? ofInt
    simp only [size, List.isEmpty_nil, Option.isNone_none, Bool.and_self, if_true,
      decide_eq_true_eq]
    have powers : Nat.pow 2 63 = 9223372036854775808 ∧ Nat.pow 2 64 = 18446744073709551616 := by
      decide +kernel
    rw [powers.1, powers.2]
    by_cases negative : value < 0
    · rw [if_pos negative, if_pos (by omega)]
      exact congrArg some (by omega)
    · rw [if_neg negative, if_pos (by omega)]
      exact congrArg some (by omega)
  unfold numeral?
  rw [integer]

/-! ### Values -/

namespace Json

mutual

/-- The document that is written for a value. What is not finite is written as null. -/
def document : Json → Document
  | .null => .null
  | .bool value => .bool value
  | .integer value => .number (WrittenNumber.ofInt value).numeral?
  | .real value => if value.isFinite then .number (some (.real value)) else .null
  | .text characters => .text (some characters)
  | .list items => .list (itemDocuments items)
  | .map fields => .object (fieldDocuments fields)

/-- The documents that are written for items. -/
def itemDocuments : List Json → List Document
  | [] => []
  | item :: rest => item.document :: itemDocuments rest

/-- The entries that are written for fields. -/
def fieldDocuments : List (String × Json) → List (Option String × Document)
  | [] => []
  | (name, value) :: rest => (some name, value.document) :: fieldDocuments rest

end

mutual

/-- All doubles in a value have a property. -/
def EveryReal (holds : Number → Prop) : Json → Prop
  | .real value => holds value
  | .list items => EveryItemReal holds items
  | .map fields => EveryFieldReal holds fields
  | .null | .bool _ | .integer _ | .text _ => True

/-- All doubles in some items have a property. -/
def EveryItemReal (holds : Number → Prop) : List Json → Prop
  | [] => True
  | item :: rest => item.EveryReal holds ∧ EveryItemReal holds rest

/-- All doubles in some fields have a property. -/
def EveryFieldReal (holds : Number → Prop) : List (String × Json) → Prop
  | [] => True
  | (_, value) :: rest => value.EveryReal holds ∧ EveryFieldReal holds rest

end

theorem itemDocuments_eq_map (items : List Json) : itemDocuments items = items.map document := by
  induction items with
  | nil => rfl
  | cons item rest inductionHypothesis =>
    rw [itemDocuments, List.map_cons, inductionHypothesis]

theorem everyItemReal_iff {holds : Number → Prop} {items : List Json} :
    EveryItemReal holds items ↔ ∀ item ∈ items, item.EveryReal holds := by
  induction items with
  | nil => exact iff_of_true trivial nofun
  | cons item rest inductionHypothesis =>
    rw [EveryItemReal, List.forall_mem_cons, inductionHypothesis]

/-- If the double is finite, its text is read back. -/
def Legible (value : Number) : Prop :=
  value.isFinite = true → ∀ rest, Document.AtEnd rest → ∃ written,
    Document.readNumber ((numberText value).toList ++ rest) = some (written, rest) ∧
      written.numeral? = some (.real value)

end Json

namespace Document

/-- A number begins with a digit or a minus sign. -/
theorem exists_head_of_readNumber {characters rest : List Char} {written : WrittenNumber}
    (read : readNumber characters = some (written, rest)) :
    ∃ first others, characters = first :: others ∧ (first = '-' ∨ first.isDigit = true) := by
  cases characters with
  | nil => exact nomatch read
  | cons first others =>
    refine ⟨first, others, rfl, ?_⟩
    refine Decidable.byContradiction fun other => ?_
    obtain ⟨notMinus, notDigit⟩ := not_or.mp other
    have unsigned : readMinus (first :: others) = (false, first :: others) := by
      unfold readMinus
      split
      · next shape => exact absurd (List.cons.inj shape).1 notMinus
      · rfl
    have noDigits : readDigits (first :: others) = none := by
      simp [readDigits, spanDigits, notDigit]
    simp [readNumber, unsigned, noDigits] at read

theorem isSpace_of_numeric {first : Char} (numeric : first = '-' ∨ first.isDigit = true) :
    isSpace first = false := by
  cases space : isSpace first with
  | false => rfl
  | true =>
    simp only [isSpace, Bool.or_eq_true, beq_iff_eq] at space
    rcases space with ((rfl | rfl) | rfl) | rfl <;> exact absurd numeric (by decide)

/-- Where no blank stands nothing is skipped. -/
theorem skipSpace_cons {first : Char} (printed : isSpace first = false) (others : List Char) :
    skipSpace (first :: others) = first :: others := by
  simp [skipSpace, printed]

theorem readValue_of_readNumber {characters rest : List Char} {written : WrittenNumber}
    (read : readNumber characters = some (written, rest)) (fuel : Nat) :
    readValue (fuel + 1) characters = some (.number written.numeral?, rest) := by
  obtain ⟨first, others, rfl, numeric⟩ := exists_head_of_readNumber read
  unfold readValue
  rw [skipSpace_cons (isSpace_of_numeric numeric)]
  split
  case h_7 => rw [read]; rfl
  all_goals
    next shape =>
      obtain ⟨rfl, -⟩ := List.cons.inj shape
      exact absurd numeric (by decide)

/-! ### Parts -/

/-- A list is read by its items, if no closing bracket follows at once. -/
theorem readValue_of_readItems {fuel : Nat} {first : Char} {others rest : List Char}
    {items : List Document} (printed : isSpace first = false) (notClosed : first ≠ ']')
    (read : readItems fuel (first :: others) = some (items, rest)) :
    readValue (fuel + 1) ('[' :: first :: others) = some (.list items, rest) := by
  unfold readValue
  rw [skipSpace_cons rfl]
  simp only [skipSpace_cons printed]
  split
  · next shape => exact absurd (List.cons.inj shape).1 notClosed
  · rw [read]
    rfl

/-- An object is read by its entries, if a name follows. -/
theorem readValue_of_readEntries {fuel : Nat} {others rest : List Char}
    {entries : List (Option String × Document)}
    (read : readEntries fuel ('"' :: others) = some (entries, rest)) :
    readValue (fuel + 1) ('{' :: '"' :: others) = some (.object entries, rest) := by
  unfold readValue
  show (readEntries fuel ('"' :: others)).map _ = _
  rw [read]
  rfl

/-- The last item. -/
theorem readItems_last {fuel : Nat} {characters rest : List Char} {item : Document}
    (read : readValue fuel characters = some (item, ']' :: rest)) :
    readItems (fuel + 1) characters = some ([item], rest) := by
  unfold readItems
  rw [read]
  rfl

/-- An item before others. -/
theorem readItems_next {fuel : Nat} {characters further rest : List Char} {item : Document}
    {items : List Document} (read : readValue fuel characters = some (item, ',' :: further))
    (others : readItems fuel further = some (items, rest)) :
    readItems (fuel + 1) characters = some (item :: items, rest) := by
  unfold readItems
  rw [read]
  show (readItems fuel further).map _ = _
  rw [others]
  rfl

/-- The last entry. -/
theorem readEntries_last {fuel : Nat} {name : String} {characters rest : List Char}
    {value : Document} (read : readValue fuel characters = some (value, '}' :: rest)) :
    readEntries (fuel + 1) (Json.quoted name ++ ':' :: characters) =
      some ([(some name, value)], rest) := by
  unfold readEntries
  simp [Json.quoted, skipSpace, isSpace, readText_quoted, read]

/-- An entry before others. -/
theorem readEntries_next {fuel : Nat} {name : String} {characters further rest : List Char}
    {value : Document} {entries : List (Option String × Document)}
    (read : readValue fuel characters = some (value, ',' :: further))
    (others : readEntries fuel further = some (entries, rest)) :
    readEntries (fuel + 1) (Json.quoted name ++ ':' :: characters) =
      some ((some name, value) :: entries, rest) := by
  unfold readEntries
  simp [Json.quoted, skipSpace, isSpace, readText_quoted, read, others]

end Document

namespace Json

open Document

theorem toList_numberText_of_not_finite {value : Number} (other : ¬ value.isFinite = true) :
    (numberText value).toList = "null".toList := by
  cases value with
  | nan => rfl
  | infinite negative => rfl
  | finite negative ticks representable => exact absurd rfl other

/-- What is written for a value begins with neither a blank nor a closing bracket. -/
theorem exists_head_chars {value : Json} (legible : value.EveryReal Legible) :
    ∃ first others, value.chars = first :: others ∧ isSpace first = false ∧ first ≠ ']' := by
  have ofNumber : ∀ {written}, readNumber (value.chars ++ []) = some (written, []) →
      ∃ first others, value.chars = first :: others ∧ isSpace first = false ∧ first ≠ ']' := by
    intro written read
    rw [List.append_nil] at read
    obtain ⟨first, others, shape, numeric⟩ := exists_head_of_readNumber read
    refine ⟨first, others, shape, isSpace_of_numeric numeric, ?_⟩
    rintro rfl
    exact absurd numeric (by decide)
  cases value with
  | null => exact ⟨'n', _, rfl, rfl, by decide⟩
  | bool value =>
    cases value with
    | false => exact ⟨'f', _, rfl, rfl, by decide⟩
    | true => exact ⟨'t', _, rfl, rfl, by decide⟩
  | integer value => exact ofNumber (readNumber_ofInt value trivial)
  | real value =>
    by_cases finite : value.isFinite = true
    · obtain ⟨written, read, -⟩ := legible finite [] trivial
      exact ofNumber read
    · exact ⟨'n', _, toList_numberText_of_not_finite finite, rfl, by decide⟩
  | text characters => exact ⟨'"', _, rfl, rfl, by decide⟩
  | list items => cases items <;> exact ⟨'[', _, rfl, rfl, by decide⟩
  | map fields => cases fields <;> exact ⟨'{', _, rfl, rfl, by decide⟩

theorem atEnd_itemChars (items : List Json) (rest : List Char) :
    AtEnd (itemChars items ++ ']' :: rest) := by
  cases items with
  | nil => exact .inr (.inl rfl)
  | cons item others => exact .inl rfl

theorem atEnd_fieldChars (fields : List (String × Json)) (rest : List Char) :
    AtEnd (fieldChars fields ++ '}' :: rest) := by
  cases fields with
  | nil => exact .inr (.inr rfl)
  | cons field others => exact .inl rfl

mutual

/-- A value that was written is read back, up to where it ends. -/
theorem readValue_chars : ∀ (value : Json), value.EveryReal Legible → ∀ {fuel : Nat},
    2 * value.chars.length ≤ fuel → ∀ {rest : List Char}, AtEnd rest →
      readValue fuel (value.chars ++ rest) = some (value.document, rest)
  | value, legible, 0, enough, rest, ends => by
    obtain ⟨first, others, shape, -⟩ := exists_head_chars legible
    rw [shape] at enough
    exact absurd enough (by simp)
  | .null, _, fuel + 1, _, rest, _ => rfl
  | .bool true, _, fuel + 1, _, rest, _ => rfl
  | .bool false, _, fuel + 1, _, rest, _ => rfl
  | .integer value, _, fuel + 1, _, rest, ends =>
    readValue_of_readNumber (readNumber_ofInt value ends) fuel
  | .real value, legible, fuel + 1, _, rest, ends => by
    unfold chars document
    by_cases finite : value.isFinite = true
    · obtain ⟨written, read, same⟩ := legible finite rest ends
      rw [readValue_of_readNumber read, same, if_pos finite]
    · rw [toList_numberText_of_not_finite finite, if_neg finite]
      rfl
  | .text characters, _, fuel + 1, _, rest, _ => by
    show (readText ((characters.toList.flatMap escapeChar ++ ['"']) ++ rest)).map _ = _
    rw [List.append_assoc, List.singleton_append, readText_quoted]
    rfl
  | .list [], _, fuel + 1, _, rest, _ => rfl
  | .list (item :: others), legible, fuel + 1, enough, rest, _ => by
    have read : readItems fuel ((itemChars (item :: others)).tail ++ ']' :: rest) =
        some (itemDocuments (item :: others), rest) := by
      refine readItems_chars (item :: others) (List.cons_ne_nil _ _) legible ?_ rest
      simp only [chars, itemChars, List.length_cons, List.length_append] at enough ⊢
      omega
    obtain ⟨first, following, shape, printed, notClosed⟩ := exists_head_chars legible.1
    simp only [itemChars, List.tail_cons, shape, List.cons_append] at read
    simp only [chars, shape, List.cons_append, List.append_assoc, List.nil_append] at read ⊢
    exact readValue_of_readItems printed notClosed read
  | .map [], _, fuel + 1, _, rest, _ => rfl
  | .map ((name, value) :: others), legible, fuel + 1, enough, rest, _ => by
    have read : readEntries fuel ((fieldChars ((name, value) :: others)).tail ++ '}' :: rest) =
        some (fieldDocuments ((name, value) :: others), rest) := by
      refine readEntries_chars ((name, value) :: others) (List.cons_ne_nil _ _) legible ?_ rest
      simp only [chars, fieldChars, List.length_cons, List.length_append] at enough ⊢
      omega
    simp only [fieldChars, quoted, List.tail_cons, List.cons_append, List.append_assoc] at read
    simp only [chars, quoted, List.cons_append, List.append_assoc, List.nil_append]
    exact readValue_of_readEntries read

/-- Items that were written are read back up to the closing bracket. -/
theorem readItems_chars : ∀ (items : List Json), items ≠ [] → EveryItemReal Legible items →
    ∀ {fuel : Nat}, 2 * (itemChars items).length ≤ fuel + 1 → ∀ (rest : List Char),
      readItems fuel ((itemChars items).tail ++ ']' :: rest) = some (itemDocuments items, rest)
  | [], nonempty, _, _, _, _ => absurd rfl nonempty
  | item :: others, _, _, 0, enough, _ => by
    simp only [itemChars, List.length_cons] at enough
    omega
  | item :: others, _, legible, fuel + 1, enough, rest => by
    simp only [itemChars, List.length_cons, List.length_append] at enough
    have first : readValue fuel (item.chars ++ (itemChars others ++ ']' :: rest)) = _ :=
      readValue_chars item legible.1 (by omega) (atEnd_itemChars others rest)
    simp only [itemChars, List.tail_cons, List.append_assoc]
    cases others with
    | nil => exact readItems_last first
    | cons next further =>
      refine readItems_next first ?_
      exact readItems_chars (next :: further) (List.cons_ne_nil _ _) legible.2 (by omega) rest

/-- Entries that were written are read back up to the closing brace. -/
theorem readEntries_chars : ∀ (fields : List (String × Json)), fields ≠ [] →
    EveryFieldReal Legible fields → ∀ {fuel : Nat}, 2 * (fieldChars fields).length ≤ fuel + 1 →
      ∀ (rest : List Char),
        readEntries fuel ((fieldChars fields).tail ++ '}' :: rest) =
          some (fieldDocuments fields, rest)
  | [], nonempty, _, _, _, _ => absurd rfl nonempty
  | (name, value) :: others, _, _, 0, enough, _ => by
    simp only [fieldChars, List.length_cons] at enough
    omega
  | (name, value) :: others, _, legible, fuel + 1, enough, rest => by
    simp only [fieldChars, List.length_cons, List.length_append] at enough
    have first : readValue fuel (value.chars ++ (fieldChars others ++ '}' :: rest)) = _ :=
      readValue_chars value legible.1 (by omega) (atEnd_fieldChars others rest)
    simp only [fieldChars, List.tail_cons, List.append_assoc, List.cons_append]
    cases others with
    | nil => exact readEntries_last first
    | cons next further =>
      refine readEntries_next first ?_
      exact readEntries_chars (next :: further) (List.cons_ne_nil _ _) legible.2 (by omega) rest

end

/-- A value that was written is read back. -/
theorem ofText?_render (value : Json) (legible : value.EveryReal Legible) :
    Document.ofText? value.render = some value.document := by
  have read : readValue (2 * value.chars.length + 2) (value.chars ++ []) = _ :=
    readValue_chars value legible (Nat.le_add_right _ 2) trivial
  rw [List.append_nil] at read
  unfold Document.ofText? Document.ofChars? render
  rw [String.toList_ofList, read]
  rfl

end Json

end Rulebook
