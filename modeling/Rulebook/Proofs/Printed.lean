/-
This file says that what is written for a JSON value holds no control characters. A newline is a
control character, so the text of a value is one line: whatever the texts inside it hold, their
control characters are written by name or by code.
-/
import Rulebook.Json

namespace Rulebook

/-- No character is a control character. -/
def Printed (characters : List Char) : Prop := ∀ character ∈ characters, 32 ≤ character.toNat

instance (characters : List Char) : Decidable (Printed characters) :=
  List.decidableBAll _ characters

namespace Printed

theorem nil : Printed [] := List.forall_mem_nil _

theorem cons_iff {character : Char} {rest : List Char} :
    Printed (character :: rest) ↔ 32 ≤ character.toNat ∧ Printed rest := List.forall_mem_cons

theorem append_iff {before after : List Char} :
    Printed (before ++ after) ↔ Printed before ∧ Printed after := List.forall_mem_append

theorem of_subset {part whole : List Char} (printed : Printed whole) (subset : part ⊆ whole) :
    Printed part := fun character member => printed character (subset member)

theorem replicate {character : Char} (printed : 32 ≤ character.toNat) (count : Nat) :
    Printed (List.replicate count character) := fun _ member =>
  List.eq_of_mem_replicate member ▸ printed

end Printed

/-! ### Numbers -/

theorem printed_toDigits (value : Nat) : Printed (Nat.toDigits 10 value) := by
  intro digit member
  have isDigit : digit.isDigit = true := Nat.isDigit_of_mem_toDigits (by decide) (by decide) member
  simp only [Char.isDigit, Bool.and_eq_true, decide_eq_true_eq] at isDigit
  exact Nat.le_trans (by decide) (UInt32.le_iff_toNat_le.mp isDigit.1)

theorem toList_toString_int (value : Int) :
    (toString value).toList =
      (if value < 0 then ['-'] else []) ++ Nat.toDigits 10 value.natAbs := by
  cases value with
  | ofNat value =>
    show (Nat.repr value).toList = _
    rw [Nat.toList_repr, if_neg (by simp)]
    rfl
  | negSucc value =>
    show ("-" ++ Nat.repr (value + 1)).toList = _
    rw [String.toList_append, Nat.toList_repr, if_pos (Int.negSucc_lt_zero value)]
    rfl

theorem printed_toString_int (value : Int) : Printed (toString value).toList := by
  rw [toList_toString_int, Printed.append_iff]
  refine ⟨?_, printed_toDigits value.natAbs⟩
  split
  · decide
  · exact Printed.nil

namespace Number

theorem printed_significantDigits (tie : Tie) (ticks : Nat) :
    Printed (significantDigits tie ticks).1 := by
  intro digit member
  have written := (List.dropWhile_sublist _).mem (List.mem_reverse.mp member)
  rw [List.mem_reverse, Nat.toList_repr] at written
  exact printed_toDigits _ digit written

theorem Layout.printed_positionalText {layout : Layout} (suffix : Printed layout.wholeSuffix)
    {digits : List Char} (printed : Printed digits) (point : Int) :
    Printed (layout.positionalText digits point) := by
  have zeros (count : Nat) : Printed (List.replicate count '0') :=
    Printed.replicate (by decide) count
  unfold positionalText
  split
  · exact Printed.append_iff.mpr ⟨Printed.append_iff.mpr ⟨by decide, zeros _⟩, printed⟩
  · split
    · exact Printed.append_iff.mpr ⟨Printed.append_iff.mpr ⟨printed, zeros _⟩, suffix⟩
    · refine Printed.append_iff.mpr ⟨printed.of_subset (List.take_subset _ _), ?_⟩
      exact Printed.cons_iff.mpr ⟨by decide, printed.of_subset (List.drop_subset _ _)⟩

theorem printed_exponentText {digits : List Char} (printed : Printed digits) (point : Int) :
    Printed (exponentText digits point) := by
  unfold exponentText
  refine Printed.append_iff.mpr ⟨Printed.append_iff.mpr ⟨?_, ?_⟩, ?_⟩
  · exact printed.of_subset (List.take_subset _ _)
  · split
    · exact Printed.nil
    · exact Printed.cons_iff.mpr ⟨by decide, printed.of_subset (List.drop_subset _ _)⟩
  · exact Printed.cons_iff.mpr ⟨by decide, printed_toString_int _⟩

theorem Layout.printed_finiteText {layout : Layout} (suffix : Printed layout.wholeSuffix)
    (negative : Bool) (ticks : Nat) : Printed (layout.finiteText negative ticks).toList := by
  have magnitude : Printed (layout.magnitudeText ticks) := by
    unfold magnitudeText
    split
    · exact Printed.cons_iff.mpr ⟨by decide, suffix⟩
    · have digits := printed_significantDigits layout.tie ticks
      simp only
      split
      · exact printed_positionalText suffix digits _
      · exact printed_exponentText digits _
  unfold finiteText
  rw [String.toList_ofList, Printed.append_iff]
  refine ⟨?_, magnitude⟩
  cases negative
  · exact Printed.nil
  · decide

end Number

namespace Json

theorem printed_numberText (value : Number) : Printed (numberText value).toList := by
  cases value with
  | nan => decide
  | infinite negative =>
    show Printed "null".toList
    decide
  | finite negative ticks representable =>
    exact Number.Layout.printed_finiteText (by decide) negative ticks

/-! ### Texts -/

/-- Inside quotes a character is named behind a backslash, or it is a control character and its code
is written, or it stands for itself. -/
theorem escapeChar_cases (character : Char) :
    (∃ letter, escapeChar character = ['\\', letter] ∧ letter ≠ 'u' ∧
        Document.escaped? letter = some character) ∨
      (character.toNat < 32 ∧ escapeChar character =
        ['\\', 'u', '0', '0', hexDigit (character.toNat / 16), hexDigit (character.toNat % 16)]) ∨
      (32 ≤ character.toNat ∧ character ≠ '"' ∧ character ≠ '\\' ∧
        escapeChar character = [character]) := by
  unfold escapeChar
  split
  case h_8 notQuote notBackslash _ _ _ _ _ =>
    split
    · next control => exact .inr (.inl ⟨control, rfl⟩)
    · next printed => exact .inr (.inr ⟨Nat.not_lt.mp printed, notQuote, notBackslash, rfl⟩)
  all_goals exact .inl ⟨_, rfl, by decide, rfl⟩

theorem printed_escapeChar (character : Char) : Printed (escapeChar character) := by
  rcases escapeChar_cases character with
    ⟨letter, written, -, named⟩ | ⟨control, written⟩ | ⟨printed, -, -, written⟩
  · rw [written]
    unfold Document.escaped? at named
    split at named
    case h_9 => exact nomatch named
    all_goals decide
  · have digits : ∀ code < 32, Printed
        ['\\', 'u', '0', '0', hexDigit (code / 16), hexDigit (code % 16)] := by
      decide
    rw [written]
    exact digits _ control
  · rw [written]
    exact Printed.cons_iff.mpr ⟨printed, Printed.nil⟩

theorem printed_quoted (text : String) : Printed (quoted text) := by
  refine Printed.cons_iff.mpr ⟨by decide, Printed.append_iff.mpr ⟨?_, by decide⟩⟩
  intro character member
  obtain ⟨original, -, written⟩ := List.mem_flatMap.mp member
  exact printed_escapeChar original character written

/-! ### Values -/

mutual

/-- What is written for a value holds no control characters, so no line break. -/
theorem printed_chars : ∀ value : Json, Printed value.chars
  | .null => by decide
  | .bool true => by decide
  | .bool false => by decide
  | .integer value => printed_toString_int value
  | .real value => printed_numberText value
  | .text characters => printed_quoted characters
  | .list [] => by decide
  | .list (item :: others) => by
    refine Printed.cons_iff.mpr ⟨by decide, Printed.append_iff.mpr ⟨?_, by decide⟩⟩
    exact Printed.append_iff.mpr ⟨printed_chars item, printed_itemChars others⟩
  | .map [] => by decide
  | .map ((name, value) :: others) => by
    refine Printed.cons_iff.mpr ⟨by decide, Printed.append_iff.mpr ⟨printed_quoted name, ?_⟩⟩
    refine Printed.cons_iff.mpr ⟨by decide, Printed.append_iff.mpr ⟨?_, by decide⟩⟩
    exact Printed.append_iff.mpr ⟨printed_chars value, printed_fieldChars others⟩

theorem printed_itemChars : ∀ items : List Json, Printed (itemChars items)
  | [] => Printed.nil
  | item :: others => Printed.cons_iff.mpr ⟨by decide,
      Printed.append_iff.mpr ⟨printed_chars item, printed_itemChars others⟩⟩

theorem printed_fieldChars : ∀ fields : List (String × Json), Printed (fieldChars fields)
  | [] => Printed.nil
  | (name, value) :: others => by
    refine Printed.cons_iff.mpr ⟨by decide, Printed.append_iff.mpr ⟨printed_quoted name, ?_⟩⟩
    exact Printed.cons_iff.mpr ⟨by decide,
      Printed.append_iff.mpr ⟨printed_chars value, printed_fieldChars others⟩⟩

end

end Json

end Rulebook
