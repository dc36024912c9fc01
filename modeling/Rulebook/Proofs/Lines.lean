/-
This file says which lines are answered when the input is a text. The input arrives in bytes and is
cut at the byte of the newline. In UTF-8 this byte stands for the newline and is part of no other
character, so cutting the bytes is cutting the text, and every line is valid UTF-8 again. What is
left of the lines are the ones that hold more than blanks, without the blanks around it; the rest
behind the last newline is one of them if it is not blank.

A transcript takes the summaries one by one and counts them on the way. So in the end it holds the
summaries in the order of the lines, their number, and the number of those that tell of a failure.
-/
import Rulebook.Host

namespace Rulebook

/-- The lines of a text that hold more than blanks, without the blanks around it. -/
def textLines (text : String) : List String :=
  ((text.toList.splitOn '\n').map fun line => Text.trim (String.ofList line)).filter (!·.isEmpty)

/-! ### Cutting bytes -/

/-- Cutting at newlines gives one more line, an empty one, if the bytes end with a newline. -/
theorem splitOn_eq_splitLines (bytes : List UInt8) :
    bytes.splitOn 10 = splitLines bytes ∨ bytes.splitOn 10 = splitLines bytes ++ [[]] := by
  induction bytes with
  | nil => exact .inr rfl
  | cons byte rest inductionHypothesis =>
    rw [List.splitOn_cons_eq_if_modifyHead, splitLines]
    by_cases newline : byte = 10
    · rw [if_pos (beq_iff_eq.mpr newline), if_pos newline]
      rcases inductionHypothesis with same | same
      · exact .inl (by rw [same])
      · exact .inr (by rw [same, List.cons_append])
    · rw [if_neg (by simpa using newline), if_neg newline]
      cases lines : splitLines rest with
      | nil =>
        rcases inductionHypothesis with same | same
        · exact absurd (same.trans lines) (List.splitOn_ne_nil 10 rest)
        · exact .inl (by rw [same, lines]; rfl)
      | cons line others =>
        rcases inductionHypothesis with same | same
        · exact .inl (by rw [same, lines]; rfl)
        · exact .inr (by rw [same, lines]; rfl)

/-- Bytes without a newline stand at the front of the first line. -/
theorem splitOn_append_of_not_mem {front : List UInt8} (free : 10 ∉ front) (rest : List UInt8) :
    (front ++ rest).splitOn 10 = (rest.splitOn 10).modifyHead (front ++ ·) := by
  induction front with
  | nil =>
    rw [List.nil_append]
    cases rest.splitOn 10 <;> rfl
  | cons byte front inductionHypothesis =>
    have other : ¬ (byte == 10) = true := fun same => free (beq_iff_eq.mp same ▸ List.mem_cons_self)
    rw [List.cons_append, List.splitOn_cons_eq_if_modifyHead, if_neg other,
      inductionHypothesis fun inside => free (List.mem_cons_of_mem byte inside),
      List.modifyHead_modifyHead]
    rfl

/-! ### Cutting texts -/

/-- The bytes of some characters. -/
def utf8Bytes (characters : List Char) : List UInt8 := characters.flatMap String.utf8EncodeChar

theorem toUTF8_data_toList (text : String) : text.toUTF8.data.toList = utf8Bytes text.toList := by
  rw [String.toUTF8_eq_toByteArray, ← String.utf8Encode_toList, List.utf8Encode,
    List.data_toByteArray]
  rfl

/-- The byte of the newline is part of no other character. -/
theorem newline_not_mem_utf8EncodeChar {character : Char} (other : character ≠ '\n') :
    10 ∉ String.utf8EncodeChar character := by
  have different : character.val.toNat ≠ 10 := fun same => other (Char.toNat_inj.mp same)
  unfold String.utf8EncodeChar
  generalize character.val.toNat = code at different
  intro inside
  dsimp only at inside
  -- The byte of a short code is the code; all bytes of longer ones are 128 or more.
  repeat' split at inside
  all_goals
    simp only [List.mem_cons, List.not_mem_nil, or_false, ← UInt8.toNat_inj, UInt8.toNat_ofNat',
      UInt8.reduceToNat] at inside
    omega

theorem splitOn_utf8Bytes (characters : List Char) :
    (utf8Bytes characters).splitOn 10 = (characters.splitOn '\n').map utf8Bytes := by
  induction characters with
  | nil => rfl
  | cons character rest inductionHypothesis =>
    rw [utf8Bytes, List.flatMap_cons, List.splitOn_cons_eq_if_modifyHead]
    by_cases newline : character = '\n'
    · subst newline
      show (10 :: utf8Bytes rest).splitOn 10 = _
      rw [List.splitOn_cons_eq_if_modifyHead, if_pos (BEq.refl (10 : UInt8)),
        if_pos (BEq.refl '\n'), inductionHypothesis]
      rfl
    · rw [splitOn_append_of_not_mem (newline_not_mem_utf8EncodeChar newline),
        if_neg (by simpa using newline), ← utf8Bytes, inductionHypothesis]
      cases rest.splitOn '\n' <;> rfl

theorem lineText?_utf8Bytes (line : List Char) :
    lineText? (utf8Bytes line) = some (Text.trim (String.ofList line)) := by
  have bytes : ByteArray.mk (utf8Bytes line).toArray = (String.ofList line).toByteArray := by
    rw [String.toByteArray_ofList]
    exact ByteArray.ext List.data_toByteArray.symm
  have decoded : String.fromUTF8? (String.ofList line).toByteArray = some (String.ofList line) :=
    dif_pos (String.ofList line).isValidUTF8
  rw [lineText?, bytes, decoded]
  rfl

/-! ### Answering lines -/

namespace Transcript

/-- The transcript of some summaries, all of them counted. -/
def ofSummaries (summaries : List EventSummary) : Transcript where
  summaries
  events := summaries.length
  failures := summaries.countP (·.isFailure)

/-- Summaries that are added one by one are counted one by one. -/
theorem foldl_add (transcript : Transcript) (summaries : List EventSummary) :
    summaries.foldl add transcript = { transcript with
      summaries := transcript.summaries ++ summaries
      events := transcript.events + summaries.length
      failures := transcript.failures + summaries.countP (·.isFailure) } := by
  induction summaries generalizing transcript with
  | nil => simp
  | cons summary rest inductionHypothesis =>
    rw [List.foldl_cons, inductionHypothesis, List.countP_cons]
    cases failed : summary.isFailure <;> simp [add, failed] <;> omega

theorem foldl_add_empty (summaries : List EventSummary) :
    summaries.foldl add {} = ofSummaries summaries := by
  rw [foldl_add]
  simp [ofSummaries]

end Transcript

section Answering

variable {World : Type} (answer : String → StateM World EventSummary)

/-- Lines that are valid UTF-8 are answered one after another, blank ones left out, and their
summaries are added before those of the lines behind them. -/
theorem answerOnto_append_of_decoded (transcript : Transcript) {lines : List (List UInt8)}
    {texts : List String} (decoded : lines.map lineText? = texts.map some)
    (behind : List (List UInt8)) :
    answerOnto answer transcript (lines ++ behind) = (do
      let summaries ← (texts.filter (!·.isEmpty)).mapM answer
      answerOnto answer (summaries.foldl .add transcript) behind) := by
  induction lines generalizing texts transcript with
  | nil =>
    obtain rfl := List.map_eq_nil_iff.mp decoded.symm
    simp
  | cons line rest inductionHypothesis =>
    obtain ⟨text, others, rfl, read, restDecoded⟩ := List.map_eq_cons_iff.mp decoded.symm
    rw [List.cons_append, answerOnto, ← read]
    cases blank : text.isEmpty with
    | true =>
      rw [List.filter_cons_of_neg (by simp [blank]),
        ← inductionHypothesis transcript restDecoded.symm]
      simp [blank]
    | false =>
      have answered (summary : EventSummary) :=
        inductionHypothesis (transcript.add summary) restDecoded.symm
      rw [List.filter_cons_of_pos (by simp [blank]), List.mapM_cons]
      simp [blank, answered]

theorem answerLines_append_of_decoded {lines : List (List UInt8)} {texts : List String}
    (decoded : lines.map lineText? = texts.map some) (behind : List (List UInt8)) :
    answerLines answer (lines ++ behind) = (do
      let summaries ← (texts.filter (!·.isEmpty)).mapM answer
      answerOnto answer (.ofSummaries summaries) behind) := by
  rw [answerLines, answerOnto_append_of_decoded answer {} decoded]
  simp only [Transcript.foldl_add_empty]

theorem answerLines_of_decoded {lines : List (List UInt8)} {texts : List String}
    (decoded : lines.map lineText? = texts.map some) :
    answerLines answer lines = (do
      let summaries ← (texts.filter (!·.isEmpty)).mapM answer
      return .ofSummaries summaries) := by
  have answered := answerLines_append_of_decoded answer decoded []
  rwa [List.append_nil] at answered

/-- The lines of a text that are not blank are answered, and nothing is broken. -/
theorem answerLines_toUTF8 (text : String) :
    answerLines answer (splitLines text.toUTF8.data.toList) = (do
      let summaries ← (textLines text).mapM answer
      return .ofSummaries summaries) := by
  have cut : text.toUTF8.data.toList.splitOn 10 = (text.toList.splitOn '\n').map utf8Bytes := by
    rw [toUTF8_data_toList, splitOn_utf8Bytes]
  have decoded : ((text.toUTF8.data.toList.splitOn 10).map lineText?) =
      ((text.toList.splitOn '\n').map fun line => Text.trim (String.ofList line)).map some := by
    rw [cut, List.map_map, List.map_map]
    exact List.map_congr_left fun line _ => lineText?_utf8Bytes line
  unfold textLines
  rcases splitOn_eq_splitLines text.toUTF8.data.toList with same | same
  · rw [same] at decoded
    exact answerLines_of_decoded answer decoded
  · rw [same, List.map_append] at decoded
    obtain ⟨front, last, shape, frontDecoded, lastDecoded⟩ :=
      List.map_eq_append_iff.mp decoded.symm
    have blank : lineText? [] = some "" := lineText?_utf8Bytes []
    obtain rfl : last = [""] := by simpa [blank] using lastDecoded
    rw [shape, List.filter_append]
    simpa using answerLines_of_decoded answer frontDecoded.symm

end Answering

end Rulebook
