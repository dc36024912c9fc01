/-
This file holds the classes by which a text is broken into what a reader sees as one character, into
words and into sentences. Most classes follow from categories, scripts and properties; only a few
characters are listed.
-/
import Rulebook.CharSet.Category
import Rulebook.CharSet.Property
import Rulebook.CharSet.Script

namespace Rulebook.CharSet

/-- The characters of some scripts, by their four-letter codes. -/
def ofScripts (codes : List String) : CharSet := ofRuns (codes.contains ·) scriptRuns

/-- The emoji modifiers and the marks that extend a character. -/
def extending : CharSet := graphemeExtend.union emojiModifier

/-- Marks and modifiers, apart from the joiner, that no word and no sentence is broken before. -/
def extendingWords : CharSet :=
  (extending.union (ofCategories ["Mc"])).difference ⟨[(0x200D, 0x200D)]⟩

/-! ### Characters as readers see them -/

/-- The characters that join the one behind them. -/
def prepended : CharSet :=
  prependedConcatenationMark.union
    ⟨[(0xD4E, 0xD4E), (0x111C2, 0x111C3), (0x113D1, 0x113D1), (0x1193F, 0x1193F),
      (0x11941, 0x11941), (0x11A3A, 0x11A3A), (0x11A84, 0x11A89), (0x11D46, 0x11D46),
      (0x11F02, 0x11F02)]⟩

/-- Controls and formats that stand alone. -/
def standingControls : CharSet :=
  let controls := (ofCategories ["Cc", "Cf", "Zl", "Zp"]).union
    ((ofCategories ["Cn"]).intersection defaultIgnorableCodePoint)
  (controls.difference ⟨[(10, 10), (13, 13), (0x200C, 0x200D)]⟩).difference
    (prependedConcatenationMark.union extending)

/-- The marks with a place of their own beside the character before them. -/
def spacingMarks : CharSet :=
  let placed := (ofCategories ["Mc"]).union ⟨[(0xE33, 0xE33), (0xEB3, 0xEB3)]⟩
  (placed.difference extending).difference
    ⟨[(0x102B, 0x102C), (0x1038, 0x1038), (0x1062, 0x1064), (0x1067, 0x106D), (0x1083, 0x1083),
      (0x1087, 0x108C), (0x108F, 0x108F), (0x109A, 0x109C), (0x1A61, 0x1A61), (0x1A63, 0x1A64),
      (0xAA7B, 0xAA7B), (0xAA7D, 0xAA7D), (0x11720, 0x11721)]⟩

/-- The syllables without a final consonant: one in 28. -/
def openSyllables : CharSet :=
  ⟨(List.range 399).map fun index => (0xAC00 + 28 * index, 0xAC00 + 28 * index)⟩

/-- The class of a reader's characters with a name in lower case and without separators. -/
def graphemeBreak? (name : String) : Option CharSet :=
  match name with
  | "cn" | "control" => some standingControls
  | "cr" => some ⟨[(13, 13)]⟩
  | "ex" | "extend" => some extending
  | "l" => some ⟨[(0x1100, 0x115F), (0xA960, 0xA97C)]⟩
  | "lf" => some ⟨[(10, 10)]⟩
  | "lv" => some openSyllables
  | "lvt" => some ((CharSet.mk [(0xAC00, 0xD7A3)]).difference openSyllables)
  | "pp" | "prepend" => some prepended
  | "ri" | "regionalindicator" => some regionalIndicator
  | "sm" | "spacingmark" => some spacingMarks
  | "t" => some ⟨[(0x11A8, 0x11FF), (0xD7CB, 0xD7FB)]⟩
  | "v" => some ⟨[(0x1160, 0x11A7), (0xD7B0, 0xD7C6), (0x16D63, 0x16D63), (0x16D67, 0x16D6A)]⟩
  | "zwj" => some ⟨[(0x200D, 0x200D)]⟩
  | _ => none

/-! ### Words -/

/-- The marks that announce a number. -/
def numberSigns : CharSet :=
  prependedConcatenationMark.difference ⟨[(0x70F, 0x70F)]⟩

/-- The digits of numbers and what belongs to them. -/
def wordNumeric : CharSet :=
  ((ofCategories ["Nd"]).union numberSigns).union ⟨[(0x66B, 0x66B), (0x19DA, 0x19DA)]⟩

/-- The letters and signs of a script that is written without blanks in long words. -/
def wordKatakana : CharSet :=
  (ofScripts ["Kana"]).union
    ⟨[(0x3031, 0x3035), (0x309B, 0x309C), (0x30A0, 0x30A0), (0x30FC, 0x30FC), (0xFF70, 0xFF70)]⟩

/-- The Hebrew letters. -/
def wordHebrew : CharSet := (ofScripts ["Hebr"]).intersection (ofCategories ["Lo"])

/-- The letters of scripts that part words by blanks, with the signs that count as letters. -/
def wordLetters : CharSet :=
  let signs : CharSet := ⟨[(0xB8, 0xB8), (0x2C2, 0x2C5), (0x2D2, 0x2D7), (0x2DE, 0x2DF),
    (0x2E5, 0x2EB), (0x2ED, 0x2ED), (0x2EF, 0x2FF), (0x55A, 0x55C), (0x55E, 0x55E),
    (0x58A, 0x58A), (0x5F3, 0x5F3), (0x70F, 0x70F), (0xA708, 0xA716), (0xA720, 0xA721),
    (0xA789, 0xA78A), (0xAB5B, 0xAB5B)]⟩
  let unparted := ofScripts ["Ahom", "Hira", "Khmr", "Lana", "Laoo", "Mymr", "Tale", "Talu",
    "Tavt", "Thai"]
  ((((alphabetic.union signs).difference ideographic).difference unparted).difference
    wordKatakana).difference (extendingWords.union wordHebrew)

/-- The formats inside words. -/
def wordFormats : CharSet :=
  ((ofCategories ["Cf"]).difference ⟨[(0x200B, 0x200D)]⟩).difference
    (extendingWords.union prependedConcatenationMark)

/-- The class of word parts with a name in lower case and without separators. -/
def wordBreak? (name : String) : Option CharSet :=
  match name with
  | "cr" => some ⟨[(13, 13)]⟩
  | "dq" | "doublequote" => some ⟨[(34, 34)]⟩
  | "ex" | "extendnumlet" => some ((ofCategories ["Pc"]).union ⟨[(0x202F, 0x202F)]⟩)
  | "extend" => some extendingWords
  | "fo" | "format" => some wordFormats
  | "hl" | "hebrewletter" => some wordHebrew
  | "ka" | "katakana" => some wordKatakana
  | "le" | "aletter" => some wordLetters
  | "lf" => some ⟨[(10, 10)]⟩
  | "mb" | "midnumlet" => some ⟨[(0x2E, 0x2E), (0x2018, 0x2019), (0x2024, 0x2024),
      (0xFE52, 0xFE52), (0xFF07, 0xFF07), (0xFF0E, 0xFF0E)]⟩
  | "ml" | "midletter" => some ⟨[(0x3A, 0x3A), (0xB7, 0xB7), (0x387, 0x387), (0x55F, 0x55F),
      (0x5F4, 0x5F4), (0x2027, 0x2027), (0xFE13, 0xFE13), (0xFE55, 0xFE55), (0xFF1A, 0xFF1A)]⟩
  | "mn" | "midnum" => some ⟨[(0x2C, 0x2C), (0x3B, 0x3B), (0x37E, 0x37E), (0x589, 0x589),
      (0x60C, 0x60D), (0x66C, 0x66C), (0x7F8, 0x7F8), (0x2044, 0x2044), (0xFE10, 0xFE10),
      (0xFE14, 0xFE14), (0xFE50, 0xFE50), (0xFE54, 0xFE54), (0xFF0C, 0xFF0C), (0xFF1B, 0xFF1B)]⟩
  | "nl" | "newline" => some ⟨[(11, 12), (0x85, 0x85), (0x2028, 0x2029)]⟩
  | "nu" | "numeric" => some wordNumeric
  | "ri" | "regionalindicator" => some regionalIndicator
  | "sq" | "singlequote" => some ⟨[(39, 39)]⟩
  | "wsegspace" => some ((ofCategories ["Zs"]).difference
      ⟨[(0xA0, 0xA0), (0x2007, 0x2007), (0x202F, 0x202F)]⟩)
  | "zwj" => some ⟨[(0x200D, 0x200D)]⟩
  | _ => none

/-! ### Sentences -/

/-- Marks, modifiers and the joiner: no sentence is broken before them. -/
def extendingSentences : CharSet :=
  (graphemeExtend.union (ofCategories ["Mc"])).union ⟨[(0x200D, 0x200D)]⟩

/-- The letters with which a sentence may go on behind a full stop. -/
def sentenceLower : CharSet :=
  (lowercase.difference graphemeExtend).difference ⟨[(0x10D0, 0x10FA), (0x10FD, 0x10FF)]⟩

/-- The letters with which a sentence may start. -/
def sentenceUpper : CharSet :=
  ((ofCategories ["Lt"]).union uppercase).difference ⟨[(0x1C90, 0x1CBA), (0x1CBD, 0x1CBF)]⟩

/-- The letters without case. -/
def sentenceLetters : CharSet :=
  ((alphabetic.union ⟨[(0xA0, 0xA0), (0x5F3, 0x5F3)]⟩).difference extendingSentences).difference
    (sentenceLower.union sentenceUpper)

/-- The full stops, which may also stand inside a sentence. -/
def fullStops : CharSet :=
  ⟨[(0x2E, 0x2E), (0x2024, 0x2024), (0xFE52, 0xFE52), (0xFF0E, 0xFF0E)]⟩

/-- Brackets and quotation marks. -/
def sentenceClose : CharSet :=
  (ofCategories ["Pe", "Pf", "Pi", "Ps"]).union ⟨[(0x22, 0x22), (0x27, 0x27), (0x275B, 0x2760),
    (0x2E00, 0x2E01), (0x2E06, 0x2E08), (0x2E0B, 0x2E0B), (0x1F676, 0x1F678)]⟩

/-- The class of sentence parts with a name in lower case and without separators. -/
def sentenceBreak? (name : String) : Option CharSet :=
  match name with
  | "at" | "aterm" => some fullStops
  | "cl" | "close" => some sentenceClose
  | "cr" => some ⟨[(13, 13)]⟩
  | "ex" | "extend" => some extendingSentences
  | "fo" | "format" => some (((ofCategories ["Cf"]).difference ⟨[(0x200C, 0x200D)]⟩).difference
      (extendingSentences.union numberSigns))
  | "le" | "oletter" => some sentenceLetters
  | "lf" => some ⟨[(10, 10)]⟩
  | "lo" | "lower" => some sentenceLower
  | "nu" | "numeric" => some (wordNumeric.union ⟨[(0x66C, 0x66C)]⟩)
  | "sc" | "scontinue" => some ⟨[(0x2C, 0x2D), (0x3A, 0x3B), (0x37E, 0x37E), (0x55D, 0x55D),
      (0x60C, 0x60D), (0x7F8, 0x7F8), (0x1802, 0x1802), (0x1808, 0x1808), (0x2013, 0x2014),
      (0x3001, 0x3001), (0xFE10, 0xFE11), (0xFE13, 0xFE14), (0xFE31, 0xFE32), (0xFE50, 0xFE51),
      (0xFE54, 0xFE55), (0xFE58, 0xFE58), (0xFE63, 0xFE63), (0xFF0C, 0xFF0D), (0xFF1A, 0xFF1B),
      (0xFF64, 0xFF64)]⟩
  | "se" | "sep" => some ⟨[(0x85, 0x85), (0x2028, 0x2029)]⟩
  | "sp" => some (whiteSpace.difference ⟨[(10, 10), (13, 13), (0x85, 0x85), (0x2028, 0x2029)]⟩)
  | "st" | "sterm" => some (sentenceTerminal.difference fullStops)
  | "up" | "upper" => some sentenceUpper
  | _ => none

end Rulebook.CharSet
