/-
This file holds the characters that are new. Patterns do not know them yet, so for patterns they are
unassigned; in the names of groups and in quoted texts they already are what they are. The table
lists runs of characters in the order of their codes, each with its length and the short name of
its category; a hyphen stands for all other codes.
-/
import Rulebook.CharSet.Category
import Rulebook.CharSet.Property

namespace Rulebook.CharSet

/-- Runs of new characters of one general category. -/
def recentRuns : List (Nat × String) := decodeRuns
  "2191-1Lo972-1Lo127-1Lo3570-15Mn2-12Mn1493-1Sc2772-1So31799-1Lu1Ll2-1Lu1-1Lu28-1Lm21457-16So
  445-2So54-7So2929-26Lo1387-1Lm2Lo8-1Po8So33-2Mn3172-1Mn1Mc3Mn1Mc1Mn1Mc584-41Lo1Lm2Lo4-10Nd
  20662-25Lu2-25Ll286-2Lm3Nl6145-8Lo1289-22Lo97-115Lo16135-3So445-23So15-16So1Sm6095-31Lo1-3Lo
  1Mn2Lo1Mn7Lo2Mn5Lo1Mn8-1Lo1Lm4056-1So158-4So341-9Sm379-4So50-1So3-1So57-1So4-1So28-1So4-1So
  266-1So47935-6Lo5986-12Lo21762-4298Lo904070-"

/-- The new characters. -/
def recent : CharSet := ofRuns (· != "-") recentRuns

/-- The new marks that stand over or under the character before them. -/
def recentMarks : CharSet := ofRuns (· == "Mn") recentRuns

/-- The marks among the new ones that are no part of a spelling. -/
def recentAccents : CharSet := ⟨[(0x1ACF, 0x1ADD), (0x1AE0, 0x1AEB)]⟩

/-- The letters, with the new ones and the marks that belong to a spelling. -/
def spelling : CharSet :=
  alphabetic.union
    ((ofRuns ["Ll", "Lm", "Lo", "Lu", "Mc", "Mn", "Nl"].contains recentRuns).difference
      recentAccents)

/-- The characters with a numeric category, with the new ones. -/
def numeric : CharSet :=
  (ofCategories ["Nd", "Nl", "No"]).union (ofRuns ["Nd", "Nl", "No"].contains recentRuns)

end Rulebook.CharSet
