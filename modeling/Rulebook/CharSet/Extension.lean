/-
This file says which characters belong to other scripts than their own one, or to several. The
table lists runs of characters in the order of their codes, each with its length and the codes of
all its scripts; a hyphen stands for the characters that belong to their own script alone.
-/
import Rulebook.CharSet.Script

namespace Rulebook.CharSet

/-- Runs of characters with the scripts that they are used in. -/
def extensionRuns : List (Nat × String) := decodeRuns
  "183-1AvstCariCoptDuplElbaGeorGlagGongGothGrekHaniLatnLydiMahjPermShaw516-
  1BengCyrlDevaLatnLisuThaiToto10-1BopoLatn1-3BopoLatn1-1LatnLisu9-1LatnThai1-1BopoLatn38-
  1CherCoptCyrlGrekLatnPermSunuTale1CherCyrlGrekLatnOsgeSunuTaleTodr1CherCyrlLatnTfng
  1GlagLatnSunuSyrcThai1AghbCherCoptCyrlGothGrekLatnOsgeSyrcTfngTodr1CoptElbaGlagGothKanaLatn
  1CyrlGrekLatnPermTfng1CoptDuplHebrLatnPermSyrcTaleTfngTodr
  1ArmnCyrlDuplGothGrekHebrLatnPermSyrcTaleTfng1LatnTfng1DuplLatnSyrc1CherCyrlLatnOsge
  1CherLatnTale1LatnSunu1EthiLatn1-1LatnSunu1CyrlLatnTodr1-1GrekLatnPermTodr15-
  1CherDuplKanaLatnSyrcTfng1CherDuplLatnSyrc1LatnSyrc7-1LatnSunuSyrc1LatnSyrc1-1CherLatnSyrc
  1AghbCherGothLatnSunuSyrcThai16-1Grek2-1Grek18-1LatnOsge5-1AghbLatnTodr4-13Latn4-2CoptGrek269-
  1CyrlPerm1CyrlGlag2CyrlLatn1CyrlGlag257-1ArmnGeorGlag130-1ArabGaraNkooRohgSyrcThaaYezi14-
  1ArabGaraNkooRohgSyrcThaaYezi1ArabSyrcThaa2-1AdlmArabGaraNkooRohgSyrcThaaYezi32-
  1AdlmArabMandManiOugrPhlpRohgSogdSyrc10-11ArabSyrc10-10ArabThaaYezi6-1ArabSyrc99-1ArabRohg636-
  1BengDevaGranGujrGuruKndaLatnMlymNandNewaOryaShrdTamlTeluTirh
  1BengDevaGranGujrGuruKndaLatnMlymNewaOryaTamlTeluTirh17-
  1BengDevaDogrGongGonmGranGujrGuruKndaMahjMlymNandOnaoOryaSindSinhSyloTakrTamlTeluTirh
  1BengDevaDogrGongGonmGranGujrGukhGuruKndaLimbMahjMlymNandOnaoOryaSindSinhSyloTakrTamlTeluTirh
  10DevaDogrKthiMahj118-10BengCakmSylo118-10GuruMult118-10GujrKhoj246-14GranTaml242-
  10KndaNandTutg848-10CakmMymrTale177-1GeorGlagLatn1519-3Runr71-2BuhdHanoTagbTglg203-2MongPhag1-
  1MongPhag1226-1BengDevaGranKnda1Deva1BengDevaGranKnda1DevaGranKnda1Deva1BengDevaNewaTeluTirh
  1BengDevaTelu1DevaNewaShrd1BengDevaNewaTelu1DevaShrd1DevaKndaMlymOryaTamlTelu1Deva2DevaShrd
  2Deva1DevaShrd1BengDeva1DevaNewaTirh6Deva1DevaNandNewa1BengDevaShrd1DevaNewa1Deva
  1BengDevaNewaShrd4Deva1BengDevaGranKndaMlymNandOryaSinhTeluTirhTutg1DevaGran1DevaGranKndaTutg
  2BengDeva1Beng2DevaGran1Nand197-2Grek54-1CyrlLatnSyrc1-1Syrc564-1LatnMongPhag31-1AdlmArab10-
  1CariGeorGlagHungLyciOrkh2-1CariGrekHungMero146-1DevaGranLatn3366-1CoptLatn24-1AvstOrkh
  1AvstCariGeorHungKthiLydiSamr10-1Dupl4-1AdlmArabHung1-1CyrlGlag428-16HaniTang1-
  1BopoHangHaniHiraKanaMongYiii1BopoHangHaniHiraKanaMongPhagYiii1BopoHangHaniHiraKana2-1Hani1-
  2BopoHangHaniHiraKanaMongTibtYiii2BopoHangHaniHiraKanaLisuMongTibtYiii
  6BopoHangHaniHiraKanaYiii1-1BopoHangHaniHiraKana8BopoHangHaniHiraKanaYiii4BopoHangHaniHiraKana
  10-4BopoHani2-1BopoHangHaniHiraKana5HiraKana1-1BopoHangHaniHiraKana4-2HaniHiraKana2Hani89-
  4HiraKana3-1HiraKana90-1BopoHangHaniHiraKanaYiii1HiraKana147-16Hani32-38Hani9-1HaniTang48-
  40Hani56-49Hani15-12Hani51-1Hani88-25Hani10-5Hani96-31Hani29296-1CyrlGlag144-8HaniLatn296-
  3DevaDogrGujrGuruKhojKndaKthiMahjMlymModiNandShrdSindTakrTirhTutg
  3DevaDogrGujrGuruKhojKndaKthiMahjModiNandShrdSindTakrTirhTutg
  2DevaDogrGujrGuruKhojKthiMahjModiSindTakrTirh1DevaDogrGujrGuruKhojKthiMahjModiShrdSindTakrTirh
  1DevaDogrGujrGuruKhojKthiMahjModiSindTakrTirh183-1BengDevaTutg1-1DevaTaml58-1KaliLatnMymr160-
  1BugiJava21358-2ArabNkoo178-1ArabThaa10-1ArabThaa71-2BopoHangHaniHiraKana282-
  5BopoHangHaniHiraKanaYiii10-1HiraKana45-2HiraKana352-2CpmnCprtLinb1CprtLinb4-45CprtLinaLinb3-
  9CprtLinb416-28ArabCopt2038-1ManiOugr2062-1GranTaml1-1GranTaml55-2GranTaml3219-2GranTaml1-
  1GranTaml40140-4Dupl5820-18Hani7902-2Hani986542-"

/-- The four-letter codes in a row. -/
def scriptCodes : List Char → List String
  | first :: second :: third :: fourth :: rest =>
    String.ofList [first, second, third, fourth] :: scriptCodes rest
  | _ => []

/-- The characters that are used in a script, by a name in lower case and without separators. -/
def scriptExtension? (name : String) : Option CharSet :=
  (scriptNames.find? fun entry => entry.1.contains name).map fun entry =>
    let own := ofRuns (· == entry.2) scriptRuns
    let listed := ofRuns (· != "-") extensionRuns
    let shared := ofRuns (fun codes => (scriptCodes codes.toList).contains entry.2) extensionRuns
    (own.difference listed).union shared

end Rulebook.CharSet
