import GrantFs.Unicode.ScriptTableA
import GrantFs.Unicode.ScriptTableB

/-! # Characters of several scripts

A character that is used with several scripts, or with another one than it is assigned to, has a
list of these scripts in place of the one.
-/
namespace GrantFs.Unicode

def scriptExtensions : List (Span × List (List Span)) := [
  (⟨0x342, 0x342, 1⟩, [scriptGreek]),
  (⟨0x345, 0x345, 1⟩, [scriptGreek]),
  (⟨0x363, 0x36F, 1⟩, [scriptLatin]),
  (⟨0x483, 0x483, 1⟩, [scriptCyrillic, scriptOldPermic]),
  (⟨0x484, 0x484, 1⟩, [scriptCyrillic, scriptGlagolitic]),
  (⟨0x485, 0x486, 1⟩, [scriptCyrillic, scriptLatin]),
  (⟨0x487, 0x487, 1⟩, [scriptCyrillic, scriptGlagolitic]),
  (⟨0x60C, 0x60C, 1⟩, [scriptArabic, scriptHanifiRohingya, scriptNko, scriptSyriac, scriptThaana,
    scriptYezidi]),
  (⟨0x61B, 0x61B, 1⟩, [scriptArabic, scriptHanifiRohingya, scriptNko, scriptSyriac, scriptThaana,
    scriptYezidi]),
  (⟨0x61C, 0x61C, 1⟩, [scriptArabic, scriptSyriac, scriptThaana]),
  (⟨0x61F, 0x61F, 1⟩, [scriptAdlam, scriptArabic, scriptHanifiRohingya, scriptNko, scriptSyriac,
    scriptThaana, scriptYezidi]),
  (⟨0x640, 0x640, 1⟩, [scriptAdlam, scriptArabic, scriptHanifiRohingya, scriptMandaic,
    scriptManichaean, scriptOldUyghur, scriptPsalterPahlavi, scriptSogdian, scriptSyriac]),
  (⟨0x64B, 0x655, 1⟩, [scriptArabic, scriptSyriac]),
  (⟨0x660, 0x669, 1⟩, [scriptArabic, scriptThaana, scriptYezidi]),
  (⟨0x670, 0x670, 1⟩, [scriptArabic, scriptSyriac]),
  (⟨0x6D4, 0x6D4, 1⟩, [scriptArabic, scriptHanifiRohingya]),
  (⟨0x951, 0x951, 1⟩, [scriptBengali, scriptDevanagari, scriptGrantha, scriptGujarati,
    scriptGurmukhi, scriptKannada, scriptLatin, scriptMalayalam, scriptOriya, scriptSharada,
    scriptTamil, scriptTelugu, scriptTirhuta]),
  (⟨0x952, 0x952, 1⟩, [scriptBengali, scriptDevanagari, scriptGrantha, scriptGujarati,
    scriptGurmukhi, scriptKannada, scriptLatin, scriptMalayalam, scriptOriya, scriptTamil,
    scriptTelugu, scriptTirhuta]),
  (⟨0x964, 0x964, 1⟩, [scriptBengali, scriptDevanagari, scriptDogra, scriptGrantha, scriptGujarati,
    scriptGunjalaGondi, scriptGurmukhi, scriptKannada, scriptKhudawadi, scriptMahajani,
    scriptMalayalam, scriptMasaramGondi, scriptNandinagari, scriptOriya, scriptSinhala,
    scriptSylotiNagri, scriptTakri, scriptTamil, scriptTelugu, scriptTirhuta]),
  (⟨0x965, 0x965, 1⟩, [scriptBengali, scriptDevanagari, scriptDogra, scriptGrantha, scriptGujarati,
    scriptGunjalaGondi, scriptGurmukhi, scriptKannada, scriptKhudawadi, scriptLimbu, scriptMahajani,
    scriptMalayalam, scriptMasaramGondi, scriptNandinagari, scriptOriya, scriptSinhala,
    scriptSylotiNagri, scriptTakri, scriptTamil, scriptTelugu, scriptTirhuta]),
  (⟨0x966, 0x96F, 1⟩, [scriptDevanagari, scriptDogra, scriptKaithi, scriptMahajani]),
  (⟨0x9E6, 0x9EF, 1⟩, [scriptBengali, scriptChakma, scriptSylotiNagri]),
  (⟨0xA66, 0xA6F, 1⟩, [scriptGurmukhi, scriptMultani]),
  (⟨0xAE6, 0xAEF, 1⟩, [scriptGujarati, scriptKhojki]),
  (⟨0xBE6, 0xBF3, 1⟩, [scriptGrantha, scriptTamil]),
  (⟨0xCE6, 0xCEF, 1⟩, [scriptKannada, scriptNandinagari]),
  (⟨0x1040, 0x1049, 1⟩, [scriptChakma, scriptMyanmar, scriptTaiLe]),
  (⟨0x10FB, 0x10FB, 1⟩, [scriptGeorgian, scriptLatin]),
  (⟨0x1735, 0x1736, 1⟩, [scriptBuhid, scriptHanunoo, scriptTagalog, scriptTagbanwa]),
  (⟨0x1802, 0x1803, 1⟩, [scriptMongolian, scriptPhagsPa]),
  (⟨0x1805, 0x1805, 1⟩, [scriptMongolian, scriptPhagsPa]),
  (⟨0x1CD0, 0x1CD0, 1⟩, [scriptBengali, scriptDevanagari, scriptGrantha, scriptKannada]),
  (⟨0x1CD1, 0x1CD1, 1⟩, [scriptDevanagari]),
  (⟨0x1CD2, 0x1CD2, 1⟩, [scriptBengali, scriptDevanagari, scriptGrantha, scriptKannada]),
  (⟨0x1CD3, 0x1CD3, 1⟩, [scriptDevanagari, scriptGrantha]),
  (⟨0x1CD4, 0x1CD4, 1⟩, [scriptDevanagari]),
  (⟨0x1CD5, 0x1CD6, 1⟩, [scriptBengali, scriptDevanagari]),
  (⟨0x1CD7, 0x1CD7, 1⟩, [scriptDevanagari, scriptSharada]),
  (⟨0x1CD8, 0x1CD8, 1⟩, [scriptBengali, scriptDevanagari]),
  (⟨0x1CD9, 0x1CD9, 1⟩, [scriptDevanagari, scriptSharada]),
  (⟨0x1CDA, 0x1CDA, 1⟩, [scriptDevanagari, scriptKannada, scriptMalayalam, scriptOriya, scriptTamil,
    scriptTelugu]),
  (⟨0x1CDB, 0x1CDB, 1⟩, [scriptDevanagari]),
  (⟨0x1CDC, 0x1CDD, 1⟩, [scriptDevanagari, scriptSharada]),
  (⟨0x1CDE, 0x1CDF, 1⟩, [scriptDevanagari]),
  (⟨0x1CE0, 0x1CE0, 1⟩, [scriptDevanagari, scriptSharada]),
  (⟨0x1CE1, 0x1CE1, 1⟩, [scriptBengali, scriptDevanagari]),
  (⟨0x1CE2, 0x1CE8, 1⟩, [scriptDevanagari]),
  (⟨0x1CE9, 0x1CE9, 1⟩, [scriptDevanagari, scriptNandinagari]),
  (⟨0x1CEA, 0x1CEA, 1⟩, [scriptBengali, scriptDevanagari]),
  (⟨0x1CEB, 0x1CEC, 1⟩, [scriptDevanagari]),
  (⟨0x1CED, 0x1CED, 1⟩, [scriptBengali, scriptDevanagari]),
  (⟨0x1CEE, 0x1CF1, 1⟩, [scriptDevanagari]),
  (⟨0x1CF2, 0x1CF2, 1⟩, [scriptBengali, scriptDevanagari, scriptGrantha, scriptKannada,
    scriptNandinagari, scriptOriya, scriptTelugu, scriptTirhuta]),
  (⟨0x1CF3, 0x1CF3, 1⟩, [scriptDevanagari, scriptGrantha]),
  (⟨0x1CF4, 0x1CF4, 1⟩, [scriptDevanagari, scriptGrantha, scriptKannada]),
  (⟨0x1CF5, 0x1CF6, 1⟩, [scriptBengali, scriptDevanagari]),
  (⟨0x1CF7, 0x1CF7, 1⟩, [scriptBengali]),
  (⟨0x1CF8, 0x1CF9, 1⟩, [scriptDevanagari, scriptGrantha]),
  (⟨0x1CFA, 0x1CFA, 1⟩, [scriptNandinagari]),
  (⟨0x1DC0, 0x1DC1, 1⟩, [scriptGreek]),
  (⟨0x1DF8, 0x1DF8, 1⟩, [scriptCyrillic, scriptSyriac]),
  (⟨0x1DFA, 0x1DFA, 1⟩, [scriptSyriac]),
  (⟨0x202F, 0x202F, 1⟩, [scriptLatin, scriptMongolian]),
  (⟨0x20F0, 0x20F0, 1⟩, [scriptDevanagari, scriptGrantha, scriptLatin]),
  (⟨0x2E43, 0x2E43, 1⟩, [scriptCyrillic, scriptGlagolitic]),
  (⟨0x3001, 0x3002, 1⟩, [scriptBopomofo, scriptHan, scriptHangul, scriptHiragana, scriptKatakana,
    scriptYi]),
  (⟨0x3003, 0x3003, 1⟩, [scriptBopomofo, scriptHan, scriptHangul, scriptHiragana, scriptKatakana]),
  (⟨0x3006, 0x3006, 1⟩, [scriptHan]),
  (⟨0x3008, 0x3011, 1⟩, [scriptBopomofo, scriptHan, scriptHangul, scriptHiragana, scriptKatakana,
    scriptYi]),
  (⟨0x3013, 0x3013, 1⟩, [scriptBopomofo, scriptHan, scriptHangul, scriptHiragana, scriptKatakana]),
  (⟨0x3014, 0x301B, 1⟩, [scriptBopomofo, scriptHan, scriptHangul, scriptHiragana, scriptKatakana,
    scriptYi]),
  (⟨0x301C, 0x301F, 1⟩, [scriptBopomofo, scriptHan, scriptHangul, scriptHiragana, scriptKatakana]),
  (⟨0x302A, 0x302D, 1⟩, [scriptBopomofo, scriptHan]),
  (⟨0x3030, 0x3030, 1⟩, [scriptBopomofo, scriptHan, scriptHangul, scriptHiragana, scriptKatakana]),
  (⟨0x3031, 0x3035, 1⟩, [scriptHiragana, scriptKatakana]),
  (⟨0x3037, 0x3037, 1⟩, [scriptBopomofo, scriptHan, scriptHangul, scriptHiragana, scriptKatakana]),
  (⟨0x303C, 0x303D, 1⟩, [scriptHan, scriptHiragana, scriptKatakana]),
  (⟨0x303E, 0x303F, 1⟩, [scriptHan]),
  (⟨0x3099, 0x309A, 1⟩, [scriptHiragana, scriptKatakana]),
  (⟨0x309B, 0x309C, 1⟩, [scriptHiragana, scriptKatakana]),
  (⟨0x30A0, 0x30A0, 1⟩, [scriptHiragana, scriptKatakana]),
  (⟨0x30FB, 0x30FB, 1⟩, [scriptBopomofo, scriptHan, scriptHangul, scriptHiragana, scriptKatakana,
    scriptYi]),
  (⟨0x30FC, 0x30FC, 1⟩, [scriptHiragana, scriptKatakana]),
  (⟨0x3190, 0x319F, 1⟩, [scriptHan]),
  (⟨0x31C0, 0x31E3, 1⟩, [scriptHan]),
  (⟨0x3220, 0x3247, 1⟩, [scriptHan]),
  (⟨0x3280, 0x32B0, 1⟩, [scriptHan]),
  (⟨0x32C0, 0x32CB, 1⟩, [scriptHan]),
  (⟨0x32FF, 0x32FF, 1⟩, [scriptHan]),
  (⟨0x3358, 0x3370, 1⟩, [scriptHan]),
  (⟨0x337B, 0x337F, 1⟩, [scriptHan]),
  (⟨0x33E0, 0x33FE, 1⟩, [scriptHan]),
  (⟨0xA66F, 0xA66F, 1⟩, [scriptCyrillic, scriptGlagolitic]),
  (⟨0xA700, 0xA707, 1⟩, [scriptHan, scriptLatin]),
  (⟨0xA830, 0xA832, 1⟩, [scriptDevanagari, scriptDogra, scriptGujarati, scriptGurmukhi,
    scriptKaithi, scriptKannada, scriptKhojki, scriptKhudawadi, scriptMahajani, scriptMalayalam,
    scriptModi, scriptNandinagari, scriptTakri, scriptTirhuta]),
  (⟨0xA833, 0xA835, 1⟩, [scriptDevanagari, scriptDogra, scriptGujarati, scriptGurmukhi,
    scriptKaithi, scriptKannada, scriptKhojki, scriptKhudawadi, scriptMahajani, scriptModi,
    scriptNandinagari, scriptTakri, scriptTirhuta]),
  (⟨0xA836, 0xA839, 1⟩, [scriptDevanagari, scriptDogra, scriptGujarati, scriptGurmukhi,
    scriptKaithi, scriptKhojki, scriptKhudawadi, scriptMahajani, scriptModi, scriptTakri,
    scriptTirhuta]),
  (⟨0xA8F1, 0xA8F1, 1⟩, [scriptBengali, scriptDevanagari]),
  (⟨0xA8F3, 0xA8F3, 1⟩, [scriptDevanagari, scriptTamil]),
  (⟨0xA92E, 0xA92E, 1⟩, [scriptKayahLi, scriptLatin, scriptMyanmar]),
  (⟨0xA9CF, 0xA9CF, 1⟩, [scriptBuginese, scriptJavanese]),
  (⟨0xFD3E, 0xFD3F, 1⟩, [scriptArabic, scriptNko]),
  (⟨0xFDF2, 0xFDF2, 1⟩, [scriptArabic, scriptThaana]),
  (⟨0xFDFD, 0xFDFD, 1⟩, [scriptArabic, scriptThaana]),
  (⟨0xFE45, 0xFE46, 1⟩, [scriptBopomofo, scriptHan, scriptHangul, scriptHiragana, scriptKatakana]),
  (⟨0xFF61, 0xFF65, 1⟩, [scriptBopomofo, scriptHan, scriptHangul, scriptHiragana, scriptKatakana,
    scriptYi]),
  (⟨0xFF70, 0xFF70, 1⟩, [scriptHiragana, scriptKatakana]),
  (⟨0xFF9E, 0xFF9F, 1⟩, [scriptHiragana, scriptKatakana]),
  (⟨0x10100, 0x10101, 1⟩, [scriptCypriot, scriptCyproMinoan, scriptLinearB]),
  (⟨0x10102, 0x10102, 1⟩, [scriptCypriot, scriptLinearB]),
  (⟨0x10107, 0x10133, 1⟩, [scriptCypriot, scriptLinearA, scriptLinearB]),
  (⟨0x10137, 0x1013F, 1⟩, [scriptCypriot, scriptLinearB]),
  (⟨0x102E0, 0x102E0, 1⟩, [scriptArabic, scriptCoptic]),
  (⟨0x102E1, 0x102FB, 1⟩, [scriptArabic, scriptCoptic]),
  (⟨0x10AF2, 0x10AF2, 1⟩, [scriptManichaean, scriptOldUyghur]),
  (⟨0x11301, 0x11301, 1⟩, [scriptGrantha, scriptTamil]),
  (⟨0x11303, 0x11303, 1⟩, [scriptGrantha, scriptTamil]),
  (⟨0x1133B, 0x1133B, 1⟩, [scriptGrantha, scriptTamil]),
  (⟨0x1133C, 0x1133C, 1⟩, [scriptGrantha, scriptTamil]),
  (⟨0x11FD0, 0x11FD1, 1⟩, [scriptGrantha, scriptTamil]),
  (⟨0x11FD3, 0x11FD3, 1⟩, [scriptGrantha, scriptTamil]),
  (⟨0x1BCA0, 0x1BCA3, 1⟩, [scriptDuployan]),
  (⟨0x1D360, 0x1D371, 1⟩, [scriptHan]),
  (⟨0x1F250, 0x1F251, 1⟩, [scriptHan])]

/-- Whether a character is used with the script. -/
def isUsedWith (script : List Span) (n : Nat) : Bool :=
  match scriptExtensions.find? (·.1.has n) with
  | some (_, scripts) => scripts.contains script
  | none => inSpans script n

end GrantFs.Unicode
