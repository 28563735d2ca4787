import GrantFs.Unicode.Span

/-! # Scripts

The code points of each script and the names by which it is asked for.
-/
namespace GrantFs.Unicode

def scriptMarchen : List Span := [
  ⟨0x11C70, 0x11C8F, 1⟩, ⟨0x11C92, 0x11CA7, 1⟩, ⟨0x11CA9, 0x11CB6, 1⟩]

def scriptMedefaidrin : List Span := [
  ⟨0x16E40, 0x16E9A, 1⟩]

def scriptMendeKikakui : List Span := [
  ⟨0x1E800, 0x1E8C4, 1⟩, ⟨0x1E8C7, 0x1E8D6, 1⟩]

def scriptMeroiticCursive : List Span := [
  ⟨0x109A0, 0x109B7, 1⟩, ⟨0x109BC, 0x109CF, 1⟩, ⟨0x109D2, 0x109FF, 1⟩]

def scriptMeroiticHieroglyphs : List Span := [
  ⟨0x10980, 0x1099F, 1⟩]

def scriptMalayalam : List Span := [
  ⟨0xD00, 0xD0C, 1⟩, ⟨0xD0E, 0xD10, 1⟩, ⟨0xD12, 0xD44, 1⟩, ⟨0xD46, 0xD48, 1⟩, ⟨0xD4A, 0xD4F, 1⟩,
  ⟨0xD54, 0xD63, 1⟩, ⟨0xD66, 0xD7F, 1⟩]

def scriptModi : List Span := [
  ⟨0x11600, 0x11644, 1⟩, ⟨0x11650, 0x11659, 1⟩]

def scriptMongolian : List Span := [
  ⟨0x1800, 0x1801, 1⟩, ⟨0x1804, 0x1804, 1⟩, ⟨0x1806, 0x1819, 1⟩, ⟨0x1820, 0x1878, 1⟩,
  ⟨0x1880, 0x18AA, 1⟩, ⟨0x11660, 0x1166C, 1⟩]

def scriptMro : List Span := [
  ⟨0x16A40, 0x16A5E, 1⟩, ⟨0x16A60, 0x16A69, 1⟩, ⟨0x16A6E, 0x16A6F, 1⟩]

def scriptMeeteiMayek : List Span := [
  ⟨0xAAE0, 0xAAF6, 1⟩, ⟨0xABC0, 0xABED, 1⟩, ⟨0xABF0, 0xABF9, 1⟩]

def scriptMultani : List Span := [
  ⟨0x11280, 0x11286, 1⟩, ⟨0x11288, 0x11288, 1⟩, ⟨0x1128A, 0x1128D, 1⟩, ⟨0x1128F, 0x1129D, 1⟩,
  ⟨0x1129F, 0x112A9, 1⟩]

def scriptMyanmar : List Span := [
  ⟨0x1000, 0x109F, 1⟩, ⟨0xA9E0, 0xA9FE, 1⟩, ⟨0xAA60, 0xAA7F, 1⟩]

def scriptNagMundari : List Span := [
  ⟨0x1E4D0, 0x1E4F9, 1⟩]

def scriptNandinagari : List Span := [
  ⟨0x119A0, 0x119A7, 1⟩, ⟨0x119AA, 0x119D7, 1⟩, ⟨0x119DA, 0x119E4, 1⟩]

def scriptOldNorthArabian : List Span := [
  ⟨0x10A80, 0x10A9F, 1⟩]

def scriptNabataean : List Span := [
  ⟨0x10880, 0x1089E, 1⟩, ⟨0x108A7, 0x108AF, 1⟩]

def scriptNewa : List Span := [
  ⟨0x11400, 0x1145B, 1⟩, ⟨0x1145D, 0x11461, 1⟩]

def scriptNko : List Span := [
  ⟨0x7C0, 0x7FA, 1⟩, ⟨0x7FD, 0x7FF, 1⟩]

def scriptNushu : List Span := [
  ⟨0x16FE1, 0x16FE1, 1⟩, ⟨0x1B170, 0x1B2FB, 1⟩]

def scriptOgham : List Span := [
  ⟨0x1680, 0x169C, 1⟩]

def scriptOlChiki : List Span := [
  ⟨0x1C50, 0x1C7F, 1⟩]

def scriptOldTurkic : List Span := [
  ⟨0x10C00, 0x10C48, 1⟩]

def scriptOriya : List Span := [
  ⟨0xB01, 0xB03, 1⟩, ⟨0xB05, 0xB0C, 1⟩, ⟨0xB0F, 0xB10, 1⟩, ⟨0xB13, 0xB28, 1⟩, ⟨0xB2A, 0xB30, 1⟩,
  ⟨0xB32, 0xB33, 1⟩, ⟨0xB35, 0xB39, 1⟩, ⟨0xB3C, 0xB44, 1⟩, ⟨0xB47, 0xB48, 1⟩, ⟨0xB4B, 0xB4D, 1⟩,
  ⟨0xB55, 0xB57, 1⟩, ⟨0xB5C, 0xB5D, 1⟩, ⟨0xB5F, 0xB63, 1⟩, ⟨0xB66, 0xB77, 1⟩]

def scriptOsage : List Span := [
  ⟨0x104B0, 0x104D3, 1⟩, ⟨0x104D8, 0x104FB, 1⟩]

def scriptOsmanya : List Span := [
  ⟨0x10480, 0x1049D, 1⟩, ⟨0x104A0, 0x104A9, 1⟩]

def scriptOldUyghur : List Span := [
  ⟨0x10F70, 0x10F89, 1⟩]

def scriptPalmyrene : List Span := [
  ⟨0x10860, 0x1087F, 1⟩]

def scriptPauCinHau : List Span := [
  ⟨0x11AC0, 0x11AF8, 1⟩]

def scriptOldPermic : List Span := [
  ⟨0x10350, 0x1037A, 1⟩]

def scriptPhagsPa : List Span := [
  ⟨0xA840, 0xA877, 1⟩]

def scriptInscriptionalPahlavi : List Span := [
  ⟨0x10B60, 0x10B72, 1⟩, ⟨0x10B78, 0x10B7F, 1⟩]

def scriptPsalterPahlavi : List Span := [
  ⟨0x10B80, 0x10B91, 1⟩, ⟨0x10B99, 0x10B9C, 1⟩, ⟨0x10BA9, 0x10BAF, 1⟩]

def scriptPhoenician : List Span := [
  ⟨0x10900, 0x1091B, 1⟩, ⟨0x1091F, 0x1091F, 1⟩]

def scriptMiao : List Span := [
  ⟨0x16F00, 0x16F4A, 1⟩, ⟨0x16F4F, 0x16F87, 1⟩, ⟨0x16F8F, 0x16F9F, 1⟩]

def scriptInscriptionalParthian : List Span := [
  ⟨0x10B40, 0x10B55, 1⟩, ⟨0x10B58, 0x10B5F, 1⟩]

def scriptRejang : List Span := [
  ⟨0xA930, 0xA953, 1⟩, ⟨0xA95F, 0xA95F, 1⟩]

def scriptHanifiRohingya : List Span := [
  ⟨0x10D00, 0x10D27, 1⟩, ⟨0x10D30, 0x10D39, 1⟩]

def scriptRunic : List Span := [
  ⟨0x16A0, 0x16EA, 1⟩, ⟨0x16EE, 0x16F8, 1⟩]

def scriptSamaritan : List Span := [
  ⟨0x800, 0x82D, 1⟩, ⟨0x830, 0x83E, 1⟩]

def scriptOldSouthArabian : List Span := [
  ⟨0x10A60, 0x10A7F, 1⟩]

def scriptSaurashtra : List Span := [
  ⟨0xA880, 0xA8C5, 1⟩, ⟨0xA8CE, 0xA8D9, 1⟩]

def scriptSignWriting : List Span := [
  ⟨0x1D800, 0x1DA8B, 1⟩, ⟨0x1DA9B, 0x1DA9F, 1⟩, ⟨0x1DAA1, 0x1DAAF, 1⟩]

def scriptShavian : List Span := [
  ⟨0x10450, 0x1047F, 1⟩]

def scriptSharada : List Span := [
  ⟨0x11180, 0x111DF, 1⟩]

def scriptSiddham : List Span := [
  ⟨0x11580, 0x115B5, 1⟩, ⟨0x115B8, 0x115DD, 1⟩]

def scriptKhudawadi : List Span := [
  ⟨0x112B0, 0x112EA, 1⟩, ⟨0x112F0, 0x112F9, 1⟩]

def scriptSinhala : List Span := [
  ⟨0xD81, 0xD83, 1⟩, ⟨0xD85, 0xD96, 1⟩, ⟨0xD9A, 0xDB1, 1⟩, ⟨0xDB3, 0xDBB, 1⟩, ⟨0xDBD, 0xDBD, 1⟩,
  ⟨0xDC0, 0xDC6, 1⟩, ⟨0xDCA, 0xDCA, 1⟩, ⟨0xDCF, 0xDD4, 1⟩, ⟨0xDD6, 0xDD6, 1⟩, ⟨0xDD8, 0xDDF, 1⟩,
  ⟨0xDE6, 0xDEF, 1⟩, ⟨0xDF2, 0xDF4, 1⟩, ⟨0x111E1, 0x111F4, 1⟩]

def scriptSogdian : List Span := [
  ⟨0x10F30, 0x10F59, 1⟩]

def scriptOldSogdian : List Span := [
  ⟨0x10F00, 0x10F27, 1⟩]

def scriptSoraSompeng : List Span := [
  ⟨0x110D0, 0x110E8, 1⟩, ⟨0x110F0, 0x110F9, 1⟩]

def scriptSoyombo : List Span := [
  ⟨0x11A50, 0x11AA2, 1⟩]

def scriptSundanese : List Span := [
  ⟨0x1B80, 0x1BBF, 1⟩, ⟨0x1CC0, 0x1CC7, 1⟩]

def scriptSylotiNagri : List Span := [
  ⟨0xA800, 0xA82C, 1⟩]

def scriptSyriac : List Span := [
  ⟨0x700, 0x70D, 1⟩, ⟨0x70F, 0x74A, 1⟩, ⟨0x74D, 0x74F, 1⟩, ⟨0x860, 0x86A, 1⟩]

def scriptTagbanwa : List Span := [
  ⟨0x1760, 0x176C, 1⟩, ⟨0x176E, 0x1770, 1⟩, ⟨0x1772, 0x1773, 1⟩]

def scriptTakri : List Span := [
  ⟨0x11680, 0x116B9, 1⟩, ⟨0x116C0, 0x116C9, 1⟩]

def scriptTaiLe : List Span := [
  ⟨0x1950, 0x196D, 1⟩, ⟨0x1970, 0x1974, 1⟩]

def scriptNewTaiLue : List Span := [
  ⟨0x1980, 0x19AB, 1⟩, ⟨0x19B0, 0x19C9, 1⟩, ⟨0x19D0, 0x19DA, 1⟩, ⟨0x19DE, 0x19DF, 1⟩]

def scriptTamil : List Span := [
  ⟨0xB82, 0xB83, 1⟩, ⟨0xB85, 0xB8A, 1⟩, ⟨0xB8E, 0xB90, 1⟩, ⟨0xB92, 0xB95, 1⟩, ⟨0xB99, 0xB9A, 1⟩,
  ⟨0xB9C, 0xB9C, 1⟩, ⟨0xB9E, 0xB9F, 1⟩, ⟨0xBA3, 0xBA4, 1⟩, ⟨0xBA8, 0xBAA, 1⟩, ⟨0xBAE, 0xBB9, 1⟩,
  ⟨0xBBE, 0xBC2, 1⟩, ⟨0xBC6, 0xBC8, 1⟩, ⟨0xBCA, 0xBCD, 1⟩, ⟨0xBD0, 0xBD0, 1⟩, ⟨0xBD7, 0xBD7, 1⟩,
  ⟨0xBE6, 0xBFA, 1⟩, ⟨0x11FC0, 0x11FF1, 1⟩, ⟨0x11FFF, 0x11FFF, 1⟩]

def scriptTangut : List Span := [
  ⟨0x16FE0, 0x16FE0, 1⟩, ⟨0x17000, 0x187F7, 1⟩, ⟨0x18800, 0x18AFF, 1⟩, ⟨0x18D00, 0x18D08, 1⟩]

def scriptTaiViet : List Span := [
  ⟨0xAA80, 0xAAC2, 1⟩, ⟨0xAADB, 0xAADF, 1⟩]

def scriptTelugu : List Span := [
  ⟨0xC00, 0xC0C, 1⟩, ⟨0xC0E, 0xC10, 1⟩, ⟨0xC12, 0xC28, 1⟩, ⟨0xC2A, 0xC39, 1⟩, ⟨0xC3C, 0xC44, 1⟩,
  ⟨0xC46, 0xC48, 1⟩, ⟨0xC4A, 0xC4D, 1⟩, ⟨0xC55, 0xC56, 1⟩, ⟨0xC58, 0xC5A, 1⟩, ⟨0xC5D, 0xC5D, 1⟩,
  ⟨0xC60, 0xC63, 1⟩, ⟨0xC66, 0xC6F, 1⟩, ⟨0xC77, 0xC7F, 1⟩]

def scriptTifinagh : List Span := [
  ⟨0x2D30, 0x2D67, 1⟩, ⟨0x2D6F, 0x2D70, 1⟩, ⟨0x2D7F, 0x2D7F, 1⟩]

def scriptTagalog : List Span := [
  ⟨0x1700, 0x1715, 1⟩, ⟨0x171F, 0x171F, 1⟩]

def scriptThaana : List Span := [
  ⟨0x780, 0x7B1, 1⟩]

def scriptThai : List Span := [
  ⟨0xE01, 0xE3A, 1⟩, ⟨0xE40, 0xE5B, 1⟩]

def scriptTibetan : List Span := [
  ⟨0xF00, 0xF47, 1⟩, ⟨0xF49, 0xF6C, 1⟩, ⟨0xF71, 0xF97, 1⟩, ⟨0xF99, 0xFBC, 1⟩, ⟨0xFBE, 0xFCC, 1⟩,
  ⟨0xFCE, 0xFD4, 1⟩, ⟨0xFD9, 0xFDA, 1⟩]

def scriptTirhuta : List Span := [
  ⟨0x11480, 0x114C7, 1⟩, ⟨0x114D0, 0x114D9, 1⟩]

def scriptTangsa : List Span := [
  ⟨0x16A70, 0x16ABE, 1⟩, ⟨0x16AC0, 0x16AC9, 1⟩]

def scriptToto : List Span := [
  ⟨0x1E290, 0x1E2AE, 1⟩]

def scriptUgaritic : List Span := [
  ⟨0x10380, 0x1039D, 1⟩, ⟨0x1039F, 0x1039F, 1⟩]

def scriptVai : List Span := [
  ⟨0xA500, 0xA62B, 1⟩]

def scriptVithkuqi : List Span := [
  ⟨0x10570, 0x1057A, 1⟩, ⟨0x1057C, 0x1058A, 1⟩, ⟨0x1058C, 0x10592, 1⟩, ⟨0x10594, 0x10595, 1⟩,
  ⟨0x10597, 0x105A1, 1⟩, ⟨0x105A3, 0x105B1, 1⟩, ⟨0x105B3, 0x105B9, 1⟩, ⟨0x105BB, 0x105BC, 1⟩]

def scriptWarangCiti : List Span := [
  ⟨0x118A0, 0x118F2, 1⟩, ⟨0x118FF, 0x118FF, 1⟩]

def scriptWancho : List Span := [
  ⟨0x1E2C0, 0x1E2F9, 1⟩, ⟨0x1E2FF, 0x1E2FF, 1⟩]

def scriptOldPersian : List Span := [
  ⟨0x103A0, 0x103C3, 1⟩, ⟨0x103C8, 0x103D5, 1⟩]

def scriptCuneiform : List Span := [
  ⟨0x12000, 0x12399, 1⟩, ⟨0x12400, 0x1246E, 1⟩, ⟨0x12470, 0x12474, 1⟩, ⟨0x12480, 0x12543, 1⟩]

def scriptYezidi : List Span := [
  ⟨0x10E80, 0x10EA9, 1⟩, ⟨0x10EAB, 0x10EAD, 1⟩, ⟨0x10EB0, 0x10EB1, 1⟩]

def scriptYi : List Span := [
  ⟨0xA000, 0xA48C, 1⟩, ⟨0xA490, 0xA4C6, 1⟩]

def scriptZanabazarSquare : List Span := [
  ⟨0x11A00, 0x11A47, 1⟩]

def scriptInherited : List Span := [
  ⟨0x300, 0x36F, 1⟩, ⟨0x485, 0x486, 1⟩, ⟨0x64B, 0x655, 1⟩, ⟨0x670, 0x670, 1⟩, ⟨0x951, 0x954, 1⟩,
  ⟨0x1AB0, 0x1ACE, 1⟩, ⟨0x1CD0, 0x1CD2, 1⟩, ⟨0x1CD4, 0x1CE0, 1⟩, ⟨0x1CE2, 0x1CE8, 1⟩,
  ⟨0x1CED, 0x1CED, 1⟩, ⟨0x1CF4, 0x1CF4, 1⟩, ⟨0x1CF8, 0x1CF9, 1⟩, ⟨0x1DC0, 0x1DFF, 1⟩,
  ⟨0x200C, 0x200D, 1⟩, ⟨0x20D0, 0x20F0, 1⟩, ⟨0x302A, 0x302D, 1⟩, ⟨0x3099, 0x309A, 1⟩,
  ⟨0xFE00, 0xFE0F, 1⟩, ⟨0xFE20, 0xFE2D, 1⟩, ⟨0x101FD, 0x101FD, 1⟩, ⟨0x102E0, 0x102E0, 1⟩,
  ⟨0x1133B, 0x1133B, 1⟩, ⟨0x1CF00, 0x1CF2D, 1⟩, ⟨0x1CF30, 0x1CF46, 1⟩, ⟨0x1D167, 0x1D169, 1⟩,
  ⟨0x1D17B, 0x1D182, 1⟩, ⟨0x1D185, 0x1D18B, 1⟩, ⟨0x1D1AA, 0x1D1AD, 1⟩, ⟨0xE0100, 0xE01EF, 1⟩]

private def scriptCommonPart1 : List Span := [
  ⟨0x0, 0x40, 1⟩, ⟨0x5B, 0x60, 1⟩, ⟨0x7B, 0xA9, 1⟩, ⟨0xAB, 0xB9, 1⟩, ⟨0xBB, 0xBF, 1⟩,
  ⟨0xD7, 0xD7, 1⟩, ⟨0xF7, 0xF7, 1⟩, ⟨0x2B9, 0x2DF, 1⟩, ⟨0x2E5, 0x2E9, 1⟩, ⟨0x2EC, 0x2FF, 1⟩,
  ⟨0x374, 0x374, 1⟩, ⟨0x37E, 0x37E, 1⟩, ⟨0x385, 0x385, 1⟩, ⟨0x387, 0x387, 1⟩, ⟨0x605, 0x605, 1⟩,
  ⟨0x60C, 0x60C, 1⟩, ⟨0x61B, 0x61B, 1⟩, ⟨0x61F, 0x61F, 1⟩, ⟨0x640, 0x640, 1⟩, ⟨0x6DD, 0x6DD, 1⟩,
  ⟨0x8E2, 0x8E2, 1⟩, ⟨0x964, 0x965, 1⟩, ⟨0xE3F, 0xE3F, 1⟩, ⟨0xFD5, 0xFD8, 1⟩,
  ⟨0x10FB, 0x10FB, 1⟩, ⟨0x16EB, 0x16ED, 1⟩, ⟨0x1735, 0x1736, 1⟩, ⟨0x1802, 0x1803, 1⟩,
  ⟨0x1805, 0x1805, 1⟩, ⟨0x1CD3, 0x1CD3, 1⟩, ⟨0x1CE1, 0x1CE1, 1⟩, ⟨0x1CE9, 0x1CEC, 1⟩,
  ⟨0x1CEE, 0x1CF3, 1⟩, ⟨0x1CF5, 0x1CF7, 1⟩, ⟨0x1CFA, 0x1CFA, 1⟩, ⟨0x2000, 0x200B, 1⟩,
  ⟨0x200E, 0x2064, 1⟩, ⟨0x2066, 0x2070, 1⟩, ⟨0x2074, 0x207E, 1⟩, ⟨0x2080, 0x208E, 1⟩,
  ⟨0x20A0, 0x20C0, 1⟩, ⟨0x2100, 0x2125, 1⟩, ⟨0x2127, 0x2129, 1⟩, ⟨0x212C, 0x2131, 1⟩,
  ⟨0x2133, 0x214D, 1⟩, ⟨0x214F, 0x215F, 1⟩, ⟨0x2189, 0x218B, 1⟩, ⟨0x2190, 0x2426, 1⟩,
  ⟨0x2440, 0x244A, 1⟩, ⟨0x2460, 0x27FF, 1⟩, ⟨0x2900, 0x2B73, 1⟩, ⟨0x2B76, 0x2B95, 1⟩,
  ⟨0x2B97, 0x2BFF, 1⟩, ⟨0x2E00, 0x2E5D, 1⟩, ⟨0x2FF0, 0x2FFB, 1⟩, ⟨0x3000, 0x3004, 1⟩,
  ⟨0x3006, 0x3006, 1⟩, ⟨0x3008, 0x3020, 1⟩, ⟨0x3030, 0x3037, 1⟩, ⟨0x303C, 0x303F, 1⟩,
  ⟨0x309B, 0x309C, 1⟩, ⟨0x30A0, 0x30A0, 1⟩, ⟨0x30FB, 0x30FC, 1⟩, ⟨0x3190, 0x319F, 1⟩,
  ⟨0x31C0, 0x31E3, 1⟩, ⟨0x3220, 0x325F, 1⟩, ⟨0x327F, 0x32CF, 1⟩, ⟨0x32FF, 0x32FF, 1⟩,
  ⟨0x3358, 0x33FF, 1⟩, ⟨0x4DC0, 0x4DFF, 1⟩, ⟨0xA700, 0xA721, 1⟩, ⟨0xA788, 0xA78A, 1⟩,
  ⟨0xA830, 0xA839, 1⟩, ⟨0xA92E, 0xA92E, 1⟩, ⟨0xA9CF, 0xA9CF, 1⟩, ⟨0xAB5B, 0xAB5B, 1⟩,
  ⟨0xAB6A, 0xAB6B, 1⟩, ⟨0xFD3E, 0xFD3F, 1⟩, ⟨0xFE10, 0xFE19, 1⟩, ⟨0xFE30, 0xFE52, 1⟩,
  ⟨0xFE54, 0xFE66, 1⟩, ⟨0xFE68, 0xFE6B, 1⟩, ⟨0xFEFF, 0xFEFF, 1⟩, ⟨0xFF01, 0xFF20, 1⟩,
  ⟨0xFF3B, 0xFF40, 1⟩, ⟨0xFF5B, 0xFF65, 1⟩, ⟨0xFF70, 0xFF70, 1⟩, ⟨0xFF9E, 0xFF9F, 1⟩,
  ⟨0xFFE0, 0xFFE6, 1⟩, ⟨0xFFE8, 0xFFEE, 1⟩, ⟨0xFFF9, 0xFFFD, 1⟩, ⟨0x10100, 0x10102, 1⟩,
  ⟨0x10107, 0x10133, 1⟩, ⟨0x10137, 0x1013F, 1⟩, ⟨0x10190, 0x1019C, 1⟩, ⟨0x101D0, 0x101FC, 1⟩,
  ⟨0x102E1, 0x102FB, 1⟩, ⟨0x1BCA0, 0x1BCA3, 1⟩, ⟨0x1CF50, 0x1CFC3, 1⟩, ⟨0x1D000, 0x1D0F5, 1⟩,
  ⟨0x1D100, 0x1D126, 1⟩, ⟨0x1D129, 0x1D166, 1⟩, ⟨0x1D16A, 0x1D17A, 1⟩, ⟨0x1D183, 0x1D184, 1⟩,
  ⟨0x1D18C, 0x1D1A9, 1⟩, ⟨0x1D1AE, 0x1D1EA, 1⟩, ⟨0x1D2C0, 0x1D2D3, 1⟩, ⟨0x1D2E0, 0x1D2F3, 1⟩,
  ⟨0x1D300, 0x1D356, 1⟩, ⟨0x1D360, 0x1D378, 1⟩, ⟨0x1D400, 0x1D454, 1⟩, ⟨0x1D456, 0x1D49C, 1⟩,
  ⟨0x1D49E, 0x1D49F, 1⟩, ⟨0x1D4A2, 0x1D4A2, 1⟩, ⟨0x1D4A5, 0x1D4A6, 1⟩, ⟨0x1D4A9, 0x1D4AC, 1⟩,
  ⟨0x1D4AE, 0x1D4B9, 1⟩, ⟨0x1D4BB, 0x1D4BB, 1⟩, ⟨0x1D4BD, 0x1D4C3, 1⟩, ⟨0x1D4C5, 0x1D505, 1⟩,
  ⟨0x1D507, 0x1D50A, 1⟩, ⟨0x1D50D, 0x1D514, 1⟩, ⟨0x1D516, 0x1D51C, 1⟩, ⟨0x1D51E, 0x1D539, 1⟩,
  ⟨0x1D53B, 0x1D53E, 1⟩, ⟨0x1D540, 0x1D544, 1⟩, ⟨0x1D546, 0x1D546, 1⟩, ⟨0x1D54A, 0x1D550, 1⟩,
  ⟨0x1D552, 0x1D6A5, 1⟩, ⟨0x1D6A8, 0x1D7CB, 1⟩, ⟨0x1D7CE, 0x1D7FF, 1⟩, ⟨0x1EC71, 0x1ECB4, 1⟩,
  ⟨0x1ED01, 0x1ED3D, 1⟩, ⟨0x1F000, 0x1F02B, 1⟩, ⟨0x1F030, 0x1F093, 1⟩, ⟨0x1F0A0, 0x1F0AE, 1⟩,
  ⟨0x1F0B1, 0x1F0BF, 1⟩, ⟨0x1F0C1, 0x1F0CF, 1⟩, ⟨0x1F0D1, 0x1F0F5, 1⟩, ⟨0x1F100, 0x1F1AD, 1⟩,
  ⟨0x1F1E6, 0x1F1FF, 1⟩, ⟨0x1F201, 0x1F202, 1⟩, ⟨0x1F210, 0x1F23B, 1⟩, ⟨0x1F240, 0x1F248, 1⟩,
  ⟨0x1F250, 0x1F251, 1⟩, ⟨0x1F260, 0x1F265, 1⟩, ⟨0x1F300, 0x1F6D7, 1⟩, ⟨0x1F6DC, 0x1F6EC, 1⟩,
  ⟨0x1F6F0, 0x1F6FC, 1⟩, ⟨0x1F700, 0x1F776, 1⟩]

private def scriptCommonPart2 : List Span := [
  ⟨0x1F77B, 0x1F7D9, 1⟩, ⟨0x1F7E0, 0x1F7EB, 1⟩, ⟨0x1F7F0, 0x1F7F0, 1⟩, ⟨0x1F800, 0x1F80B, 1⟩,
  ⟨0x1F810, 0x1F847, 1⟩, ⟨0x1F850, 0x1F859, 1⟩, ⟨0x1F860, 0x1F887, 1⟩, ⟨0x1F890, 0x1F8AD, 1⟩,
  ⟨0x1F8B0, 0x1F8B1, 1⟩, ⟨0x1F900, 0x1FA53, 1⟩, ⟨0x1FA60, 0x1FA6D, 1⟩, ⟨0x1FA70, 0x1FA7C, 1⟩,
  ⟨0x1FA80, 0x1FA88, 1⟩, ⟨0x1FA90, 0x1FABD, 1⟩, ⟨0x1FABF, 0x1FAC5, 1⟩, ⟨0x1FACE, 0x1FADB, 1⟩,
  ⟨0x1FAE0, 0x1FAE8, 1⟩, ⟨0x1FAF0, 0x1FAF8, 1⟩, ⟨0x1FB00, 0x1FB92, 1⟩, ⟨0x1FB94, 0x1FBCA, 1⟩,
  ⟨0x1FBF0, 0x1FBF9, 1⟩, ⟨0xE0001, 0xE0001, 1⟩, ⟨0xE0020, 0xE007F, 1⟩]

def scriptCommon : List Span :=
  scriptCommonPart1 ++ scriptCommonPart2

/-- Short and long names, in lower case without separators, with the code points they stand for. -/
def scriptsB : List (String × List Span) := [
  ("marc", scriptMarchen), ("marchen", scriptMarchen), ("medf", scriptMedefaidrin),
  ("medefaidrin", scriptMedefaidrin), ("mend", scriptMendeKikakui),
  ("mendekikakui", scriptMendeKikakui), ("merc", scriptMeroiticCursive),
  ("meroiticcursive", scriptMeroiticCursive), ("mero", scriptMeroiticHieroglyphs),
  ("meroitichieroglyphs", scriptMeroiticHieroglyphs), ("mlym", scriptMalayalam),
  ("malayalam", scriptMalayalam), ("modi", scriptModi), ("mong", scriptMongolian),
  ("mongolian", scriptMongolian), ("mroo", scriptMro), ("mro", scriptMro),
  ("mtei", scriptMeeteiMayek), ("meeteimayek", scriptMeeteiMayek), ("mult", scriptMultani),
  ("multani", scriptMultani), ("mymr", scriptMyanmar), ("myanmar", scriptMyanmar),
  ("nagm", scriptNagMundari), ("nagmundari", scriptNagMundari), ("nand", scriptNandinagari),
  ("nandinagari", scriptNandinagari), ("narb", scriptOldNorthArabian),
  ("oldnortharabian", scriptOldNorthArabian), ("nbat", scriptNabataean),
  ("nabataean", scriptNabataean), ("newa", scriptNewa), ("nkoo", scriptNko), ("nko", scriptNko),
  ("nshu", scriptNushu), ("nushu", scriptNushu), ("ogam", scriptOgham), ("ogham", scriptOgham),
  ("olck", scriptOlChiki), ("olchiki", scriptOlChiki), ("orkh", scriptOldTurkic),
  ("oldturkic", scriptOldTurkic), ("orya", scriptOriya), ("oriya", scriptOriya),
  ("osge", scriptOsage), ("osage", scriptOsage), ("osma", scriptOsmanya),
  ("osmanya", scriptOsmanya), ("ougr", scriptOldUyghur), ("olduyghur", scriptOldUyghur),
  ("palm", scriptPalmyrene), ("palmyrene", scriptPalmyrene), ("pauc", scriptPauCinHau),
  ("paucinhau", scriptPauCinHau), ("perm", scriptOldPermic), ("oldpermic", scriptOldPermic),
  ("phag", scriptPhagsPa), ("phagspa", scriptPhagsPa), ("phli", scriptInscriptionalPahlavi),
  ("inscriptionalpahlavi", scriptInscriptionalPahlavi), ("phlp", scriptPsalterPahlavi),
  ("psalterpahlavi", scriptPsalterPahlavi), ("phnx", scriptPhoenician),
  ("phoenician", scriptPhoenician), ("plrd", scriptMiao), ("miao", scriptMiao),
  ("prti", scriptInscriptionalParthian), ("inscriptionalparthian", scriptInscriptionalParthian),
  ("rjng", scriptRejang), ("rejang", scriptRejang), ("rohg", scriptHanifiRohingya),
  ("hanifirohingya", scriptHanifiRohingya), ("runr", scriptRunic), ("runic", scriptRunic),
  ("samr", scriptSamaritan), ("samaritan", scriptSamaritan), ("sarb", scriptOldSouthArabian),
  ("oldsoutharabian", scriptOldSouthArabian), ("saur", scriptSaurashtra),
  ("saurashtra", scriptSaurashtra), ("sgnw", scriptSignWriting),
  ("signwriting", scriptSignWriting), ("shaw", scriptShavian), ("shavian", scriptShavian),
  ("shrd", scriptSharada), ("sharada", scriptSharada), ("sidd", scriptSiddham),
  ("siddham", scriptSiddham), ("sind", scriptKhudawadi), ("khudawadi", scriptKhudawadi),
  ("sinh", scriptSinhala), ("sinhala", scriptSinhala), ("sogd", scriptSogdian),
  ("sogdian", scriptSogdian), ("sogo", scriptOldSogdian), ("oldsogdian", scriptOldSogdian),
  ("sora", scriptSoraSompeng), ("sorasompeng", scriptSoraSompeng), ("soyo", scriptSoyombo),
  ("soyombo", scriptSoyombo), ("sund", scriptSundanese), ("sundanese", scriptSundanese),
  ("sylo", scriptSylotiNagri), ("sylotinagri", scriptSylotiNagri), ("syrc", scriptSyriac),
  ("syriac", scriptSyriac), ("tagb", scriptTagbanwa), ("tagbanwa", scriptTagbanwa),
  ("takr", scriptTakri), ("takri", scriptTakri), ("tale", scriptTaiLe), ("taile", scriptTaiLe),
  ("talu", scriptNewTaiLue), ("newtailue", scriptNewTaiLue), ("taml", scriptTamil),
  ("tamil", scriptTamil), ("tang", scriptTangut), ("tangut", scriptTangut),
  ("tavt", scriptTaiViet), ("taiviet", scriptTaiViet), ("telu", scriptTelugu),
  ("telugu", scriptTelugu), ("tfng", scriptTifinagh), ("tifinagh", scriptTifinagh),
  ("tglg", scriptTagalog), ("tagalog", scriptTagalog), ("thaa", scriptThaana),
  ("thaana", scriptThaana), ("thai", scriptThai), ("tibt", scriptTibetan),
  ("tibetan", scriptTibetan), ("tirh", scriptTirhuta), ("tirhuta", scriptTirhuta),
  ("tnsa", scriptTangsa), ("tangsa", scriptTangsa), ("toto", scriptToto),
  ("ugar", scriptUgaritic), ("ugaritic", scriptUgaritic), ("vaii", scriptVai),
  ("vai", scriptVai), ("vith", scriptVithkuqi), ("vithkuqi", scriptVithkuqi),
  ("wara", scriptWarangCiti), ("warangciti", scriptWarangCiti), ("wcho", scriptWancho),
  ("wancho", scriptWancho), ("xpeo", scriptOldPersian), ("oldpersian", scriptOldPersian),
  ("xsux", scriptCuneiform), ("cuneiform", scriptCuneiform), ("yezi", scriptYezidi),
  ("yezidi", scriptYezidi), ("yiii", scriptYi), ("yi", scriptYi),
  ("zanb", scriptZanabazarSquare), ("zanabazarsquare", scriptZanabazarSquare),
  ("zinh", scriptInherited), ("inherited", scriptInherited), ("qaai", scriptInherited),
  ("zyyy", scriptCommon), ("common", scriptCommon)]

end GrantFs.Unicode
