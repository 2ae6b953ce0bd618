/-!
# Tables of the characters of domain names

* `ignoredRanges`: characters that count for nothing.
* `permittedRanges`: characters outside ASCII that can stand in a name, in their usual form or not.
* `shortForms`, `longForms`: the usual forms that are not the lower case of a character.
-/

namespace XmlTemplate.Uri.DomainName

/-- Invisible characters that count for nothing: hyphens and joiners of words, fillers, selectors
of variants. -/
def ignoredRanges : List (Nat × Nat) := [
  (0xAD, 0xAD), (0x34F, 0x34F), (0x115F, 0x1160), (0x17B4, 0x17B5), (0x180B, 0x180F),
  (0x200B, 0x200B), (0x2060, 0x2064), (0x206A, 0x206F), (0x3164, 0x3164), (0xFE00, 0xFE0F),
  (0xFEFF, 0xFEFF), (0xFFA0, 0xFFA0), (0x1BCA0, 0x1BCA3), (0x1D173, 0x1D17A), (0xE0100, 0xE01EF)]

/-- Characters that a name can be written with. -/
def permittedRanges : List (Nat × Nat) := [
  (0xA1, 0xA7), (0xA9, 0xAE), (0xB0, 0xB3), (0xB5, 0xB7), (0xB9, 0x2D7), (0x2DE, 0x377),
  (0x37B, 0x37F), (0x386, 0x38A), (0x38C, 0x38C), (0x38E, 0x3A1), (0x3A3, 0x52F), (0x531, 0x556),
  (0x559, 0x58A), (0x58D, 0x58F), (0x591, 0x5C7), (0x5D0, 0x5EA), (0x5EF, 0x5F4), (0x606, 0x61B),
  (0x61D, 0x6DC), (0x6DE, 0x70D), (0x710, 0x74A), (0x74D, 0x7B1), (0x7C0, 0x7FA), (0x7FD, 0x82D),
  (0x830, 0x83E), (0x840, 0x85B), (0x85E, 0x85E), (0x860, 0x86A), (0x870, 0x88F), (0x897, 0x8E1),
  (0x8E3, 0x983), (0x985, 0x98C), (0x98F, 0x990), (0x993, 0x9A8), (0x9AA, 0x9B0), (0x9B2, 0x9B2),
  (0x9B6, 0x9B9), (0x9BC, 0x9C4), (0x9C7, 0x9C8), (0x9CB, 0x9CE), (0x9D7, 0x9D7), (0x9DC, 0x9DD),
  (0x9DF, 0x9E3), (0x9E6, 0x9FE), (0xA01, 0xA03), (0xA05, 0xA0A), (0xA0F, 0xA10), (0xA13, 0xA28),
  (0xA2A, 0xA30), (0xA32, 0xA33), (0xA35, 0xA36), (0xA38, 0xA39), (0xA3C, 0xA3C), (0xA3E, 0xA42),
  (0xA47, 0xA48), (0xA4B, 0xA4D), (0xA51, 0xA51), (0xA59, 0xA5C), (0xA5E, 0xA5E), (0xA66, 0xA76),
  (0xA81, 0xA83), (0xA85, 0xA8D), (0xA8F, 0xA91), (0xA93, 0xAA8), (0xAAA, 0xAB0), (0xAB2, 0xAB3),
  (0xAB5, 0xAB9), (0xABC, 0xAC5), (0xAC7, 0xAC9), (0xACB, 0xACD), (0xAD0, 0xAD0), (0xAE0, 0xAE3),
  (0xAE6, 0xAF1), (0xAF9, 0xAFF), (0xB01, 0xB03), (0xB05, 0xB0C), (0xB0F, 0xB10), (0xB13, 0xB28),
  (0xB2A, 0xB30), (0xB32, 0xB33), (0xB35, 0xB39), (0xB3C, 0xB44), (0xB47, 0xB48), (0xB4B, 0xB4D),
  (0xB55, 0xB57), (0xB5C, 0xB5D), (0xB5F, 0xB63), (0xB66, 0xB77), (0xB82, 0xB83), (0xB85, 0xB8A),
  (0xB8E, 0xB90), (0xB92, 0xB95), (0xB99, 0xB9A), (0xB9C, 0xB9C), (0xB9E, 0xB9F), (0xBA3, 0xBA4),
  (0xBA8, 0xBAA), (0xBAE, 0xBB9), (0xBBE, 0xBC2), (0xBC6, 0xBC8), (0xBCA, 0xBCD), (0xBD0, 0xBD0),
  (0xBD7, 0xBD7), (0xBE6, 0xBFA), (0xC00, 0xC0C), (0xC0E, 0xC10), (0xC12, 0xC28), (0xC2A, 0xC39),
  (0xC3C, 0xC44), (0xC46, 0xC48), (0xC4A, 0xC4D), (0xC55, 0xC56), (0xC58, 0xC5A), (0xC5C, 0xC5D),
  (0xC60, 0xC63), (0xC66, 0xC6F), (0xC77, 0xC8C), (0xC8E, 0xC90), (0xC92, 0xCA8), (0xCAA, 0xCB3),
  (0xCB5, 0xCB9), (0xCBC, 0xCC4), (0xCC6, 0xCC8), (0xCCA, 0xCCD), (0xCD5, 0xCD6), (0xCDC, 0xCDE),
  (0xCE0, 0xCE3), (0xCE6, 0xCEF), (0xCF1, 0xCF3), (0xD00, 0xD0C), (0xD0E, 0xD10), (0xD12, 0xD44),
  (0xD46, 0xD48), (0xD4A, 0xD4F), (0xD54, 0xD63), (0xD66, 0xD7F), (0xD81, 0xD83), (0xD85, 0xD96),
  (0xD9A, 0xDB1), (0xDB3, 0xDBB), (0xDBD, 0xDBD), (0xDC0, 0xDC6), (0xDCA, 0xDCA), (0xDCF, 0xDD4),
  (0xDD6, 0xDD6), (0xDD8, 0xDDF), (0xDE6, 0xDEF), (0xDF2, 0xDF4), (0xE01, 0xE3A), (0xE3F, 0xE5B),
  (0xE81, 0xE82), (0xE84, 0xE84), (0xE86, 0xE8A), (0xE8C, 0xEA3), (0xEA5, 0xEA5), (0xEA7, 0xEBD),
  (0xEC0, 0xEC4), (0xEC6, 0xEC6), (0xEC8, 0xECE), (0xED0, 0xED9), (0xEDC, 0xEDF), (0xF00, 0xF47),
  (0xF49, 0xF6C), (0xF71, 0xF97), (0xF99, 0xFBC), (0xFBE, 0xFCC), (0xFCE, 0xFDA), (0x1000, 0x10C5),
  (0x10C7, 0x10C7), (0x10CD, 0x10CD), (0x10D0, 0x1248), (0x124A, 0x124D), (0x1250, 0x1256),
  (0x1258, 0x1258), (0x125A, 0x125D), (0x1260, 0x1288), (0x128A, 0x128D), (0x1290, 0x12B0),
  (0x12B2, 0x12B5), (0x12B8, 0x12BE), (0x12C0, 0x12C0), (0x12C2, 0x12C5), (0x12C8, 0x12D6),
  (0x12D8, 0x1310), (0x1312, 0x1315), (0x1318, 0x135A), (0x135D, 0x137C), (0x1380, 0x1399),
  (0x13A0, 0x13F5), (0x13F8, 0x13FD), (0x1400, 0x167F), (0x1681, 0x169C), (0x16A0, 0x16F8),
  (0x1700, 0x1715), (0x171F, 0x1736), (0x1740, 0x1753), (0x1760, 0x176C), (0x176E, 0x1770),
  (0x1772, 0x1773), (0x1780, 0x17DD), (0x17E0, 0x17E9), (0x17F0, 0x17F9), (0x1800, 0x1819),
  (0x1820, 0x1878), (0x1880, 0x18AA), (0x18B0, 0x18F5), (0x1900, 0x191E), (0x1920, 0x192B),
  (0x1930, 0x193B), (0x1940, 0x1940), (0x1944, 0x196D), (0x1970, 0x1974), (0x1980, 0x19AB),
  (0x19B0, 0x19C9), (0x19D0, 0x19DA), (0x19DE, 0x1A1B), (0x1A1E, 0x1A5E), (0x1A60, 0x1A7C),
  (0x1A7F, 0x1A89), (0x1A90, 0x1A99), (0x1AA0, 0x1AAD), (0x1AB0, 0x1ADD), (0x1AE0, 0x1AEB),
  (0x1B00, 0x1B4C), (0x1B4E, 0x1BF3), (0x1BFC, 0x1C37), (0x1C3B, 0x1C49), (0x1C4D, 0x1C8A),
  (0x1C90, 0x1CBA), (0x1CBD, 0x1CC7), (0x1CD0, 0x1CFA), (0x1D00, 0x1F15), (0x1F18, 0x1F1D),
  (0x1F20, 0x1F45), (0x1F48, 0x1F4D), (0x1F50, 0x1F57), (0x1F59, 0x1F59), (0x1F5B, 0x1F5B),
  (0x1F5D, 0x1F5D), (0x1F5F, 0x1F7D), (0x1F80, 0x1FB4), (0x1FB6, 0x1FBC), (0x1FBE, 0x1FBE),
  (0x1FC2, 0x1FC4), (0x1FC6, 0x1FCC), (0x1FD0, 0x1FD3), (0x1FD6, 0x1FDB), (0x1FE0, 0x1FEC),
  (0x1FEF, 0x1FEF), (0x1FF2, 0x1FF4), (0x1FF6, 0x1FFC), (0x200B, 0x200D), (0x2010, 0x2016),
  (0x2018, 0x2023), (0x2027, 0x2027), (0x2030, 0x203D), (0x203F, 0x205E), (0x2060, 0x2064),
  (0x206A, 0x2071), (0x2074, 0x208E), (0x2090, 0x209C), (0x20A0, 0x20C1), (0x20D0, 0x20F0),
  (0x2100, 0x218B), (0x2190, 0x2429), (0x2440, 0x244A), (0x2460, 0x2487), (0x249C, 0x2B73),
  (0x2B76, 0x2CF3), (0x2CF9, 0x2D25), (0x2D27, 0x2D27), (0x2D2D, 0x2D2D), (0x2D30, 0x2D67),
  (0x2D6F, 0x2D70), (0x2D7F, 0x2D96), (0x2DA0, 0x2DA6), (0x2DA8, 0x2DAE), (0x2DB0, 0x2DB6),
  (0x2DB8, 0x2DBE), (0x2DC0, 0x2DC6), (0x2DC8, 0x2DCE), (0x2DD0, 0x2DD6), (0x2DD8, 0x2DDE),
  (0x2DE0, 0x2E5D), (0x2E80, 0x2E99), (0x2E9B, 0x2EF3), (0x2F00, 0x2FD5), (0x3001, 0x303F),
  (0x3041, 0x3096), (0x3099, 0x309A), (0x309D, 0x30FF), (0x3105, 0x312F), (0x3131, 0x318E),
  (0x3190, 0x31E5), (0x31F0, 0x321E), (0x3220, 0x33C1), (0x33C3, 0x33C6), (0x33C8, 0x33D7),
  (0x33D9, 0xA48C), (0xA490, 0xA4C6), (0xA4D0, 0xA62B), (0xA640, 0xA6F7), (0xA700, 0xA7DC),
  (0xA7F1, 0xA82C), (0xA830, 0xA839), (0xA840, 0xA877), (0xA880, 0xA8C5), (0xA8CE, 0xA8D9),
  (0xA8E0, 0xA953), (0xA95F, 0xA97C), (0xA980, 0xA9CD), (0xA9CF, 0xA9D9), (0xA9DE, 0xA9FE),
  (0xAA00, 0xAA36), (0xAA40, 0xAA4D), (0xAA50, 0xAA59), (0xAA5C, 0xAAC2), (0xAADB, 0xAAF6),
  (0xAB01, 0xAB06), (0xAB09, 0xAB0E), (0xAB11, 0xAB16), (0xAB20, 0xAB26), (0xAB28, 0xAB2E),
  (0xAB30, 0xAB6B), (0xAB70, 0xABED), (0xABF0, 0xABF9), (0xAC00, 0xD7A3), (0xD7B0, 0xD7C6),
  (0xD7CB, 0xD7FB), (0xF900, 0xFA6D), (0xFA70, 0xFAD9), (0xFB00, 0xFB06), (0xFB13, 0xFB17),
  (0xFB1D, 0xFB36), (0xFB38, 0xFB3C), (0xFB3E, 0xFB3E), (0xFB40, 0xFB41), (0xFB43, 0xFB44),
  (0xFB46, 0xFC5D), (0xFC64, 0xFDCF), (0xFDF0, 0xFDF9), (0xFDFC, 0xFE11), (0xFE13, 0xFE18),
  (0xFE20, 0xFE2F), (0xFE31, 0xFE48), (0xFE4D, 0xFE51), (0xFE54, 0xFE66), (0xFE68, 0xFE6B),
  (0xFE71, 0xFE71), (0xFE73, 0xFE73), (0xFE77, 0xFE77), (0xFE79, 0xFE79), (0xFE7B, 0xFE7B),
  (0xFE7D, 0xFE7D), (0xFE7F, 0xFEFC), (0xFEFF, 0xFEFF), (0xFF01, 0xFFBE), (0xFFC2, 0xFFC7),
  (0xFFCA, 0xFFCF), (0xFFD2, 0xFFD7), (0xFFDA, 0xFFDC), (0xFFE0, 0xFFE2), (0xFFE4, 0xFFE6),
  (0xFFE8, 0xFFEE), (0x10000, 0x1000B), (0x1000D, 0x10026), (0x10028, 0x1003A), (0x1003C, 0x1003D),
  (0x1003F, 0x1004D), (0x10050, 0x1005D), (0x10080, 0x100FA), (0x10100, 0x10102),
  (0x10107, 0x10133), (0x10137, 0x1018E), (0x10190, 0x1019C), (0x101A0, 0x101A0),
  (0x101D0, 0x101FD), (0x10280, 0x1029C), (0x102A0, 0x102D0), (0x102E0, 0x102FB),
  (0x10300, 0x10323), (0x1032D, 0x1034A), (0x10350, 0x1037A), (0x10380, 0x1039D),
  (0x1039F, 0x103C3), (0x103C8, 0x103D5), (0x10400, 0x1049D), (0x104A0, 0x104A9),
  (0x104B0, 0x104D3), (0x104D8, 0x104FB), (0x10500, 0x10527), (0x10530, 0x10563),
  (0x1056F, 0x1057A), (0x1057C, 0x1058A), (0x1058C, 0x10592), (0x10594, 0x10595),
  (0x10597, 0x105A1), (0x105A3, 0x105B1), (0x105B3, 0x105B9), (0x105BB, 0x105BC),
  (0x105C0, 0x105F3), (0x10600, 0x10736), (0x10740, 0x10755), (0x10760, 0x10767),
  (0x10780, 0x10785), (0x10787, 0x107B0), (0x107B2, 0x107BA), (0x10800, 0x10805),
  (0x10808, 0x10808), (0x1080A, 0x10835), (0x10837, 0x10838), (0x1083C, 0x1083C),
  (0x1083F, 0x10855), (0x10857, 0x1089E), (0x108A7, 0x108AF), (0x108E0, 0x108F2),
  (0x108F4, 0x108F5), (0x108FB, 0x1091B), (0x1091F, 0x10939), (0x1093F, 0x10959),
  (0x10980, 0x109B7), (0x109BC, 0x109CF), (0x109D2, 0x10A03), (0x10A05, 0x10A06),
  (0x10A0C, 0x10A13), (0x10A15, 0x10A17), (0x10A19, 0x10A35), (0x10A38, 0x10A3A),
  (0x10A3F, 0x10A48), (0x10A50, 0x10A58), (0x10A60, 0x10A9F), (0x10AC0, 0x10AE6),
  (0x10AEB, 0x10AF6), (0x10B00, 0x10B35), (0x10B39, 0x10B55), (0x10B58, 0x10B72),
  (0x10B78, 0x10B91), (0x10B99, 0x10B9C), (0x10BA9, 0x10BAF), (0x10C00, 0x10C48),
  (0x10C80, 0x10CB2), (0x10CC0, 0x10CF2), (0x10CFA, 0x10D27), (0x10D30, 0x10D39),
  (0x10D40, 0x10D65), (0x10D69, 0x10D85), (0x10D8E, 0x10D8F), (0x10E60, 0x10E7E),
  (0x10E80, 0x10EA9), (0x10EAB, 0x10EAD), (0x10EB0, 0x10EB1), (0x10EC2, 0x10EC7),
  (0x10ED0, 0x10ED8), (0x10EFA, 0x10F27), (0x10F30, 0x10F59), (0x10F70, 0x10F89),
  (0x10FB0, 0x10FCB), (0x10FE0, 0x10FF6), (0x11000, 0x1104D), (0x11052, 0x11075),
  (0x1107F, 0x110BC), (0x110BE, 0x110C2), (0x110D0, 0x110E8), (0x110F0, 0x110F9),
  (0x11100, 0x11134), (0x11136, 0x11147), (0x11150, 0x11176), (0x11180, 0x111DF),
  (0x111E1, 0x111F4), (0x11200, 0x11211), (0x11213, 0x11241), (0x11280, 0x11286),
  (0x11288, 0x11288), (0x1128A, 0x1128D), (0x1128F, 0x1129D), (0x1129F, 0x112A9),
  (0x112B0, 0x112EA), (0x112F0, 0x112F9), (0x11300, 0x11303), (0x11305, 0x1130C),
  (0x1130F, 0x11310), (0x11313, 0x11328), (0x1132A, 0x11330), (0x11332, 0x11333),
  (0x11335, 0x11339), (0x1133B, 0x11344), (0x11347, 0x11348), (0x1134B, 0x1134D),
  (0x11350, 0x11350), (0x11357, 0x11357), (0x1135D, 0x11363), (0x11366, 0x1136C),
  (0x11370, 0x11374), (0x11380, 0x11389), (0x1138B, 0x1138B), (0x1138E, 0x1138E),
  (0x11390, 0x113B5), (0x113B7, 0x113C0), (0x113C2, 0x113C2), (0x113C5, 0x113C5),
  (0x113C7, 0x113CA), (0x113CC, 0x113D5), (0x113D7, 0x113D8), (0x113E1, 0x113E2),
  (0x11400, 0x1145B), (0x1145D, 0x11461), (0x11480, 0x114C7), (0x114D0, 0x114D9),
  (0x11580, 0x115B5), (0x115B8, 0x115DD), (0x11600, 0x11644), (0x11650, 0x11659),
  (0x11660, 0x1166C), (0x11680, 0x116B9), (0x116C0, 0x116C9), (0x116D0, 0x116E3),
  (0x11700, 0x1171A), (0x1171D, 0x1172B), (0x11730, 0x11746), (0x11800, 0x1183B),
  (0x118A0, 0x118F2), (0x118FF, 0x11906), (0x11909, 0x11909), (0x1190C, 0x11913),
  (0x11915, 0x11916), (0x11918, 0x11935), (0x11937, 0x11938), (0x1193B, 0x11946),
  (0x11950, 0x11959), (0x119A0, 0x119A7), (0x119AA, 0x119D7), (0x119DA, 0x119E4),
  (0x11A00, 0x11A47), (0x11A50, 0x11AA2), (0x11AB0, 0x11AF8), (0x11B00, 0x11B09),
  (0x11B60, 0x11B67), (0x11BC0, 0x11BE1), (0x11BF0, 0x11BF9), (0x11C00, 0x11C08),
  (0x11C0A, 0x11C36), (0x11C38, 0x11C45), (0x11C50, 0x11C6C), (0x11C70, 0x11C8F),
  (0x11C92, 0x11CA7), (0x11CA9, 0x11CB6), (0x11D00, 0x11D06), (0x11D08, 0x11D09),
  (0x11D0B, 0x11D36), (0x11D3A, 0x11D3A), (0x11D3C, 0x11D3D), (0x11D3F, 0x11D47),
  (0x11D50, 0x11D59), (0x11D60, 0x11D65), (0x11D67, 0x11D68), (0x11D6A, 0x11D8E),
  (0x11D90, 0x11D91), (0x11D93, 0x11D98), (0x11DA0, 0x11DA9), (0x11DB0, 0x11DDB),
  (0x11DE0, 0x11DE9), (0x11EE0, 0x11EF8), (0x11F00, 0x11F10), (0x11F12, 0x11F3A),
  (0x11F3E, 0x11F5A), (0x11FB0, 0x11FB0), (0x11FC0, 0x11FF1), (0x11FFF, 0x12399),
  (0x12400, 0x1246E), (0x12470, 0x12474), (0x12480, 0x12543), (0x12F90, 0x12FF2),
  (0x13000, 0x1342F), (0x13440, 0x13455), (0x13460, 0x143FA), (0x14400, 0x14646),
  (0x16100, 0x16139), (0x16800, 0x16A38), (0x16A40, 0x16A5E), (0x16A60, 0x16A69),
  (0x16A6E, 0x16ABE), (0x16AC0, 0x16AC9), (0x16AD0, 0x16AED), (0x16AF0, 0x16AF5),
  (0x16B00, 0x16B45), (0x16B50, 0x16B59), (0x16B5B, 0x16B61), (0x16B63, 0x16B77),
  (0x16B7D, 0x16B8F), (0x16D40, 0x16D79), (0x16E40, 0x16E9A), (0x16EA0, 0x16EB8),
  (0x16EBB, 0x16ED3), (0x16F00, 0x16F4A), (0x16F4F, 0x16F87), (0x16F8F, 0x16F9F),
  (0x16FE0, 0x16FE4), (0x16FF0, 0x16FF6), (0x17000, 0x18CD5), (0x18CFF, 0x18D1E),
  (0x18D80, 0x18DF2), (0x1AFF0, 0x1AFF3), (0x1AFF5, 0x1AFFB), (0x1AFFD, 0x1AFFE),
  (0x1B000, 0x1B122), (0x1B132, 0x1B132), (0x1B150, 0x1B152), (0x1B155, 0x1B155),
  (0x1B164, 0x1B167), (0x1B170, 0x1B2FB), (0x1BC00, 0x1BC6A), (0x1BC70, 0x1BC7C),
  (0x1BC80, 0x1BC88), (0x1BC90, 0x1BC99), (0x1BC9C, 0x1BCA3), (0x1CC00, 0x1CCFC),
  (0x1CD00, 0x1CEB3), (0x1CEBA, 0x1CED0), (0x1CEE0, 0x1CEF0), (0x1CF00, 0x1CF2D),
  (0x1CF30, 0x1CF46), (0x1CF50, 0x1CFC3), (0x1D000, 0x1D0F5), (0x1D100, 0x1D126),
  (0x1D129, 0x1D1EA), (0x1D200, 0x1D245), (0x1D2C0, 0x1D2D3), (0x1D2E0, 0x1D2F3),
  (0x1D300, 0x1D356), (0x1D360, 0x1D378), (0x1D400, 0x1D454), (0x1D456, 0x1D49C),
  (0x1D49E, 0x1D49F), (0x1D4A2, 0x1D4A2), (0x1D4A5, 0x1D4A6), (0x1D4A9, 0x1D4AC),
  (0x1D4AE, 0x1D4B9), (0x1D4BB, 0x1D4BB), (0x1D4BD, 0x1D4C3), (0x1D4C5, 0x1D505),
  (0x1D507, 0x1D50A), (0x1D50D, 0x1D514), (0x1D516, 0x1D51C), (0x1D51E, 0x1D539),
  (0x1D53B, 0x1D53E), (0x1D540, 0x1D544), (0x1D546, 0x1D546), (0x1D54A, 0x1D550),
  (0x1D552, 0x1D6A5), (0x1D6A8, 0x1D7CB), (0x1D7CE, 0x1DA8B), (0x1DA9B, 0x1DA9F),
  (0x1DAA1, 0x1DAAF), (0x1DF00, 0x1DF1E), (0x1DF25, 0x1DF2A), (0x1E000, 0x1E006),
  (0x1E008, 0x1E018), (0x1E01B, 0x1E021), (0x1E023, 0x1E024), (0x1E026, 0x1E02A),
  (0x1E030, 0x1E06D), (0x1E08F, 0x1E08F), (0x1E100, 0x1E12C), (0x1E130, 0x1E13D),
  (0x1E140, 0x1E149), (0x1E14E, 0x1E14F), (0x1E290, 0x1E2AE), (0x1E2C0, 0x1E2F9),
  (0x1E2FF, 0x1E2FF), (0x1E4D0, 0x1E4F9), (0x1E5D0, 0x1E5FA), (0x1E5FF, 0x1E5FF),
  (0x1E6C0, 0x1E6DE), (0x1E6E0, 0x1E6F5), (0x1E6FE, 0x1E6FF), (0x1E7E0, 0x1E7E6),
  (0x1E7E8, 0x1E7EB), (0x1E7ED, 0x1E7EE), (0x1E7F0, 0x1E7FE), (0x1E800, 0x1E8C4),
  (0x1E8C7, 0x1E8D6), (0x1E900, 0x1E94B), (0x1E950, 0x1E959), (0x1E95E, 0x1E95F),
  (0x1EC71, 0x1ECB4), (0x1ED01, 0x1ED3D), (0x1EE00, 0x1EE03), (0x1EE05, 0x1EE1F),
  (0x1EE21, 0x1EE22), (0x1EE24, 0x1EE24), (0x1EE27, 0x1EE27), (0x1EE29, 0x1EE32),
  (0x1EE34, 0x1EE37), (0x1EE39, 0x1EE39), (0x1EE3B, 0x1EE3B), (0x1EE42, 0x1EE42),
  (0x1EE47, 0x1EE47), (0x1EE49, 0x1EE49), (0x1EE4B, 0x1EE4B), (0x1EE4D, 0x1EE4F),
  (0x1EE51, 0x1EE52), (0x1EE54, 0x1EE54), (0x1EE57, 0x1EE57), (0x1EE59, 0x1EE59),
  (0x1EE5B, 0x1EE5B), (0x1EE5D, 0x1EE5D), (0x1EE5F, 0x1EE5F), (0x1EE61, 0x1EE62),
  (0x1EE64, 0x1EE64), (0x1EE67, 0x1EE6A), (0x1EE6C, 0x1EE72), (0x1EE74, 0x1EE77),
  (0x1EE79, 0x1EE7C), (0x1EE7E, 0x1EE7E), (0x1EE80, 0x1EE89), (0x1EE8B, 0x1EE9B),
  (0x1EEA1, 0x1EEA3), (0x1EEA5, 0x1EEA9), (0x1EEAB, 0x1EEBB), (0x1EEF0, 0x1EEF1),
  (0x1F000, 0x1F02B), (0x1F030, 0x1F093), (0x1F0A0, 0x1F0AE), (0x1F0B1, 0x1F0BF),
  (0x1F0C1, 0x1F0CF), (0x1F0D1, 0x1F0F5), (0x1F101, 0x1F1AD), (0x1F1E6, 0x1F202),
  (0x1F210, 0x1F23B), (0x1F240, 0x1F248), (0x1F250, 0x1F251), (0x1F260, 0x1F265),
  (0x1F300, 0x1F6D8), (0x1F6DC, 0x1F6EC), (0x1F6F0, 0x1F6FC), (0x1F700, 0x1F7D9),
  (0x1F7E0, 0x1F7EB), (0x1F7F0, 0x1F7F0), (0x1F800, 0x1F80B), (0x1F810, 0x1F847),
  (0x1F850, 0x1F859), (0x1F860, 0x1F887), (0x1F890, 0x1F8AD), (0x1F8B0, 0x1F8BB),
  (0x1F8C0, 0x1F8C1), (0x1F8D0, 0x1F8D8), (0x1F900, 0x1FA57), (0x1FA60, 0x1FA6D),
  (0x1FA70, 0x1FA7C), (0x1FA80, 0x1FA8A), (0x1FA8E, 0x1FAC6), (0x1FAC8, 0x1FAC8),
  (0x1FACD, 0x1FADC), (0x1FADF, 0x1FAEA), (0x1FAEF, 0x1FAF8), (0x1FB00, 0x1FB92),
  (0x1FB94, 0x1FBFA), (0x20000, 0x2A6DF), (0x2A700, 0x2B81D), (0x2B820, 0x2CEAD),
  (0x2CEB0, 0x2EBE0), (0x2EBF0, 0x2EE5D), (0x2F800, 0x2FA1D), (0x30000, 0x3134A),
  (0x31350, 0x33479), (0xE0100, 0xE01EF)]

/-- Usual forms of code points in a row, each a single character. -/
structure ShortForms where
  first : Nat
  forms : String

/-- The usual forms that are single characters. -/
def shortForms : List ShortForms := [
  ⟨0xAA, "a"⟩, ⟨0xB2, "23"⟩, ⟨0xB5, "μ"⟩, ⟨0xB9, "1o"⟩, ⟨0x17F, "s"⟩, ⟨0x2B0, "hɦjrɹɻʁwy"⟩,
  ⟨0x2E0, "ɣlsxʕ"⟩, ⟨0x340, "\u0300\u0301\u0342\u0313"⟩, ⟨0x345, "ι"⟩, ⟨0x374, "ʹ"⟩, ⟨0x37E, ";"⟩,
  ⟨0x387, "·"⟩, ⟨0x3D0, "βθυύϋφπ"⟩, ⟨0x3F0, "κρσϳθε϶ϸϸσ"⟩, ⟨0xF0C, "་"⟩, ⟨0x10FC, "ნ"⟩,
  ⟨0x13A0, "ᎠᎡᎢᎣᎤᎥᎦᎧᎨᎩᎪᎫᎬᎭᎮᎯᎰᎱᎲᎳᎴᎵᎶᎷᎸᎹᎺᎻᎼᎽᎾᎿᏀᏁᏂᏃ"⟩,
  ⟨0x13C4, "ᏄᏅᏆᏇᏈᏉᏊᏋᏌᏍᏎᏏᏐᏑᏒᏓᏔᏕᏖᏗᏘᏙᏚᏛᏜᏝᏞᏟᏠᏡᏢᏣᏤᏥᏦᏧ"⟩, ⟨0x13E8, "ᏨᏩᏪᏫᏬᏭᏮᏯᏰᏱᏲᏳᏴᏵ"⟩, ⟨0x13F8, "ᏰᏱᏲᏳᏴᏵ"⟩,
  ⟨0x1C80, "вдосттъѣꙋ"⟩, ⟨0x1D2C, "aæbᴯdeǝghijklmnᴻoȣprtuwaɐɑᴂbdeəɛɜgᵎk"⟩,
  ⟨0x1D50, "mŋoɔᴖᴗptuᴝɯvᴥβγδφχiruvβγρφχ"⟩, ⟨0x1D78, "н"⟩,
  ⟨0x1D9B, "ɒcɕðɜfɟɡɥɨɩɪᵻʝɭᶅʟɱɰɲɳɴɵɸʂʃƫʉʊᴜʋʌzʐʑʒ"⟩, ⟨0x1DBF, "θ"⟩, ⟨0x1E9B, "ṡ"⟩,
  ⟨0x1F71, "άὲέὴήὶίὸόὺύὼώ"⟩, ⟨0x1FBB, "ά"⟩, ⟨0x1FBE, "ι"⟩, ⟨0x1FC9, "έὴή"⟩, ⟨0x1FD3, "ΐ"⟩,
  ⟨0x1FDB, "ί"⟩, ⟨0x1FE3, "ΰ"⟩, ⟨0x1FEB, "ύ"⟩, ⟨0x1FEF, "\x60"⟩, ⟨0x1FF9, "όὼώ"⟩, ⟨0x2011, "‐"⟩,
  ⟨0x2070, "0i"⟩, ⟨0x2074, "456789+−=()n0123456789+−=()"⟩, ⟨0x2090, "aeoxəhklmnpst"⟩, ⟨0x2102, "c"⟩,
  ⟨0x2107, "ɛ"⟩, ⟨0x210A, "ghhhhħiill℔n"⟩, ⟨0x2119, "pqrrr"⟩,
  ⟨0x2124, "z℥ω℧z℩kåbc℮eefⅎmo\u05d0\u05d1\u05d2"⟩, ⟨0x2138, "\u05d3i"⟩, ⟨0x213C, "πγγπ∑"⟩,
  ⟨0x2145, "ddeij"⟩, ⟨0x2160, "i"⟩, ⟨0x2164, "v"⟩, ⟨0x2169, "x"⟩, ⟨0x216C, "lcdmi"⟩, ⟨0x2174, "v"⟩,
  ⟨0x2179, "x"⟩, ⟨0x217C, "lcdm"⟩, ⟨0x2329, "〈〉"⟩, ⟨0x2460, "123456789"⟩,
  ⟨0x24B6, "abcdefghijklmnopqrstuvwxyzabcdefghij"⟩, ⟨0x24DA, "klmnopqrstuvwxyz0"⟩, ⟨0x2C7C, "jv"⟩,
  ⟨0x2D6F, "ⵡ"⟩, ⟨0x2E9F, "母"⟩, ⟨0x2EF3, "龟"⟩, ⟨0x2F00, "一丨丶丿乙亅二亠人儿入八冂冖冫几凵刀力勹匕匚匸十卜卩厂厶又口囗土士夂夊夕"⟩,
  ⟨0x2F24, "大女子宀寸小尢尸屮山巛工己巾干幺广廴廾弋弓彐彡彳心戈戶手支攴文斗斤方无日"⟩,
  ⟨0x2F48, "曰月木欠止歹殳毋比毛氏气水火爪父爻爿片牙牛犬玄玉瓜瓦甘生用田疋疒癶白皮皿"⟩,
  ⟨0x2F6C, "目矛矢石示禸禾穴立竹米糸缶网羊羽老而耒耳聿肉臣自至臼舌舛舟艮色艸虍虫血行"⟩,
  ⟨0x2F90, "衣襾見角言谷豆豕豸貝赤走足身車辛辰辵邑酉釆里金長門阜隶隹雨靑非面革韋韭音"⟩, ⟨0x2FB4, "頁風飛食首香馬骨高髟鬥鬯鬲鬼魚鳥鹵鹿麥麻黃黍黑黹黽鼎鼓鼠鼻齊齒龍龜龠"⟩,
  ⟨0x3002, "."⟩, ⟨0x3036, "〒〷十卄卅"⟩, ⟨0x3131, "ᄀᄁᆪᄂᆬᆭᄃᄄᄅᆰᆱᆲᆳᆴᆵᄚᄆᄇᄈᄡᄉᄊᄋᄌᄍᄎᄏᄐᄑ하ᅢᅣᅤᅥᅦ"⟩,
  ⟨0x3155, "ᅧᅨᅩᅪᅫᅬᅭᅮᅯᅰᅱᅲᅳᅴᅵ"⟩, ⟨0x3165, "ᄔᄕᇇᇈᇌᇎᇓᇗᇙᄜᇝᇟᄝᄞᄠᄢᄣᄧᄩᄫᄬᄭᄮᄯᄲᄶᅀᅇᅌᇱᇲᅗᅘᅙᆄᆅ"⟩, ⟨0x3189, "ᆈᆑᆒᆔᆞᆡ"⟩,
  ⟨0x3192, "一二三四上中下甲乙丙丁天地人"⟩, ⟨0x3244, "問幼文箏"⟩, ⟨0x3260, "ᄀᄂᄃᄅᄆᄇᄉᄋᄌᄎᄏᄐᄑᄒ가나다라마바사아자차카타파하"⟩,
  ⟨0x327E, "우㉿一二三四五六七八九十月火水木金土日株有社名特財祝労秘男女適優印注項休"⟩, ⟨0x32A2, "写正上中下左右医宗学監企資協夜"⟩,
  ⟨0x32D0, "アイウエオカキクケコサシスセソタチツテトナニヌネノハヒフヘホマミムメモヤ"⟩, ⟨0x32F4, "ユヨラリルレロワヰヱヲ"⟩, ⟨0xA69C, "ъь"⟩,
  ⟨0xA770, "ꝯ"⟩, ⟨0xA7CE, "\ua7cf\ua7cfꟑꟑꟓꟓꟕ"⟩, ⟨0xA7F1, "scfqꟶꟶꟷħœ"⟩, ⟨0xAB5C, "ꜧꬷɫꭒ"⟩,
  ⟨0xAB69, "ʍ"⟩, ⟨0xAB70, "ᎠᎡᎢᎣᎤᎥᎦᎧᎨᎩᎪᎫᎬᎭᎮᎯᎰᎱᎲᎳᎴᎵᎶᎷᎸᎹᎺᎻᎼᎽᎾᎿᏀᏁᏂᏃ"⟩,
  ⟨0xAB94, "ᏄᏅᏆᏇᏈᏉᏊᏋᏌᏍᏎᏏᏐᏑᏒᏓᏔᏕᏖᏗᏘᏙᏚᏛᏜᏝᏞᏟᏠᏡᏢᏣᏤᏥᏦᏧ"⟩, ⟨0xABB8, "ᏨᏩᏪᏫᏬᏭᏮᏯ"⟩,
  ⟨0xF900, "豈更車賈滑串句龜龜契金喇奈懶癩羅蘿螺裸邏樂洛烙珞落酪駱亂卵欄爛蘭鸞嵐濫藍"⟩,
  ⟨0xF924, "襤拉臘蠟廊朗浪狼郎來冷勞擄櫓爐盧老蘆虜路露魯鷺碌祿綠菉錄鹿論壟弄籠聾牢磊"⟩,
  ⟨0xF948, "賂雷壘屢樓淚漏累縷陋勒肋凜凌稜綾菱陵讀拏樂諾丹寧怒率異北磻便復不泌數索參"⟩,
  ⟨0xF96C, "塞省葉說殺辰沈拾若掠略亮兩凉梁糧良諒量勵呂女廬旅濾礪閭驪麗黎力曆歷轢年憐"⟩,
  ⟨0xF990, "戀撚漣煉璉秊練聯輦蓮連鍊列劣咽烈裂說廉念捻殮簾獵令囹寧嶺怜玲瑩羚聆鈴零靈"⟩,
  ⟨0xF9B4, "領例禮醴隸惡了僚寮尿料樂燎療蓼遼龍暈阮劉杻柳流溜琉留硫紐類六戮陸倫崙淪輪"⟩,
  ⟨0xF9D8, "律慄栗率隆利吏履易李梨泥理痢罹裏裡里離匿溺吝燐璘藺隣鱗麟林淋臨立笠粒狀炙"⟩,
  ⟨0xF9FC, "識什茶刺切度拓糖宅洞暴輻行降見廓兀嗀﨎﨏塚﨑晴﨓﨔凞猪益礼神祥福靖精羽﨟"⟩,
  ⟨0xFA20, "蘒﨡諸﨣﨤逸都﨧﨨﨩飯飼館鶴郞隷侮僧免勉勤卑喝嘆器塀墨層屮悔慨憎懲敏既暑"⟩,
  ⟨0xFA44, "梅海渚漢煮爫琢碑社祉祈祐祖祝禍禎穀突節練縉繁署者臭艹艹著褐視謁謹賓贈辶逸"⟩, ⟨0xFA68, "難響頻恵𤋮舘"⟩,
  ⟨0xFA70, "並况全侀充冀勇勺喝啕喙嗢塚墳奄奔婢嬨廒廙彩徭惘慎愈憎慠懲戴揄搜摒敖晴朗望"⟩,
  ⟨0xFA94, "杖歹殺流滛滋漢瀞煮瞧爵犯猪瑱甆画瘝瘟益盛直睊着磌窱節类絛練缾者荒華蝹襁覆"⟩, ⟨0xFAB8, "視調諸請謁諾諭謹變贈輸遲醙鉶陼難靖韛響頋頻鬒龜𢡊𢡄𣏕㮝䀘䀹𥉉𥳐𧻓齃龎"⟩,
  ⟨0xFB20, "\u05e2\u05d0\u05d3\u05d4\u05db\u05dc"⟩, ⟨0xFB26, "\u05dd\u05e8\u05ea+"⟩,
  ⟨0xFB50, "\u0671\u0671\u067b\u067b\u067b\u067b"⟩,
  ⟨0xFB56, "\u067e\u067e\u067e\u067e\u0680\u0680"⟩,
  ⟨0xFB5C, "\u0680\u0680\u067a\u067a\u067a\u067a"⟩,
  ⟨0xFB62, "\u067f\u067f\u067f\u067f\u0679\u0679"⟩,
  ⟨0xFB68, "\u0679\u0679\u06a4\u06a4\u06a4\u06a4"⟩,
  ⟨0xFB6E, "\u06a6\u06a6\u06a6\u06a6\u0684\u0684"⟩,
  ⟨0xFB74, "\u0684\u0684\u0683\u0683\u0683\u0683"⟩,
  ⟨0xFB7A, "\u0686\u0686\u0686\u0686\u0687\u0687"⟩,
  ⟨0xFB80, "\u0687\u0687\u068d\u068d\u068c\u068c"⟩,
  ⟨0xFB86, "\u068e\u068e\u0688\u0688\u0698\u0698"⟩,
  ⟨0xFB8C, "\u0691\u0691\u06a9\u06a9\u06a9\u06a9"⟩,
  ⟨0xFB92, "\u06af\u06af\u06af\u06af\u06b3\u06b3"⟩,
  ⟨0xFB98, "\u06b3\u06b3\u06b1\u06b1\u06b1\u06b1"⟩,
  ⟨0xFB9E, "\u06ba\u06ba\u06bb\u06bb\u06bb\u06bb"⟩,
  ⟨0xFBA4, "\u06c0\u06c0\u06c1\u06c1\u06c1\u06c1"⟩,
  ⟨0xFBAA, "\u06be\u06be\u06be\u06be\u06d2\u06d2"⟩, ⟨0xFBB0, "\u06d3\u06d3"⟩,
  ⟨0xFBD3, "\u06ad\u06ad\u06ad\u06ad\u06c7\u06c7"⟩, ⟨0xFBD9, "\u06c6\u06c6\u06c8\u06c8"⟩,
  ⟨0xFBDE, "\u06cb\u06cb\u06c5\u06c5\u06c9\u06c9"⟩,
  ⟨0xFBE4, "\u06d0\u06d0\u06d0\u06d0\u0649\u0649"⟩, ⟨0xFBFC, "\u06cc\u06cc\u06cc\u06cc"⟩,
  ⟨0xFE10, ",、"⟩, ⟨0xFE13, ":;!?〖〗"⟩, ⟨0xFE31, "—–__()\x7b\x7d〔〕【】《》〈〉「」『』﹅﹆[]"⟩, ⟨0xFE4D, "___,、"⟩,
  ⟨0xFE54, ";:?!—()\x7b\x7d〔〕#&*+-<>="⟩, ⟨0xFE68, "\x5c$%@"⟩,
  ⟨0xFE80, "\u0621\u0622\u0622\u0623\u0623\u0624"⟩,
  ⟨0xFE86, "\u0624\u0625\u0625\u0626\u0626\u0626"⟩,
  ⟨0xFE8C, "\u0626\u0627\u0627\u0628\u0628\u0628"⟩,
  ⟨0xFE92, "\u0628\u0629\u0629\u062a\u062a\u062a"⟩,
  ⟨0xFE98, "\u062a\u062b\u062b\u062b\u062b\u062c"⟩,
  ⟨0xFE9E, "\u062c\u062c\u062c\u062d\u062d\u062d"⟩,
  ⟨0xFEA4, "\u062d\u062e\u062e\u062e\u062e\u062f"⟩,
  ⟨0xFEAA, "\u062f\u0630\u0630\u0631\u0631\u0632"⟩,
  ⟨0xFEB0, "\u0632\u0633\u0633\u0633\u0633\u0634"⟩,
  ⟨0xFEB6, "\u0634\u0634\u0634\u0635\u0635\u0635"⟩,
  ⟨0xFEBC, "\u0635\u0636\u0636\u0636\u0636\u0637"⟩,
  ⟨0xFEC2, "\u0637\u0637\u0637\u0638\u0638\u0638"⟩,
  ⟨0xFEC8, "\u0638\u0639\u0639\u0639\u0639\u063a"⟩,
  ⟨0xFECE, "\u063a\u063a\u063a\u0641\u0641\u0641"⟩,
  ⟨0xFED4, "\u0641\u0642\u0642\u0642\u0642\u0643"⟩,
  ⟨0xFEDA, "\u0643\u0643\u0643\u0644\u0644\u0644"⟩,
  ⟨0xFEE0, "\u0644\u0645\u0645\u0645\u0645\u0646"⟩,
  ⟨0xFEE6, "\u0646\u0646\u0646\u0647\u0647\u0647"⟩,
  ⟨0xFEEC, "\u0647\u0648\u0648\u0649\u0649\u064a"⟩, ⟨0xFEF2, "\u064a\u064a\u064a"⟩,
  ⟨0xFF01, "!\x22#$%&\x27()*+,-./0123456789:;<=>"⟩,
  ⟨0xFF1F, "?@abcdefghijklmnopqrstuvwxyz[\x5c]^_"⟩, ⟨0xFF40, "\x60abcdefghijklmnopqrstuvwxyz\x7b|"⟩,
  ⟨0xFF5D, "\x7d~⦅⦆.「」、・ヲァィゥェォャュョッーアイウエオカキクケコサシス"⟩, ⟨0xFF7E, "セソタチツテトナニヌネノハヒフヘホマミムメモヤユヨラリルレロワン"⟩,
  ⟨0xFF9E, "\u3099\u309a"⟩, ⟨0xFFA1, "ᄀᄁᆪᄂᆬᆭᄃᄄᄅᆰᆱᆲᆳᆴᆵᄚᄆᄇᄈᄡᄉᄊᄋᄌᄍᄎᄏᄐᄑᄒ"⟩, ⟨0xFFC2, "ᅡᅢᅣᅤᅥᅦ"⟩,
  ⟨0xFFCA, "ᅧᅨᅩᅪᅫᅬ"⟩, ⟨0xFFD2, "ᅭᅮᅯᅰᅱᅲ"⟩, ⟨0xFFDA, "ᅳᅴᅵ"⟩, ⟨0xFFE0, "¢£¬"⟩, ⟨0xFFE4, "¦¥₩"⟩,
  ⟨0xFFE8, "│←↑→↓■○"⟩, ⟨0x10781, "ːˑæʙɓ"⟩, ⟨0x10787, "ʣꭦʥʤɖɗᶑɘɞʩɤɢɠʛħʜɧʄʪʫɬ𝼄ꞎɮ𝼅ʎ𝼆øɶɷqɺ𝼈ɽɾʀ"⟩,
  ⟨0x107AB, "ʨʦꭧʧʈⱱ"⟩, ⟨0x107B2, "ʏʡʢʘǀǁǂ𝼊𝼞"⟩, ⟨0x16EA0, "𖺻𖺼𖺽𖺾𖺿𖻀𖻁𖻂𖻃𖻄𖻅𖻆𖻇𖻈𖻉𖻊𖻋𖻌𖻍𖻎𖻏𖻐𖻑𖻒𖻓"⟩,
  ⟨0x1CCD6, "abcdefghijklmnopqrstuvwxyz0123456789"⟩,
  ⟨0x1D400, "abcdefghijklmnopqrstuvwxyzabcdefghij"⟩,
  ⟨0x1D424, "klmnopqrstuvwxyzabcdefghijklmnopqrst"⟩, ⟨0x1D448, "uvwxyzabcdefg"⟩,
  ⟨0x1D456, "ijklmnopqrstuvwxyzabcdefghijklmnopqr"⟩,
  ⟨0x1D47A, "stuvwxyzabcdefghijklmnopqrstuvwxyza"⟩, ⟨0x1D49E, "cd"⟩, ⟨0x1D4A2, "g"⟩,
  ⟨0x1D4A5, "jk"⟩, ⟨0x1D4A9, "nopq"⟩, ⟨0x1D4AE, "stuvwxyzabcd"⟩, ⟨0x1D4BB, "f"⟩,
  ⟨0x1D4BD, "hijklmn"⟩, ⟨0x1D4C5, "pqrstuvwxyzabcdefghijklmnopqrstuvwxy"⟩,
  ⟨0x1D4E9, "zabcdefghijklmnopqrstuvwxyzab"⟩, ⟨0x1D507, "defg"⟩, ⟨0x1D50D, "jklmnopq"⟩,
  ⟨0x1D516, "stuvwxy"⟩, ⟨0x1D51E, "abcdefghijklmnopqrstuvwxyzab"⟩, ⟨0x1D53B, "defg"⟩,
  ⟨0x1D540, "ijklm"⟩, ⟨0x1D546, "o"⟩, ⟨0x1D54A, "stuvwxy"⟩,
  ⟨0x1D552, "abcdefghijklmnopqrstuvwxyzabcdefghij"⟩,
  ⟨0x1D576, "klmnopqrstuvwxyzabcdefghijklmnopqrst"⟩,
  ⟨0x1D59A, "uvwxyzabcdefghijklmnopqrstuvwxyzabcd"⟩,
  ⟨0x1D5BE, "efghijklmnopqrstuvwxyzabcdefghijklmn"⟩,
  ⟨0x1D5E2, "opqrstuvwxyzabcdefghijklmnopqrstuvwx"⟩,
  ⟨0x1D606, "yzabcdefghijklmnopqrstuvwxyzabcdefgh"⟩,
  ⟨0x1D62A, "ijklmnopqrstuvwxyzabcdefghijklmnopqr"⟩,
  ⟨0x1D64E, "stuvwxyzabcdefghijklmnopqrstuvwxyzab"⟩,
  ⟨0x1D672, "cdefghijklmnopqrstuvwxyzabcdefghijkl"⟩, ⟨0x1D696, "mnopqrstuvwxyzıȷ"⟩,
  ⟨0x1D6A8, "αβγδεζηθικλμνξοπρθστυφχψω∇αβγδεζηθικ"⟩,
  ⟨0x1D6CC, "λμνξοπρσστυφχψω∂εθκφρπαβγδεζηθικλμνξ"⟩,
  ⟨0x1D6F0, "οπρθστυφχψω∇αβγδεζηθικλμνξοπρσστυφχψ"⟩,
  ⟨0x1D714, "ω∂εθκφρπαβγδεζηθικλμνξοπρθστυφχψω∇αβ"⟩,
  ⟨0x1D738, "γδεζηθικλμνξοπρσστυφχψω∂εθκφρπαβγδεζ"⟩,
  ⟨0x1D75C, "ηθικλμνξοπρθστυφχψω∇αβγδεζηθικλμνξοπ"⟩,
  ⟨0x1D780, "ρσστυφχψω∂εθκφρπαβγδεζηθικλμνξοπρθστ"⟩,
  ⟨0x1D7A4, "υφχψω∇αβγδεζηθικλμνξοπρσστυφχψω∂εθκφ"⟩, ⟨0x1D7C8, "ρπϝϝ"⟩,
  ⟨0x1D7CE, "012345678901234567890123456789012345"⟩, ⟨0x1D7F2, "67890123456789"⟩,
  ⟨0x1E030, "абвгдежзиклмопрстуфхцчшыэюꚉәіјөүӏабв"⟩, ⟨0x1E054, "гдежзиклопсуфхцчшъыґіѕџҫꙑұ"⟩,
  ⟨0x1EE00, "\u0627\u0628\u062c\u062f"⟩, ⟨0x1EE05, "\u0648\u0632\u062d\u0637\u064a\u0643"⟩,
  ⟨0x1EE0B, "\u0644\u0645\u0646\u0633\u0639\u0641"⟩,
  ⟨0x1EE11, "\u0635\u0642\u0631\u0634\u062a\u062b"⟩,
  ⟨0x1EE17, "\u062e\u0630\u0636\u0638\u063a\u066e"⟩, ⟨0x1EE1D, "\u06ba\u06a1\u066f"⟩,
  ⟨0x1EE21, "\u0628\u062c"⟩, ⟨0x1EE24, "\u0647"⟩, ⟨0x1EE27, "\u062d"⟩,
  ⟨0x1EE29, "\u064a\u0643\u0644\u0645\u0646\u0633"⟩, ⟨0x1EE2F, "\u0639\u0641\u0635\u0642"⟩,
  ⟨0x1EE34, "\u0634\u062a\u062b\u062e"⟩, ⟨0x1EE39, "\u0636"⟩, ⟨0x1EE3B, "\u063a"⟩,
  ⟨0x1EE42, "\u062c"⟩, ⟨0x1EE47, "\u062d"⟩, ⟨0x1EE49, "\u064a"⟩, ⟨0x1EE4B, "\u0644"⟩,
  ⟨0x1EE4D, "\u0646\u0633\u0639"⟩, ⟨0x1EE51, "\u0635\u0642"⟩, ⟨0x1EE54, "\u0634"⟩,
  ⟨0x1EE57, "\u062e"⟩, ⟨0x1EE59, "\u0636"⟩, ⟨0x1EE5B, "\u063a"⟩, ⟨0x1EE5D, "\u06ba"⟩,
  ⟨0x1EE5F, "\u066f"⟩, ⟨0x1EE61, "\u0628\u062c"⟩, ⟨0x1EE64, "\u0647"⟩,
  ⟨0x1EE67, "\u062d\u0637\u064a\u0643"⟩, ⟨0x1EE6C, "\u0645\u0646\u0633\u0639\u0641\u0635"⟩,
  ⟨0x1EE72, "\u0642"⟩, ⟨0x1EE74, "\u0634\u062a\u062b\u062e"⟩, ⟨0x1EE79, "\u0636\u0638\u063a\u066e"⟩,
  ⟨0x1EE7E, "\u06a1"⟩, ⟨0x1EE80, "\u0627\u0628\u062c\u062f\u0647\u0648"⟩,
  ⟨0x1EE86, "\u0632\u062d\u0637\u064a"⟩, ⟨0x1EE8B, "\u0644\u0645\u0646\u0633\u0639\u0641"⟩,
  ⟨0x1EE91, "\u0635\u0642\u0631\u0634\u062a\u062b"⟩, ⟨0x1EE97, "\u062e\u0630\u0636\u0638\u063a"⟩,
  ⟨0x1EEA1, "\u0628\u062c\u062f"⟩, ⟨0x1EEA5, "\u0648\u0632\u062d\u0637\u064a"⟩,
  ⟨0x1EEAB, "\u0644\u0645\u0646\u0633\u0639\u0641"⟩,
  ⟨0x1EEB1, "\u0635\u0642\u0631\u0634\u062a\u062b"⟩, ⟨0x1EEB7, "\u062e\u0630\u0636\u0638\u063a"⟩,
  ⟨0x1F12B, "cr"⟩, ⟨0x1F130, "abcdefghijklmnopqrstuvwxyz"⟩, ⟨0x1F202, "サ"⟩,
  ⟨0x1F210, "手字双デ二多解天交映無料前後再新初終生販声吹演投捕一三遊左中右指走打禁空"⟩, ⟨0x1F234, "合満有月申割営配"⟩, ⟨0x1F250, "得可"⟩,
  ⟨0x1FBF0, "0123456789"⟩, ⟨0x2F800, "丽丸乁𠄢你侮侻倂偺備僧像㒞𠘺免兔兤具𠔜㒹內再𠕋冗冤仌冬况𩇟凵刃㓟刻剆割剷"⟩,
  ⟨0x2F824, "㔕勇勉勤勺包匆北卉卑博即卽卿卿卿𠨬灰及叟𠭣叫叱吆咞吸呈周咢哶唐啓啣善善喙"⟩,
  ⟨0x2F848, "喫喳嗂圖嘆圗噑噴切壮城埴堍型堲報墬𡓤売壷夆多夢奢𡚨𡛪姬娛娧姘婦㛮㛼嬈嬾嬾"⟩,
  ⟨0x2F86C, "𡧈寃寘寧寳𡬘寿将当尢㞁屠屮峀岍𡷤嵃𡷦嵮嵫嵼巡巢㠯巽帨帽幩㡢𢆃㡼庰庳庶廊𪎒"⟩,
  ⟨0x2F890, "廾𢌱𢌱舁弢弢㣇𣊸𦇚形彫㣣徚忍志忹悁㤺㤜悔𢛔惇慈慌慎慌慺憎憲憤憯懞懲懶成戛"⟩,
  ⟨0x2F8B4, "扝抱拔捐𢬌挽拼捨掃揤𢯱搢揅掩㨮摩摾撝摷㩬敏敬𣀊旣書晉㬙暑㬈㫤冒冕最暜肭䏙"⟩,
  ⟨0x2F8D8, "朗望朡杞杓𣏃㭉柺枅桒梅𣑭梎栟椔㮝楂榣槪檨𣚣櫛㰘次𣢧歔㱎歲殟殺殻𣪍𡴋𣫺汎𣲼"⟩,
  ⟨0x2F8FC, "沿泍汧洖派海流浩浸涅𣴞洴港湮㴳滋滇𣻑淹潮𣽞𣾎濆瀹瀞瀛㶖灊災灷炭𠔥煅𤉣熜𤎫"⟩,
  ⟨0x2F920, "爨爵牐𤘈犀犕𤜵𤠔獺王㺬玥㺸㺸瑇瑜瑱璅瓊㼛甤𤰶甾𤲒異𢆟瘐𤾡𤾸𥁄㿼䀈直𥃳𥃲𥄙"⟩,
  ⟨0x2F944, "𥄳眞真真睊䀹瞋䁆䂖𥐝硎碌磌䃣𥘦祖𥚚𥛅福秫䄯穀穊穏𥥼𥪧𥪧竮䈂𥮫篆築䈧𥲀糒䊠"⟩,
  ⟨0x2F968, "糨糣紀𥾆絣䌁緇縂繅䌴𦈨𦉇䍙𦋙罺𦌾羕翺者𦓚𦔣聠𦖨聰𣍟䏕育脃䐋脾媵𦞧𦞵𣎓𣎜舁"⟩,
  ⟨0x2F98C, "舄辞䑫芑芋芝劳花芳芽苦𦬼若茝荣莭茣莽菧著荓菊菌菜𦰶𦵫𦳕䔫蓱蓳蔖𧏊蕤𦼬䕝䕡"⟩,
  ⟨0x2F9B0, "𦾱𧃒䕫虐虜虧虩蚩蚈蜎蛢蝹蜨蝫螆䗗蟡蠁䗹衠衣𧙧裗裞䘵裺㒻𧢮𧥦䚾䛇誠諭變豕𧲨"⟩,
  ⟨0x2F9D4, "貫賁贛起𧼯𠠄跋趼跰𠣞軔輸𨗒𨗭邔郱鄑𨜮鄛鈸鋗鋘鉼鏹鐕𨯺開䦕閷𨵷䧦雃嶲霣𩅅𩈚"⟩,
  ⟨0x2F9F8, "䩮䩶韠𩐊䪲𩒖頋頋頩𩖶飢䬳餩馧駂駾䯎𩬰鬒鱀鳽䳎䳭鵧𪃎䳸𪄅𪈎𪊑麻䵖黹黾鼅鼏鼖"⟩, ⟨0x2FA1C, "鼻𪘀"⟩]

/-- Usual forms of code points in a row, each of several characters. -/
structure LongForms where
  first : Nat
  forms : List String

/-- The usual forms of several characters. -/
def longForms : List LongForms := [
  ⟨0xBC, ["1⁄4", "1⁄2", "3⁄4"]⟩, ⟨0x132, ["ij", "ij"]⟩, ⟨0x13F, ["l·", "l·"]⟩, ⟨0x149, ["ʼn"]⟩,
  ⟨0x1C4, ["dž", "dž", "dž", "lj", "lj", "lj", "nj", "nj", "nj"]⟩, ⟨0x1F1, ["dz", "dz", "dz"]⟩,
  ⟨0x344, ["\u0308\u0301"]⟩, ⟨0x587, ["եւ"]⟩,
  ⟨0x675, ["\u0627\u0674", "\u0648\u0674", "\u06c7\u0674", "\u064a\u0674"]⟩,
  ⟨0x958, ["क\u093c", "ख\u093c", "ग\u093c", "ज\u093c", "ड\u093c", "ढ\u093c"]⟩,
  ⟨0x95E, ["फ\u093c", "य\u093c"]⟩, ⟨0x9DC, ["ড\u09bc", "ঢ\u09bc"]⟩, ⟨0x9DF, ["য\u09bc"]⟩,
  ⟨0xA33, ["ਲ\u0a3c"]⟩, ⟨0xA36, ["ਸ\u0a3c"]⟩, ⟨0xA59, ["ਖ\u0a3c", "ਗ\u0a3c", "ਜ\u0a3c"]⟩,
  ⟨0xA5E, ["ਫ\u0a3c"]⟩, ⟨0xB5C, ["ଡ\u0b3c", "ଢ\u0b3c"]⟩, ⟨0xE33, ["\u0e4dา"]⟩, ⟨0xEB3, ["\u0ecdາ"]⟩,
  ⟨0xEDC, ["ຫນ", "ຫມ"]⟩, ⟨0xF43, ["ག\u0fb7"]⟩, ⟨0xF4D, ["ཌ\u0fb7"]⟩, ⟨0xF52, ["ད\u0fb7"]⟩,
  ⟨0xF57, ["བ\u0fb7"]⟩, ⟨0xF5C, ["ཛ\u0fb7"]⟩, ⟨0xF69, ["ཀ\u0fb5"]⟩, ⟨0xF73, ["\u0f71\u0f72"]⟩,
  ⟨0xF75, ["\u0f71\u0f74", "\u0fb2\u0f80", "\u0fb2\u0f71\u0f80", "\u0fb3\u0f80"]⟩,
  ⟨0xF79, ["\u0fb3\u0f71\u0f80"]⟩, ⟨0xF81, ["\u0f71\u0f80"]⟩, ⟨0xF93, ["\u0f92\u0fb7"]⟩,
  ⟨0xF9D, ["\u0f9c\u0fb7"]⟩, ⟨0xFA2, ["\u0fa1\u0fb7"]⟩, ⟨0xFA7, ["\u0fa6\u0fb7"]⟩,
  ⟨0xFAC, ["\u0fab\u0fb7"]⟩, ⟨0xFB9, ["\u0f90\u0fb5"]⟩, ⟨0x1E9A, ["aʾ"]⟩,
  ⟨0x1F80, ["ἀι", "ἁι", "ἂι", "ἃι", "ἄι", "ἅι", "ἆι", "ἇι", "ἀι", "ἁι", "ἂι", "ἃι"]⟩,
  ⟨0x1F8C, ["ἄι", "ἅι", "ἆι", "ἇι", "ἠι", "ἡι", "ἢι", "ἣι", "ἤι", "ἥι", "ἦι", "ἧι"]⟩,
  ⟨0x1F98, ["ἠι", "ἡι", "ἢι", "ἣι", "ἤι", "ἥι", "ἦι", "ἧι", "ὠι", "ὡι", "ὢι", "ὣι"]⟩,
  ⟨0x1FA4, ["ὤι", "ὥι", "ὦι", "ὧι", "ὠι", "ὡι", "ὢι", "ὣι", "ὤι", "ὥι", "ὦι", "ὧι"]⟩,
  ⟨0x1FB2, ["ὰι", "αι", "άι"]⟩, ⟨0x1FB7, ["ᾶι"]⟩, ⟨0x1FBC, ["αι"]⟩, ⟨0x1FC2, ["ὴι", "ηι", "ήι"]⟩,
  ⟨0x1FC7, ["ῆι"]⟩, ⟨0x1FCC, ["ηι"]⟩, ⟨0x1FF2, ["ὼι", "ωι", "ώι"]⟩, ⟨0x1FF7, ["ῶι"]⟩,
  ⟨0x1FFC, ["ωι"]⟩, ⟨0x2033, ["′′", "′′′"]⟩, ⟨0x2036, ["‵‵", "‵‵‵"]⟩, ⟨0x203C, ["!!"]⟩,
  ⟨0x2047, ["??", "?!", "!?"]⟩, ⟨0x2057, ["′′′′"]⟩, ⟨0x20A8, ["rs"]⟩, ⟨0x2100, ["a/c", "a/s"]⟩,
  ⟨0x2103, ["°c"]⟩, ⟨0x2105, ["c/o", "c/u"]⟩, ⟨0x2109, ["°f"]⟩, ⟨0x2116, ["no"]⟩,
  ⟨0x2120, ["sm", "tel", "tm"]⟩, ⟨0x213B, ["fax"]⟩,
  ⟨0x2150, ["1⁄7", "1⁄9", "1⁄10", "1⁄3", "2⁄3", "1⁄5", "2⁄5", "3⁄5", "4⁄5", "1⁄6"]⟩,
  ⟨0x215A, ["5⁄6", "1⁄8", "3⁄8", "5⁄8", "7⁄8", "1⁄"]⟩, ⟨0x2161, ["ii", "iii", "iv"]⟩,
  ⟨0x2165, ["vi", "vii", "viii", "ix"]⟩, ⟨0x216A, ["xi", "xii"]⟩, ⟨0x2171, ["ii", "iii", "iv"]⟩,
  ⟨0x2175, ["vi", "vii", "viii", "ix"]⟩, ⟨0x217A, ["xi", "xii"]⟩, ⟨0x2189, ["0⁄3"]⟩,
  ⟨0x222C, ["∫∫", "∫∫∫"]⟩, ⟨0x222F, ["∮∮", "∮∮∮"]⟩,
  ⟨0x2469, ["10", "11", "12", "13", "14", "15", "16", "17", "18", "19", "20", "(1)"]⟩,
  ⟨0x2475, ["(2)", "(3)", "(4)", "(5)", "(6)", "(7)", "(8)", "(9)", "(10)", "(11)"]⟩,
  ⟨0x247F, ["(12)", "(13)", "(14)", "(15)", "(16)", "(17)", "(18)", "(19)", "(20)"]⟩,
  ⟨0x249C, ["(a)", "(b)", "(c)", "(d)", "(e)", "(f)", "(g)", "(h)", "(i)", "(j)"]⟩,
  ⟨0x24A6, ["(k)", "(l)", "(m)", "(n)", "(o)", "(p)", "(q)", "(r)", "(s)", "(t)"]⟩,
  ⟨0x24B0, ["(u)", "(v)", "(w)", "(x)", "(y)", "(z)"]⟩, ⟨0x2A0C, ["∫∫∫∫"]⟩,
  ⟨0x2A74, ["::=", "==", "==="]⟩, ⟨0x2ADC, ["⫝\u0338"]⟩, ⟨0x309F, ["より"]⟩, ⟨0x30FF, ["コト"]⟩,
  ⟨0x3200, ["(ᄀ)", "(ᄂ)", "(ᄃ)", "(ᄅ)", "(ᄆ)", "(ᄇ)", "(ᄉ)", "(ᄋ)", "(ᄌ)", "(ᄎ)"]⟩,
  ⟨0x320A, ["(ᄏ)", "(ᄐ)", "(ᄑ)", "(ᄒ)", "(가)", "(나)", "(다)", "(라)", "(마)", "(바)"]⟩,
  ⟨0x3214, ["(사)", "(아)", "(자)", "(차)", "(카)", "(타)", "(파)", "(하)", "(주)", "(오전)"]⟩,
  ⟨0x321E, ["(오후)"]⟩,
  ⟨0x3220, ["(一)", "(二)", "(三)", "(四)", "(五)", "(六)", "(七)", "(八)", "(九)", "(十)"]⟩,
  ⟨0x322A, ["(月)", "(火)", "(水)", "(木)", "(金)", "(土)", "(日)", "(株)", "(有)", "(社)"]⟩,
  ⟨0x3234, ["(名)", "(特)", "(財)", "(祝)", "(労)", "(代)", "(呼)", "(学)", "(監)", "(企)"]⟩,
  ⟨0x323E, ["(資)", "(協)", "(祭)", "(休)", "(自)", "(至)"]⟩,
  ⟨0x3250, ["pte", "21", "22", "23", "24", "25", "26", "27", "28", "29", "30", "31"]⟩,
  ⟨0x325C, ["32", "33", "34", "35"]⟩, ⟨0x327C, ["참고", "주의"]⟩,
  ⟨0x32B1, ["36", "37", "38", "39", "40", "41", "42", "43", "44", "45", "46", "47"]⟩,
  ⟨0x32BD, ["48", "49", "50", "1月", "2月", "3月", "4月", "5月", "6月", "7月", "8月", "9月"]⟩,
  ⟨0x32C9, ["10月", "11月", "12月", "hg", "erg", "ev", "ltd"]⟩,
  ⟨0x32FF, ["令和", "アパート", "アルファ", "アンペア", "アール", "イニング", "インチ", "ウォン", "エスクード"]⟩,
  ⟨0x3308, ["エーカー", "オンス", "オーム", "カイリ", "カラット", "カロリー", "ガロン", "ガンマ", "ギガ", "ギニー"]⟩,
  ⟨0x3312, ["キュリー", "ギルダー", "キロ", "キログラム", "キロメートル", "キロワット", "グラム", "グラムトン"]⟩,
  ⟨0x331A, ["クルゼイロ", "クローネ", "ケース", "コルナ", "コーポ", "サイクル", "サンチーム", "シリング", "センチ"]⟩,
  ⟨0x3323, ["セント", "ダース", "デシ", "ドル", "トン", "ナノ", "ノット", "ハイツ", "パーセント", "パーツ"]⟩,
  ⟨0x332D, ["バーレル", "ピアストル", "ピクル", "ピコ", "ビル", "ファラッド", "フィート", "ブッシェル", "フラン"]⟩,
  ⟨0x3336, ["ヘクタール", "ペソ", "ペニヒ", "ヘルツ", "ペンス", "ページ", "ベータ", "ポイント", "ボルト", "ホン"]⟩,
  ⟨0x3340, ["ポンド", "ホール", "ホーン", "マイクロ", "マイル", "マッハ", "マルク", "マンション", "ミクロン", "ミリ"]⟩,
  ⟨0x334A, ["ミリバール", "メガ", "メガトン", "メートル", "ヤード", "ヤール", "ユアン", "リットル", "リラ", "ルピー"]⟩,
  ⟨0x3354, ["ルーブル", "レム", "レントゲン", "ワット", "0点", "1点", "2点", "3点", "4点", "5点", "6点"]⟩,
  ⟨0x335F, ["7点", "8点", "9点", "10点", "11点", "12点", "13点", "14点", "15点", "16点", "17点"]⟩,
  ⟨0x336A, ["18点", "19点", "20点", "21点", "22点", "23点", "24点", "hpa", "da", "au"]⟩,
  ⟨0x3374, ["bar", "ov", "pc", "dm", "dm2", "dm3", "iu", "平成", "昭和", "大正", "明治"]⟩,
  ⟨0x337F, ["株式会社", "pa", "na", "μa", "ma", "ka", "kb", "mb", "gb", "cal", "kcal"]⟩,
  ⟨0x338A, ["pf", "nf", "μf", "μg", "mg", "kg", "hz", "khz", "mhz", "ghz", "thz"]⟩,
  ⟨0x3395, ["μl", "ml", "dl", "kl", "fm", "nm", "μm", "mm", "cm", "km", "mm2", "cm2"]⟩,
  ⟨0x33A1, ["m2", "km2", "mm3", "cm3", "m3", "km3", "m∕s", "m∕s2", "pa", "kpa"]⟩,
  ⟨0x33AB, ["mpa", "gpa", "rad", "rad∕s", "rad∕s2", "ps", "ns", "μs", "ms", "pv"]⟩,
  ⟨0x33B5, ["nv", "μv", "mv", "kv", "mv", "pw", "nw", "μw", "mw", "kw", "mw", "kω"]⟩,
  ⟨0x33C1, ["mω"]⟩, ⟨0x33C3, ["bq", "cc", "cd", "c∕kg"]⟩,
  ⟨0x33C8, ["db", "gy", "ha", "hp", "in", "kk", "km", "kt", "lm", "ln", "log", "lx"]⟩,
  ⟨0x33D4, ["mb", "mil", "mol", "ph"]⟩,
  ⟨0x33D9, ["ppm", "pr", "sr", "sv", "wb", "v∕m", "a∕m", "1日", "2日", "3日", "4日"]⟩,
  ⟨0x33E4, ["5日", "6日", "7日", "8日", "9日", "10日", "11日", "12日", "13日", "14日", "15日"]⟩,
  ⟨0x33EF, ["16日", "17日", "18日", "19日", "20日", "21日", "22日", "23日", "24日", "25日"]⟩,
  ⟨0x33F9, ["26日", "27日", "28日", "29日", "30日", "31日", "gal"]⟩,
  ⟨0xFB00, ["ff", "fi", "fl", "ffi", "ffl", "st", "st"]⟩, ⟨0xFB13, ["մն", "մե", "մի", "վն", "մխ"]⟩,
  ⟨0xFB1D, ["\u05d9\u05b4"]⟩, ⟨0xFB1F, ["\u05f2\u05b7"]⟩,
  ⟨0xFB2A, ["\u05e9\u05c1", "\u05e9\u05c2", "\u05e9\u05bc\u05c1"]⟩,
  ⟨0xFB2D, ["\u05e9\u05bc\u05c2", "\u05d0\u05b7", "\u05d0\u05b8", "\u05d0\u05bc"]⟩,
  ⟨0xFB31, ["\u05d1\u05bc", "\u05d2\u05bc", "\u05d3\u05bc", "\u05d4\u05bc"]⟩,
  ⟨0xFB35, ["\u05d5\u05bc", "\u05d6\u05bc"]⟩,
  ⟨0xFB38, ["\u05d8\u05bc", "\u05d9\u05bc", "\u05da\u05bc", "\u05db\u05bc"]⟩,
  ⟨0xFB3C, ["\u05dc\u05bc"]⟩, ⟨0xFB3E, ["\u05de\u05bc"]⟩,
  ⟨0xFB40, ["\u05e0\u05bc", "\u05e1\u05bc"]⟩, ⟨0xFB43, ["\u05e3\u05bc", "\u05e4\u05bc"]⟩,
  ⟨0xFB46, ["\u05e6\u05bc", "\u05e7\u05bc", "\u05e8\u05bc", "\u05e9\u05bc"]⟩,
  ⟨0xFB4A, ["\u05ea\u05bc", "\u05d5\u05b9", "\u05d1\u05bf", "\u05db\u05bf"]⟩,
  ⟨0xFB4E, ["\u05e4\u05bf", "\u05d0\u05dc"]⟩, ⟨0xFBDD, ["\u06c7\u0674"]⟩,
  ⟨0xFBEA, ["\u0626\u0627", "\u0626\u0627", "\u0626\u06d5", "\u0626\u06d5"]⟩,
  ⟨0xFBEE, ["\u0626\u0648", "\u0626\u0648", "\u0626\u06c7", "\u0626\u06c7"]⟩,
  ⟨0xFBF2, ["\u0626\u06c6", "\u0626\u06c6", "\u0626\u06c8", "\u0626\u06c8"]⟩,
  ⟨0xFBF6, ["\u0626\u06d0", "\u0626\u06d0", "\u0626\u06d0", "\u0626\u0649"]⟩,
  ⟨0xFBFA, ["\u0626\u0649", "\u0626\u0649"]⟩,
  ⟨0xFC00, ["\u0626\u062c", "\u0626\u062d", "\u0626\u0645", "\u0626\u0649"]⟩,
  ⟨0xFC04, ["\u0626\u064a", "\u0628\u062c", "\u0628\u062d", "\u0628\u062e"]⟩,
  ⟨0xFC08, ["\u0628\u0645", "\u0628\u0649", "\u0628\u064a", "\u062a\u062c"]⟩,
  ⟨0xFC0C, ["\u062a\u062d", "\u062a\u062e", "\u062a\u0645", "\u062a\u0649"]⟩,
  ⟨0xFC10, ["\u062a\u064a", "\u062b\u062c", "\u062b\u0645", "\u062b\u0649"]⟩,
  ⟨0xFC14, ["\u062b\u064a", "\u062c\u062d", "\u062c\u0645", "\u062d\u062c"]⟩,
  ⟨0xFC18, ["\u062d\u0645", "\u062e\u062c", "\u062e\u062d", "\u062e\u0645"]⟩,
  ⟨0xFC1C, ["\u0633\u062c", "\u0633\u062d", "\u0633\u062e", "\u0633\u0645"]⟩,
  ⟨0xFC20, ["\u0635\u062d", "\u0635\u0645", "\u0636\u062c", "\u0636\u062d"]⟩,
  ⟨0xFC24, ["\u0636\u062e", "\u0636\u0645", "\u0637\u062d", "\u0637\u0645"]⟩,
  ⟨0xFC28, ["\u0638\u0645", "\u0639\u062c", "\u0639\u0645", "\u063a\u062c"]⟩,
  ⟨0xFC2C, ["\u063a\u0645", "\u0641\u062c", "\u0641\u062d", "\u0641\u062e"]⟩,
  ⟨0xFC30, ["\u0641\u0645", "\u0641\u0649", "\u0641\u064a", "\u0642\u062d"]⟩,
  ⟨0xFC34, ["\u0642\u0645", "\u0642\u0649", "\u0642\u064a", "\u0643\u0627"]⟩,
  ⟨0xFC38, ["\u0643\u062c", "\u0643\u062d", "\u0643\u062e", "\u0643\u0644"]⟩,
  ⟨0xFC3C, ["\u0643\u0645", "\u0643\u0649", "\u0643\u064a", "\u0644\u062c"]⟩,
  ⟨0xFC40, ["\u0644\u062d", "\u0644\u062e", "\u0644\u0645", "\u0644\u0649"]⟩,
  ⟨0xFC44, ["\u0644\u064a", "\u0645\u062c", "\u0645\u062d", "\u0645\u062e"]⟩,
  ⟨0xFC48, ["\u0645\u0645", "\u0645\u0649", "\u0645\u064a", "\u0646\u062c"]⟩,
  ⟨0xFC4C, ["\u0646\u062d", "\u0646\u062e", "\u0646\u0645", "\u0646\u0649"]⟩,
  ⟨0xFC50, ["\u0646\u064a", "\u0647\u062c", "\u0647\u0645", "\u0647\u0649"]⟩,
  ⟨0xFC54, ["\u0647\u064a", "\u064a\u062c", "\u064a\u062d", "\u064a\u062e"]⟩,
  ⟨0xFC58, ["\u064a\u0645", "\u064a\u0649", "\u064a\u064a", "\u0630\u0670"]⟩,
  ⟨0xFC5C, ["\u0631\u0670", "\u0649\u0670"]⟩,
  ⟨0xFC64, ["\u0626\u0631", "\u0626\u0632", "\u0626\u0645", "\u0626\u0646"]⟩,
  ⟨0xFC68, ["\u0626\u0649", "\u0626\u064a", "\u0628\u0631", "\u0628\u0632"]⟩,
  ⟨0xFC6C, ["\u0628\u0645", "\u0628\u0646", "\u0628\u0649", "\u0628\u064a"]⟩,
  ⟨0xFC70, ["\u062a\u0631", "\u062a\u0632", "\u062a\u0645", "\u062a\u0646"]⟩,
  ⟨0xFC74, ["\u062a\u0649", "\u062a\u064a", "\u062b\u0631", "\u062b\u0632"]⟩,
  ⟨0xFC78, ["\u062b\u0645", "\u062b\u0646", "\u062b\u0649", "\u062b\u064a"]⟩,
  ⟨0xFC7C, ["\u0641\u0649", "\u0641\u064a", "\u0642\u0649", "\u0642\u064a"]⟩,
  ⟨0xFC80, ["\u0643\u0627", "\u0643\u0644", "\u0643\u0645", "\u0643\u0649"]⟩,
  ⟨0xFC84, ["\u0643\u064a", "\u0644\u0645", "\u0644\u0649", "\u0644\u064a"]⟩,
  ⟨0xFC88, ["\u0645\u0627", "\u0645\u0645", "\u0646\u0631", "\u0646\u0632"]⟩,
  ⟨0xFC8C, ["\u0646\u0645", "\u0646\u0646", "\u0646\u0649", "\u0646\u064a"]⟩,
  ⟨0xFC90, ["\u0649\u0670", "\u064a\u0631", "\u064a\u0632", "\u064a\u0645"]⟩,
  ⟨0xFC94, ["\u064a\u0646", "\u064a\u0649", "\u064a\u064a", "\u0626\u062c"]⟩,
  ⟨0xFC98, ["\u0626\u062d", "\u0626\u062e", "\u0626\u0645", "\u0626\u0647"]⟩,
  ⟨0xFC9C, ["\u0628\u062c", "\u0628\u062d", "\u0628\u062e", "\u0628\u0645"]⟩,
  ⟨0xFCA0, ["\u0628\u0647", "\u062a\u062c", "\u062a\u062d", "\u062a\u062e"]⟩,
  ⟨0xFCA4, ["\u062a\u0645", "\u062a\u0647", "\u062b\u0645", "\u062c\u062d"]⟩,
  ⟨0xFCA8, ["\u062c\u0645", "\u062d\u062c", "\u062d\u0645", "\u062e\u062c"]⟩,
  ⟨0xFCAC, ["\u062e\u0645", "\u0633\u062c", "\u0633\u062d", "\u0633\u062e"]⟩,
  ⟨0xFCB0, ["\u0633\u0645", "\u0635\u062d", "\u0635\u062e", "\u0635\u0645"]⟩,
  ⟨0xFCB4, ["\u0636\u062c", "\u0636\u062d", "\u0636\u062e", "\u0636\u0645"]⟩,
  ⟨0xFCB8, ["\u0637\u062d", "\u0638\u0645", "\u0639\u062c", "\u0639\u0645"]⟩,
  ⟨0xFCBC, ["\u063a\u062c", "\u063a\u0645", "\u0641\u062c", "\u0641\u062d"]⟩,
  ⟨0xFCC0, ["\u0641\u062e", "\u0641\u0645", "\u0642\u062d", "\u0642\u0645"]⟩,
  ⟨0xFCC4, ["\u0643\u062c", "\u0643\u062d", "\u0643\u062e", "\u0643\u0644"]⟩,
  ⟨0xFCC8, ["\u0643\u0645", "\u0644\u062c", "\u0644\u062d", "\u0644\u062e"]⟩,
  ⟨0xFCCC, ["\u0644\u0645", "\u0644\u0647", "\u0645\u062c", "\u0645\u062d"]⟩,
  ⟨0xFCD0, ["\u0645\u062e", "\u0645\u0645", "\u0646\u062c", "\u0646\u062d"]⟩,
  ⟨0xFCD4, ["\u0646\u062e", "\u0646\u0645", "\u0646\u0647", "\u0647\u062c"]⟩,
  ⟨0xFCD8, ["\u0647\u0645", "\u0647\u0670", "\u064a\u062c", "\u064a\u062d"]⟩,
  ⟨0xFCDC, ["\u064a\u062e", "\u064a\u0645", "\u064a\u0647", "\u0626\u0645"]⟩,
  ⟨0xFCE0, ["\u0626\u0647", "\u0628\u0645", "\u0628\u0647", "\u062a\u0645"]⟩,
  ⟨0xFCE4, ["\u062a\u0647", "\u062b\u0645", "\u062b\u0647", "\u0633\u0645"]⟩,
  ⟨0xFCE8, ["\u0633\u0647", "\u0634\u0645", "\u0634\u0647", "\u0643\u0644"]⟩,
  ⟨0xFCEC, ["\u0643\u0645", "\u0644\u0645", "\u0646\u0645", "\u0646\u0647"]⟩,
  ⟨0xFCF0, ["\u064a\u0645", "\u064a\u0647", "\u0640\u064e\u0651"]⟩,
  ⟨0xFCF3, ["\u0640\u064f\u0651", "\u0640\u0650\u0651", "\u0637\u0649"]⟩,
  ⟨0xFCF6, ["\u0637\u064a", "\u0639\u0649", "\u0639\u064a", "\u063a\u0649"]⟩,
  ⟨0xFCFA, ["\u063a\u064a", "\u0633\u0649", "\u0633\u064a", "\u0634\u0649"]⟩,
  ⟨0xFCFE, ["\u0634\u064a", "\u062d\u0649", "\u062d\u064a", "\u062c\u0649"]⟩,
  ⟨0xFD02, ["\u062c\u064a", "\u062e\u0649", "\u062e\u064a", "\u0635\u0649"]⟩,
  ⟨0xFD06, ["\u0635\u064a", "\u0636\u0649", "\u0636\u064a", "\u0634\u062c"]⟩,
  ⟨0xFD0A, ["\u0634\u062d", "\u0634\u062e", "\u0634\u0645", "\u0634\u0631"]⟩,
  ⟨0xFD0E, ["\u0633\u0631", "\u0635\u0631", "\u0636\u0631", "\u0637\u0649"]⟩,
  ⟨0xFD12, ["\u0637\u064a", "\u0639\u0649", "\u0639\u064a", "\u063a\u0649"]⟩,
  ⟨0xFD16, ["\u063a\u064a", "\u0633\u0649", "\u0633\u064a", "\u0634\u0649"]⟩,
  ⟨0xFD1A, ["\u0634\u064a", "\u062d\u0649", "\u062d\u064a", "\u062c\u0649"]⟩,
  ⟨0xFD1E, ["\u062c\u064a", "\u062e\u0649", "\u062e\u064a", "\u0635\u0649"]⟩,
  ⟨0xFD22, ["\u0635\u064a", "\u0636\u0649", "\u0636\u064a", "\u0634\u062c"]⟩,
  ⟨0xFD26, ["\u0634\u062d", "\u0634\u062e", "\u0634\u0645", "\u0634\u0631"]⟩,
  ⟨0xFD2A, ["\u0633\u0631", "\u0635\u0631", "\u0636\u0631", "\u0634\u062c"]⟩,
  ⟨0xFD2E, ["\u0634\u062d", "\u0634\u062e", "\u0634\u0645", "\u0633\u0647"]⟩,
  ⟨0xFD32, ["\u0634\u0647", "\u0637\u0645", "\u0633\u062c", "\u0633\u062d"]⟩,
  ⟨0xFD36, ["\u0633\u062e", "\u0634\u062c", "\u0634\u062d", "\u0634\u062e"]⟩,
  ⟨0xFD3A, ["\u0637\u0645", "\u0638\u0645", "\u0627\u064b", "\u0627\u064b"]⟩,
  ⟨0xFD50, ["\u062a\u062c\u0645", "\u062a\u062d\u062c", "\u062a\u062d\u062c"]⟩,
  ⟨0xFD53, ["\u062a\u062d\u0645", "\u062a\u062e\u0645", "\u062a\u0645\u062c"]⟩,
  ⟨0xFD56, ["\u062a\u0645\u062d", "\u062a\u0645\u062e", "\u062c\u0645\u062d"]⟩,
  ⟨0xFD59, ["\u062c\u0645\u062d", "\u062d\u0645\u064a", "\u062d\u0645\u0649"]⟩,
  ⟨0xFD5C, ["\u0633\u062d\u062c", "\u0633\u062c\u062d", "\u0633\u062c\u0649"]⟩,
  ⟨0xFD5F, ["\u0633\u0645\u062d", "\u0633\u0645\u062d", "\u0633\u0645\u062c"]⟩,
  ⟨0xFD62, ["\u0633\u0645\u0645", "\u0633\u0645\u0645", "\u0635\u062d\u062d"]⟩,
  ⟨0xFD65, ["\u0635\u062d\u062d", "\u0635\u0645\u0645", "\u0634\u062d\u0645"]⟩,
  ⟨0xFD68, ["\u0634\u062d\u0645", "\u0634\u062c\u064a", "\u0634\u0645\u062e"]⟩,
  ⟨0xFD6B, ["\u0634\u0645\u062e", "\u0634\u0645\u0645", "\u0634\u0645\u0645"]⟩,
  ⟨0xFD6E, ["\u0636\u062d\u0649", "\u0636\u062e\u0645", "\u0636\u062e\u0645"]⟩,
  ⟨0xFD71, ["\u0637\u0645\u062d", "\u0637\u0645\u062d", "\u0637\u0645\u0645"]⟩,
  ⟨0xFD74, ["\u0637\u0645\u064a", "\u0639\u062c\u0645", "\u0639\u0645\u0645"]⟩,
  ⟨0xFD77, ["\u0639\u0645\u0645", "\u0639\u0645\u0649", "\u063a\u0645\u0645"]⟩,
  ⟨0xFD7A, ["\u063a\u0645\u064a", "\u063a\u0645\u0649", "\u0641\u062e\u0645"]⟩,
  ⟨0xFD7D, ["\u0641\u062e\u0645", "\u0642\u0645\u062d", "\u0642\u0645\u0645"]⟩,
  ⟨0xFD80, ["\u0644\u062d\u0645", "\u0644\u062d\u064a", "\u0644\u062d\u0649"]⟩,
  ⟨0xFD83, ["\u0644\u062c\u062c", "\u0644\u062c\u062c", "\u0644\u062e\u0645"]⟩,
  ⟨0xFD86, ["\u0644\u062e\u0645", "\u0644\u0645\u062d", "\u0644\u0645\u062d"]⟩,
  ⟨0xFD89, ["\u0645\u062d\u062c", "\u0645\u062d\u0645", "\u0645\u062d\u064a"]⟩,
  ⟨0xFD8C, ["\u0645\u062c\u062d", "\u0645\u062c\u0645", "\u0645\u062e\u062c"]⟩,
  ⟨0xFD8F, ["\u0645\u062e\u0645"]⟩,
  ⟨0xFD92, ["\u0645\u062c\u062e", "\u0647\u0645\u062c", "\u0647\u0645\u0645"]⟩,
  ⟨0xFD95, ["\u0646\u062d\u0645", "\u0646\u062d\u0649", "\u0646\u062c\u0645"]⟩,
  ⟨0xFD98, ["\u0646\u062c\u0645", "\u0646\u062c\u0649", "\u0646\u0645\u064a"]⟩,
  ⟨0xFD9B, ["\u0646\u0645\u0649", "\u064a\u0645\u0645", "\u064a\u0645\u0645"]⟩,
  ⟨0xFD9E, ["\u0628\u062e\u064a", "\u062a\u062c\u064a", "\u062a\u062c\u0649"]⟩,
  ⟨0xFDA1, ["\u062a\u062e\u064a", "\u062a\u062e\u0649", "\u062a\u0645\u064a"]⟩,
  ⟨0xFDA4, ["\u062a\u0645\u0649", "\u062c\u0645\u064a", "\u062c\u062d\u0649"]⟩,
  ⟨0xFDA7, ["\u062c\u0645\u0649", "\u0633\u062e\u0649", "\u0635\u062d\u064a"]⟩,
  ⟨0xFDAA, ["\u0634\u062d\u064a", "\u0636\u062d\u064a", "\u0644\u062c\u064a"]⟩,
  ⟨0xFDAD, ["\u0644\u0645\u064a", "\u064a\u062d\u064a", "\u064a\u062c\u064a"]⟩,
  ⟨0xFDB0, ["\u064a\u0645\u064a", "\u0645\u0645\u064a", "\u0642\u0645\u064a"]⟩,
  ⟨0xFDB3, ["\u0646\u062d\u064a", "\u0642\u0645\u062d", "\u0644\u062d\u0645"]⟩,
  ⟨0xFDB6, ["\u0639\u0645\u064a", "\u0643\u0645\u064a", "\u0646\u062c\u062d"]⟩,
  ⟨0xFDB9, ["\u0645\u062e\u064a", "\u0644\u062c\u0645", "\u0643\u0645\u0645"]⟩,
  ⟨0xFDBC, ["\u0644\u062c\u0645", "\u0646\u062c\u062d", "\u062c\u062d\u064a"]⟩,
  ⟨0xFDBF, ["\u062d\u062c\u064a", "\u0645\u062c\u064a", "\u0641\u0645\u064a"]⟩,
  ⟨0xFDC2, ["\u0628\u062d\u064a", "\u0643\u0645\u0645", "\u0639\u062c\u0645"]⟩,
  ⟨0xFDC5, ["\u0635\u0645\u0645", "\u0633\u062e\u064a", "\u0646\u062c\u064a"]⟩,
  ⟨0xFDF0, ["\u0635\u0644\u06d2", "\u0642\u0644\u06d2", "\u0627\u0644\u0644\u0647"]⟩,
  ⟨0xFDF3, ["\u0627\u0643\u0628\u0631", "\u0645\u062d\u0645\u062f"]⟩,
  ⟨0xFDF5, ["\u0635\u0644\u0639\u0645", "\u0631\u0633\u0648\u0644"]⟩,
  ⟨0xFDF7, ["\u0639\u0644\u064a\u0647", "\u0648\u0633\u0644\u0645"]⟩,
  ⟨0xFDF9, ["\u0635\u0644\u0649"]⟩, ⟨0xFDFC, ["\u0631\u06cc\u0627\u0644"]⟩,
  ⟨0xFE71, ["\u0640\u064b"]⟩, ⟨0xFE77, ["\u0640\u064e"]⟩, ⟨0xFE79, ["\u0640\u064f"]⟩,
  ⟨0xFE7B, ["\u0640\u0650"]⟩, ⟨0xFE7D, ["\u0640\u0651"]⟩, ⟨0xFE7F, ["\u0640\u0652"]⟩,
  ⟨0xFEF5, ["\u0644\u0622", "\u0644\u0622", "\u0644\u0623", "\u0644\u0623"]⟩,
  ⟨0xFEF9, ["\u0644\u0625", "\u0644\u0625", "\u0644\u0627", "\u0644\u0627"]⟩,
  ⟨0x1D15E, ["𝅗𝅥", "𝅘𝅥", "𝅘𝅥𝅮", "𝅘𝅥𝅯", "𝅘𝅥𝅰", "𝅘𝅥𝅱", "𝅘𝅥𝅲"]⟩,
  ⟨0x1D1BB, ["𝆹𝅥", "𝆺𝅥", "𝆹𝅥𝅮", "𝆺𝅥𝅮", "𝆹𝅥𝅯", "𝆺𝅥𝅯"]⟩,
  ⟨0x1F101, ["0,", "1,", "2,", "3,", "4,", "5,", "6,", "7,", "8,", "9,"]⟩,
  ⟨0x1F110, ["(a)", "(b)", "(c)", "(d)", "(e)", "(f)", "(g)", "(h)", "(i)", "(j)"]⟩,
  ⟨0x1F11A, ["(k)", "(l)", "(m)", "(n)", "(o)", "(p)", "(q)", "(r)", "(s)", "(t)"]⟩,
  ⟨0x1F124, ["(u)", "(v)", "(w)", "(x)", "(y)", "(z)", "〔s〕"]⟩, ⟨0x1F12D, ["cd", "wz"]⟩,
  ⟨0x1F14A, ["hv", "mv", "sd", "ss", "ppv", "wc"]⟩, ⟨0x1F16A, ["mc", "md", "mr"]⟩,
  ⟨0x1F190, ["dj"]⟩, ⟨0x1F200, ["ほか", "ココ"]⟩,
  ⟨0x1F240, ["〔本〕", "〔三〕", "〔二〕", "〔安〕", "〔点〕", "〔打〕", "〔盗〕", "〔勝〕", "〔敗〕"]⟩]

end XmlTemplate.Uri.DomainName
