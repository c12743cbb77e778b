import EventCorrelation.Host.Marks

/-!
# Folded characters of names

Names are compared by their folded characters: capital letters become small ones, styled and narrow
or wide forms become plain ones, and characters without a meaning of their own are dropped. Of the
characters that fold to others, those are spelled out here that become ASCII characters, marks or
letters of another direction. All others may stand for themselves, because they are as foreign to
ASCII as what they fold to.
-/

namespace EventCorrelation.Host

/-- The ranges of characters that are dropped. -/
def droppedRanges : Array (Nat × Nat) := #[
  (0xAD, 0xAD), (0x34F, 0x34F), (0x115F, 0x1160), (0x17B4, 0x17B5), (0x180B, 0x180F),
  (0x200B, 0x200B), (0x2060, 0x2064), (0x206A, 0x206F), (0x3164, 0x3164), (0xFE00, 0xFE0F),
  (0xFEFF, 0xFEFF), (0xFFA0, 0xFFA0), (0x1BCA0, 0x1BCA3), (0x1D173, 0x1D17A), (0xE0100, 0xE01EF)]

/-- The ranges of visible characters that no name may hold, or that fold to such characters. -/
def refusedRanges : Array (Nat × Nat) := #[
  (0xA8, 0xA8), (0xAF, 0xAF), (0xB4, 0xB4), (0xB8, 0xB8), (0x2D8, 0x2DD), (0x37A, 0x37A),
  (0x384, 0x385), (0x1FBD, 0x1FBD), (0x1FBF, 0x1FC1), (0x1FCD, 0x1FCF), (0x1FDD, 0x1FDF),
  (0x1FED, 0x1FEE), (0x1FFD, 0x1FFE), (0x2017, 0x2017), (0x2024, 0x2026), (0x203E, 0x203E),
  (0x2047, 0x2049), (0x2100, 0x2101), (0x2105, 0x2106), (0x2488, 0x249B), (0x2A74, 0x2A74),
  (0x2FF0, 0x2FFF), (0x309B, 0x309C), (0x31EF, 0x31EF), (0x33C2, 0x33C2), (0x33C7, 0x33C7),
  (0x33D8, 0x33D8), (0xFC5E, 0xFC63), (0xFDFA, 0xFDFB), (0xFE12, 0xFE12), (0xFE19, 0xFE19),
  (0xFE30, 0xFE30), (0xFE49, 0xFE4C), (0xFE52, 0xFE52), (0xFE70, 0xFE70), (0xFE72, 0xFE72),
  (0xFE74, 0xFE76), (0xFE78, 0xFE78), (0xFE7A, 0xFE7A), (0xFE7C, 0xFE7C), (0xFE7E, 0xFE7E),
  (0xFFE3, 0xFFE3), (0xFFFC, 0xFFFD), (0x1F100, 0x1F100)]

/-- The ranges of characters that fold to one character after the other, beginning with the third
number; behind 26 of them, they begin again. -/
def imageRanges : Array (Nat × Nat × Nat) := #[
  (0xAA, 0xAA, 0x61), (0xB2, 0xB3, 0x32), (0xB9, 0xB9, 0x31), (0xBA, 0xBA, 0x6F),
  (0x17F, 0x17F, 0x73), (0x2B0, 0x2B0, 0x68), (0x2B2, 0x2B2, 0x6A), (0x2B3, 0x2B3, 0x72),
  (0x2B7, 0x2B7, 0x77), (0x2B8, 0x2B8, 0x79), (0x2E1, 0x2E1, 0x6C), (0x2E2, 0x2E2, 0x73),
  (0x2E3, 0x2E3, 0x78), (0x345, 0x345, 0x3B9), (0x37E, 0x37E, 0x3B), (0xE33, 0xE33, 0xE4D),
  (0xEB3, 0xEB3, 0xECD), (0x1D2C, 0x1D2C, 0x61), (0x1D2E, 0x1D2E, 0x62), (0x1D30, 0x1D31, 0x64),
  (0x1D33, 0x1D3A, 0x67), (0x1D3C, 0x1D3C, 0x6F), (0x1D3E, 0x1D3E, 0x70), (0x1D3F, 0x1D3F, 0x72),
  (0x1D40, 0x1D41, 0x74), (0x1D42, 0x1D42, 0x77), (0x1D43, 0x1D43, 0x61), (0x1D47, 0x1D47, 0x62),
  (0x1D48, 0x1D49, 0x64), (0x1D4D, 0x1D4D, 0x67), (0x1D4F, 0x1D4F, 0x6B), (0x1D50, 0x1D50, 0x6D),
  (0x1D52, 0x1D52, 0x6F), (0x1D56, 0x1D56, 0x70), (0x1D57, 0x1D58, 0x74), (0x1D5B, 0x1D5B, 0x76),
  (0x1D62, 0x1D62, 0x69), (0x1D63, 0x1D63, 0x72), (0x1D64, 0x1D65, 0x75), (0x1D9C, 0x1D9C, 0x63),
  (0x1DA0, 0x1DA0, 0x66), (0x1DBB, 0x1DBB, 0x7A), (0x1FEF, 0x1FEF, 0x60), (0x2070, 0x2070, 0x30),
  (0x2071, 0x2071, 0x69), (0x2074, 0x2079, 0x34), (0x207A, 0x207A, 0x2B), (0x207C, 0x207C, 0x3D),
  (0x207D, 0x207E, 0x28), (0x207F, 0x207F, 0x6E), (0x2080, 0x2089, 0x30), (0x208A, 0x208A, 0x2B),
  (0x208C, 0x208C, 0x3D), (0x208D, 0x208E, 0x28), (0x2090, 0x2090, 0x61), (0x2091, 0x2091, 0x65),
  (0x2092, 0x2092, 0x6F), (0x2093, 0x2093, 0x78), (0x2095, 0x2095, 0x68), (0x2096, 0x2099, 0x6B),
  (0x209A, 0x209A, 0x70), (0x209B, 0x209C, 0x73), (0x2102, 0x2102, 0x63), (0x210A, 0x210B, 0x67),
  (0x210C, 0x210C, 0x68), (0x210D, 0x210D, 0x68), (0x210E, 0x210E, 0x68), (0x2110, 0x2110, 0x69),
  (0x2111, 0x2111, 0x69), (0x2112, 0x2112, 0x6C), (0x2113, 0x2113, 0x6C), (0x2115, 0x2115, 0x6E),
  (0x2119, 0x211B, 0x70), (0x211C, 0x211C, 0x72), (0x211D, 0x211D, 0x72), (0x2124, 0x2124, 0x7A),
  (0x2128, 0x2128, 0x7A), (0x212A, 0x212A, 0x6B), (0x212C, 0x212D, 0x62), (0x212F, 0x212F, 0x65),
  (0x2130, 0x2131, 0x65), (0x2133, 0x2133, 0x6D), (0x2134, 0x2134, 0x6F), (0x2135, 0x2138, 0x5D0),
  (0x2139, 0x2139, 0x69), (0x2145, 0x2145, 0x64), (0x2146, 0x2147, 0x64), (0x2148, 0x2149, 0x69),
  (0x2160, 0x2160, 0x69), (0x2164, 0x2164, 0x76), (0x2169, 0x2169, 0x78), (0x216C, 0x216C, 0x6C),
  (0x216D, 0x216E, 0x63), (0x216F, 0x216F, 0x6D), (0x2170, 0x2170, 0x69), (0x2174, 0x2174, 0x76),
  (0x2179, 0x2179, 0x78), (0x217C, 0x217C, 0x6C), (0x217D, 0x217E, 0x63), (0x217F, 0x217F, 0x6D),
  (0x2460, 0x2468, 0x31), (0x24B6, 0x24E9, 0x61), (0x24EA, 0x24EA, 0x30), (0x2C7C, 0x2C7C, 0x6A),
  (0x2C7D, 0x2C7D, 0x76), (0x3002, 0x3002, 0x2E), (0xA7F1, 0xA7F1, 0x73), (0xA7F2, 0xA7F2, 0x63),
  (0xA7F3, 0xA7F3, 0x66), (0xA7F4, 0xA7F4, 0x71), (0xFB29, 0xFB29, 0x2B), (0xFE10, 0xFE10, 0x2C),
  (0xFE13, 0xFE14, 0x3A), (0xFE15, 0xFE15, 0x21), (0xFE16, 0xFE16, 0x3F), (0xFE33, 0xFE33, 0x5F),
  (0xFE34, 0xFE34, 0x5F), (0xFE35, 0xFE36, 0x28), (0xFE37, 0xFE37, 0x7B), (0xFE38, 0xFE38, 0x7D),
  (0xFE47, 0xFE47, 0x5B), (0xFE48, 0xFE48, 0x5D), (0xFE4D, 0xFE4D, 0x5F), (0xFE4E, 0xFE4E, 0x5F),
  (0xFE4F, 0xFE4F, 0x5F), (0xFE50, 0xFE50, 0x2C), (0xFE54, 0xFE54, 0x3B), (0xFE55, 0xFE55, 0x3A),
  (0xFE56, 0xFE56, 0x3F), (0xFE57, 0xFE57, 0x21), (0xFE59, 0xFE5A, 0x28), (0xFE5B, 0xFE5B, 0x7B),
  (0xFE5C, 0xFE5C, 0x7D), (0xFE5F, 0xFE5F, 0x23), (0xFE60, 0xFE60, 0x26), (0xFE61, 0xFE62, 0x2A),
  (0xFE63, 0xFE63, 0x2D), (0xFE64, 0xFE64, 0x3C), (0xFE65, 0xFE65, 0x3E), (0xFE66, 0xFE66, 0x3D),
  (0xFE68, 0xFE68, 0x5C), (0xFE69, 0xFE6A, 0x24), (0xFE6B, 0xFE6B, 0x40), (0xFF01, 0xFF1A, 0x21),
  (0xFF1B, 0xFF20, 0x3B), (0xFF21, 0xFF3A, 0x61), (0xFF3B, 0xFF54, 0x5B), (0xFF55, 0xFF5E, 0x75),
  (0xFF61, 0xFF61, 0x2E), (0xFF9E, 0xFF9F, 0x3099), (0x107A5, 0x107A5, 0x71),
  (0x1CCD6, 0x1CCEF, 0x61), (0x1CCF0, 0x1CCF9, 0x30), (0x1D400, 0x1D6A3, 0x61),
  (0x1D7CE, 0x1D7D7, 0x30), (0x1D7D8, 0x1D7E1, 0x30), (0x1D7E2, 0x1D7EB, 0x30),
  (0x1D7EC, 0x1D7F5, 0x30), (0x1D7F6, 0x1D7FF, 0x30), (0x1F12B, 0x1F12B, 0x63),
  (0x1F12C, 0x1F12C, 0x72), (0x1F130, 0x1F149, 0x61), (0x1FBF0, 0x1FBF9, 0x30)]

/-- The ranges of enclosed numbers, and the first number of each. -/
def numberRanges : Array (Nat × Nat × Nat) := #[
  (0x2469, 0x2473, 10), (0x3251, 0x325F, 21), (0x32B1, 0x32BF, 36)]

/-- The ranges of further characters that fold to others, and the distance from one to the next. -/
def foldedRanges : Array (Nat × Nat × Nat) := #[
  (0xB5, 0xB5, 1), (0xBC, 0xDE, 2), (0xBD, 0xBE, 1), (0xC1, 0xD6, 1), (0xD9, 0xDE, 1),
  (0x100, 0x136, 2), (0x133, 0x134, 1), (0x139, 0x149, 2), (0x140, 0x141, 1), (0x14A, 0x178, 2),
  (0x179, 0x181, 2), (0x182, 0x186, 2), (0x187, 0x18B, 2), (0x18A, 0x18B, 1), (0x18E, 0x191, 1),
  (0x193, 0x194, 1), (0x196, 0x198, 1), (0x19C, 0x19D, 1), (0x19F, 0x1A0, 1), (0x1A2, 0x1A6, 2),
  (0x1A7, 0x1A7, 1), (0x1A9, 0x1A9, 1), (0x1AC, 0x1AC, 1), (0x1AE, 0x1AF, 1), (0x1B1, 0x1B3, 1),
  (0x1B5, 0x1B5, 1), (0x1B7, 0x1B8, 1), (0x1BC, 0x1BC, 1), (0x1C4, 0x1CD, 1), (0x1CF, 0x1DB, 2),
  (0x1DE, 0x1EE, 2), (0x1F1, 0x1F4, 1), (0x1F6, 0x232, 2), (0x1F7, 0x1F8, 1), (0x23A, 0x23B, 1),
  (0x23D, 0x23E, 1), (0x241, 0x245, 2), (0x244, 0x24E, 2), (0x2B1, 0x2B6, 1), (0x2E0, 0x2E4, 1),
  (0x340, 0x341, 1), (0x343, 0x344, 1), (0x370, 0x376, 2), (0x37F, 0x3AB, 2), (0x386, 0x38F, 1),
  (0x392, 0x3AB, 1), (0x3CF, 0x3D6, 1), (0x3D8, 0x3F4, 2), (0x3F1, 0x3F2, 1), (0x3F5, 0x3F9, 2),
  (0x3FA, 0x3FA, 1), (0x3FD, 0x42F, 1), (0x460, 0x480, 2), (0x48A, 0x4C0, 2), (0x4C1, 0x4CD, 2),
  (0x4D0, 0x556, 2), (0x531, 0x556, 1), (0x587, 0x587, 1), (0x675, 0x678, 1), (0x958, 0x95F, 1),
  (0x9DC, 0x9DF, 1), (0xA33, 0xA33, 1), (0xA36, 0xA36, 1), (0xA59, 0xA5B, 1), (0xA5E, 0xA5E, 1),
  (0xB5C, 0xB5D, 1), (0xEDC, 0xEDD, 1), (0xF0C, 0xF0C, 1), (0xF43, 0xF43, 1), (0xF4D, 0xF4D, 1),
  (0xF52, 0xF52, 1), (0xF57, 0xF57, 1), (0xF5C, 0xF5C, 1), (0xF69, 0xF69, 1), (0xF73, 0xF79, 2),
  (0xF76, 0xF79, 1), (0xF81, 0xF81, 1), (0xF93, 0xF93, 1), (0xF9D, 0xF9D, 1), (0xFA2, 0xFA2, 1),
  (0xFA7, 0xFA7, 1), (0xFAC, 0xFAC, 1), (0xFB9, 0xFB9, 1), (0x10A0, 0x10CD, 1), (0x10FC, 0x10FC, 1),
  (0x13F8, 0x13FD, 1), (0x1C80, 0x1C89, 1), (0x1C90, 0x1CBF, 1), (0x1D2D, 0x1D2D, 1),
  (0x1D32, 0x1D4C, 2), (0x1D3D, 0x1D69, 2), (0x1D54, 0x1D6A, 1), (0x1D78, 0x1D78, 1),
  (0x1D9B, 0x1DBF, 1), (0x1E00, 0x1E94, 2), (0x1E9A, 0x1E9B, 1), (0x1E9E, 0x1EFE, 2),
  (0x1F08, 0x1F0F, 1), (0x1F18, 0x1F1D, 1), (0x1F28, 0x1F2F, 1), (0x1F38, 0x1F3F, 1),
  (0x1F48, 0x1F4D, 1), (0x1F59, 0x1F5F, 1), (0x1F68, 0x1F6F, 1), (0x1F71, 0x1FAF, 2),
  (0x1F80, 0x1FAF, 1), (0x1FB2, 0x1FB4, 1), (0x1FB7, 0x1FC4, 1), (0x1FC7, 0x1FCC, 1),
  (0x1FD3, 0x1FD3, 1), (0x1FD8, 0x1FDB, 1), (0x1FE3, 0x1FE3, 1), (0x1FE8, 0x1FF4, 1),
  (0x1FF7, 0x1FFC, 1), (0x2011, 0x2011, 1), (0x2033, 0x2034, 1), (0x2036, 0x2037, 1),
  (0x203C, 0x203C, 1), (0x2057, 0x2057, 1), (0x207B, 0x2094, 1), (0x20A8, 0x20A8, 1),
  (0x2103, 0x210F, 2), (0x2116, 0x2116, 1), (0x2120, 0x2122, 1), (0x2126, 0x2126, 1),
  (0x212B, 0x213F, 2), (0x2132, 0x2132, 1), (0x213C, 0x2140, 1), (0x2150, 0x217B, 1),
  (0x2183, 0x2183, 1), (0x2189, 0x2189, 1), (0x222C, 0x222D, 1), (0x222F, 0x2230, 1),
  (0x2329, 0x232A, 1), (0x2474, 0x24B5, 1), (0x2A0C, 0x2A0C, 1), (0x2A75, 0x2A76, 1),
  (0x2ADC, 0x2ADC, 1), (0x2C00, 0x2C2F, 1), (0x2C60, 0x2C64, 2), (0x2C63, 0x2C64, 1),
  (0x2C67, 0x2C6F, 2), (0x2C6E, 0x2C70, 1), (0x2C72, 0x2C72, 1), (0x2C75, 0x2C75, 1),
  (0x2C7E, 0x2CE2, 2), (0x2C7F, 0x2C80, 1), (0x2CEB, 0x2CEB, 1), (0x2CED, 0x2CED, 1),
  (0x2CF2, 0x2CF2, 1), (0x2D6F, 0x2D6F, 1), (0x2E9F, 0x2E9F, 1), (0x2EF3, 0x2FD5, 1),
  (0x3036, 0x303A, 2), (0x3039, 0x303A, 1), (0x309F, 0x309F, 1), (0x30FF, 0x30FF, 1),
  (0x3131, 0x318E, 1), (0x3192, 0x319F, 1), (0x3200, 0x3247, 1), (0x3250, 0x33FE, 2),
  (0x3261, 0x327E, 1), (0x3281, 0x33FF, 1), (0xA640, 0xA66C, 2), (0xA680, 0xA69C, 2),
  (0xA69D, 0xA69D, 1), (0xA722, 0xA72E, 2), (0xA732, 0xA770, 2), (0xA779, 0xA77D, 2),
  (0xA77E, 0xA786, 2), (0xA78B, 0xA78B, 1), (0xA78D, 0xA78D, 1), (0xA790, 0xA790, 1),
  (0xA792, 0xA792, 1), (0xA796, 0xA7C6, 2), (0xA7AB, 0xA7AE, 1), (0xA7B1, 0xA7B4, 1),
  (0xA7C5, 0xA7C7, 1), (0xA7C9, 0xA7C9, 1), (0xA7CB, 0xA7CC, 1), (0xA7CE, 0xA7DC, 2),
  (0xA7F5, 0xA7F5, 1), (0xA7F8, 0xA7F9, 1), (0xAB5C, 0xAB5F, 1), (0xAB69, 0xAB69, 1),
  (0xAB70, 0xABBF, 1), (0xF900, 0xFA0D, 1), (0xFA10, 0xFA10, 1), (0xFA12, 0xFA12, 1),
  (0xFA15, 0xFA1E, 1), (0xFA20, 0xFA20, 1), (0xFA22, 0xFA22, 1), (0xFA25, 0xFA26, 1),
  (0xFA2A, 0xFB1D, 1), (0xFB1F, 0xFBB1, 1), (0xFBD3, 0xFD3D, 1), (0xFD50, 0xFD8F, 1),
  (0xFD92, 0xFDC7, 1), (0xFDF0, 0xFDFC, 1), (0xFE11, 0xFE18, 1), (0xFE31, 0xFE44, 1),
  (0xFE51, 0xFE71, 1), (0xFE77, 0xFEFC, 1), (0xFF5F, 0xFFEE, 1), (0x10400, 0x10427, 1),
  (0x104B0, 0x104D3, 1), (0x10570, 0x10595, 1), (0x10781, 0x107BA, 1), (0x10C80, 0x10CB2, 1),
  (0x10D50, 0x10D65, 1), (0x118A0, 0x118BF, 1), (0x16E40, 0x16E5F, 1), (0x16EA0, 0x16EB8, 1),
  (0x1D15E, 0x1D164, 1), (0x1D1BB, 0x1D1C0, 1), (0x1D6A4, 0x1D7CB, 1), (0x1E030, 0x1E06D, 1),
  (0x1E900, 0x1E921, 1), (0x1EE00, 0x1EEBB, 1), (0x1F101, 0x1F10A, 1), (0x1F110, 0x1F12E, 1),
  (0x1F14A, 0x1F14F, 1), (0x1F16A, 0x1F16C, 1), (0x1F190, 0x1F190, 1), (0x1F200, 0x1F251, 1),
  (0x2F800, 0x2FA1D, 1)]

/-- The number of a character that is the image of another: the first image, and how far the
character is behind the first one of its range. -/
def image? (point : Nat) : Option Nat :=
  (imageRanges.find? fun (first, last, _) => first ≤ point && point ≤ last).map
    fun (first, _, image) => image + (point - first) % 26

/-- The number that an enclosed number shows. -/
def enclosedNumber? (point : Nat) : Option Nat :=
  (numberRanges.find? fun (first, last, _) => first ≤ point && point ≤ last).map
    fun (first, _, number) => number + (point - first)

/-- What a character of a name folds to, unless no name may hold it. -/
def fold? (symbol : Char) : Option (List Char) :=
  let point := symbol.toNat
  if point < 0x80 then some [symbol.toLower]
  else if isJoiner symbol then some [symbol]
  else if Text.inRanges droppedRanges point then some []
  else if Text.inRanges Text.hiddenRanges point || Text.inRanges refusedRanges point then none
  else match image? point, enclosedNumber? point with
    | some image, _ => some [Char.ofNat image]
    | none, some number => some (Nat.toDigits 10 number)
    | none, none => some [symbol]

/-- A character outside ASCII that may stand in a folded name. -/
def isFolded (symbol : Char) : Bool :=
  let point := symbol.toNat
  fold? symbol == some [symbol] &&
    !foldedRanges.any fun (first, last, distance) =>
      first ≤ point && point ≤ last && (point - first) % distance == 0

end EventCorrelation.Host
