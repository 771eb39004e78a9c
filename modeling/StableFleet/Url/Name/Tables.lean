import StableFleet.Text.CodeRange

/-!
# Characters of host names

Data of the standard for international host names: which code points above ASCII
a name may not have, which count for nothing, and which stand for one ASCII
character. All others stand for themselves, or for others above ASCII. Joiners
are among the refused; so are spaces, signs made of forbidden characters, code
points for private use and those that are no characters.
-/

namespace StableFleet.Url.Name

open Text (CodeRange)

/-- The code points above ASCII that no name has. -/
def refusedCodes : List CodeRange := [
  ⟨0x80, 0xA0, 1⟩, ⟨0xA8, 0xA8, 1⟩, ⟨0xAF, 0xAF, 1⟩, ⟨0xB4, 0xB4, 1⟩, ⟨0xB8, 0xB8, 1⟩,
  ⟨0x2D8, 0x2DD, 1⟩, ⟨0x37A, 0x37A, 1⟩, ⟨0x384, 0x385, 1⟩, ⟨0x600, 0x605, 1⟩, ⟨0x61C, 0x61C, 1⟩,
  ⟨0x6DD, 0x6DD, 1⟩, ⟨0x70F, 0x70F, 1⟩, ⟨0x890, 0x891, 1⟩, ⟨0x8E2, 0x8E2, 1⟩, ⟨0x115F, 0x1160, 1⟩,
  ⟨0x1680, 0x1680, 1⟩, ⟨0x17B4, 0x17B5, 1⟩, ⟨0x1806, 0x1806, 1⟩, ⟨0x180E, 0x180E, 1⟩,
  ⟨0x1FBD, 0x1FBD, 1⟩, ⟨0x1FBF, 0x1FC1, 1⟩, ⟨0x1FCD, 0x1FCF, 1⟩, ⟨0x1FDD, 0x1FDF, 1⟩,
  ⟨0x1FED, 0x1FEE, 1⟩, ⟨0x1FFD, 0x1FFE, 1⟩, ⟨0x2000, 0x200A, 1⟩, ⟨0x200C, 0x200F, 1⟩,
  ⟨0x2017, 0x2017, 1⟩, ⟨0x2024, 0x2026, 1⟩, ⟨0x2028, 0x202F, 1⟩, ⟨0x203E, 0x203E, 1⟩,
  ⟨0x2047, 0x2049, 1⟩, ⟨0x205F, 0x205F, 1⟩, ⟨0x2061, 0x2063, 1⟩, ⟨0x2066, 0x206F, 1⟩,
  ⟨0x2100, 0x2101, 1⟩, ⟨0x2105, 0x2106, 1⟩, ⟨0x2488, 0x249B, 1⟩, ⟨0x2A74, 0x2A74, 1⟩,
  ⟨0x2FF0, 0x2FFB, 1⟩, ⟨0x3000, 0x3000, 1⟩, ⟨0x309B, 0x309C, 1⟩, ⟨0x3164, 0x3164, 1⟩,
  ⟨0x33C2, 0x33C2, 1⟩, ⟨0x33C7, 0x33C7, 1⟩, ⟨0x33D8, 0x33D8, 1⟩, ⟨0xE000, 0xF8FF, 1⟩,
  ⟨0xFC5E, 0xFC63, 1⟩, ⟨0xFDD0, 0xFDEF, 1⟩, ⟨0xFDFA, 0xFDFB, 1⟩, ⟨0xFE12, 0xFE13, 1⟩,
  ⟨0xFE16, 0xFE16, 1⟩, ⟨0xFE19, 0xFE19, 1⟩, ⟨0xFE30, 0xFE30, 1⟩, ⟨0xFE47, 0xFE4C, 1⟩,
  ⟨0xFE52, 0xFE52, 1⟩, ⟨0xFE55, 0xFE56, 1⟩, ⟨0xFE5F, 0xFE5F, 1⟩, ⟨0xFE64, 0xFE65, 1⟩,
  ⟨0xFE68, 0xFE68, 1⟩, ⟨0xFE6A, 0xFE6B, 1⟩, ⟨0xFE70, 0xFE7E, 2⟩, ⟨0xFF03, 0xFF05, 2⟩,
  ⟨0xFF0F, 0xFF0F, 1⟩, ⟨0xFF1A, 0xFF1E, 2⟩, ⟨0xFF1F, 0xFF20, 1⟩, ⟨0xFF3B, 0xFF3E, 1⟩,
  ⟨0xFF5C, 0xFF5C, 1⟩, ⟨0xFFA0, 0xFFA0, 1⟩, ⟨0xFFE3, 0xFFE3, 1⟩, ⟨0xFFF9, 0xFFFF, 1⟩,
  ⟨0x110BD, 0x110BD, 1⟩, ⟨0x110CD, 0x110CD, 1⟩, ⟨0x13430, 0x13438, 1⟩, ⟨0x1D173, 0x1D17A, 1⟩,
  ⟨0x1F100, 0x1F100, 1⟩, ⟨0x1FFFE, 0x1FFFF, 1⟩, ⟨0x2F868, 0x2F868, 1⟩, ⟨0x2F874, 0x2F874, 1⟩,
  ⟨0x2F91F, 0x2F91F, 1⟩, ⟨0x2F95F, 0x2F95F, 1⟩, ⟨0x2F9BF, 0x2F9BF, 1⟩, ⟨0x2FFFE, 0x2FFFF, 1⟩,
  ⟨0x3FFFE, 0xE00FF, 1⟩, ⟨0xE01F0, 0x10FFFF, 1⟩]

/-- The code points that count for nothing. -/
def ignoredCodes : List CodeRange := [
  ⟨0xAD, 0xAD, 1⟩, ⟨0x34F, 0x34F, 1⟩, ⟨0x180B, 0x180D, 1⟩, ⟨0x180F, 0x180F, 1⟩,
  ⟨0x200B, 0x200B, 1⟩, ⟨0x2060, 0x2060, 1⟩, ⟨0x2064, 0x2064, 1⟩, ⟨0xFE00, 0xFE0F, 1⟩,
  ⟨0xFEFF, 0xFEFF, 1⟩, ⟨0x1BCA0, 0x1BCA3, 1⟩, ⟨0xE0100, 0xE01EF, 1⟩]

/-- Runs of code points that stand for one ASCII character each, with what the
first of each run stands for. -/
def plainForms : List (CodeRange × Nat) := [
  (⟨0xAA, 0xAA, 1⟩, 0x61), (⟨0xB2, 0xB3, 1⟩, 0x32), (⟨0xB9, 0xB9, 1⟩, 0x31),
  (⟨0xBA, 0xBA, 1⟩, 0x6F), (⟨0x17F, 0x17F, 1⟩, 0x73), (⟨0x2B0, 0x2B0, 1⟩, 0x68),
  (⟨0x2B2, 0x2B2, 1⟩, 0x6A), (⟨0x2B3, 0x2B3, 1⟩, 0x72), (⟨0x2B7, 0x2B7, 1⟩, 0x77),
  (⟨0x2B8, 0x2B8, 1⟩, 0x79), (⟨0x2E1, 0x2E1, 1⟩, 0x6C), (⟨0x2E2, 0x2E2, 1⟩, 0x73),
  (⟨0x2E3, 0x2E3, 1⟩, 0x78), (⟨0x37E, 0x37E, 1⟩, 0x3B), (⟨0x1D2C, 0x1D2C, 1⟩, 0x61),
  (⟨0x1D2E, 0x1D2E, 1⟩, 0x62), (⟨0x1D30, 0x1D31, 1⟩, 0x64), (⟨0x1D33, 0x1D3A, 1⟩, 0x67),
  (⟨0x1D3C, 0x1D3C, 1⟩, 0x6F), (⟨0x1D3E, 0x1D3E, 1⟩, 0x70), (⟨0x1D3F, 0x1D3F, 1⟩, 0x72),
  (⟨0x1D40, 0x1D41, 1⟩, 0x74), (⟨0x1D42, 0x1D42, 1⟩, 0x77), (⟨0x1D43, 0x1D43, 1⟩, 0x61),
  (⟨0x1D47, 0x1D47, 1⟩, 0x62), (⟨0x1D48, 0x1D49, 1⟩, 0x64), (⟨0x1D4D, 0x1D4D, 1⟩, 0x67),
  (⟨0x1D4F, 0x1D4F, 1⟩, 0x6B), (⟨0x1D50, 0x1D50, 1⟩, 0x6D), (⟨0x1D52, 0x1D52, 1⟩, 0x6F),
  (⟨0x1D56, 0x1D56, 1⟩, 0x70), (⟨0x1D57, 0x1D58, 1⟩, 0x74), (⟨0x1D5B, 0x1D5B, 1⟩, 0x76),
  (⟨0x1D62, 0x1D62, 1⟩, 0x69), (⟨0x1D63, 0x1D63, 1⟩, 0x72), (⟨0x1D64, 0x1D65, 1⟩, 0x75),
  (⟨0x1D9C, 0x1D9C, 1⟩, 0x63), (⟨0x1DA0, 0x1DA0, 1⟩, 0x66), (⟨0x1DBB, 0x1DBB, 1⟩, 0x7A),
  (⟨0x1FEF, 0x1FEF, 1⟩, 0x60), (⟨0x2070, 0x2070, 1⟩, 0x30), (⟨0x2071, 0x2071, 1⟩, 0x69),
  (⟨0x2074, 0x2079, 1⟩, 0x34), (⟨0x207A, 0x207A, 1⟩, 0x2B), (⟨0x207C, 0x207C, 1⟩, 0x3D),
  (⟨0x207D, 0x207E, 1⟩, 0x28), (⟨0x207F, 0x207F, 1⟩, 0x6E), (⟨0x2080, 0x2089, 1⟩, 0x30),
  (⟨0x208A, 0x208A, 1⟩, 0x2B), (⟨0x208C, 0x208C, 1⟩, 0x3D), (⟨0x208D, 0x208E, 1⟩, 0x28),
  (⟨0x2090, 0x2090, 1⟩, 0x61), (⟨0x2091, 0x2091, 1⟩, 0x65), (⟨0x2092, 0x2092, 1⟩, 0x6F),
  (⟨0x2093, 0x2093, 1⟩, 0x78), (⟨0x2095, 0x2095, 1⟩, 0x68), (⟨0x2096, 0x2099, 1⟩, 0x6B),
  (⟨0x209A, 0x209A, 1⟩, 0x70), (⟨0x209B, 0x209C, 1⟩, 0x73), (⟨0x2102, 0x2102, 1⟩, 0x63),
  (⟨0x210A, 0x210B, 1⟩, 0x67), (⟨0x210C, 0x210C, 1⟩, 0x68), (⟨0x210D, 0x210D, 1⟩, 0x68),
  (⟨0x210E, 0x210E, 1⟩, 0x68), (⟨0x2110, 0x2110, 1⟩, 0x69), (⟨0x2111, 0x2111, 1⟩, 0x69),
  (⟨0x2112, 0x2112, 1⟩, 0x6C), (⟨0x2113, 0x2113, 1⟩, 0x6C), (⟨0x2115, 0x2115, 1⟩, 0x6E),
  (⟨0x2119, 0x211B, 1⟩, 0x70), (⟨0x211C, 0x211C, 1⟩, 0x72), (⟨0x211D, 0x211D, 1⟩, 0x72),
  (⟨0x2124, 0x2124, 1⟩, 0x7A), (⟨0x2128, 0x2128, 1⟩, 0x7A), (⟨0x212A, 0x212A, 1⟩, 0x6B),
  (⟨0x212C, 0x212D, 1⟩, 0x62), (⟨0x212F, 0x212F, 1⟩, 0x65), (⟨0x2130, 0x2131, 1⟩, 0x65),
  (⟨0x2133, 0x2133, 1⟩, 0x6D), (⟨0x2134, 0x2134, 1⟩, 0x6F), (⟨0x2139, 0x2139, 1⟩, 0x69),
  (⟨0x2145, 0x2145, 1⟩, 0x64), (⟨0x2146, 0x2147, 1⟩, 0x64), (⟨0x2148, 0x2149, 1⟩, 0x69),
  (⟨0x2160, 0x2160, 1⟩, 0x69), (⟨0x2164, 0x2164, 1⟩, 0x76), (⟨0x2169, 0x2169, 1⟩, 0x78),
  (⟨0x216C, 0x216C, 1⟩, 0x6C), (⟨0x216D, 0x216E, 1⟩, 0x63), (⟨0x216F, 0x216F, 1⟩, 0x6D),
  (⟨0x2170, 0x2170, 1⟩, 0x69), (⟨0x2174, 0x2174, 1⟩, 0x76), (⟨0x2179, 0x2179, 1⟩, 0x78),
  (⟨0x217C, 0x217C, 1⟩, 0x6C), (⟨0x217D, 0x217E, 1⟩, 0x63), (⟨0x217F, 0x217F, 1⟩, 0x6D),
  (⟨0x2460, 0x2468, 1⟩, 0x31), (⟨0x24B6, 0x24CF, 1⟩, 0x61), (⟨0x24D0, 0x24E9, 1⟩, 0x61),
  (⟨0x24EA, 0x24EA, 1⟩, 0x30), (⟨0x2C7C, 0x2C7C, 1⟩, 0x6A), (⟨0x2C7D, 0x2C7D, 1⟩, 0x76),
  (⟨0x3002, 0x3002, 1⟩, 0x2E), (⟨0xA7F2, 0xA7F2, 1⟩, 0x63), (⟨0xA7F3, 0xA7F3, 1⟩, 0x66),
  (⟨0xA7F4, 0xA7F4, 1⟩, 0x71), (⟨0xFB29, 0xFB29, 1⟩, 0x2B), (⟨0xFE10, 0xFE10, 1⟩, 0x2C),
  (⟨0xFE14, 0xFE14, 1⟩, 0x3B), (⟨0xFE15, 0xFE15, 1⟩, 0x21), (⟨0xFE33, 0xFE33, 1⟩, 0x5F),
  (⟨0xFE34, 0xFE34, 1⟩, 0x5F), (⟨0xFE35, 0xFE36, 1⟩, 0x28), (⟨0xFE37, 0xFE37, 1⟩, 0x7B),
  (⟨0xFE38, 0xFE38, 1⟩, 0x7D), (⟨0xFE4D, 0xFE4D, 1⟩, 0x5F), (⟨0xFE4E, 0xFE4E, 1⟩, 0x5F),
  (⟨0xFE4F, 0xFE4F, 1⟩, 0x5F), (⟨0xFE50, 0xFE50, 1⟩, 0x2C), (⟨0xFE54, 0xFE54, 1⟩, 0x3B),
  (⟨0xFE57, 0xFE57, 1⟩, 0x21), (⟨0xFE59, 0xFE5A, 1⟩, 0x28), (⟨0xFE5B, 0xFE5B, 1⟩, 0x7B),
  (⟨0xFE5C, 0xFE5C, 1⟩, 0x7D), (⟨0xFE60, 0xFE60, 1⟩, 0x26), (⟨0xFE61, 0xFE62, 1⟩, 0x2A),
  (⟨0xFE63, 0xFE63, 1⟩, 0x2D), (⟨0xFE66, 0xFE66, 1⟩, 0x3D), (⟨0xFE69, 0xFE69, 1⟩, 0x24),
  (⟨0xFF01, 0xFF02, 1⟩, 0x21), (⟨0xFF04, 0xFF04, 1⟩, 0x24), (⟨0xFF06, 0xFF0E, 1⟩, 0x26),
  (⟨0xFF10, 0xFF19, 1⟩, 0x30), (⟨0xFF1B, 0xFF1B, 1⟩, 0x3B), (⟨0xFF1D, 0xFF1D, 1⟩, 0x3D),
  (⟨0xFF21, 0xFF3A, 1⟩, 0x61), (⟨0xFF3F, 0xFF5B, 1⟩, 0x5F), (⟨0xFF5D, 0xFF5E, 1⟩, 0x7D),
  (⟨0xFF61, 0xFF61, 1⟩, 0x2E), (⟨0x107A5, 0x107A5, 1⟩, 0x71), (⟨0x1D400, 0x1D419, 1⟩, 0x61),
  (⟨0x1D41A, 0x1D433, 1⟩, 0x61), (⟨0x1D434, 0x1D44D, 1⟩, 0x61), (⟨0x1D44E, 0x1D454, 1⟩, 0x61),
  (⟨0x1D456, 0x1D467, 1⟩, 0x69), (⟨0x1D468, 0x1D481, 1⟩, 0x61), (⟨0x1D482, 0x1D49B, 1⟩, 0x61),
  (⟨0x1D49C, 0x1D49C, 1⟩, 0x61), (⟨0x1D49E, 0x1D49F, 1⟩, 0x63), (⟨0x1D4A2, 0x1D4A2, 1⟩, 0x67),
  (⟨0x1D4A5, 0x1D4A6, 1⟩, 0x6A), (⟨0x1D4A9, 0x1D4AC, 1⟩, 0x6E), (⟨0x1D4AE, 0x1D4B5, 1⟩, 0x73),
  (⟨0x1D4B6, 0x1D4B9, 1⟩, 0x61), (⟨0x1D4BB, 0x1D4BB, 1⟩, 0x66), (⟨0x1D4BD, 0x1D4C3, 1⟩, 0x68),
  (⟨0x1D4C5, 0x1D4CF, 1⟩, 0x70), (⟨0x1D4D0, 0x1D4E9, 1⟩, 0x61), (⟨0x1D4EA, 0x1D503, 1⟩, 0x61),
  (⟨0x1D504, 0x1D505, 1⟩, 0x61), (⟨0x1D507, 0x1D50A, 1⟩, 0x64), (⟨0x1D50D, 0x1D514, 1⟩, 0x6A),
  (⟨0x1D516, 0x1D51C, 1⟩, 0x73), (⟨0x1D51E, 0x1D537, 1⟩, 0x61), (⟨0x1D538, 0x1D539, 1⟩, 0x61),
  (⟨0x1D53B, 0x1D53E, 1⟩, 0x64), (⟨0x1D540, 0x1D544, 1⟩, 0x69), (⟨0x1D546, 0x1D546, 1⟩, 0x6F),
  (⟨0x1D54A, 0x1D550, 1⟩, 0x73), (⟨0x1D552, 0x1D56B, 1⟩, 0x61), (⟨0x1D56C, 0x1D585, 1⟩, 0x61),
  (⟨0x1D586, 0x1D59F, 1⟩, 0x61), (⟨0x1D5A0, 0x1D5B9, 1⟩, 0x61), (⟨0x1D5BA, 0x1D5D3, 1⟩, 0x61),
  (⟨0x1D5D4, 0x1D5ED, 1⟩, 0x61), (⟨0x1D5EE, 0x1D607, 1⟩, 0x61), (⟨0x1D608, 0x1D621, 1⟩, 0x61),
  (⟨0x1D622, 0x1D63B, 1⟩, 0x61), (⟨0x1D63C, 0x1D655, 1⟩, 0x61), (⟨0x1D656, 0x1D66F, 1⟩, 0x61),
  (⟨0x1D670, 0x1D689, 1⟩, 0x61), (⟨0x1D68A, 0x1D6A3, 1⟩, 0x61), (⟨0x1D7CE, 0x1D7D7, 1⟩, 0x30),
  (⟨0x1D7D8, 0x1D7E1, 1⟩, 0x30), (⟨0x1D7E2, 0x1D7EB, 1⟩, 0x30), (⟨0x1D7EC, 0x1D7F5, 1⟩, 0x30),
  (⟨0x1D7F6, 0x1D7FF, 1⟩, 0x30), (⟨0x1F12B, 0x1F12B, 1⟩, 0x63), (⟨0x1F12C, 0x1F12C, 1⟩, 0x72),
  (⟨0x1F130, 0x1F149, 1⟩, 0x61), (⟨0x1FBF0, 0x1FBF9, 1⟩, 0x30)]

end StableFleet.Url.Name
