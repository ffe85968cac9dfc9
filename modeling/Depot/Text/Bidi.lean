
namespace Depot.Text

inductive BidiClass where
  | leftToRight
  | rightToLeft
  | arabicLetter
  | arabicNumber
  | europeanNumber
  | europeanSeparator
  | europeanTerminator
  | commonSeparator
  | otherNeutral
  | boundaryNeutral
  | nonspacingMark
  | other
  deriving DecidableEq, Repr, Inhabited

def bidiRanges : List (Nat × Nat × BidiClass) := [
  (0x0000, 0x0008, .boundaryNeutral), (0x0009, 0x000D, .other), (0x000E, 0x001B, .boundaryNeutral),
  (0x001C, 0x0020, .other), (0x0021, 0x0022, .otherNeutral), (0x0023, 0x0025, .europeanTerminator),
  (0x0026, 0x002A, .otherNeutral), (0x002B, 0x002B, .europeanSeparator), (0x002C, 0x002C, .commonSeparator),
  (0x002D, 0x002D, .europeanSeparator), (0x002E, 0x002F, .commonSeparator), (0x0030, 0x0039, .europeanNumber),
  (0x003A, 0x003A, .commonSeparator), (0x003B, 0x0040, .otherNeutral), (0x005B, 0x0060, .otherNeutral),
  (0x007B, 0x007E, .otherNeutral), (0x007F, 0x0084, .boundaryNeutral), (0x0085, 0x0085, .other),
  (0x0086, 0x009F, .boundaryNeutral), (0x00A0, 0x00A0, .commonSeparator), (0x00A1, 0x00A1, .otherNeutral),
  (0x00A2, 0x00A5, .europeanTerminator), (0x00A6, 0x00A9, .otherNeutral), (0x00AB, 0x00AC, .otherNeutral),
  (0x00AD, 0x00AD, .boundaryNeutral), (0x00AE, 0x00AF, .otherNeutral), (0x00B0, 0x00B1, .europeanTerminator),
  (0x00B2, 0x00B3, .europeanNumber), (0x00B4, 0x00B4, .otherNeutral), (0x00B6, 0x00B8, .otherNeutral),
  (0x00B9, 0x00B9, .europeanNumber), (0x00BB, 0x00BF, .otherNeutral), (0x00D7, 0x00D7, .otherNeutral),
  (0x00F7, 0x00F7, .otherNeutral), (0x02B9, 0x02BA, .otherNeutral), (0x02C2, 0x02CF, .otherNeutral),
  (0x02D2, 0x02DF, .otherNeutral), (0x02E5, 0x02ED, .otherNeutral), (0x02EF, 0x02FF, .otherNeutral),
  (0x0300, 0x036F, .nonspacingMark), (0x0374, 0x0375, .otherNeutral), (0x037E, 0x037E, .otherNeutral),
  (0x0384, 0x0385, .otherNeutral), (0x0387, 0x0387, .otherNeutral), (0x03F6, 0x03F6, .otherNeutral),
  (0x0483, 0x0489, .nonspacingMark), (0x058A, 0x058A, .otherNeutral), (0x058D, 0x058E, .otherNeutral),
  (0x058F, 0x058F, .europeanTerminator), (0x0591, 0x05BD, .nonspacingMark), (0x05BE, 0x05BE, .rightToLeft),
  (0x05BF, 0x05BF, .nonspacingMark), (0x05C0, 0x05C0, .rightToLeft), (0x05C1, 0x05C2, .nonspacingMark),
  (0x05C3, 0x05C3, .rightToLeft), (0x05C4, 0x05C5, .nonspacingMark), (0x05C6, 0x05C6, .rightToLeft),
  (0x05C7, 0x05C7, .nonspacingMark), (0x05D0, 0x05EA, .rightToLeft), (0x05EF, 0x05F4, .rightToLeft),
  (0x0600, 0x0605, .arabicNumber), (0x0606, 0x0607, .otherNeutral), (0x0608, 0x0608, .arabicLetter),
  (0x0609, 0x060A, .europeanTerminator), (0x060B, 0x060B, .arabicLetter), (0x060C, 0x060C, .commonSeparator),
  (0x060D, 0x060D, .arabicLetter), (0x060E, 0x060F, .otherNeutral), (0x0610, 0x061A, .nonspacingMark),
  (0x061B, 0x064A, .arabicLetter), (0x064B, 0x065F, .nonspacingMark), (0x0660, 0x0669, .arabicNumber),
  (0x066A, 0x066A, .europeanTerminator), (0x066B, 0x066C, .arabicNumber), (0x066D, 0x066F, .arabicLetter),
  (0x0670, 0x0670, .nonspacingMark), (0x0671, 0x06D5, .arabicLetter), (0x06D6, 0x06DC, .nonspacingMark),
  (0x06DD, 0x06DD, .arabicNumber), (0x06DE, 0x06DE, .otherNeutral), (0x06DF, 0x06E4, .nonspacingMark),
  (0x06E5, 0x06E6, .arabicLetter), (0x06E7, 0x06E8, .nonspacingMark), (0x06E9, 0x06E9, .otherNeutral),
  (0x06EA, 0x06ED, .nonspacingMark), (0x06EE, 0x06EF, .arabicLetter), (0x06F0, 0x06F9, .europeanNumber),
  (0x06FA, 0x070D, .arabicLetter), (0x070F, 0x0710, .arabicLetter), (0x0711, 0x0711, .nonspacingMark),
  (0x0712, 0x072F, .arabicLetter), (0x0730, 0x074A, .nonspacingMark), (0x074D, 0x07A5, .arabicLetter),
  (0x07A6, 0x07B0, .nonspacingMark), (0x07B1, 0x07B1, .arabicLetter), (0x07C0, 0x07EA, .rightToLeft),
  (0x07EB, 0x07F3, .nonspacingMark), (0x07F4, 0x07F5, .rightToLeft), (0x07F6, 0x07F9, .otherNeutral),
  (0x07FA, 0x07FA, .rightToLeft), (0x07FD, 0x07FD, .nonspacingMark), (0x07FE, 0x0815, .rightToLeft),
  (0x0816, 0x0819, .nonspacingMark), (0x081A, 0x081A, .rightToLeft), (0x081B, 0x0823, .nonspacingMark),
  (0x0824, 0x0824, .rightToLeft), (0x0825, 0x0827, .nonspacingMark), (0x0828, 0x0828, .rightToLeft),
  (0x0829, 0x082D, .nonspacingMark), (0x0830, 0x083E, .rightToLeft), (0x0840, 0x0858, .rightToLeft),
  (0x0859, 0x085B, .nonspacingMark), (0x085E, 0x085E, .rightToLeft), (0x0860, 0x086A, .arabicLetter),
  (0x0870, 0x088E, .arabicLetter), (0x0890, 0x0891, .arabicNumber), (0x0898, 0x089F, .nonspacingMark),
  (0x08A0, 0x08C9, .arabicLetter), (0x08CA, 0x08E1, .nonspacingMark), (0x08E2, 0x08E2, .arabicNumber),
  (0x08E3, 0x0902, .nonspacingMark), (0x093A, 0x093A, .nonspacingMark), (0x093C, 0x093C, .nonspacingMark),
  (0x0941, 0x0948, .nonspacingMark), (0x094D, 0x094D, .nonspacingMark), (0x0951, 0x0957, .nonspacingMark),
  (0x0962, 0x0963, .nonspacingMark), (0x0981, 0x0981, .nonspacingMark), (0x09BC, 0x09BC, .nonspacingMark),
  (0x09C1, 0x09C4, .nonspacingMark), (0x09CD, 0x09CD, .nonspacingMark), (0x09E2, 0x09E3, .nonspacingMark),
  (0x09F2, 0x09F3, .europeanTerminator), (0x09FB, 0x09FB, .europeanTerminator), (0x09FE, 0x09FE, .nonspacingMark),
  (0x0A01, 0x0A02, .nonspacingMark), (0x0A3C, 0x0A3C, .nonspacingMark), (0x0A41, 0x0A42, .nonspacingMark),
  (0x0A47, 0x0A48, .nonspacingMark), (0x0A4B, 0x0A4D, .nonspacingMark), (0x0A51, 0x0A51, .nonspacingMark),
  (0x0A70, 0x0A71, .nonspacingMark), (0x0A75, 0x0A75, .nonspacingMark), (0x0A81, 0x0A82, .nonspacingMark),
  (0x0ABC, 0x0ABC, .nonspacingMark), (0x0AC1, 0x0AC5, .nonspacingMark), (0x0AC7, 0x0AC8, .nonspacingMark),
  (0x0ACD, 0x0ACD, .nonspacingMark), (0x0AE2, 0x0AE3, .nonspacingMark), (0x0AF1, 0x0AF1, .europeanTerminator),
  (0x0AFA, 0x0AFF, .nonspacingMark), (0x0B01, 0x0B01, .nonspacingMark), (0x0B3C, 0x0B3C, .nonspacingMark),
  (0x0B3F, 0x0B3F, .nonspacingMark), (0x0B41, 0x0B44, .nonspacingMark), (0x0B4D, 0x0B4D, .nonspacingMark),
  (0x0B55, 0x0B56, .nonspacingMark), (0x0B62, 0x0B63, .nonspacingMark), (0x0B82, 0x0B82, .nonspacingMark),
  (0x0BC0, 0x0BC0, .nonspacingMark), (0x0BCD, 0x0BCD, .nonspacingMark), (0x0BF3, 0x0BF8, .otherNeutral),
  (0x0BF9, 0x0BF9, .europeanTerminator), (0x0BFA, 0x0BFA, .otherNeutral), (0x0C00, 0x0C00, .nonspacingMark),
  (0x0C04, 0x0C04, .nonspacingMark), (0x0C3C, 0x0C3C, .nonspacingMark), (0x0C3E, 0x0C40, .nonspacingMark),
  (0x0C46, 0x0C48, .nonspacingMark), (0x0C4A, 0x0C4D, .nonspacingMark), (0x0C55, 0x0C56, .nonspacingMark),
  (0x0C62, 0x0C63, .nonspacingMark), (0x0C78, 0x0C7E, .otherNeutral), (0x0C81, 0x0C81, .nonspacingMark),
  (0x0CBC, 0x0CBC, .nonspacingMark), (0x0CCC, 0x0CCD, .nonspacingMark), (0x0CE2, 0x0CE3, .nonspacingMark),
  (0x0D00, 0x0D01, .nonspacingMark), (0x0D3B, 0x0D3C, .nonspacingMark), (0x0D41, 0x0D44, .nonspacingMark),
  (0x0D4D, 0x0D4D, .nonspacingMark), (0x0D62, 0x0D63, .nonspacingMark), (0x0D81, 0x0D81, .nonspacingMark),
  (0x0DCA, 0x0DCA, .nonspacingMark), (0x0DD2, 0x0DD4, .nonspacingMark), (0x0DD6, 0x0DD6, .nonspacingMark),
  (0x0E31, 0x0E31, .nonspacingMark), (0x0E34, 0x0E3A, .nonspacingMark), (0x0E3F, 0x0E3F, .europeanTerminator),
  (0x0E47, 0x0E4E, .nonspacingMark), (0x0EB1, 0x0EB1, .nonspacingMark), (0x0EB4, 0x0EBC, .nonspacingMark),
  (0x0EC8, 0x0ECE, .nonspacingMark), (0x0F18, 0x0F19, .nonspacingMark), (0x0F35, 0x0F35, .nonspacingMark),
  (0x0F37, 0x0F37, .nonspacingMark), (0x0F39, 0x0F39, .nonspacingMark), (0x0F3A, 0x0F3D, .otherNeutral),
  (0x0F71, 0x0F7E, .nonspacingMark), (0x0F80, 0x0F84, .nonspacingMark), (0x0F86, 0x0F87, .nonspacingMark),
  (0x0F8D, 0x0F97, .nonspacingMark), (0x0F99, 0x0FBC, .nonspacingMark), (0x0FC6, 0x0FC6, .nonspacingMark),
  (0x102D, 0x1030, .nonspacingMark), (0x1032, 0x1037, .nonspacingMark), (0x1039, 0x103A, .nonspacingMark),
  (0x103D, 0x103E, .nonspacingMark), (0x1058, 0x1059, .nonspacingMark), (0x105E, 0x1060, .nonspacingMark),
  (0x1071, 0x1074, .nonspacingMark), (0x1082, 0x1082, .nonspacingMark), (0x1085, 0x1086, .nonspacingMark),
  (0x108D, 0x108D, .nonspacingMark), (0x109D, 0x109D, .nonspacingMark), (0x135D, 0x135F, .nonspacingMark),
  (0x1390, 0x1399, .otherNeutral), (0x1400, 0x1400, .otherNeutral), (0x1680, 0x1680, .other),
  (0x169B, 0x169C, .otherNeutral), (0x1712, 0x1714, .nonspacingMark), (0x1732, 0x1733, .nonspacingMark),
  (0x1752, 0x1753, .nonspacingMark), (0x1772, 0x1773, .nonspacingMark), (0x17B4, 0x17B5, .nonspacingMark),
  (0x17B7, 0x17BD, .nonspacingMark), (0x17C6, 0x17C6, .nonspacingMark), (0x17C9, 0x17D3, .nonspacingMark),
  (0x17DB, 0x17DB, .europeanTerminator), (0x17DD, 0x17DD, .nonspacingMark), (0x17F0, 0x17F9, .otherNeutral),
  (0x1800, 0x180A, .otherNeutral), (0x180B, 0x180D, .nonspacingMark), (0x180E, 0x180E, .boundaryNeutral),
  (0x180F, 0x180F, .nonspacingMark), (0x1885, 0x1886, .nonspacingMark), (0x18A9, 0x18A9, .nonspacingMark),
  (0x1920, 0x1922, .nonspacingMark), (0x1927, 0x1928, .nonspacingMark), (0x1932, 0x1932, .nonspacingMark),
  (0x1939, 0x193B, .nonspacingMark), (0x1940, 0x1940, .otherNeutral), (0x1944, 0x1945, .otherNeutral),
  (0x19DE, 0x19FF, .otherNeutral), (0x1A17, 0x1A18, .nonspacingMark), (0x1A1B, 0x1A1B, .nonspacingMark),
  (0x1A56, 0x1A56, .nonspacingMark), (0x1A58, 0x1A5E, .nonspacingMark), (0x1A60, 0x1A60, .nonspacingMark),
  (0x1A62, 0x1A62, .nonspacingMark), (0x1A65, 0x1A6C, .nonspacingMark), (0x1A73, 0x1A7C, .nonspacingMark),
  (0x1A7F, 0x1A7F, .nonspacingMark), (0x1AB0, 0x1ACE, .nonspacingMark), (0x1B00, 0x1B03, .nonspacingMark),
  (0x1B34, 0x1B34, .nonspacingMark), (0x1B36, 0x1B3A, .nonspacingMark), (0x1B3C, 0x1B3C, .nonspacingMark),
  (0x1B42, 0x1B42, .nonspacingMark), (0x1B6B, 0x1B73, .nonspacingMark), (0x1B80, 0x1B81, .nonspacingMark),
  (0x1BA2, 0x1BA5, .nonspacingMark), (0x1BA8, 0x1BA9, .nonspacingMark), (0x1BAB, 0x1BAD, .nonspacingMark),
  (0x1BE6, 0x1BE6, .nonspacingMark), (0x1BE8, 0x1BE9, .nonspacingMark), (0x1BED, 0x1BED, .nonspacingMark),
  (0x1BEF, 0x1BF1, .nonspacingMark), (0x1C2C, 0x1C33, .nonspacingMark), (0x1C36, 0x1C37, .nonspacingMark),
  (0x1CD0, 0x1CD2, .nonspacingMark), (0x1CD4, 0x1CE0, .nonspacingMark), (0x1CE2, 0x1CE8, .nonspacingMark),
  (0x1CED, 0x1CED, .nonspacingMark), (0x1CF4, 0x1CF4, .nonspacingMark), (0x1CF8, 0x1CF9, .nonspacingMark),
  (0x1DC0, 0x1DFF, .nonspacingMark), (0x1FBD, 0x1FBD, .otherNeutral), (0x1FBF, 0x1FC1, .otherNeutral),
  (0x1FCD, 0x1FCF, .otherNeutral), (0x1FDD, 0x1FDF, .otherNeutral), (0x1FED, 0x1FEF, .otherNeutral),
  (0x1FFD, 0x1FFE, .otherNeutral), (0x2000, 0x200A, .other), (0x200B, 0x200D, .boundaryNeutral),
  (0x200F, 0x200F, .rightToLeft), (0x2010, 0x2027, .otherNeutral), (0x2028, 0x202E, .other),
  (0x202F, 0x202F, .commonSeparator), (0x2030, 0x2034, .europeanTerminator), (0x2035, 0x2043, .otherNeutral),
  (0x2044, 0x2044, .commonSeparator), (0x2045, 0x205E, .otherNeutral), (0x205F, 0x205F, .other),
  (0x2060, 0x2064, .boundaryNeutral), (0x2066, 0x2069, .other), (0x206A, 0x206F, .boundaryNeutral),
  (0x2070, 0x2070, .europeanNumber), (0x2074, 0x2079, .europeanNumber), (0x207A, 0x207B, .europeanSeparator),
  (0x207C, 0x207E, .otherNeutral), (0x2080, 0x2089, .europeanNumber), (0x208A, 0x208B, .europeanSeparator),
  (0x208C, 0x208E, .otherNeutral), (0x20A0, 0x20C0, .europeanTerminator), (0x20D0, 0x20F0, .nonspacingMark),
  (0x2100, 0x2101, .otherNeutral), (0x2103, 0x2106, .otherNeutral), (0x2108, 0x2109, .otherNeutral),
  (0x2114, 0x2114, .otherNeutral), (0x2116, 0x2118, .otherNeutral), (0x211E, 0x2123, .otherNeutral),
  (0x2125, 0x2125, .otherNeutral), (0x2127, 0x2127, .otherNeutral), (0x2129, 0x2129, .otherNeutral),
  (0x212E, 0x212E, .europeanTerminator), (0x213A, 0x213B, .otherNeutral), (0x2140, 0x2144, .otherNeutral),
  (0x214A, 0x214D, .otherNeutral), (0x2150, 0x215F, .otherNeutral), (0x2189, 0x218B, .otherNeutral),
  (0x2190, 0x2211, .otherNeutral), (0x2212, 0x2212, .europeanSeparator), (0x2213, 0x2213, .europeanTerminator),
  (0x2214, 0x2335, .otherNeutral), (0x237B, 0x2394, .otherNeutral), (0x2396, 0x2426, .otherNeutral),
  (0x2440, 0x244A, .otherNeutral), (0x2460, 0x2487, .otherNeutral), (0x2488, 0x249B, .europeanNumber),
  (0x24EA, 0x26AB, .otherNeutral), (0x26AD, 0x27FF, .otherNeutral), (0x2900, 0x2B73, .otherNeutral),
  (0x2B76, 0x2B95, .otherNeutral), (0x2B97, 0x2BFF, .otherNeutral), (0x2CE5, 0x2CEA, .otherNeutral),
  (0x2CEF, 0x2CF1, .nonspacingMark), (0x2CF9, 0x2CFF, .otherNeutral), (0x2D7F, 0x2D7F, .nonspacingMark),
  (0x2DE0, 0x2DFF, .nonspacingMark), (0x2E00, 0x2E5D, .otherNeutral), (0x2E80, 0x2E99, .otherNeutral),
  (0x2E9B, 0x2EF3, .otherNeutral), (0x2F00, 0x2FD5, .otherNeutral), (0x2FF0, 0x2FFB, .otherNeutral),
  (0x3000, 0x3000, .other), (0x3001, 0x3004, .otherNeutral), (0x3008, 0x3020, .otherNeutral),
  (0x302A, 0x302D, .nonspacingMark), (0x3030, 0x3030, .otherNeutral), (0x3036, 0x3037, .otherNeutral),
  (0x303D, 0x303F, .otherNeutral), (0x3099, 0x309A, .nonspacingMark), (0x309B, 0x309C, .otherNeutral),
  (0x30A0, 0x30A0, .otherNeutral), (0x30FB, 0x30FB, .otherNeutral), (0x31C0, 0x31E3, .otherNeutral),
  (0x321D, 0x321E, .otherNeutral), (0x3250, 0x325F, .otherNeutral), (0x327C, 0x327E, .otherNeutral),
  (0x32B1, 0x32BF, .otherNeutral), (0x32CC, 0x32CF, .otherNeutral), (0x3377, 0x337A, .otherNeutral),
  (0x33DE, 0x33DF, .otherNeutral), (0x33FF, 0x33FF, .otherNeutral), (0x4DC0, 0x4DFF, .otherNeutral),
  (0xA490, 0xA4C6, .otherNeutral), (0xA60D, 0xA60F, .otherNeutral), (0xA66F, 0xA672, .nonspacingMark),
  (0xA673, 0xA673, .otherNeutral), (0xA674, 0xA67D, .nonspacingMark), (0xA67E, 0xA67F, .otherNeutral),
  (0xA69E, 0xA69F, .nonspacingMark), (0xA6F0, 0xA6F1, .nonspacingMark), (0xA700, 0xA721, .otherNeutral),
  (0xA788, 0xA788, .otherNeutral), (0xA802, 0xA802, .nonspacingMark), (0xA806, 0xA806, .nonspacingMark),
  (0xA80B, 0xA80B, .nonspacingMark), (0xA825, 0xA826, .nonspacingMark), (0xA828, 0xA82B, .otherNeutral),
  (0xA82C, 0xA82C, .nonspacingMark), (0xA838, 0xA839, .europeanTerminator), (0xA874, 0xA877, .otherNeutral),
  (0xA8C4, 0xA8C5, .nonspacingMark), (0xA8E0, 0xA8F1, .nonspacingMark), (0xA8FF, 0xA8FF, .nonspacingMark),
  (0xA926, 0xA92D, .nonspacingMark), (0xA947, 0xA951, .nonspacingMark), (0xA980, 0xA982, .nonspacingMark),
  (0xA9B3, 0xA9B3, .nonspacingMark), (0xA9B6, 0xA9B9, .nonspacingMark), (0xA9BC, 0xA9BD, .nonspacingMark),
  (0xA9E5, 0xA9E5, .nonspacingMark), (0xAA29, 0xAA2E, .nonspacingMark), (0xAA31, 0xAA32, .nonspacingMark),
  (0xAA35, 0xAA36, .nonspacingMark), (0xAA43, 0xAA43, .nonspacingMark), (0xAA4C, 0xAA4C, .nonspacingMark),
  (0xAA7C, 0xAA7C, .nonspacingMark), (0xAAB0, 0xAAB0, .nonspacingMark), (0xAAB2, 0xAAB4, .nonspacingMark),
  (0xAAB7, 0xAAB8, .nonspacingMark), (0xAABE, 0xAABF, .nonspacingMark), (0xAAC1, 0xAAC1, .nonspacingMark),
  (0xAAEC, 0xAAED, .nonspacingMark), (0xAAF6, 0xAAF6, .nonspacingMark), (0xAB6A, 0xAB6B, .otherNeutral),
  (0xABE5, 0xABE5, .nonspacingMark), (0xABE8, 0xABE8, .nonspacingMark), (0xABED, 0xABED, .nonspacingMark),
  (0xFB1D, 0xFB1D, .rightToLeft), (0xFB1E, 0xFB1E, .nonspacingMark), (0xFB1F, 0xFB28, .rightToLeft),
  (0xFB29, 0xFB29, .europeanSeparator), (0xFB2A, 0xFB36, .rightToLeft), (0xFB38, 0xFB3C, .rightToLeft),
  (0xFB3E, 0xFB3E, .rightToLeft), (0xFB40, 0xFB41, .rightToLeft), (0xFB43, 0xFB44, .rightToLeft),
  (0xFB46, 0xFB4F, .rightToLeft), (0xFB50, 0xFBC2, .arabicLetter), (0xFBD3, 0xFD3D, .arabicLetter),
  (0xFD3E, 0xFD4F, .otherNeutral), (0xFD50, 0xFD8F, .arabicLetter), (0xFD92, 0xFDC7, .arabicLetter),
  (0xFDCF, 0xFDCF, .otherNeutral), (0xFDF0, 0xFDFC, .arabicLetter), (0xFDFD, 0xFDFF, .otherNeutral),
  (0xFE00, 0xFE0F, .nonspacingMark), (0xFE10, 0xFE19, .otherNeutral), (0xFE20, 0xFE2F, .nonspacingMark),
  (0xFE30, 0xFE4F, .otherNeutral), (0xFE50, 0xFE50, .commonSeparator), (0xFE51, 0xFE51, .otherNeutral),
  (0xFE52, 0xFE52, .commonSeparator), (0xFE54, 0xFE54, .otherNeutral), (0xFE55, 0xFE55, .commonSeparator),
  (0xFE56, 0xFE5E, .otherNeutral), (0xFE5F, 0xFE5F, .europeanTerminator), (0xFE60, 0xFE61, .otherNeutral),
  (0xFE62, 0xFE63, .europeanSeparator), (0xFE64, 0xFE66, .otherNeutral), (0xFE68, 0xFE68, .otherNeutral),
  (0xFE69, 0xFE6A, .europeanTerminator), (0xFE6B, 0xFE6B, .otherNeutral), (0xFE70, 0xFE74, .arabicLetter),
  (0xFE76, 0xFEFC, .arabicLetter), (0xFEFF, 0xFEFF, .boundaryNeutral), (0xFF01, 0xFF02, .otherNeutral),
  (0xFF03, 0xFF05, .europeanTerminator), (0xFF06, 0xFF0A, .otherNeutral), (0xFF0B, 0xFF0B, .europeanSeparator),
  (0xFF0C, 0xFF0C, .commonSeparator), (0xFF0D, 0xFF0D, .europeanSeparator), (0xFF0E, 0xFF0F, .commonSeparator),
  (0xFF10, 0xFF19, .europeanNumber), (0xFF1A, 0xFF1A, .commonSeparator), (0xFF1B, 0xFF20, .otherNeutral),
  (0xFF3B, 0xFF40, .otherNeutral), (0xFF5B, 0xFF65, .otherNeutral), (0xFFE0, 0xFFE1, .europeanTerminator),
  (0xFFE2, 0xFFE4, .otherNeutral), (0xFFE5, 0xFFE6, .europeanTerminator), (0xFFE8, 0xFFEE, .otherNeutral),
  (0xFFF9, 0xFFFD, .otherNeutral), (0x10101, 0x10101, .otherNeutral), (0x10140, 0x1018C, .otherNeutral),
  (0x10190, 0x1019C, .otherNeutral), (0x101A0, 0x101A0, .otherNeutral), (0x101FD, 0x101FD, .nonspacingMark),
  (0x102E0, 0x102E0, .nonspacingMark), (0x102E1, 0x102FB, .europeanNumber), (0x10376, 0x1037A, .nonspacingMark),
  (0x10800, 0x10805, .rightToLeft), (0x10808, 0x10808, .rightToLeft), (0x1080A, 0x10835, .rightToLeft),
  (0x10837, 0x10838, .rightToLeft), (0x1083C, 0x1083C, .rightToLeft), (0x1083F, 0x10855, .rightToLeft),
  (0x10857, 0x1089E, .rightToLeft), (0x108A7, 0x108AF, .rightToLeft), (0x108E0, 0x108F2, .rightToLeft),
  (0x108F4, 0x108F5, .rightToLeft), (0x108FB, 0x1091B, .rightToLeft), (0x1091F, 0x1091F, .otherNeutral),
  (0x10920, 0x10939, .rightToLeft), (0x1093F, 0x1093F, .rightToLeft), (0x10980, 0x109B7, .rightToLeft),
  (0x109BC, 0x109CF, .rightToLeft), (0x109D2, 0x10A00, .rightToLeft), (0x10A01, 0x10A03, .nonspacingMark),
  (0x10A05, 0x10A06, .nonspacingMark), (0x10A0C, 0x10A0F, .nonspacingMark), (0x10A10, 0x10A13, .rightToLeft),
  (0x10A15, 0x10A17, .rightToLeft), (0x10A19, 0x10A35, .rightToLeft), (0x10A38, 0x10A3A, .nonspacingMark),
  (0x10A3F, 0x10A3F, .nonspacingMark), (0x10A40, 0x10A48, .rightToLeft), (0x10A50, 0x10A58, .rightToLeft),
  (0x10A60, 0x10A9F, .rightToLeft), (0x10AC0, 0x10AE4, .rightToLeft), (0x10AE5, 0x10AE6, .nonspacingMark),
  (0x10AEB, 0x10AF6, .rightToLeft), (0x10B00, 0x10B35, .rightToLeft), (0x10B39, 0x10B3F, .otherNeutral),
  (0x10B40, 0x10B55, .rightToLeft), (0x10B58, 0x10B72, .rightToLeft), (0x10B78, 0x10B91, .rightToLeft),
  (0x10B99, 0x10B9C, .rightToLeft), (0x10BA9, 0x10BAF, .rightToLeft), (0x10C00, 0x10C48, .rightToLeft),
  (0x10C80, 0x10CB2, .rightToLeft), (0x10CC0, 0x10CF2, .rightToLeft), (0x10CFA, 0x10CFF, .rightToLeft),
  (0x10D00, 0x10D23, .arabicLetter), (0x10D24, 0x10D27, .nonspacingMark), (0x10D30, 0x10D39, .arabicNumber),
  (0x10E60, 0x10E7E, .arabicNumber), (0x10E80, 0x10EA9, .rightToLeft), (0x10EAB, 0x10EAC, .nonspacingMark),
  (0x10EAD, 0x10EAD, .rightToLeft), (0x10EB0, 0x10EB1, .rightToLeft), (0x10EFD, 0x10EFF, .nonspacingMark),
  (0x10F00, 0x10F27, .rightToLeft), (0x10F30, 0x10F45, .arabicLetter), (0x10F46, 0x10F50, .nonspacingMark),
  (0x10F51, 0x10F59, .arabicLetter), (0x10F70, 0x10F81, .rightToLeft), (0x10F82, 0x10F85, .nonspacingMark),
  (0x10F86, 0x10F89, .rightToLeft), (0x10FB0, 0x10FCB, .rightToLeft), (0x10FE0, 0x10FF6, .rightToLeft),
  (0x11001, 0x11001, .nonspacingMark), (0x11038, 0x11046, .nonspacingMark), (0x11052, 0x11065, .otherNeutral),
  (0x11070, 0x11070, .nonspacingMark), (0x11073, 0x11074, .nonspacingMark), (0x1107F, 0x11081, .nonspacingMark),
  (0x110B3, 0x110B6, .nonspacingMark), (0x110B9, 0x110BA, .nonspacingMark), (0x110C2, 0x110C2, .nonspacingMark),
  (0x11100, 0x11102, .nonspacingMark), (0x11127, 0x1112B, .nonspacingMark), (0x1112D, 0x11134, .nonspacingMark),
  (0x11173, 0x11173, .nonspacingMark), (0x11180, 0x11181, .nonspacingMark), (0x111B6, 0x111BE, .nonspacingMark),
  (0x111C9, 0x111CC, .nonspacingMark), (0x111CF, 0x111CF, .nonspacingMark), (0x1122F, 0x11231, .nonspacingMark),
  (0x11234, 0x11234, .nonspacingMark), (0x11236, 0x11237, .nonspacingMark), (0x1123E, 0x1123E, .nonspacingMark),
  (0x11241, 0x11241, .nonspacingMark), (0x112DF, 0x112DF, .nonspacingMark), (0x112E3, 0x112EA, .nonspacingMark),
  (0x11300, 0x11301, .nonspacingMark), (0x1133B, 0x1133C, .nonspacingMark), (0x11340, 0x11340, .nonspacingMark),
  (0x11366, 0x1136C, .nonspacingMark), (0x11370, 0x11374, .nonspacingMark), (0x11438, 0x1143F, .nonspacingMark),
  (0x11442, 0x11444, .nonspacingMark), (0x11446, 0x11446, .nonspacingMark), (0x1145E, 0x1145E, .nonspacingMark),
  (0x114B3, 0x114B8, .nonspacingMark), (0x114BA, 0x114BA, .nonspacingMark), (0x114BF, 0x114C0, .nonspacingMark),
  (0x114C2, 0x114C3, .nonspacingMark), (0x115B2, 0x115B5, .nonspacingMark), (0x115BC, 0x115BD, .nonspacingMark),
  (0x115BF, 0x115C0, .nonspacingMark), (0x115DC, 0x115DD, .nonspacingMark), (0x11633, 0x1163A, .nonspacingMark),
  (0x1163D, 0x1163D, .nonspacingMark), (0x1163F, 0x11640, .nonspacingMark), (0x11660, 0x1166C, .otherNeutral),
  (0x116AB, 0x116AB, .nonspacingMark), (0x116AD, 0x116AD, .nonspacingMark), (0x116B0, 0x116B5, .nonspacingMark),
  (0x116B7, 0x116B7, .nonspacingMark), (0x1171D, 0x1171F, .nonspacingMark), (0x11722, 0x11725, .nonspacingMark),
  (0x11727, 0x1172B, .nonspacingMark), (0x1182F, 0x11837, .nonspacingMark), (0x11839, 0x1183A, .nonspacingMark),
  (0x1193B, 0x1193C, .nonspacingMark), (0x1193E, 0x1193E, .nonspacingMark), (0x11943, 0x11943, .nonspacingMark),
  (0x119D4, 0x119D7, .nonspacingMark), (0x119DA, 0x119DB, .nonspacingMark), (0x119E0, 0x119E0, .nonspacingMark),
  (0x11A01, 0x11A06, .nonspacingMark), (0x11A09, 0x11A0A, .nonspacingMark), (0x11A33, 0x11A38, .nonspacingMark),
  (0x11A3B, 0x11A3E, .nonspacingMark), (0x11A47, 0x11A47, .nonspacingMark), (0x11A51, 0x11A56, .nonspacingMark),
  (0x11A59, 0x11A5B, .nonspacingMark), (0x11A8A, 0x11A96, .nonspacingMark), (0x11A98, 0x11A99, .nonspacingMark),
  (0x11C30, 0x11C36, .nonspacingMark), (0x11C38, 0x11C3D, .nonspacingMark), (0x11C92, 0x11CA7, .nonspacingMark),
  (0x11CAA, 0x11CB0, .nonspacingMark), (0x11CB2, 0x11CB3, .nonspacingMark), (0x11CB5, 0x11CB6, .nonspacingMark),
  (0x11D31, 0x11D36, .nonspacingMark), (0x11D3A, 0x11D3A, .nonspacingMark), (0x11D3C, 0x11D3D, .nonspacingMark),
  (0x11D3F, 0x11D45, .nonspacingMark), (0x11D47, 0x11D47, .nonspacingMark), (0x11D90, 0x11D91, .nonspacingMark),
  (0x11D95, 0x11D95, .nonspacingMark), (0x11D97, 0x11D97, .nonspacingMark), (0x11EF3, 0x11EF4, .nonspacingMark),
  (0x11F00, 0x11F01, .nonspacingMark), (0x11F36, 0x11F3A, .nonspacingMark), (0x11F40, 0x11F40, .nonspacingMark),
  (0x11F42, 0x11F42, .nonspacingMark), (0x11FD5, 0x11FDC, .otherNeutral), (0x11FDD, 0x11FE0, .europeanTerminator),
  (0x11FE1, 0x11FF1, .otherNeutral), (0x13440, 0x13440, .nonspacingMark), (0x13447, 0x13455, .nonspacingMark),
  (0x16AF0, 0x16AF4, .nonspacingMark), (0x16B30, 0x16B36, .nonspacingMark), (0x16F4F, 0x16F4F, .nonspacingMark),
  (0x16F8F, 0x16F92, .nonspacingMark), (0x16FE2, 0x16FE2, .otherNeutral), (0x16FE4, 0x16FE4, .nonspacingMark),
  (0x1BC9D, 0x1BC9E, .nonspacingMark), (0x1BCA0, 0x1BCA3, .boundaryNeutral), (0x1CF00, 0x1CF2D, .nonspacingMark),
  (0x1CF30, 0x1CF46, .nonspacingMark), (0x1D167, 0x1D169, .nonspacingMark), (0x1D173, 0x1D17A, .boundaryNeutral),
  (0x1D17B, 0x1D182, .nonspacingMark), (0x1D185, 0x1D18B, .nonspacingMark), (0x1D1AA, 0x1D1AD, .nonspacingMark),
  (0x1D1E9, 0x1D1EA, .otherNeutral), (0x1D200, 0x1D241, .otherNeutral), (0x1D242, 0x1D244, .nonspacingMark),
  (0x1D245, 0x1D245, .otherNeutral), (0x1D300, 0x1D356, .otherNeutral), (0x1D6DB, 0x1D6DB, .otherNeutral),
  (0x1D715, 0x1D715, .otherNeutral), (0x1D74F, 0x1D74F, .otherNeutral), (0x1D789, 0x1D789, .otherNeutral),
  (0x1D7C3, 0x1D7C3, .otherNeutral), (0x1D7CE, 0x1D7FF, .europeanNumber), (0x1DA00, 0x1DA36, .nonspacingMark),
  (0x1DA3B, 0x1DA6C, .nonspacingMark), (0x1DA75, 0x1DA75, .nonspacingMark), (0x1DA84, 0x1DA84, .nonspacingMark),
  (0x1DA9B, 0x1DA9F, .nonspacingMark), (0x1DAA1, 0x1DAAF, .nonspacingMark), (0x1E000, 0x1E006, .nonspacingMark),
  (0x1E008, 0x1E018, .nonspacingMark), (0x1E01B, 0x1E021, .nonspacingMark), (0x1E023, 0x1E024, .nonspacingMark),
  (0x1E026, 0x1E02A, .nonspacingMark), (0x1E08F, 0x1E08F, .nonspacingMark), (0x1E130, 0x1E136, .nonspacingMark),
  (0x1E2AE, 0x1E2AE, .nonspacingMark), (0x1E2EC, 0x1E2EF, .nonspacingMark), (0x1E2FF, 0x1E2FF, .europeanTerminator),
  (0x1E4EC, 0x1E4EF, .nonspacingMark), (0x1E800, 0x1E8C4, .rightToLeft), (0x1E8C7, 0x1E8CF, .rightToLeft),
  (0x1E8D0, 0x1E8D6, .nonspacingMark), (0x1E900, 0x1E943, .rightToLeft), (0x1E944, 0x1E94A, .nonspacingMark),
  (0x1E94B, 0x1E94B, .rightToLeft), (0x1E950, 0x1E959, .rightToLeft), (0x1E95E, 0x1E95F, .rightToLeft),
  (0x1EC71, 0x1ECB4, .arabicLetter), (0x1ED01, 0x1ED3D, .arabicLetter), (0x1EE00, 0x1EE03, .arabicLetter),
  (0x1EE05, 0x1EE1F, .arabicLetter), (0x1EE21, 0x1EE22, .arabicLetter), (0x1EE24, 0x1EE24, .arabicLetter),
  (0x1EE27, 0x1EE27, .arabicLetter), (0x1EE29, 0x1EE32, .arabicLetter), (0x1EE34, 0x1EE37, .arabicLetter),
  (0x1EE39, 0x1EE39, .arabicLetter), (0x1EE3B, 0x1EE3B, .arabicLetter), (0x1EE42, 0x1EE42, .arabicLetter),
  (0x1EE47, 0x1EE47, .arabicLetter), (0x1EE49, 0x1EE49, .arabicLetter), (0x1EE4B, 0x1EE4B, .arabicLetter),
  (0x1EE4D, 0x1EE4F, .arabicLetter), (0x1EE51, 0x1EE52, .arabicLetter), (0x1EE54, 0x1EE54, .arabicLetter),
  (0x1EE57, 0x1EE57, .arabicLetter), (0x1EE59, 0x1EE59, .arabicLetter), (0x1EE5B, 0x1EE5B, .arabicLetter),
  (0x1EE5D, 0x1EE5D, .arabicLetter), (0x1EE5F, 0x1EE5F, .arabicLetter), (0x1EE61, 0x1EE62, .arabicLetter),
  (0x1EE64, 0x1EE64, .arabicLetter), (0x1EE67, 0x1EE6A, .arabicLetter), (0x1EE6C, 0x1EE72, .arabicLetter),
  (0x1EE74, 0x1EE77, .arabicLetter), (0x1EE79, 0x1EE7C, .arabicLetter), (0x1EE7E, 0x1EE7E, .arabicLetter),
  (0x1EE80, 0x1EE89, .arabicLetter), (0x1EE8B, 0x1EE9B, .arabicLetter), (0x1EEA1, 0x1EEA3, .arabicLetter),
  (0x1EEA5, 0x1EEA9, .arabicLetter), (0x1EEAB, 0x1EEBB, .arabicLetter), (0x1EEF0, 0x1EEF1, .otherNeutral),
  (0x1F000, 0x1F02B, .otherNeutral), (0x1F030, 0x1F093, .otherNeutral), (0x1F0A0, 0x1F0AE, .otherNeutral),
  (0x1F0B1, 0x1F0BF, .otherNeutral), (0x1F0C1, 0x1F0CF, .otherNeutral), (0x1F0D1, 0x1F0F5, .otherNeutral),
  (0x1F100, 0x1F10A, .europeanNumber), (0x1F10B, 0x1F10F, .otherNeutral), (0x1F12F, 0x1F12F, .otherNeutral),
  (0x1F16A, 0x1F16F, .otherNeutral), (0x1F1AD, 0x1F1AD, .otherNeutral), (0x1F260, 0x1F265, .otherNeutral),
  (0x1F300, 0x1F6D7, .otherNeutral), (0x1F6DC, 0x1F6EC, .otherNeutral), (0x1F6F0, 0x1F6FC, .otherNeutral),
  (0x1F700, 0x1F776, .otherNeutral), (0x1F77B, 0x1F7D9, .otherNeutral), (0x1F7E0, 0x1F7EB, .otherNeutral),
  (0x1F7F0, 0x1F7F0, .otherNeutral), (0x1F800, 0x1F80B, .otherNeutral), (0x1F810, 0x1F847, .otherNeutral),
  (0x1F850, 0x1F859, .otherNeutral), (0x1F860, 0x1F887, .otherNeutral), (0x1F890, 0x1F8AD, .otherNeutral),
  (0x1F8B0, 0x1F8B1, .otherNeutral), (0x1F900, 0x1FA53, .otherNeutral), (0x1FA60, 0x1FA6D, .otherNeutral),
  (0x1FA70, 0x1FA7C, .otherNeutral), (0x1FA80, 0x1FA88, .otherNeutral), (0x1FA90, 0x1FABD, .otherNeutral),
  (0x1FABF, 0x1FAC5, .otherNeutral), (0x1FACE, 0x1FADB, .otherNeutral), (0x1FAE0, 0x1FAE8, .otherNeutral),
  (0x1FAF0, 0x1FAF8, .otherNeutral), (0x1FB00, 0x1FB92, .otherNeutral), (0x1FB94, 0x1FBCA, .otherNeutral),
  (0x1FBF0, 0x1FBF9, .europeanNumber), (0xE0001, 0xE0001, .boundaryNeutral), (0xE0020, 0xE007F, .boundaryNeutral),
  (0xE0100, 0xE01EF, .nonspacingMark)]

def bidiClass (c : Char) : BidiClass :=
  match bidiRanges.find? fun (a, b, _) => a ≤ c.toNat && c.toNat ≤ b with
  | some (_, _, k) => k
  | none => .leftToRight

end Depot.Text
