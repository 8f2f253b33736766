import XmlBinding.Text.Mark

/-!
The direction in which a character is written, as far as it decides about names in which both
directions occur. Most characters run from left to right.
-/

namespace XmlBinding.Text

inductive Direction where
  | left
  | right
  | european
  | arabic
  | mark
  | neutral
deriving DecidableEq

/-- Letters from right to left, the two kinds of numbers, and what has no direction of its own. -/
def directionTable : List (Nat × Nat × Direction) :=
  [(0x0, 0x2F, .neutral), (0x30, 0x39, .european), (0x3A, 0x40, .neutral), (0x5B, 0x60, .neutral),
    (0x7B, 0xA9, .neutral), (0xAB, 0xB1, .neutral), (0xB2, 0xB3, .european), (0xB4, 0xB4, .neutral),
    (0xB6, 0xB8, .neutral), (0xB9, 0xB9, .european), (0xBB, 0xBF, .neutral), (0xD7, 0xD7, .neutral),
    (0xF7, 0xF7, .neutral), (0x2B9, 0x2BA, .neutral), (0x2C2, 0x2CF, .neutral),
    (0x2D2, 0x2DF, .neutral), (0x2E5, 0x2ED, .neutral), (0x2EF, 0x2FF, .neutral),
    (0x374, 0x375, .neutral), (0x37E, 0x37E, .neutral), (0x384, 0x385, .neutral),
    (0x387, 0x387, .neutral), (0x3F6, 0x3F6, .neutral), (0x58A, 0x58F, .neutral),
    (0x5BE, 0x5F4, .right), (0x600, 0x605, .arabic), (0x606, 0x607, .neutral),
    (0x608, 0x608, .right), (0x609, 0x60A, .neutral), (0x60B, 0x60B, .right),
    (0x60C, 0x60C, .neutral), (0x60D, 0x60D, .right), (0x60E, 0x60F, .neutral),
    (0x61B, 0x64A, .right), (0x660, 0x669, .arabic), (0x66A, 0x66A, .neutral),
    (0x66B, 0x66C, .arabic), (0x66D, 0x6D5, .right), (0x6DD, 0x6DD, .arabic),
    (0x6DE, 0x6DE, .neutral), (0x6E5, 0x6E6, .right), (0x6E9, 0x6E9, .neutral),
    (0x6EE, 0x6EF, .right), (0x6F0, 0x6F9, .european), (0x6FA, 0x7F5, .right),
    (0x7F6, 0x7F9, .neutral), (0x7FA, 0x88F, .right), (0x890, 0x891, .arabic),
    (0x8A0, 0x8C9, .right), (0x8E2, 0x8E2, .arabic), (0x9F2, 0x9F3, .neutral),
    (0x9FB, 0x9FB, .neutral), (0xAF1, 0xAF1, .neutral), (0xBF3, 0xBFA, .neutral),
    (0xC78, 0xC7E, .neutral), (0xCBF, 0xCBF, .left), (0xCC6, 0xCC6, .left),
    (0xE3F, 0xE3F, .neutral), (0xF3A, 0xF3D, .neutral), (0x1390, 0x1399, .neutral),
    (0x1400, 0x1400, .neutral), (0x1680, 0x1680, .neutral), (0x169B, 0x169C, .neutral),
    (0x17DB, 0x17DB, .neutral), (0x17F0, 0x180E, .neutral), (0x1940, 0x1945, .neutral),
    (0x19DE, 0x19FF, .neutral), (0x1FBD, 0x1FBD, .neutral), (0x1FBF, 0x1FC1, .neutral),
    (0x1FCD, 0x1FCF, .neutral), (0x1FDD, 0x1FDF, .neutral), (0x1FED, 0x1FEF, .neutral),
    (0x1FFD, 0x200D, .neutral), (0x200F, 0x200F, .right), (0x2010, 0x206F, .neutral),
    (0x2070, 0x2070, .european), (0x2074, 0x2079, .european), (0x207A, 0x207E, .neutral),
    (0x2080, 0x2089, .european), (0x208A, 0x208E, .neutral), (0x20A0, 0x2101, .neutral),
    (0x2103, 0x2106, .neutral), (0x2108, 0x2109, .neutral), (0x2114, 0x2114, .neutral),
    (0x2116, 0x2118, .neutral), (0x211E, 0x2123, .neutral), (0x2125, 0x2125, .neutral),
    (0x2127, 0x2127, .neutral), (0x2129, 0x2129, .neutral), (0x212E, 0x212E, .neutral),
    (0x213A, 0x213B, .neutral), (0x2140, 0x2144, .neutral), (0x214A, 0x214D, .neutral),
    (0x2150, 0x215F, .neutral), (0x2189, 0x2335, .neutral), (0x237B, 0x2394, .neutral),
    (0x2396, 0x2487, .neutral), (0x2488, 0x249B, .european), (0x24EA, 0x26AB, .neutral),
    (0x26AD, 0x27FF, .neutral), (0x2900, 0x2BFF, .neutral), (0x2CE5, 0x2CEA, .neutral),
    (0x2CF9, 0x2CFF, .neutral), (0x2E00, 0x3004, .neutral), (0x3008, 0x3020, .neutral),
    (0x3030, 0x3030, .neutral), (0x3036, 0x3037, .neutral), (0x303D, 0x303F, .neutral),
    (0x309B, 0x309C, .neutral), (0x30A0, 0x30A0, .neutral), (0x30FB, 0x30FB, .neutral),
    (0x31C0, 0x31EF, .neutral), (0x321D, 0x321E, .neutral), (0x3250, 0x325F, .neutral),
    (0x327C, 0x327E, .neutral), (0x32B1, 0x32BF, .neutral), (0x32CC, 0x32CF, .neutral),
    (0x3377, 0x337A, .neutral), (0x33DE, 0x33DF, .neutral), (0x33FF, 0x33FF, .neutral),
    (0x4DC0, 0x4DFF, .neutral), (0xA490, 0xA4C6, .neutral), (0xA60D, 0xA60F, .neutral),
    (0xA673, 0xA67F, .neutral), (0xA700, 0xA721, .neutral), (0xA788, 0xA788, .neutral),
    (0xA828, 0xA82B, .neutral), (0xA838, 0xA839, .neutral), (0xA874, 0xA877, .neutral),
    (0xAB6A, 0xAB6B, .neutral), (0xFB1D, 0xFB28, .right), (0xFB29, 0xFB29, .neutral),
    (0xFB2A, 0xFBC2, .right), (0xFBC3, 0xFBD2, .neutral), (0xFBD3, 0xFD3D, .right),
    (0xFD3E, 0xFD4F, .neutral), (0xFD50, 0xFD8F, .right), (0xFD90, 0xFD91, .neutral),
    (0xFD92, 0xFDC7, .right), (0xFDC8, 0xFDCF, .neutral), (0xFDF0, 0xFDFC, .right),
    (0xFDFD, 0xFE6B, .neutral), (0xFE70, 0xFEFC, .right), (0xFEFF, 0xFF0F, .neutral),
    (0xFF10, 0xFF19, .european), (0xFF1A, 0xFF20, .neutral), (0xFF3B, 0xFF40, .neutral),
    (0xFF5B, 0xFF65, .neutral), (0xFFE0, 0xFFFD, .neutral), (0x10101, 0x10101, .neutral),
    (0x10140, 0x1018C, .neutral), (0x10190, 0x101A0, .neutral), (0x102E1, 0x102FB, .european),
    (0x10800, 0x1091B, .right), (0x1091F, 0x1091F, .neutral), (0x10920, 0x10B35, .right),
    (0x10B39, 0x10B3F, .neutral), (0x10B40, 0x10D23, .right), (0x10D30, 0x10D39, .arabic),
    (0x10D40, 0x10D65, .right), (0x10D6E, 0x10D6E, .neutral), (0x10D6F, 0x10D8F, .right),
    (0x10E60, 0x10E7E, .arabic), (0x10E80, 0x10EC7, .right), (0x10ED0, 0x10ED8, .neutral),
    (0x10F00, 0x10FF6, .right), (0x11052, 0x11065, .neutral), (0x11660, 0x1166C, .neutral),
    (0x11A07, 0x11A08, .left), (0x11C3F, 0x11C3F, .left), (0x11FD5, 0x11FF1, .neutral),
    (0x16FE2, 0x16FE2, .neutral), (0x1BCA0, 0x1CCD5, .neutral), (0x1CCFA, 0x1CEF0, .neutral),
    (0x1D173, 0x1D17A, .neutral), (0x1D1E9, 0x1D245, .neutral), (0x1D300, 0x1D356, .neutral),
    (0x1D6DB, 0x1D6DB, .neutral), (0x1D715, 0x1D715, .neutral), (0x1D74F, 0x1D74F, .neutral),
    (0x1D789, 0x1D789, .neutral), (0x1D7C3, 0x1D7C3, .neutral), (0x1D7CE, 0x1D7FF, .european),
    (0x1E2FF, 0x1E2FF, .neutral), (0x1E800, 0x1EEBB, .right), (0x1EEF0, 0x1F0F5, .neutral),
    (0x1F100, 0x1F10A, .european), (0x1F10B, 0x1F10F, .neutral), (0x1F12F, 0x1F12F, .neutral),
    (0x1F16A, 0x1F16F, .neutral), (0x1F1AD, 0x1F1AD, .neutral), (0x1F260, 0x1FBEF, .neutral),
    (0x1FBF0, 0x1FBF9, .european), (0x1FBFA, 0x1FBFA, .neutral), (0xE0001, 0xE007F, .neutral)]

/-- Nonspacing marks follow the character before them, but for a few that are listed. -/
def direction (c : Char) : Direction :=
  let listed := valueInRanges? directionTable c
  if isNonspacingMark c && listed != some .left then .mark else listed.getD .left

end XmlBinding.Text
