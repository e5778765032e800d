import MailAudit.Text.GraphemeExtend

namespace MailAudit.Text

/-- The general category Mc. -/
def spacingMarkRanges : List (Nat × Nat) := [
    (0x903, 0x903), (0x93b, 0x93b), (0x93e, 0x940), (0x949, 0x94c), (0x94e, 0x94f), (0x982, 0x983),
    (0x9be, 0x9c0), (0x9c7, 0x9c8), (0x9cb, 0x9cc), (0x9d7, 0x9d7), (0xa03, 0xa03), (0xa3e, 0xa40),
    (0xa83, 0xa83), (0xabe, 0xac0), (0xac9, 0xac9), (0xacb, 0xacc), (0xb02, 0xb03), (0xb3e, 0xb3e),
    (0xb40, 0xb40), (0xb47, 0xb48), (0xb4b, 0xb4c), (0xb57, 0xb57), (0xbbe, 0xbbf), (0xbc1, 0xbc2),
    (0xbc6, 0xbc8), (0xbca, 0xbcc), (0xbd7, 0xbd7), (0xc01, 0xc03), (0xc41, 0xc44), (0xc82, 0xc83),
    (0xcbe, 0xcbe), (0xcc0, 0xcc4), (0xcc7, 0xcc8), (0xcca, 0xccb), (0xcd5, 0xcd6), (0xcf3, 0xcf3),
    (0xd02, 0xd03), (0xd3e, 0xd40), (0xd46, 0xd48), (0xd4a, 0xd4c), (0xd57, 0xd57), (0xd82, 0xd83),
    (0xdcf, 0xdd1), (0xdd8, 0xddf), (0xdf2, 0xdf3), (0xf3e, 0xf3f), (0xf7f, 0xf7f),
    (0x102b, 0x102c), (0x1031, 0x1031), (0x1038, 0x1038), (0x103b, 0x103c), (0x1056, 0x1057),
    (0x1062, 0x1064), (0x1067, 0x106d), (0x1083, 0x1084), (0x1087, 0x108c), (0x108f, 0x108f),
    (0x109a, 0x109c), (0x1715, 0x1715), (0x1734, 0x1734), (0x17b6, 0x17b6), (0x17be, 0x17c5),
    (0x17c7, 0x17c8), (0x1923, 0x1926), (0x1929, 0x192b), (0x1930, 0x1931), (0x1933, 0x1938),
    (0x1a19, 0x1a1a), (0x1a55, 0x1a55), (0x1a57, 0x1a57), (0x1a61, 0x1a61), (0x1a63, 0x1a64),
    (0x1a6d, 0x1a72), (0x1b04, 0x1b04), (0x1b35, 0x1b35), (0x1b3b, 0x1b3b), (0x1b3d, 0x1b41),
    (0x1b43, 0x1b44), (0x1b82, 0x1b82), (0x1ba1, 0x1ba1), (0x1ba6, 0x1ba7), (0x1baa, 0x1baa),
    (0x1be7, 0x1be7), (0x1bea, 0x1bec), (0x1bee, 0x1bee), (0x1bf2, 0x1bf3), (0x1c24, 0x1c2b),
    (0x1c34, 0x1c35), (0x1ce1, 0x1ce1), (0x1cf7, 0x1cf7), (0x302e, 0x302f), (0xa823, 0xa824),
    (0xa827, 0xa827), (0xa880, 0xa881), (0xa8b4, 0xa8c3), (0xa952, 0xa953), (0xa983, 0xa983),
    (0xa9b4, 0xa9b5), (0xa9ba, 0xa9bb), (0xa9be, 0xa9c0), (0xaa2f, 0xaa30), (0xaa33, 0xaa34),
    (0xaa4d, 0xaa4d), (0xaa7b, 0xaa7b), (0xaa7d, 0xaa7d), (0xaaeb, 0xaaeb), (0xaaee, 0xaaef),
    (0xaaf5, 0xaaf5), (0xabe3, 0xabe4), (0xabe6, 0xabe7), (0xabe9, 0xabea), (0xabec, 0xabec),
    (0x11000, 0x11000), (0x11002, 0x11002), (0x11082, 0x11082), (0x110b0, 0x110b2),
    (0x110b7, 0x110b8), (0x1112c, 0x1112c), (0x11145, 0x11146), (0x11182, 0x11182),
    (0x111b3, 0x111b5), (0x111bf, 0x111c0), (0x111ce, 0x111ce), (0x1122c, 0x1122e),
    (0x11232, 0x11233), (0x11235, 0x11235), (0x112e0, 0x112e2), (0x11302, 0x11303),
    (0x1133e, 0x1133f), (0x11341, 0x11344), (0x11347, 0x11348), (0x1134b, 0x1134d),
    (0x11357, 0x11357), (0x11362, 0x11363), (0x11435, 0x11437), (0x11440, 0x11441),
    (0x11445, 0x11445), (0x114b0, 0x114b2), (0x114b9, 0x114b9), (0x114bb, 0x114be),
    (0x114c1, 0x114c1), (0x115af, 0x115b1), (0x115b8, 0x115bb), (0x115be, 0x115be),
    (0x11630, 0x11632), (0x1163b, 0x1163c), (0x1163e, 0x1163e), (0x116ac, 0x116ac),
    (0x116ae, 0x116af), (0x116b6, 0x116b6), (0x11720, 0x11721), (0x11726, 0x11726),
    (0x1182c, 0x1182e), (0x11838, 0x11838), (0x11930, 0x11935), (0x11937, 0x11938),
    (0x1193d, 0x1193d), (0x11940, 0x11940), (0x11942, 0x11942), (0x119d1, 0x119d3),
    (0x119dc, 0x119df), (0x119e4, 0x119e4), (0x11a39, 0x11a39), (0x11a57, 0x11a58),
    (0x11a97, 0x11a97), (0x11c2f, 0x11c2f), (0x11c3e, 0x11c3e), (0x11ca9, 0x11ca9),
    (0x11cb1, 0x11cb1), (0x11cb4, 0x11cb4), (0x11d8a, 0x11d8e), (0x11d93, 0x11d94),
    (0x11d96, 0x11d96), (0x11ef5, 0x11ef6), (0x11f03, 0x11f03), (0x11f34, 0x11f35),
    (0x11f3e, 0x11f3f), (0x11f41, 0x11f41), (0x16f51, 0x16f87), (0x16ff0, 0x16ff1),
    (0x1d165, 0x1d166), (0x1d16d, 0x1d172)]

/-- Signs that take the vowel from the letter before them: the combining class Virama. -/
def viramaRanges : List (Nat × Nat) := [
    (0x94d, 0x94d), (0x9cd, 0x9cd), (0xa4d, 0xa4d), (0xacd, 0xacd), (0xb4d, 0xb4d), (0xbcd, 0xbcd),
    (0xc4d, 0xc4d), (0xccd, 0xccd), (0xd3b, 0xd3c), (0xd4d, 0xd4d), (0xdca, 0xdca), (0xe3a, 0xe3a),
    (0xeba, 0xeba), (0xf84, 0xf84), (0x1039, 0x103a), (0x1714, 0x1715), (0x1734, 0x1734),
    (0x17d2, 0x17d2), (0x1a60, 0x1a60), (0x1b44, 0x1b44), (0x1baa, 0x1bab), (0x1bf2, 0x1bf3),
    (0x2d7f, 0x2d7f), (0xa806, 0xa806), (0xa82c, 0xa82c), (0xa8c4, 0xa8c4), (0xa953, 0xa953),
    (0xa9c0, 0xa9c0), (0xaaf6, 0xaaf6), (0xabed, 0xabed), (0x10a3f, 0x10a3f), (0x11046, 0x11046),
    (0x11070, 0x11070), (0x1107f, 0x1107f), (0x110b9, 0x110b9), (0x11133, 0x11134),
    (0x111c0, 0x111c0), (0x11235, 0x11235), (0x112ea, 0x112ea), (0x1134d, 0x1134d),
    (0x11442, 0x11442), (0x114c2, 0x114c2), (0x115bf, 0x115bf), (0x1163f, 0x1163f),
    (0x116b6, 0x116b6), (0x1172b, 0x1172b), (0x11839, 0x11839), (0x1193d, 0x1193e),
    (0x119e0, 0x119e0), (0x11a34, 0x11a34), (0x11a47, 0x11a47), (0x11a99, 0x11a99),
    (0x11c3f, 0x11c3f), (0x11d44, 0x11d45), (0x11d97, 0x11d97), (0x11f41, 0x11f42)]

def voicingRange : Nat × Nat := (0xff9e, 0xff9f)

def isMark (c : Char) : Bool :=
  extendsGrapheme c || inRanges (voicingRange :: spacingMarkRanges) c.toNat

def isVirama (c : Char) : Bool := inRanges viramaRanges c.toNat

end MailAudit.Text
