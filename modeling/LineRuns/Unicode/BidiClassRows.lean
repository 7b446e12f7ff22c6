/-!
# Bidirectional character classes

The values of the Bidi_Class property under their short names, and the rows that give each code
point its class.
-/

namespace LineRuns.Unicode

/-! ## Classes

The values of the Bidi_Class property under their short names, and one more value for code
points that have no class. Nothing here gives such code points a default class: the resolution
of levels has no rule for them (`LineRuns.Bidi`).
-/

/-- A bidirectional character class; `unassigned` marks code points that have none. -/
inductive BidiClass
  | L | R | AL
  | EN | ES | ET | AN | CS | NSM | BN
  | B | S | WS | ON
  | LRE | LRO | RLE | RLO | PDF
  | LRI | RLI | FSI | PDI
  | unassigned
  deriving DecidableEq, Repr

namespace BidiClass

/-- The name of a class; a missing class has the empty name. -/
def name : BidiClass → String
  | L => "L" | R => "R" | AL => "AL"
  | EN => "EN" | ES => "ES" | ET => "ET" | AN => "AN" | CS => "CS" | NSM => "NSM" | BN => "BN"
  | B => "B" | S => "S" | WS => "WS" | ON => "ON"
  | LRE => "LRE" | LRO => "LRO" | RLE => "RLE" | RLO => "RLO" | PDF => "PDF"
  | LRI => "LRI" | RLI => "RLI" | FSI => "FSI" | PDI => "PDI"
  | unassigned => ""

end BidiClass

/-! ## Rows of the Bidi_Class property

The classes of all code points, Unicode 14: each row gives the class from its start up to the
start of the next row. Code points without a class of their own, among them all that are not
assigned, have the row value `unassigned`; no default class stands in for it.
-/

/-- Classes from U+0000 to U+05C5. -/
def bidiClassRowsFrom0000 : List (Nat × BidiClass) := [
  (0x0, .BN), (0x9, .S), (0xA, .B), (0xB, .S), (0xC, .WS), (0xD, .B), (0xE, .BN), (0x1C, .B),
  (0x1F, .S), (0x20, .WS), (0x21, .ON), (0x23, .ET), (0x26, .ON), (0x2B, .ES), (0x2C, .CS),
  (0x2D, .ES), (0x2E, .CS), (0x30, .EN), (0x3A, .CS), (0x3B, .ON), (0x41, .L), (0x5B, .ON),
  (0x61, .L), (0x7B, .ON), (0x7F, .BN), (0x85, .B), (0x86, .BN), (0xA0, .CS), (0xA1, .ON),
  (0xA2, .ET), (0xA6, .ON), (0xAA, .L), (0xAB, .ON), (0xAD, .BN), (0xAE, .ON), (0xB0, .ET),
  (0xB2, .EN), (0xB4, .ON), (0xB5, .L), (0xB6, .ON), (0xB9, .EN), (0xBA, .L), (0xBB, .ON),
  (0xC0, .L), (0xD7, .ON), (0xD8, .L), (0xF7, .ON), (0xF8, .L), (0x2B9, .ON), (0x2BB, .L),
  (0x2C2, .ON), (0x2D0, .L), (0x2D2, .ON), (0x2E0, .L), (0x2E5, .ON), (0x2EE, .L), (0x2EF, .ON),
  (0x300, .NSM), (0x370, .L), (0x374, .ON), (0x376, .L), (0x378, .unassigned), (0x37A, .L),
  (0x37E, .ON), (0x37F, .L), (0x380, .unassigned), (0x384, .ON), (0x386, .L), (0x387, .ON),
  (0x388, .L), (0x38B, .unassigned), (0x38C, .L), (0x38D, .unassigned), (0x38E, .L),
  (0x3A2, .unassigned), (0x3A3, .L), (0x3F6, .ON), (0x3F7, .L), (0x483, .NSM), (0x48A, .L),
  (0x530, .unassigned), (0x531, .L), (0x557, .unassigned), (0x559, .L), (0x58A, .ON),
  (0x58B, .unassigned), (0x58D, .ON), (0x58F, .ET), (0x590, .unassigned), (0x591, .NSM),
  (0x5BE, .R), (0x5BF, .NSM), (0x5C0, .R), (0x5C1, .NSM), (0x5C3, .R), (0x5C4, .NSM)]

/-- Classes from U+05C6 to U+098C. -/
def bidiClassRowsFrom05C6 : List (Nat × BidiClass) := [
  (0x5C6, .R), (0x5C7, .NSM), (0x5C8, .unassigned), (0x5D0, .R), (0x5EB, .unassigned), (0x5EF, .R),
  (0x5F5, .unassigned), (0x600, .AN), (0x606, .ON), (0x608, .AL), (0x609, .ET), (0x60B, .AL),
  (0x60C, .CS), (0x60D, .AL), (0x60E, .ON), (0x610, .NSM), (0x61B, .AL), (0x64B, .NSM),
  (0x660, .AN), (0x66A, .ET), (0x66B, .AN), (0x66D, .AL), (0x670, .NSM), (0x671, .AL),
  (0x6D6, .NSM), (0x6DD, .AN), (0x6DE, .ON), (0x6DF, .NSM), (0x6E5, .AL), (0x6E7, .NSM),
  (0x6E9, .ON), (0x6EA, .NSM), (0x6EE, .AL), (0x6F0, .EN), (0x6FA, .AL), (0x70E, .unassigned),
  (0x70F, .AL), (0x711, .NSM), (0x712, .AL), (0x730, .NSM), (0x74B, .unassigned), (0x74D, .AL),
  (0x7A6, .NSM), (0x7B1, .AL), (0x7B2, .unassigned), (0x7C0, .R), (0x7EB, .NSM), (0x7F4, .R),
  (0x7F6, .ON), (0x7FA, .R), (0x7FB, .unassigned), (0x7FD, .NSM), (0x7FE, .R), (0x816, .NSM),
  (0x81A, .R), (0x81B, .NSM), (0x824, .R), (0x825, .NSM), (0x828, .R), (0x829, .NSM),
  (0x82E, .unassigned), (0x830, .R), (0x83F, .unassigned), (0x840, .R), (0x859, .NSM),
  (0x85C, .unassigned), (0x85E, .R), (0x85F, .unassigned), (0x860, .AL), (0x86B, .unassigned),
  (0x870, .AL), (0x88F, .unassigned), (0x890, .AN), (0x892, .unassigned), (0x898, .NSM),
  (0x8A0, .AL), (0x8CA, .NSM), (0x8E2, .AN), (0x8E3, .NSM), (0x903, .L), (0x93A, .NSM),
  (0x93B, .L), (0x93C, .NSM), (0x93D, .L), (0x941, .NSM), (0x949, .L), (0x94D, .NSM), (0x94E, .L),
  (0x951, .NSM), (0x958, .L), (0x962, .NSM), (0x964, .L), (0x981, .NSM), (0x982, .L),
  (0x984, .unassigned), (0x985, .L)]

/-- Classes from U+098D to U+0ACC. -/
def bidiClassRowsFrom098D : List (Nat × BidiClass) := [
  (0x98D, .unassigned), (0x98F, .L), (0x991, .unassigned), (0x993, .L), (0x9A9, .unassigned),
  (0x9AA, .L), (0x9B1, .unassigned), (0x9B2, .L), (0x9B3, .unassigned), (0x9B6, .L),
  (0x9BA, .unassigned), (0x9BC, .NSM), (0x9BD, .L), (0x9C1, .NSM), (0x9C5, .unassigned),
  (0x9C7, .L), (0x9C9, .unassigned), (0x9CB, .L), (0x9CD, .NSM), (0x9CE, .L), (0x9CF, .unassigned),
  (0x9D7, .L), (0x9D8, .unassigned), (0x9DC, .L), (0x9DE, .unassigned), (0x9DF, .L), (0x9E2, .NSM),
  (0x9E4, .unassigned), (0x9E6, .L), (0x9F2, .ET), (0x9F4, .L), (0x9FB, .ET), (0x9FC, .L),
  (0x9FE, .NSM), (0x9FF, .unassigned), (0xA01, .NSM), (0xA03, .L), (0xA04, .unassigned),
  (0xA05, .L), (0xA0B, .unassigned), (0xA0F, .L), (0xA11, .unassigned), (0xA13, .L),
  (0xA29, .unassigned), (0xA2A, .L), (0xA31, .unassigned), (0xA32, .L), (0xA34, .unassigned),
  (0xA35, .L), (0xA37, .unassigned), (0xA38, .L), (0xA3A, .unassigned), (0xA3C, .NSM),
  (0xA3D, .unassigned), (0xA3E, .L), (0xA41, .NSM), (0xA43, .unassigned), (0xA47, .NSM),
  (0xA49, .unassigned), (0xA4B, .NSM), (0xA4E, .unassigned), (0xA51, .NSM), (0xA52, .unassigned),
  (0xA59, .L), (0xA5D, .unassigned), (0xA5E, .L), (0xA5F, .unassigned), (0xA66, .L), (0xA70, .NSM),
  (0xA72, .L), (0xA75, .NSM), (0xA76, .L), (0xA77, .unassigned), (0xA81, .NSM), (0xA83, .L),
  (0xA84, .unassigned), (0xA85, .L), (0xA8E, .unassigned), (0xA8F, .L), (0xA92, .unassigned),
  (0xA93, .L), (0xAA9, .unassigned), (0xAAA, .L), (0xAB1, .unassigned), (0xAB2, .L),
  (0xAB4, .unassigned), (0xAB5, .L), (0xABA, .unassigned), (0xABC, .NSM), (0xABD, .L),
  (0xAC1, .NSM), (0xAC6, .unassigned), (0xAC7, .NSM), (0xAC9, .L), (0xACA, .unassigned),
  (0xACB, .L)]

/-- Classes from U+0ACD to U+0C28. -/
def bidiClassRowsFrom0ACD : List (Nat × BidiClass) := [
  (0xACD, .NSM), (0xACE, .unassigned), (0xAD0, .L), (0xAD1, .unassigned), (0xAE0, .L),
  (0xAE2, .NSM), (0xAE4, .unassigned), (0xAE6, .L), (0xAF1, .ET), (0xAF2, .unassigned),
  (0xAF9, .L), (0xAFA, .NSM), (0xB00, .unassigned), (0xB01, .NSM), (0xB02, .L),
  (0xB04, .unassigned), (0xB05, .L), (0xB0D, .unassigned), (0xB0F, .L), (0xB11, .unassigned),
  (0xB13, .L), (0xB29, .unassigned), (0xB2A, .L), (0xB31, .unassigned), (0xB32, .L),
  (0xB34, .unassigned), (0xB35, .L), (0xB3A, .unassigned), (0xB3C, .NSM), (0xB3D, .L),
  (0xB3F, .NSM), (0xB40, .L), (0xB41, .NSM), (0xB45, .unassigned), (0xB47, .L),
  (0xB49, .unassigned), (0xB4B, .L), (0xB4D, .NSM), (0xB4E, .unassigned), (0xB55, .NSM),
  (0xB57, .L), (0xB58, .unassigned), (0xB5C, .L), (0xB5E, .unassigned), (0xB5F, .L), (0xB62, .NSM),
  (0xB64, .unassigned), (0xB66, .L), (0xB78, .unassigned), (0xB82, .NSM), (0xB83, .L),
  (0xB84, .unassigned), (0xB85, .L), (0xB8B, .unassigned), (0xB8E, .L), (0xB91, .unassigned),
  (0xB92, .L), (0xB96, .unassigned), (0xB99, .L), (0xB9B, .unassigned), (0xB9C, .L),
  (0xB9D, .unassigned), (0xB9E, .L), (0xBA0, .unassigned), (0xBA3, .L), (0xBA5, .unassigned),
  (0xBA8, .L), (0xBAB, .unassigned), (0xBAE, .L), (0xBBA, .unassigned), (0xBBE, .L), (0xBC0, .NSM),
  (0xBC1, .L), (0xBC3, .unassigned), (0xBC6, .L), (0xBC9, .unassigned), (0xBCA, .L), (0xBCD, .NSM),
  (0xBCE, .unassigned), (0xBD0, .L), (0xBD1, .unassigned), (0xBD7, .L), (0xBD8, .unassigned),
  (0xBE6, .L), (0xBF3, .ON), (0xBF9, .ET), (0xBFA, .ON), (0xBFB, .unassigned), (0xC00, .NSM),
  (0xC01, .L), (0xC04, .NSM), (0xC05, .L), (0xC0D, .unassigned), (0xC0E, .L), (0xC11, .unassigned),
  (0xC12, .L)]

/-- Classes from U+0C29 to U+0DD6. -/
def bidiClassRowsFrom0C29 : List (Nat × BidiClass) := [
  (0xC29, .unassigned), (0xC2A, .L), (0xC3A, .unassigned), (0xC3C, .NSM), (0xC3D, .L),
  (0xC3E, .NSM), (0xC41, .L), (0xC45, .unassigned), (0xC46, .NSM), (0xC49, .unassigned),
  (0xC4A, .NSM), (0xC4E, .unassigned), (0xC55, .NSM), (0xC57, .unassigned), (0xC58, .L),
  (0xC5B, .unassigned), (0xC5D, .L), (0xC5E, .unassigned), (0xC60, .L), (0xC62, .NSM),
  (0xC64, .unassigned), (0xC66, .L), (0xC70, .unassigned), (0xC77, .L), (0xC78, .ON), (0xC7F, .L),
  (0xC81, .NSM), (0xC82, .L), (0xC8D, .unassigned), (0xC8E, .L), (0xC91, .unassigned), (0xC92, .L),
  (0xCA9, .unassigned), (0xCAA, .L), (0xCB4, .unassigned), (0xCB5, .L), (0xCBA, .unassigned),
  (0xCBC, .NSM), (0xCBD, .L), (0xCC5, .unassigned), (0xCC6, .L), (0xCC9, .unassigned), (0xCCA, .L),
  (0xCCC, .NSM), (0xCCE, .unassigned), (0xCD5, .L), (0xCD7, .unassigned), (0xCDD, .L),
  (0xCDF, .unassigned), (0xCE0, .L), (0xCE2, .NSM), (0xCE4, .unassigned), (0xCE6, .L),
  (0xCF0, .unassigned), (0xCF1, .L), (0xCF3, .unassigned), (0xD00, .NSM), (0xD02, .L),
  (0xD0D, .unassigned), (0xD0E, .L), (0xD11, .unassigned), (0xD12, .L), (0xD3B, .NSM), (0xD3D, .L),
  (0xD41, .NSM), (0xD45, .unassigned), (0xD46, .L), (0xD49, .unassigned), (0xD4A, .L),
  (0xD4D, .NSM), (0xD4E, .L), (0xD50, .unassigned), (0xD54, .L), (0xD62, .NSM),
  (0xD64, .unassigned), (0xD66, .L), (0xD80, .unassigned), (0xD81, .NSM), (0xD82, .L),
  (0xD84, .unassigned), (0xD85, .L), (0xD97, .unassigned), (0xD9A, .L), (0xDB2, .unassigned),
  (0xDB3, .L), (0xDBC, .unassigned), (0xDBD, .L), (0xDBE, .unassigned), (0xDC0, .L),
  (0xDC7, .unassigned), (0xDCA, .NSM), (0xDCB, .unassigned), (0xDCF, .L), (0xDD2, .NSM),
  (0xDD5, .unassigned), (0xDD6, .NSM)]

/-- Classes from U+0DD7 to U+10C6. -/
def bidiClassRowsFrom0DD7 : List (Nat × BidiClass) := [
  (0xDD7, .unassigned), (0xDD8, .L), (0xDE0, .unassigned), (0xDE6, .L), (0xDF0, .unassigned),
  (0xDF2, .L), (0xDF5, .unassigned), (0xE01, .L), (0xE31, .NSM), (0xE32, .L), (0xE34, .NSM),
  (0xE3B, .unassigned), (0xE3F, .ET), (0xE40, .L), (0xE47, .NSM), (0xE4F, .L),
  (0xE5C, .unassigned), (0xE81, .L), (0xE83, .unassigned), (0xE84, .L), (0xE85, .unassigned),
  (0xE86, .L), (0xE8B, .unassigned), (0xE8C, .L), (0xEA4, .unassigned), (0xEA5, .L),
  (0xEA6, .unassigned), (0xEA7, .L), (0xEB1, .NSM), (0xEB2, .L), (0xEB4, .NSM), (0xEBD, .L),
  (0xEBE, .unassigned), (0xEC0, .L), (0xEC5, .unassigned), (0xEC6, .L), (0xEC7, .unassigned),
  (0xEC8, .NSM), (0xECE, .unassigned), (0xED0, .L), (0xEDA, .unassigned), (0xEDC, .L),
  (0xEE0, .unassigned), (0xF00, .L), (0xF18, .NSM), (0xF1A, .L), (0xF35, .NSM), (0xF36, .L),
  (0xF37, .NSM), (0xF38, .L), (0xF39, .NSM), (0xF3A, .ON), (0xF3E, .L), (0xF48, .unassigned),
  (0xF49, .L), (0xF6D, .unassigned), (0xF71, .NSM), (0xF7F, .L), (0xF80, .NSM), (0xF85, .L),
  (0xF86, .NSM), (0xF88, .L), (0xF8D, .NSM), (0xF98, .unassigned), (0xF99, .NSM),
  (0xFBD, .unassigned), (0xFBE, .L), (0xFC6, .NSM), (0xFC7, .L), (0xFCD, .unassigned), (0xFCE, .L),
  (0xFDB, .unassigned), (0x1000, .L), (0x102D, .NSM), (0x1031, .L), (0x1032, .NSM), (0x1038, .L),
  (0x1039, .NSM), (0x103B, .L), (0x103D, .NSM), (0x103F, .L), (0x1058, .NSM), (0x105A, .L),
  (0x105E, .NSM), (0x1061, .L), (0x1071, .NSM), (0x1075, .L), (0x1082, .NSM), (0x1083, .L),
  (0x1085, .NSM), (0x1087, .L), (0x108D, .NSM), (0x108E, .L), (0x109D, .NSM), (0x109E, .L),
  (0x10C6, .unassigned)]

/-- Classes from U+10C7 to U+187F. -/
def bidiClassRowsFrom10C7 : List (Nat × BidiClass) := [
  (0x10C7, .L), (0x10C8, .unassigned), (0x10CD, .L), (0x10CE, .unassigned), (0x10D0, .L),
  (0x1249, .unassigned), (0x124A, .L), (0x124E, .unassigned), (0x1250, .L), (0x1257, .unassigned),
  (0x1258, .L), (0x1259, .unassigned), (0x125A, .L), (0x125E, .unassigned), (0x1260, .L),
  (0x1289, .unassigned), (0x128A, .L), (0x128E, .unassigned), (0x1290, .L), (0x12B1, .unassigned),
  (0x12B2, .L), (0x12B6, .unassigned), (0x12B8, .L), (0x12BF, .unassigned), (0x12C0, .L),
  (0x12C1, .unassigned), (0x12C2, .L), (0x12C6, .unassigned), (0x12C8, .L), (0x12D7, .unassigned),
  (0x12D8, .L), (0x1311, .unassigned), (0x1312, .L), (0x1316, .unassigned), (0x1318, .L),
  (0x135B, .unassigned), (0x135D, .NSM), (0x1360, .L), (0x137D, .unassigned), (0x1380, .L),
  (0x1390, .ON), (0x139A, .unassigned), (0x13A0, .L), (0x13F6, .unassigned), (0x13F8, .L),
  (0x13FE, .unassigned), (0x1400, .ON), (0x1401, .L), (0x1680, .WS), (0x1681, .L), (0x169B, .ON),
  (0x169D, .unassigned), (0x16A0, .L), (0x16F9, .unassigned), (0x1700, .L), (0x1712, .NSM),
  (0x1715, .L), (0x1716, .unassigned), (0x171F, .L), (0x1732, .NSM), (0x1734, .L),
  (0x1737, .unassigned), (0x1740, .L), (0x1752, .NSM), (0x1754, .unassigned), (0x1760, .L),
  (0x176D, .unassigned), (0x176E, .L), (0x1771, .unassigned), (0x1772, .NSM),
  (0x1774, .unassigned), (0x1780, .L), (0x17B4, .NSM), (0x17B6, .L), (0x17B7, .NSM), (0x17BE, .L),
  (0x17C6, .NSM), (0x17C7, .L), (0x17C9, .NSM), (0x17D4, .L), (0x17DB, .ET), (0x17DC, .L),
  (0x17DD, .NSM), (0x17DE, .unassigned), (0x17E0, .L), (0x17EA, .unassigned), (0x17F0, .ON),
  (0x17FA, .unassigned), (0x1800, .ON), (0x180B, .NSM), (0x180E, .BN), (0x180F, .NSM),
  (0x1810, .L), (0x181A, .unassigned), (0x1820, .L), (0x1879, .unassigned)]

/-- Classes from U+1880 to U+1C35. -/
def bidiClassRowsFrom1880 : List (Nat × BidiClass) := [
  (0x1880, .L), (0x1885, .NSM), (0x1887, .L), (0x18A9, .NSM), (0x18AA, .L), (0x18AB, .unassigned),
  (0x18B0, .L), (0x18F6, .unassigned), (0x1900, .L), (0x191F, .unassigned), (0x1920, .NSM),
  (0x1923, .L), (0x1927, .NSM), (0x1929, .L), (0x192C, .unassigned), (0x1930, .L), (0x1932, .NSM),
  (0x1933, .L), (0x1939, .NSM), (0x193C, .unassigned), (0x1940, .ON), (0x1941, .unassigned),
  (0x1944, .ON), (0x1946, .L), (0x196E, .unassigned), (0x1970, .L), (0x1975, .unassigned),
  (0x1980, .L), (0x19AC, .unassigned), (0x19B0, .L), (0x19CA, .unassigned), (0x19D0, .L),
  (0x19DB, .unassigned), (0x19DE, .ON), (0x1A00, .L), (0x1A17, .NSM), (0x1A19, .L), (0x1A1B, .NSM),
  (0x1A1C, .unassigned), (0x1A1E, .L), (0x1A56, .NSM), (0x1A57, .L), (0x1A58, .NSM),
  (0x1A5F, .unassigned), (0x1A60, .NSM), (0x1A61, .L), (0x1A62, .NSM), (0x1A63, .L),
  (0x1A65, .NSM), (0x1A6D, .L), (0x1A73, .NSM), (0x1A7D, .unassigned), (0x1A7F, .NSM),
  (0x1A80, .L), (0x1A8A, .unassigned), (0x1A90, .L), (0x1A9A, .unassigned), (0x1AA0, .L),
  (0x1AAE, .unassigned), (0x1AB0, .NSM), (0x1ACF, .unassigned), (0x1B00, .NSM), (0x1B04, .L),
  (0x1B34, .NSM), (0x1B35, .L), (0x1B36, .NSM), (0x1B3B, .L), (0x1B3C, .NSM), (0x1B3D, .L),
  (0x1B42, .NSM), (0x1B43, .L), (0x1B4D, .unassigned), (0x1B50, .L), (0x1B6B, .NSM), (0x1B74, .L),
  (0x1B7F, .unassigned), (0x1B80, .NSM), (0x1B82, .L), (0x1BA2, .NSM), (0x1BA6, .L),
  (0x1BA8, .NSM), (0x1BAA, .L), (0x1BAB, .NSM), (0x1BAE, .L), (0x1BE6, .NSM), (0x1BE7, .L),
  (0x1BE8, .NSM), (0x1BEA, .L), (0x1BED, .NSM), (0x1BEE, .L), (0x1BEF, .NSM), (0x1BF2, .L),
  (0x1BF4, .unassigned), (0x1BFC, .L), (0x1C2C, .NSM), (0x1C34, .L)]

/-- Classes from U+1C36 to U+207B. -/
def bidiClassRowsFrom1C36 : List (Nat × BidiClass) := [
  (0x1C36, .NSM), (0x1C38, .unassigned), (0x1C3B, .L), (0x1C4A, .unassigned), (0x1C4D, .L),
  (0x1C89, .unassigned), (0x1C90, .L), (0x1CBB, .unassigned), (0x1CBD, .L), (0x1CC8, .unassigned),
  (0x1CD0, .NSM), (0x1CD3, .L), (0x1CD4, .NSM), (0x1CE1, .L), (0x1CE2, .NSM), (0x1CE9, .L),
  (0x1CED, .NSM), (0x1CEE, .L), (0x1CF4, .NSM), (0x1CF5, .L), (0x1CF8, .NSM), (0x1CFA, .L),
  (0x1CFB, .unassigned), (0x1D00, .L), (0x1DC0, .NSM), (0x1E00, .L), (0x1F16, .unassigned),
  (0x1F18, .L), (0x1F1E, .unassigned), (0x1F20, .L), (0x1F46, .unassigned), (0x1F48, .L),
  (0x1F4E, .unassigned), (0x1F50, .L), (0x1F58, .unassigned), (0x1F59, .L), (0x1F5A, .unassigned),
  (0x1F5B, .L), (0x1F5C, .unassigned), (0x1F5D, .L), (0x1F5E, .unassigned), (0x1F5F, .L),
  (0x1F7E, .unassigned), (0x1F80, .L), (0x1FB5, .unassigned), (0x1FB6, .L), (0x1FBD, .ON),
  (0x1FBE, .L), (0x1FBF, .ON), (0x1FC2, .L), (0x1FC5, .unassigned), (0x1FC6, .L), (0x1FCD, .ON),
  (0x1FD0, .L), (0x1FD4, .unassigned), (0x1FD6, .L), (0x1FDC, .unassigned), (0x1FDD, .ON),
  (0x1FE0, .L), (0x1FED, .ON), (0x1FF0, .unassigned), (0x1FF2, .L), (0x1FF5, .unassigned),
  (0x1FF6, .L), (0x1FFD, .ON), (0x1FFF, .unassigned), (0x2000, .WS), (0x200B, .BN), (0x200E, .L),
  (0x200F, .R), (0x2010, .ON), (0x2028, .WS), (0x2029, .B), (0x202A, .LRE), (0x202B, .RLE),
  (0x202C, .PDF), (0x202D, .LRO), (0x202E, .RLO), (0x202F, .CS), (0x2030, .ET), (0x2035, .ON),
  (0x2044, .CS), (0x2045, .ON), (0x205F, .WS), (0x2060, .BN), (0x2065, .unassigned),
  (0x2066, .LRI), (0x2067, .RLI), (0x2068, .FSI), (0x2069, .PDI), (0x206A, .BN), (0x2070, .EN),
  (0x2071, .L), (0x2072, .unassigned), (0x2074, .EN), (0x207A, .ES)]

/-- Classes from U+207C to U+2DCE. -/
def bidiClassRowsFrom207C : List (Nat × BidiClass) := [
  (0x207C, .ON), (0x207F, .L), (0x2080, .EN), (0x208A, .ES), (0x208C, .ON), (0x208F, .unassigned),
  (0x2090, .L), (0x209D, .unassigned), (0x20A0, .ET), (0x20C1, .unassigned), (0x20D0, .NSM),
  (0x20F1, .unassigned), (0x2100, .ON), (0x2102, .L), (0x2103, .ON), (0x2107, .L), (0x2108, .ON),
  (0x210A, .L), (0x2114, .ON), (0x2115, .L), (0x2116, .ON), (0x2119, .L), (0x211E, .ON),
  (0x2124, .L), (0x2125, .ON), (0x2126, .L), (0x2127, .ON), (0x2128, .L), (0x2129, .ON),
  (0x212A, .L), (0x212E, .ET), (0x212F, .L), (0x213A, .ON), (0x213C, .L), (0x2140, .ON),
  (0x2145, .L), (0x214A, .ON), (0x214E, .L), (0x2150, .ON), (0x2160, .L), (0x2189, .ON),
  (0x218C, .unassigned), (0x2190, .ON), (0x2212, .ES), (0x2213, .ET), (0x2214, .ON), (0x2336, .L),
  (0x237B, .ON), (0x2395, .L), (0x2396, .ON), (0x2427, .unassigned), (0x2440, .ON),
  (0x244B, .unassigned), (0x2460, .ON), (0x2488, .EN), (0x249C, .L), (0x24EA, .ON), (0x26AC, .L),
  (0x26AD, .ON), (0x2800, .L), (0x2900, .ON), (0x2B74, .unassigned), (0x2B76, .ON),
  (0x2B96, .unassigned), (0x2B97, .ON), (0x2C00, .L), (0x2CE5, .ON), (0x2CEB, .L), (0x2CEF, .NSM),
  (0x2CF2, .L), (0x2CF4, .unassigned), (0x2CF9, .ON), (0x2D00, .L), (0x2D26, .unassigned),
  (0x2D27, .L), (0x2D28, .unassigned), (0x2D2D, .L), (0x2D2E, .unassigned), (0x2D30, .L),
  (0x2D68, .unassigned), (0x2D6F, .L), (0x2D71, .unassigned), (0x2D7F, .NSM), (0x2D80, .L),
  (0x2D97, .unassigned), (0x2DA0, .L), (0x2DA7, .unassigned), (0x2DA8, .L), (0x2DAF, .unassigned),
  (0x2DB0, .L), (0x2DB7, .unassigned), (0x2DB8, .L), (0x2DBF, .unassigned), (0x2DC0, .L),
  (0x2DC7, .unassigned), (0x2DC8, .L)]

/-- Classes from U+2DCF to U+A801. -/
def bidiClassRowsFrom2DCF : List (Nat × BidiClass) := [
  (0x2DCF, .unassigned), (0x2DD0, .L), (0x2DD7, .unassigned), (0x2DD8, .L), (0x2DDF, .unassigned),
  (0x2DE0, .NSM), (0x2E00, .ON), (0x2E5E, .unassigned), (0x2E80, .ON), (0x2E9A, .unassigned),
  (0x2E9B, .ON), (0x2EF4, .unassigned), (0x2F00, .ON), (0x2FD6, .unassigned), (0x2FF0, .ON),
  (0x2FFC, .unassigned), (0x3000, .WS), (0x3001, .ON), (0x3005, .L), (0x3008, .ON), (0x3021, .L),
  (0x302A, .NSM), (0x302E, .L), (0x3030, .ON), (0x3031, .L), (0x3036, .ON), (0x3038, .L),
  (0x303D, .ON), (0x3040, .unassigned), (0x3041, .L), (0x3097, .unassigned), (0x3099, .NSM),
  (0x309B, .ON), (0x309D, .L), (0x30A0, .ON), (0x30A1, .L), (0x30FB, .ON), (0x30FC, .L),
  (0x3100, .unassigned), (0x3105, .L), (0x3130, .unassigned), (0x3131, .L), (0x318F, .unassigned),
  (0x3190, .L), (0x31C0, .ON), (0x31E4, .unassigned), (0x31F0, .L), (0x321D, .ON),
  (0x321F, .unassigned), (0x3220, .L), (0x3250, .ON), (0x3260, .L), (0x327C, .ON), (0x327F, .L),
  (0x32B1, .ON), (0x32C0, .L), (0x32CC, .ON), (0x32D0, .L), (0x3377, .ON), (0x337B, .L),
  (0x33DE, .ON), (0x33E0, .L), (0x33FF, .ON), (0x3400, .L), (0x4DC0, .ON), (0x4E00, .L),
  (0xA48D, .unassigned), (0xA490, .ON), (0xA4C7, .unassigned), (0xA4D0, .L), (0xA60D, .ON),
  (0xA610, .L), (0xA62C, .unassigned), (0xA640, .L), (0xA66F, .NSM), (0xA673, .ON), (0xA674, .NSM),
  (0xA67E, .ON), (0xA680, .L), (0xA69E, .NSM), (0xA6A0, .L), (0xA6F0, .NSM), (0xA6F2, .L),
  (0xA6F8, .unassigned), (0xA700, .ON), (0xA722, .L), (0xA788, .ON), (0xA789, .L),
  (0xA7CB, .unassigned), (0xA7D0, .L), (0xA7D2, .unassigned), (0xA7D3, .L), (0xA7D4, .unassigned),
  (0xA7D5, .L), (0xA7DA, .unassigned), (0xA7F2, .L)]

/-- Classes from U+A802 to U+ABE4. -/
def bidiClassRowsFromA802 : List (Nat × BidiClass) := [
  (0xA802, .NSM), (0xA803, .L), (0xA806, .NSM), (0xA807, .L), (0xA80B, .NSM), (0xA80C, .L),
  (0xA825, .NSM), (0xA827, .L), (0xA828, .ON), (0xA82C, .NSM), (0xA82D, .unassigned), (0xA830, .L),
  (0xA838, .ET), (0xA83A, .unassigned), (0xA840, .L), (0xA874, .ON), (0xA878, .unassigned),
  (0xA880, .L), (0xA8C4, .NSM), (0xA8C6, .unassigned), (0xA8CE, .L), (0xA8DA, .unassigned),
  (0xA8E0, .NSM), (0xA8F2, .L), (0xA8FF, .NSM), (0xA900, .L), (0xA926, .NSM), (0xA92E, .L),
  (0xA947, .NSM), (0xA952, .L), (0xA954, .unassigned), (0xA95F, .L), (0xA97D, .unassigned),
  (0xA980, .NSM), (0xA983, .L), (0xA9B3, .NSM), (0xA9B4, .L), (0xA9B6, .NSM), (0xA9BA, .L),
  (0xA9BC, .NSM), (0xA9BE, .L), (0xA9CE, .unassigned), (0xA9CF, .L), (0xA9DA, .unassigned),
  (0xA9DE, .L), (0xA9E5, .NSM), (0xA9E6, .L), (0xA9FF, .unassigned), (0xAA00, .L), (0xAA29, .NSM),
  (0xAA2F, .L), (0xAA31, .NSM), (0xAA33, .L), (0xAA35, .NSM), (0xAA37, .unassigned), (0xAA40, .L),
  (0xAA43, .NSM), (0xAA44, .L), (0xAA4C, .NSM), (0xAA4D, .L), (0xAA4E, .unassigned), (0xAA50, .L),
  (0xAA5A, .unassigned), (0xAA5C, .L), (0xAA7C, .NSM), (0xAA7D, .L), (0xAAB0, .NSM), (0xAAB1, .L),
  (0xAAB2, .NSM), (0xAAB5, .L), (0xAAB7, .NSM), (0xAAB9, .L), (0xAABE, .NSM), (0xAAC0, .L),
  (0xAAC1, .NSM), (0xAAC2, .L), (0xAAC3, .unassigned), (0xAADB, .L), (0xAAEC, .NSM), (0xAAEE, .L),
  (0xAAF6, .NSM), (0xAAF7, .unassigned), (0xAB01, .L), (0xAB07, .unassigned), (0xAB09, .L),
  (0xAB0F, .unassigned), (0xAB11, .L), (0xAB17, .unassigned), (0xAB20, .L), (0xAB27, .unassigned),
  (0xAB28, .L), (0xAB2F, .unassigned), (0xAB30, .L), (0xAB6A, .ON), (0xAB6C, .unassigned),
  (0xAB70, .L)]

/-- Classes from U+ABE5 to U+FFD1. -/
def bidiClassRowsFromABE5 : List (Nat × BidiClass) := [
  (0xABE5, .NSM), (0xABE6, .L), (0xABE8, .NSM), (0xABE9, .L), (0xABED, .NSM),
  (0xABEE, .unassigned), (0xABF0, .L), (0xABFA, .unassigned), (0xAC00, .L), (0xD7A4, .unassigned),
  (0xD7B0, .L), (0xD7C7, .unassigned), (0xD7CB, .L), (0xD7FC, .unassigned), (0xD800, .L),
  (0xFA6E, .unassigned), (0xFA70, .L), (0xFADA, .unassigned), (0xFB00, .L), (0xFB07, .unassigned),
  (0xFB13, .L), (0xFB18, .unassigned), (0xFB1D, .R), (0xFB1E, .NSM), (0xFB1F, .R), (0xFB29, .ES),
  (0xFB2A, .R), (0xFB37, .unassigned), (0xFB38, .R), (0xFB3D, .unassigned), (0xFB3E, .R),
  (0xFB3F, .unassigned), (0xFB40, .R), (0xFB42, .unassigned), (0xFB43, .R), (0xFB45, .unassigned),
  (0xFB46, .R), (0xFB50, .AL), (0xFBC3, .unassigned), (0xFBD3, .AL), (0xFD3E, .ON), (0xFD50, .AL),
  (0xFD90, .unassigned), (0xFD92, .AL), (0xFDC8, .unassigned), (0xFDCF, .ON),
  (0xFDD0, .unassigned), (0xFDF0, .AL), (0xFDFD, .ON), (0xFE00, .NSM), (0xFE10, .ON),
  (0xFE1A, .unassigned), (0xFE20, .NSM), (0xFE30, .ON), (0xFE50, .CS), (0xFE51, .ON),
  (0xFE52, .CS), (0xFE53, .unassigned), (0xFE54, .ON), (0xFE55, .CS), (0xFE56, .ON), (0xFE5F, .ET),
  (0xFE60, .ON), (0xFE62, .ES), (0xFE64, .ON), (0xFE67, .unassigned), (0xFE68, .ON), (0xFE69, .ET),
  (0xFE6B, .ON), (0xFE6C, .unassigned), (0xFE70, .AL), (0xFE75, .unassigned), (0xFE76, .AL),
  (0xFEFD, .unassigned), (0xFEFF, .BN), (0xFF00, .unassigned), (0xFF01, .ON), (0xFF03, .ET),
  (0xFF06, .ON), (0xFF0B, .ES), (0xFF0C, .CS), (0xFF0D, .ES), (0xFF0E, .CS), (0xFF10, .EN),
  (0xFF1A, .CS), (0xFF1B, .ON), (0xFF21, .L), (0xFF3B, .ON), (0xFF41, .L), (0xFF5B, .ON),
  (0xFF66, .L), (0xFFBF, .unassigned), (0xFFC2, .L), (0xFFC8, .unassigned), (0xFFCA, .L),
  (0xFFD0, .unassigned)]

/-- Classes from U+FFD2 to U+10767. -/
def bidiClassRowsFromFFD2 : List (Nat × BidiClass) := [
  (0xFFD2, .L), (0xFFD8, .unassigned), (0xFFDA, .L), (0xFFDD, .unassigned), (0xFFE0, .ET),
  (0xFFE2, .ON), (0xFFE5, .ET), (0xFFE7, .unassigned), (0xFFE8, .ON), (0xFFEF, .unassigned),
  (0xFFF9, .ON), (0xFFFE, .unassigned), (0x10000, .L), (0x1000C, .unassigned), (0x1000D, .L),
  (0x10027, .unassigned), (0x10028, .L), (0x1003B, .unassigned), (0x1003C, .L),
  (0x1003E, .unassigned), (0x1003F, .L), (0x1004E, .unassigned), (0x10050, .L),
  (0x1005E, .unassigned), (0x10080, .L), (0x100FB, .unassigned), (0x10100, .L), (0x10101, .ON),
  (0x10102, .L), (0x10103, .unassigned), (0x10107, .L), (0x10134, .unassigned), (0x10137, .L),
  (0x10140, .ON), (0x1018D, .L), (0x1018F, .unassigned), (0x10190, .ON), (0x1019D, .unassigned),
  (0x101A0, .ON), (0x101A1, .unassigned), (0x101D0, .L), (0x101FD, .NSM), (0x101FE, .unassigned),
  (0x10280, .L), (0x1029D, .unassigned), (0x102A0, .L), (0x102D1, .unassigned), (0x102E0, .NSM),
  (0x102E1, .EN), (0x102FC, .unassigned), (0x10300, .L), (0x10324, .unassigned), (0x1032D, .L),
  (0x1034B, .unassigned), (0x10350, .L), (0x10376, .NSM), (0x1037B, .unassigned), (0x10380, .L),
  (0x1039E, .unassigned), (0x1039F, .L), (0x103C4, .unassigned), (0x103C8, .L),
  (0x103D6, .unassigned), (0x10400, .L), (0x1049E, .unassigned), (0x104A0, .L),
  (0x104AA, .unassigned), (0x104B0, .L), (0x104D4, .unassigned), (0x104D8, .L),
  (0x104FC, .unassigned), (0x10500, .L), (0x10528, .unassigned), (0x10530, .L),
  (0x10564, .unassigned), (0x1056F, .L), (0x1057B, .unassigned), (0x1057C, .L),
  (0x1058B, .unassigned), (0x1058C, .L), (0x10593, .unassigned), (0x10594, .L),
  (0x10596, .unassigned), (0x10597, .L), (0x105A2, .unassigned), (0x105A3, .L),
  (0x105B2, .unassigned), (0x105B3, .L), (0x105BA, .unassigned), (0x105BB, .L),
  (0x105BD, .unassigned), (0x10600, .L), (0x10737, .unassigned), (0x10740, .L),
  (0x10756, .unassigned), (0x10760, .L)]

/-- Classes from U+10768 to U+10EAF. -/
def bidiClassRowsFrom10768 : List (Nat × BidiClass) := [
  (0x10768, .unassigned), (0x10780, .L), (0x10786, .unassigned), (0x10787, .L),
  (0x107B1, .unassigned), (0x107B2, .L), (0x107BB, .unassigned), (0x10800, .R),
  (0x10806, .unassigned), (0x10808, .R), (0x10809, .unassigned), (0x1080A, .R),
  (0x10836, .unassigned), (0x10837, .R), (0x10839, .unassigned), (0x1083C, .R),
  (0x1083D, .unassigned), (0x1083F, .R), (0x10856, .unassigned), (0x10857, .R),
  (0x1089F, .unassigned), (0x108A7, .R), (0x108B0, .unassigned), (0x108E0, .R),
  (0x108F3, .unassigned), (0x108F4, .R), (0x108F6, .unassigned), (0x108FB, .R),
  (0x1091C, .unassigned), (0x1091F, .ON), (0x10920, .R), (0x1093A, .unassigned), (0x1093F, .R),
  (0x10940, .unassigned), (0x10980, .R), (0x109B8, .unassigned), (0x109BC, .R),
  (0x109D0, .unassigned), (0x109D2, .R), (0x10A01, .NSM), (0x10A04, .unassigned), (0x10A05, .NSM),
  (0x10A07, .unassigned), (0x10A0C, .NSM), (0x10A10, .R), (0x10A14, .unassigned), (0x10A15, .R),
  (0x10A18, .unassigned), (0x10A19, .R), (0x10A36, .unassigned), (0x10A38, .NSM),
  (0x10A3B, .unassigned), (0x10A3F, .NSM), (0x10A40, .R), (0x10A49, .unassigned), (0x10A50, .R),
  (0x10A59, .unassigned), (0x10A60, .R), (0x10AA0, .unassigned), (0x10AC0, .R), (0x10AE5, .NSM),
  (0x10AE7, .unassigned), (0x10AEB, .R), (0x10AF7, .unassigned), (0x10B00, .R),
  (0x10B36, .unassigned), (0x10B39, .ON), (0x10B40, .R), (0x10B56, .unassigned), (0x10B58, .R),
  (0x10B73, .unassigned), (0x10B78, .R), (0x10B92, .unassigned), (0x10B99, .R),
  (0x10B9D, .unassigned), (0x10BA9, .R), (0x10BB0, .unassigned), (0x10C00, .R),
  (0x10C49, .unassigned), (0x10C80, .R), (0x10CB3, .unassigned), (0x10CC0, .R),
  (0x10CF3, .unassigned), (0x10CFA, .R), (0x10D00, .AL), (0x10D24, .NSM), (0x10D28, .unassigned),
  (0x10D30, .AN), (0x10D3A, .unassigned), (0x10E60, .AN), (0x10E7F, .unassigned), (0x10E80, .R),
  (0x10EAA, .unassigned), (0x10EAB, .NSM), (0x10EAD, .R), (0x10EAE, .unassigned)]

/-- Classes from U+10EB0 to U+11303. -/
def bidiClassRowsFrom10EB0 : List (Nat × BidiClass) := [
  (0x10EB0, .R), (0x10EB2, .unassigned), (0x10F00, .R), (0x10F28, .unassigned), (0x10F30, .AL),
  (0x10F46, .NSM), (0x10F51, .AL), (0x10F5A, .unassigned), (0x10F70, .R), (0x10F82, .NSM),
  (0x10F86, .R), (0x10F8A, .unassigned), (0x10FB0, .R), (0x10FCC, .unassigned), (0x10FE0, .R),
  (0x10FF7, .unassigned), (0x11000, .L), (0x11001, .NSM), (0x11002, .L), (0x11038, .NSM),
  (0x11047, .L), (0x1104E, .unassigned), (0x11052, .ON), (0x11066, .L), (0x11070, .NSM),
  (0x11071, .L), (0x11073, .NSM), (0x11075, .L), (0x11076, .unassigned), (0x1107F, .NSM),
  (0x11082, .L), (0x110B3, .NSM), (0x110B7, .L), (0x110B9, .NSM), (0x110BB, .L), (0x110C2, .NSM),
  (0x110C3, .unassigned), (0x110CD, .L), (0x110CE, .unassigned), (0x110D0, .L),
  (0x110E9, .unassigned), (0x110F0, .L), (0x110FA, .unassigned), (0x11100, .NSM), (0x11103, .L),
  (0x11127, .NSM), (0x1112C, .L), (0x1112D, .NSM), (0x11135, .unassigned), (0x11136, .L),
  (0x11148, .unassigned), (0x11150, .L), (0x11173, .NSM), (0x11174, .L), (0x11177, .unassigned),
  (0x11180, .NSM), (0x11182, .L), (0x111B6, .NSM), (0x111BF, .L), (0x111C9, .NSM), (0x111CD, .L),
  (0x111CF, .NSM), (0x111D0, .L), (0x111E0, .unassigned), (0x111E1, .L), (0x111F5, .unassigned),
  (0x11200, .L), (0x11212, .unassigned), (0x11213, .L), (0x1122F, .NSM), (0x11232, .L),
  (0x11234, .NSM), (0x11235, .L), (0x11236, .NSM), (0x11238, .L), (0x1123E, .NSM),
  (0x1123F, .unassigned), (0x11280, .L), (0x11287, .unassigned), (0x11288, .L),
  (0x11289, .unassigned), (0x1128A, .L), (0x1128E, .unassigned), (0x1128F, .L),
  (0x1129E, .unassigned), (0x1129F, .L), (0x112AA, .unassigned), (0x112B0, .L), (0x112DF, .NSM),
  (0x112E0, .L), (0x112E3, .NSM), (0x112EB, .unassigned), (0x112F0, .L), (0x112FA, .unassigned),
  (0x11300, .NSM), (0x11302, .L)]

/-- Classes from U+11304 to U+11726. -/
def bidiClassRowsFrom11304 : List (Nat × BidiClass) := [
  (0x11304, .unassigned), (0x11305, .L), (0x1130D, .unassigned), (0x1130F, .L),
  (0x11311, .unassigned), (0x11313, .L), (0x11329, .unassigned), (0x1132A, .L),
  (0x11331, .unassigned), (0x11332, .L), (0x11334, .unassigned), (0x11335, .L),
  (0x1133A, .unassigned), (0x1133B, .NSM), (0x1133D, .L), (0x11340, .NSM), (0x11341, .L),
  (0x11345, .unassigned), (0x11347, .L), (0x11349, .unassigned), (0x1134B, .L),
  (0x1134E, .unassigned), (0x11350, .L), (0x11351, .unassigned), (0x11357, .L),
  (0x11358, .unassigned), (0x1135D, .L), (0x11364, .unassigned), (0x11366, .NSM),
  (0x1136D, .unassigned), (0x11370, .NSM), (0x11375, .unassigned), (0x11400, .L), (0x11438, .NSM),
  (0x11440, .L), (0x11442, .NSM), (0x11445, .L), (0x11446, .NSM), (0x11447, .L),
  (0x1145C, .unassigned), (0x1145D, .L), (0x1145E, .NSM), (0x1145F, .L), (0x11462, .unassigned),
  (0x11480, .L), (0x114B3, .NSM), (0x114B9, .L), (0x114BA, .NSM), (0x114BB, .L), (0x114BF, .NSM),
  (0x114C1, .L), (0x114C2, .NSM), (0x114C4, .L), (0x114C8, .unassigned), (0x114D0, .L),
  (0x114DA, .unassigned), (0x11580, .L), (0x115B2, .NSM), (0x115B6, .unassigned), (0x115B8, .L),
  (0x115BC, .NSM), (0x115BE, .L), (0x115BF, .NSM), (0x115C1, .L), (0x115DC, .NSM),
  (0x115DE, .unassigned), (0x11600, .L), (0x11633, .NSM), (0x1163B, .L), (0x1163D, .NSM),
  (0x1163E, .L), (0x1163F, .NSM), (0x11641, .L), (0x11645, .unassigned), (0x11650, .L),
  (0x1165A, .unassigned), (0x11660, .ON), (0x1166D, .unassigned), (0x11680, .L), (0x116AB, .NSM),
  (0x116AC, .L), (0x116AD, .NSM), (0x116AE, .L), (0x116B0, .NSM), (0x116B6, .L), (0x116B7, .NSM),
  (0x116B8, .L), (0x116BA, .unassigned), (0x116C0, .L), (0x116CA, .unassigned), (0x11700, .L),
  (0x1171B, .unassigned), (0x1171D, .NSM), (0x11720, .L), (0x11722, .NSM), (0x11726, .L)]

/-- Classes from U+11727 to U+11D3B. -/
def bidiClassRowsFrom11727 : List (Nat × BidiClass) := [
  (0x11727, .NSM), (0x1172C, .unassigned), (0x11730, .L), (0x11747, .unassigned), (0x11800, .L),
  (0x1182F, .NSM), (0x11838, .L), (0x11839, .NSM), (0x1183B, .L), (0x1183C, .unassigned),
  (0x118A0, .L), (0x118F3, .unassigned), (0x118FF, .L), (0x11907, .unassigned), (0x11909, .L),
  (0x1190A, .unassigned), (0x1190C, .L), (0x11914, .unassigned), (0x11915, .L),
  (0x11917, .unassigned), (0x11918, .L), (0x11936, .unassigned), (0x11937, .L),
  (0x11939, .unassigned), (0x1193B, .NSM), (0x1193D, .L), (0x1193E, .NSM), (0x1193F, .L),
  (0x11943, .NSM), (0x11944, .L), (0x11947, .unassigned), (0x11950, .L), (0x1195A, .unassigned),
  (0x119A0, .L), (0x119A8, .unassigned), (0x119AA, .L), (0x119D4, .NSM), (0x119D8, .unassigned),
  (0x119DA, .NSM), (0x119DC, .L), (0x119E0, .NSM), (0x119E1, .L), (0x119E5, .unassigned),
  (0x11A00, .L), (0x11A01, .NSM), (0x11A07, .L), (0x11A09, .NSM), (0x11A0B, .L), (0x11A33, .NSM),
  (0x11A39, .L), (0x11A3B, .NSM), (0x11A3F, .L), (0x11A47, .NSM), (0x11A48, .unassigned),
  (0x11A50, .L), (0x11A51, .NSM), (0x11A57, .L), (0x11A59, .NSM), (0x11A5C, .L), (0x11A8A, .NSM),
  (0x11A97, .L), (0x11A98, .NSM), (0x11A9A, .L), (0x11AA3, .unassigned), (0x11AB0, .L),
  (0x11AF9, .unassigned), (0x11C00, .L), (0x11C09, .unassigned), (0x11C0A, .L), (0x11C30, .NSM),
  (0x11C37, .unassigned), (0x11C38, .NSM), (0x11C3E, .L), (0x11C46, .unassigned), (0x11C50, .L),
  (0x11C6D, .unassigned), (0x11C70, .L), (0x11C90, .unassigned), (0x11C92, .NSM),
  (0x11CA8, .unassigned), (0x11CA9, .L), (0x11CAA, .NSM), (0x11CB1, .L), (0x11CB2, .NSM),
  (0x11CB4, .L), (0x11CB5, .NSM), (0x11CB7, .unassigned), (0x11D00, .L), (0x11D07, .unassigned),
  (0x11D08, .L), (0x11D0A, .unassigned), (0x11D0B, .L), (0x11D31, .NSM), (0x11D37, .unassigned),
  (0x11D3A, .NSM), (0x11D3B, .unassigned)]

/-- Classes from U+11D3C to U+187F7. -/
def bidiClassRowsFrom11D3C : List (Nat × BidiClass) := [
  (0x11D3C, .NSM), (0x11D3E, .unassigned), (0x11D3F, .NSM), (0x11D46, .L), (0x11D47, .NSM),
  (0x11D48, .unassigned), (0x11D50, .L), (0x11D5A, .unassigned), (0x11D60, .L),
  (0x11D66, .unassigned), (0x11D67, .L), (0x11D69, .unassigned), (0x11D6A, .L),
  (0x11D8F, .unassigned), (0x11D90, .NSM), (0x11D92, .unassigned), (0x11D93, .L), (0x11D95, .NSM),
  (0x11D96, .L), (0x11D97, .NSM), (0x11D98, .L), (0x11D99, .unassigned), (0x11DA0, .L),
  (0x11DAA, .unassigned), (0x11EE0, .L), (0x11EF3, .NSM), (0x11EF5, .L), (0x11EF9, .unassigned),
  (0x11FB0, .L), (0x11FB1, .unassigned), (0x11FC0, .L), (0x11FD5, .ON), (0x11FDD, .ET),
  (0x11FE1, .ON), (0x11FF2, .unassigned), (0x11FFF, .L), (0x1239A, .unassigned), (0x12400, .L),
  (0x1246F, .unassigned), (0x12470, .L), (0x12475, .unassigned), (0x12480, .L),
  (0x12544, .unassigned), (0x12F90, .L), (0x12FF3, .unassigned), (0x13000, .L),
  (0x1342F, .unassigned), (0x13430, .L), (0x13439, .unassigned), (0x14400, .L),
  (0x14647, .unassigned), (0x16800, .L), (0x16A39, .unassigned), (0x16A40, .L),
  (0x16A5F, .unassigned), (0x16A60, .L), (0x16A6A, .unassigned), (0x16A6E, .L),
  (0x16ABF, .unassigned), (0x16AC0, .L), (0x16ACA, .unassigned), (0x16AD0, .L),
  (0x16AEE, .unassigned), (0x16AF0, .NSM), (0x16AF5, .L), (0x16AF6, .unassigned), (0x16B00, .L),
  (0x16B30, .NSM), (0x16B37, .L), (0x16B46, .unassigned), (0x16B50, .L), (0x16B5A, .unassigned),
  (0x16B5B, .L), (0x16B62, .unassigned), (0x16B63, .L), (0x16B78, .unassigned), (0x16B7D, .L),
  (0x16B90, .unassigned), (0x16E40, .L), (0x16E9B, .unassigned), (0x16F00, .L),
  (0x16F4B, .unassigned), (0x16F4F, .NSM), (0x16F50, .L), (0x16F88, .unassigned), (0x16F8F, .NSM),
  (0x16F93, .L), (0x16FA0, .unassigned), (0x16FE0, .L), (0x16FE2, .ON), (0x16FE3, .L),
  (0x16FE4, .NSM), (0x16FE5, .unassigned), (0x16FF0, .L), (0x16FF2, .unassigned), (0x17000, .L)]

/-- Classes from U+187F8 to U+1D545. -/
def bidiClassRowsFrom187F8 : List (Nat × BidiClass) := [
  (0x187F8, .unassigned), (0x18800, .L), (0x18CD6, .unassigned), (0x18D00, .L),
  (0x18D09, .unassigned), (0x1AFF0, .L), (0x1AFF4, .unassigned), (0x1AFF5, .L),
  (0x1AFFC, .unassigned), (0x1AFFD, .L), (0x1AFFF, .unassigned), (0x1B000, .L),
  (0x1B123, .unassigned), (0x1B150, .L), (0x1B153, .unassigned), (0x1B164, .L),
  (0x1B168, .unassigned), (0x1B170, .L), (0x1B2FC, .unassigned), (0x1BC00, .L),
  (0x1BC6B, .unassigned), (0x1BC70, .L), (0x1BC7D, .unassigned), (0x1BC80, .L),
  (0x1BC89, .unassigned), (0x1BC90, .L), (0x1BC9A, .unassigned), (0x1BC9C, .L), (0x1BC9D, .NSM),
  (0x1BC9F, .L), (0x1BCA0, .BN), (0x1BCA4, .unassigned), (0x1CF00, .NSM), (0x1CF2E, .unassigned),
  (0x1CF30, .NSM), (0x1CF47, .unassigned), (0x1CF50, .L), (0x1CFC4, .unassigned), (0x1D000, .L),
  (0x1D0F6, .unassigned), (0x1D100, .L), (0x1D127, .unassigned), (0x1D129, .L), (0x1D167, .NSM),
  (0x1D16A, .L), (0x1D173, .BN), (0x1D17B, .NSM), (0x1D183, .L), (0x1D185, .NSM), (0x1D18C, .L),
  (0x1D1AA, .NSM), (0x1D1AE, .L), (0x1D1E9, .ON), (0x1D1EB, .unassigned), (0x1D200, .ON),
  (0x1D242, .NSM), (0x1D245, .ON), (0x1D246, .unassigned), (0x1D2E0, .L), (0x1D2F4, .unassigned),
  (0x1D300, .ON), (0x1D357, .unassigned), (0x1D360, .L), (0x1D379, .unassigned), (0x1D400, .L),
  (0x1D455, .unassigned), (0x1D456, .L), (0x1D49D, .unassigned), (0x1D49E, .L),
  (0x1D4A0, .unassigned), (0x1D4A2, .L), (0x1D4A3, .unassigned), (0x1D4A5, .L),
  (0x1D4A7, .unassigned), (0x1D4A9, .L), (0x1D4AD, .unassigned), (0x1D4AE, .L),
  (0x1D4BA, .unassigned), (0x1D4BB, .L), (0x1D4BC, .unassigned), (0x1D4BD, .L),
  (0x1D4C4, .unassigned), (0x1D4C5, .L), (0x1D506, .unassigned), (0x1D507, .L),
  (0x1D50B, .unassigned), (0x1D50D, .L), (0x1D515, .unassigned), (0x1D516, .L),
  (0x1D51D, .unassigned), (0x1D51E, .L), (0x1D53A, .unassigned), (0x1D53B, .L),
  (0x1D53F, .unassigned), (0x1D540, .L), (0x1D545, .unassigned)]

/-- Classes from U+1D546 to U+1EE26. -/
def bidiClassRowsFrom1D546 : List (Nat × BidiClass) := [
  (0x1D546, .L), (0x1D547, .unassigned), (0x1D54A, .L), (0x1D551, .unassigned), (0x1D552, .L),
  (0x1D6A6, .unassigned), (0x1D6A8, .L), (0x1D6DB, .ON), (0x1D6DC, .L), (0x1D715, .ON),
  (0x1D716, .L), (0x1D74F, .ON), (0x1D750, .L), (0x1D789, .ON), (0x1D78A, .L), (0x1D7C3, .ON),
  (0x1D7C4, .L), (0x1D7CC, .unassigned), (0x1D7CE, .EN), (0x1D800, .L), (0x1DA00, .NSM),
  (0x1DA37, .L), (0x1DA3B, .NSM), (0x1DA6D, .L), (0x1DA75, .NSM), (0x1DA76, .L), (0x1DA84, .NSM),
  (0x1DA85, .L), (0x1DA8C, .unassigned), (0x1DA9B, .NSM), (0x1DAA0, .unassigned), (0x1DAA1, .NSM),
  (0x1DAB0, .unassigned), (0x1DF00, .L), (0x1DF1F, .unassigned), (0x1E000, .NSM),
  (0x1E007, .unassigned), (0x1E008, .NSM), (0x1E019, .unassigned), (0x1E01B, .NSM),
  (0x1E022, .unassigned), (0x1E023, .NSM), (0x1E025, .unassigned), (0x1E026, .NSM),
  (0x1E02B, .unassigned), (0x1E100, .L), (0x1E12D, .unassigned), (0x1E130, .NSM), (0x1E137, .L),
  (0x1E13E, .unassigned), (0x1E140, .L), (0x1E14A, .unassigned), (0x1E14E, .L),
  (0x1E150, .unassigned), (0x1E290, .L), (0x1E2AE, .NSM), (0x1E2AF, .unassigned), (0x1E2C0, .L),
  (0x1E2EC, .NSM), (0x1E2F0, .L), (0x1E2FA, .unassigned), (0x1E2FF, .ET), (0x1E300, .unassigned),
  (0x1E7E0, .L), (0x1E7E7, .unassigned), (0x1E7E8, .L), (0x1E7EC, .unassigned), (0x1E7ED, .L),
  (0x1E7EF, .unassigned), (0x1E7F0, .L), (0x1E7FF, .unassigned), (0x1E800, .R),
  (0x1E8C5, .unassigned), (0x1E8C7, .R), (0x1E8D0, .NSM), (0x1E8D7, .unassigned), (0x1E900, .R),
  (0x1E944, .NSM), (0x1E94B, .R), (0x1E94C, .unassigned), (0x1E950, .R), (0x1E95A, .unassigned),
  (0x1E95E, .R), (0x1E960, .unassigned), (0x1EC71, .AL), (0x1ECB5, .unassigned), (0x1ED01, .AL),
  (0x1ED3E, .unassigned), (0x1EE00, .AL), (0x1EE04, .unassigned), (0x1EE05, .AL),
  (0x1EE20, .unassigned), (0x1EE21, .AL), (0x1EE23, .unassigned), (0x1EE24, .AL),
  (0x1EE25, .unassigned)]

/-- Classes from U+1EE27 to U+1F6FC. -/
def bidiClassRowsFrom1EE27 : List (Nat × BidiClass) := [
  (0x1EE27, .AL), (0x1EE28, .unassigned), (0x1EE29, .AL), (0x1EE33, .unassigned), (0x1EE34, .AL),
  (0x1EE38, .unassigned), (0x1EE39, .AL), (0x1EE3A, .unassigned), (0x1EE3B, .AL),
  (0x1EE3C, .unassigned), (0x1EE42, .AL), (0x1EE43, .unassigned), (0x1EE47, .AL),
  (0x1EE48, .unassigned), (0x1EE49, .AL), (0x1EE4A, .unassigned), (0x1EE4B, .AL),
  (0x1EE4C, .unassigned), (0x1EE4D, .AL), (0x1EE50, .unassigned), (0x1EE51, .AL),
  (0x1EE53, .unassigned), (0x1EE54, .AL), (0x1EE55, .unassigned), (0x1EE57, .AL),
  (0x1EE58, .unassigned), (0x1EE59, .AL), (0x1EE5A, .unassigned), (0x1EE5B, .AL),
  (0x1EE5C, .unassigned), (0x1EE5D, .AL), (0x1EE5E, .unassigned), (0x1EE5F, .AL),
  (0x1EE60, .unassigned), (0x1EE61, .AL), (0x1EE63, .unassigned), (0x1EE64, .AL),
  (0x1EE65, .unassigned), (0x1EE67, .AL), (0x1EE6B, .unassigned), (0x1EE6C, .AL),
  (0x1EE73, .unassigned), (0x1EE74, .AL), (0x1EE78, .unassigned), (0x1EE79, .AL),
  (0x1EE7D, .unassigned), (0x1EE7E, .AL), (0x1EE7F, .unassigned), (0x1EE80, .AL),
  (0x1EE8A, .unassigned), (0x1EE8B, .AL), (0x1EE9C, .unassigned), (0x1EEA1, .AL),
  (0x1EEA4, .unassigned), (0x1EEA5, .AL), (0x1EEAA, .unassigned), (0x1EEAB, .AL),
  (0x1EEBC, .unassigned), (0x1EEF0, .ON), (0x1EEF2, .unassigned), (0x1F000, .ON),
  (0x1F02C, .unassigned), (0x1F030, .ON), (0x1F094, .unassigned), (0x1F0A0, .ON),
  (0x1F0AF, .unassigned), (0x1F0B1, .ON), (0x1F0C0, .unassigned), (0x1F0C1, .ON),
  (0x1F0D0, .unassigned), (0x1F0D1, .ON), (0x1F0F6, .unassigned), (0x1F100, .EN), (0x1F10B, .ON),
  (0x1F110, .L), (0x1F12F, .ON), (0x1F130, .L), (0x1F16A, .ON), (0x1F170, .L), (0x1F1AD, .ON),
  (0x1F1AE, .unassigned), (0x1F1E6, .L), (0x1F203, .unassigned), (0x1F210, .L),
  (0x1F23C, .unassigned), (0x1F240, .L), (0x1F249, .unassigned), (0x1F250, .L),
  (0x1F252, .unassigned), (0x1F260, .ON), (0x1F266, .unassigned), (0x1F300, .ON),
  (0x1F6D8, .unassigned), (0x1F6DD, .ON), (0x1F6ED, .unassigned), (0x1F6F0, .ON)]

/-- Classes from U+1F6FD to U+10FFFF. -/
def bidiClassRowsFrom1F6FD : List (Nat × BidiClass) := [
  (0x1F6FD, .unassigned), (0x1F700, .ON), (0x1F774, .unassigned), (0x1F780, .ON),
  (0x1F7D9, .unassigned), (0x1F7E0, .ON), (0x1F7EC, .unassigned), (0x1F7F0, .ON),
  (0x1F7F1, .unassigned), (0x1F800, .ON), (0x1F80C, .unassigned), (0x1F810, .ON),
  (0x1F848, .unassigned), (0x1F850, .ON), (0x1F85A, .unassigned), (0x1F860, .ON),
  (0x1F888, .unassigned), (0x1F890, .ON), (0x1F8AE, .unassigned), (0x1F8B0, .ON),
  (0x1F8B2, .unassigned), (0x1F900, .ON), (0x1FA54, .unassigned), (0x1FA60, .ON),
  (0x1FA6E, .unassigned), (0x1FA70, .ON), (0x1FA75, .unassigned), (0x1FA78, .ON),
  (0x1FA7D, .unassigned), (0x1FA80, .ON), (0x1FA87, .unassigned), (0x1FA90, .ON),
  (0x1FAAD, .unassigned), (0x1FAB0, .ON), (0x1FABB, .unassigned), (0x1FAC0, .ON),
  (0x1FAC6, .unassigned), (0x1FAD0, .ON), (0x1FADA, .unassigned), (0x1FAE0, .ON),
  (0x1FAE8, .unassigned), (0x1FAF0, .ON), (0x1FAF7, .unassigned), (0x1FB00, .ON),
  (0x1FB93, .unassigned), (0x1FB94, .ON), (0x1FBCB, .unassigned), (0x1FBF0, .EN),
  (0x1FBFA, .unassigned), (0x20000, .L), (0x2A6E0, .unassigned), (0x2A700, .L),
  (0x2B739, .unassigned), (0x2B740, .L), (0x2B81E, .unassigned), (0x2B820, .L),
  (0x2CEA2, .unassigned), (0x2CEB0, .L), (0x2EBE1, .unassigned), (0x2F800, .L),
  (0x2FA1E, .unassigned), (0x30000, .L), (0x3134B, .unassigned), (0xE0001, .BN),
  (0xE0002, .unassigned), (0xE0020, .BN), (0xE0080, .unassigned), (0xE0100, .NSM),
  (0xE01F0, .unassigned), (0xF0000, .L), (0xFFFFE, .unassigned), (0x100000, .L),
  (0x10FFFE, .unassigned)]

/-- All rows, in the order of their starts. -/
def bidiClassRows : List (Nat × BidiClass) :=
  bidiClassRowsFrom0000 ++ bidiClassRowsFrom05C6 ++ bidiClassRowsFrom098D ++
  bidiClassRowsFrom0ACD ++ bidiClassRowsFrom0C29 ++ bidiClassRowsFrom0DD7 ++
  bidiClassRowsFrom10C7 ++ bidiClassRowsFrom1880 ++ bidiClassRowsFrom1C36 ++
  bidiClassRowsFrom207C ++ bidiClassRowsFrom2DCF ++ bidiClassRowsFromA802 ++
  bidiClassRowsFromABE5 ++ bidiClassRowsFromFFD2 ++ bidiClassRowsFrom10768 ++
  bidiClassRowsFrom10EB0 ++ bidiClassRowsFrom11304 ++ bidiClassRowsFrom11727 ++
  bidiClassRowsFrom11D3C ++ bidiClassRowsFrom187F8 ++ bidiClassRowsFrom1D546 ++
  bidiClassRowsFrom1EE27 ++ bidiClassRowsFrom1F6FD

end LineRuns.Unicode
