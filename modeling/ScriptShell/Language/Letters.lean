/-!
# Characters of the script grammar

Which characters are blanks, end a line, or may stand in names.
-/

namespace ScriptShell.Language

/-- Characters that end a line. -/
def isLineBreak (c : Char) : Bool :=
  c = '\n' || c = '\r' || c = '\u2028' || c = '\u2029'

/-- Blanks other than line breaks. -/
def isBlank (c : Char) : Bool :=
  c = ' ' || c = '\t' || c = '\x0b' || c = '\x0c' || c = '\u00a0' || c = '\ufeff' ||
    c = '\u1680' || ('\u2000' ≤ c && c ≤ '\u200a') || c = '\u202f' || c = '\u205f' ||
    c = '\u3000'

/-- Ranges of letters beyond ASCII. -/
def letterRanges : List (Nat × Nat) :=
  [(0xAA, 0xAA), (0xB5, 0xB5), (0xBA, 0xBA), (0xC0, 0xD6), (0xD8, 0xF6), (0xF8, 0x2C1),
    (0x2C6, 0x2D1), (0x2E0, 0x2E4), (0x2EC, 0x2EC), (0x2EE, 0x2EE), (0x370, 0x374),
    (0x376, 0x377), (0x37A, 0x37D), (0x37F, 0x37F), (0x386, 0x386), (0x388, 0x3F5),
    (0x3F7, 0x481), (0x48A, 0x52F), (0x531, 0x556), (0x559, 0x559), (0x560, 0x588),
    (0x5D0, 0x5EA), (0x5EF, 0x5F2), (0x620, 0x64A), (0x66E, 0x66F), (0x671, 0x6D3),
    (0x6D5, 0x6D5), (0x6FA, 0x6FC), (0x710, 0x710), (0x712, 0x72F), (0x74D, 0x7A5),
    (0x904, 0x939), (0x958, 0x961), (0x985, 0x9B9), (0xE01, 0xE30), (0xE40, 0xE46),
    (0x10A0, 0x10FF), (0x1100, 0x1248), (0x13A0, 0x13F5), (0x1401, 0x166C), (0x1680, 0x169A),
    (0x1780, 0x17B3), (0x1820, 0x1878), (0x1D00, 0x1DBF), (0x1E00, 0x1FBC), (0x1FC2, 0x1FCC),
    (0x1FD0, 0x1FDB), (0x1FE0, 0x1FEC), (0x1FF2, 0x1FFC), (0x2071, 0x2071), (0x207F, 0x207F),
    (0x2090, 0x209C), (0x2102, 0x2102), (0x2107, 0x2107), (0x210A, 0x2113), (0x2115, 0x2115),
    (0x2118, 0x211D), (0x2124, 0x2124), (0x2126, 0x2126), (0x2128, 0x2128), (0x212A, 0x2139),
    (0x213C, 0x213F), (0x2145, 0x2149), (0x2160, 0x2188), (0x2C00, 0x2CE4), (0x2D00, 0x2D6F),
    (0x3005, 0x3007), (0x3021, 0x3029), (0x3031, 0x3035), (0x3041, 0x3096), (0x309D, 0x309F),
    (0x30A1, 0x30FA), (0x30FC, 0x30FF), (0x3105, 0x318E), (0x31A0, 0x31BF), (0x31F0, 0x31FF),
    (0x3400, 0x4DBF), (0x4E00, 0xA48C), (0xA4D0, 0xA4FD), (0xA500, 0xA60C), (0xA640, 0xA66E),
    (0xA680, 0xA69D), (0xA717, 0xA71F), (0xA722, 0xA788), (0xA78B, 0xA801), (0xAC00, 0xD7A3),
    (0xF900, 0xFAD9), (0xFB00, 0xFB06), (0xFB1D, 0xFBB1), (0xFBD3, 0xFD3D), (0xFE70, 0xFEFC),
    (0xFF21, 0xFF3A), (0xFF41, 0xFF5A), (0xFF66, 0xFFDC), (0x10000, 0x100FA), (0x10280, 0x1031F),
    (0x10400, 0x1049D), (0x1D400, 0x1D7CB), (0x20000, 0x323AF)]

/-- Ranges of marks and digits beyond ASCII that may follow in a name. -/
def markRanges : List (Nat × Nat) :=
  [(0xB7, 0xB7), (0x300, 0x36F), (0x483, 0x487), (0x591, 0x5BD), (0x610, 0x61A), (0x64B, 0x669),
    (0x6F0, 0x6F9), (0x900, 0x903), (0x93A, 0x94F), (0x966, 0x96F), (0x200C, 0x200D),
    (0x203F, 0x2040), (0x2054, 0x2054), (0x20D0, 0x20F0), (0x302A, 0x302F), (0x3099, 0x309A),
    (0xFE00, 0xFE0F), (0xFE20, 0xFE2F), (0xFF10, 0xFF19), (0xFF3F, 0xFF3F), (0xE0100, 0xE01EF)]

/-- Whether a character lies in one of some ranges. -/
def inRanges (ranges : List (Nat × Nat)) (c : Char) : Bool :=
  ranges.any fun (first, last) => first ≤ c.toNat && c.toNat ≤ last

/-- Characters that may begin a name. -/
def beginsName (c : Char) : Bool :=
  c.isAlpha || c = '$' || c = '_' || (0x80 ≤ c.toNat && inRanges letterRanges c)

/-- Characters that may stand in a name. -/
def continuesName (c : Char) : Bool :=
  beginsName c || c.isDigit || (0x80 ≤ c.toNat && inRanges markRanges c)

/-- The value of a digit in some base. -/
def digitValue? (base : Nat) (c : Char) : Option Nat :=
  let value :=
    if '0' ≤ c && c ≤ '9' then c.toNat - '0'.toNat
    else if 'a' ≤ c && c ≤ 'z' then c.toNat - 'a'.toNat + 10
    else if 'A' ≤ c && c ≤ 'Z' then c.toNat - 'A'.toNat + 10
    else base
  if value < base then some value else none

end ScriptShell.Language
