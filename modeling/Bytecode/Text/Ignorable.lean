import Bytecode.Text.Ranges

/-!
# Ignorable characters

The characters that a display leaves out when it has no glyph for them: those
with the Unicode property Default_Ignorable_Code_Point, in version 17.0 of the
standard. There are 4174 of them, most of them unassigned. Among the others are
format characters, marks and the Hangul fillers, which are letters that show as
nothing.
-/

namespace Bytecode.Text

/-- The code points of the ignorable characters. -/
def ignorableRanges : List (Nat × Nat) :=
  [(0x00ad, 0x00ad), (0x034f, 0x034f), (0x061c, 0x061c), (0x115f, 0x1160),
   (0x17b4, 0x17b5), (0x180b, 0x180f), (0x200b, 0x200f), (0x202a, 0x202e),
   (0x2060, 0x206f), (0x3164, 0x3164), (0xfe00, 0xfe0f), (0xfeff, 0xfeff),
   (0xffa0, 0xffa0), (0xfff0, 0xfff8), (0x1bca0, 0x1bca3), (0x1d173, 0x1d17a),
   (0xe0000, 0xe0fff)]

/-- Whether a display may leave the character out. -/
def isIgnorable (char : Char) : Bool :=
  inRanges ignorableRanges char.toNat

end Bytecode.Text
