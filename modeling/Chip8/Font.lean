/-!
# The font

Sixteen glyphs for the hexadecimal digits, five rows each, kept at the bottom of memory.
-/

namespace Chip8.Font

def glyphSize : Nat := 5

/-- The glyphs of the digits 0 to F, one after the other. -/
def glyphs : List UInt8 :=
  [0xf0, 0x90, 0x90, 0x90, 0xf0, -- 0
   0x20, 0x60, 0x20, 0x20, 0x70, -- 1
   0xf0, 0x10, 0xf0, 0x80, 0xf0, -- 2
   0xf0, 0x10, 0xf0, 0x10, 0xf0, -- 3
   0x90, 0x90, 0xf0, 0x10, 0x10, -- 4
   0xf0, 0x80, 0xf0, 0x10, 0xf0, -- 5
   0xf0, 0x80, 0xf0, 0x90, 0xf0, -- 6
   0xf0, 0x10, 0x20, 0x40, 0x40, -- 7
   0xf0, 0x90, 0xf0, 0x90, 0xf0, -- 8
   0xf0, 0x90, 0xf0, 0x10, 0xf0, -- 9
   0xf0, 0x90, 0xf0, 0x90, 0x90, -- A
   0xe0, 0x90, 0xe0, 0x90, 0xe0, -- B
   0xf0, 0x80, 0x80, 0x80, 0xf0, -- C
   0xe0, 0x90, 0x90, 0x90, 0xe0, -- D
   0xf0, 0x80, 0xf0, 0x80, 0xf0, -- E
   0xf0, 0x80, 0xf0, 0x80, 0x80] -- F

/-- The address of the glyph of a digit. A number above 15 gives an address past the font. -/
def address (digit : UInt8) : UInt16 :=
  digit.toUInt16 * 5

end Chip8.Font
