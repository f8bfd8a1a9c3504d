import Mosaic.Unicode.Ranges

/-!
The twenty-five characters with the property White_Space.  They are what is
trimmed from the edges of a line.
-/

namespace Mosaic
namespace Unicode

def whiteSpaceRanges : List (Nat × Nat) := [
  (0x9, 0xD), (0x20, 0x20), (0x85, 0x85), (0xA0, 0xA0), (0x1680, 0x1680), (0x2000, 0x200A),
  (0x2028, 0x2029), (0x202F, 0x202F), (0x205F, 0x205F), (0x3000, 0x3000)]

/-- Tabs, line and paragraph ends, and the spaces of every width. -/
def isWhiteSpace (glyph : Char) : Bool :=
  isIn whiteSpaceRanges glyph

end Unicode
end Mosaic
