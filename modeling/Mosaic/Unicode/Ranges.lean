/-!
Character properties are sets of code points.  Each is kept as the list of its
maximal runs, in increasing order, so that a table can be compared line by line
with the standard's own data.
-/

namespace Mosaic
namespace Unicode

/-- Does one of the inclusive `ranges` hold the code point of `glyph`? -/
def isIn (ranges : List (Nat × Nat)) (glyph : Char) : Bool :=
  ranges.any fun range => range.1 ≤ glyph.toNat && glyph.toNat ≤ range.2

theorem isIn_iff (ranges : List (Nat × Nat)) (glyph : Char) :
    isIn ranges glyph = true ↔
      ∃ range ∈ ranges, range.1 ≤ glyph.toNat ∧ glyph.toNat ≤ range.2 := by
  simp [isIn]

end Unicode
end Mosaic
