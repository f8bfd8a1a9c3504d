/-!
Counts taken while a drawing is cut up.  Every count stops at the largest
machine word instead of starting again from zero.
-/

namespace Mosaic

/-- What is counted during one cutting. -/
structure Tally where
  labels : Nat
  splits : Nat
  leaves : Nat
  blanks : Nat
  cutsExamined : Nat
  maxDepth : Nat
  deriving DecidableEq, Repr

namespace Tally

def zero : Tally := ⟨0, 0, 0, 0, 0, 0⟩

def largest : Nat := UInt64.size - 1

/-- Raise a count, up to the largest. -/
def raise (count amount : Nat) : Nat :=
  min (count + amount) largest

def recordLabels (tally : Tally) (count : Nat) : Tally :=
  { tally with labels := count }

def recordSplit (tally : Tally) (depth : Nat) : Tally :=
  { tally with splits := raise tally.splits 1, maxDepth := max tally.maxDepth depth }

def recordLeaf (tally : Tally) (depth : Nat) : Tally :=
  { tally with leaves := raise tally.leaves 1, maxDepth := max tally.maxDepth depth }

def recordBlank (tally : Tally) : Tally :=
  { tally with blanks := raise tally.blanks 1 }

/-- Count grid lines that were looked at. -/
def recordCuts (tally : Tally) (count : Nat) : Tally :=
  { tally with cutsExamined := raise tally.cutsExamined count }

theorem raise_le (count amount : Nat) : raise count amount ≤ largest :=
  Nat.min_le_right _ _

/-- Below the largest count nothing is lost. -/
theorem raise_eq_add {count amount : Nat} (room : count + amount ≤ largest) :
    raise count amount = count + amount :=
  Nat.min_eq_left room

end Tally
end Mosaic
