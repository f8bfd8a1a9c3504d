/-!
Names of the nodes of a partition tree.  A leaf is named for its label and a
split for the labels below it; a split whose labels were named before is
numbered.  Names depend only on labels and on the order in which nodes are
named, so the same drawing always gets the same names.
-/

namespace Mosaic

/-- The names given out so far, newest first. -/
structure NamePool where
  issued : List String
  deriving DecidableEq, Repr

namespace NodeName

def ofLeaf (label : Char) : String :=
  "ax_" ++ label.toString

/-- Labels in the order of their code points. -/
def sorted (labels : List Char) : List Char :=
  labels.mergeSort fun one other => one ≤ other

/-- The name of the first split over `labels`. -/
def ofLabels (labels : List Char) : String :=
  "gs_" ++ String.ofList (sorted labels)

/-- The name of the `attempt`-th split over the same labels, from one on. -/
def numbered (base : String) (attempt : Nat) : String :=
  if attempt ≤ 1 then base else base ++ "_" ++ toString attempt

/-- The label in the name of a leaf: the only character after the lead. -/
def label? (name : String) : Option Char :=
  match name.toList with
  | ['a', 'x', '_', label] => some label
  | _ => none

theorem label?_ofLeaf (label : Char) : label? (ofLeaf label) = some label := by
  simp [label?, ofLeaf]

/-- The first numbered name that is not among `taken`, counting from
`attempt`.  Numbered names differ, so one that was met need not be looked for
again.  The count goes up by one for each name that is met.  It stays below
`2 ^ 31`, since every search counts from the start again: to get there, splits
over the same labels would have to meet some `2 ^ 61` names. -/
def firstFree (base : String) (attempt : Nat) (taken : List String) : String :=
  if numbered base attempt ∈ taken then
    firstFree base (attempt + 1) (taken.erase (numbered base attempt))
  else numbered base attempt
termination_by taken.length
decreasing_by
  have found : numbered base attempt ∈ taken := by assumption
  have shorter := List.length_erase_of_mem found
  have positive := List.length_pos_of_mem found
  omega

theorem toList_numbered (base : String) (number : Nat) : (numbered base number).toList =
    base.toList ++ if number ≤ 1 then [] else '_' :: Nat.toDigits 10 number := by
  by_cases small : number ≤ 1 <;> simp [numbered, small]

theorem numbered_injective {base : String} {one other : Nat} (first : 1 ≤ one)
    (second : 1 ≤ other) (same : numbered base one = numbered base other) : one = other := by
  have tails := congrArg String.toList same
  rw [toList_numbered, toList_numbered] at tails
  have tails := List.append_cancel_left tails
  by_cases small : one ≤ 1 <;> by_cases otherSmall : other ≤ 1
  · omega
  · simp [small, otherSmall] at tails
  · simp [small, otherSmall] at tails
  · simp only [small, otherSmall, if_false, List.cons.injEq, true_and] at tails
    have values := congrArg (fun digits => Nat.ofDigitChars 10 digits 0) tails
    simpa using values

/-- The name found has a number from `attempt` on, and at most one more for each name taken. -/
theorem firstFree_numbered (base : String) (attempt : Nat) (taken : List String) :
    ∃ number, attempt ≤ number ∧ number ≤ attempt + taken.length ∧
      firstFree base attempt taken = numbered base number := by
  fun_induction firstFree base attempt taken with
  | case1 attempt taken found ih =>
    obtain ⟨number, later, near, same⟩ := ih
    have shorter := List.length_erase_of_mem found
    have positive := List.length_pos_of_mem found
    exact ⟨number, by omega, by omega, same⟩
  | case2 attempt taken free =>
    exact ⟨attempt, Nat.le_refl attempt, Nat.le_add_right attempt _, rfl⟩

theorem firstFree_not_mem {base : String} {attempt : Nat} (first : 1 ≤ attempt)
    (taken : List String) : firstFree base attempt taken ∉ taken := by
  fun_induction firstFree base attempt taken with
  | case1 attempt taken found ih =>
    intro member
    obtain ⟨number, later, -, same⟩ := firstFree_numbered base (attempt + 1)
      (taken.erase (numbered base attempt))
    refine ih (by omega) ((List.mem_erase_of_ne ?_).2 member)
    intro equal
    rw [same] at equal
    have := numbered_injective (by omega) first equal
    omega
  | case2 attempt taken free => exact free

end NodeName

namespace NamePool

def empty : NamePool := ⟨[]⟩

def leaf (pool : NamePool) (label : Char) : String × NamePool :=
  let name := NodeName.ofLeaf label
  (name, ⟨name :: pool.issued⟩)

def split (pool : NamePool) (labels : List Char) : String × NamePool :=
  let name := NodeName.firstFree (NodeName.ofLabels labels) 1 pool.issued
  (name, ⟨name :: pool.issued⟩)

/-- A split gets a name that was not given out before. -/
theorem split_not_mem (pool : NamePool) (labels : List Char) :
    (pool.split labels).1 ∉ pool.issued :=
  NodeName.firstFree_not_mem (Nat.le_refl 1) pool.issued

end NamePool
end Mosaic
