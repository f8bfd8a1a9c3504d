import Mosaic.Tree.Walk

/-!
# The visits of a walk

Which nodes a walk visits, in which order and at which places, is settled by the
tree alone.  The visits are listed here, and a walk with any visitor carries out
the list from the front.  So what a visitor does over a whole tree is shown by
induction on a list, and where it stops is a place in that list.
-/

namespace Mosaic
namespace Node

variable {α σ : Type}

mutual

/-- A node at a place and everything below it, each with its own place. -/
def visits (slot : Slot) : Node α → List (Node α × Slot)
  | leaf contents => [(leaf contents, slot)]
  | blank region => [(blank region, slot)]
  | split cut children => (split cut children, slot) :: visitsOfAll cut.id 0 children

/-- The visits of several nodes in the cells of a grid from `index` on. -/
def visitsOfAll (grid : String) (index : Nat) : List (Node α) → List (Node α × Slot)
  | [] => []
  | child :: children => child.visits (.cell grid index) ++ visitsOfAll grid (index + 1) children

end

mutual

/-- A walk carries out its visits in order. -/
theorem walk_eq_forM (visitor : Visitor α σ) (slot : Slot) (node : Node α) :
    node.walk visitor slot =
      forM (node.visits slot) fun entry => entry.1.visit visitor entry.2 := by
  cases node with
  | leaf contents =>
    rw [visits, List.forM_cons, List.forM_nil, bind_pure_unit]
    rfl
  | blank region =>
    rw [visits, List.forM_cons, List.forM_nil, bind_pure_unit]
    rfl
  | split cut children =>
    rw [walk, visits, List.forM_cons, walkAll_eq_forM visitor cut.id 0 children]
    rfl

/-- So does a walk over several nodes. -/
theorem walkAll_eq_forM (visitor : Visitor α σ) (grid : String) (index : Nat)
    (children : List (Node α)) :
    walkAll visitor grid index children =
      forM (visitsOfAll grid index children) fun entry => entry.1.visit visitor entry.2 := by
  cases children with
  | nil => rw [walkAll, visitsOfAll, List.forM_nil]
  | cons child children =>
    rw [walkAll, visitsOfAll, List.forM_append, walk_eq_forM visitor (.cell grid index) child,
      walkAll_eq_forM visitor grid (index + 1) children]

end

mutual

theorem map_fst_visits (slot : Slot) (node : Node α) :
    (node.visits slot).map Prod.fst = node.descendants := by
  cases node with
  | leaf contents => exact (descendants_leaf contents).symm
  | blank region => exact (descendants_blank region).symm
  | split cut children =>
    have below := map_fst_visitsOfAll cut.id 0 children
    simp only [visits, descendants_split, List.map_cons, below]

theorem map_fst_visitsOfAll (grid : String) (index : Nat) (children : List (Node α)) :
    (visitsOfAll grid index children).map Prod.fst = children.flatMap descendants := by
  cases children with
  | nil => rfl
  | cons child children =>
    have here := map_fst_visits (.cell grid index) child
    have later := map_fst_visitsOfAll grid (index + 1) children
    simp only [visitsOfAll, List.flatMap_cons, List.map_append, here, later]

end

/-- A place below the first one is a cell of the grid of a split that has so
many children. -/
def IsCellOf (nodes : List (Node α)) (slot : Slot) : Prop :=
  ∃ cut children index, split cut children ∈ nodes ∧ slot = .cell cut.id index ∧
    index < children.length

theorem IsCellOf.mono {nodes others : List (Node α)} {slot : Slot}
    (placed : IsCellOf nodes slot) (included : ∀ node ∈ nodes, node ∈ others) :
    IsCellOf others slot := by
  rcases placed with ⟨cut, children, index, member, same, inside⟩
  exact ⟨cut, children, index, included _ member, same, inside⟩

mutual

/-- Every visit but the first is made at a cell of a split. -/
theorem slot_of_mem_visits (slot : Slot) (node : Node α) :
    ∀ entry ∈ node.visits slot, entry.2 = slot ∨ IsCellOf node.descendants entry.2 := by
  intro entry member
  cases node with
  | leaf contents =>
    rw [visits, List.mem_singleton] at member
    exact Or.inl (congrArg Prod.snd member)
  | blank region =>
    rw [visits, List.mem_singleton] at member
    exact Or.inl (congrArg Prod.snd member)
  | split cut children =>
    rw [visits, List.mem_cons] at member
    rcases member with first | below
    · exact Or.inl (congrArg Prod.snd first)
    · right
      rw [descendants_split]
      rcases slot_of_mem_visitsOfAll cut.id 0 children entry below with own | deeper
      · rcases own with ⟨index, same, -, inside⟩
        exact ⟨cut, children, index, List.mem_cons_self, same, by omega⟩
      · exact deeper.mono fun _ found => List.mem_cons_of_mem _ found

theorem slot_of_mem_visitsOfAll (grid : String) (start : Nat) (children : List (Node α)) :
    ∀ entry ∈ visitsOfAll grid start children,
      (∃ index, entry.2 = .cell grid index ∧ start ≤ index ∧ index < start + children.length) ∨
        IsCellOf (children.flatMap descendants) entry.2 := by
  intro entry member
  cases children with
  | nil =>
    rw [visitsOfAll] at member
    cases member
  | cons child children =>
    rw [visitsOfAll, List.mem_append] at member
    rcases member with here | later
    · rcases slot_of_mem_visits (.cell grid start) child entry here with own | deeper
      · exact Or.inl ⟨start, own, Nat.le_refl start, by simp⟩
      · exact Or.inr (deeper.mono fun _ found => List.mem_append_left _ found)
    · rcases slot_of_mem_visitsOfAll grid (start + 1) children entry later with own | deeper
      · rcases own with ⟨index, same, after, inside⟩
        exact Or.inl ⟨index, same, by omega, by rw [List.length_cons]; omega⟩
      · exact Or.inr (deeper.mono fun _ found => List.mem_append_right _ found)

end

end Node
end Mosaic
