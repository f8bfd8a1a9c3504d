import Mosaic.Proofs.Text.Cuts
import Mosaic.Proofs.Tree.Visits
import Mosaic.Tree.Outline

/-!
# One order for every way through a tree

A tree is gone through in three ways: nodes are taken off a pile, on which each leaves
its children, or they are visited by recursion, or their lines are written by another
recursion.  All three go to the same stops.  A stop has an address, which is the
numbers of the children on the way down to it.  In the order of the addresses a node
stands before everything below it, and one child with all that is below it before the
next.  A walk goes to the stops in this order, and no further than the first one at
which the visitor fails.
-/

namespace Mosaic

variable {α σ : Type}

/-- A node on a way through a tree, with the place that it is drawn in. -/
structure Stop (α : Type) where
  /-- The numbers of the children on the way down to the node. -/
  address : List Nat
  node : Node α
  slot : Slot

namespace Stop

/-- The stops below a given one.  Each child of a split is in its own cell of the grid that
is drawn for the split. -/
inductive Reaches (start : Stop α) : Stop α → Prop
  | self : Reaches start start
  | child {address : List Nat} {cut : Cut α} {children : List (Node α)} {slot : Slot} {index : Nat}
      {child : Node α} (parent : Reaches start ⟨address, .split cut children, slot⟩)
      (found : children[index]? = some child) :
      Reaches start ⟨address ++ [index], child, .cell cut.id index⟩

/-- The first stop in a tree is its root, which is drawn on the figure itself. -/
def ofRoot (root : Node α) : Stop α :=
  ⟨[], root, .figure⟩

/-- The line of a node in an outline.  It stands four blanks further in for each split above
the node. -/
def line (stop : Stop α) : String :=
  Node.outlineLine (4 * stop.address.length) stop.node

/-- What is read of that line, without its end. -/
def text (stop : Stop α) : List Char :=
  List.replicate (4 * stop.address.length) ' ' ++ stop.node.describe.toList

def visit (visitor : Visitor α σ) (stop : Stop α) : EStateM Fault σ Unit :=
  stop.node.visit visitor stop.slot

variable {start middle stop : Stop α}

theorem Reaches.trans (first : start.Reaches middle) (second : middle.Reaches stop) :
    start.Reaches stop := by
  induction second with
  | self => exact first
  | child parent found ih => exact .child ih found

/-- The address of a stop goes on from the one that it is reached from. -/
theorem Reaches.exists_address (reaches : start.Reaches stop) :
    ∃ further, stop.address = start.address ++ further := by
  induction reaches with
  | self => exact ⟨[], (List.append_nil _).symm⟩
  | child parent found ih =>
    rcases ih with ⟨further, same⟩
    exact ⟨further ++ [_], by rw [← List.append_assoc, ← same]⟩

end Stop

/-- Visit the nodes of several stops. -/
def Visitor.go (visitor : Visitor α σ) (stops : List (Stop α)) : EStateM Fault σ Unit :=
  forM stops (Stop.visit visitor)

/-- All stops of a tree, in the order of their addresses.  An address comes before all that go
on from it; of two others the one with the smaller number comes first, where they part. -/
structure Node.IsTour (root : Node α) (stops : List (Stop α)) : Prop where
  complete : ∀ stop, stop ∈ stops ↔ (Stop.ofRoot root).Reaches stop
  ordered : stops.Pairwise fun stop later => stop.address < later.address

namespace Node

/-! ## The tour -/

mutual

/-- The stops at a node and at everything below it. -/
def tour (address : List Nat) (slot : Slot) : Node α → List (Stop α)
  | leaf contents => [⟨address, leaf contents, slot⟩]
  | blank region => [⟨address, blank region, slot⟩]
  | split cut children =>
    ⟨address, split cut children, slot⟩ :: tourOfAll address cut.id 0 children

/-- The stops at several children, which are numbered from `index` on. -/
def tourOfAll (address : List Nat) (grid : String) (index : Nat) : List (Node α) → List (Stop α)
  | [] => []
  | child :: children =>
    child.tour (address ++ [index]) (.cell grid index) ++
      tourOfAll address grid (index + 1) children

end

variable {address : List Nat} {slot : Slot} {grid : String} {first : Nat} {stop : Stop α}

theorem mem_tourOfAll_iff {children : List (Node α)} :
    stop ∈ tourOfAll address grid first children ↔
      ∃ (index : Nat) (child : Node α), children[index]? = some child ∧
        stop ∈ child.tour (address ++ [first + index]) (.cell grid (first + index)) := by
  induction children generalizing first with
  | nil =>
    rw [tourOfAll]
    exact ⟨fun member => (nomatch member), fun ⟨_, _, found, _⟩ => (nomatch found)⟩
  | cons child children ih =>
    rw [tourOfAll, List.mem_append, ih]
    constructor
    · rintro (here | ⟨index, other, found, below⟩)
      · exact ⟨0, child, rfl, here⟩
      · refine ⟨index + 1, other, found, ?_⟩
        rwa [Nat.add_right_comm] at below
    · rintro ⟨index, other, found, below⟩
      cases index with
      | zero =>
        cases found
        exact Or.inl below
      | succ index =>
        refine Or.inr ⟨index, other, found, ?_⟩
        rwa [Nat.add_right_comm]

theorem mem_tour_self (address : List Nat) (slot : Slot) (node : Node α) :
    ⟨address, node, slot⟩ ∈ node.tour address slot := by
  cases node <;> exact List.mem_cons_self

/-- The tour of a tree comes only to nodes of the tree. -/
theorem reaches_of_mem_tour (node : Node α) (member : stop ∈ node.tour address slot) :
    Stop.Reaches ⟨address, node, slot⟩ stop := by
  induction node using induct generalizing address slot with
  | leaf contents =>
    rw [tour, List.mem_singleton] at member
    exact member ▸ .self
  | blank region =>
    rw [tour, List.mem_singleton] at member
    exact member ▸ .self
  | split cut children ih =>
    rw [tour, List.mem_cons] at member
    rcases member with rfl | below
    · exact .self
    · rcases mem_tourOfAll_iff.1 below with ⟨index, child, found, inside⟩
      rw [Nat.zero_add] at inside
      exact (Stop.Reaches.self.child found).trans (ih child (List.mem_of_getElem? found) inside)

/-- With a split the tour comes to each of its children. -/
theorem child_mem_tour (node : Node α) {inner : List Nat} {cut : Cut α} {children : List (Node α)}
    {place : Slot} (member : ⟨inner, split cut children, place⟩ ∈ node.tour address slot)
    {index : Nat} {child : Node α} (found : children[index]? = some child) :
    ⟨inner ++ [index], child, .cell cut.id index⟩ ∈ node.tour address slot := by
  induction node using induct generalizing address slot with
  | leaf contents =>
    rw [tour, List.mem_singleton] at member
    cases member
  | blank region =>
    rw [tour, List.mem_singleton] at member
    cases member
  | split own siblings ih =>
    rw [tour, List.mem_cons] at member ⊢
    right
    rw [mem_tourOfAll_iff]
    rcases member with here | below
    · cases here
      refine ⟨index, child, found, ?_⟩
      rw [Nat.zero_add]
      exact mem_tour_self _ _ child
    · rcases mem_tourOfAll_iff.1 below with ⟨place, sibling, listed, inside⟩
      exact ⟨place, sibling, listed, ih sibling (List.mem_of_getElem? listed) inside⟩

theorem mem_tour_iff {node : Node α} :
    stop ∈ node.tour address slot ↔ Stop.Reaches ⟨address, node, slot⟩ stop := by
  constructor
  · exact reaches_of_mem_tour node
  · intro reaches
    induction reaches with
    | self => exact mem_tour_self address slot node
    | child parent found ih => exact child_mem_tour node ih found

/-- Every stop at some children has the number of the child in its address. -/
theorem exists_address_of_mem_tourOfAll {children : List (Node α)}
    (member : stop ∈ tourOfAll address grid first children) :
    ∃ (index : Nat) (further : List Nat), first ≤ index ∧ stop.address = address ++ index :: further := by
  rcases mem_tourOfAll_iff.1 member with ⟨index, child, -, inside⟩
  rcases (reaches_of_mem_tour child inside).exists_address with ⟨further, same⟩
  refine ⟨first + index, further, Nat.le_add_right _ _, ?_⟩
  rw [same, List.append_assoc, List.singleton_append]

/-- Children that come one after the other keep the order of the tour. -/
theorem ordered_tourOfAll {children : List (Node α)}
    (each : ∀ child ∈ children, ∀ (address : List Nat) (slot : Slot),
      (child.tour address slot).Pairwise fun stop later => stop.address < later.address) :
    (tourOfAll address grid first children).Pairwise
      fun stop later => stop.address < later.address := by
  induction children generalizing first with
  | nil => exact .nil
  | cons child children ih =>
    rw [List.forall_mem_cons] at each
    rw [tourOfAll, List.pairwise_append]
    refine ⟨each.1 _ _, ih each.2, fun stop here later after => ?_⟩
    rcases (reaches_of_mem_tour child here).exists_address with ⟨further, same⟩
    rcases exists_address_of_mem_tourOfAll after with ⟨index, beyond, above, other⟩
    rw [same, other, List.append_assoc, List.singleton_append]
    exact List.append_left_lt (List.cons_lt_cons_iff.2 (Or.inl above))

theorem ordered_tour (address : List Nat) (slot : Slot) (node : Node α) :
    (node.tour address slot).Pairwise fun stop later => stop.address < later.address := by
  induction node using induct generalizing address slot with
  | leaf contents => exact List.pairwise_singleton _ _
  | blank region => exact List.pairwise_singleton _ _
  | split cut children ih =>
    rw [tour, List.pairwise_cons]
    refine ⟨fun stop below => ?_, ordered_tourOfAll fun child member address slot =>
      ih child member address slot⟩
    rcases exists_address_of_mem_tourOfAll below with ⟨index, further, -, same⟩
    rw [same]
    have longer : address ++ [] < address ++ index :: further :=
      List.append_left_lt (List.nil_lt_cons index further)
    rwa [List.append_nil] at longer

theorem isTour_tour (root : Node α) : root.IsTour (root.tour [] .figure) :=
  ⟨fun _ => mem_tour_iff, ordered_tour [] .figure root⟩

/-! ## The three ways -/

mutual

theorem map_tour (address : List Nat) (slot : Slot) (node : Node α) :
    (node.tour address slot).map (fun stop => (stop.node, stop.slot)) = node.visits slot := by
  cases node with
  | leaf contents => rfl
  | blank region => rfl
  | split cut children =>
    rw [tour, visits, List.map_cons, map_tourOfAll address cut.id 0 children]

theorem map_tourOfAll (address : List Nat) (grid : String) (index : Nat)
    (children : List (Node α)) :
    (tourOfAll address grid index children).map (fun stop => (stop.node, stop.slot)) =
      visitsOfAll grid index children := by
  cases children with
  | nil => rfl
  | cons child children =>
    rw [tourOfAll, visitsOfAll, List.map_append, map_tour _ _ child,
      map_tourOfAll address grid (index + 1) children]

end

/-- What is taken off the pile are the nodes of the tour. -/
theorem descendants_eq_map_tour (root : Node α) :
    root.descendants = (root.tour [] .figure).map Stop.node := by
  rw [← map_fst_visits .figure, ← map_tour [], List.map_map]
  rfl

mutual

/-- The outline has a line for each stop. -/
theorem outlineLines_eq (address : List Nat) (slot : Slot) (node : Node α) :
    node.outlineLines (4 * address.length) = (node.tour address slot).map Stop.line := by
  cases node with
  | leaf contents => rfl
  | blank region => rfl
  | split cut children =>
    rw [outlineLines, tour, List.map_cons, ← outlineLinesOfAll_eq address cut.id 0 children]
    rfl

theorem outlineLinesOfAll_eq (address : List Nat) (grid : String) (index : Nat)
    (children : List (Node α)) :
    outlineLinesOfAll (4 * address.length + 4) children =
      (tourOfAll address grid index children).map Stop.line := by
  cases children with
  | nil => rfl
  | cons child children =>
    have inner : 4 * address.length + 4 = 4 * (address ++ [index]).length := by
      rw [List.length_append, List.length_singleton, Nat.mul_add]
    rw [outlineLinesOfAll, tourOfAll, List.map_append,
      ← outlineLinesOfAll_eq address grid (index + 1) children, inner,
      outlineLines_eq (address ++ [index]) (.cell grid index) child]

end

/-- A walk goes from stop to stop. -/
theorem walk_eq_go (visitor : Visitor α σ) (root : Node α) :
    root.walk visitor .figure = visitor.go (root.tour [] .figure) := by
  rw [walk_eq_forM, ← map_tour [], List.forM_map]
  rfl

/-! ## Lines of an outline -/

private theorem inLine_count (count : Nat) : '\n' ∉ (toString count).toList := by
  intro member
  rw [Nat.toString_eq_repr, Nat.repr_eq_ofList_toDigits, String.toList_ofList] at member
  exact absurd (Nat.isDigit_of_mem_toDigits (by decide) (by decide) member) (by decide)

private theorem inLine_region (region : CellRect) : '\n' ∉ region.describe.toList := by
  simp only [CellRect.describe, String.toList_append, List.mem_append, not_or]
  exact ⟨⟨⟨⟨⟨⟨⟨by decide, inLine_count _⟩, by decide⟩, inLine_count _⟩, by decide⟩, inLine_count _⟩,
    by decide⟩, inLine_count _⟩

/-- A node whose name is on one line is described on one line. -/
theorem inLine_describe {node : Node α}
    (inLine : ∀ id, node.id? = some id → '\n' ∉ id.toList) : '\n' ∉ node.describe.toList := by
  have region := inLine_region node.region
  cases node with
  | leaf contents =>
    simp only [describe, String.toList_append, List.mem_append, not_or]
    exact ⟨⟨⟨inLine _ rfl, by decide⟩, region⟩, by decide⟩
  | blank place =>
    simp only [describe, String.toList_append, List.mem_append, not_or]
    exact ⟨⟨by decide, region⟩, by decide⟩
  | split cut children =>
    have ratios : '\n' ∉ (String.intercalate ":" (cut.ratios.map toString)).toList := by
      rw [String.toList_intercalate]
      apply Text.not_mem_intercalate (by decide)
      intro piece member
      rcases List.mem_map.1 member with ⟨text, listed, rfl⟩
      rcases List.mem_map.1 listed with ⟨ratio, -, rfl⟩
      exact inLine_count ratio
    have orientation : '\n' ∉ cut.orientation.describe.toList := by
      cases cut.orientation <;> decide
    simp only [describe, String.toList_append, List.mem_append, not_or]
    exact ⟨⟨⟨⟨⟨⟨⟨inLine _ rfl, by decide⟩, orientation⟩, by decide⟩, ratios⟩, by decide⟩, region⟩,
      by decide⟩

private theorem getLast?_describe (node : Node α) : node.describe.toList.getLast? = some ']' := by
  cases node <;> simp only [describe, String.toList_append] <;> exact List.getLast?_concat

end Node

private theorem Stop.toList_line (stop : Stop α) : stop.line.toList = stop.text ++ ['\n'] := by
  rw [line, Node.outlineLine, String.toList_append, String.toList_append, String.toList_ofList]
  rfl

/-- When all names are on one line, the lines of an outline are those of the stops. -/
theorem PartitionTree.lines_outline (tree : PartitionTree α)
    (inLine : ∀ node ∈ tree.root.descendants, ∀ id, node.id? = some id → '\n' ∉ id.toList) :
    Text.lines tree.outline.toList = (tree.root.tour [] .figure).map Stop.text := by
  have written : tree.outline.toList =
      ((tree.root.tour [] .figure).map Stop.text).flatMap (· ++ ['\n']) := by
    rw [outline, String.toList_join, ← Nat.mul_zero 4, ← List.length_nil (α := Nat),
      Node.outlineLines_eq [] .figure tree.root, List.flatMap_map, List.flatMap_map]
    exact congrArg (fun each => List.flatMap each _) (funext Stop.toList_line)
  rw [written]
  apply Text.lines_joined
  · intro line member
    rcases List.mem_map.1 member with ⟨stop, visited, rfl⟩
    have listed : stop.node ∈ tree.root.descendants :=
      tree.root.descendants_eq_map_tour ▸ List.mem_map_of_mem visited
    rw [Stop.text, List.mem_append, not_or]
    refine ⟨fun blank => ?_, Node.inLine_describe (inLine _ listed)⟩
    exact absurd (List.eq_of_mem_replicate blank) (by decide)
  · intro line member
    rcases List.mem_map.1 member with ⟨stop, -, rfl⟩
    rw [Stop.text, List.getLast?_append, Node.getLast?_describe, Option.some_or]
    decide

/-! ## How far a walk goes -/

/-- Visits that a visitor makes one after the other, and none of which fails. -/
inductive Visitor.Makes (visitor : Visitor α σ) : σ → List (Stop α) → σ → Prop
  | nil {state : σ} : Makes visitor state [] state
  | cons {before between after : σ} {stop : Stop α} {stops : List (Stop α)}
      (here : stop.visit visitor before = .ok () between) (later : Makes visitor between stops after) :
      Makes visitor before (stop :: stops) after

namespace Visitor

variable {visitor : Visitor α σ} {before between after : σ} {stop : Stop α} {stops : List (Stop α)}
  {fault : Fault}

theorem go_cons_of_ok (here : stop.visit visitor before = .ok () between) :
    visitor.go (stop :: stops) before = visitor.go stops between := by
  rw [go, List.forM_cons]
  change EStateM.bind _ _ before = _
  rw [EStateM.bind, here]
  rfl

theorem go_cons_of_error (here : stop.visit visitor before = .error fault after) :
    visitor.go (stop :: stops) before = .error fault after := by
  rw [go, List.forM_cons]
  change EStateM.bind _ _ before = _
  rw [EStateM.bind, here]

theorem go_ok_iff : visitor.go stops before = .ok () after ↔ visitor.Makes before stops after := by
  induction stops generalizing before with
  | nil =>
    constructor
    · intro done
      cases done
      exact .nil
    · rintro ⟨⟩
      rfl
  | cons stop stops ih =>
    cases here : stop.visit visitor before with
    | ok value between =>
      rw [go_cons_of_ok here, ih]
      constructor
      · exact fun later => .cons here later
      · rintro (_ | ⟨first, later⟩)
        cases here.symm.trans first
        exact later
    | error fault between =>
      rw [go_cons_of_error here]
      constructor
      · exact fun done => (nomatch done)
      · rintro (_ | ⟨first, later⟩)
        cases here.symm.trans first

/-- Visits come to a fault exactly if one of them fails after all before it were made. -/
theorem go_error_iff :
    visitor.go stops before = .error fault after ↔
      ∃ (n : Nat) (stop : Stop α) (between : σ), stops[n]? = some stop ∧
        visitor.Makes before (stops.take n) between ∧
          stop.visit visitor between = .error fault after := by
  induction stops generalizing before with
  | nil => exact ⟨fun failed => (nomatch failed), fun ⟨_, _, _, found, _⟩ => (nomatch found)⟩
  | cons stop stops ih =>
    cases here : stop.visit visitor before with
    | ok value between =>
      rw [go_cons_of_ok here, ih]
      constructor
      · rintro ⟨n, other, reached, found, made, failed⟩
        exact ⟨n + 1, other, reached, found, .cons here made, failed⟩
      · rintro ⟨n, other, reached, found, made, failed⟩
        cases n with
        | zero =>
          cases found
          cases made
          cases here.symm.trans failed
        | succ n =>
          rcases made with _ | ⟨first, later⟩
          cases here.symm.trans first
          exact ⟨n, other, reached, found, later, failed⟩
    | error cause reached =>
      rw [go_cons_of_error here]
      constructor
      · exact fun failed => ⟨0, stop, before, rfl, .nil, here.trans failed⟩
      · rintro ⟨n, other, reached, found, made, failed⟩
        cases n with
        | zero =>
          cases found
          cases made
          exact here.symm.trans failed
        | succ n =>
          rcases made with _ | ⟨first, later⟩
          cases here.symm.trans first

end Visitor

/-- All ways through a tree go to the same stops in the same order: what is taken off the pile,
what is written as an outline, and what is visited.  A walk comes to an end exactly if every
visit was made, and it fails exactly as the first visit that fails, after those before it and
no others. -/
theorem traversals_agree (tree : PartitionTree α) :
    ∃ stops : List (Stop α), tree.root.IsTour stops ∧
      tree.root.descendants = stops.map Stop.node ∧
      (tree.outline = String.join (stops.map Stop.line) ∧
        ((∀ stop ∈ stops, ∀ id, stop.node.id? = some id → '\n' ∉ id.toList) →
          Text.lines tree.outline.toList = stops.map Stop.text)) ∧
      ∀ {σ : Type} (visitor : Visitor α σ) (before : σ),
        (∀ after, tree.walk visitor before = .ok () after ↔ visitor.Makes before stops after) ∧
          ∀ fault after, tree.walk visitor before = .error fault after ↔
            ∃ (n : Nat) (stop : Stop α) (between : σ), stops[n]? = some stop ∧
              visitor.Makes before (stops.take n) between ∧
                stop.visit visitor between = .error fault after := by
  refine ⟨tree.root.tour [] .figure, tree.root.isTour_tour, tree.root.descendants_eq_map_tour,
    ⟨?_, fun inLine => ?_⟩, fun visitor before => ⟨fun after => ?_, fun fault after => ?_⟩⟩
  · exact congrArg String.join (Node.outlineLines_eq [] .figure tree.root)
  · apply tree.lines_outline
    rw [tree.root.descendants_eq_map_tour]
    intro node member
    rcases List.mem_map.1 member with ⟨stop, visited, rfl⟩
    exact inLine stop visited
  · rw [PartitionTree.walk, Node.walk_eq_go]
    exact Visitor.go_ok_iff
  · rw [PartitionTree.walk, Node.walk_eq_go]
    exact Visitor.go_error_iff

end Mosaic
