import Mosaic.Proofs.Program.Statements
import Mosaic.Proofs.Tree.Visits

/-!
# The lines of a program

Every tree has a program.  Its lines are fixed ones around the lines of each
visit, and none of them holds a line feed or ends with a carriage return as long
as the names in the tree can be written, so that the program falls into the same
lines again.  Which trees those are is said here: names must not hold quotation
marks or line feeds, a leaf must be named for its label, a split must have
ratios, and all counts must fit a machine word.
-/

namespace Mosaic

/-! ## Trees that can be written -/

/-- A leaf is named for its label, which a program can quote. -/
structure Leaf.Writable (leaf : Leaf) : Prop where
  named : leaf.id = NodeName.ofLeaf leaf.label
  unquoted : leaf.label ≠ '"'
  inLine : leaf.label ≠ '\n'

/-- A split has a name that a program can quote, at least one ratio, and extents
that fit a machine word. -/
structure Cut.Writable (cut : Cut Float) (childCount : Nat) : Prop where
  unquoted : '"' ∉ cut.id.toList
  inLine : '\n' ∉ cut.id.toList
  someRatio : cut.ratios ≠ []
  ratios : ∀ ratio ∈ cut.ratios, ratio ≤ Decimal.largestWord
  children : childCount ≤ Decimal.largestWord
  height : cut.region.height ≤ Decimal.largestWord
  width : cut.region.width ≤ Decimal.largestWord

/-- Can the node, apart from those below it, be written in a program? -/
def Node.Writable : Node Float → Prop
  | .leaf contents => contents.Writable
  | .split cut children => cut.Writable children.length
  | .blank _ => True

/-- Can all nodes of the tree be written in a program? -/
def PartitionTree.Writable (tree : PartitionTree Float) : Prop :=
  ∀ node ∈ tree.root.descendants, node.Writable

namespace Program

theorem readable_ofCut {cut : Cut Float} {childCount : Nat} (writable : cut.Writable childCount) :
    Readable (GridRequest.ofCut cut childCount) := by
  have one : 1 ≤ Decimal.largestWord := by decide
  have single : ∀ extent, extent ≤ Decimal.largestWord →
      ∀ ratio ∈ [extent], ratio ≤ Decimal.largestWord := by
    intro extent fits ratio member
    rw [List.mem_singleton.1 member]
    exact fits
  unfold GridRequest.ofCut Cut.shape Cut.heightRatios Cut.widthRatios
  cases cut.orientation with
  | columns =>
    exact ⟨one, writable.children, List.cons_ne_nil _ _, writable.someRatio,
      single _ writable.height, writable.ratios⟩
  | rows =>
    exact ⟨writable.children, one, writable.someRatio, List.cons_ne_nil _ _,
      writable.ratios, single _ writable.width⟩

/-- Can a visit be written, its place included? -/
def CanWrite (entry : Node Float × Slot) : Prop :=
  entry.1.Writable ∧ IsNamable entry.2

theorem canWrite_of_mem_visits {tree : PartitionTree Float} (writable : tree.Writable) :
    ∀ entry ∈ tree.root.visits .figure, CanWrite entry := by
  intro entry member
  have below : entry.1 ∈ tree.root.descendants := by
    rw [← Node.map_fst_visits .figure tree.root]
    exact List.mem_map_of_mem member
  refine ⟨writable _ below, ?_⟩
  rcases Node.slot_of_mem_visits .figure tree.root entry member with root | placed
  · rw [root]
    trivial
  · rcases placed with ⟨cut, children, index, found, same, inside⟩
    have split := writable _ found
    rw [same]
    exact ⟨split.unquoted, split.inLine, Nat.le_of_lt (Nat.lt_of_lt_of_le inside split.children)⟩

/-! ## Lines of visits -/

/-- The lines that are written at one visit. -/
def visitLines (entry : Node Float × Slot) : List String :=
  match entry.1 with
  | .leaf contents => [axisLine contents.id entry.2]
  | .split cut children => gridLines cut.id entry.2 (GridRequest.ofCut cut children.length)
  | .blank _ => []

def listing (tree : PartitionTree Float) (settings : Settings) : List String :=
  openingLines (settings.figureSize tree.rows tree.cols) settings.dpi ++
    (tree.root.visits .figure).flatMap visitLines ++ closingLines settings.annotate

private theorem visit_writer (entry : Node Float × Slot) (lines : List String) :
    entry.1.visit writer entry.2 lines = .ok () (lines ++ visitLines entry) := by
  rcases entry with ⟨node, slot⟩
  cases node with
  | leaf contents => rfl
  | split cut children => rfl
  | blank region => exact congrArg (EStateM.Result.ok ()) (List.append_nil lines).symm

private theorem forM_writer (entries : List (Node Float × Slot)) (lines : List String) :
    (forM entries fun entry => entry.1.visit writer entry.2 : EStateM Fault (List String) Unit)
        lines = .ok () (lines ++ entries.flatMap visitLines) := by
  induction entries generalizing lines with
  | nil =>
    rw [List.flatMap_nil, List.append_nil]
    rfl
  | cons entry entries ih =>
    rw [List.forM_cons, List.flatMap_cons, ← List.append_assoc]
    change EStateM.bind _ _ _ = _
    unfold EStateM.bind
    rw [visit_writer]
    exact ih _

/-- Every tree has a program, and these are its lines. -/
theorem program_eq (tree : PartitionTree Float) (settings : Settings) :
    tree.program settings = .ok (textOfLines (listing tree settings)) := by
  unfold PartitionTree.program PartitionTree.walk
  rw [Node.walk_eq_forM]
  simp only [EStateM.run]
  rw [forM_writer]
  rfl

/-! ## Lines fall apart again -/

/-- A text without line feeds that does not end with a carriage return. -/
private def IsLine (line : List Char) : Prop :=
  '\n' ∉ line ∧ line.getLast? ≠ some '\r'

private theorem isLine_closed {text : List Char} {last : Char} (inLine : '\n' ∉ text)
    (plain : last ≠ '\n' ∧ last ≠ '\r') : IsLine (text ++ [last]) := by
  constructor
  · intro member
    rcases List.mem_append.1 member with front | end'
    · exact inLine front
    · exact plain.1 (List.mem_singleton.1 end').symm
  · rw [List.getLast?_concat]
    intro same
    exact plain.2 (Option.some.inj same)

private theorem inLine_of_isNumeral {text : List Char}
    (numerals : ∀ glyph ∈ text, Decimal.isNumeral glyph = true) : '\n' ∉ text :=
  fun member => absurd (numerals _ member) (by decide)

private theorem inLine_append {front back : List Char} (first : '\n' ∉ front)
    (second : '\n' ∉ back) : '\n' ∉ front ++ back := by
  rw [List.mem_append]
  exact not_or.2 ⟨first, second⟩

private theorem inLine_numberText (number : Float) : '\n' ∉ (numberText number).toList :=
  inLine_of_isNumeral fun _ => isNumeral_of_mem_numberText

private theorem inLine_repr (count : Nat) : '\n' ∉ count.repr.toList :=
  inLine_of_isNumeral fun _ => isNumeral_of_mem_repr

private theorem inLine_countList (counts : List Nat) : '\n' ∉ (countList counts).toList := by
  unfold countList
  rw [String.toList_append, String.toList_append, String.toList_intercalate]
  refine inLine_append (inLine_append (by decide) (Text.not_mem_intercalate (by decide) ?_)) (by decide)
  intro piece member
  rw [List.map_map] at member
  rcases List.mem_map.1 member with ⟨count, -, rfl⟩
  exact inLine_repr count

private theorem inLine_targetText {slot : Slot} (namable : IsNamable slot) :
    '\n' ∉ (targetText slot).toList := by
  cases slot with
  | figure => decide
  | cell grid index =>
    unfold targetText
    rw [toList_cellText]
    exact inLine_append (by decide) (inLine_append (inLine_append namable.2.1 (by decide))
      (inLine_append (inLine_repr index) (by decide)))

private theorem isLine_figureLine (size : FigureSize Float) (dpi : Float) :
    IsLine (figureLine size dpi).toList := by
  rw [toList_figureLine]
  simp only [← List.append_assoc]
  apply isLine_closed _ (by decide)
  simp only [List.append_assoc]
  -- The four fixed parts of the line stand around the three numbers.
  refine inLine_append ?_ (inLine_append ?_ (inLine_append (inLine_numberText _)
    (inLine_append ?_ (inLine_append (inLine_numberText _) (inLine_append ?_
      (inLine_numberText _))))))
  all_goals decide +kernel

private theorem isLine_axisLine {label : Char} {slot : Slot} (inLine : label ≠ '\n')
    (namable : IsNamable slot) : IsLine (axisLine (NodeName.ofLeaf label) slot).toList := by
  have name : '\n' ∉ (NodeName.ofLeaf label).toList := by
    unfold NodeName.ofLeaf
    simp [inLine.symm]
  rw [toList_axisLine]
  simp only [← List.append_assoc]
  apply isLine_closed _ (by decide)
  simp only [List.append_assoc]
  exact inLine_append (by decide) (inLine_append name (inLine_append (by decide)
    (inLine_targetText namable)))

private theorem isLine_gridOpening {id : String} (slot : Slot) (inLine : '\n' ∉ id.toList) :
    IsLine (gridOpening id slot).toList := by
  have whole : ∀ {call : String}, '\n' ∉ call.toList ∧ call.toList.getLast? = some '(' →
      IsLine (("gridspecs[\"" ++ id) ++ call).toList := by
    intro call ⟨plain, last⟩
    rw [String.toList_append, String.toList_append]
    refine ⟨inLine_append (inLine_append (by decide) inLine) plain, ?_⟩
    rw [List.getLast?_append, last]
    exact fun same => absurd (Option.some.inj same) (by decide)
  cases slot with
  | figure => exact whole (by decide +kernel)
  | cell grid index => exact whole (by decide +kernel)

private theorem inLine_of_mem_arguments {slot : Slot} {request : GridRequest Float}
    {argument : String × String} (namable : IsNamable slot)
    (member : argument ∈ arguments slot request) :
    '\n' ∉ argument.1.toList ∧ '\n' ∉ argument.2.toList := by
  have keys : ∀ key ∈ ["figure", "subplot_spec", "nrows", "ncols", "height_ratios",
      "width_ratios", "wspace", "hspace"], '\n' ∉ key.toList := by decide +kernel
  have spaced : ∀ {key : String} {space : Option Float}, argument ∈ spacingArgument key space →
      '\n' ∉ argument.2.toList := by
    intro key space inside
    cases space with
    | none => cases inside
    | some value =>
      rw [List.mem_singleton.1 inside]
      exact inLine_numberText value
  refine ⟨keys _ (key_of_mem_arguments member), ?_⟩
  unfold arguments at member
  rcases List.mem_append.1 member with front | high
  · rcases List.mem_append.1 front with fixed | wide
    · simp only [List.mem_cons, List.not_mem_nil, or_false] at fixed
      rcases fixed with rfl | rfl | rfl | rfl | rfl
      · cases slot with
        | figure => decide
        | cell grid index =>
          have target := inLine_targetText namable
          exact target
      · exact inLine_repr _
      · exact inLine_repr _
      · exact inLine_countList _
      · exact inLine_countList _
    · exact spaced wide
  · exact spaced high

private theorem isLine_argumentLine {key value : String} (name : '\n' ∉ key.toList)
    (inLine : '\n' ∉ value.toList) : IsLine (argumentLine key value).toList := by
  rw [toList_argumentLine]
  simp only [← List.append_assoc]
  apply isLine_closed _ (by decide)
  simp only [List.append_assoc]
  exact inLine_append (by decide) (inLine_append name (inLine_append (by decide) inLine))

private theorem isLine_of_mem_gridLines {id : String} {slot : Slot} (inLine : '\n' ∉ id.toList)
    (namable : IsNamable slot) {request : GridRequest Float} :
    ∀ line ∈ gridLines id slot request, IsLine line.toList := by
  intro line member
  rw [gridLines_eq, List.mem_append, List.mem_cons, List.mem_cons] at member
  rcases member with (rfl | rfl | body) | last
  · exact ⟨List.not_mem_nil, by decide⟩
  · exact isLine_gridOpening slot inLine
  · rcases List.mem_map.1 body with ⟨argument, found, rfl⟩
    have plain := inLine_of_mem_arguments namable found
    exact isLine_argumentLine plain.1 plain.2
  · rw [List.mem_singleton.1 last]
    exact ⟨by decide, by decide⟩

private theorem isLine_of_mem_visitLines {entry : Node Float × Slot} (writes : CanWrite entry) :
    ∀ line ∈ visitLines entry, IsLine line.toList := by
  rcases entry with ⟨node, slot⟩
  rcases writes with ⟨writable, namable⟩
  intro line member
  cases node with
  | leaf contents =>
    rw [List.mem_singleton.1 member, writable.named]
    exact isLine_axisLine writable.inLine namable
  | split cut children => exact isLine_of_mem_gridLines writable.inLine namable line member
  | blank region => cases member

private theorem isLine_of_mem_closingLines (annotate : Bool) :
    ∀ line ∈ closingLines annotate, IsLine line.toList := by
  have all : ∀ line ∈ closingLines true,
      '\n' ∉ line.toList ∧ line.toList.getLast? ≠ some '\r' := by decide +kernel
  cases annotate with
  | true => exact all
  | false =>
    intro line member
    cases member

private theorem isLine_of_mem_openingLines (size : FigureSize Float) (dpi : Float) :
    ∀ line ∈ openingLines size dpi, IsLine line.toList := by
  have fixed : ∀ line ∈ ["import matplotlib as mpl", "import matplotlib.pyplot as plt", "",
      gridStoreLine, axisStoreLine],
        '\n' ∉ line.toList ∧ line.toList.getLast? ≠ some '\r' := by decide +kernel
  intro line member
  by_cases figure : line = figureLine size dpi
  · rw [figure]
    exact isLine_figureLine size dpi
  · apply fixed
    unfold openingLines at member
    simp only [List.mem_cons, List.not_mem_nil, or_false, figure, false_or] at member ⊢
    exact member

private theorem toList_textOfLines (lines : List String) :
    (textOfLines lines).toList = (lines.map String.toList).flatMap (· ++ ['\n']) := by
  unfold textOfLines
  rw [String.toList_join, List.flatMap_map, List.flatMap_map]
  congr 1
  funext line
  rw [String.toList_append]
  rfl

/-- The text of a program falls into the lines that it was written with. -/
theorem lines_listing {tree : PartitionTree Float} (writable : tree.Writable)
    (settings : Settings) :
    Text.lines (textOfLines (listing tree settings)).toList =
      (listing tree settings).map String.toList := by
  have plain : ∀ line ∈ (listing tree settings).map String.toList, IsLine line := by
    intro line member
    rcases List.mem_map.1 member with ⟨text, listed, rfl⟩
    unfold listing at listed
    rcases List.mem_append.1 listed with front | closing
    · rcases List.mem_append.1 front with opening | body
      · exact isLine_of_mem_openingLines _ _ text opening
      · rcases List.mem_flatMap.1 body with ⟨entry, visited, own⟩
        exact isLine_of_mem_visitLines (canWrite_of_mem_visits writable entry visited) text own
    · exact isLine_of_mem_closingLines _ text closing
  have joined := Text.lines_joined (fun line member => (plain line member).1)
    (fun line member => (plain line member).2)
  rw [toList_textOfLines]
  exact joined

end Program
end Mosaic
