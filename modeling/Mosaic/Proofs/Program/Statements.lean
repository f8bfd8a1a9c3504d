import Mosaic.Program.Replay
import Mosaic.Proofs.Decimal.ReadBack
import Mosaic.Proofs.Text.Cuts

/-!
# Written statements read back

Every line that a program is written with is understood as what it was written
for.  Names may hold any characters but a quotation mark, which ends them, and a
line feed; counts must fit a machine word; real numbers may be anything.  Blocks
are treated one argument at a time, since the reader takes them in like that.
-/

namespace Mosaic
namespace Program

/-! ## Values -/

theorem numberStyle_readable : numberStyle.Readable :=
  ⟨Or.inr rfl, Or.inl rfl⟩

private theorem isWhiteSpace_of_isNumeral {glyph : Char}
    (numeral : Decimal.isNumeral glyph = true) : Unicode.isWhiteSpace glyph = false := by
  unfold Decimal.isNumeral at numeral
  rcases Bool.or_eq_true_iff.1 numeral with digit | other
  · unfold Decimal.isDigit at digit
    simp only [Bool.and_eq_true, decide_eq_true_eq, Char.le_def] at digit
    apply Bool.eq_false_iff.2
    intro white
    rcases (Unicode.isIn_iff _ _).1 white with ⟨range, member, lower, upper⟩
    have low : 48 ≤ glyph.toNat := UInt32.le_iff_toNat_le.1 digit.1
    have high : glyph.toNat ≤ 57 := UInt32.le_iff_toNat_le.1 digit.2
    simp only [Unicode.whiteSpaceRanges, List.mem_cons, List.not_mem_nil, or_false] at member
    rcases member with rfl | rfl | rfl | rfl | rfl | rfl | rfl | rfl | rfl | rfl <;>
      simp only at lower upper <;> omega
  · have marks : ['+', '-', '.', 'e', 'N', 'a', 'i', 'n', 'f'].all
        (fun mark => !Unicode.isWhiteSpace mark) = true := by decide
    have black := List.all_eq_true.1 marks glyph (List.contains_iff_mem.1 other)
    rw [Bool.not_eq_true'] at black
    exact black

private theorem isTrimmed_of_isNumeral {text : List Char}
    (numerals : ∀ glyph ∈ text, Decimal.isNumeral glyph = true) : Text.IsTrimmed text := by
  constructor
  · intro glyph first
    exact isWhiteSpace_of_isNumeral (numerals glyph (List.mem_of_mem_head? first))
  · intro glyph last
    exact isWhiteSpace_of_isNumeral (numerals glyph (List.mem_of_getLast? last))

theorem isNumeral_of_mem_numberText {number : Float} {glyph : Char}
    (member : glyph ∈ (numberText number).toList) : Decimal.isNumeral glyph = true :=
  Decimal.isNumeral_of_mem_text numberStyle_readable member

theorem isNumeral_of_mem_repr {count : Nat} {glyph : Char}
    (member : glyph ∈ count.repr.toList) : Decimal.isNumeral glyph = true := by
  rw [Nat.repr_eq_ofList_toDigits] at member
  exact Decimal.isNumeral_of_mem_natText member

theorem readReal_numberText (number : Float) :
    readReal (numberText number).toList = .ok number := by
  have trimmed : Text.IsTrimmed (numberText number).toList :=
    isTrimmed_of_isNumeral fun _ => isNumeral_of_mem_numberText
  have read := Decimal.number?_text numberStyle_readable number
  unfold readReal
  rw [Text.trim_eq_self trimmed]
  unfold numberText
  rw [read]
  rfl

theorem readCount_repr {count : Nat} (fits : count ≤ Decimal.largestWord) :
    readCount count.repr.toList = .ok count := by
  have trimmed : Text.IsTrimmed count.repr.toList :=
    isTrimmed_of_isNumeral fun _ => isNumeral_of_mem_repr
  have read := Decimal.count?_digitsOf fits
  unfold readCount
  rw [Text.trim_eq_self trimmed, Nat.toList_repr]
  unfold Decimal.digitsOf at read
  rw [read]
  rfl

private theorem readCounts_repr {counts : List Nat}
    (fits : ∀ count ∈ counts, count ≤ Decimal.largestWord) :
    readCounts (counts.map fun count => count.repr.toList) = .ok counts := by
  induction counts with
  | nil => rfl
  | cons count counts ih =>
    have here := readCount_repr (fits count List.mem_cons_self)
    have later := ih fun other member => fits other (List.mem_cons_of_mem _ member)
    rw [List.map_cons, readCounts, here, later]
    rfl

theorem readRatios_countList {counts : List Nat} (nonempty : counts ≠ [])
    (fits : ∀ count ∈ counts, count ≤ Decimal.largestWord) :
    readRatios (countList counts).toList = .ok counts := by
  have pieces : counts.map (fun count => count.repr.toList) ≠ [] := by
    intro none
    exact nonempty (List.map_eq_nil_iff.1 none)
  have absent : ∀ piece ∈ counts.map (fun count => count.repr.toList), ',' ∉ piece := by
    intro piece member comma
    rcases List.mem_map.1 member with ⟨count, -, rfl⟩
    exact absurd (isNumeral_of_mem_repr comma) (by decide)
  have spelled : (countList counts).toList =
      ['['] ++ ([',', ' '].intercalate (counts.map fun count => count.repr.toList) ++ [']']) := by
    have texts : (counts.map toString).map String.toList =
        counts.map fun count => count.repr.toList := by
      rw [List.map_map]
      rfl
    unfold countList
    rw [String.toList_append, String.toList_append, String.toList_intercalate, texts,
      List.append_assoc]
    rfl
  have inside : between? ['['] [']'] (countList counts).toList =
      some ([',', ' '].intercalate (counts.map fun count => count.repr.toList)) := by
    rw [spelled]
    unfold between?
    rw [Text.dropLead?_append]
    exact Text.dropTail?_append _ _
  unfold readRatios
  rw [inside]
  change readCounts (Text.splitOnPair ',' ' ' _) = _
  rw [Text.splitOnPair_intercalate pieces absent]
  exact readCounts_repr fits

/-! ## References -/

theorem toList_cellText (grid : String) (index : Nat) :
    (cellText grid index).toList =
      "gridspecs[\"".toList ++ (grid.toList ++ "\"][".toList ++ (index.repr.toList ++ [']'])) := by
  simp only [cellText, toString, String.toList_append, List.append_assoc]
  rfl

theorem readCell_cellText {grid : String} {index : Nat} (unquoted : '"' ∉ grid.toList)
    (fits : index ≤ Decimal.largestWord) :
    readCell (cellText grid index).toList = .ok (.cell grid index) := by
  have parts : cellParts? (cellText grid index).toList =
      some (grid.toList, index.repr.toList) := by
    have cut : Text.cutAt? "\"][".toList
        (grid.toList ++ "\"][".toList ++ (index.repr.toList ++ [']'])) =
          some (grid.toList, index.repr.toList ++ [']']) :=
      Text.cutAt?_append _ unquoted
    rw [toList_cellText]
    unfold cellParts?
    rw [Text.dropLead?_append]
    simp only [Option.bind_eq_bind, Option.bind_some]
    rw [cut]
    simp only [Option.bind_some]
    rw [Text.dropTail?_append]
    rfl
  have count := readCount_repr fits
  unfold readCell
  rw [parts]
  simp only [foundOr, bind, Except.bind]
  rw [count]
  simp only [String.ofList_toList]
  rfl

/-- Where an axis is placed, as its statement says it. -/
def targetText : Slot → String
  | .figure => "1, 1, 1"
  | .cell grid index => cellText grid index

/-- Can the place be named in a program? -/
def IsNamable : Slot → Prop
  | .figure => True
  | .cell grid index => '"' ∉ grid.toList ∧ '\n' ∉ grid.toList ∧ index ≤ Decimal.largestWord

private theorem readTarget_targetText {slot : Slot} (namable : IsNamable slot) :
    readTarget (targetText slot).toList = .ok slot := by
  cases slot with
  | figure => rfl
  | cell grid index =>
    have other : (cellText grid index).toList ≠ "1, 1, 1".toList := by
      intro same
      rw [toList_cellText] at same
      exact absurd (congrArg List.head? same) (by simp)
    unfold readTarget targetText
    rw [if_neg other]
    exact readCell_cellText namable.1 namable.2.2

/-! ## Single statements -/

/-- Neither of two texts starts with the other, so no text starts with both. -/
private def Parted (lead other : List Char) : Prop :=
  ¬ lead <+: other ∧ ¬ other <+: lead

private instance (lead other : List Char) : Decidable (Parted lead other) :=
  inferInstanceAs (Decidable (_ ∧ _))

private theorem Parted.ne_append {lead other : List Char} (parted : Parted lead other)
    (rest more : List Char) : lead ++ rest ≠ other ++ more := by
  intro same
  have front : lead <+: other ++ more := ⟨rest, same⟩
  exact (List.prefix_or_prefix_of_prefix front (List.prefix_append other more)).elim
    parted.1 parted.2

/-- The beginnings of the lines without effect. -/
private def idleLeads : List (List Char) :=
  [['#'], "import ".toList, gridStoreLine.toList, axisStoreLine.toList, loopLine.toList]

private theorem isIdle_append {lead : List Char} (parted : ∀ idle ∈ idleLeads, Parted lead idle)
    (rest : List Char) : isIdle (lead ++ rest) = false := by
  have other : ∀ idle ∈ idleLeads, ∀ more, lead ++ rest ≠ idle ++ more :=
    fun idle member => (parted idle member).ne_append rest
  have empty : (lead ++ rest).isEmpty = false := by
    apply Bool.eq_false_iff.2
    intro none
    have blank := (List.append_eq_nil_iff.1 (List.isEmpty_iff.1 none)).1
    exact (parted ['#'] List.mem_cons_self).1 (blank ▸ List.nil_prefix)
  have comment : (lead ++ rest).head? ≠ some '#' := by
    intro first
    rcases List.head?_eq_some_iff.1 first with ⟨more, same⟩
    exact other ['#'] List.mem_cons_self more same
  have imported : Text.dropLead? "import ".toList (lead ++ rest) = none := by
    apply Option.eq_none_iff_forall_not_mem.2
    intro more found
    exact other "import ".toList (by simp [idleLeads]) more (Text.dropLead?_eq_some_iff.1 found)
  have fixed : [gridStoreLine, axisStoreLine, loopLine].contains (String.ofList (lead ++ rest)) =
      false := by
    apply Bool.eq_false_iff.2
    intro found
    have member := List.contains_iff_mem.1 found
    have listed : (lead ++ rest) ∈ idleLeads := by
      simp only [List.mem_cons, List.not_mem_nil, or_false] at member
      unfold idleLeads
      rcases member with same | same | same <;>
        simp [← same, String.toList_ofList]
    exact other _ listed [] (List.append_nil _).symm
  unfold isIdle
  simp only [empty, comment, imported, fixed, Option.isSome_none, decide_false, Bool.or_self]

private theorem isTrimmed_between {first last : Char} {text : List Char}
    (start : text.head? = some first) (stop : text.getLast? = some last)
    (front : Unicode.isWhiteSpace first = false) (back : Unicode.isWhiteSpace last = false) :
    Text.IsTrimmed text := by
  constructor
  · intro glyph same
    exact (Option.some.inj (start.symm.trans same)) ▸ front
  · intro glyph same
    exact (Option.some.inj (stop.symm.trans same)) ▸ back

/-- What a line is taken for by how it starts. -/
private def readLead (raw : List Char) : Except StatementFault Statement :=
  match Text.dropLead? "fig = plt.figure(".toList raw with
  | some call => readFigure call
  | none =>
    match Text.dropLead? "gridspecs[\"".toList raw with
    | some rest => readGridOpening rest
    | none =>
      match Text.dropLead? "axes[\"".toList raw with
      | some rest => readAxis rest
      | none => faultAbout .unrecognised raw

/-- A line that is neither indented nor idle is taken by the statement it starts. -/
private theorem readStatement_of_lead {raw : List Char} {first last : Char}
    (start : raw.head? = some first) (stop : raw.getLast? = some last)
    (front : Unicode.isWhiteSpace first = false) (back : Unicode.isWhiteSpace last = false)
    (busy : isIdle raw = false) : readStatement raw = readLead raw := by
  have trimmed := isTrimmed_between start stop front back
  have outside : isIndented raw raw = false := by
    cases raw with
    | nil => cases start
    | cons glyph rest =>
      cases start
      unfold isIndented
      simp only [front, Bool.false_and]
  unfold readStatement
  simp only [Text.trim_eq_self trimmed, outside, busy, Bool.false_eq_true, if_false]
  rfl

theorem toList_figureLine (size : FigureSize Float) (dpi : Float) :
    (figureLine size dpi).toList =
      "fig = plt.figure(".toList ++ ("figsize=(".toList ++ (((numberText size.width).toList ++
        ", ".toList ++ (numberText size.height).toList) ++ "), dpi=".toList ++
          ((numberText dpi).toList ++ [')']))) := by
  have lead : "fig = plt.figure(figsize=(".toList =
      "fig = plt.figure(".toList ++ "figsize=(".toList := rfl
  have middle : "), dpi=".toList = "), ".toList ++ "dpi=".toList := rfl
  have last : ")".toList = [')'] := rfl
  unfold figureLine
  simp only [toString, String.toList_append, List.append_assoc, lead, middle, last]

theorem readStatement_figureLine (size : FigureSize Float) (dpi : Float) :
    readStatement (figureLine size dpi).toList = .ok (.figure size dpi) := by
  have comma : ',' ∉ (numberText size.width).toList :=
    fun member => absurd (isNumeral_of_mem_numberText member) (by decide)
  have bracket : ')' ∉ (numberText size.width).toList ++ ", ".toList ++
      (numberText size.height).toList := by
    intro member
    rcases List.mem_append.1 member with front | height
    · rcases List.mem_append.1 front with width | mark
      · exact absurd (isNumeral_of_mem_numberText width) (by decide)
      · exact absurd mark (by decide)
    · exact absurd (isNumeral_of_mem_numberText height) (by decide)
  have parts : figureParts? ("figsize=(".toList ++ (((numberText size.width).toList ++
      ", ".toList ++ (numberText size.height).toList) ++ "), dpi=".toList ++
        ((numberText dpi).toList ++ [')']))) =
          some ((numberText size.width).toList, (numberText size.height).toList,
            (numberText dpi).toList) := by
    have outer : Text.cutAt? "), dpi=".toList (((numberText size.width).toList ++
        ", ".toList ++ (numberText size.height).toList) ++ "), dpi=".toList ++
          ((numberText dpi).toList ++ [')'])) = some _ :=
      Text.cutAt?_append _ bracket
    have inner : Text.cutAt? ", ".toList ((numberText size.width).toList ++
        ", ".toList ++ (numberText size.height).toList) = some _ :=
      Text.cutAt?_append _ comma
    unfold figureParts?
    rw [Text.dropLead?_append]
    simp only [Option.bind_eq_bind, Option.bind_some]
    rw [outer]
    simp only [Option.bind_some]
    rw [inner]
    simp only [Option.bind_some]
    rw [Text.dropTail?_append]
    rfl
  have start : (figureLine size dpi).toList.head? = some 'f' := by
    rw [toList_figureLine]
    rfl
  have stop : (figureLine size dpi).toList.getLast? = some ')' := by
    rw [toList_figureLine]
    simp only [← List.append_assoc]
    exact List.getLast?_concat
  have busy : isIdle (figureLine size dpi).toList = false := by
    rw [toList_figureLine]
    exact isIdle_append (by decide) _
  rw [readStatement_of_lead start stop (by decide) (by decide) busy, toList_figureLine]
  unfold readLead
  rw [Text.dropLead?_append]
  simp only
  unfold readFigure
  rw [parts]
  simp only [foundOr, bind, Except.bind, readReal_numberText]
  rfl

theorem toList_axisLine (id : String) (slot : Slot) :
    (axisLine id slot).toList =
      "axes[\"".toList ++ (id.toList ++ "\"] = fig.add_subplot(".toList ++
        ((targetText slot).toList ++ [')'])) := by
  have last : ")".toList = [')'] := rfl
  cases slot <;>
    simp only [axisLine, targetText, toString, String.toList_append, List.append_assoc, last]

theorem readStatement_axisLine {label : Char} {slot : Slot} (unquoted : label ≠ '"')
    (namable : IsNamable slot) :
    readStatement (axisLine (NodeName.ofLeaf label) slot).toList = .ok (.axis label slot) := by
  have absent : '"' ∉ (NodeName.ofLeaf label).toList := by
    unfold NodeName.ofLeaf
    simp [unquoted.symm]
  have start : (axisLine (NodeName.ofLeaf label) slot).toList.head? = some 'a' := by
    rw [toList_axisLine]
    rfl
  have stop : (axisLine (NodeName.ofLeaf label) slot).toList.getLast? = some ')' := by
    rw [toList_axisLine]
    simp only [← List.append_assoc]
    exact List.getLast?_concat
  have busy : isIdle (axisLine (NodeName.ofLeaf label) slot).toList = false := by
    rw [toList_axisLine]
    exact isIdle_append (by decide) _
  rw [readStatement_of_lead start stop (by decide) (by decide) busy, toList_axisLine]
  unfold readLead
  rw [Text.dropLead?_append]
  have cut : Text.cutAt? "\"] = fig.add_subplot(".toList ((NodeName.ofLeaf label).toList ++
      "\"] = fig.add_subplot(".toList ++ ((targetText slot).toList ++ [')'])) = some _ :=
    Text.cutAt?_append _ absent
  have closed := Text.dropTail?_append (targetText slot).toList [')']
  change readAxis _ = _
  unfold readAxis
  rw [cut]
  simp only [foundOr, bind, Except.bind, String.ofList_toList, NodeName.label?_ofLeaf, closed,
    readTarget_targetText namable]
  rfl

/-- The first line of the block for a split at a place. -/
def gridOpening (id : String) (slot : Slot) : String :=
  match slot with
  | .figure => s!"gridspecs[\"{id}\"] = mpl.gridspec.GridSpec("
  | .cell _ _ => s!"gridspecs[\"{id}\"] = mpl.gridspec.GridSpecFromSubplotSpec("

private theorem readStatement_of_maker {id : String} {raw call : List Char}
    (spelled : raw = "gridspecs[\"".toList ++ (id.toList ++ "\"] = ".toList ++ call))
    (known : call = "mpl.gridspec.GridSpec(".toList ∨
      call = "mpl.gridspec.GridSpecFromSubplotSpec(".toList)
    (unquoted : '"' ∉ id.toList) : readStatement raw = .ok (.openGrid id) := by
  have start : raw.head? = some 'g' := by
    rw [spelled]
    rfl
  have stop : raw.getLast? = some '(' := by
    rw [spelled, List.getLast?_append, List.getLast?_append]
    rcases known with rfl | rfl <;> rfl
  have busy : isIdle raw = false := by
    rw [spelled]
    exact isIdle_append (by decide) _
  have cut : Text.cutAt? "\"] = ".toList (id.toList ++ "\"] = ".toList ++ call) = some _ :=
    Text.cutAt?_append _ unquoted
  rw [readStatement_of_lead start stop (by decide) (by decide) busy, spelled]
  unfold readLead
  rw [Text.dropLead?_append]
  change readGridOpening _ = _
  unfold readGridOpening
  rw [cut]
  simp only [foundOr, bind, Except.bind, if_pos known, String.ofList_toList]
  rfl

theorem readStatement_gridOpening {id : String} (slot : Slot) (unquoted : '"' ∉ id.toList) :
    readStatement (gridOpening id slot).toList = .ok (.openGrid id) := by
  cases slot with
  | figure =>
    refine readStatement_of_maker ?_ (Or.inl rfl) unquoted
    have call : "\"] = mpl.gridspec.GridSpec(" = "\"] = " ++ "mpl.gridspec.GridSpec(" := by
      decide +kernel
    change (("gridspecs[\"" ++ id) ++ "\"] = mpl.gridspec.GridSpec(").toList = _
    rw [call]
    simp only [String.toList_append, List.append_assoc]
  | cell grid index =>
    refine readStatement_of_maker ?_ (Or.inr rfl) unquoted
    have call : "\"] = mpl.gridspec.GridSpecFromSubplotSpec(" =
        "\"] = " ++ "mpl.gridspec.GridSpecFromSubplotSpec(" := by decide +kernel
    change (("gridspecs[\"" ++ id) ++ "\"] = mpl.gridspec.GridSpecFromSubplotSpec(").toList = _
    rw [call]
    simp only [String.toList_append, List.append_assoc]

/-! ## Blocks -/

/-- The line of an argument in a block. -/
def argumentLine (key value : String) : String :=
  "    " ++ key ++ "=" ++ value ++ ","

theorem toList_argumentLine (key value : String) :
    (argumentLine key value).toList =
      "    ".toList ++ (key.toList ++ "=".toList ++ value.toList ++ [',']) := by
  have last : ",".toList = [','] := rfl
  simp only [argumentLine, String.toList_append, List.append_assoc, last]

private theorem trim_argumentLine {key : String} (value : String) {first : Char}
    (start : key.toList.head? = some first) (front : Unicode.isWhiteSpace first = false) :
    Text.trim (argumentLine key value).toList =
      key.toList ++ "=".toList ++ value.toList ++ [','] := by
  have trimmed : Text.IsTrimmed (key.toList ++ "=".toList ++ value.toList ++ [',']) := by
    apply isTrimmed_between _ List.getLast?_concat front (by decide)
    rw [List.append_assoc, List.append_assoc, List.head?_append, start]
    rfl
  rw [toList_argumentLine, Text.trim_append (by decide), Text.trim_eq_self trimmed]

private theorem takeLine_argument (block : GridBlock) {key : String} (value : String)
    (absent : '=' ∉ key.toList) :
    block.takeLine (key.toList ++ "=".toList ++ value.toList ++ [',']) =
      block.set key.toList value.toList := by
  have cut : Text.cutAt? ['='] (key.toList ++ "=".toList ++ value.toList) =
      some (key.toList, value.toList) :=
    Text.cutAt?_append _ absent
  unfold GridBlock.takeLine
  rw [Text.dropTail?_append]
  simp only [Option.getD_some, cut, foundOr, bind, Except.bind]

/-- A grid whose counts can be read back. -/
structure Readable (request : GridRequest Float) : Prop where
  nrows : request.nrows ≤ Decimal.largestWord
  ncols : request.ncols ≤ Decimal.largestWord
  someHeight : request.heightRatios ≠ []
  someWidth : request.widthRatios ≠ []
  heights : ∀ height ∈ request.heightRatios, height ≤ Decimal.largestWord
  widths : ∀ width ∈ request.widthRatios, width ≤ Decimal.largestWord

/-- The argument that says where a grid is placed. -/
def placementArgument : Slot → String × String
  | .figure => ("figure", "fig")
  | .cell grid index => ("subplot_spec", cellText grid index)

/-- The argument for a spacing that is given. -/
def spacingArgument (key : String) : Option Float → List (String × String)
  | some space => [(key, numberText space)]
  | none => []

/-- The arguments of a block, as they are written. -/
def arguments (slot : Slot) (request : GridRequest Float) : List (String × String) :=
  [placementArgument slot, ("nrows", request.nrows.repr), ("ncols", request.ncols.repr),
    ("height_ratios", countList request.heightRatios),
    ("width_ratios", countList request.widthRatios)] ++
      spacingArgument "wspace" request.wspace ++ spacingArgument "hspace" request.hspace

private theorem argumentLine_eq {lead key : String} (value : String)
    (spelled : lead = "    " ++ key ++ "=") : lead ++ value ++ "," = argumentLine key value := by
  rw [spelled]
  rfl

private theorem placementLines_eq (id : String) (slot : Slot) :
    placementLines id slot =
      [gridOpening id slot, argumentLine (placementArgument slot).1 (placementArgument slot).2] := by
  cases slot with
  | figure =>
    have fixed : "    figure=fig," = argumentLine "figure" "fig" := by decide +kernel
    unfold placementLines gridOpening placementArgument
    rw [fixed]
  | cell grid index =>
    have line := argumentLine_eq (cellText grid index)
      (by decide +kernel : "    subplot_spec=" = "    " ++ "subplot_spec" ++ "=")
    unfold placementLines gridOpening placementArgument
    rw [← line]
    rfl

private theorem spacingLines_eq (key : String) (space : Option Float) :
    spacingLines key space =
      (spacingArgument key space).map fun argument => argumentLine argument.1 argument.2 := by
  cases space <;> rfl

theorem gridLines_eq (id : String) (slot : Slot) (request : GridRequest Float) :
    gridLines id slot request =
      "" :: gridOpening id slot ::
        ((arguments slot request).map fun argument => argumentLine argument.1 argument.2) ++
          [")"] := by
  have nrows := argumentLine_eq request.nrows.repr
    (by decide +kernel : "    nrows=" = "    " ++ "nrows" ++ "=")
  have ncols := argumentLine_eq request.ncols.repr
    (by decide +kernel : "    ncols=" = "    " ++ "ncols" ++ "=")
  have heights := argumentLine_eq (countList request.heightRatios)
    (by decide +kernel : "    height_ratios=" = "    " ++ "height_ratios" ++ "=")
  have widths := argumentLine_eq (countList request.widthRatios)
    (by decide +kernel : "    width_ratios=" = "    " ++ "width_ratios" ++ "=")
  unfold gridLines arguments
  rw [placementLines_eq, spacingLines_eq, spacingLines_eq, List.map_append, List.map_append]
  simp only [List.map_cons, List.map_nil, ← nrows, ← ncols, ← heights, ← widths]
  simp only [List.cons_append, List.nil_append, List.append_assoc]
  rfl

def setAll (block : GridBlock) (given : List (String × String)) :
    Except StatementFault GridBlock :=
  given.foldlM (fun block argument => block.set argument.1.toList argument.2.toList) block

private theorem set_placement (block : GridBlock) {slot : Slot} (namable : IsNamable slot) :
    block.set (placementArgument slot).1.toList (placementArgument slot).2.toList =
      .ok { block with slot := some slot } := by
  cases slot with
  | figure => rfl
  | cell grid index =>
    have read := readCell_cellText namable.1 namable.2.2
    unfold placementArgument GridBlock.set
    simp [read, bind, Except.bind, pure, Except.pure]

private theorem set_counts (block : GridBlock) {count : Nat}
    (fits : count ≤ Decimal.largestWord) :
    block.set "nrows".toList count.repr.toList = .ok { block with nrows := some count } ∧
      block.set "ncols".toList count.repr.toList = .ok { block with ncols := some count } := by
  have read := readCount_repr fits
  unfold GridBlock.set
  constructor <;> simp only [String.ofList_toList, read, bind, Except.bind] <;> rfl

private theorem set_ratios (block : GridBlock) {ratios : List Nat} (nonempty : ratios ≠ [])
    (fits : ∀ ratio ∈ ratios, ratio ≤ Decimal.largestWord) :
    block.set "height_ratios".toList (countList ratios).toList =
        .ok { block with heightRatios := some ratios } ∧
      block.set "width_ratios".toList (countList ratios).toList =
        .ok { block with widthRatios := some ratios } := by
  have read := readRatios_countList nonempty fits
  unfold GridBlock.set
  constructor <;> simp only [String.ofList_toList, read, bind, Except.bind] <;> rfl

private theorem set_spaces (block : GridBlock) (space : Float) :
    block.set "wspace".toList (numberText space).toList =
        .ok { block with wspace := some space } ∧
      block.set "hspace".toList (numberText space).toList =
        .ok { block with hspace := some space } := by
  have read := readReal_numberText space
  unfold GridBlock.set
  constructor <;> simp only [String.ofList_toList, read, bind, Except.bind] <;> rfl

/-- The arguments of a block are all taken in, whatever they are. -/
theorem setAll_arguments (id : String) {slot : Slot} {request : GridRequest Float}
    (namable : IsNamable slot) (readable : Readable request) :
    setAll (.opened id) (arguments slot request) =
      .ok ⟨id, some slot, some request.nrows, some request.ncols, some request.heightRatios,
        some request.widthRatios, request.wspace, request.hspace⟩ := by
  have nrows := fun block => (set_counts block readable.nrows).1
  have ncols := fun block => (set_counts block readable.ncols).2
  have heights := fun block => (set_ratios block readable.someHeight readable.heights).1
  have widths := fun block => (set_ratios block readable.someWidth readable.widths).2
  unfold setAll arguments
  cases wide : request.wspace <;> cases high : request.hspace <;>
    simp only [spacingArgument, List.cons_append, List.nil_append, List.foldlM_cons, List.foldlM_nil,
      set_placement _ namable, nrows, ncols, heights, widths, (set_spaces _ _).1,
      (set_spaces _ _).2, bind, Except.bind] <;> rfl

theorem finish_arguments (id : String) (slot : Slot) (request : GridRequest Float) :
    GridBlock.finish ⟨id, some slot, some request.nrows, some request.ncols,
      some request.heightRatios, some request.widthRatios, request.wspace, request.hspace⟩ =
        .ok (request, slot) :=
  rfl

theorem key_of_mem_arguments {slot : Slot} {request : GridRequest Float}
    {argument : String × String} (member : argument ∈ arguments slot request) :
    argument.1 ∈ ["figure", "subplot_spec", "nrows", "ncols", "height_ratios", "width_ratios",
      "wspace", "hspace"] := by
  have spaced : ∀ {key : String} {space : Option Float}, argument ∈ spacingArgument key space →
      argument.1 = key := by
    intro key space inside
    cases space with
    | none => cases inside
    | some value => exact congrArg Prod.fst (List.mem_singleton.1 inside)
  unfold arguments at member
  rcases List.mem_append.1 member with front | high
  · rcases List.mem_append.1 front with fixed | wide
    · simp only [List.mem_cons, List.not_mem_nil, or_false] at fixed
      rcases fixed with rfl | rfl | rfl | rfl | rfl
      · cases slot <;> simp [placementArgument]
      all_goals simp
    · simp [spaced wide]
  · simp [spaced high]

/-- The line of an argument is never taken for the end of its block. -/
theorem trim_argument {slot : Slot} {request : GridRequest Float} {argument : String × String}
    (member : argument ∈ arguments slot request) :
    Text.trim (argumentLine argument.1 argument.2).toList ≠ [')'] ∧
      ∀ block : GridBlock,
        block.takeLine (Text.trim (argumentLine argument.1 argument.2).toList) =
          block.set argument.1.toList argument.2.toList := by
  have keys : ∀ key ∈ ["figure", "subplot_spec", "nrows", "ncols", "height_ratios",
      "width_ratios", "wspace", "hspace"],
        '=' ∉ key.toList ∧ key.toList.head?.any
          (fun first => !Unicode.isWhiteSpace first && first != ')') = true := by
    decide +kernel
  rcases keys _ (key_of_mem_arguments member) with ⟨absent, lead⟩
  rcases (Option.any_eq_true _ _).1 lead with ⟨first, start, plain⟩
  rw [Bool.and_eq_true, Bool.not_eq_true', bne_iff_ne] at plain
  have trimmed := trim_argumentLine argument.2 start plain.1
  rw [trimmed]
  constructor
  · intro closed
    have head := congrArg List.head? closed
    rw [List.append_assoc, List.append_assoc, List.head?_append, start] at head
    exact plain.2 (Option.some.inj head)
  · intro block
    exact takeLine_argument block argument.2 absent

end Program
end Mosaic
