import Mosaic.Proofs.Json.Compact
import Mosaic.Proofs.Tree.Terminals
import Mosaic.Tree.Canonical

/-!
# Trees with the same text

The JSON of a tree names every field, so it gives back all of them but spacing: there
is one value for spacing that is missing, infinite or not a number.  Hence two trees
with the same text are the same as soon as spacing is told apart from split to split.
-/

namespace Mosaic

/-! ## Fields -/

@[simp]
theorem Json.ofNat_inj {count other : Nat} : Json.ofNat count = Json.ofNat other ↔ count = other := by
  unfold ofNat
  rw [Json.number.injEq, Number.integer.injEq, Int.ofNat_inj]

@[simp]
theorem CellRect.toJson_inj {rect other : CellRect} : rect.toJson = other.toJson ↔ rect = other := by
  cases rect
  cases other
  simp [toJson]

@[simp]
theorem LabelRegion.toJson_inj {region other : LabelRegion} :
    region.toJson = other.toJson ↔ region = other := by
  cases region
  cases other
  simp [toJson]

@[simp]
theorem Leaf.toJson_inj {leaf other : Leaf} : leaf.toJson = other.toJson ↔ leaf = other := by
  cases leaf
  cases other
  simp [toJson]

@[simp]
theorem Orientation.toJson_inj {orientation other : Orientation} :
    orientation.toJson = other.toJson ↔ orientation = other := by
  cases orientation <;> cases other <;> simp [toJson]

/-- Is spacing the same where its text is? -/
def Spacing.ToldFrom (spacing other : Spacing Float) : Prop :=
  spacing.toJson = other.toJson → spacing = other

/-! ## Nodes -/

namespace Node

/-- Splits with the same JSON agree in all but their spacing and children, which have the same
JSON. -/
theorem parts_of_toJson_eq {cut other : Cut Float} {children others : List (Node Float)}
    (same : (split cut children).toJson = (split other others).toJson) :
    cut.id = other.id ∧ cut.orientation = other.orientation ∧ cut.region = other.region ∧
      cut.depth = other.depth ∧ listToJson children = listToJson others ∧
      cut.ratios = other.ratios ∧ cut.spacing.toJson = other.spacing.toJson := by
  simpa [toJson, List.map_inj_right] using same

mutual

/-- Nodes with the same JSON are the same if the spacing of their splits is told apart. -/
theorem eq_of_toJson_eq (node other : Node Float)
    (told : ∀ split ∈ node.splits, ∀ otherSplit ∈ other.splits,
      split.1.spacing.ToldFrom otherSplit.1.spacing)
    (same : node.toJson = other.toJson) : node = other := by
  cases node with
  | leaf contents =>
    cases other with
    | leaf otherContents => exact congrArg leaf (Leaf.toJson_inj.1 same)
    | blank region => simp [toJson, Leaf.toJson] at same
    | split cut children => simp [toJson, Leaf.toJson] at same
  | blank region =>
    cases other with
    | leaf contents => simp [toJson, Leaf.toJson] at same
    | blank otherRegion =>
      have regions : region = otherRegion := by simpa [toJson] using same
      rw [regions]
    | split cut children => simp [toJson] at same
  | split cut children =>
    cases other with
    | leaf contents => simp [toJson, Leaf.toJson] at same
    | blank region => simp [toJson] at same
    | split otherCut otherChildren =>
      rw [splits_split, splits_split] at told
      rcases parts_of_toJson_eq same with ⟨id, orientation, region, depth, below, ratios, spacing⟩
      have cuts : cut = otherCut := by
        have own := told _ List.mem_cons_self _ List.mem_cons_self spacing
        rcases cut with ⟨⟩
        rcases otherCut with ⟨⟩
        dsimp only at id orientation region depth ratios own
        rw [id, orientation, region, depth, ratios, own]
      rw [cuts, eq_of_listToJson_eq children otherChildren
        (fun split member otherSplit otherMember => told split (List.mem_cons_of_mem _ member)
          otherSplit (List.mem_cons_of_mem _ otherMember)) below]

theorem eq_of_listToJson_eq (children others : List (Node Float))
    (told : ∀ split ∈ children.flatMap splits, ∀ otherSplit ∈ others.flatMap splits,
      split.1.spacing.ToldFrom otherSplit.1.spacing)
    (same : listToJson children = listToJson others) : children = others := by
  cases children with
  | nil =>
    cases others with
    | nil => rfl
    | cons other others => cases same
  | cons child children =>
    cases others with
    | nil => cases same
    | cons other others =>
      rw [listToJson, listToJson, List.cons.injEq] at same
      have first := eq_of_toJson_eq child other (fun split member otherSplit otherMember =>
        told split (List.mem_flatMap.2 ⟨child, List.mem_cons_self, member⟩) otherSplit
          (List.mem_flatMap.2 ⟨other, List.mem_cons_self, otherMember⟩)) same.1
      have rest := eq_of_listToJson_eq children others (fun split member otherSplit otherMember =>
        told split (List.mem_append_right _ member) otherSplit
          (List.mem_append_right _ otherMember)) same.2
      rw [first, rest]

end

end Node

/-! ## Trees -/

attribute [simp] Json.IsFinite.string

@[simp]
theorem Json.isFinite_ofNat (count : Nat) : (Json.ofNat count).IsFinite :=
  .number (.integer _)

/-- What is not finite is not shown as a number. -/
@[simp]
theorem Json.isFinite_ofFloat? (real : Option Float) : (Json.ofFloat? real).IsFinite := by
  cases real with
  | none => exact .null
  | some value =>
    unfold ofFloat? ofFloat
    dsimp only
    split
    · next finite => exact .number (.real finite)
    · exact .null

theorem Json.isFinite_map {α : Type} {json : α → Json} (each : ∀ value, (json value).IsFinite)
    (values : List α) : (Json.array (values.map json)).IsFinite := by
  refine .array fun item member => ?_
  rcases List.mem_map.1 member with ⟨value, -, rfl⟩
  exact each value

@[simp]
theorem CellRect.isFinite_toJson (rect : CellRect) : rect.toJson.IsFinite := by
  refine .object ?_
  simp

@[simp]
theorem LabelRegion.isFinite_toJson (region : LabelRegion) : region.toJson.IsFinite := by
  refine .object ?_
  simp

@[simp]
theorem Spacing.isFinite_toJson (spacing : Spacing Float) : spacing.toJson.IsFinite := by
  refine .object ?_
  simp

@[simp]
theorem Leaf.isFinite_toJson (leaf : Leaf) : leaf.toJson.IsFinite := by
  refine .object ?_
  simp

@[simp]
theorem Orientation.isFinite_toJson (orientation : Orientation) : orientation.toJson.IsFinite := by
  cases orientation <;> exact .string _

namespace Node

mutual

@[simp]
theorem isFinite_toJson (node : Node Float) : node.toJson.IsFinite := by
  cases node with
  | leaf contents => exact contents.isFinite_toJson
  | blank region =>
    refine .object ?_
    simp
  | split cut children =>
    have below : (Json.array (listToJson children)).IsFinite := .array (isFinite_listToJson children)
    have ratios := Json.isFinite_map Json.isFinite_ofNat cut.ratios
    refine .object ?_
    simp [below, ratios]

theorem isFinite_listToJson (children : List (Node Float)) :
    ∀ json ∈ listToJson children, json.IsFinite := by
  cases children with
  | nil => exact fun json member => nomatch member
  | cons child children =>
    rw [listToJson, List.forall_mem_cons]
    exact ⟨isFinite_toJson child, isFinite_listToJson children⟩

end

end Node

namespace PartitionTree

theorem isFinite_toJson (tree : PartitionTree Float) : tree.toJson.IsFinite := by
  have labels := Json.isFinite_map LabelRegion.isFinite_toJson tree.labels
  refine .object ?_
  simp [labels]

/-- Trees with the same text have the same extent and labels, and roots with the same JSON. -/
theorem parts_of_canonical_eq {tree other : PartitionTree Float}
    (same : tree.canonical = other.canonical) :
    tree.root.toJson = other.root.toJson ∧ tree.rows = other.rows ∧ tree.cols = other.cols ∧
      tree.labels = other.labels := by
  have json := tree.isFinite_toJson.compact_injective other.isFinite_toJson same
  simpa [toJson, List.map_inj_right] using json

end PartitionTree
end Mosaic
