import Mosaic.Canvas.Recorder
import Mosaic.Proofs.Canvas.Scene
import Mosaic.Proofs.Partition.Names
import Mosaic.Proofs.Partition.Proportions

/-!
# Where the nodes of a partition are drawn

The splits of a partition have names of their own, and their grids fit.  So drawing a
partition fails only when the canvas refuses a call, and each node is placed in the
grid that was made for the split right above it.  A scene refuses none of these calls.
-/

namespace Mosaic

variable {α σ Figure Grid Axis : Type}

/-- A canvas that takes every call in certain states, and then is in such a state again. -/
structure Canvas.Willing (canvas : Canvas α σ Figure Grid Axis) (Ready : σ → Prop) : Prop where
  figure : ∀ state size dpi, Ready state →
    ∃ made after, canvas.figure size dpi state = .ok made after ∧ Ready after
  grid : ∀ state figure parent request, Ready state →
    ∃ made after, canvas.grid figure parent request state = .ok made after ∧ Ready after
  axis : ∀ state figure parent, Ready state →
    ∃ made after, canvas.axis figure parent state = .ok made after ∧ Ready after

/-- A drawing of the partition of a drawing, on a canvas in the given state. -/
structure DrawnNode.Shows (grid : ArtGrid) (tree : PartitionTree Float) (settings : Settings)
    (canvas : Canvas Float σ Figure Grid Axis) (state : σ) (bundle : Bundle Figure Grid Axis)
    (after : σ) (drawn : DrawnNode Float Grid Axis) : Prop where
  root : drawn.node = tree.root
  succeeds : tree.draw settings canvas state = .ok bundle after
  /-- The calls that succeed are those of the drawn tree, on the figure of the bundle. -/
  calls : tree.draw settings canvas.answered (state, []) =
    .ok bundle (after, .figure (settings.figureSize tree.rows tree.cols) settings.dpi bundle.figure ::
      drawn.calls bundle.figure none)
  /-- Each axis is kept under the label of its leaf, and each grid under the name of its split. -/
  axes : ∀ label axis, bundle.axes.get? label = some axis ↔ (label, axis) ∈ drawn.axes
  grids : ∀ id grid, bundle.grids.get? id = some grid ↔ (id, grid) ∈ drawn.grids
  labels : (bundle.axes.map Prod.fst).Perm (grid.labels.map LabelRegion.label)
  distinctLabels : (bundle.axes.map Prod.fst).Nodup
  ids : (bundle.grids.map Prod.fst).Perm (tree.splits.map fun split => split.1.id)
  distinctIds : (bundle.grids.map Prod.fst).Nodup

theorem Canvas.Willing.serves {canvas : Canvas α σ Figure Grid Axis} {Ready : σ → Prop}
    (willing : canvas.Willing Ready) : canvas.Serves fun state _ => Ready state := by
  constructor
  · exact fun size dpi ready => willing.figure _ size dpi ready
  · exact fun figure ready _ _ => willing.grid _ figure _ _ ready
  · exact fun figure ready _ => willing.axis _ figure _ ready

theorem Cut.Proportioned.fits [Scalar α] {cut : Cut α} {children : List (Node α)}
    (proportioned : cut.Proportioned children) :
    (GridRequest.ofCut cut children.length).fits = true := by
  have sizes := proportioned.request_fits
  have positive := proportioned.positive
  refine GridRequest.fits_iff.2 ⟨sizes.heights, sizes.widths, ?_, ?_⟩
  · cases direction : cut.orientation with
    | columns => simp [GridRequest.ofCut, heightRatios, direction, CellRect.height]
    | rows => simpa [GridRequest.ofCut, heightRatios, direction] using positive
  · cases direction : cut.orientation with
    | columns => simpa [GridRequest.ofCut, widthRatios, direction] using positive
    | rows => simp [GridRequest.ofCut, widthRatios, direction, CellRect.width]

namespace ArtGrid.Solid

variable {grid : ArtGrid} {settings : Settings} {tree : PartitionTree Float}

theorem fits (solid : grid.Solid) (made : grid.partition settings = .ok tree) :
    tree.root.Fits := by
  rintro ⟨cut, childCount⟩ listed
  rcases Node.mem_splits_iff.1 listed with ⟨children, member, rfl⟩
  rcases Node.mem_descendants_iff.1 member with ⟨above, lineage⟩
  rcases solid.cut_madeAt made lineage with ⟨members, known⟩
  exact known.proportioned.fits

theorem nodup_splits (solid : grid.Solid) (made : grid.partition settings = .ok tree) :
    (tree.root.splits.map fun split => split.1.id).Nodup := by
  rcases solid.exists_named made with ⟨after, named⟩
  exact (named.nodup (solid.nodup_leaves made)).sublist tree.root.sublist_names

theorem perm_leaves (solid : grid.Solid) (made : grid.partition settings = .ok tree) :
    (tree.root.leaves.map Leaf.label).Perm (grid.labels.map LabelRegion.label) := by
  rcases (partition_ok made).2.2.2 with ⟨after, done⟩
  have fills := fills_of_ok solid.laidOut done solid.frames
  exact (tree.root.perm_labels).symm.trans fills.perm_labels

/-- A canvas that serves shows the partition of every drawing. -/
theorem exists_shows (solid : grid.Solid) (made : grid.partition settings = .ok tree)
    {canvas : Canvas Float σ Figure Grid Axis} {Holds : σ → List (Grid × Nat) → Prop}
    (serves : canvas.Serves Holds) (asked : Settings) {state : σ} (holds : Holds state []) :
    ∃ drawn bundle after, DrawnNode.Shows grid tree asked canvas state bundle after drawn ∧
      canvas.Runs state (.figure (asked.figureSize tree.rows tree.cols) asked.dpi bundle.figure ::
        drawn.calls bundle.figure none) after := by
  have distinct := solid.nodup_splits made
  rcases DrawnNode.exists_drawing serves tree (asked.figureSize tree.rows tree.cols) asked.dpi
    (solid.fits made) distinct holds with ⟨figure, drawn, after, same, runs, plain, noted⟩
  have labelled : drawn.axes.map Prod.fst = tree.root.leaves.map Leaf.label := by
    rw [DrawnNode.map_fst_axes, same]
  have named : drawn.grids.map Prod.fst = tree.splits.map fun split => split.1.id := by
    rw [DrawnNode.map_fst_grids, same]
    rfl
  have axesNodup : (drawn.axes.map Prod.fst).Nodup := by
    rw [labelled]
    exact solid.nodup_leaves made
  have gridsNodup : (drawn.grids.map Prod.fst).Nodup := by
    rw [named]
    exact distinct
  have axes : (Table.putAll [] drawn.axes).Perm drawn.axes := Table.perm_putAll axesNodup
  have grids : (Table.putAll [] drawn.grids).Perm drawn.grids := Table.perm_putAll gridsNodup
  have axesKept := (axes.map Prod.fst).nodup_iff.2 axesNodup
  have gridsKept := (grids.map Prod.fst).nodup_iff.2 gridsNodup
  refine ⟨drawn, ⟨figure, Table.putAll [] drawn.axes, Table.putAll [] drawn.grids⟩, after, ?_, runs⟩
  constructor
  · exact same
  · exact plain
  · exact noted
  · exact fun label axis => (Table.get?_eq_some_iff axesKept).trans axes.mem_iff
  · exact fun id grid => (Table.get?_eq_some_iff gridsKept).trans grids.mem_iff
  · exact (axes.map Prod.fst).trans (labelled ▸ solid.perm_leaves made)
  · exact axesKept
  · exact named ▸ grids.map Prod.fst
  · exact gridsKept

end ArtGrid.Solid

/-- Drawing the partition of a drawing succeeds on every canvas that takes its calls, and on
every scene, and each node is placed in the grid of the split above it. -/
theorem draw_places_nodes {lines : List (List Char)} {blank : Char} {grid : ArtGrid}
    {settings : Settings} {tree : PartitionTree Float}
    (read : ArtGrid.ofLines lines blank = .ok grid) (made : grid.partition settings = .ok tree)
    (asked : Settings) :
    (∀ {σ Figure Grid Axis : Type} (canvas : Canvas Float σ Figure Grid Axis) (Ready : σ → Prop),
      canvas.Willing Ready → ∀ state, Ready state → ∃ drawn bundle after,
        DrawnNode.Shows grid tree asked canvas state bundle after drawn) ∧
      ∀ scene : Scene Float, ∃ drawn bundle after,
        DrawnNode.Shows grid tree asked (Canvas.scene Float) scene bundle after drawn ∧
          after.axes.length = scene.axes.length + grid.labels.length := by
  have solid := ArtGrid.solid_of_ofLines read
  constructor
  · intro σ Figure Grid Axis canvas Ready willing state ready
    rcases solid.exists_shows made willing.serves asked ready with
      ⟨drawn, bundle, after, shows, -⟩
    exact ⟨drawn, bundle, after, shows⟩
  · intro scene
    have empty : scene.Keeps [] := fun handle cellCount listed => nomatch listed
    rcases solid.exists_shows made Canvas.scene_serves asked empty with
      ⟨drawn, bundle, after, shows, runs⟩
    refine ⟨drawn, bundle, after, shows, ?_⟩
    have leaves := (solid.perm_leaves made).length_eq
    rw [← shows.root, ← DrawnNode.map_fst_axes, List.length_map, List.length_map] at leaves
    rw [Scene.length_axes_of_runs runs, List.filterMap_cons_none rfl, DrawnNode.axes_of_calls,
      List.length_map, leaves]

/-- A recorder without a refusal takes every call. -/
theorem Canvas.willing_recorder : (Canvas.recorder Float none).Willing fun _ => True := by
  constructor
  · exact fun calls size dpi _ => ⟨_, _, rfl, trivial⟩
  · exact fun calls figure parent request _ => ⟨_, _, rfl, trivial⟩
  · exact fun calls figure parent _ => ⟨_, _, rfl, trivial⟩

theorem draw_places_nodes_mixed :
    ArtGrid.ofLines [['A', 'A', 'C'], ['B', '.', 'C']] '.' = .ok mixed ∧
      mixed.partition Settings.default = .ok mixedTree ∧
      (∃ drawn bundle after, DrawnNode.Shows mixed mixedTree Settings.default
        (Canvas.recorder Float none) [] bundle after drawn) ∧
      ∃ drawn bundle after, DrawnNode.Shows mixed mixedTree Settings.default
        (Canvas.scene Float) (Scene.empty Margins.default) bundle after drawn ∧
          after.axes.length = 3 := by
  have places := draw_places_nodes ofLines_mixed partition_mixed Settings.default
  exact ⟨ofLines_mixed, partition_mixed,
    places.1 (Canvas.recorder Float none) _ Canvas.willing_recorder [] trivial,
    places.2 (Scene.empty Margins.default)⟩

end Mosaic
