import Mosaic.Proofs.Partition.Reproduction

/-!
# The calls of a run

Cutting up a drawing is a recursion over regions.  Here it is carried out with a record of every
call, kept when the call is entered, so that it also stays when the run fails later on.  Apart from
the record it is the same run; and where it comes to an end, the regions of the record are those of
the nodes of the tree, in the order of the tree.

Each call but the first was made on a piece of the region of another one, and the pieces of a
region inherit that no label crosses them.  So in every call the labels that are handed on are the
ones inside the region, which are also the ones with a cell in it: none is lost from call to call,
although a label is passed over wherever it does not lie inside a piece.
-/

namespace Mosaic

/-- A call on a region: the labels that are handed on with it, and how many splits lie above. -/
structure RegionCall where
  region : CellRect
  members : List LabelRegion
  depth : Nat
  deriving DecidableEq, Repr

/-- The call on one piece of the region. -/
def RegionCall.onPiece (call : RegionCall) (orientation : Orientation) (piece : Span) :
    RegionCall where
  region := call.region.slice orientation piece
  members := (call.region.slice orientation piece).membersIn call.members
  depth := call.depth + 1

/-- A call that was entered, and the call that made it. -/
structure CallRecord where
  caller : Option RegionCall
  call : RegionCall
  deriving DecidableEq, Repr

/-- What is carried from region to region while calls are recorded. -/
structure RecordedProgress where
  progress : Progress
  records : List CallRecord

namespace RecordedProgress

variable {β : Type}

/-- Record a call, and carry it out. -/
def recording (record : CallRecord) (action : EStateM Fault RecordedProgress β) :
    EStateM Fault RecordedProgress β := fun state =>
  action { state with records := state.records ++ [record] }

/-- Do something that makes no calls. -/
def lift (action : EStateM Fault Progress β) : EStateM Fault RecordedProgress β := fun state =>
  match action state.progress with
  | .ok result after => .ok result { state with progress := after }
  | .error fault after => .error fault { state with progress := after }

end RecordedProgress

variable {α : Type}

/-- The node for a region, as `partitionRegion` makes it, with a record of the calls on the way. -/
def partitionRecorded (spacingAt : Nat → Spacing α) (region : CellRect)
    (members : List LabelRegion) (depth : Nat) : EStateM Fault RecordedProgress (Node α) :=
  if members.isEmpty then
    RecordedProgress.lift do
      Progress.count Tally.recordBlank
      return .blank region
  else
    match region.soleLabel? members with
    | some label =>
      RecordedProgress.lift do
        Progress.count fun tally => tally.recordLeaf depth
        let id ← Progress.nameLeaf label
        return .leaf { id, label, region }
    | none =>
      match chosen : region.direction? members with
      | none =>
        RecordedProgress.lift do
          Progress.count fun tally => tally.recordCuts (region.linesExamined none)
          let labels := NodeName.sorted (members.map LabelRegion.label)
          throw (.inseparable (String.ofList labels) region)
      | some orientation => do
        let id ← RecordedProgress.lift do
          Progress.count fun tally =>
            (tally.recordCuts (region.linesExamined (some orientation))).recordSplit depth
          Progress.nameSplit (members.map LabelRegion.label)
        let pieces := region.pieces orientation members
        let children ← pieces.attach.mapM fun piece =>
          let part := region.slice orientation piece.val
          RecordedProgress.recording
            ⟨some ⟨region, members, depth⟩, ⟨part, part.membersIn members, depth + 1⟩⟩
            (partitionRecorded spacingAt part (part.membersIn members) (depth + 1))
        let cut : Cut α :=
          { id, orientation, region, depth, ratios := pieces.map Span.size
            spacing := spacingAt depth }
        return .split cut children
termination_by region.innerLineCount
decreasing_by exact CellRect.innerLineCount_piece chosen piece.property

def RegionCall.carryOut (call : RegionCall) (spacingAt : Nat → Spacing α)
    (caller : Option RegionCall) : EStateM Fault RecordedProgress (Node α) :=
  RecordedProgress.recording ⟨caller, call⟩
    (partitionRecorded spacingAt call.region call.members call.depth)

/-- The partition of a drawing with a record of all calls.  Settings that cannot be used are
refused before any call is made. -/
def ArtGrid.partitionRecorded (grid : ArtGrid) (settings : Settings) :
    Except Fault (PartitionTree Float) × List CallRecord :=
  match settings.validate with
  | .error cause => (.error (.settings cause), [])
  | .ok () =>
    let first : RegionCall := ⟨grid.bounds, grid.labels, 0⟩
    match first.carryOut settings.spacingAt none ⟨grid.outset, []⟩ with
    | .ok root after =>
      (.ok { root, rows := grid.rows, cols := grid.cols, labels := grid.labels }, after.records)
    | .error fault after => (.error fault, after.records)

/-! ## The same run -/

/-- The calls that may be recorded from a call on. -/
inductive RecordedFrom : Option RegionCall → RegionCall → CallRecord → Prop
  | first (caller : Option RegionCall) (call : RegionCall) : RecordedFrom caller call ⟨caller, call⟩
  | piece {caller : Option RegionCall} {call : RegionCall} {orientation : Orientation}
      {piece : Span} {record : CallRecord} (cutInto : call.region.CutInto call.members orientation)
      (member : piece ∈ call.region.pieces orientation call.members)
      (later : RecordedFrom (some call) (call.onPiece orientation piece) record) :
      RecordedFrom caller call record

/-- Is the second outcome the first one with more records?  The regions of the records are the ones
that are shown in the result, if there is one. -/
inductive Recorded {β : Type} (known : CallRecord → Prop) (shown : β → List CellRect)
    (earlier : List CallRecord) :
    EStateM.Result Fault Progress β → EStateM.Result Fault RecordedProgress β → Prop
  | ok {result : β} {after : Progress} {records : List CallRecord}
      (each : ∀ record ∈ records, known record)
      (regions : records.map (·.call.region) = shown result) :
      Recorded known shown earlier (.ok result after) (.ok result ⟨after, earlier ++ records⟩)
  | error {fault : Fault} {after : Progress} {records : List CallRecord}
      (each : ∀ record ∈ records, known record) :
      Recorded known shown earlier (.error fault after) (.error fault ⟨after, earlier ++ records⟩)

namespace Recorded

variable {β : Type} {known other : CallRecord → Prop} {shown : β → List CellRect}
  {earlier : List CallRecord} {outcome : EStateM.Result Fault Progress β}
  {recordedOutcome : EStateM.Result Fault RecordedProgress β}

theorem imp (recorded : Recorded known shown earlier outcome recordedOutcome)
    (weaker : ∀ record, known record → other record) :
    Recorded other shown earlier outcome recordedOutcome := by
  cases recorded with
  | ok each regions => exact .ok (fun record member => weaker record (each record member)) regions
  | error each => exact .error fun record member => weaker record (each record member)

/-- Two runs of which one is recorded end alike. -/
theorem ends_alike (recorded : Recorded known shown earlier outcome recordedOutcome) :
    (∃ result after records, outcome = .ok result after ∧
      recordedOutcome = .ok result ⟨after, earlier ++ records⟩ ∧
      (∀ record ∈ records, known record) ∧ records.map (·.call.region) = shown result) ∨
    ∃ fault after records, outcome = .error fault after ∧
      recordedOutcome = .error fault ⟨after, earlier ++ records⟩ ∧
      ∀ record ∈ records, known record := by
  cases recorded with
  | ok each regions => exact Or.inl ⟨_, _, _, rfl, rfl, each, regions⟩
  | error each => exact Or.inr ⟨_, _, _, rfl, rfl, each⟩

end Recorded

def Node.regions (node : Node α) : List CellRect :=
  node.descendants.map Node.region

variable {spacingAt : Nat → Spacing α} {caller : Option RegionCall} {call : RegionCall}

/-- The calls on some pieces are recorded one after the other, up to the one that fails. -/
theorem recorded_mapM {known : CallRecord → Prop} {pieces : List Span}
    {plain : Span → EStateM Fault Progress (Node α)}
    {noted : Span → EStateM Fault RecordedProgress (Node α)}
    (each : ∀ piece ∈ pieces, ∀ before earlier,
      Recorded known Node.regions earlier (plain piece before) (noted piece ⟨before, earlier⟩))
    (before : Progress) (earlier : List CallRecord) :
    Recorded known (fun children => children.flatMap Node.regions) earlier
      (pieces.mapM plain before) (pieces.mapM noted ⟨before, earlier⟩) := by
  induction pieces generalizing before earlier with
  | nil =>
    have nothing : Recorded known (fun children : List (Node α) => children.flatMap Node.regions)
        earlier (.ok [] before) (.ok [] ⟨before, earlier ++ []⟩) :=
      .ok (fun _ none => absurd none List.not_mem_nil) rfl
    rw [List.append_nil] at nothing
    exact nothing
  | cons piece pieces ih =>
    rw [List.forall_mem_cons] at each
    rw [List.mapM_cons, List.mapM_cons]
    change Recorded _ _ _ (EStateM.bind _ _ _) (EStateM.bind _ _ _)
    unfold EStateM.bind
    rcases (each.1 before earlier).ends_alike with
      ⟨child, between, records, done, noting, own, regions⟩ |
        ⟨fault, stopped, records, done, noting, own⟩
    · rw [done, noting]
      change Recorded _ _ _ (EStateM.bind _ _ _) (EStateM.bind _ _ _)
      unfold EStateM.bind
      rcases (ih each.2 between (earlier ++ records)).ends_alike with
        ⟨children, ended, more, rest, restNoting, others, otherRegions⟩ |
          ⟨fault, stopped, more, rest, restNoting, others⟩
      · rw [rest, restNoting, List.append_assoc]
        refine .ok (List.forall_mem_append.2 ⟨own, others⟩) ?_
        rw [List.map_append, regions, otherRegions, List.flatMap_cons]
      · rw [rest, restNoting, List.append_assoc]
        exact .error (List.forall_mem_append.2 ⟨own, others⟩)
    · rw [done, noting]
      exact .error own

/-- A region that is not cut is treated without further calls. -/
theorem partitionRecorded_uncut
    (uncut : ∀ orientation, ¬ call.region.CutInto call.members orientation) :
    partitionRecorded spacingAt call.region call.members call.depth =
      RecordedProgress.lift (partitionRegion spacingAt call.region call.members call.depth) := by
  rw [partitionRecorded.eq_def, partitionRegion.eq_def]
  by_cases empty : call.members.isEmpty = true
  · rw [if_pos empty, if_pos empty]
  · rw [if_neg empty, if_neg empty]
    cases sole : call.region.soleLabel? call.members with
    | some label => rfl
    | none =>
      dsimp only
      cases chosen : call.region.direction? call.members with
      | none => rfl
      | some orientation =>
        have nonempty : call.members ≠ [] := fun none => empty (List.isEmpty_iff.2 none)
        exact absurd ⟨nonempty, sole, chosen⟩ (uncut orientation)

theorem partitionRecorded_split {orientation : Orientation}
    (cutInto : call.region.CutInto call.members orientation) (before : Progress)
    (earlier : List CallRecord) :
    partitionRecorded spacingAt call.region call.members call.depth ⟨before, earlier⟩ =
      match (call.region.pieces orientation call.members).mapM
          (fun piece => (call.onPiece orientation piece).carryOut spacingAt (some call))
          ⟨before.enterSplit call.region call.members orientation call.depth, earlier⟩ with
      | .ok children after =>
        .ok (.split
          { id := (before.names.split (call.members.map LabelRegion.label)).1, orientation
            region := call.region, depth := call.depth
            ratios := (call.region.pieces orientation call.members).map Span.size
            spacing := spacingAt call.depth } children) after
      | .error fault after => .error fault after := by
  rcases cutInto with ⟨nonempty, several, chosen⟩
  have calls : (call.region.pieces orientation call.members).attach.mapM (fun piece =>
      (call.onPiece orientation piece.val).carryOut spacingAt (some call)) =
        (call.region.pieces orientation call.members).mapM fun piece =>
          (call.onPiece orientation piece).carryOut spacingAt (some call) := by
    have each : ∀ piece (member : piece ∈ call.region.pieces orientation call.members),
        (call.onPiece orientation (Subtype.mk piece member).val).carryOut spacingAt (some call) =
          (call.onPiece orientation piece).carryOut spacingAt (some call) :=
      fun _ _ => rfl
    rw [List.mapM_subtype each, List.unattach_attach]
  rw [partitionRecorded.eq_def, if_neg fun none => nonempty (List.isEmpty_iff.1 none), several]
  dsimp only
  rw [chosen]
  change EStateM.bind
    ((call.region.pieces orientation call.members).attach.mapM fun piece =>
      (call.onPiece orientation piece.val).carryOut spacingAt (some call)) _
    ⟨before.enterSplit call.region call.members orientation call.depth, earlier⟩ = _
  rw [calls]
  unfold EStateM.bind
  cases (call.region.pieces orientation call.members).mapM
    (fun piece => (call.onPiece orientation piece).carryOut spacingAt (some call))
    ⟨before.enterSplit call.region call.members orientation call.depth, earlier⟩ <;> rfl

/-- A split is recorded before the calls on its pieces. -/
theorem Recorded.split {known : CallRecord → Prop} {first : CallRecord} {earlier : List CallRecord}
    {outcome : EStateM.Result Fault Progress (List (Node α))}
    {recordedOutcome : EStateM.Result Fault RecordedProgress (List (Node α))} {cut : Cut α}
    (own : known first) (same : first.call.region = cut.region) :
    Recorded known (fun children => children.flatMap Node.regions) (earlier ++ [first]) outcome
        recordedOutcome →
      Recorded known Node.regions earlier
        (match outcome with
          | .ok children after => .ok (.split cut children) after
          | .error fault after => .error fault after)
        (match recordedOutcome with
          | .ok children after => .ok (.split cut children) after
          | .error fault after => .error fault after) := by
  intro swept
  cases swept with
  | ok each regions =>
    rw [List.append_assoc]
    refine .ok (List.forall_mem_cons.2 ⟨own, each⟩) ?_
    rw [Node.regions, Node.descendants_split, List.map_cons, List.singleton_append, List.map_cons,
      regions, List.map_flatMap, same]
    rfl
  | error each =>
    rw [List.append_assoc]
    exact .error (List.forall_mem_cons.2 ⟨own, each⟩)

/-- A region that is not cut is shown by its own record. -/
theorem regions_of_uncut {region : CellRect} {members : List LabelRegion} {depth : Nat}
    {before after : Progress} {node : Node α}
    (uncut : ∀ orientation, ¬ region.CutInto members orientation)
    (done : partitionRegion spacingAt region members depth before = .ok node after) :
    node.regions = [region] := by
  cases outcome_of_ok done with
  | blank =>
    rw [Node.regions, Node.descendants_blank]
    rfl
  | leaf nonempty sole =>
    rw [Node.regions, Node.descendants_leaf]
    rfl
  | split cutInto called => exact absurd cutInto (uncut _)

/-- Carrying out a call with a record of calls is carrying it out. -/
theorem recorded_carryOut (spacingAt : Nat → Spacing α) (caller : Option RegionCall)
    (call : RegionCall) (before : Progress) (earlier : List CallRecord) :
    Recorded (RecordedFrom caller call) Node.regions earlier
      (partitionRegion spacingAt call.region call.members call.depth before)
      (call.carryOut spacingAt caller ⟨before, earlier⟩) := by
  induction count : call.region.innerLineCount using Nat.strongRecOn
    generalizing caller call before earlier with
  | ind count ih =>
    unfold RegionCall.carryOut RecordedProgress.recording
    by_cases cut : ∃ orientation, call.region.CutInto call.members orientation
    · rcases cut with ⟨orientation, cutInto⟩
      have each : ∀ piece ∈ call.region.pieces orientation call.members, ∀ before earlier,
          Recorded (RecordedFrom caller call) Node.regions earlier
            (partitionPiece spacingAt call.region call.members orientation (call.depth + 1) piece
              before)
            ((call.onPiece orientation piece).carryOut spacingAt (some call)
              ⟨before, earlier⟩) := by
        intro piece member before earlier
        have fewer := CellRect.innerLineCount_piece cutInto.2.2 member
        exact (ih _ (count ▸ fewer) (some call) (call.onPiece orientation piece) before earlier
          rfl).imp fun record known => .piece cutInto member known
      rw [partitionRegion_split cutInto, partitionRecorded_split cutInto]
      refine Recorded.split ?_ ?_ (recorded_mapM each _ _)
      · exact .first caller call
      · rfl
    · have uncut := not_exists.1 cut
      rw [partitionRecorded_uncut uncut]
      unfold RecordedProgress.lift
      have own : ∀ record ∈ [CallRecord.mk caller call], RecordedFrom caller call record :=
        List.forall_mem_singleton.2 (.first caller call)
      cases done : partitionRegion spacingAt call.region call.members call.depth before with
      | ok node after => exact .ok own (regions_of_uncut uncut done).symm
      | error fault after => exact .error own

/-- Cutting up a drawing with a record of calls is cutting it up. -/
theorem ArtGrid.recorded_partition (grid : ArtGrid) (settings : Settings) :
    (grid.partitionRecorded settings).1 = grid.partition settings ∧
      (∀ tree, grid.partition settings = .ok tree →
        (grid.partitionRecorded settings).2.map (·.call.region) = tree.root.regions) ∧
      ∀ record ∈ (grid.partitionRecorded settings).2,
        RecordedFrom none ⟨grid.bounds, grid.labels, 0⟩ record := by
  cases valid : settings.validate with
  | error cause =>
    unfold partitionRecorded partition partitionCounted
    rw [valid]
    refine ⟨rfl, ?_, List.forall_mem_nil _⟩
    rintro tree ⟨⟩
  | ok done =>
    rw [partition_eq grid valid]
    unfold partitionRecorded
    rw [valid]
    dsimp only
    rcases (recorded_carryOut settings.spacingAt none ⟨grid.bounds, grid.labels, 0⟩
      grid.outset []).ends_alike with
      ⟨root, after, records, done, noting, each, regions⟩ |
        ⟨fault, after, records, done, noting, each⟩
    · rw [done, noting]
      refine ⟨rfl, ?_, each⟩
      rintro tree ⟨⟩
      exact regions
    · rw [done, noting]
      refine ⟨rfl, ?_, each⟩
      rintro tree ⟨⟩

/-! ## What every call can rely on -/

/-- Does the first call lead to the second one, on a piece of its region? -/
def RegionCall.Makes (caller call : RegionCall) : Prop :=
  ∃ orientation piece, caller.region.CutInto caller.members orientation ∧
    piece ∈ caller.region.pieces orientation caller.members ∧
      call = caller.onPiece orientation piece

/-- What a call on a region of a drawing can rely on.  The region is a part of the drawing; the
labels that are handed on with it are listed in the order of the drawing, each once, and are the
ones inside the region, which are also the ones with a cell in it.  When the region is cut, each of
them goes to exactly one of its pieces. -/
structure RegionCall.WellPlaced (grid : ArtGrid) (call : RegionCall) : Prop where
  upright : call.region.Upright
  inside : call.region.bottom < grid.rows ∧ call.region.right < grid.cols
  increasing : (call.members.map fun member => grid.labels.idxOf member).Pairwise (· < ·)
  contained : ∀ label, label ∈ call.members ↔
    label ∈ grid.labels ∧ call.region.contains label.bounds = true
  seen : ∀ label, label ∈ call.members ↔
    label ∈ grid.labels ∧ ∃ row col, call.region.containsCell row col = true ∧
      grid.cell? row col = some (.label label.label)
  parted : ∀ orientation, call.region.CutInto call.members orientation →
    ((call.region.pieces orientation call.members).flatMap fun piece =>
        (call.onPiece orientation piece).members).Perm call.members ∧
      ∀ member ∈ call.members, (call.region.pieces orientation call.members).countP
        (fun piece => member ∈ (call.onPiece orientation piece).members) = 1

namespace RecordedFrom

variable {labels : List LabelRegion} {record : CallRecord}

/-- No label crosses the region of a call, and the regions of the calls below it lie in it. -/
theorem frames (recorded : RecordedFrom caller call record)
    (frames : Frames labels call.region call.members) :
    Frames labels record.call.region record.call.members ∧
      call.region.contains record.call.region = true := by
  induction recorded with
  | first caller call => exact ⟨frames, CellRect.contains_refl call.region⟩
  | @piece caller call orientation piece record cutInto member later ih =>
    rcases ih (frames.piece member) with ⟨framed, inside⟩
    exact ⟨framed, CellRect.contains_trans (frames.contains_piece member) inside⟩

/-- A call was made on a piece of the region of its caller, if it has one. -/
theorem made (recorded : RecordedFrom caller call record)
    (frames : Frames labels call.region call.members) :
    (record.caller = caller ∧ record.call = call) ∨
      ∃ above, record.caller = some above ∧ Frames labels above.region above.members ∧
        above.Makes record.call := by
  induction recorded with
  | first caller call => exact Or.inl ⟨rfl, rfl⟩
  | @piece caller call orientation piece record cutInto member later ih =>
    rcases ih (frames.piece member) with ⟨own, same⟩ | deeper
    · exact Or.inr ⟨call, own, frames, orientation, piece, cutInto, member, same⟩
    · exact Or.inr deeper

end RecordedFrom

/-- A piece of a region that is cut lies in it and has fewer cells. -/
theorem RegionCall.Makes.smaller {labels : List LabelRegion} {caller call : RegionCall}
    (makes : caller.Makes call) (frames : Frames labels caller.region caller.members) :
    caller.region.contains call.region = true ∧ call.region.area < caller.region.area := by
  rcases makes with ⟨orientation, piece, cutInto, member, rfl⟩
  refine ⟨frames.contains_piece member, ?_⟩
  have shorter := CellRect.piece_shorter (CellRect.direction?_several cutInto.2.2) member
  unfold CellRect.area CellRect.width CellRect.height
  cases orientation with
  | columns => exact Nat.mul_lt_mul_of_pos_right (Nat.succ_lt_succ shorter) (Nat.succ_pos _)
  | rows => exact Nat.mul_lt_mul_of_pos_left (Nat.succ_lt_succ shorter) (Nat.succ_pos _)

/-- Entries of a part of a list come in the order of their places in the whole. -/
theorem pairwise_idxOf {part whole : List LabelRegion} (distinct : whole.Nodup)
    (kept : part.Sublist whole) :
    (part.map fun entry => whole.idxOf entry).Pairwise (· < ·) := by
  rw [List.pairwise_map]
  refine List.Pairwise.sublist kept (List.pairwise_iff_getElem.2 ?_)
  intro first second below above earlier
  rw [distinct.idxOf_getElem, distinct.idxOf_getElem]
  exact earlier

namespace ArtGrid.Solid

variable {grid : ArtGrid}

/-- A region that no label crosses has the labels inside that have a cell in it. -/
theorem contains_iff_exists_cell (solid : grid.Solid) {region : CellRect}
    {members : List LabelRegion} (frames : Frames grid.labels region members) {label : LabelRegion}
    (listed : label ∈ grid.labels) :
    region.contains label.bounds = true ↔
      ∃ row col, region.containsCell row col = true ∧
        grid.cell? row col = some (.label label.label) := by
  constructor
  · intro inside
    have upright := solid.upright label listed
    have corner : label.bounds.containsCell label.bounds.top label.bounds.left = true :=
      CellRect.containsCell_iff.2 ⟨⟨Nat.le_refl _, upright.rows⟩, Nat.le_refl _, upright.cols⟩
    exact ⟨_, _, CellRect.containsCell_of_contains inside corner,
      (solid.fills label listed _ _).1 corner⟩
  · rintro ⟨row, col, inside, shown⟩
    rcases frames.uncrossed label listed with contained | apart
    · exact contained
    · have own := (solid.fills label listed row col).2 shown
      rw [CellRect.not_containsCell_of_apart apart own] at inside
      cases inside

theorem wellPlaced (solid : grid.Solid) {call : RegionCall}
    (frames : Frames grid.labels call.region call.members)
    (inside : grid.bounds.contains call.region = true) : call.WellPlaced grid := by
  constructor
  · exact frames.upright
  · have tall := solid.rows_pos
    have wide := solid.cols_pos
    rw [CellRect.contains_iff] at inside
    unfold ArtGrid.bounds CellRect.full at inside
    simp only at inside
    omega
  · apply pairwise_idxOf solid.laidOut.different
    rw [frames.members_eq]
    exact List.filter_sublist
  · exact fun label => frames.mem_iff
  · intro label
    rw [frames.mem_iff]
    exact and_congr_right fun listed => solid.contains_iff_exists_cell frames listed
  · intro orientation cutInto
    refine ⟨frames.perm_membersIn solid.laidOut orientation, ?_⟩
    intro member found
    rw [← frames.countP_contains solid.laidOut found]
    apply List.countP_congr
    intro piece listed
    rw [decide_eq_true_eq]
    exact List.mem_filter.trans (and_iff_right found)

end ArtGrid.Solid

/-- Every call of a run, whether or not the run comes to an end, can rely on the same: its region is
a part of the drawing and its labels are the ones there.  Each call but the first was made on a
piece of the region of its caller, which is smaller. -/
theorem wellPlaced_of_recorded {lines : List (List Char)} {blank : Char} {grid : ArtGrid}
    (read : ArtGrid.ofLines lines blank = .ok grid) (settings : Settings) :
    (grid.partitionRecorded settings).1 = grid.partition settings ∧
      (∀ tree, grid.partition settings = .ok tree →
        (grid.partitionRecorded settings).2.map (·.call.region) = tree.root.regions) ∧
      ∀ record ∈ (grid.partitionRecorded settings).2,
        record.call.WellPlaced grid ∧
          (record.caller = none → record.call = ⟨grid.bounds, grid.labels, 0⟩) ∧
          ∀ caller, record.caller = some caller → caller.Makes record.call ∧
            caller.region.contains record.call.region = true ∧
              record.call.region.area < caller.region.area := by
  have solid := ArtGrid.solid_of_ofLines read
  rcases grid.recorded_partition settings with ⟨same, regions, each⟩
  refine ⟨same, regions, fun record member => ?_⟩
  have recorded := each record member
  rcases recorded.frames solid.frames with ⟨framed, inside⟩
  refine ⟨solid.wellPlaced framed inside, ?_⟩
  rcases recorded.made solid.frames with ⟨first, whole⟩ | ⟨above, made, frames, makes⟩
  · refine ⟨fun _ => whole, fun caller given => ?_⟩
    rw [first] at given
    cases given
  · refine ⟨fun none => ?_, fun caller given => ?_⟩
    · rw [made] at none
      cases none
    · rw [made] at given
      cases given
      exact ⟨makes, makes.smaller frames⟩

theorem wellPlaced_of_recorded_mixed :
    ArtGrid.ofLines [['A', 'A', 'C'], ['B', '.', 'C']] '.' = .ok mixed ∧
      mixed.partition Settings.default = .ok mixedTree ∧
      (mixed.partitionRecorded Settings.default).2.map (·.call.region) =
        [⟨0, 0, 1, 2⟩, ⟨0, 0, 1, 1⟩, ⟨0, 0, 0, 1⟩, ⟨1, 0, 1, 1⟩, ⟨1, 0, 1, 0⟩, ⟨1, 1, 1, 1⟩,
          ⟨0, 2, 1, 2⟩] ∧
      ∀ record ∈ (mixed.partitionRecorded Settings.default).2,
        record.call.WellPlaced mixed ∧
          (record.caller = none → record.call = ⟨mixed.bounds, mixed.labels, 0⟩) ∧
          ∀ caller, record.caller = some caller → caller.Makes record.call ∧
            caller.region.contains record.call.region = true ∧
              record.call.region.area < caller.region.area := by
  rcases wellPlaced_of_recorded ofLines_mixed Settings.default with ⟨-, regions, each⟩
  have listed := regions mixedTree partition_mixed
  simp only [Node.regions, mixedTree, mixedRoot, Node.descendants_split, Node.descendants_leaf,
    Node.descendants_blank, List.flatMap_cons, List.flatMap_nil] at listed
  exact ⟨ofLines_mixed, partition_mixed, listed, each⟩

end Mosaic
