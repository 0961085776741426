import VibeLink.Layout.ConnectedResize

/-! Moving a part of the boundary between two panes only: where there are such parts, and the layout made again of rows or columns
in which that part is a boundary of its own. -/

namespace VibeLink.Layout

variable {R : Type}

structure ConnectedResizeHandle where
  axis : SplitAxis
  coordinate : ℚ
  (start end' : ℚ)
  deriving DecidableEq

def Boundary.handle (boundary : Boundary R) : ConnectedResizeHandle :=
  ⟨boundary.axis, boundary.coordinate, boundary.start, boundary.end'⟩

/-! ### `leafAdjacentResizeHandles` -/

structure BoundarySegment where
  edge : ℚ
  (start end' : ℚ)

inductive Side
  | before | after

def boundarySegmentForLeaf (leaf : LeafRect R) (boundary : Boundary R) (side : Side) : Option BoundarySegment :=
  let edge := match side with
    | .before => leaf.rect.start boundary.axis + leaf.rect.extent boundary.axis
    | .after => leaf.rect.start boundary.axis
  if COORDINATE_TOLERANCE < |edge - boundary.coordinate| then none
  else
    let start := leaf.rect.start (oppositeAxis boundary.axis)
    some ⟨edge, start, start + leaf.rect.extent (oppositeAxis boundary.axis)⟩

/-- `a.start - b.start || a.end - b.end` -/
def BoundarySegment.le (a b : BoundarySegment) : Prop := a.start < b.start ∨ a.start = b.start ∧ a.end' ≤ b.end'

instance : DecidableRel BoundarySegment.le := fun _ _ => inferInstanceAs (Decidable (_ ∨ _))

/-- The loop of `intersectBoundarySegments`, over so many steps. -/
def intersections (axis : SplitAxis) : Nat → List BoundarySegment → List BoundarySegment → List ConnectedResizeHandle
  | fuel + 1, first :: before, second :: after =>
    let start := max first.start second.start
    let end' := min first.end' second.end'
    let rest :=
      if first.end' < second.end' - COORDINATE_TOLERANCE then intersections axis fuel before (second :: after)
      else if second.end' < first.end' - COORDINATE_TOLERANCE then intersections axis fuel (first :: before) after
      else intersections axis fuel before after
    if COORDINATE_TOLERANCE < end' - start then ⟨axis, average [first.edge, second.edge], start, end'⟩ :: rest else rest
  | _, _, _ => []

def intersectBoundarySegments (axis : SplitAxis) (before after : List BoundarySegment) : List ConnectedResizeHandle :=
  intersections axis (before.length + after.length) (before.insertionSort BoundarySegment.le) (after.insertionSort BoundarySegment.le)

def leafAdjacentResizeHandlesForBoundary (boundary : Boundary R) : List ConnectedResizeHandle :=
  intersectBoundarySegments boundary.axis
    (boundary.beforeLeaves.filterMap fun leaf => boundarySegmentForLeaf leaf boundary .before)
    (boundary.afterLeaves.filterMap fun leaf => boundarySegmentForLeaf leaf boundary .after)

structure BoundaryGroup (R : Type) where
  handle : ConnectedResizeHandle
  boundaries : List (Boundary R)

/-- `connectedBoundaryGroups`, of the boundaries that remain, for so many groups at most. -/
def groupsOf : Nat → List (Boundary R) → List (BoundaryGroup R)
  | fuel + 1, boundary :: remaining =>
    let candidates := remaining.filter fun candidate =>
      candidate.axis = boundary.axis && |candidate.coordinate - boundary.coordinate| ≤ COORDINATE_TOLERANCE
    let group := spread candidates (candidates.length + 1) [boundary] [boundary]
    ⟨⟨boundary.axis, average (group.map Boundary.coordinate), minimum (group.map Boundary.start), maximum (group.map Boundary.end')⟩, group⟩ ::
      groupsOf fuel (remaining.filter fun candidate => !has group candidate)
  | _, _ => []

def connectedBoundaryGroups (boundaries : List (Boundary R)) : List (BoundaryGroup R) := groupsOf boundaries.length boundaries

def resizeHandleKey (handle : ConnectedResizeHandle) : SplitAxis × ℚ × ℚ × ℚ :=
  (handle.axis, round handle.coordinate, round handle.start, round handle.end')

def eligibleSingleResizeHandleKeys (boundaries : List (Boundary R)) : List (SplitAxis × ℚ × ℚ × ℚ) :=
  ((connectedBoundaryGroups boundaries).filter fun group => boundaries.any fun boundary =>
    !has group.boundaries boundary && boundary.axis = group.handle.axis &&
      COORDINATE_TOLERANCE < |boundary.coordinate - group.handle.coordinate| &&
      intervalsMeetAtEndpoint boundary.start boundary.end' group.handle.start group.handle.end').map fun group => resizeHandleKey group.handle

def firstOfKeys (handles : List ConnectedResizeHandle) : List ConnectedResizeHandle :=
  handles.foldl (fun seen handle => if seen.any fun other => resizeHandleKey other = resizeHandleKey handle then seen else seen ++ [handle]) []

/-- `a.coordinate - b.coordinate || a.start - b.start || a.end - b.end` -/
def ConnectedResizeHandle.le (a b : ConnectedResizeHandle) : Prop :=
  a.coordinate < b.coordinate ∨ a.coordinate = b.coordinate ∧ (a.start < b.start ∨ a.start = b.start ∧ a.end' ≤ b.end')

instance : DecidableRel ConnectedResizeHandle.le := fun _ _ => inferInstanceAs (Decidable (_ ∨ _))

def leafAdjacentResizeHandles (layout : DockviewLayoutLike R) (axis : SplitAxis) (includeCleanHandles : Bool) :
    List ConnectedResizeHandle :=
  match analyzeLayout layout with
  | none => []
  | some analysis =>
    let handles := (analysis.boundaries.filter fun boundary => boundary.axis = axis).flatMap leafAdjacentResizeHandlesForBoundary
    let eligible := handles.filter fun handle =>
      includeCleanHandles || resizeHandleKey handle ∈ eligibleSingleResizeHandleKeys analysis.boundaries
    (firstOfKeys eligible).insertionSort ConnectedResizeHandle.le

/-! ### `singleResizeHandleAt` -/

/-- Of two candidates the shorter; of two equally long ones the one nearer to the coordinate. -/
def better (coordinate : ℚ) (best candidate : ConnectedResizeHandle) : Bool :=
  if candidate.end' - candidate.start ≠ best.end' - best.start then candidate.end' - candidate.start < best.end' - best.start
  else |candidate.coordinate - coordinate| < |best.coordinate - coordinate|

/-- Of the items that are where `point` is, on a line. -/
def selectSingle {α : Type} (handle : α → ConnectedResizeHandle) (items : List α) (axis : SplitAxis) (coordinate point : ℚ) : Option α :=
  match items.filter fun item => (handle item).axis = axis && |(handle item).coordinate - coordinate| ≤ COORDINATE_TOLERANCE &&
      (handle item).start - SINGLE_POINT_TOLERANCE ≤ point && point ≤ (handle item).end' + SINGLE_POINT_TOLERANCE with
  | [] => none
  | first :: rest => some (rest.foldl (fun best candidate => if better coordinate (handle best) (handle candidate) then candidate else best) first)

def selectSingleBoundary (boundaries : List (Boundary R)) (axis : SplitAxis) (coordinate point : ℚ) : Option (Boundary R) :=
  selectSingle Boundary.handle boundaries axis coordinate point

def selectSingleHandle (handles : List ConnectedResizeHandle) (axis : SplitAxis) (coordinate point : ℚ) : Option ConnectedResizeHandle :=
  selectSingle id handles axis coordinate point

def singleResizeHandleAt (layout : DockviewLayoutLike R) (axis : SplitAxis) (coordinate point : ℚ) (includeCleanHandles : Bool) :
    Option ConnectedResizeHandle :=
  selectSingleHandle (leafAdjacentResizeHandles layout axis includeCleanHandles) axis coordinate point

/-! ### `rebuildRectangularLayout` -/

/-- Of increasing coordinates those that are apart from the one kept before. -/
def apartFrom (previous : ℚ) : List ℚ → List ℚ
  | [] => []
  | value :: rest => if COORDINATE_TOLERANCE < |previous - value| then value :: apartFrom value rest else apartFrom previous rest

def sortedCoordinates (values : List ℚ) : List ℚ :=
  match values.insertionSort fun a b => a ≤ b with
  | [] => []
  | first :: rest => first :: apartFrom first rest

def rectsMatch (a b : Rect) : Bool :=
  |a.x - b.x| ≤ COORDINATE_TOLERANCE && |a.y - b.y| ≤ COORDINATE_TOLERANCE && |a.width - b.width| ≤ COORDINATE_TOLERANCE &&
    |a.height - b.height| ≤ COORDINATE_TOLERANCE

def leafCoordinates (axis : SplitAxis) (leaves : List (LeafRect R)) : List ℚ :=
  leaves.flatMap fun leaf => [leaf.rect.start axis, leaf.rect.start axis + leaf.rect.extent axis]

/-- Where there is something between two coordinates, and how long it is. -/
def gaps : List ℚ → List (ℚ × ℚ)
  | first :: second :: rest => (first, second - first) :: gaps (second :: rest)
  | _ => []

/-- What is between two coordinates along `axis`, and two along the other. -/
def cell (axis : SplitAxis) (outer inner : ℚ × ℚ) : Rect :=
  (Rect.slice ⟨0, 0, 0, 0⟩ axis outer.1 outer.2).slice (oppositeAxis axis) inner.1 inner.2

/-- The loop over the cells, with the indices of the leaves that are used. -/
def claimCells (leaves : List (LeafRect R)) : List Rect → List Nat → Option (List Nat)
  | [], used => some used
  | rect :: rest, used => match leaves.findIdx? fun leaf => rectsMatch leaf.rect rect with
    | none => none
    | some index => if index ∈ used then none else claimCells leaves rest (used ++ [index])

/-- The leaf of a cell, `size` long. -/
def leafOfCell (leaves : List (LeafRect R)) (rect : Rect) (size : ℚ) : Option (SerializedNode R) :=
  (leaves.find? fun leaf => rectsMatch leaf.rect rect).map fun leaf => .leaf leaf.data size

def orientationOf : SplitAxis → String
  | .x => "HORIZONTAL"
  | .y => "VERTICAL"

def DockviewLayoutLike.rebuilt (layout : DockviewLayoutLike R) (rootAxis : SplitAxis) (data : List (SerializedNode R)) (size : ℚ) :
    Option (DockviewLayoutLike R) :=
  layout.grid.map fun grid => ⟨some { grid with root := some (.branch data size), orientation := some (orientationOf rootAxis) }⟩

def rebuildRectangularLayout (layout : DockviewLayoutLike R) (leaves : List (LeafRect R)) (rootAxis : SplitAxis) (rootSize : ℚ) :
    Option (DockviewLayoutLike R) :=
  let xCoordinates := sortedCoordinates (leafCoordinates .x leaves)
  let yCoordinates := sortedCoordinates (leafCoordinates .y leaves)
  if xCoordinates.length < 2 || yCoordinates.length < 2 then none
  else match claimCells leaves ((gaps yCoordinates).flatMap fun row => (gaps xCoordinates).map fun col => cell .y row col) [] with
    | none => none
    | some used =>
      if used.length ≠ leaves.length then none
      else
        let outer := gaps (sortedCoordinates (leafCoordinates rootAxis leaves))
        let inner := gaps (sortedCoordinates (leafCoordinates (oppositeAxis rootAxis) leaves))
        (outer.mapM fun band => (inner.mapM fun part => leafOfCell leaves (cell rootAxis band part) part.2).map fun data => .branch data band.2).bind
          fun data => layout.rebuilt rootAxis data rootSize

/-! ### `rebuildSlicedLayoutForSingleResize` -/

/-- The first of those nearest to `target`, if it is within the tolerance. -/
def nearestBy {α : Type} (key : α → ℚ) (items : List α) (target tolerance : ℚ) : Option α :=
  items.foldl (fun best item =>
    if tolerance < |key item - target| then best
    else match best with
      | none => some item
      | some old => if |key item - target| < |key old - target| then some item else some old) none

def nearestCoordinate (values : List ℚ) (target tolerance : ℚ) : Option ℚ := nearestBy id values target tolerance

def nearestCoordinateIndex (values : List ℚ) (target tolerance : ℚ) : Option Nat :=
  (nearestBy Prod.fst values.zipIdx target tolerance).map Prod.snd

def snappedCoordinatesForAxis (values anchors : List ℚ) (tolerance : ℚ) : List ℚ :=
  sortedCoordinates (anchors ++ values.map fun value => (nearestCoordinate anchors value tolerance).getD value)

/-- The band in which a leaf is: it must start at a coordinate and end at the next. -/
def bandOf (rootCoordinates : List ℚ) (rootAxis : SplitAxis) (tolerance : ℚ) (leaf : LeafRect R) : Option Nat :=
  let start := leaf.rect.start rootAxis
  match nearestCoordinateIndex rootCoordinates start tolerance,
    nearestCoordinateIndex rootCoordinates (start + leaf.rect.extent rootAxis) tolerance with
  | some startIndex, some endIndex => if endIndex = startIndex + 1 then some startIndex else none
  | _, _ => none

/-- The loop of `coversNestedAxis`. -/
def coversFrom (axis : SplitAxis) (size cursor : ℚ) : List (LeafRect R) → Bool
  | [] => |cursor - size| ≤ COORDINATE_TOLERANCE
  | leaf :: rest =>
    |leaf.rect.start axis - cursor| ≤ COORDINATE_TOLERANCE && coversFrom axis size (leaf.rect.start axis + leaf.rect.extent axis) rest

def sortedLeaves (axis : SplitAxis) (leaves : List (LeafRect R)) : List (LeafRect R) :=
  leaves.insertionSort fun a b => a.rect.start axis ≤ b.rect.start axis

def coversNestedAxis (leaves : List (LeafRect R)) (axis : SplitAxis) (size : ℚ) : Bool :=
  coversFrom axis size 0 (sortedLeaves axis leaves)

def bandNode (nestedAxis : SplitAxis) (nestedSize bandSize : ℚ) (band : List (LeafRect R)) : Option (SerializedNode R) :=
  if band.isEmpty then none
  else if !coversNestedAxis band nestedAxis nestedSize then none
  else match sortedLeaves nestedAxis band with
    | [leaf] => some (.leaf leaf.data bandSize)
    | sorted => some (.branch (sorted.map fun leaf => .leaf leaf.data (leaf.rect.extent nestedAxis)) bandSize)

def rebuildSlicedLayoutForSingleResize (layout : DockviewLayoutLike R) (leaves : List (LeafRect R)) (rootAxis : SplitAxis)
    (selectedHandle : ConnectedResizeHandle) (rootSize nestedSize snapTolerance : ℚ) : Option (DockviewLayoutLike R) :=
  let tolerance := max COORDINATE_TOLERANCE snapTolerance
  let rootCoordinates := snappedCoordinatesForAxis (leafCoordinates rootAxis leaves)
    [0, selectedHandle.start, selectedHandle.end', rootSize] tolerance
  if rootCoordinates.length < 2 then none
  else if COORDINATE_TOLERANCE < |rootCoordinates.headD 0 - 0| then none
  else if COORDINATE_TOLERANCE < |rootCoordinates.getLastD 0 - rootSize| then none
  else if leaves.any fun leaf => (bandOf rootCoordinates rootAxis tolerance leaf).isNone then none
  else
    ((gaps rootCoordinates).zipIdx.mapM fun (item : (ℚ × ℚ) × Nat) => bandNode (oppositeAxis rootAxis) nestedSize item.1.2
      (leaves.filter fun leaf => bandOf rootCoordinates rootAxis tolerance leaf = some item.2)).bind
        fun data => layout.rebuilt rootAxis data rootSize

def normalizeLayoutForSingleResize (layout : DockviewLayoutLike R) (resizeAxis : SplitAxis) (selectedHandle : ConnectedResizeHandle)
    (snapTolerance : ℚ) : Option (DockviewLayoutLike R) :=
  match nonzero (layout.grid.bind Grid.width), nonzero (layout.grid.bind Grid.height), analyzeLayout layout with
  | some width, some height, some analysis =>
    if analysis.leaves.isEmpty then none
    else
      let targetRootAxis := oppositeAxis resizeAxis
      let area : Rect := ⟨0, 0, width, height⟩
      rebuildRectangularLayout layout analysis.leaves targetRootAxis (area.extent targetRootAxis) <|>
        rebuildSlicedLayoutForSingleResize layout analysis.leaves targetRootAxis selectedHandle (area.extent targetRootAxis)
          (area.extent resizeAxis) snapTolerance
  | _, _, _ => none

/-! ### `resizeSingleBoundaryAt` -/

def singleBounds (root : SerializedNode R) (minSize : ℚ) (bounds : Bounds) (boundary : Boundary R) : Bounds :=
  match branchSizes root boundary.path with
  | none => bounds
  | some sizes => match sizes[boundary.index]?, sizes[boundary.index + 1]? with
    | some before, some after => bounds.both (minSize - before) (after - minSize)
    | _, _ => bounds

def clampDelta (root : SerializedNode R) (boundaries : List (Boundary R)) (delta minSize : ℚ) : ℚ :=
  (boundaries.foldl (singleBounds root minSize) {}).clamp delta

def snapSingleDelta (root : SerializedNode R) (boundaries : List (Boundary R)) (selected : Boundary R) (delta minSize snapTolerance : ℚ) : ℚ :=
  if |delta| < 1 then delta
  else
    let tolerance := max 0 snapTolerance
    match nearestBoundary (selected.coordinate + delta) (snapTargets boundaries [selected] (some selected.axis) selected.coordinate
        selected.start selected.end' delta tolerance) with
    | none => delta
    | some snapTarget =>
      let snappedDelta := snapTarget.coordinate - selected.coordinate
      let clamped := clampDelta root [selected] snappedDelta minSize
      if COORDINATE_TOLERANCE < |clamped - snappedDelta| then delta else clamped

/-- What `resizeSingleBoundaryAt`, `singleResizeDeltaAt` and `createSingleResizeDragSession` begin with. -/
structure SingleTarget (R : Type) where
  handle : ConnectedResizeHandle
  workingLayout : DockviewLayoutLike R
  analysis : Analysis R
  selected : Boundary R
  root : SerializedNode R

def singleTarget (layout : DockviewLayoutLike R) (axis : SplitAxis) (coordinate point snapTolerance : ℚ) (includeCleanHandles : Bool) :
    Option (SingleTarget R) := do
  let handle ← singleResizeHandleAt layout axis coordinate point includeCleanHandles
  let workingLayout ← normalizeLayoutForSingleResize layout axis handle snapTolerance
  let analysis ← analyzeLayout workingLayout
  let selected ← selectSingleBoundary analysis.boundaries axis handle.coordinate point
  let root ← workingLayout.grid.bind Grid.root
  return ⟨handle, workingLayout, analysis, selected, root⟩

def SingleTarget.deltaFor (target : SingleTarget R) (delta minSize snapTolerance : ℚ) : ℚ :=
  snapSingleDelta target.root target.analysis.boundaries target.selected (clampDelta target.root [target.selected] delta minSize) minSize
    snapTolerance

/-- The child before the boundary and the child after it get what one gives the other. -/
def resizePair (index : Nat) (delta minSize : ℚ) (data : List (SerializedNode R)) : List (SerializedNode R) :=
  (data.modify index fun before => before.resize (max minSize (round (before.size + delta)))).modify (index + 1) fun after =>
    after.resize (max minSize (round (after.size - delta)))

def SingleTarget.resize (target : SingleTarget R) (delta minSize : ℚ) : Option (DockviewLayoutLike R) :=
  match nodeAtPath target.root target.selected.path with
  | some (.branch data _) => match data[target.selected.index]?, data[target.selected.index + 1]? with
    | some _, some _ => some (target.workingLayout.withRoot
        (modifyBranch (resizePair target.selected.index delta minSize) target.selected.path target.root))
    | _, _ => none
  | _ => none

def resizeSingleBoundaryAt (layout : DockviewLayoutLike R) (axis : SplitAxis) (coordinate point delta minSize snapTolerance : ℚ)
    (includeCleanHandles : Bool) : Option (DockviewLayoutLike R) := do
  let target ← singleTarget layout axis coordinate point snapTolerance includeCleanHandles
  let clampedDelta := target.deltaFor delta minSize snapTolerance
  if |clampedDelta| < 1 then none
  else target.resize clampedDelta minSize

end VibeLink.Layout
