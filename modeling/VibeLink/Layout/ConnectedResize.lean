import VibeLink.Layout.Grid
import Mathlib.Data.List.Sort
import Mathlib.Data.Rat.Floor

/-! Moving the boundaries between the panes of a grid (`src/layout/connectedResize.ts`): which there are, which move together, and
how far. -/

namespace VibeLink.Layout

/-- `Math.round` -/
def round (x : ℚ) : ℚ := ⌊x + 1 / 2⌋

/-- The data of a leaf; `R`: its other fields. -/
structure LeafData (R : Type) where
  views : Option (List String)
  rest : R
  deriving DecidableEq

variable {R : Type}

abbrev SerializedNode (R : Type) : Type := Node (LeafData R)

/-- `layout.grid`; `maximized`: whether there is a `maximizedNode` -/
structure Grid (R : Type) where
  root : Option (SerializedNode R)
  width : Option ℚ
  height : Option ℚ
  orientation : Option String
  maximized : Bool

structure DockviewLayoutLike (R : Type) where
  grid : Option (Grid R)

structure LeafRect (R : Type) where
  paneIds : List String
  rect : Rect
  data : LeafData R
  size : ℚ

structure Boundary (R : Type) where
  axis : SplitAxis
  coordinate : ℚ
  (start end' : ℚ)
  path : List Nat
  index : Nat
  beforeLeaves : List (LeafRect R)
  afterLeaves : List (LeafRect R)

def Boundary.place (boundary : Boundary R) : List Nat × Nat := (boundary.path, boundary.index)

def COORDINATE_TOLERANCE : ℚ := 2
def CONNECTED_GAP_TOLERANCE : ℚ := 3
def SINGLE_POINT_TOLERANCE : ℚ := 12

/-! ### `analyzeLayout` -/

structure Analysis (R : Type) where
  leaves : List (LeafRect R)
  boundaries : List (Boundary R)

/-- The boundaries between children, from some index on, given the rectangle and the leaves of each. -/
def boundariesBetween (axis : SplitAxis) (rect : Rect) (path : List Nat) :
    Nat → List (Rect × List (LeafRect R)) → List (Boundary R)
  | _, [] => []
  | _, [_] => []
  | index, before :: after :: rest =>
    { axis
      coordinate := before.1.start axis + before.1.extent axis
      start := rect.start (oppositeAxis axis), end' := rect.start (oppositeAxis axis) + rect.extent (oppositeAxis axis)
      path, index
      beforeLeaves := before.2
      afterLeaves := after.2 } :: boundariesBetween axis rect path (index + 1) (after :: rest)

mutual

def collectLayout (rect : Rect) (axis : SplitAxis) (path : List Nat) : SerializedNode R → Analysis R
  | .leaf data size => ⟨[⟨data.views.getD [], rect, data, size⟩], []⟩
  | .branch data _ =>
    let children := collectChildren rect axis path 0 (rect.start axis) data
    ⟨children.flatMap fun child => child.2.leaves, (children.flatMap fun child => child.2.boundaries) ++
      boundariesBetween axis rect path 0 (children.map fun child => (child.1, child.2.leaves))⟩

/-- The children from some index on, of which the first is at `offset`: the rectangle of each, and what is in it. -/
def collectChildren (rect : Rect) (axis : SplitAxis) (path : List Nat) (index : Nat) (offset : ℚ) :
    List (SerializedNode R) → List (Rect × Analysis R)
  | [] => []
  | child :: rest =>
    let size := max 0 child.size
    let childRect := rect.slice axis offset size
    (childRect, collectLayout childRect (oppositeAxis axis) (path ++ [index]) child) ::
      collectChildren rect axis path (index + 1) (offset + size) rest

end

theorem mem_collectChildren {rect : Rect} {axis : SplitAxis} {path : List Nat} {index : Nat} {offset : ℚ}
    {data : List (SerializedNode R)} {child : Rect × Analysis R} (member : child ∈ collectChildren rect axis path index offset data) :
    ∃ k node, data[k]? = some node ∧ child.2 = collectLayout child.1 (oppositeAxis axis) (path ++ [index + k]) node := by
  induction data generalizing index offset with
  | nil => cases member
  | cons first rest ih =>
    rw [collectChildren] at member
    cases member with
    | head => exact ⟨0, first, rfl, rfl⟩
    | tail _ later =>
      obtain ⟨k, node, at_k, same⟩ := ih later
      exact ⟨k + 1, node, at_k, by rw [same, Nat.add_right_comm, Nat.add_assoc]⟩

theorem length_collectChildren (rect : Rect) (axis : SplitAxis) (path : List Nat) (index : Nat) (offset : ℚ)
    (data : List (SerializedNode R)) : (collectChildren rect axis path index offset data).length = data.length := by
  induction data generalizing index offset with
  | nil => rfl
  | cons first rest ih => rw [collectChildren, List.length_cons, List.length_cons, ih]

def axisFromOrientation (orientation : Option String) : SplitAxis := if orientation = some "VERTICAL" then .y else .x

def nonzero (number : Option ℚ) : Option ℚ := number.filter fun number => number ≠ 0

def analyzeLayout (layout : DockviewLayoutLike R) : Option (Analysis R) :=
  match layout.grid with
  | none => none
  | some grid => match grid.root, nonzero grid.width, nonzero grid.height with
    | some root, some width, some height =>
      if grid.maximized then none
      else some (collectLayout ⟨0, 0, width, height⟩ (axisFromOrientation grid.orientation) [] root)
    | _, _, _ => none

theorem of_analyzeLayout {layout : DockviewLayoutLike R} {analysis : Analysis R} (analyzed : analyzeLayout layout = some analysis) :
    ∃ grid root width height, layout.grid = some grid ∧ grid.root = some root ∧ nonzero grid.width = some width ∧
      nonzero grid.height = some height ∧ grid.maximized = false ∧
      analysis = collectLayout ⟨0, 0, width, height⟩ (axisFromOrientation grid.orientation) [] root := by
  unfold analyzeLayout at analyzed
  split at analyzed
  · cases analyzed
  · rename_i grid is_grid
    split at analyzed
    · rename_i root width height is_root is_width is_height
      split at analyzed
      · cases analyzed
      · rename_i plain
        cases analyzed
        exact ⟨grid, root, width, height, is_grid, is_root, is_width, is_height, Bool.eq_false_iff.mpr plain, rfl⟩
    · cases analyzed

/-! ### Boundaries that move together -/

def intervalsTouch (aStart aEnd bStart bEnd : ℚ) : Bool :=
  aStart ≤ bEnd + CONNECTED_GAP_TOLERANCE && bStart ≤ aEnd + CONNECTED_GAP_TOLERANCE

def intervalsMeetAtEndpoint (aStart aEnd bStart bEnd : ℚ) : Bool :=
  |aEnd - bStart| ≤ CONNECTED_GAP_TOLERANCE || |bEnd - aStart| ≤ CONNECTED_GAP_TOLERANCE

def Boundary.touches (boundary other : Boundary R) : Bool :=
  intervalsTouch boundary.start boundary.end' other.start other.end'

/-- `boundaries.has(boundary)` -/
def has (boundaries : List (Boundary R)) (boundary : Boundary R) : Bool := boundaries.any fun other => other.place = boundary.place

/-- The loop of `selectConnectedBoundaries`, for so many boundaries of the queue at most. -/
def spread (candidates : List (Boundary R)) : Nat → List (Boundary R) → List (Boundary R) → List (Boundary R)
  | 0, _, selected => selected
  | _ + 1, [], selected => selected
  | fuel + 1, current :: queue, selected =>
    let fresh := candidates.filter fun candidate => !has selected candidate && current.touches candidate
    spread candidates fuel (queue ++ fresh) (selected ++ fresh)

def selectConnectedBoundaries (boundaries : List (Boundary R)) (axis : SplitAxis) (coordinate start end' : ℚ) : List (Boundary R) :=
  let candidates := boundaries.filter fun boundary =>
    boundary.axis = axis && |boundary.coordinate - coordinate| ≤ COORDINATE_TOLERANCE
  let queue := candidates.filter fun boundary => intervalsTouch boundary.start boundary.end' start end'
  spread candidates candidates.length queue queue

/-! ### How far they move -/

def nodeAtPath : SerializedNode R → List Nat → Option (SerializedNode R)
  | node, [] => some node
  | .leaf _ _, _ :: _ => none
  | .branch data _, index :: path => match data[index]? with
    | none => none
    | some next => nodeAtPath next path

def branchSizes (root : SerializedNode R) (path : List Nat) : Option (List ℚ) :=
  match nodeAtPath root path with
  | some (.branch data _) => some (data.map Node.size)
  | _ => none

/-- `none`: no bound -/
structure Bounds where
  lower : Option ℚ := none
  upper : Option ℚ := none

def Bounds.both (bounds : Bounds) (lower upper : ℚ) : Bounds where
  lower := some (bounds.lower.elim lower fun old => max old lower)
  upper := some (bounds.upper.elim upper fun old => min old upper)

def Bounds.crossed (bounds : Bounds) : Bool :=
  match bounds.lower, bounds.upper with
  | some lower, some upper => upper < lower
  | _, _ => false

/-- `Math.max(lower, Math.min(upper, delta))` -/
def Bounds.within (bounds : Bounds) (delta : ℚ) : ℚ :=
  let capped := bounds.upper.elim delta fun upper => min upper delta
  bounds.lower.elim capped fun lower => max lower capped

/-- The end of `clampConnectedDelta` and of `clampDelta`. -/
def Bounds.clamp (bounds : Bounds) (delta : ℚ) : ℚ :=
  if bounds.crossed then 0
  else
    let clamped := bounds.within delta
    if delta < 0 ∧ 0 < clamped then 0
    else if 0 < delta ∧ clamped < 0 then 0
    else clamped

def trailingCapacity (sizes : List ℚ) (index : Nat) (minSize : ℚ) : ℚ :=
  ((sizes.drop (index + 1)).map fun size => max 0 (size - minSize)).sum

def connectedBounds (root : SerializedNode R) (minSize : ℚ) (bounds : Bounds) (boundary : Boundary R) : Bounds :=
  match branchSizes root boundary.path with
  | none => bounds
  | some sizes => match sizes[boundary.index]? with
    | none => bounds
    | some before => bounds.both (minSize - before) (trailingCapacity sizes boundary.index minSize)

def clampConnectedDelta (root : SerializedNode R) (boundaries : List (Boundary R)) (delta minSize : ℚ) : ℚ :=
  (boundaries.foldl (connectedBounds root minSize) {}).clamp delta

def average (values : List ℚ) : ℚ := values.sum / max 1 values.length

def sameDirection (delta targetDelta : ℚ) : Bool := (delta < 0 && targetDelta < 0) || (0 < delta && 0 < targetDelta)

/-- `Math.min(...values)`, of some values -/
def minimum (values : List ℚ) : ℚ := values.tail.foldl min (values.headD 0)

/-- `Math.max(...values)`, of some values -/
def maximum (values : List ℚ) : ℚ := values.tail.foldl max (values.headD 0)

/-- `.sort(…)[0]` by the distance of the coordinate from `target` -/
def nearestBoundary (target : ℚ) (boundaries : List (Boundary R)) : Option (Boundary R) :=
  (boundaries.insertionSort fun a b => |a.coordinate - target| ≤ |b.coordinate - target|).head?

/-- Boundaries to which `selected`, from `start` to `end'` at `coordinate`, can snap. -/
def snapTargets (boundaries selected : List (Boundary R)) (axis : Option SplitAxis) (coordinate start end' delta tolerance : ℚ) :
    List (Boundary R) :=
  boundaries.filter fun boundary =>
    !has selected boundary && some boundary.axis = axis && COORDINATE_TOLERANCE < |boundary.coordinate - coordinate| &&
      |boundary.coordinate - (coordinate + delta)| ≤ tolerance && sameDirection delta (boundary.coordinate - coordinate) &&
      intervalsMeetAtEndpoint boundary.start boundary.end' start end'

def snapConnectedDelta (root : SerializedNode R) (boundaries selected : List (Boundary R)) (delta minSize snapTolerance : ℚ) : ℚ :=
  if |delta| < 1 then delta
  else
    let tolerance := max 0 snapTolerance
    if tolerance ≤ 0 then delta
    else
      let selectedCoordinate := average (selected.map Boundary.coordinate)
      let selectedStart := minimum (selected.map Boundary.start)
      let selectedEnd := maximum (selected.map Boundary.end')
      match nearestBoundary (selectedCoordinate + delta) (snapTargets boundaries selected (selected.head?.map Boundary.axis)
          selectedCoordinate selectedStart selectedEnd delta tolerance) with
      | none => delta
      | some snapTarget =>
        let snappedDelta := snapTarget.coordinate - selectedCoordinate
        let clamped := clampConnectedDelta root selected snappedDelta minSize
        if COORDINATE_TOLERANCE < |clamped - snappedDelta| then delta else clamped

def connectedResizeDeltaAt (layout : DockviewLayoutLike R) (axis : SplitAxis) (coordinate start end' delta minSize snapTolerance : ℚ) :
    Option ℚ :=
  match analyzeLayout layout with
  | none => none
  | some analysis =>
    let selected := selectConnectedBoundaries analysis.boundaries axis coordinate start end'
    if selected.isEmpty then none
    else (layout.grid.bind Grid.root).map fun root =>
      snapConnectedDelta root analysis.boundaries selected (clampConnectedDelta root selected delta minSize) minSize snapTolerance

/-! ### `resizeConnectedBoundaryAt` -/

/-- What is left of the loop that parts the delta: the children that still take a share, and the sizes of the others. -/
def shareOut (minSize : ℚ) (trailing : List ℚ) : Nat → ℚ → List Nat → List ℚ → List ℚ
  | 0, _, _, sizes => sizes
  | fuel + 1, remainingDelta, active, sizes =>
    if active.isEmpty then sizes
    else
      let share := remainingDelta / active.length
      let limited := active.filter fun index => 0 < share && trailing.getD index 0 - share < minSize
      if limited.isEmpty then active.foldl (fun sizes index => sizes.set index (trailing.getD index 0 - share)) sizes
      else
        shareOut minSize trailing fuel (remainingDelta - (limited.map fun index => trailing.getD index 0 - minSize).sum)
          (active.filter fun index => index ∉ limited) (limited.foldl (fun sizes index => sizes.set index minSize) sizes)

/-- The loop that makes up for the rounding, over the children from the last. -/
def settle (minSize : ℚ) : ℚ → List ℚ → List ℚ
  | _, [] => []
  | difference, size :: rest =>
    if difference = 0 then size :: rest
    else
      let adjustment := if 0 < difference then difference else max difference (minSize - size)
      (size + adjustment) :: settle minSize (difference - adjustment) rest

def connectedBranchSizes (baseSizes : List ℚ) (index : Nat) (delta minSize : ℚ) : List ℚ :=
  let before := max minSize (round (baseSizes.getD index 0 + delta))
  let trailing := baseSizes.drop (index + 1)
  if trailing.isEmpty then baseSizes.set index before
  else
    let shared := shareOut minSize trailing (trailing.length + 1) delta (List.range trailing.length) trailing
    let leading := ((baseSizes.take (index + 1)).set index before).map round
    let rounded := shared.map round
    let difference := round baseSizes.sum - (leading ++ rounded).sum
    leading ++ (settle minSize difference rounded.reverse).reverse

def applySizes (nodes : List (SerializedNode R)) (sizes : List ℚ) : List (SerializedNode R) :=
  nodes.zipWith (fun node size => node.resize size) sizes

def modifyBranch (change : List (SerializedNode R) → List (SerializedNode R)) : List Nat → SerializedNode R → SerializedNode R
  | _, .leaf data size => .leaf data size
  | [], .branch data size => .branch (change data) size
  | index :: path, .branch data size => .branch (data.modify index (modifyBranch change path)) size

def resizeBoundary (delta minSize : ℚ) (root : SerializedNode R) (boundary : Boundary R) : SerializedNode R :=
  modifyBranch (fun data => applySizes data (connectedBranchSizes (data.map Node.size) boundary.index delta minSize)) boundary.path root

def DockviewLayoutLike.withRoot (layout : DockviewLayoutLike R) (root : SerializedNode R) : DockviewLayoutLike R :=
  ⟨layout.grid.map fun grid => { grid with root := some root }⟩

def resizeConnectedBoundaryAt (layout : DockviewLayoutLike R) (axis : SplitAxis) (coordinate start end' delta minSize snapTolerance : ℚ) :
    Option (DockviewLayoutLike R) :=
  match analyzeLayout layout with
  | none => none
  | some analysis =>
    let selected := selectConnectedBoundaries analysis.boundaries axis coordinate start end'
    if selected.isEmpty then none
    else match layout.grid.bind Grid.root with
      | none => none
      | some root =>
        let clampedDelta := clampConnectedDelta root selected delta minSize
        let snappedDelta := snapConnectedDelta root analysis.boundaries selected clampedDelta minSize snapTolerance
        if |snappedDelta| < 1 then none
        else some (layout.withRoot (selected.foldl (resizeBoundary snappedDelta minSize) root))

end VibeLink.Layout
