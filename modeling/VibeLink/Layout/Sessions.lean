import VibeLink.Layout.Drags
import VibeLink.Layout.SingleResize

/-! Drags that show what they do before they are done: a session has all it needs to tell how far a drag goes, and what the branches
it moves look like meanwhile. -/

namespace VibeLink.Layout

variable {R : Type}

inductive Mode
  | connected | single
  deriving DecidableEq

structure ResizeLiveTarget where
  path : List Nat
  index : Nat
  baseSizes : List ℚ
  mode : Mode
  minSize : ℚ

/-- `deltaFor`: how far a drag goes; `layoutFor`: the layout it leaves. -/
structure ResizeDragSession (R : Type) where
  handle : ConnectedResizeHandle
  liveLayout : DockviewLayoutLike R
  liveTargets : List ResizeLiveTarget
  affectedPaneIds : List String
  deltaFor : ℚ → ℚ
  layoutFor : ℚ → Option (DockviewLayoutLike R)

def liveTarget (root : SerializedNode R) (mode : Mode) (minSize : ℚ) (boundary : Boundary R) : Option ResizeLiveTarget :=
  (branchSizes root boundary.path).map fun baseSizes => ⟨boundary.path, boundary.index, baseSizes, mode, minSize⟩

def affectedPanes (boundaries : List (Boundary R)) : List String :=
  (boundaries.flatMap fun boundary => (boundary.beforeLeaves ++ boundary.afterLeaves).flatMap LeafRect.paneIds).eraseDups

def resizeLiveTargetSizes (target : ResizeLiveTarget) (delta : ℚ) : List ℚ :=
  match target.mode with
  | .connected => connectedBranchSizes target.baseSizes target.index delta target.minSize
  | .single =>
    let sizes := target.baseSizes.modify target.index fun size => max target.minSize (round (size + delta))
    sizes.modify (target.index + 1) fun size => max target.minSize (round (size - delta))

def createConnectedResizeDragSession (layout : DockviewLayoutLike R) (axis : SplitAxis)
    (coordinate start end' minSize snapTolerance : ℚ) : Option (ResizeDragSession R) :=
  match analyzeLayout layout with
  | none => none
  | some analysis =>
    let selected := selectConnectedBoundaries analysis.boundaries axis coordinate start end'
    if selected.isEmpty then none
    else (layout.grid.bind Grid.root).map fun root =>
      { handle := ⟨axis, coordinate, start, end'⟩
        liveLayout := layout
        liveTargets := selected.filterMap (liveTarget root .connected minSize)
        affectedPaneIds := affectedPanes selected
        deltaFor := fun rawDelta => snapConnectedDelta root analysis.boundaries selected
          (clampConnectedDelta root selected rawDelta minSize) minSize snapTolerance
        layoutFor := fun delta =>
          if |delta| < 1 then none else some (layout.withRoot (selected.foldl (resizeBoundary delta minSize) root)) }

def createSingleResizeDragSession (layout : DockviewLayoutLike R) (axis : SplitAxis) (coordinate point minSize snapTolerance : ℚ)
    (includeCleanHandles : Bool) : Option (ResizeDragSession R) :=
  (singleTarget layout axis coordinate point snapTolerance includeCleanHandles).map fun target =>
    { handle := target.handle
      liveLayout := target.workingLayout
      liveTargets := [target.selected].filterMap (liveTarget target.root .single minSize)
      affectedPaneIds := affectedPanes [target.selected]
      deltaFor := fun rawDelta => target.deltaFor rawDelta minSize snapTolerance
      layoutFor := fun delta => if |delta| < 1 then none else target.resize delta minSize }

def ResizeDragSession.Previews (session : ResizeDragSession R) (raw : ℚ) : Prop :=
  ∀ next root, session.layoutFor (session.deltaFor raw) = some next → next.grid.bind Grid.root = some root →
    ∀ target ∈ session.liveTargets, branchSizes root target.path = some (resizeLiveTargetSizes target (session.deltaFor raw))

/-- The sessions leave what the functions that resize at once leave, and show it. -/
structure SessionsAgree (layout : DockviewLayoutLike R) (axis : SplitAxis) (coordinate start end' point raw minSize snapTolerance : ℚ)
    (includeCleanHandles : Bool) : Prop where
  connected : ((createConnectedResizeDragSession layout axis coordinate start end' minSize snapTolerance).bind fun session =>
    session.layoutFor (session.deltaFor raw)) = resizeConnectedBoundaryAt layout axis coordinate start end' raw minSize snapTolerance
  connectedPreview : ∀ session, createConnectedResizeDragSession layout axis coordinate start end' minSize snapTolerance = some session →
    session.Previews raw
  single : ((createSingleResizeDragSession layout axis coordinate point minSize snapTolerance includeCleanHandles).bind fun session =>
    session.layoutFor (session.deltaFor raw)) = resizeSingleBoundaryAt layout axis coordinate point raw minSize snapTolerance includeCleanHandles
  singlePreview : ∀ session, createSingleResizeDragSession layout axis coordinate point minSize snapTolerance includeCleanHandles =
    some session → session.Previews raw

section Sessions

variable {layout : DockviewLayoutLike R} {axis : SplitAxis} {coordinate start end' point raw minSize snapTolerance : ℚ}
  {includeCleanHandles : Bool} {session : ResizeDragSession R}

theorem connected_session : ((createConnectedResizeDragSession layout axis coordinate start end' minSize snapTolerance).bind
    fun session => session.layoutFor (session.deltaFor raw)) =
      resizeConnectedBoundaryAt layout axis coordinate start end' raw minSize snapTolerance := by
  unfold createConnectedResizeDragSession resizeConnectedBoundaryAt
  cases analyzeLayout layout with
  | none => rfl
  | some analysis =>
    dsimp only
    split
    · rfl
    · cases layout.grid.bind Grid.root with
      | none => rfl
      | some root => rfl

theorem single_session : ((createSingleResizeDragSession layout axis coordinate point minSize snapTolerance includeCleanHandles).bind
    fun session => session.layoutFor (session.deltaFor raw)) =
      resizeSingleBoundaryAt layout axis coordinate point raw minSize snapTolerance includeCleanHandles := by
  unfold createSingleResizeDragSession resizeSingleBoundaryAt
  cases singleTarget layout axis coordinate point snapTolerance includeCleanHandles with
  | none => rfl
  | some target => rfl

/-! ### One boundary -/

theorem map_size_resizePair (index : Nat) (delta minSize : ℚ) (data : List (SerializedNode R)) :
    (resizePair index delta minSize data).map Node.size =
      ((data.map Node.size).modify index fun size => max minSize (round (size + delta))).modify (index + 1) fun size =>
        max minSize (round (size - delta)) := by
  have one (data : List (SerializedNode R)) (index : Nat) (change : ℚ → ℚ) :
      (data.modify index fun node => node.resize (change node.size)).map Node.size = (data.map Node.size).modify index change := by
    apply List.ext_getElem?
    intro i
    rw [List.getElem?_map, List.getElem?_modify, List.getElem?_modify, List.getElem?_map]
    cases data[i]? with
    | none => rfl
    | some node =>
      simp only [Option.map_eq_map, Option.map_some]
      split
      · rw [Node.size_resize]
      · rfl
  unfold resizePair
  rw [one _ (index + 1) fun size => max minSize (round (size - delta)), one _ index fun size => max minSize (round (size + delta))]

theorem branchSizes_modifyBranch_self (change : List (SerializedNode R) → List (SerializedNode R)) (path : List Nat)
    {root : SerializedNode R} {data : List (SerializedNode R)} {size : ℚ} (found : nodeAtPath root path = some (.branch data size)) :
    branchSizes (modifyBranch change path root) path = some ((change data).map Node.size) := by
  induction path generalizing root with
  | nil =>
    cases root with
    | leaf leaf old => cases found
    | branch data old =>
      cases found
      rw [modifyBranch, branchSizes_nil]
  | cons index path ih =>
    cases root with
    | leaf leaf old => cases found
    | branch nodes old =>
      rw [nodeAtPath] at found
      rw [modifyBranch, branchSizes_cons, List.getElem?_modify]
      cases there : nodes[index]? with
      | none =>
        rw [there] at found
        cases found
      | some child =>
        rw [there] at found
        simp only [if_true, Option.map_eq_map, Option.map_some, Option.bind_some]
        exact ih found

theorem branchSizes_of_nodeAtPath {root : SerializedNode R} {path : List Nat} {data : List (SerializedNode R)} {size : ℚ}
    (found : nodeAtPath root path = some (.branch data size)) : branchSizes root path = some (data.map Node.size) := by
  unfold branchSizes
  rw [found]

theorem single_previews (created : createSingleResizeDragSession layout axis coordinate point minSize snapTolerance includeCleanHandles =
    some session) : session.Previews raw := by
  obtain ⟨target, _, rfl⟩ := Option.map_eq_some_iff.mp created
  intro next root committed some_root live member
  dsimp only at committed member ⊢
  obtain ⟨boundary, only, is⟩ := List.mem_filterMap.mp member
  cases List.mem_singleton.mp only
  unfold liveTarget at is
  obtain ⟨sizes, found, rfl⟩ := Option.map_eq_some_iff.mp is
  split at committed
  · cases committed
  · unfold SingleTarget.resize at committed
    split at committed
    · rename_i data size there
      cases found.symm.trans (branchSizes_of_nodeAtPath there)
      split at committed
      · cases committed
        unfold DockviewLayoutLike.withRoot at some_root
        obtain ⟨grid, is_grid, is_root⟩ := Option.bind_eq_some_iff.mp some_root
        obtain ⟨old, _, rfl⟩ := Option.map_eq_some_iff.mp is_grid
        cases is_root
        rw [branchSizes_modifyBranch_self _ _ there, map_size_resizePair]
        rfl
      · cases committed
    · cases committed

/-! ### Connected boundaries -/

theorem connected_created (created : createConnectedResizeDragSession layout axis coordinate start end' minSize snapTolerance =
    some session) : ∃ analysis root, analyzeLayout layout = some analysis ∧ layout.grid.bind Grid.root = some root ∧
      connectedResizeDeltaAt layout axis coordinate start end' raw minSize snapTolerance = some (session.deltaFor raw) ∧
      session.liveTargets = (selectConnectedBoundaries analysis.boundaries axis coordinate start end').filterMap
        (liveTarget root .connected minSize) ∧
      ∀ delta, session.layoutFor delta = if |delta| < 1 then none
        else some (layout.withRoot ((selectConnectedBoundaries analysis.boundaries axis coordinate start end').foldl
          (resizeBoundary delta minSize) root)) := by
  unfold createConnectedResizeDragSession at created
  split at created
  · cases created
  · rename_i analysis analyzed
    dsimp only at created
    split at created
    · cases created
    · rename_i some_selected
      obtain ⟨root, some_root, rfl⟩ := Option.map_eq_some_iff.mp created
      refine ⟨analysis, root, analyzed, some_root, ?_, rfl, fun _ => rfl⟩
      rw [connectedResizeDeltaAt, analyzed]
      dsimp only
      rw [if_neg some_selected, some_root]
      rfl

theorem connected_previews_iff (created : createConnectedResizeDragSession layout axis coordinate start end' minSize snapTolerance =
    some session) {analysis : Analysis R} (analyzed : analyzeLayout layout = some analysis) : session.Previews raw ↔
      (1 ≤ |session.deltaFor raw| →
        ((selectConnectedBoundaries analysis.boundaries axis coordinate start end').map Boundary.path).Nodup) := by
  obtain ⟨analysis₀, root, analyzed₀, some_root, by_moved, targets, layoutFor⟩ := @connected_created _ _ _ _ _ _ raw _ _ _ created
  cases analyzed.symm.trans analyzed₀
  have ⟨places, between⟩ := boundaries_of_analyzeLayout analyzed some_root
  have ⟨places, within⟩ := @nodup_places_selected R analysis.boundaries axis coordinate start end' places
  unfold ResizeDragSession.Previews
  rw [targets]
  generalize session.deltaFor raw = moved at by_moved
  have allowed := @allowed_connectedResizeDeltaAt R layout root axis coordinate start end' raw minSize snapTolerance analysis analyzed
    some_root moved by_moved
  generalize selectConnectedBoundaries analysis.boundaries axis coordinate start end' = selected at places within layoutFor allowed
  have between : Between root selected := fun boundary member => between boundary (within member)
  rw [layoutFor]
  constructor
  · intro previews large
    by_contra shared
    obtain ⟨first, member, other, other_member, same, less, smallest, indices⟩ := exists_first_of_shared places shared
    obtain ⟨sizes, found, short⟩ := between other other_member
    have live : liveTarget root .connected minSize other = some ⟨other.path, other.index, sizes, .connected, minSize⟩ := by
      unfold liveTarget
      rw [found]
      rfl
    have shown := previews _ _ (if_neg (not_lt.mpr large)) (root_withRoot some_root _) _
      (List.mem_filterMap.mpr ⟨other, other_member, live⟩)
    rw [same] at shown found
    refine drag_changes between (allowed large) large member smallest indices found shown ?_
    have read := @getElem?_connectedBranchSizes minSize moved sizes first.index other.index less.le short
    rw [if_neg less.ne] at read
    refine (congrArg (Option.map round) read).trans ?_
    cases sizes[first.index]? with
    | none => rfl
    | some size => exact congrArg some (round_whole (whole_round size))
  · intro apart next root' committed some_root' target member
    split at committed
    · cases committed
    · rename_i large
      cases committed
      cases (root_withRoot some_root _).symm.trans some_root'
      obtain ⟨boundary, inside, is⟩ := List.mem_filterMap.mp member
      obtain ⟨sizes, found, rfl⟩ := Option.map_eq_some_iff.mp is
      rw [branchSizes_foldl_resizeBoundary, found, filter_path_of_nodup (apart (not_lt.mp large)) inside]
      rfl

/-- The sessions leave what the functions that resize at once leave, and show it, exactly when a drag of connected boundaries that
moves anything moves one boundary of a branch at most. -/
theorem sessionsAgree_iff :
    SessionsAgree layout axis coordinate start end' point raw minSize snapTolerance includeCleanHandles ↔
      ∀ analysis moved, analyzeLayout layout = some analysis →
        connectedResizeDeltaAt layout axis coordinate start end' raw minSize snapTolerance = some moved → 1 ≤ |moved| →
        ((selectConnectedBoundaries analysis.boundaries axis coordinate start end').map Boundary.path).Nodup := by
  constructor
  · intro agree analysis moved analyzed by_moved large
    cases created : createConnectedResizeDragSession layout axis coordinate start end' minSize snapTolerance with
    | none =>
      have none := @connected_session R layout axis coordinate start end' raw minSize snapTolerance
      rw [created] at none
      cases some_root : layout.grid.bind Grid.root with
      | none =>
        unfold connectedResizeDeltaAt at by_moved
        rw [analyzed, some_root] at by_moved
        dsimp only at by_moved
        split at by_moved
        · cases by_moved
        · cases by_moved
      | some root => cases none.trans ((resizeConnectedBoundaryAt_eq_some analyzed some_root).mpr ⟨moved, by_moved, large, rfl⟩)
    | some session =>
      obtain ⟨_, _, _, _, is, _⟩ := @connected_created _ _ _ _ _ _ raw _ _ _ created
      cases is.symm.trans by_moved
      exact (connected_previews_iff created analyzed).mp (agree.connectedPreview session created) large
  · intro apart
    refine ⟨connected_session, ?_, single_session, fun session created => single_previews created⟩
    intro session created
    obtain ⟨analysis, _, analyzed, _, is, _⟩ := @connected_created _ _ _ _ _ _ raw _ _ _ created
    exact (connected_previews_iff created analyzed).mpr (apart analysis _ analyzed is)

/-- The boundaries before and after a narrow column move together: what is shown of the first is not what both leave. -/
theorem narrow_disagree : ¬SessionsAgree (columnsOf [200, 3, 200]) .x 201 0 400 0 50 1 0 false := by
  intro agree
  have after : (createConnectedResizeDragSession (columnsOf [200, 3, 200]) .x 201 0 400 1 0).bind (fun session =>
      (session.layoutFor (session.deltaFor 50)).bind fun next => (next.grid.bind Grid.root).bind fun root =>
        branchSizes root []) = some [250, 51, 102] := by decide +kernel
  have shown : (createConnectedResizeDragSession (columnsOf [200, 3, 200]) .x 201 0 400 1 0).bind (fun session =>
      session.liveTargets.head?.map fun target => (target.path, resizeLiveTargetSizes target (session.deltaFor 50))) =
        some ([], [250, 1, 152]) := by decide +kernel
  obtain ⟨session, created, rest⟩ := Option.bind_eq_some_iff.mp after
  obtain ⟨next, committed, rest⟩ := Option.bind_eq_some_iff.mp rest
  obtain ⟨root, some_root, left⟩ := Option.bind_eq_some_iff.mp rest
  rw [created, Option.bind_some] at shown
  obtain ⟨target, first, is⟩ := Option.map_eq_some_iff.mp shown
  injection is with path sizes
  have same := agree.connectedPreview session created next root committed some_root target (List.mem_of_head? first)
  rw [path, sizes, left] at same
  exact absurd same (by decide +kernel)

end Sessions

end VibeLink.Layout
