import VibeLink.Layout.BranchSizes
import Mathlib.Data.List.Nodup

/-! What a drag of connected boundaries makes of a whole layout. -/

namespace VibeLink.Layout

variable {R : Type}

/-! ### The sizes of other branches -/

section Modify

variable {node root : SerializedNode R} {data : List (SerializedNode R)} {size : ℚ}

@[simp] theorem branchSizes_leaf (leaf : LeafData R) (size : ℚ) (path : List Nat) : branchSizes (.leaf leaf size) path = none := by
  cases path with
  | nil => rfl
  | cons index path => rfl

@[simp] theorem branchSizes_nil (data : List (SerializedNode R)) (size : ℚ) :
    branchSizes (.branch data size) [] = some (data.map Node.size) := rfl

theorem branchSizes_cons (data : List (SerializedNode R)) (size : ℚ) (index : Nat) (path : List Nat) :
    branchSizes (.branch data size) (index :: path) = data[index]?.bind fun child => branchSizes child path := by
  unfold branchSizes
  rw [nodeAtPath]
  cases data[index]? with
  | none => rfl
  | some child => rfl

@[simp] theorem branchSizes_resize (size : ℚ) (node : SerializedNode R) (path : List Nat) :
    branchSizes (node.resize size) path = branchSizes node path := by
  cases node with
  | leaf leaf old => rw [Node.resize, branchSizes_leaf, branchSizes_leaf]
  | branch data old =>
    cases path with
    | nil => rfl
    | cons index path => rw [Node.resize, branchSizes_cons, branchSizes_cons]

theorem size_modifyBranch (change : List (SerializedNode R) → List (SerializedNode R)) (path : List Nat) (node : SerializedNode R) :
    (modifyBranch change path node).size = node.size := by
  cases node with
  | leaf leaf size => simp [modifyBranch]
  | branch data size =>
    cases path with
    | nil => rfl
    | cons index path => rfl

theorem map_size_applySizes {sizes : List ℚ} (length : sizes.length = data.length) : (applySizes data sizes).map Node.size = sizes := by
  unfold applySizes
  rw [List.map_zipWith]
  simp only [Node.size_resize]
  induction data generalizing sizes with
  | nil => rw [List.length_eq_zero_iff.mp length, List.zipWith_nil_left]
  | cons child rest ih =>
    cases sizes with
    | nil => cases length
    | cons first sizes => rw [List.zipWith_cons_cons, ih (Nat.succ.inj length)]

theorem bind_applySizes {sizes : List ℚ} (length : sizes.length = data.length) (index : Nat) (path : List Nat) :
    ((applySizes data sizes)[index]?.bind fun child => branchSizes child path) = data[index]?.bind fun child => branchSizes child path := by
  unfold applySizes
  rw [List.getElem?_zipWith]
  cases there : data[index]? with
  | none => rfl
  | some child =>
    have short : index < sizes.length := length ▸ (List.getElem?_eq_some_iff.mp there).1
    rw [List.getElem?_eq_getElem short]
    exact branchSizes_resize _ child path

theorem branchSizes_modifyBranch {change : List ℚ → List ℚ} (lengths : ∀ sizes, (change sizes).length = sizes.length) (at' path : List Nat)
    (root : SerializedNode R) :
    branchSizes (modifyBranch (fun data => applySizes data (change (data.map Node.size))) at' root) path =
      if path = at' then (branchSizes root path).map change else branchSizes root path := by
  induction at' generalizing root path with
  | nil =>
    cases root with
    | leaf leaf size => simp [modifyBranch]
    | branch data size =>
      have length : (change (data.map Node.size)).length = data.length := by rw [lengths, List.length_map]
      rw [modifyBranch]
      cases path with
      | nil =>
        rw [branchSizes_nil, map_size_applySizes length, if_pos rfl]
        rfl
      | cons index path => rw [branchSizes_cons, bind_applySizes length, if_neg (List.cons_ne_nil _ _), branchSizes_cons]
  | cons first at' ih =>
    cases root with
    | leaf leaf size => simp [modifyBranch]
    | branch data size =>
      rw [modifyBranch]
      cases path with
      | nil =>
        rw [if_neg (List.cons_ne_nil _ _).symm, branchSizes_nil, branchSizes_nil]
        congr 1
        apply List.ext_getElem?
        intro i
        rw [List.getElem?_map, List.getElem?_map, List.getElem?_modify]
        cases data[i]? with
        | none => rfl
        | some child =>
          simp only [Option.map_eq_map, Option.map_some]
          split
          · rw [size_modifyBranch]
          · rfl
      | cons index path =>
        rw [branchSizes_cons, branchSizes_cons, List.getElem?_modify]
        cases data[index]? with
        | none => simp
        | some child =>
          simp only [Option.map_eq_map, Option.map_some, Option.bind_some]
          by_cases same : first = index
          · rw [if_pos same, ih, same]
            simp only [List.cons.injEq, true_and]
          · rw [if_neg same, if_neg fun both => same (List.cons.inj both).1.symm]

theorem branchSizes_resizeBoundary (delta minSize : ℚ) (root : SerializedNode R) (boundary : Boundary R) (path : List Nat) :
    branchSizes (resizeBoundary delta minSize root boundary) path =
      if path = boundary.path then (branchSizes root path).map fun sizes => connectedBranchSizes sizes boundary.index delta minSize
      else branchSizes root path :=
  @branchSizes_modifyBranch R (fun sizes => connectedBranchSizes sizes boundary.index delta minSize)
    (fun sizes => length_connectedBranchSizes sizes boundary.index delta minSize) boundary.path path root

/-- What boundaries make of the branch at a path, one after another. -/
def resizeAll (delta minSize : ℚ) (boundaries : List (Boundary R)) (sizes : List ℚ) : List ℚ :=
  boundaries.foldl (fun sizes boundary => connectedBranchSizes sizes boundary.index delta minSize) sizes

theorem branchSizes_foldl_resizeBoundary (delta minSize : ℚ) (boundaries : List (Boundary R)) (root : SerializedNode R) (path : List Nat) :
    branchSizes (boundaries.foldl (resizeBoundary delta minSize) root) path =
      (branchSizes root path).map (resizeAll delta minSize (boundaries.filter fun boundary => boundary.path = path)) := by
  induction boundaries generalizing root with
  | nil =>
    show _ = (branchSizes root path).map fun sizes => sizes
    rw [Option.map_id']
    rfl
  | cons boundary rest ih =>
    rw [List.foldl_cons, ih, branchSizes_resizeBoundary]
    by_cases here : path = boundary.path
    · have kept : decide (boundary.path = path) = true := decide_eq_true here.symm
      rw [if_pos here, List.filter_cons, if_pos kept, Option.map_map]
      rfl
    · have dropped : ¬decide (boundary.path = path) = true := by simpa using Ne.symm here
      rw [if_neg here, List.filter_cons, if_neg dropped]

end Modify

/-! ### The boundaries there are -/

section Boundaries

variable {rect : Rect} {axis : SplitAxis} {path : List Nat}

theorem places_boundariesBetween (axis : SplitAxis) (rect : Rect) (path : List Nat) (index : Nat) (children : List (Rect × List (LeafRect R))) :
    (boundariesBetween axis rect path index children).map Boundary.place =
      (List.range' index (children.length - 1)).map fun i => (path, i) := by
  induction children generalizing index with
  | nil => rfl
  | cons before children ih =>
    cases children with
    | nil => rfl
    | cons after rest =>
      rw [boundariesBetween, List.map_cons, ih]
      rfl

theorem of_mem_boundaries {node : SerializedNode R} {boundary : Boundary R}
    (member : boundary ∈ (collectLayout rect axis path node).boundaries) :
    ∃ below, boundary.path = path ++ below ∧ ∃ sizes, branchSizes node below = some sizes ∧ boundary.index + 1 < sizes.length := by
  induction node using Node.ind generalizing rect axis path with
  | leaf data size => cases member
  | branch data size ih =>
    rw [collectLayout] at member
    cases List.mem_append.mp member with
    | inl inner =>
      obtain ⟨child, there, inside⟩ := List.mem_flatMap.mp inner
      obtain ⟨k, node, at_k, same⟩ := mem_collectChildren there
      rw [same] at inside
      obtain ⟨below, is, sizes, found, short⟩ := ih node (List.mem_of_getElem? at_k) inside
      refine ⟨k :: below, ?_, sizes, ?_, short⟩
      · rw [is, Nat.zero_add, List.append_assoc]
        rfl
      · rw [branchSizes_cons, at_k]
        exact found
    | inr own =>
      have place : boundary.place ∈ (boundariesBetween axis rect path 0 ((collectChildren rect axis path 0 (rect.start axis) data).map
          fun child => (child.1, child.2.leaves))).map Boundary.place := List.mem_map_of_mem own
      rw [places_boundariesBetween, List.length_map, length_collectChildren] at place
      obtain ⟨i, inside, same⟩ := List.mem_map.mp place
      injection same with same_path same_index
      have short := (List.mem_range'_1.mp inside).2
      refine ⟨[], by rw [← same_path, List.append_nil], data.map Node.size, branchSizes_nil data size, ?_⟩
      rw [← same_index, List.length_map]
      omega

theorem nodup_places_children {index : Nat} {offset : ℚ} {data : List (SerializedNode R)}
    (each : ∀ node ∈ data, ∀ rect axis path, ((collectLayout rect axis path node).boundaries.map Boundary.place).Nodup) :
    (((collectChildren rect axis path index offset data).flatMap fun child => child.2.boundaries).map Boundary.place).Nodup := by
  induction data generalizing index offset with
  | nil => exact List.nodup_nil
  | cons first rest ih =>
    rw [collectChildren, List.flatMap_cons, List.map_append]
    refine List.nodup_append.mpr ⟨each first List.mem_cons_self _ _ _, ih fun node member => each node (List.mem_cons_of_mem first member), ?_⟩
    intro place inside place' later same
    obtain ⟨boundary, here, is⟩ := List.mem_map.mp inside
    obtain ⟨boundary', there, is'⟩ := List.mem_map.mp later
    obtain ⟨child, among, within⟩ := List.mem_flatMap.mp there
    obtain ⟨k, node, _, analysed⟩ := mem_collectChildren among
    rw [analysed] at within
    obtain ⟨below, one, _⟩ := of_mem_boundaries here
    obtain ⟨below', two, _⟩ := of_mem_boundaries within
    have paths : boundary.path = boundary'.path := congrArg Prod.fst (is.trans (same.trans is'.symm))
    rw [one, two, List.append_assoc, List.append_assoc] at paths
    injection List.append_cancel_left paths with head _
    omega

theorem nodup_places (node : SerializedNode R) (rect : Rect) (axis : SplitAxis) (path : List Nat) :
    ((collectLayout rect axis path node).boundaries.map Boundary.place).Nodup := by
  induction node using Node.ind generalizing rect axis path with
  | leaf data size => exact List.nodup_nil
  | branch data size ih =>
    rw [collectLayout, List.map_append]
    refine List.nodup_append.mpr ⟨nodup_places_children fun node member rect axis path => ih node member rect axis path, ?_, ?_⟩
    · rw [places_boundariesBetween]
      exact List.Nodup.map (fun i j same => (Prod.mk.inj same).2) List.nodup_range'
    · intro place inside place' own same
      obtain ⟨boundary, here, is⟩ := List.mem_map.mp inside
      obtain ⟨child, among, within⟩ := List.mem_flatMap.mp here
      obtain ⟨k, node, _, analysed⟩ := mem_collectChildren among
      rw [analysed] at within
      obtain ⟨below, one, _⟩ := of_mem_boundaries within
      rw [places_boundariesBetween] at own
      obtain ⟨i, _, is'⟩ := List.mem_map.mp own
      have paths : boundary.path = path := congrArg Prod.fst (is.trans (same.trans is'.symm))
      have longer := congrArg List.length (one.symm.trans paths)
      rw [List.length_append, List.length_append, List.length_singleton] at longer
      omega

end Boundaries

/-! ### The boundaries that are selected -/

section Selected

variable {candidates queue selected boundaries : List (Boundary R)}

theorem has_iff {boundary : Boundary R} : has selected boundary ↔ boundary.place ∈ selected.map Boundary.place := by
  unfold has
  rw [List.any_eq_true, List.mem_map]
  simp only [decide_eq_true_eq]

theorem spread_spec (places : (candidates.map Boundary.place).Nodup) {fuel : Nat} (nodup : (selected.map Boundary.place).Nodup)
    (among : selected ⊆ candidates) :
    ((spread candidates fuel queue selected).map Boundary.place).Nodup ∧ spread candidates fuel queue selected ⊆ candidates := by
  induction fuel generalizing queue selected with
  | zero => exact ⟨nodup, among⟩
  | succ fuel ih =>
    cases queue with
    | nil => exact ⟨nodup, among⟩
    | cons current queue =>
      rw [spread]
      refine ih ?_ ?_
      · rw [List.map_append]
        refine List.nodup_append.mpr ⟨nodup, places.sublist (List.filter_sublist.map Boundary.place), ?_⟩
        intro place old place' new same
        obtain ⟨boundary, fresh, is⟩ := List.mem_map.mp new
        have free := (Bool.and_eq_true_iff.mp (List.mem_filter.mp fresh).2).1
        rw [Bool.not_eq_true', ← Bool.not_eq_true, has_iff, is, ← same] at free
        exact free old
      · exact List.append_subset.mpr ⟨among, List.filter_subset_self _⟩

theorem nodup_places_selected {axis : SplitAxis} {coordinate start end' : ℚ} (places : (boundaries.map Boundary.place).Nodup) :
    ((selectConnectedBoundaries boundaries axis coordinate start end').map Boundary.place).Nodup ∧
      selectConnectedBoundaries boundaries axis coordinate start end' ⊆ boundaries := by
  unfold selectConnectedBoundaries
  dsimp only
  generalize lined_eq : boundaries.filter (fun boundary => decide (boundary.axis = axis) &&
    decide (|boundary.coordinate - coordinate| ≤ COORDINATE_TOLERANCE)) = lined
  have below : List.Sublist lined boundaries := lined_eq ▸ List.filter_sublist
  have distinct := places.sublist (below.map Boundary.place)
  generalize first_eq : lined.filter (fun boundary => intervalsTouch boundary.start boundary.end' start end') = first
  have part : List.Sublist first lined := first_eq ▸ List.filter_sublist
  have reached := @spread_spec R lined first first distinct lined.length (distinct.sublist (part.map Boundary.place)) part.subset
  exact ⟨reached.1, fun boundary member => below.subset (reached.2 member)⟩

end Selected

/-! ### How far they move -/

section Delta

variable {root : SerializedNode R} {boundaries selected : List (Boundary R)} {bounds : Bounds} {delta minSize snapTolerance least : ℚ}

/-- The bounds leave nothing below `least`. -/
def Bounds.Above (bounds : Bounds) (least : ℚ) : Prop := ∃ lower, bounds.lower = some lower ∧ least ≤ lower

theorem Bounds.Above.clamp (above : bounds.Above least) (moves : bounds.clamp delta ≠ 0) : least ≤ bounds.clamp delta := by
  obtain ⟨lower, is, less⟩ := above
  have inside : lower ≤ bounds.within delta := by
    unfold Bounds.within
    rw [is]
    exact le_max_left lower _
  revert moves
  unfold Bounds.clamp
  dsimp only
  split
  · exact fun moves => absurd rfl moves
  · split
    · exact fun moves => absurd rfl moves
    · split
      · exact fun moves => absurd rfl moves
      · exact fun _ => less.trans inside

theorem Bounds.Above.connectedBounds (above : bounds.Above least) (boundary : Boundary R) :
    (connectedBounds root minSize bounds boundary).Above least := by
  obtain ⟨lower, is, less⟩ := above
  unfold Layout.connectedBounds
  split
  · exact ⟨lower, is, less⟩
  · split
    · exact ⟨lower, is, less⟩
    · refine ⟨_, rfl, ?_⟩
      rw [is]
      exact less.trans (le_max_left lower _)

theorem above_connectedBounds {boundary : Boundary R} {sizes : List ℚ} {size : ℚ} (found : branchSizes root boundary.path = some sizes)
    (there : sizes[boundary.index]? = some size) : (connectedBounds root minSize bounds boundary).Above (minSize - size) := by
  unfold connectedBounds
  rw [found]
  dsimp only
  rw [there]
  refine ⟨_, rfl, ?_⟩
  cases bounds.lower with
  | none => exact le_rfl
  | some old => exact le_max_right old _

theorem Bounds.Above.foldl (above : bounds.Above least) (boundaries : List (Boundary R)) :
    (boundaries.foldl (Layout.connectedBounds root minSize) bounds).Above least := by
  induction boundaries generalizing bounds with
  | nil => exact above
  | cons boundary rest ih => exact ih (above.connectedBounds boundary)

theorem clampConnectedDelta_ge {boundary : Boundary R} {sizes : List ℚ} {size : ℚ} (member : boundary ∈ selected)
    (found : branchSizes root boundary.path = some sizes) (there : sizes[boundary.index]? = some size)
    (moves : clampConnectedDelta root selected delta minSize ≠ 0) : minSize - size ≤ clampConnectedDelta root selected delta minSize := by
  obtain ⟨first, last, rfl⟩ := List.append_of_mem member
  refine Bounds.Above.clamp ?_ moves
  rw [List.foldl_append, List.foldl_cons]
  exact (above_connectedBounds found there).foldl last

theorem snapConnectedDelta_clamped : ∃ other, snapConnectedDelta root boundaries selected
    (clampConnectedDelta root selected delta minSize) minSize snapTolerance = clampConnectedDelta root selected other minSize := by
  unfold snapConnectedDelta
  split
  · exact ⟨delta, rfl⟩
  · dsimp only
    split
    · exact ⟨delta, rfl⟩
    · split
      · exact ⟨delta, rfl⟩
      · split
        · exact ⟨delta, rfl⟩
        · exact ⟨_, rfl⟩

end Delta

/-! ### Several boundaries of one branch -/

section Several

variable {group selected : List (Boundary R)} {sizes : List ℚ} {delta minSize : ℚ}

theorem length_resizeAll (delta minSize : ℚ) (group : List (Boundary R)) (sizes : List ℚ) :
    (resizeAll delta minSize group sizes).length = sizes.length := by
  induction group generalizing sizes with
  | nil => rfl
  | cons boundary rest ih => exact (ih _).trans (length_connectedBranchSizes sizes boundary.index delta minSize)

theorem round_resizeAll {k : Nat} (later : ∀ boundary ∈ group, k < boundary.index ∧ boundary.index + 1 < sizes.length) :
    (resizeAll delta minSize group sizes)[k]?.map round = sizes[k]?.map round := by
  induction group generalizing sizes with
  | nil => rfl
  | cons boundary rest ih =>
    have ⟨before, short⟩ := later boundary List.mem_cons_self
    have tail := @ih (connectedBranchSizes sizes boundary.index delta minSize) fun other member => by
      rw [length_connectedBranchSizes]
      exact later other (List.mem_cons_of_mem boundary member)
    refine tail.trans ?_
    rw [getElem?_connectedBranchSizes before.le short, if_neg before.ne, Option.map_map]
    cases sizes[k]? with
    | none => rfl
    | some size => exact congrArg some (round_whole (whole_round size))

theorem resizeAll_changes (large : 1 ≤ |delta|) (indices : (group.map Boundary.index).Nodup) {boundary : Boundary R}
    (member : boundary ∈ group) (first : ∀ other ∈ group, boundary.index ≤ other.index)
    (short : ∀ other ∈ group, other.index + 1 < sizes.length) {size : ℚ} (there : sizes[boundary.index]? = some size)
    (lower : minSize - size ≤ delta) : (resizeAll delta minSize group sizes)[boundary.index]?.map round ≠ some (round size) := by
  obtain ⟨before, after, rfl⟩ := List.append_of_mem member
  rw [List.map_append, List.map_cons, List.nodup_middle, List.nodup_cons, ← List.map_append] at indices
  have apart : ∀ other ∈ before ++ after, boundary.index < other.index ∧ other.index + 1 < sizes.length := by
    intro other inside
    have among : other ∈ before ++ boundary :: after :=
      List.mem_append.mpr ((List.mem_append.mp inside).imp id (List.mem_cons_of_mem boundary))
    refine ⟨lt_of_le_of_ne (first other among) fun same => indices.1 ?_, short other among⟩
    exact same ▸ List.mem_map_of_mem inside
  have steps : resizeAll delta minSize (before ++ boundary :: after) sizes = resizeAll delta minSize after
      (connectedBranchSizes (resizeAll delta minSize before sizes) boundary.index delta minSize) := by
    unfold resizeAll
    rw [List.foldl_append, List.foldl_cons]
  have here := @round_resizeAll R before sizes delta minSize boundary.index fun other inside => apart other (List.mem_append_left after inside)
  rw [there] at here
  obtain ⟨old, is, same⟩ := Option.map_eq_some_iff.mp here
  have long : boundary.index + 1 < (resizeAll delta minSize before sizes).length := by
    rw [length_resizeAll]
    exact short boundary member
  rw [steps, round_resizeAll fun other inside => by
      rw [length_connectedBranchSizes, length_resizeAll]
      exact apart other (List.mem_append_right before inside),
    getElem?_connectedBranchSizes le_rfl long, if_pos rfl, List.getD_eq_getElem?_getD, is, Option.map_some, Option.map_some,
    round_whole (whole_round _)]
  intro still
  have unchanged : round (max minSize (round (old + delta))) = round size := Option.some.inj still
  have one : Whole 1 := whole_natCast 1
  cases le_abs'.mp large with
  | inl negative =>
    have smaller := round_mono (show 1 + (old + delta) ≤ old by linarith)
    have least := round_mono (show 1 + minSize ≤ size by linarith)
    rw [round_add one] at smaller least
    have whole := round_whole (whole_round (old + delta))
    cases max_choice minSize (round (old + delta)) with
    | inl least_is => linarith [congrArg round least_is]
    | inr moved_is => linarith [congrArg round moved_is]
  | inr positive =>
    have larger := round_mono (show 1 + old ≤ old + delta by linarith)
    rw [round_add one] at larger
    have most := round_mono (le_max_right minSize (round (old + delta)))
    rw [round_whole (whole_round _)] at most
    linarith

theorem exists_first_of_shared (places : (selected.map Boundary.place).Nodup) (shared : ¬(selected.map Boundary.path).Nodup) :
    ∃ first ∈ selected, ∃ other ∈ selected, other.path = first.path ∧ first.index < other.index ∧
      (∀ boundary ∈ selected, boundary.path = first.path → first.index ≤ boundary.index) ∧
      ((selected.filter fun boundary => boundary.path = first.path).map Boundary.index).Nodup := by
  have ⟨one, member_one, two, member_two, same, apart⟩ : ∃ one ∈ selected, ∃ two ∈ selected, one.path = two.path ∧ one ≠ two := by
    by_contra none
    refine shared (List.Nodup.map_on (fun one member_one two member_two same => ?_) places.of_map)
    by_contra apart
    exact none ⟨one, member_one, two, member_two, same, apart⟩
  have inhabited : ∃ k, ∃ boundary ∈ selected, boundary.path = one.path ∧ boundary.index = k := ⟨one.index, one, member_one, rfl, rfl⟩
  classical
  obtain ⟨first, member, path, least⟩ := Nat.find_spec inhabited
  have smallest : ∀ boundary ∈ selected, boundary.path = first.path → first.index ≤ boundary.index := fun boundary there at' =>
    least ▸ Nat.find_min' inhabited ⟨boundary, there, at'.trans path, rfl⟩
  have larger {boundary : Boundary R} (there : boundary ∈ selected) (at' : boundary.path = first.path) (differs : first ≠ boundary) :
      first.index < boundary.index := by
    refine lt_of_le_of_ne (smallest boundary there at') fun same_index => differs ?_
    exact List.inj_on_of_nodup_map places member there (Prod.ext at'.symm same_index)
  have indices : ((selected.filter fun boundary => boundary.path = first.path).map Boundary.index).Nodup := by
    refine List.Nodup.map_on ?_ (places.of_map.filter _)
    intro boundary inside boundary' inside' same_index
    have ⟨there, at_first⟩ := List.mem_filter.mp inside
    have ⟨there', at_first'⟩ := List.mem_filter.mp inside'
    have same_path := (decide_eq_true_eq.mp at_first).trans (decide_eq_true_eq.mp at_first').symm
    exact List.inj_on_of_nodup_map places there there' (Prod.ext same_path same_index)
  refine ⟨first, member, ?_⟩
  by_cases is : first = one
  · have at' := same.symm.trans path.symm
    exact ⟨two, member_two, at', larger member_two at' fun also => apart (is.symm.trans also), smallest, indices⟩
  · exact ⟨one, member_one, path.symm, larger member_one path.symm is, smallest, indices⟩

end Several

/-! ### What a drag keeps -/

section Keeps

variable {layout : DockviewLayoutLike R} {root : SerializedNode R} {selected : List (Boundary R)} {axis : SplitAxis}
  {coordinate start end' delta minSize snapTolerance : ℚ}

def Integral (root : SerializedNode R) : Prop := ∀ path sizes, branchSizes root path = some sizes → ∀ size ∈ sizes, Whole size

/-- Each branch keeps its sum and its children before a boundary that moves, and no child gets smaller than it was and than the
minimum. -/
structure Kept (minSize : ℚ) (selected : List (Boundary R)) (root root' : SerializedNode R) : Prop where
  sum : ∀ path sizes, branchSizes root path = some sizes → ∃ sizes', branchSizes root' path = some sizes' ∧ sizes'.sum = sizes.sum
  before : ∀ boundary ∈ selected, ∀ sizes, branchSizes root boundary.path = some sizes →
    ∃ sizes', branchSizes root' boundary.path = some sizes' ∧ sizes'.take boundary.index = sizes.take boundary.index
  least : ∀ path sizes, branchSizes root path = some sizes →
    ∃ sizes', branchSizes root' path = some sizes' ∧ List.Forall₂ (fun old new => min old minSize ≤ new) sizes sizes'

/-- No branch has two boundaries that move, and each that has one has room after it. -/
def Clear (minSize delta : ℚ) (selected : List (Boundary R)) (root : SerializedNode R) : Prop :=
  (selected.map Boundary.path).Nodup ∧ ∀ boundary ∈ selected, ∀ sizes, branchSizes root boundary.path = some sizes →
    Room minSize delta (sizes.drop (boundary.index + 1))

def Between (root : SerializedNode R) (selected : List (Boundary R)) : Prop :=
  ∀ boundary ∈ selected, ∃ sizes, branchSizes root boundary.path = some sizes ∧ boundary.index + 1 < sizes.length

def Allowed (minSize delta : ℚ) (selected : List (Boundary R)) (root : SerializedNode R) : Prop :=
  ∀ boundary ∈ selected, ∀ sizes, branchSizes root boundary.path = some sizes → ∀ size, sizes[boundary.index]? = some size →
    minSize - size ≤ delta

theorem parts_of_short {sizes : List ℚ} {index : Nat} (short : index + 1 < sizes.length) :
    ∃ before size trailing, sizes = before ++ size :: trailing ∧ before.length = index ∧ trailing ≠ [] ∧
      sizes.drop (index + 1) = trailing ∧ sizes[index]? = some size := by
  have here : index < sizes.length := Nat.lt_of_succ_lt short
  refine ⟨sizes.take index, sizes[index], sizes.drop (index + 1), ?_, ?_, ?_, rfl, List.getElem?_eq_getElem here⟩
  · rw [← List.drop_eq_getElem_cons here, List.take_append_drop]
  · rw [List.length_take, Nat.min_eq_left here.le]
  · intro none
    have := List.drop_eq_nil_iff.mp none
    omega

theorem filter_path_of_nodup (paths : (selected.map Boundary.path).Nodup) {boundary : Boundary R} (member : boundary ∈ selected) :
    selected.filter (fun other => other.path = boundary.path) = [boundary] := by
  obtain ⟨before, after, rfl⟩ := List.append_of_mem member
  rw [List.map_append, List.map_cons, List.nodup_middle, List.nodup_cons, ← List.map_append] at paths
  have others (l : List (Boundary R)) (within : l ⊆ before ++ after) : l.filter (fun other => other.path = boundary.path) = [] := by
    apply List.filter_eq_nil_iff.mpr
    intro other inside same
    exact paths.1 ((decide_eq_true_eq.mp same) ▸ List.mem_map_of_mem (within inside))
  have here : decide (boundary.path = boundary.path) = true := decide_eq_true rfl
  rw [List.filter_append, List.filter_cons, if_pos here, others before (List.subset_append_left before after),
    others after (List.subset_append_right before after)]
  rfl

theorem branchSizes_drag (paths : (selected.map Boundary.path).Nodup) {path : List Nat} {sizes : List ℚ}
    (found : branchSizes root path = some sizes) :
    branchSizes (selected.foldl (resizeBoundary delta minSize) root) path = some sizes ∨
      ∃ boundary ∈ selected, boundary.path = path ∧ branchSizes (selected.foldl (resizeBoundary delta minSize) root) path =
        some (connectedBranchSizes sizes boundary.index delta minSize) := by
  rw [branchSizes_foldl_resizeBoundary, found, Option.map_some]
  by_cases some_boundary : ∃ boundary ∈ selected, boundary.path = path
  · obtain ⟨boundary, member, rfl⟩ := some_boundary
    refine .inr ⟨boundary, member, rfl, ?_⟩
    rw [filter_path_of_nodup paths member]
    rfl
  · have none : selected.filter (fun boundary => boundary.path = path) = [] := by
      apply List.filter_eq_nil_iff.mpr
      intro boundary member same
      exact some_boundary ⟨boundary, member, decide_eq_true_eq.mp same⟩
    rw [none]
    exact .inl rfl

theorem kept_of_clear (integral : Integral root) (whole_min : Whole minSize) (between : Between root selected)
    (allowed : Allowed minSize delta selected root) (large : 1 ≤ |delta|) (clear : Clear minSize delta selected root) :
    Kept minSize selected root (selected.foldl (resizeBoundary delta minSize) root) := by
  have branch (path : List Nat) (sizes : List ℚ) (found : branchSizes root path = some sizes) :
      ∃ sizes', branchSizes (selected.foldl (resizeBoundary delta minSize) root) path = some sizes' ∧ sizes'.sum = sizes.sum ∧
        List.Forall₂ (fun old new => min old minSize ≤ new) sizes sizes' := by
    cases branchSizes_drag clear.1 found with
    | inl unchanged => exact ⟨sizes, unchanged, rfl, List.forall₂_same.mpr fun _ _ => min_le_left _ _⟩
    | inr one =>
      obtain ⟨boundary, member, is, changed⟩ := one
      refine ⟨_, changed, ?_⟩
      rw [← is] at found
      obtain ⟨sizes', found', short⟩ := between boundary member
      cases found.symm.trans found'
      obtain ⟨before, size, trailing, parts, length, some_child, drop, there⟩ := parts_of_short short
      have lower := allowed boundary member sizes found size there
      have room := clear.2 boundary member sizes found
      have whole := integral boundary.path sizes found
      rw [drop] at room
      rw [parts] at whole ⊢
      rw [← length]
      exact ⟨(sum_connectedBranchSizes_iff whole_min whole lower large some_child).mpr room,
        forall₂_connectedBranchSizes whole_min whole lower large some_child⟩
  constructor
  · intro path sizes found
    obtain ⟨sizes', found', sum, _⟩ := branch path sizes found
    exact ⟨sizes', found', sum⟩
  · intro boundary member sizes found
    refine ⟨connectedBranchSizes sizes boundary.index delta minSize, ?_, ?_⟩
    · rw [branchSizes_foldl_resizeBoundary, found, filter_path_of_nodup clear.1 member]
      rfl
    · have one := congrArg (List.take boundary.index)
        (take_connectedBranchSizes whole_min (integral boundary.path sizes found) boundary.index delta)
      rwa [List.take_take, Nat.min_eq_left (Nat.le_succ _), List.take_set_of_le le_rfl, List.take_take,
        Nat.min_eq_left (Nat.le_succ _)] at one
  · intro path sizes found
    obtain ⟨sizes', found', _, least⟩ := branch path sizes found
    exact ⟨sizes', found', least⟩

theorem drag_changes (between : Between root selected) (allowed : Allowed minSize delta selected root) (large : 1 ≤ |delta|)
    {first : Boundary R} (member : first ∈ selected) (smallest : ∀ boundary ∈ selected, boundary.path = first.path → first.index ≤ boundary.index)
    (indices : ((selected.filter fun boundary => boundary.path = first.path).map Boundary.index).Nodup) {sizes sizes' : List ℚ}
    (found : branchSizes root first.path = some sizes)
    (found' : branchSizes (selected.foldl (resizeBoundary delta minSize) root) first.path = some sizes') :
    sizes'[first.index]?.map round ≠ sizes[first.index]?.map round := by
  have short {boundary : Boundary R} (there : boundary ∈ selected) (at' : boundary.path = first.path) :
      boundary.index + 1 < sizes.length := by
    obtain ⟨sizes₀, is, short⟩ := between boundary there
    rw [at'] at is
    exact Option.some.inj (is.symm.trans found) ▸ short
  have here := List.getElem?_eq_getElem (Nat.lt_of_succ_lt (short member rfl))
  rw [branchSizes_foldl_resizeBoundary, found] at found'
  rw [← Option.some.inj found', here]
  refine resizeAll_changes large indices (List.mem_filter.mpr ⟨member, decide_eq_true rfl⟩) ?_ ?_ here
    (allowed first member sizes found _ here)
  · intro other inside
    have ⟨there, at'⟩ := List.mem_filter.mp inside
    exact smallest other there (decide_eq_true_eq.mp at')
  · intro other inside
    have ⟨there, at'⟩ := List.mem_filter.mp inside
    exact short there (decide_eq_true_eq.mp at')

theorem nodup_paths_of_kept (between : Between root selected) (places : (selected.map Boundary.place).Nodup)
    (allowed : Allowed minSize delta selected root) (large : 1 ≤ |delta|)
    (kept : Kept minSize selected root (selected.foldl (resizeBoundary delta minSize) root)) :
    (selected.map Boundary.path).Nodup := by
  by_contra shared
  obtain ⟨first, member, other, other_member, same, less, smallest, indices⟩ := exists_first_of_shared places shared
  obtain ⟨sizes, found, _⟩ := between first member
  have at_other := found
  rw [← same] at at_other
  obtain ⟨sizes', found', before⟩ := kept.before other other_member sizes at_other
  rw [same] at found'
  refine drag_changes between allowed large member smallest indices found found' ?_
  have read (l : List ℚ) : l[first.index]? = (l.take other.index)[first.index]? := by rw [List.getElem?_take, if_pos less]
  rw [read, before, ← read]

theorem kept_iff (integral : Integral root) (whole_min : Whole minSize) (between : Between root selected)
    (places : (selected.map Boundary.place).Nodup) (allowed : Allowed minSize delta selected root) (large : 1 ≤ |delta|) :
    Kept minSize selected root (selected.foldl (resizeBoundary delta minSize) root) ↔ Clear minSize delta selected root := by
  constructor
  · intro kept
    have paths := nodup_paths_of_kept between places allowed large kept
    refine ⟨paths, fun boundary member sizes found => ?_⟩
    obtain ⟨sizes', found', short⟩ := between boundary member
    cases found.symm.trans found'
    obtain ⟨before, size, trailing, parts, length, some_child, drop, there⟩ := parts_of_short short
    have lower := allowed boundary member sizes found size there
    have whole := integral boundary.path sizes found
    obtain ⟨after, found_after, sum⟩ := kept.sum boundary.path sizes found
    rw [branchSizes_foldl_resizeBoundary, found, filter_path_of_nodup paths member] at found_after
    rw [← Option.some.inj found_after] at sum
    rw [drop]
    rw [parts] at whole sum
    refine (sum_connectedBranchSizes_iff whole_min whole lower large some_child).mp ?_
    rw [length]
    exact sum
  · exact kept_of_clear integral whole_min between allowed large

/-- Each drag of connected boundaries that does anything keeps this. -/
def Keeps (layout : DockviewLayoutLike R) (axis : SplitAxis) (coordinate start end' delta minSize snapTolerance : ℚ) : Prop :=
  ∀ analysis root next root', analyzeLayout layout = some analysis → layout.grid.bind Grid.root = some root →
    resizeConnectedBoundaryAt layout axis coordinate start end' delta minSize snapTolerance = some next →
    next.grid.bind Grid.root = some root' →
    Kept minSize (selectConnectedBoundaries analysis.boundaries axis coordinate start end') root root'

theorem root_withRoot {root : SerializedNode R} (some_root : layout.grid.bind Grid.root = some root) (root' : SerializedNode R) :
    (layout.withRoot root').grid.bind Grid.root = some root' := by
  obtain ⟨grid, is, _⟩ := Option.bind_eq_some_iff.mp some_root
  unfold DockviewLayoutLike.withRoot
  rw [is]
  rfl

theorem boundaries_of_analyzeLayout {analysis : Analysis R} (analyzed : analyzeLayout layout = some analysis)
    (some_root : layout.grid.bind Grid.root = some root) :
    (analysis.boundaries.map Boundary.place).Nodup ∧ Between root analysis.boundaries := by
  obtain ⟨grid, root', width, height, is_grid, is_root, _, _, _, rfl⟩ := of_analyzeLayout analyzed
  rw [is_grid, Option.bind_some, is_root] at some_root
  cases some_root
  refine ⟨nodup_places _ _ _ _, fun boundary member => ?_⟩
  obtain ⟨below, is, found⟩ := of_mem_boundaries member
  rw [List.nil_append] at is
  exact is ▸ found

/-- When the drag has some effect, it is by the delta of `connectedResizeDeltaAt`. -/
theorem resizeConnectedBoundaryAt_eq_some {analysis : Analysis R} (analyzed : analyzeLayout layout = some analysis)
    (some_root : layout.grid.bind Grid.root = some root) {next : DockviewLayoutLike R} :
    resizeConnectedBoundaryAt layout axis coordinate start end' delta minSize snapTolerance = some next ↔
      ∃ moved, connectedResizeDeltaAt layout axis coordinate start end' delta minSize snapTolerance = some moved ∧ 1 ≤ |moved| ∧
        next = layout.withRoot ((selectConnectedBoundaries analysis.boundaries axis coordinate start end').foldl
          (resizeBoundary moved minSize) root) := by
  unfold resizeConnectedBoundaryAt connectedResizeDeltaAt
  rw [analyzed]
  dsimp only
  rw [some_root]
  split
  · refine iff_of_false (fun is => by cases is) ?_
    intro ⟨moved, is, _⟩
    cases is
  · dsimp only
    rw [Option.map_some]
    split
    · rename_i small
      refine iff_of_false (fun is => by cases is) ?_
      intro ⟨moved, is, large, _⟩
      cases is
      exact not_lt.mpr large small
    · rename_i large
      constructor
      · intro is
        exact ⟨_, rfl, not_lt.mp large, (Option.some.inj is).symm⟩
      · intro ⟨moved, is, _, same⟩
        cases is
        rw [same]

theorem allowed_connectedResizeDeltaAt {analysis : Analysis R} (analyzed : analyzeLayout layout = some analysis)
    (some_root : layout.grid.bind Grid.root = some root) {moved : ℚ}
    (is : connectedResizeDeltaAt layout axis coordinate start end' delta minSize snapTolerance = some moved) (large : 1 ≤ |moved|) :
    Allowed minSize moved (selectConnectedBoundaries analysis.boundaries axis coordinate start end') root := by
  unfold connectedResizeDeltaAt at is
  rw [analyzed] at is
  dsimp only at is
  rw [some_root] at is
  split at is
  · cases is
  · cases is
    intro boundary member sizes found size there
    obtain ⟨other, same⟩ := @snapConnectedDelta_clamped R root analysis.boundaries
      (selectConnectedBoundaries analysis.boundaries axis coordinate start end') delta minSize snapTolerance
    dsimp only at large ⊢
    rw [same] at large ⊢
    refine clampConnectedDelta_ge member found there fun zero => ?_
    rw [zero, abs_zero] at large
    exact absurd large (by norm_num)

/-- When the drag moves anything, it moves one boundary of a branch at most, and the children after it have room. -/
def Clears (layout : DockviewLayoutLike R) (axis : SplitAxis) (coordinate start end' delta minSize snapTolerance : ℚ) : Prop :=
  ∀ analysis root moved, analyzeLayout layout = some analysis → layout.grid.bind Grid.root = some root →
    connectedResizeDeltaAt layout axis coordinate start end' delta minSize snapTolerance = some moved → 1 ≤ |moved| →
    Clear minSize moved (selectConnectedBoundaries analysis.boundaries axis coordinate start end') root

/-- A drag keeps the sums, the children before its boundaries and the least sizes exactly when it has one boundary in a branch at
most and the children after each have room for it. -/
theorem keeps_iff (integral : ∀ root, layout.grid.bind Grid.root = some root → Integral root) (whole_min : Whole minSize) :
    Keeps layout axis coordinate start end' delta minSize snapTolerance ↔
      Clears layout axis coordinate start end' delta minSize snapTolerance := by
  have step {analysis : Analysis R} {root : SerializedNode R} {moved : ℚ} (analyzed : analyzeLayout layout = some analysis)
      (some_root : layout.grid.bind Grid.root = some root)
      (is : connectedResizeDeltaAt layout axis coordinate start end' delta minSize snapTolerance = some moved) (large : 1 ≤ |moved|) := by
    have ⟨places, between⟩ := boundaries_of_analyzeLayout analyzed some_root
    have ⟨places, within⟩ := @nodup_places_selected R analysis.boundaries axis coordinate start end' places
    exact kept_iff (integral root some_root) whole_min (fun boundary member => between boundary (within member)) places
      (allowed_connectedResizeDeltaAt analyzed some_root is large) large
  constructor
  · intro keeps analysis root moved analyzed some_root is large
    have next := (resizeConnectedBoundaryAt_eq_some analyzed some_root).mpr ⟨moved, is, large, rfl⟩
    exact (step analyzed some_root is large).mp (keeps analysis root _ _ analyzed some_root next (root_withRoot some_root _))
  · intro clears analysis root next root' analyzed some_root is some_root'
    obtain ⟨moved, by_moved, large, rfl⟩ := (resizeConnectedBoundaryAt_eq_some analyzed some_root).mp is
    cases (root_withRoot some_root _).symm.trans some_root'
    exact (step analyzed some_root by_moved large).mpr (clears analysis root moved analyzed some_root by_moved large)

end Keeps

/-! ### Three columns -/

def columnsOf (sizes : List ℚ) : DockviewLayoutLike Unit :=
  ⟨some ⟨some (.branch (sizes.map fun size => .leaf ⟨none, ()⟩ size) 400), some sizes.sum, some 400, some "HORIZONTAL", false⟩⟩

theorem integral_columnsOf {sizes : List ℚ} (whole : ∀ size ∈ sizes, Whole size) (root : SerializedNode Unit)
    (is : (columnsOf sizes).grid.bind Grid.root = some root) : Integral root := by
  cases is
  intro path found same
  cases path with
  | nil =>
    rw [branchSizes_nil, List.map_map] at same
    cases same
    have plain : (Node.size ∘ fun size : ℚ => (Node.leaf ⟨none, ()⟩ size : SerializedNode Unit)) = id := rfl
    rw [plain, List.map_id]
    exact whole
  | cons index path =>
    rw [branchSizes_cons] at same
    obtain ⟨child, there, inside⟩ := Option.bind_eq_some_iff.mp same
    obtain ⟨size, _, rfl⟩ := List.mem_map.mp (List.mem_of_getElem? there)
    rw [branchSizes_leaf] at inside
    cases inside

theorem whole_ofNat {sizes : List ℚ} (numbers : ∃ list : List Nat, sizes = list.map Nat.cast) : ∀ size ∈ sizes, Whole size := by
  obtain ⟨list, rfl⟩ := numbers
  intro size member
  obtain ⟨n, _, rfl⟩ := List.mem_map.mp member
  exact whole_natCast n

/-- The middle and the last of three equal columns give 50 to the first. -/
theorem keeps_equal : Keeps (columnsOf [200, 200, 200]) .x 200 0 400 50 96 0 := by
  have integral := @integral_columnsOf [200, 200, 200] (whole_ofNat ⟨[200, 200, 200], by norm_num⟩)
  refine (keeps_iff integral (whole_natCast 96)).mpr ?_
  intro analysis root moved analyzed some_root by_moved large
  cases some_root
  have by_50 : connectedResizeDeltaAt (columnsOf [200, 200, 200]) .x 200 0 400 50 96 0 = some 50 := by decide +kernel
  cases by_50.symm.trans by_moved
  have selected : (analyzeLayout (columnsOf [200, 200, 200])).map (fun analysis =>
      (selectConnectedBoundaries analysis.boundaries .x 200 0 400).map Boundary.place) = some [([], 0)] := by decide +kernel
  rw [analyzed] at selected
  have places := Option.some.inj selected
  refine ⟨?_, fun boundary member sizes found => ?_⟩
  · have paths := congrArg (List.map Prod.fst) places
    rw [List.map_map] at paths
    have plain : (Prod.fst ∘ Boundary.place : Boundary Unit → List Nat) = Boundary.path := rfl
    rw [plain] at paths
    rw [paths]
    exact List.nodup_singleton _
  · have place : boundary.place ∈ [(([] : List Nat), 0)] := places ▸ List.mem_map_of_mem member
    injection List.mem_singleton.mp place with path index
    rw [path, branchSizes_nil] at found
    cases found
    rw [index]
    unfold Room
    rw [if_pos (by norm_num)]
    decide +kernel

/-- The last column is below the minimum: it is made as large as that, which nobody gives. -/
theorem crowded_grows : (∀ root, (columnsOf [200, 150, 50]).grid.bind Grid.root = some root → Integral root) ∧ Whole 96 ∧ (0 : ℚ) < 96 ∧
    ¬Keeps (columnsOf [200, 150, 50]) .x 200 0 400 100 96 0 := by
  refine ⟨@integral_columnsOf [200, 150, 50] (whole_ofNat ⟨[200, 150, 50], by norm_num⟩), whole_natCast 96, by norm_num, fun keeps => ?_⟩
  have after : (resizeConnectedBoundaryAt (columnsOf [200, 150, 50]) .x 200 0 400 100 96 0).bind (fun next =>
      (next.grid.bind Grid.root).bind fun root => branchSizes root []) = some [254, 96, 96] := by decide +kernel
  obtain ⟨next, is, inside⟩ := Option.bind_eq_some_iff.mp after
  obtain ⟨root', some_root', found⟩ := Option.bind_eq_some_iff.mp inside
  obtain ⟨analysis, analyzed⟩ : ∃ analysis, analyzeLayout (columnsOf [200, 150, 50]) = some analysis :=
    Option.isSome_iff_exists.mp (by decide +kernel)
  have kept := keeps analysis _ next root' analyzed rfl is some_root'
  obtain ⟨sizes', found', sum⟩ := kept.sum [] _ (branchSizes_nil _ _)
  cases found.symm.trans found'
  exact absurd sum (by decide +kernel)

end VibeLink.Layout
