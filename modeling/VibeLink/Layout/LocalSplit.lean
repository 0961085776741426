import VibeLink.Layout.Tilings
import VibeLink.Layout.BranchSizes

/-! A pane that is split in two (`src/layout/localSplitSizing.ts`): the sizes that leave every other pane where it was. -/

namespace VibeLink.Layout

variable {R : Type}

inductive LocalSplitDirection
  | right | below

def LocalSplitDirection.axis : LocalSplitDirection → SplitAxis
  | right => .x
  | below => .y

namespace LocalSplit

mutual

def collectLeafRects (rect : Rect) (axis : SplitAxis) : SerializedNode R → List (List String × Rect)
  | .leaf data _ => [(data.views.getD [], rect)]
  | .branch data _ => collectChildRects rect axis (rect.start axis) data

def collectChildRects (rect : Rect) (axis : SplitAxis) (offset : ℚ) : List (SerializedNode R) → List (List String × Rect)
  | [] => []
  | child :: rest =>
    let size := max 0 child.size
    collectLeafRects (rect.slice axis offset size) (oppositeAxis axis) child ++ collectChildRects rect axis (offset + size) rest

end

/-- `desiredRects` -/
abbrev DesiredRects : Type := String → Option Rect

def DesiredRects.set (desired : DesiredRects) (rect : Rect) (viewIds : List String) : DesiredRects :=
  viewIds.foldl (fun desired viewId => Function.update desired viewId (some rect)) desired

def splitRect (rect : Rect) : LocalSplitDirection → Rect × Rect
  | .right =>
    let referenceWidth : ℚ := max 1 ⌊rect.width / 2⌋
    ({ rect with width := referenceWidth },
      { rect with x := rect.x + referenceWidth, width := max 1 (rect.width - referenceWidth) })
  | .below =>
    let referenceHeight : ℚ := max 1 ⌊rect.height / 2⌋
    ({ rect with height := referenceHeight },
      { rect with y := rect.y + referenceHeight, height := max 1 (rect.height - referenceHeight) })

mutual

def collectDesiredRects (desired : DesiredRects) : SerializedNode R → List Rect
  | .leaf data _ => (data.views.getD []).filterMap desired
  | .branch data _ => collectDesiredRectsOf desired data

def collectDesiredRectsOf (desired : DesiredRects) : List (SerializedNode R) → List Rect
  | [] => []
  | child :: rest => collectDesiredRects desired child ++ collectDesiredRectsOf desired rest

end

def desiredBounds (desired : DesiredRects) (node : SerializedNode R) : Option Rect :=
  match collectDesiredRects desired node with
  | [] => none
  | rects =>
    let left := minimum (rects.map Rect.x)
    let top := minimum (rects.map Rect.y)
    let right := maximum (rects.map fun rect => rect.x + rect.width)
    let bottom := maximum (rects.map fun rect => rect.y + rect.height)
    some ⟨left, top, right - left, bottom - top⟩

mutual

def applyDesiredSizes (desired : DesiredRects) (axis : SplitAxis) : SerializedNode R → Option (SerializedNode R)
  | .leaf data size => match data.views with
    | none => none
    | some views => if views.all fun viewId => (desired viewId).isSome then some (.leaf data size) else none
  | .branch data size => (applyDesiredSizesTo desired axis data).map fun data => .branch data size

def applyDesiredSizesTo (desired : DesiredRects) (axis : SplitAxis) : List (SerializedNode R) → Option (List (SerializedNode R))
  | [] => some []
  | child :: rest =>
    (desiredBounds desired child).bind fun bounds =>
      (applyDesiredSizes desired (oppositeAxis axis) child).bind fun sized =>
        (applyDesiredSizesTo desired axis rest).map fun others => sized.resize (max 1 (round (bounds.extent axis))) :: others

end

/-- The rectangles from before the split, but for those of the reference and of what is created. -/
def desiredRectsAfter (leaves : List (List String × Rect)) (reference : List String × Rect) (createdPanelId : String)
    (direction : LocalSplitDirection) : DesiredRects :=
  let former := leaves.foldl (fun desired leaf => DesiredRects.set desired leaf.2 leaf.1) fun _ => none
  let halves := splitRect reference.2 direction
  Function.update (DesiredRects.set former halves.1 reference.1) createdPanelId (some halves.2)

/-- `positiveNumber` -/
def positiveNumber (number : Option ℚ) : Option ℚ := number.filter fun number => 0 < number

end LocalSplit

open LocalSplit

def localSplitLayout (beforeLayout afterLayout : DockviewLayoutLike R) (referencePanelId createdPanelId : String)
    (direction : LocalSplitDirection) : Option (DockviewLayoutLike R) :=
  match beforeLayout.grid, afterLayout.grid with
  | some grid, some nextGrid => match grid.root, positiveNumber grid.width, positiveNumber grid.height with
    | some beforeRoot, some width, some height =>
      let beforeLeaves := collectLeafRects ⟨0, 0, width, height⟩ (axisFromOrientation grid.orientation) beforeRoot
      match beforeLeaves.find? fun leaf => referencePanelId ∈ leaf.1 with
      | none => none
      | some referenceLeaf => match nextGrid.root with
        | none => none
        | some nextRoot =>
          (applyDesiredSizes (desiredRectsAfter beforeLeaves referenceLeaf createdPanelId direction)
            (axisFromOrientation nextGrid.orientation) nextRoot).map fun root => ⟨some { nextGrid with root := some root }⟩
    | _, _, _ => none
  | _, _ => none

/-! ### Rectangles that are desired -/

namespace LocalSplit

section Desired

variable {axis : SplitAxis} {rect : Rect} {node : SerializedNode R} {desired : DesiredRects}

theorem collectLeafRects_eq (fits : node.Fits axis rect) :
    collectLeafRects rect axis node = (node.rects axis rect).map fun leaf => (leaf.1.views.getD [], leaf.2) := by
  induction node using Node.ind generalizing axis rect with
  | leaf data size => rfl
  | branch data size ih =>
    rw [collectLeafRects, Node.rects]
    have parts := fits.2
    clear fits
    generalize rect.start axis = offset at parts
    induction data generalizing offset with
    | nil => rfl
    | cons child rest ih' =>
      obtain ⟨nonneg, here, later⟩ := parts
      rw [collectChildRects, rectsFrom, List.map_append, max_eq_right nonneg]
      rw [ih child List.mem_cons_self here, ih' (fun other member => ih other (List.mem_cons_of_mem child member)) _ later]

theorem collectDesiredRects_eq (desired : DesiredRects) (node : SerializedNode R) :
    collectDesiredRects desired node = node.leaves.flatMap fun data => (data.views.getD []).filterMap desired := by
  induction node using Node.ind with
  | leaf data size => rw [collectDesiredRects, Node.leaves, List.flatMap_singleton]
  | branch data size ih =>
    rw [collectDesiredRects, Node.leaves_branch]
    induction data with
    | nil => rfl
    | cons child rest ih' =>
      rw [collectDesiredRectsOf, ih child List.mem_cons_self, ih' fun other member => ih other (List.mem_cons_of_mem child member),
        List.flatMap_cons, List.flatMap_append]

theorem DesiredRects.set_apply (desired : DesiredRects) (rect : Rect) (viewIds : List String) (viewId : String) :
    desired.set rect viewIds viewId = if viewId ∈ viewIds then some rect else desired viewId := by
  induction viewIds using List.reverseRecOn with
  | nil => rfl
  | append_singleton before last ih =>
    unfold DesiredRects.set at ih ⊢
    rw [List.foldl_append, List.foldl_cons, List.foldl_nil, Function.update_apply, ih]
    by_cases same : viewId = last
    · simp [same]
    · simp [same]

theorem former_apply {leaves : List (List String × Rect)} (distinct : (leaves.flatMap Prod.fst).Nodup)
    {leaf : List String × Rect} (member : leaf ∈ leaves) {viewId : String} (inside : viewId ∈ leaf.1) :
    leaves.foldl (fun desired leaf => DesiredRects.set desired leaf.2 leaf.1) desired viewId = some leaf.2 := by
  induction leaves using List.reverseRecOn with
  | nil => cases member
  | append_singleton before last ih =>
    rw [List.foldl_append, List.foldl_cons, List.foldl_nil, DesiredRects.set_apply]
    rw [List.flatMap_append, List.nodup_append] at distinct
    cases List.mem_append.mp member with
    | inl member =>
      have elsewhere : viewId ∉ last.1 := by
        intro again
        exact distinct.2.2 viewId (List.mem_flatMap.mpr ⟨leaf, member, inside⟩) viewId (by simpa using again) rfl
      rw [if_neg elsewhere]
      exact ih distinct.1 member
    | inr member =>
      rw [List.mem_singleton.mp member] at inside ⊢
      rw [if_pos inside]

end Desired

/-! ### The sizes of a tree from the rectangles of its leaves -/

mutual

/-- Sizes are positive and whole; each branch has a child and each leaf a view. -/
def Sound : SerializedNode R → Prop
  | .leaf data _ => ∃ viewId views, data.views = some (viewId :: views)
  | .branch data _ => data ≠ [] ∧ SoundAll data

def SoundAll : List (SerializedNode R) → Prop
  | [] => True
  | child :: rest => (Whole child.size ∧ 0 < child.size) ∧ Sound child ∧ SoundAll rest

end

def Solid (rect : Rect) : Prop := ∀ axis, Whole (rect.extent axis) ∧ 0 < rect.extent axis

theorem slice_slice (rect : Rect) (axis : SplitAxis) (offset size offset' size' : ℚ) :
    (rect.slice axis offset size).slice axis offset' size' = rect.slice axis offset' size' := by
  cases axis with
  | x => rfl
  | y => rfl

theorem Solid.slice {rect : Rect} (solid : Solid rect) (axis : SplitAxis) (offset : ℚ) {size : ℚ} (whole : Whole size) (pos : 0 < size) :
    Solid (rect.slice axis offset size) := by
  unfold Solid
  rw [forall_axis axis, Rect.extent_slice, Rect.extent_slice_opposite]
  exact ⟨⟨whole, pos⟩, solid _⟩

section Covering

variable {axis : SplitAxis} {rect : Rect} {node : SerializedNode R} {data : List (SerializedNode R)} {offset : ℚ}

/-- There is a leaf at each side of the rectangle. -/
structure Covers (rect : Rect) (leaves : List (LeafData R × Rect)) : Prop where
  within : ∀ leaf ∈ leaves, leaf.2.Within rect
  start : ∀ axis, ∃ leaf ∈ leaves, leaf.2.start axis = rect.start axis
  stop : ∀ axis, ∃ leaf ∈ leaves, leaf.2.stop axis = rect.stop axis

theorem covers_children (solid : Solid rect) (fits : FitsFrom axis rect offset data) (sound : SoundAll data) (inhabited : data ≠ [])
    (each : ∀ node ∈ data, ∀ rect, Solid rect → node.Fits (oppositeAxis axis) rect → Sound node →
      Covers rect (node.rects (oppositeAxis axis) rect)) :
    Covers (rect.slice axis offset (data.map Node.size).sum) (rectsFrom axis rect offset data) := by
  induction data generalizing offset with
  | nil => exact absurd rfl inhabited
  | cons child rest ih =>
    obtain ⟨nonneg, here, later⟩ := fits
    obtain ⟨⟨whole, pos⟩, soundHere, soundLater⟩ := sound
    have first := each child List.mem_cons_self _ (solid.slice axis offset whole pos) here soundHere
    rw [rectsFrom, List.map_cons, List.sum_cons]
    by_cases last : rest = []
    · rw [last, rectsFrom, List.append_nil, List.map_nil, List.sum_nil, add_zero]
      exact first
    · have others := ih later soundLater last fun node member => each node (List.mem_cons_of_mem child member)
      have total : 0 ≤ (rest.map Node.size).sum := by
        obtain ⟨leaf, member, _⟩ := others.start axis
        have := (others.within leaf member).start axis
        have := (others.within leaf member).extent axis
        have := (others.within leaf member).stop axis
        rw [Rect.start_slice, Rect.stop, Rect.stop, Rect.start_slice, Rect.extent_slice] at *
        linarith
      generalize (rest.map Node.size).sum = size at total others
      have nonneg' : ∀ a, 0 ≤ (rect.slice axis offset (child.size + size)).extent a := by
        rw [forall_axis axis, Rect.extent_slice, Rect.extent_slice_opposite]
        exact ⟨by linarith, (solid _).2.le⟩
      have left := @Rect.within_slice (rect.slice axis offset (child.size + size)) axis offset child.size nonneg' nonneg
        (by rw [Rect.start_slice]) (by rw [Rect.stop, Rect.start_slice, Rect.extent_slice]; linarith)
      have right := @Rect.within_slice (rect.slice axis offset (child.size + size)) axis (offset + child.size) size nonneg' total
        (by rw [Rect.start_slice]; linarith) (by rw [Rect.stop, Rect.start_slice, Rect.extent_slice]; linarith)
      rw [slice_slice] at left right
      constructor
      · intro leaf member
        cases List.mem_append.mp member with
        | inl member => exact (first.within leaf member).trans left
        | inr member => exact (others.within leaf member).trans right
      · rw [forall_axis axis]
        obtain ⟨leaf, member, along⟩ := first.start axis
        obtain ⟨leaf', member', across⟩ := first.start (oppositeAxis axis)
        constructor
        · refine ⟨leaf, List.mem_append_left _ member, ?_⟩
          rw [along, Rect.start_slice, Rect.start_slice]
        · refine ⟨leaf', List.mem_append_left _ member', ?_⟩
          rw [across, Rect.start_slice_opposite, Rect.start_slice_opposite]
      · rw [forall_axis axis]
        obtain ⟨leaf, member, along⟩ := others.stop axis
        obtain ⟨leaf', member', across⟩ := first.stop (oppositeAxis axis)
        constructor
        · refine ⟨leaf, List.mem_append_right _ member, ?_⟩
          rw [along, Rect.stop, Rect.stop, Rect.start_slice, Rect.extent_slice, Rect.start_slice, Rect.extent_slice, add_assoc]
        · refine ⟨leaf', List.mem_append_left _ member', ?_⟩
          rw [across, Rect.stop, Rect.stop, Rect.start_slice_opposite, Rect.extent_slice_opposite, Rect.start_slice_opposite,
            Rect.extent_slice_opposite]

theorem slice_self (rect : Rect) (axis : SplitAxis) : rect.slice axis (rect.start axis) (rect.extent axis) = rect := by
  cases axis with
  | x => rfl
  | y => rfl

theorem covers_rects (solid : Solid rect) (fits : node.Fits axis rect) (sound : Sound node) : Covers rect (node.rects axis rect) := by
  induction node using Node.ind generalizing axis rect with
  | leaf data size =>
    constructor
    · intro leaf member
      rw [List.mem_singleton.mp member]
      exact Rect.Within.refl fun a => (solid a).2.le
    · exact fun a => ⟨_, List.mem_singleton_self _, rfl⟩
    · exact fun a => ⟨_, List.mem_singleton_self _, rfl⟩
  | branch data size ih =>
    have covers := covers_children solid fits.2 sound.2 sound.1 fun node member rect solid fits sound => ih node member solid fits sound
    rw [fits.1, slice_self] at covers
    exact covers

theorem foldl_eq_best {choose : ℚ → ℚ → ℚ} (either : ∀ a b, choose a b = a ∨ choose a b = b) {values : List ℚ} {best : ℚ}
    (member : best ∈ values) (left : ∀ value ∈ values, choose best value = best)
    (right : ∀ value ∈ values, choose value best = best) : values.tail.foldl choose (values.headD 0) = best := by
  cases values with
  | nil => cases member
  | cons first rest =>
    rw [List.tail_cons, List.headD_cons]
    induction rest generalizing first with
    | nil => exact (List.mem_singleton.mp member).symm
    | cons second rest ih =>
      rw [List.foldl_cons]
      have old : ∀ value ∈ choose first second :: rest, value ∈ first :: second :: rest := by
        intro value inside
        cases inside with
        | head => cases either first second with
          | inl same => rw [same]; exact List.mem_cons_self
          | inr same => rw [same]; exact List.mem_cons_of_mem _ List.mem_cons_self
        | tail _ later => exact List.mem_cons_of_mem _ (List.mem_cons_of_mem _ later)
      apply ih
      · cases member with
        | head => rw [left second (by simp)]; exact List.mem_cons_self
        | tail _ later =>
          cases later with
          | head => rw [right first List.mem_cons_self]; exact List.mem_cons_self
          | tail _ later => exact List.mem_cons_of_mem _ later
      · exact fun value inside => left value (old value inside)
      · exact fun value inside => right value (old value inside)

theorem minimum_eq {values : List ℚ} {least : ℚ} (member : least ∈ values) (bound : ∀ value ∈ values, least ≤ value) :
    minimum values = least :=
  foldl_eq_best min_choice member (fun value inside => min_eq_left (bound value inside))
    fun value inside => min_eq_right (bound value inside)

theorem maximum_eq {values : List ℚ} {most : ℚ} (member : most ∈ values) (bound : ∀ value ∈ values, value ≤ most) :
    maximum values = most :=
  foldl_eq_best max_choice member (fun value inside => max_eq_left (bound value inside))
    fun value inside => max_eq_right (bound value inside)

end Covering

section Bounds

variable {axis : SplitAxis} {rect : Rect} {node placed : SerializedNode R} {desired : DesiredRects}

def Places (desired : DesiredRects) (leaves : List (LeafData R × Rect)) : Prop :=
  ∀ leaf ∈ leaves, ∀ viewId ∈ leaf.1.views.getD [], desired viewId = some leaf.2

theorem map_fst_rects (node : SerializedNode R) (axis : SplitAxis) (rect : Rect) : (node.rects axis rect).map Prod.fst = node.leaves := by
  induction node using Node.ind generalizing axis rect with
  | leaf data size => rfl
  | branch data size ih =>
    rw [Node.rects, Node.leaves_branch]
    generalize rect.start axis = offset
    induction data generalizing offset with
    | nil => rfl
    | cons child rest ih' =>
      rw [rectsFrom, List.map_append, ih child List.mem_cons_self, List.flatMap_cons,
        ih' fun other member => ih other (List.mem_cons_of_mem child member)]

theorem views_of_sound (sound : Sound node) : ∀ data ∈ node.leaves, ∃ viewId views, data.views = some (viewId :: views) := by
  induction node using Node.ind with
  | leaf data size =>
    intro other member
    rw [List.mem_singleton.mp member]
    exact sound
  | branch data size ih =>
    rw [Node.leaves_branch]
    have each := sound.2
    clear sound
    intro leaf member
    induction data with
    | nil => cases member
    | cons child rest ih' =>
      obtain ⟨_, here, later⟩ := each
      rw [List.flatMap_cons] at member
      cases List.mem_append.mp member with
      | inl member => exact ih child List.mem_cons_self here leaf member
      | inr member => exact ih' (fun other member => ih other (List.mem_cons_of_mem child member)) later member

theorem mem_collectDesiredRects (sound : Sound placed) (places : Places desired (placed.rects axis rect))
    (same : node.leaves = placed.leaves) {found : Rect} :
    found ∈ collectDesiredRects desired node ↔ ∃ leaf ∈ placed.rects axis rect, leaf.2 = found := by
  rw [collectDesiredRects_eq, same, ← map_fst_rects placed axis rect, List.mem_flatMap]
  constructor
  · intro ⟨data, listed, inside⟩
    obtain ⟨leaf, member, rfl⟩ := List.mem_map.mp listed
    obtain ⟨viewId, view, wanted⟩ := List.mem_filterMap.mp inside
    rw [places leaf member viewId view] at wanted
    exact ⟨leaf, member, Option.some.inj wanted⟩
  · intro ⟨leaf, member, is⟩
    refine ⟨leaf.1, List.mem_map_of_mem member, ?_⟩
    have listed : leaf.1 ∈ placed.leaves := Node.mem_leaves_of_mem_rects member
    obtain ⟨viewId, views, nonempty⟩ := views_of_sound sound leaf.1 listed
    have inside : viewId ∈ leaf.1.views.getD [] := by rw [nonempty]; exact List.mem_cons_self
    exact List.mem_filterMap.mpr ⟨viewId, inside, is ▸ places leaf member viewId inside⟩

theorem desiredBounds_eq (solid : Solid rect) (fits : placed.Fits axis rect) (sound : Sound placed)
    (places : Places desired (placed.rects axis rect)) (same : node.leaves = placed.leaves) : desiredBounds desired node = some rect := by
  have covers := covers_rects solid fits sound
  have mem : ∀ found, found ∈ collectDesiredRects desired node ↔ ∃ leaf ∈ placed.rects axis rect, leaf.2 = found :=
    fun found => mem_collectDesiredRects sound places same
  unfold desiredBounds
  generalize collectDesiredRects desired node = rects at mem
  have least (a : SplitAxis) : minimum (rects.map fun rect => rect.start a) = rect.start a := by
    apply minimum_eq
    · obtain ⟨leaf, member, is⟩ := covers.start a
      exact List.mem_map.mpr ⟨leaf.2, (mem _).mpr ⟨leaf, member, rfl⟩, is⟩
    · intro value listed
      obtain ⟨found, inside, rfl⟩ := List.mem_map.mp listed
      obtain ⟨leaf, member, rfl⟩ := (mem found).mp inside
      exact (covers.within leaf member).start a
  have most (a : SplitAxis) : maximum (rects.map fun rect => rect.stop a) = rect.stop a := by
    apply maximum_eq
    · obtain ⟨leaf, member, is⟩ := covers.stop a
      exact List.mem_map.mpr ⟨leaf.2, (mem _).mpr ⟨leaf, member, rfl⟩, is⟩
    · intro value listed
      obtain ⟨found, inside, rfl⟩ := List.mem_map.mp listed
      obtain ⟨leaf, member, rfl⟩ := (mem found).mp inside
      exact (covers.within leaf member).stop a
  cases rects with
  | nil =>
    obtain ⟨leaf, member, _⟩ := covers.start axis
    exact absurd ((mem leaf.2).mpr ⟨leaf, member, rfl⟩) List.not_mem_nil
  | cons first rest =>
    have left : minimum ((first :: rest).map Rect.x) = rect.x := least .x
    have top : minimum ((first :: rest).map Rect.y) = rect.y := least .y
    have right : maximum ((first :: rest).map fun rect => rect.x + rect.width) = rect.x + rect.width := most .x
    have bottom : maximum ((first :: rest).map fun rect => rect.y + rect.height) = rect.y + rect.height := most .y
    dsimp only
    rw [left, top, right, bottom, add_sub_cancel_left, add_sub_cancel_left]

end Bounds

mutual

def bare : SerializedNode R → SerializedNode R
  | .leaf data _ => .leaf data 0
  | .branch data _ => .branch (bareAll data) 0

def bareAll : List (SerializedNode R) → List (SerializedNode R)
  | [] => []
  | child :: rest => bare child :: bareAll rest

end

section Applying

variable {axis : SplitAxis} {rect : Rect} {node placed : SerializedNode R} {desired : DesiredRects}

theorem one_le_of_whole {x : ℚ} (whole : Whole x) (pos : 0 < x) : 1 ≤ x := by
  obtain ⟨n, rfl⟩ := whole
  exact_mod_cast (Int.cast_pos.mp pos : 0 < n)

theorem resize_resize (size size' : ℚ) (node : SerializedNode R) : (node.resize size').resize size = node.resize size := by
  cases node with
  | leaf data _ => rfl
  | branch data _ => rfl

theorem resize_size (node : SerializedNode R) : node.resize node.size = node := by
  cases node with
  | leaf data _ => rfl
  | branch data _ => rfl

theorem bare_resize (size : ℚ) (node : SerializedNode R) : bare (node.resize size) = bare node := by
  cases node with
  | leaf data _ => rfl
  | branch data _ => rfl

theorem bareAll_append (first second : List (SerializedNode R)) : bareAll (first ++ second) = bareAll first ++ bareAll second := by
  induction first with
  | nil => rfl
  | cons child rest ih => rw [List.cons_append, bareAll, bareAll, ih, List.cons_append]

theorem leaves_bare (node : SerializedNode R) : (bare node).leaves = node.leaves := by
  induction node using Node.ind with
  | leaf data size => rfl
  | branch data size ih =>
    rw [bare, Node.leaves_branch, Node.leaves_branch]
    induction data with
    | nil => rfl
    | cons child rest ih' =>
      rw [bareAll, List.flatMap_cons, List.flatMap_cons, ih child List.mem_cons_self,
        ih' fun other member => ih other (List.mem_cons_of_mem child member)]

theorem leaves_of_bare (same : bare node = bare placed) : node.leaves = placed.leaves := by
  rw [← leaves_bare node, same, leaves_bare]

theorem applyDesiredSizes_eq (solid : Solid rect) (fits : placed.Fits axis rect) (sound : Sound placed)
    (places : Places desired (placed.rects axis rect)) (same : bare node = bare placed) :
    applyDesiredSizes desired axis node = some (placed.resize node.size) := by
  induction placed using Node.ind generalizing axis rect node with
  | leaf data size =>
    cases node with
    | branch others size' => cases same
    | leaf data' size' =>
      obtain ⟨viewId, views, nonempty⟩ := sound
      cases same
      have all : (viewId :: views).all (fun viewId => (desired viewId).isSome) = true := by
        rw [List.all_eq_true]
        intro viewId inside
        rw [places (data, rect) (List.mem_singleton_self _) viewId (by rw [nonempty]; exact inside)]
        rfl
      rw [applyDesiredSizes, nonempty]
      dsimp only
      rw [if_pos all]
      rfl
  | branch data size ih =>
    cases node with
    | leaf data' size' => cases same
    | branch others size' =>
      have alike : bareAll others = bareAll data := by
        have := same
        rw [bare, bare] at this
        exact (Node.branch.inj this).1
      rw [applyDesiredSizes]
      have step : applyDesiredSizesTo desired axis others = some data := by
        rw [Node.rects] at places
        replace fits := fits.2
        replace sound := sound.2
        clear same
        generalize rect.start axis = offset at fits places
        induction data generalizing offset others with
        | nil =>
          cases others with
          | nil => rfl
          | cons other others => cases alike
        | cons child rest ih' =>
          cases others with
          | nil => cases alike
          | cons other others =>
            rw [bareAll, bareAll] at alike
            obtain ⟨first, later⟩ := List.cons.inj alike
            obtain ⟨nonneg, here, fits⟩ := fits
            obtain ⟨⟨whole, pos⟩, soundHere, sound⟩ := sound
            rw [rectsFrom] at places
            have part := solid.slice axis offset whole pos
            have inside : Places desired (child.rects (oppositeAxis axis) (rect.slice axis offset child.size)) :=
              fun leaf member => places leaf (List.mem_append_left _ member)
            have bounds := desiredBounds_eq part here soundHere inside (leaves_of_bare first)
            have sized := ih child List.mem_cons_self part here soundHere inside first
            have others' := ih' (fun other member => ih other (List.mem_cons_of_mem child member)) others later sound _ fits
              fun leaf member => places leaf (List.mem_append_right _ member)
            have width : max 1 (round child.size) = child.size := by
              rw [round_whole whole]
              exact max_eq_right (one_le_of_whole whole pos)
            rw [applyDesiredSizesTo, bounds, Option.bind_some, sized, Option.bind_some, others', Option.map_some, Rect.extent_slice,
              width, resize_resize, resize_size]
      rw [step]
      rfl

end Applying

/-! ### Trees after the split -/

/-- The tree with `created` put in next to `reference`, along the axis of the split, of some sizes. The first axis is that of the
split, the second that of the tree. -/
inductive Splits (split : SplitAxis) (reference created : LeafData R) : SplitAxis → SerializedNode R → SerializedNode R → Prop
  | beside (before after : List (SerializedNode R)) (size size' former half half' : ℚ) :
    Splits split reference created split (.branch (before ++ .leaf reference former :: after) size)
      (.branch (before ++ .leaf reference half :: .leaf created half' :: after) size')
  | instead (former half half' size : ℚ) :
    Splits split reference created split (.leaf reference former) (.branch [.leaf reference half, .leaf created half'] size)
  | inside (axis : SplitAxis) (before after : List (SerializedNode R)) (child child' : SerializedNode R) (size size' : ℚ)
    (splits : Splits split reference created (oppositeAxis axis) child child') :
    Splits split reference created axis (.branch (before ++ child :: after) size) (.branch (before ++ child' :: after) size')

/-- Two parts of a rectangle that make it up along the axis, and differ by at most one. -/
structure Halves (axis : SplitAxis) (whole reference created : Rect) : Prop where
  first : reference = whole.slice axis (whole.start axis) (reference.extent axis)
  second : created = whole.slice axis (whole.start axis + reference.extent axis) (created.extent axis)
  sum : reference.extent axis + created.extent axis = whole.extent axis
  close : |reference.extent axis - created.extent axis| ≤ 1

section Halving

variable {rect : Rect} {size : ℚ}

theorem half_spec (whole : Whole size) (wide : 2 ≤ size) :
    ∃ half : ℚ, max 1 (⌊size / 2⌋ : ℚ) = half ∧ max 1 (size - half) = size - half ∧ Whole half ∧ 0 < half ∧ 0 < size - half ∧
      |half - (size - half)| ≤ 1 := by
  obtain ⟨n, rfl⟩ := whole
  have lower := Int.floor_le ((n : ℚ) / 2)
  have upper := Int.lt_floor_add_one ((n : ℚ) / 2)
  have one : (1 : ℤ) ≤ ⌊(n : ℚ) / 2⌋ := Int.le_floor.mpr (by push_cast; linarith)
  generalize ⌊(n : ℚ) / 2⌋ = half at lower upper one
  have cast : (1 : ℚ) ≤ half := by exact_mod_cast one
  have near : n - 2 * half < 2 := by
    have : (n : ℚ) - 2 * half < 2 := by linarith
    exact_mod_cast this
  have near' : (n : ℚ) - 2 * half ≤ 1 := by exact_mod_cast Int.lt_add_one_iff.mp near
  refine ⟨half, max_eq_right cast, max_eq_right (by linarith), ⟨half, rfl⟩, by linarith, by linarith, ?_⟩
  rw [abs_le]
  exact ⟨by linarith, by linarith⟩

theorem halves_splitRect (direction : LocalSplitDirection) (whole : Whole (rect.extent direction.axis))
    (wide : 2 ≤ rect.extent direction.axis) :
    Halves direction.axis rect (splitRect rect direction).1 (splitRect rect direction).2 ∧
      (Whole ((splitRect rect direction).1.extent direction.axis) ∧ 0 < (splitRect rect direction).1.extent direction.axis) ∧
      Whole ((splitRect rect direction).2.extent direction.axis) ∧ 0 < (splitRect rect direction).2.extent direction.axis := by
  obtain ⟨half, first, second, wholeHalf, pos, pos', close⟩ := half_spec whole wide
  cases direction with
  | right =>
    unfold splitRect
    dsimp only [LocalSplitDirection.axis, Rect.extent] at *
    rw [first, second]
    exact ⟨⟨rfl, rfl, add_sub_cancel _ _, close⟩, ⟨wholeHalf, pos⟩, whole.sub wholeHalf, pos'⟩
  | below =>
    unfold splitRect
    dsimp only [LocalSplitDirection.axis, Rect.extent] at *
    rw [first, second]
    exact ⟨⟨rfl, rfl, add_sub_cancel _ _, close⟩, ⟨wholeHalf, pos⟩, whole.sub wholeHalf, pos'⟩

end Halving

section Placing

variable {direction : LocalSplitDirection} {reference created : LeafData R} {axis : SplitAxis} {rect : Rect}
  {node node' : SerializedNode R}

/-- What is wanted of the tree after the split, given the one before it. -/
structure Placed (direction : LocalSplitDirection) (reference created : LeafData R) (axis : SplitAxis) (rect : Rect)
    (node placed : SerializedNode R) : Prop where
  fits : placed.Fits axis rect
  sound : Sound placed
  rects : ∃ before after area, node.rects axis rect = before ++ (reference, area) :: after ∧
    Halves direction.axis area (splitRect area direction).1 (splitRect area direction).2 ∧
    placed.rects axis rect =
      before ++ (reference, (splitRect area direction).1) :: (created, (splitRect area direction).2) :: after

theorem fitsFrom_append (axis : SplitAxis) (rect : Rect) (offset : ℚ) (first second : List (SerializedNode R)) :
    FitsFrom axis rect offset (first ++ second) ↔
      FitsFrom axis rect offset first ∧ FitsFrom axis rect (offset + (first.map Node.size).sum) second := by
  induction first generalizing offset with
  | nil => simp [FitsFrom]
  | cons child rest ih => simp [FitsFrom, ih, and_assoc, add_assoc]

theorem soundAll_append (first second : List (SerializedNode R)) : SoundAll (first ++ second) ↔ SoundAll first ∧ SoundAll second := by
  induction first with
  | nil => simp [SoundAll]
  | cons child rest ih => simp [SoundAll, ih, and_assoc]

theorem fits_resize (size : ℚ) (node : SerializedNode R) : (node.resize size).Fits axis rect ↔ node.Fits axis rect := by
  cases node with
  | leaf data _ => rfl
  | branch data _ => rfl

theorem sound_resize (size : ℚ) (node : SerializedNode R) : Sound (node.resize size) ↔ Sound node := by
  cases node with
  | leaf data _ => rfl
  | branch data _ => rfl

theorem rectsFrom_halves {offset former : ℚ} {first second : Rect} (halves : Halves axis (rect.slice axis offset former) first second)
    (after : List (SerializedNode R)) :
    rectsFrom axis rect offset (.leaf reference (first.extent axis) :: .leaf created (second.extent axis) :: after) =
      (reference, first) :: (created, second) :: rectsFrom axis rect (offset + former) after := by
  have one := halves.first
  have two := halves.second
  have sum := halves.sum
  rw [slice_slice, Rect.start_slice] at one two
  rw [Rect.extent_slice] at sum
  rw [rectsFrom, rectsFrom]
  dsimp only [Node.size, Node.rects]
  rw [← one, ← two, add_assoc, sum]
  rfl

theorem fitsFrom_halves {offset former : ℚ} {first second : Rect} (halves : Halves axis (rect.slice axis offset former) first second)
    (pos : 0 < first.extent axis) (pos' : 0 < second.extent axis) {after : List (SerializedNode R)}
    (fits : FitsFrom axis rect (offset + former) after) :
    FitsFrom axis rect offset (.leaf reference (first.extent axis) :: .leaf created (second.extent axis) :: after) := by
  have sum := halves.sum
  rw [Rect.extent_slice] at sum
  refine ⟨pos.le, trivial, pos'.le, trivial, ?_⟩
  dsimp only [Node.size]
  rw [add_assoc, sum]
  exact fits

theorem exists_placed (splits : Splits direction.axis reference created axis node node') (fits : node.Fits axis rect)
    (sound : Sound node) (views : ∃ viewId views, created.views = some (viewId :: views)) (solid : Solid rect)
    (wide : ∀ leaf ∈ node.rects axis rect, leaf.1 = reference → 2 ≤ leaf.2.extent direction.axis) :
    ∃ placed, bare placed = bare node' ∧ Placed direction reference created axis rect node placed := by
  induction splits generalizing rect with
  | beside before after size size' former half half' =>
    obtain ⟨sum, fits⟩ := fits
    rw [fitsFrom_append] at fits
    obtain ⟨fitsBefore, nonneg, _, fitsAfter⟩ := fits
    obtain ⟨soundBefore, ⟨whole, _⟩, soundHere, soundAfter⟩ := (soundAll_append _ _).mp sound.2
    have listed : (Node.branch (before ++ .leaf reference former :: after) size).rects direction.axis rect =
        rectsFrom direction.axis rect (rect.start direction.axis) before ++
          (reference, rect.slice direction.axis (rect.start direction.axis + (before.map Node.size).sum) former) ::
            rectsFrom direction.axis rect (rect.start direction.axis + (before.map Node.size).sum + former) after :=
      rectsFrom_append _ _ _
    have wide := wide (reference, _) (listed ▸ List.mem_append_right _ List.mem_cons_self) rfl
    obtain ⟨halves, first, second⟩ := halves_splitRect direction (by rw [Rect.extent_slice]; exact whole) wide
    refine ⟨.branch (before ++ .leaf reference _ :: .leaf created _ :: after) size, ?_, ?_, ?_, _, _, _, listed, halves,
      (rectsFrom_append _ _ _).trans (congrArg _ (rectsFrom_halves halves after))⟩
    · rw [bare, bare, bareAll_append, bareAll_append]
      rfl
    · rw [Node.Fits, fitsFrom_append]
      refine ⟨?_, fitsBefore, fitsFrom_halves halves first.2 second.2 fitsAfter⟩
      have same := halves.sum
      rw [Rect.extent_slice] at same
      rw [← sum]
      simp only [List.map_append, List.map_cons, List.sum_append, List.sum_cons, Node.size]
      linarith
    · rw [Sound, soundAll_append]
      exact ⟨by simp, soundBefore, first, soundHere, second, views, soundAfter⟩
  | instead former half half' size =>
    have wide := wide (reference, rect) (List.mem_singleton_self _) rfl
    obtain ⟨halves, first, second⟩ := halves_splitRect direction (solid _).1 wide
    have halves' : Halves direction.axis (rect.slice direction.axis (rect.start direction.axis) (rect.extent direction.axis))
        (splitRect rect direction).1 (splitRect rect direction).2 := by rwa [slice_self]
    refine ⟨.branch [.leaf reference ((splitRect rect direction).1.extent direction.axis),
      .leaf created ((splitRect rect direction).2.extent direction.axis)] size, rfl, ?_, ?_, [], [], rect, rfl, halves,
      rectsFrom_halves halves' []⟩
    · have nothing : FitsFrom direction.axis rect (rect.start direction.axis + rect.extent direction.axis) ([] : List (SerializedNode R)) :=
        trivial
      refine ⟨?_, fitsFrom_halves halves' first.2 second.2 nothing⟩
      simp only [List.map_cons, List.map_nil, List.sum_cons, List.sum_nil, Node.size, add_zero]
      exact halves.sum
    · exact ⟨by simp, first, sound, second, views, trivial⟩
  | inside axis before after child child' size size' splits ih =>
    obtain ⟨sum, fits⟩ := fits
    rw [fitsFrom_append] at fits
    obtain ⟨fitsBefore, nonneg, fitsHere, fitsAfter⟩ := fits
    obtain ⟨soundBefore, ⟨whole, pos⟩, soundHere, soundAfter⟩ := (soundAll_append _ _).mp sound.2
    have part := solid.slice axis (rect.start axis + (before.map Node.size).sum) whole pos
    have listed (child : SerializedNode R) : (Node.branch (before ++ child :: after) size).rects axis rect =
        rectsFrom axis rect (rect.start axis) before ++
          (child.rects (oppositeAxis axis) (rect.slice axis (rect.start axis + (before.map Node.size).sum) child.size) ++
            rectsFrom axis rect (rect.start axis + (before.map Node.size).sum + child.size) after) :=
      rectsFrom_append _ _ _
    obtain ⟨placed, same, placedFits, placedSound, first, last, area, was, halves, is⟩ := ih fitsHere soundHere part
      fun leaf member => wide leaf (listed child ▸ List.mem_append_right _ (List.mem_append_left _ member))
    refine ⟨.branch (before ++ placed.resize child.size :: after) size, ?_, ?_, ?_,
      rectsFrom axis rect (rect.start axis) before ++ first,
      last ++ rectsFrom axis rect (rect.start axis + (before.map Node.size).sum + child.size) after, area, ?_, halves, ?_⟩
    · rw [bare, bare, bareAll_append, bareAll_append, bareAll, bareAll, bare_resize, same]
    · rw [Node.Fits, fitsFrom_append, FitsFrom, Node.size_resize, fits_resize, ← sum]
      refine ⟨?_, fitsBefore, nonneg, placedFits, fitsAfter⟩
      simp only [List.map_append, List.map_cons, List.sum_append, List.sum_cons, Node.size_resize]
    · rw [Sound, soundAll_append, SoundAll, Node.size_resize, sound_resize]
      exact ⟨by simp, soundBefore, ⟨whole, pos⟩, placedSound, soundAfter⟩
    · rw [listed, was]
      simp
    · rw [listed, Node.rects_resize, Node.size_resize, is]
      simp

theorem places_desiredRectsAfter {leaves before after : List (LeafData R × Rect)} {area : Rect} {createdPanelId : String}
    (distinct : (leaves.flatMap fun leaf => leaf.1.views.getD []).Nodup)
    (new : createdPanelId ∉ leaves.flatMap fun leaf => leaf.1.views.getD []) (views : created.views = some [createdPanelId])
    (was : leaves = before ++ (reference, area) :: after) :
    Places (desiredRectsAfter (leaves.map fun leaf => (leaf.1.views.getD [], leaf.2)) (reference.views.getD [], area) createdPanelId
        direction)
      (before ++ (reference, (splitRect area direction).1) :: (created, (splitRect area direction).2) :: after) := by
  intro leaf member viewId inside
  unfold desiredRectsAfter
  dsimp only
  have old : ∀ leaf ∈ leaves, ∀ viewId ∈ leaf.1.views.getD [], viewId ≠ createdPanelId := by
    intro leaf member viewId inside same
    exact new (List.mem_flatMap.mpr ⟨leaf, member, same ▸ inside⟩)
  have former {leaf : LeafData R × Rect} (member : leaf ∈ leaves) {viewId : String} (inside : viewId ∈ leaf.1.views.getD []) :=
    @former_apply (fun _ => none) (leaves.map fun leaf => (leaf.1.views.getD [], leaf.2)) (by rw [List.flatMap_map]; exact distinct)
      (leaf.1.views.getD [], leaf.2) (List.mem_map_of_mem member) viewId inside
  have other : leaf ∈ before ∨ leaf ∈ after → Function.update (DesiredRects.set ((leaves.map fun leaf =>
      (leaf.1.views.getD [], leaf.2)).foldl (fun desired leaf => DesiredRects.set desired leaf.2 leaf.1) fun _ => none)
      (splitRect area direction).1 (reference.views.getD [])) createdPanelId (some (splitRect area direction).2) viewId = some leaf.2 := by
    intro either
    have member : leaf ∈ leaves := by
      rw [was]
      cases either with
      | inl member => exact List.mem_append_left _ member
      | inr member => exact List.mem_append_right _ (List.mem_cons_of_mem _ member)
    have apart : viewId ∉ reference.views.getD [] := by
      intro again
      rw [was, List.flatMap_append, List.flatMap_cons, List.nodup_append, List.nodup_append] at distinct
      cases either with
      | inl member =>
        exact distinct.2.2 viewId (List.mem_flatMap.mpr ⟨leaf, member, inside⟩) viewId (List.mem_append_left _ again) rfl
      | inr member =>
        exact distinct.2.1.2.2 viewId again viewId (List.mem_flatMap.mpr ⟨leaf, member, inside⟩) rfl
    rw [Function.update_of_ne (old leaf member viewId inside), DesiredRects.set_apply, if_neg apart]
    exact former member inside
  cases List.mem_append.mp member with
  | inl member => exact other (.inl member)
  | inr member =>
    cases member with
    | head =>
      have member : (reference, area) ∈ leaves := was ▸ List.mem_append_right _ List.mem_cons_self
      rw [Function.update_of_ne (old _ member viewId inside), DesiredRects.set_apply, if_pos inside]
    | tail _ member =>
      cases member with
      | head =>
        rw [views] at inside
        rw [List.mem_singleton.mp inside, Function.update_self]
      | tail _ member => exact other (.inr member)

end Placing

/-- A grid with whole sizes, in which each view is once. -/
structure WellSized (grid : Grid R) (root : SerializedNode R) (width height : ℚ) : Prop where
  rooted : grid.root = some root
  wide : grid.width = some width
  tall : grid.height = some height
  solid : Solid ⟨0, 0, width, height⟩
  fits : root.Fits (axisFromOrientation grid.orientation) ⟨0, 0, width, height⟩
  sound : Sound root
  distinct : (root.leaves.flatMap fun data => data.views.getD []).Nodup

end LocalSplit

section Main

variable {grid nextGrid : Grid R} {root split nextRoot : SerializedNode R} {width height : ℚ} {reference created : LeafData R}
  {referencePanelId createdPanelId : String} {direction : LocalSplitDirection}

theorem localSplitLayout_tiles (sized : WellSized grid root width height) (panel : referencePanelId ∈ reference.views.getD [])
    (new : createdPanelId ∉ root.leaves.flatMap fun data => data.views.getD []) (views : created.views = some [createdPanelId])
    (wide : ∀ leaf ∈ root.rects (axisFromOrientation grid.orientation) ⟨0, 0, width, height⟩, leaf.1 = reference →
      2 ≤ leaf.2.extent direction.axis)
    (splits : Splits direction.axis reference created (axisFromOrientation grid.orientation) root split)
    (next : nextGrid.root = some nextRoot) (alike : bare nextRoot = bare split) (same : nextGrid.orientation = grid.orientation) :
    ∃ result, localSplitLayout ⟨some grid⟩ ⟨some nextGrid⟩ referencePanelId createdPanelId direction =
        some ⟨some { nextGrid with root := some result }⟩ ∧
      bare result = bare nextRoot ∧ result.Fits (axisFromOrientation grid.orientation) ⟨0, 0, width, height⟩ ∧
      ∃ before after area first second,
        root.rects (axisFromOrientation grid.orientation) ⟨0, 0, width, height⟩ = before ++ (reference, area) :: after ∧
        result.rects (axisFromOrientation grid.orientation) ⟨0, 0, width, height⟩ =
          before ++ (reference, first) :: (created, second) :: after ∧
        Halves direction.axis area first second := by
  obtain ⟨placed, shape, fits, sound, before, after, area, was, halves, is⟩ :=
    exists_placed splits sized.fits sized.sound ⟨createdPanelId, [], views⟩ sized.solid wide
  have distinct := sized.distinct
  rw [← map_fst_rects root (axisFromOrientation grid.orientation) ⟨0, 0, width, height⟩, List.flatMap_map] at distinct new
  have places := @places_desiredRectsAfter R direction reference created _ before after area createdPanelId distinct new views was
  rw [← is] at places
  have applied := applyDesiredSizes_eq sized.solid fits sound places (alike.trans shape.symm)
  refine ⟨placed.resize nextRoot.size, ?_, ?_, (fits_resize _ _).mpr fits, before, after, area, _, _, was, ?_, halves⟩
  · have found : (collectLeafRects ⟨0, 0, width, height⟩ (axisFromOrientation grid.orientation) root).find?
        (fun leaf => referencePanelId ∈ leaf.1) = some (reference.views.getD [], area) := by
      rw [collectLeafRects_eq sized.fits, was, List.map_append, List.map_cons, List.find?_append]
      rw [was, List.flatMap_append, List.nodup_append] at distinct
      have elsewhere : (before.map fun leaf => (leaf.1.views.getD [], leaf.2)).find? (fun leaf => referencePanelId ∈ leaf.1) = none := by
        rw [List.find?_eq_none]
        intro _ listed inside
        obtain ⟨leaf, member, rfl⟩ := List.mem_map.mp listed
        exact distinct.2.2 referencePanelId (List.mem_flatMap.mpr ⟨leaf, member, of_decide_eq_true inside⟩) referencePanelId
          (List.mem_append_left _ panel) rfl
      rw [elsewhere, Option.none_or]
      exact List.find?_cons_of_pos (decide_eq_true panel)
    have positive (axis : SplitAxis) : positiveNumber (some (Rect.extent ⟨0, 0, width, height⟩ axis)) = _ :=
      Option.filter_some_pos (decide_eq_true (sized.solid axis).2)
    have wide : positiveNumber grid.width = some width := sized.wide ▸ positive .x
    have tall : positiveNumber grid.height = some height := sized.tall ▸ positive .y
    unfold localSplitLayout
    dsimp only
    rw [sized.rooted, wide, tall]
    dsimp only
    rw [found, next]
    dsimp only
    rw [same, collectLeafRects_eq sized.fits, applied]
    rfl
  · rw [bare_resize, shape, alike]
  · rw [Node.rects_resize, is]

end Main

private def pane (viewId : String) (size : ℚ) : SerializedNode Unit := .leaf ⟨some [viewId], ()⟩ size

private def above (upper : SerializedNode Unit) (size : ℚ) : SerializedNode Unit :=
  .branch ([] ++ .branch ([] ++ upper :: [pane "b" 299]) size :: [pane "c" 199]) 600

private def stacked : Grid Unit := ⟨some (above (pane "a" 301) 201), some 600, some 400, some "VERTICAL", false⟩

/-- The pane `a` is split downwards. -/
private def stackedAfter : Grid Unit :=
  { stacked with root := some (above (.branch [pane "a" 0, pane "n" 7] 5) 1) }

private theorem wellSized_stacked : WellSized stacked (above (pane "a" 301) 201) 600 400 where
  rooted := rfl
  wide := rfl
  tall := rfl
  solid := by
    intro axis
    cases axis with
    | x => exact ⟨⟨600, by norm_num [Rect.extent]⟩, by norm_num [Rect.extent]⟩
    | y => exact ⟨⟨400, by norm_num [Rect.extent]⟩, by norm_num [Rect.extent]⟩
  fits := by
    norm_num [above, pane, Node.Fits, FitsFrom, Node.size, stacked, axisFromOrientation, Rect.extent, Rect.slice, oppositeAxis]
  sound := by
    refine ⟨by simp, ⟨⟨201, rfl⟩, by norm_num [Node.size]⟩, ⟨by simp, ⟨⟨301, rfl⟩, by norm_num [Node.size, pane]⟩, ⟨_, _, rfl⟩,
      ⟨⟨299, rfl⟩, by norm_num [Node.size, pane]⟩, ⟨_, _, rfl⟩, trivial⟩, ⟨⟨199, rfl⟩, by norm_num [Node.size, pane]⟩, ⟨_, _, rfl⟩, trivial⟩
  distinct := by decide

theorem localSplitLayout_stacked :
    ∃ result, localSplitLayout ⟨some stacked⟩ ⟨some stackedAfter⟩ "a" "n" .below = some ⟨some { stackedAfter with root := some result }⟩ ∧
      bare result = bare (above (.branch [pane "a" 0, pane "n" 7] 5) 1) ∧
      result.Fits (axisFromOrientation stacked.orientation) ⟨0, 0, 600, 400⟩ ∧
      ∃ before after area first second,
        (above (pane "a" 301) 201).rects (axisFromOrientation stacked.orientation) ⟨0, 0, 600, 400⟩ =
          before ++ (⟨some ["a"], ()⟩, area) :: after ∧
        result.rects (axisFromOrientation stacked.orientation) ⟨0, 0, 600, 400⟩ =
          before ++ (⟨some ["a"], ()⟩, first) :: (⟨some ["n"], ()⟩, second) :: after ∧
        Halves (LocalSplitDirection.axis .below) area first second :=
  localSplitLayout_tiles wellSized_stacked (by decide) (by decide) rfl
    (by
      simp [above, pane, Node.rects, rectsFrom, stacked, axisFromOrientation, oppositeAxis, Rect.slice, Rect.extent, Node.size,
        LocalSplitDirection.axis]
      norm_num)
    (.inside _ [] [pane "c" 199] _ _ 600 600 (.inside _ [] [pane "b" 299] _ _ 201 1 (.instead 301 0 7 5))) rfl rfl rfl

end VibeLink.Layout
