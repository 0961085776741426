import VibeLink.Layout.ConnectedResize
import Mathlib.Algebra.Order.BigOperators.Group.List
import Mathlib.Tactic.FieldSimp

/-! What a drag makes of the sizes of one branch. -/

namespace VibeLink.Layout

/-! ### Rounding -/

def Whole (x : ℚ) : Prop := ∃ n : ℤ, x = n

section Rounding

variable {x y : ℚ}

theorem whole_round (x : ℚ) : Whole (round x) := ⟨⌊x + 1 / 2⌋, rfl⟩

theorem Whole.add (first : Whole x) (second : Whole y) : Whole (x + y) := by
  obtain ⟨m, rfl⟩ := first
  obtain ⟨n, rfl⟩ := second
  exact ⟨m + n, by push_cast; rfl⟩

theorem Whole.sub (first : Whole x) (second : Whole y) : Whole (x - y) := by
  obtain ⟨m, rfl⟩ := first
  obtain ⟨n, rfl⟩ := second
  exact ⟨m - n, by push_cast; rfl⟩

theorem Whole.max (first : Whole x) (second : Whole y) : Whole (max x y) := by
  cases max_choice x y with
  | inl is => exact is.symm ▸ first
  | inr is => exact is.symm ▸ second

theorem whole_natCast (n : ℕ) : Whole (n : ℚ) := ⟨n, by push_cast; rfl⟩

theorem whole_sum {l : List ℚ} (whole : ∀ x ∈ l, Whole x) : Whole l.sum := by
  induction l with
  | nil => exact ⟨0, by simp⟩
  | cons x l ih =>
    rw [List.sum_cons]
    exact (whole x List.mem_cons_self).add (ih fun y member => whole y (List.mem_cons_of_mem x member))

theorem round_add (whole : Whole x) (y : ℚ) : round (x + y) = x + round y := by
  obtain ⟨n, rfl⟩ := whole
  unfold round
  rw [add_assoc, Int.floor_intCast_add]
  push_cast
  rfl

theorem round_whole (whole : Whole x) : round x = x := by
  have zero : round 0 = 0 := by
    unfold round
    norm_num
  have := round_add whole 0
  rw [add_zero, zero, add_zero] at this
  exact this

theorem round_mono (less : x ≤ y) : round x ≤ round y := by
  unfold round
  exact_mod_cast Int.floor_le_floor (by linarith)

theorem map_round_whole {l : List ℚ} (whole : ∀ x ∈ l, Whole x) : l.map round = l :=
  (List.map_congr_left fun x member => round_whole (whole x member)).trans (List.map_id l)

theorem round_pos (large : 1 ≤ |x|) : (0 < x ∧ 1 ≤ round x) ∨ (x < 0 ∧ round x ≤ -1) := by
  cases le_abs'.mp large with
  | inl negative =>
    refine .inr ⟨by linarith, ?_⟩
    have one : round (-1) = -1 := round_whole ⟨-1, by norm_num⟩
    exact one ▸ round_mono negative
  | inr positive =>
    refine .inl ⟨by linarith, ?_⟩
    have one : round 1 = 1 := round_whole ⟨1, by norm_num⟩
    exact one ▸ round_mono positive

end Rounding

/-! ### Making up for the rounding -/

section Settle

variable {minSize difference : ℚ} {sizes : List ℚ}

theorem settle_cons (minSize difference size : ℚ) (rest : List ℚ) (apart : difference ≠ 0) :
    settle minSize difference (size :: rest) =
      (size + if 0 < difference then difference else max difference (minSize - size)) ::
        settle minSize (difference - if 0 < difference then difference else max difference (minSize - size)) rest := by
  rw [settle, if_neg apart]

theorem settle_zero (minSize : ℚ) (sizes : List ℚ) : settle minSize 0 sizes = sizes := by
  cases sizes with
  | nil => rfl
  | cons size rest => rw [settle, if_pos rfl]

theorem length_settle (minSize difference : ℚ) (sizes : List ℚ) : (settle minSize difference sizes).length = sizes.length := by
  induction sizes generalizing difference with
  | nil => rfl
  | cons size rest ih =>
    by_cases same : difference = 0
    · rw [same, settle_zero]
    · rw [settle_cons minSize difference size rest same, List.length_cons, List.length_cons, ih]

theorem settle_ge (minSize difference : ℚ) (sizes : List ℚ) :
    List.Forall₂ (fun size after => min size minSize ≤ after) sizes (settle minSize difference sizes) := by
  induction sizes generalizing difference with
  | nil => exact .nil
  | cons size rest ih =>
    by_cases same : difference = 0
    · rw [same, settle_zero]
      exact List.forall₂_same.mpr fun _ _ => min_le_left _ _
    · rw [settle_cons minSize difference size rest same]
      refine .cons ?_ (ih _)
      split
      · exact (min_le_left _ _).trans (by linarith)
      · have := le_max_right difference (minSize - size)
        exact (min_le_right _ _).trans (by linarith)

theorem sum_settle_of_pos (positive : 0 ≤ difference) (some_child : sizes ≠ []) :
    (settle minSize difference sizes).sum = sizes.sum + difference := by
  cases sizes with
  | nil => exact absurd rfl some_child
  | cons size rest =>
    by_cases same : difference = 0
    · rw [same, settle_zero, add_zero]
    · rw [settle_cons minSize difference size rest same, if_pos (lt_of_le_of_ne positive (Ne.symm same)), sub_self, settle_zero,
        List.sum_cons, List.sum_cons]
      ring

theorem sum_settle_iff_of_neg (negative : difference ≤ 0) : (settle minSize difference sizes).sum = sizes.sum + difference ↔
    ∃ first, first <+: sizes ∧ -difference ≤ (first.map fun size => size - minSize).sum := by
  induction sizes generalizing difference with
  | nil =>
    rw [settle, List.sum_nil, zero_add]
    constructor
    · intro same
      exact ⟨[], List.nil_prefix, by rw [← same]; simp⟩
    · intro ⟨first, is, enough⟩
      rw [List.prefix_nil.mp is, List.map_nil, List.sum_nil] at enough
      linarith
  | cons size rest ih =>
    by_cases same : difference = 0
    · rw [same, settle_zero, add_zero]
      exact iff_of_true rfl ⟨[], List.nil_prefix, by simp⟩
    · have less : difference < 0 := lt_of_le_of_ne negative same
      rw [settle_cons minSize difference size rest same, if_neg (not_lt.mpr negative), List.sum_cons, List.sum_cons]
      have left : difference - max difference (minSize - size) ≤ 0 := by
        have := le_max_left difference (minSize - size)
        linarith
      have step := ih left
      have sums : (size + max difference (minSize - size) +
          (settle minSize (difference - max difference (minSize - size)) rest).sum = size + rest.sum + difference) ↔
          (settle minSize (difference - max difference (minSize - size)) rest).sum =
            rest.sum + (difference - max difference (minSize - size)) := by
        constructor <;> intro same <;> linarith
      rw [sums, step]
      constructor
      · intro ⟨first, is, enough⟩
        by_cases all : minSize - size ≤ difference
        · refine ⟨[size], by simp, ?_⟩
          simp only [List.map_cons, List.map_nil, List.sum_cons, List.sum_nil]
          linarith
        · refine ⟨size :: first, List.cons_prefix_cons.mpr ⟨rfl, is⟩, ?_⟩
          rw [max_eq_right (le_of_not_ge all)] at enough
          rw [List.map_cons, List.sum_cons]
          linarith
      · intro ⟨first, is, enough⟩
        cases first with
        | nil =>
          rw [List.map_nil, List.sum_nil] at enough
          linarith
        | cons other first =>
          have ⟨same, tail⟩ := List.cons_prefix_cons.mp is
          cases same
          rw [List.map_cons, List.sum_cons] at enough
          by_cases all : minSize - size ≤ difference
          · rw [max_eq_left all, sub_self]
            exact ⟨[], List.nil_prefix, by simp⟩
          · rw [max_eq_right (le_of_not_ge all)]
            exact ⟨first, tail, by linarith⟩

end Settle

/-! ### Parting the delta -/

section Share

variable {minSize delta : ℚ} {trailing : List ℚ}

theorem getElem?_foldl_set (value : Nat → ℚ) (active : List Nat) (sizes : List ℚ) (i : Nat) :
    (active.foldl (fun sizes index => sizes.set index (value index)) sizes)[i]? =
      if i ∈ active then sizes[i]?.map fun _ => value i else sizes[i]? := by
  induction active generalizing sizes with
  | nil => simp
  | cons index active ih =>
    rw [List.foldl_cons, ih]
    by_cases later : i ∈ active
    · rw [if_pos later, if_pos (List.mem_cons_of_mem index later), List.getElem?_set]
      split
      · rename_i same
        split
        · rename_i short
          rw [← same, List.getElem?_eq_getElem short]
          rfl
        · rename_i long
          rw [← same, List.getElem?_eq_none (not_lt.mp long)]
      · rfl
    · rw [if_neg later, List.getElem?_set]
      by_cases same : index = i
      · subst same
        have here : index ∈ index :: active := List.mem_cons_self
        rw [if_pos rfl, if_pos here]
        split
        · rename_i short
          rw [List.getElem?_eq_getElem short]
          rfl
        · rename_i long
          rw [List.getElem?_eq_none (not_lt.mp long)]
          rfl
      · rw [if_neg same, if_neg]
        intro member
        cases member with
        | head => exact same rfl
        | tail _ there => exact later there

theorem length_foldl_set (value : Nat → ℚ) (active : List Nat) (sizes : List ℚ) :
    (active.foldl (fun sizes index => sizes.set index (value index)) sizes).length = sizes.length := by
  induction active generalizing sizes with
  | nil => rfl
  | cons index active ih => rw [List.foldl_cons, ih, List.length_set]

theorem length_shareOut (minSize : ℚ) (trailing : List ℚ) (fuel : Nat) (remainingDelta : ℚ) (active : List Nat) (sizes : List ℚ) :
    (shareOut minSize trailing fuel remainingDelta active sizes).length = sizes.length := by
  induction fuel generalizing remainingDelta active sizes with
  | zero => rfl
  | succ fuel ih =>
    rw [shareOut]
    split
    · rfl
    · dsimp only
      split
      · exact length_foldl_set _ active sizes
      · rw [ih, length_foldl_set]

theorem shareOut_of_neg (negative : delta < 0) (fuel : Nat) (some_child : trailing ≠ []) :
    shareOut minSize trailing (fuel + 1) delta (List.range trailing.length) trailing =
      trailing.map fun size => size - delta / trailing.length := by
  have active : (List.range trailing.length).isEmpty = false := by
    simpa using some_child
  have share : delta / ((List.range trailing.length).length : ℚ) ≤ 0 := by
    rw [List.length_range]
    exact div_nonpos_of_nonpos_of_nonneg negative.le (Nat.cast_nonneg _)
  rw [shareOut, active]
  simp only [Bool.false_eq_true, if_false]
  have limited : (List.range trailing.length).filter (fun index =>
      decide (0 < delta / ((List.range trailing.length).length : ℚ)) &&
        decide (trailing.getD index 0 - delta / ((List.range trailing.length).length : ℚ) < minSize)) = [] := by
    apply List.filter_eq_nil_iff.mpr
    intro index _
    rw [decide_eq_false (not_lt.mpr share)]
    exact Bool.false_ne_true
  rw [limited]
  simp only [List.isEmpty_nil, if_true]
  apply List.ext_getElem?
  intro i
  rw [getElem?_foldl_set, List.getElem?_map, List.length_range]
  split
  · rename_i short
    have short := List.mem_range.mp short
    rw [List.getElem?_eq_getElem short, Option.map_some, Option.map_some, List.getD_eq_getElem?_getD, List.getElem?_eq_getElem short]
    rfl
  · rename_i long
    rw [List.getElem?_eq_none (not_lt.mp fun short => long (List.mem_range.mpr short))]
    rfl

/-- The children that have their size are not smaller than the minimum. -/
def Settled (minSize : ℚ) (active : List Nat) (sizes : List ℚ) : Prop :=
  ∀ i size, sizes[i]? = some size → i ∉ active → minSize ≤ size

theorem sum_filter_lt {share : ℚ} {limited : List Nat} (below : ∀ index ∈ limited, trailing.getD index 0 - minSize < share)
    (some_index : limited ≠ []) : (limited.map fun index => trailing.getD index 0 - minSize).sum < limited.length * share := by
  induction limited with
  | nil => exact absurd rfl some_index
  | cons index limited ih =>
    have first := below index List.mem_cons_self
    rw [List.map_cons, List.sum_cons, List.length_cons]
    push_cast
    by_cases last : limited = []
    · rw [last]
      simp only [List.map_nil, List.sum_nil, List.length_nil, Nat.cast_zero]
      linarith
    · have := ih (fun other member => below other (List.mem_cons_of_mem index member)) last
      linarith

theorem length_filter_not {p : Nat → Bool} (l : List Nat) :
    (l.filter fun index => index ∉ l.filter p).length + (l.filter p).length = l.length := by
  have same : l.filter (fun index => index ∉ l.filter p) = l.filter fun index => !p index := by
    apply List.filter_congr
    intro index member
    simp [member]
  rw [same, Nat.add_comm]
  have := List.length_eq_countP_add_countP p (l := l)
  rw [List.countP_eq_length_filter, List.countP_eq_length_filter] at this
  simpa using this.symm

theorem shareOut_ge {fuel : Nat} {remainingDelta : ℚ} {active : List Nat} {sizes : List ℚ} (enough : active.length < fuel)
    (positive : active ≠ [] → 0 < remainingDelta) (settled : Settled minSize active sizes) :
    ∀ size ∈ shareOut minSize trailing fuel remainingDelta active sizes, minSize ≤ size := by
  induction fuel generalizing remainingDelta active sizes with
  | zero => exact absurd enough (Nat.not_lt_zero _)
  | succ fuel ih =>
    rw [shareOut]
    split
    · rename_i none
      intro size member
      obtain ⟨i, at_i⟩ := List.getElem?_of_mem member
      rw [List.isEmpty_iff.mp none] at settled
      exact settled i size at_i List.not_mem_nil
    · rename_i some_active
      have some_active : active ≠ [] := fun none => some_active (List.isEmpty_iff.mpr none)
      have positive := positive some_active
      have count : (0 : ℚ) < active.length := Nat.cast_pos.mpr (List.length_pos_iff.mpr some_active)
      have share : 0 < remainingDelta / active.length := div_pos positive count
      dsimp only
      generalize limited_eq : active.filter (fun index => decide (0 < remainingDelta / (active.length : ℚ)) &&
        decide (trailing.getD index 0 - remainingDelta / (active.length : ℚ) < minSize)) = limited
      split
      · rename_i none
        have none := List.isEmpty_iff.mp none
        intro size member
        obtain ⟨i, at_i⟩ := List.getElem?_of_mem member
        rw [getElem?_foldl_set] at at_i
        split at at_i
        · rename_i inside
          obtain ⟨_, _, same⟩ := Option.map_eq_some_iff.mp at_i
          rw [none] at limited_eq
          have free := List.filter_eq_nil_iff.mp limited_eq i inside
          rw [decide_eq_true share, Bool.true_and, decide_eq_true_eq] at free
          exact same ▸ not_lt.mp free
        · rename_i outside
          exact settled i size at_i outside
      · rename_i some_limited
        have some_limited : limited ≠ [] := fun none => some_limited (List.isEmpty_iff.mpr none)
        have lengths : (active.filter fun index => index ∉ limited).length + limited.length = active.length := by
          rw [← limited_eq]
          exact length_filter_not active
        have fewer := List.length_pos_iff.mpr some_limited
        refine ih (by omega) (fun rest => ?_) ?_
        · have below : ∀ index ∈ limited, trailing.getD index 0 - minSize < remainingDelta / active.length := by
            intro index member
            rw [← limited_eq] at member
            have is := (List.mem_filter.mp member).2
            rw [decide_eq_true share, Bool.true_and, decide_eq_true_eq] at is
            linarith
          have less := sum_filter_lt below some_limited
          have part : (limited.length : ℚ) * (remainingDelta / active.length) ≤ remainingDelta := by
            rw [mul_div_assoc', div_le_iff₀ count]
            have : (limited.length : ℚ) ≤ active.length := Nat.cast_le.mpr (by omega)
            nlinarith
          linarith
        · intro i size at_i outside
          rw [getElem?_foldl_set] at at_i
          split at at_i
          · obtain ⟨_, _, same⟩ := Option.map_eq_some_iff.mp at_i
            exact same.le
          · rename_i free
            refine settled i size at_i fun inside => outside ?_
            exact List.mem_filter.mpr ⟨inside, decide_eq_true free⟩

end Share

/-! ### The sizes of a branch -/

/-- The children after the boundary have room for what it moves: those together that are larger than the minimum, less what
those that are smaller lack. When they grow, only what rounding gives them too much has to be taken back, from the last on. -/
def Room (minSize delta : ℚ) (trailing : List ℚ) : Prop :=
  if 0 < delta then round delta ≤ (trailing.map fun size => size - minSize).sum
  else ∃ last, last <:+ trailing ∧ trailing.length * round (-(delta / trailing.length)) + round delta ≤
    (last.map fun size => size + round (-(delta / trailing.length)) - minSize).sum

section Branch

variable {minSize delta : ℚ} {before trailing : List ℚ} {size : ℚ}

/-- The sizes of the children after the boundary, before the rounding is made up for. -/
def shared (minSize delta : ℚ) (trailing : List ℚ) : List ℚ :=
  (shareOut minSize trailing (trailing.length + 1) delta (List.range trailing.length) trailing).map round

theorem length_shared (minSize delta : ℚ) (trailing : List ℚ) : (shared minSize delta trailing).length = trailing.length := by
  rw [shared, List.length_map, length_shareOut]

theorem connectedBranchSizes_eq (whole_min : Whole minSize) (whole : ∀ other ∈ before ++ size :: trailing, Whole other)
    (lower : minSize - size ≤ delta) (some_child : trailing ≠ []) :
    connectedBranchSizes (before ++ size :: trailing) before.length delta minSize =
      before ++ (size + round delta) ::
        (settle minSize (trailing.sum - round delta - (shared minSize delta trailing).sum) (shared minSize delta trailing).reverse).reverse := by
  have whole_size : Whole size := whole size (by simp)
  have whole_before : ∀ other ∈ before, Whole other := fun other member => whole other (List.mem_append_left _ member)
  have here : (before ++ size :: trailing).getD before.length 0 = size := by simp
  have drop : (before ++ size :: trailing).drop (before.length + 1) = trailing := by simp
  have larger : max minSize (round (size + delta)) = size + round delta := by
    rw [round_add whole_size]
    refine max_eq_right ?_
    have := round_mono (show minSize ≤ size + delta by linarith)
    rwa [round_whole whole_min, round_add whole_size] at this
  have lead : (((before ++ size :: trailing).take (before.length + 1)).set before.length (size + round delta)).map round =
      before ++ [size + round delta] := by
    have cut : (before ++ size :: trailing).take (before.length + 1) = before ++ [size] := by
      rw [← List.singleton_append, ← List.append_assoc]
      exact List.take_left' (by simp)
    rw [cut, List.set_append_right _ _ (Nat.le_refl _), Nat.sub_self, List.set_cons_zero, List.map_append, map_round_whole whole_before, List.map_singleton, round_whole (whole_size.add (whole_round delta))]
  unfold connectedBranchSizes
  rw [here, larger, drop]
  dsimp only
  rw [lead]
  have nonempty : trailing.isEmpty = false := by simpa using some_child
  rw [nonempty]
  show _ ++ (settle minSize (round (before ++ size :: trailing).sum - (_ ++ shared minSize delta trailing).sum)
    (shared minSize delta trailing).reverse).reverse = _
  rw [round_whole (whole_sum whole), List.append_assoc, List.singleton_append]
  simp only [List.sum_append, List.sum_cons, List.sum_nil]
  have same : before.sum + (size + trailing.sum) - (before.sum + (size + round delta + 0) + (shared minSize delta trailing).sum) =
      trailing.sum - round delta - (shared minSize delta trailing).sum := by ring
  rw [same]

theorem shared_of_neg (negative : delta < 0) (some_child : trailing ≠ []) (whole : ∀ other ∈ trailing, Whole other) :
    shared minSize delta trailing = trailing.map fun size => size + round (-(delta / trailing.length)) := by
  rw [shared, shareOut_of_neg negative trailing.length some_child, List.map_map]
  refine List.map_congr_left fun size member => ?_
  rw [Function.comp_apply, sub_eq_add_neg, round_add (whole size member)]

theorem shared_ge (whole_min : Whole minSize) (positive : 0 < delta) : ∀ size ∈ shared minSize delta trailing, minSize ≤ size := by
  intro size member
  obtain ⟨exact_size, there, same⟩ := List.mem_map.mp member
  have start : Settled minSize (List.range trailing.length) trailing := by
    intro i size at_i outside
    have short := (List.getElem?_eq_some_iff.mp at_i).1
    exact absurd (List.mem_range.mpr short) outside
  have large := shareOut_ge (by rw [List.length_range]; exact Nat.lt_succ_self _) (fun _ => positive) start exact_size there
  have := round_mono large
  rwa [round_whole whole_min, same] at this

theorem round_share_nonneg (negative : delta < 0) (n : Nat) : 0 ≤ round (-(delta / n)) := by
  have zero : round 0 = 0 := round_whole ⟨0, by norm_num⟩
  have share : delta / (n : ℚ) ≤ 0 := div_nonpos_of_nonpos_of_nonneg negative.le (Nat.cast_nonneg n)
  exact zero ▸ round_mono (by linarith)

theorem sum_map_add (l : List ℚ) (x : ℚ) : (l.map fun y => y + x).sum = l.sum + l.length * x := by
  induction l with
  | nil => simp
  | cons y l ih =>
    rw [List.map_cons, List.sum_cons, ih, List.sum_cons, List.length_cons]
    push_cast
    ring

theorem sum_map_sub (l : List ℚ) (x : ℚ) : (l.map fun y => y - x).sum = l.sum - l.length * x := by
  have := sum_map_add l (-x)
  simp only [← sub_eq_add_neg] at this
  rw [this]
  ring

theorem sum_settle_shared_iff (whole_min : Whole minSize) (large : 1 ≤ |delta|) (some_child : trailing ≠ [])
    (whole : ∀ other ∈ trailing, Whole other) :
    (settle minSize (trailing.sum - round delta - (shared minSize delta trailing).sum) (shared minSize delta trailing).reverse).sum =
      trailing.sum - round delta ↔ Room minSize delta trailing := by
  have some_shared : (shared minSize delta trailing).reverse ≠ [] := by
    intro none
    have := length_shared minSize delta trailing
    rw [List.reverse_eq_nil_iff.mp none] at this
    exact some_child (List.length_eq_zero_iff.mp this.symm)
  have total : (shared minSize delta trailing).sum + (trailing.sum - round delta - (shared minSize delta trailing).sum) =
      trailing.sum - round delta := by ring
  have reversed : (shared minSize delta trailing).reverse.sum = (shared minSize delta trailing).sum := List.sum_reverse _
  unfold Room
  cases round_pos large with
  | inl positive =>
    rw [if_pos positive.1]
    have above := @shared_ge minSize delta trailing whole_min positive.1
    have room : trailing.length * minSize ≤ (shared minSize delta trailing).sum := by
      have := List.card_nsmul_le_sum (shared minSize delta trailing) minSize above
      rwa [length_shared, nsmul_eq_mul] at this
    rw [sum_map_sub]
    by_cases missing : 0 ≤ trailing.sum - round delta - (shared minSize delta trailing).sum
    · rw [sum_settle_of_pos missing some_shared, reversed]
      exact iff_of_true total (by linarith)
    · have too_much := le_of_not_ge missing
      have step := @sum_settle_iff_of_neg minSize _ (shared minSize delta trailing).reverse too_much
      rw [reversed, total] at step
      rw [step]
      constructor
      · intro ⟨first, is, enough⟩
        have part := List.Sublist.sum_le_sum (is.sublist.map fun size => size - minSize) fun x member => by
          obtain ⟨size, there, same⟩ := List.mem_map.mp member
          have := above size (List.mem_reverse.mp there)
          linarith
        rw [sum_map_sub (shared minSize delta trailing).reverse, reversed, List.length_reverse, length_shared] at part
        linarith
      · intro enough
        refine ⟨(shared minSize delta trailing).reverse, List.prefix_rfl, ?_⟩
        rw [sum_map_sub, reversed, List.length_reverse, length_shared]
        linarith
  | inr negative =>
    rw [if_neg (not_lt.mpr negative.1.le)]
    have grown := @shared_of_neg minSize _ _ negative.1 some_child whole
    have sum : (shared minSize delta trailing).sum = trailing.sum + trailing.length * round (-(delta / trailing.length)) := by
      rw [grown, sum_map_add]
    by_cases missing : 0 ≤ trailing.sum - round delta - (shared minSize delta trailing).sum
    · rw [sum_settle_of_pos missing some_shared, reversed]
      refine iff_of_true total ⟨[], List.nil_suffix, ?_⟩
      rw [List.map_nil, List.sum_nil]
      linarith
    · have step := @sum_settle_iff_of_neg minSize _ (shared minSize delta trailing).reverse (le_of_not_ge missing)
      rw [reversed, total] at step
      rw [step]
      constructor
      · intro ⟨first, ⟨rest, parts⟩, enough⟩
        rw [grown] at parts
        have parts := (List.reverse_eq_iff.mp parts.symm)
        rw [List.reverse_append] at parts
        obtain ⟨init, last, whole_list, _, same⟩ := List.map_eq_append_iff.mp parts
        refine ⟨last, ⟨init, whole_list.symm⟩, ?_⟩
        rw [sum] at enough
        have flipped : (first.map fun size => size - minSize).sum =
            (last.map fun size => size + round (-(delta / trailing.length)) - minSize).sum := by
          rw [← List.sum_reverse, ← List.map_reverse, ← same, List.map_map]
          rfl
        linarith
      · intro ⟨last, ⟨init, parts⟩, enough⟩
        refine ⟨(last.map fun size => size + round (-(delta / trailing.length))).reverse, ?_, ?_⟩
        · rw [grown]
          refine List.reverse_prefix.mpr ⟨init.map fun size => size + round (-(delta / trailing.length)), ?_⟩
          rw [← List.map_append, parts]
        · rw [List.map_reverse, List.sum_reverse, List.map_map, sum]
          refine le_trans ?_ enough
          linarith

theorem length_connectedBranchSizes (sizes : List ℚ) (index : Nat) (delta minSize : ℚ) :
    (connectedBranchSizes sizes index delta minSize).length = sizes.length := by
  unfold connectedBranchSizes
  dsimp only
  split
  · exact List.length_set
  · rw [List.length_append, List.length_map, List.length_set, List.length_reverse, length_settle, List.length_reverse, List.length_map,
      length_shareOut, ← List.length_append, List.take_append_drop]

theorem getElem?_connectedBranchSizes {sizes : List ℚ} {k index : Nat} (within : k ≤ index) (short : index + 1 < sizes.length) :
    (connectedBranchSizes sizes index delta minSize)[k]? =
      (if k = index then some (max minSize (round (sizes.getD index 0 + delta))) else sizes[k]?).map round := by
  have some_child : ¬(sizes.drop (index + 1)).isEmpty = true := by
    intro none
    have := List.drop_eq_nil_iff.mp (List.isEmpty_iff.mp none)
    omega
  unfold connectedBranchSizes
  dsimp only
  rw [if_neg some_child, List.getElem?_append_left (by
    rw [List.length_map, List.length_set, List.length_take]
    omega), List.getElem?_map, List.getElem?_set]
  congr 1
  by_cases same : index = k
  · rw [if_pos same, if_pos same.symm, if_pos (by
      rw [List.length_take]
      omega)]
  · rw [if_neg same, if_neg (Ne.symm same), List.getElem?_take, if_pos (Nat.lt_succ_of_le within)]

theorem take_connectedBranchSizes {sizes : List ℚ} (whole_min : Whole minSize) (whole : ∀ other ∈ sizes, Whole other) (index : Nat)
    (delta : ℚ) : (connectedBranchSizes sizes index delta minSize).take (index + 1) =
      (sizes.take (index + 1)).set index (max minSize (round (sizes.getD index 0 + delta))) := by
  unfold connectedBranchSizes
  dsimp only
  have leading : ((sizes.take (index + 1)).set index (max minSize (round (sizes.getD index 0 + delta)))).map round =
      (sizes.take (index + 1)).set index (max minSize (round (sizes.getD index 0 + delta))) := by
    apply map_round_whole
    intro other member
    cases List.mem_or_eq_of_mem_set member with
    | inl old => exact whole other (List.mem_of_mem_take old)
    | inr new => exact new ▸ whole_min.max (whole_round _)
  split
  · rw [List.take_set]
  · rename_i some_child
    have long : index + 1 < sizes.length := by
      by_contra short
      exact some_child (List.isEmpty_iff.mpr (List.drop_eq_nil_of_le (Nat.le_of_not_lt short)))
    rw [leading]
    exact List.take_left' (by rw [List.length_set, List.length_take, Nat.min_eq_left long.le])

theorem forall₂_settle_shared (whole_min : Whole minSize) (large : 1 ≤ |delta|) (some_child : trailing ≠ [])
    (whole : ∀ other ∈ trailing, Whole other) (difference : ℚ) :
    List.Forall₂ (fun old new => min old minSize ≤ new) trailing
      (settle minSize difference (shared minSize delta trailing).reverse).reverse := by
  have settled := List.forall₂_reverse_iff.mpr (settle_ge minSize difference (shared minSize delta trailing).reverse)
  rw [List.reverse_reverse] at settled
  cases round_pos large with
  | inl positive =>
    have above := @shared_ge minSize delta trailing whole_min positive.1
    have same := (length_shared minSize delta trailing).symm.trans settled.length_eq
    refine List.forall₂_iff_get.mpr ⟨same, fun i short short' => ?_⟩
    have is := (List.forall₂_iff_get.mp settled).2 i ((length_shared minSize delta trailing).symm ▸ short) short'
    rw [min_eq_right (above _ (List.get_mem _ _))] at is
    exact (min_le_right _ _).trans is
  | inr negative =>
    rw [@shared_of_neg minSize _ _ negative.1 some_child whole] at settled ⊢
    rw [List.forall₂_map_left_iff] at settled
    refine settled.imp fun old new is => le_trans (min_le_min_right minSize ?_) is
    have := round_share_nonneg negative.1 trailing.length
    linarith

theorem forall₂_connectedBranchSizes (whole_min : Whole minSize) (whole : ∀ other ∈ before ++ size :: trailing, Whole other)
    (lower : minSize - size ≤ delta) (large : 1 ≤ |delta|) (some_child : trailing ≠ []) :
    List.Forall₂ (fun old new => min old minSize ≤ new) (before ++ size :: trailing)
      (connectedBranchSizes (before ++ size :: trailing) before.length delta minSize) := by
  rw [connectedBranchSizes_eq whole_min whole lower some_child]
  have whole_size : Whole size := whole size (by simp)
  have same : List.Forall₂ (fun old new => min old minSize ≤ new) before before := List.forall₂_same.mpr fun _ _ => min_le_left _ _
  refine List.rel_append same (.cons ?_ (forall₂_settle_shared whole_min large some_child (fun other member => whole other (by simp [member])) _))
  have := round_mono (show minSize ≤ size + delta by linarith)
  rw [round_whole whole_min, round_add whole_size] at this
  exact (min_le_right _ _).trans this

theorem sum_connectedBranchSizes_iff (whole_min : Whole minSize) (whole : ∀ other ∈ before ++ size :: trailing, Whole other)
    (lower : minSize - size ≤ delta) (large : 1 ≤ |delta|) (some_child : trailing ≠ []) :
    (connectedBranchSizes (before ++ size :: trailing) before.length delta minSize).sum = (before ++ size :: trailing).sum ↔
      Room minSize delta trailing := by
  rw [connectedBranchSizes_eq whole_min whole lower some_child,
    ← sum_settle_shared_iff whole_min large some_child fun other member => whole other (by simp [member])]
  simp only [List.sum_append, List.sum_cons, List.sum_reverse]
  constructor <;> intro same <;> linarith

end Branch

end VibeLink.Layout
