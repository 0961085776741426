import VibeLink.Layout.ConnectedResize
import VibeLink.Layout.SingleResize
import Mathlib.Data.List.Induction

/-! How the leaves of a grid cover it: those that a line crosses lie on it one after another. -/

namespace VibeLink.Layout

/-! ### Rectangles -/

section Rectangles

variable {rect inner outer : Rect} {axis : SplitAxis} {offset size : ℚ}

def Rect.stop (rect : Rect) (axis : SplitAxis) : ℚ := rect.start axis + rect.extent axis

@[simp] theorem Rect.start_slice (rect : Rect) (axis : SplitAxis) (offset size : ℚ) : (rect.slice axis offset size).start axis = offset := by
  cases axis with
  | x => rfl
  | y => rfl

@[simp] theorem Rect.extent_slice (rect : Rect) (axis : SplitAxis) (offset size : ℚ) : (rect.slice axis offset size).extent axis = size := by
  cases axis with
  | x => rfl
  | y => rfl

@[simp] theorem Rect.start_slice_opposite (rect : Rect) (axis : SplitAxis) (offset size : ℚ) :
    (rect.slice axis offset size).start (oppositeAxis axis) = rect.start (oppositeAxis axis) := by
  cases axis with
  | x => rfl
  | y => rfl

@[simp] theorem Rect.extent_slice_opposite (rect : Rect) (axis : SplitAxis) (offset size : ℚ) :
    (rect.slice axis offset size).extent (oppositeAxis axis) = rect.extent (oppositeAxis axis) := by
  cases axis with
  | x => rfl
  | y => rfl

theorem forall_axis {motive : SplitAxis → Prop} (axis : SplitAxis) : (∀ a, motive a) ↔ motive axis ∧ motive (oppositeAxis axis) := by
  constructor
  · exact fun all => ⟨all axis, all (oppositeAxis axis)⟩
  · intro ⟨one, other⟩ a
    cases axis with
    | x => cases a with
      | x => exact one
      | y => exact other
    | y => cases a with
      | x => exact other
      | y => exact one

/-- A rectangle is in another, and no less than nothing. -/
structure Rect.Within (inner outer : Rect) : Prop where
  start : ∀ axis, outer.start axis ≤ inner.start axis
  extent : ∀ axis, 0 ≤ inner.extent axis
  stop : ∀ axis, inner.stop axis ≤ outer.stop axis

theorem Rect.Within.refl (nonneg : ∀ axis, 0 ≤ rect.extent axis) : rect.Within rect :=
  ⟨fun _ => le_rfl, nonneg, fun _ => le_rfl⟩

theorem Rect.Within.trans (first : inner.Within rect) (second : rect.Within outer) : inner.Within outer :=
  ⟨fun axis => (second.start axis).trans (first.start axis), first.extent, fun axis => (first.stop axis).trans (second.stop axis)⟩

theorem Rect.within_slice (nonneg : ∀ axis, 0 ≤ rect.extent axis) (size_nonneg : 0 ≤ size) (start : rect.start axis ≤ offset)
    (stop : offset + size ≤ rect.stop axis) : (rect.slice axis offset size).Within rect := by
  constructor
  · rw [forall_axis axis, start_slice, start_slice_opposite]
    exact ⟨start, le_rfl⟩
  · rw [forall_axis axis, extent_slice, extent_slice_opposite]
    exact ⟨size_nonneg, nonneg _⟩
  · unfold Rect.stop at stop ⊢
    rw [forall_axis axis, start_slice, start_slice_opposite, extent_slice, extent_slice_opposite]
    exact ⟨stop, le_rfl⟩

end Rectangles

variable {R : Type}

/-! ### The leaves of a grid -/

/-! ### Lines -/

end VibeLink.Layout

/-! Coordinates that are apart, and which of them is nearest to a number. -/

namespace VibeLink.Layout

/-! ### Coordinates that are apart -/

/-! ### The nearest -/

end VibeLink.Layout
