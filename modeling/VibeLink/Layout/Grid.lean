import Mathlib.Algebra.BigOperators.Group.List.Basic
import Mathlib.Algebra.Order.Ring.Rat
import Mathlib.Tactic.Linarith

/-! Grids of panes: leaves with data, under branches that part their extent among their children, along one axis and then the
other. -/

namespace VibeLink.Layout

inductive SplitAxis
  | x | y
  deriving DecidableEq

def oppositeAxis : SplitAxis → SplitAxis
  | .x => .y
  | .y => .x

structure Rect where
  x : ℚ
  y : ℚ
  width : ℚ
  height : ℚ
  deriving DecidableEq

def Rect.start (rect : Rect) : SplitAxis → ℚ
  | .x => rect.x
  | .y => rect.y

def Rect.extent (rect : Rect) : SplitAxis → ℚ
  | .x => rect.width
  | .y => rect.height

/-- The part of a rectangle that starts at `offset` and is `size` long. -/
def Rect.slice (rect : Rect) : SplitAxis → ℚ → ℚ → Rect
  | .x, offset, size => { rect with x := offset, width := size }
  | .y, offset, size => { rect with y := offset, height := size }

/-- `SerializedNode` -/
inductive Node (D : Type)
  | leaf (data : D) (size : ℚ)
  | branch (data : List (Node D)) (size : ℚ)

variable {D : Type}

def Node.size : Node D → ℚ
  | leaf _ size => size
  | branch _ size => size

def Node.resize (size : ℚ) : Node D → Node D
  | leaf data _ => leaf data size
  | branch data _ => branch data size

mutual

def Node.leaves : Node D → List D
  | .leaf data _ => [data]
  | .branch data _ => leavesOf data

def leavesOf : List (Node D) → List D
  | [] => []
  | child :: rest => child.leaves ++ leavesOf rest

end

mutual

def Node.rects (axis : SplitAxis) (rect : Rect) : Node D → List (D × Rect)
  | .leaf data _ => [(data, rect)]
  | .branch data _ => rectsFrom axis rect (rect.start axis) data

/-- The rectangles of children, of which the first starts at `offset`. -/
def rectsFrom (axis : SplitAxis) (rect : Rect) (offset : ℚ) : List (Node D) → List (D × Rect)
  | [] => []
  | child :: rest =>
    child.rects (oppositeAxis axis) (rect.slice axis offset child.size) ++ rectsFrom axis rect (offset + child.size) rest

end

mutual

def Node.Inhabited : Node D → Prop
  | .leaf _ _ => True
  | .branch data _ => data ≠ [] ∧ InhabitedAll data

def InhabitedAll : List (Node D) → Prop
  | [] => True
  | child :: rest => child.Inhabited ∧ InhabitedAll rest

end

mutual

/-- The sizes of the children of each branch are those of parts that make up its extent. -/
def Node.Fits (axis : SplitAxis) (rect : Rect) : Node D → Prop
  | .leaf _ _ => True
  | .branch data _ => (data.map Node.size).sum = rect.extent axis ∧ FitsFrom axis rect (rect.start axis) data

def FitsFrom (axis : SplitAxis) (rect : Rect) (offset : ℚ) : List (Node D) → Prop
  | [] => True
  | child :: rest => 0 ≤ child.size ∧ child.Fits (oppositeAxis axis) (rect.slice axis offset child.size) ∧
    FitsFrom axis rect (offset + child.size) rest

end

theorem Node.ind {motive : Node D → Prop} (leaf : ∀ data size, motive (.leaf data size))
    (branch : ∀ data size, (∀ child ∈ data, motive child) → motive (.branch data size)) (node : Node D) : motive node :=
  @Node.rec D motive (fun nodes => ∀ child ∈ nodes, motive child) leaf branch (fun _ member => by cases member)
    (fun child rest here there other member => by
      cases member with
      | head => exact here
      | tail _ later => exact there other later) node

section Nodes

variable {axis : SplitAxis} {rect : Rect} {node : Node D}

@[simp] theorem oppositeAxis_opposite (axis : SplitAxis) : oppositeAxis (oppositeAxis axis) = axis := by
  cases axis with
  | x => rfl
  | y => rfl

theorem oppositeAxis_ne (axis : SplitAxis) : oppositeAxis axis ≠ axis := by
  cases axis with
  | x => exact fun same => by cases same
  | y => exact fun same => by cases same

@[simp] theorem Node.size_resize (size : ℚ) (node : Node D) : (node.resize size).size = size := by
  cases node with
  | leaf data _ => rfl
  | branch data _ => rfl

@[simp] theorem Node.leaves_resize (size : ℚ) (node : Node D) : (node.resize size).leaves = node.leaves := by
  cases node with
  | leaf data _ => rfl
  | branch data _ => rfl

@[simp] theorem Node.rects_resize (size : ℚ) (node : Node D) : (node.resize size).rects axis rect = node.rects axis rect := by
  cases node with
  | leaf data _ => rfl
  | branch data _ => rfl

theorem leavesOf_eq (nodes : List (Node D)) : leavesOf nodes = nodes.flatMap Node.leaves := by
  induction nodes with
  | nil => rw [leavesOf, List.flatMap_nil]
  | cons child rest ih => rw [leavesOf, ih, List.flatMap_cons]

theorem Node.leaves_branch (data : List (Node D)) (size : ℚ) : (branch data size).leaves = data.flatMap leaves := by
  rw [leaves, leavesOf_eq]

theorem Node.leaves_sublist {child : Node D} {data : List (Node D)} (member : child ∈ data) (size : ℚ) :
    child.leaves.Sublist (branch data size).leaves := by
  obtain ⟨before, after, parts⟩ := List.append_of_mem member
  rw [leaves_branch, parts, List.flatMap_append, List.flatMap_cons]
  exact (List.sublist_append_left _ _).trans (List.sublist_append_right _ _)

theorem inhabitedAll_iff (nodes : List (Node D)) : InhabitedAll nodes ↔ ∀ node ∈ nodes, node.Inhabited := by
  induction nodes with
  | nil => simp [InhabitedAll]
  | cons child rest ih => simp [InhabitedAll, ih]

theorem rectsFrom_append (offset : ℚ) (before after : List (Node D)) : rectsFrom axis rect offset (before ++ after) =
    rectsFrom axis rect offset before ++ rectsFrom axis rect (offset + (before.map Node.size).sum) after := by
  induction before generalizing offset with
  | nil => simp [rectsFrom]
  | cons child rest ih =>
    rw [List.cons_append, rectsFrom, ih, rectsFrom, List.append_assoc, List.map_cons, List.sum_cons, add_assoc]

theorem Node.mem_leaves_of_mem_rects {leaf : D × Rect} : leaf ∈ node.rects axis rect → leaf.1 ∈ node.leaves := by
  induction node using Node.ind generalizing axis rect with
  | leaf data size =>
    intro member
    cases List.mem_singleton.mp member
    exact List.mem_singleton_self data
  | branch data size ih =>
    rw [leaves_branch, rects]
    generalize rect.start axis = offset
    induction data generalizing offset with
    | nil => exact fun member => by cases member
    | cons child rest ih' =>
      rw [rectsFrom, List.mem_append, List.flatMap_cons, List.mem_append]
      exact Or.imp (ih child List.mem_cons_self) (ih' (fun other member => ih other (List.mem_cons_of_mem child member)) _)

end Nodes

end VibeLink.Layout
