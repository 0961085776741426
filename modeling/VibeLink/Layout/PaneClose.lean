import VibeLink.Layout.Grid
import Mathlib.Algebra.Order.BigOperators.Group.List
import Mathlib.Data.List.Nodup
import Mathlib.Data.List.Count
import Mathlib.Data.List.Flatten
import Mathlib.Data.List.Induction

/-! Closing a pane, of which the extent goes to one sibling (`src/layout/paneCloseLayout.ts`). -/

namespace VibeLink.Layout.PaneClose

structure TabGroup where
  panelIds : Option (List String)

/-- What a leaf holds, strings and arrays only where the source finds such. -/
structure GroupState where
  id : Option String
  views : List String
  activeView : Option String
  tabGroups : Option (List TabGroup)

abbrev MutableNode : Type := Node GroupState

structure RemovalResult where
  node : Option MutableNode
  removed : Bool
  removedGroupId : Option String
  fallbackGroupId : Option String
  removedLeaf : Bool

structure SerializedDockview where
  root : MutableNode
  maximizedNode : Option String
  panels : List String
  activeGroup : Option String

def closeTab (panelId : String) (tabGroup : TabGroup) : List TabGroup :=
  match tabGroup.panelIds with
  | none => [tabGroup]
  | some panelIds =>
    let panelIds := panelIds.filter (· ≠ panelId)
    if panelIds = [] then [] else [⟨some panelIds⟩]

def removePanelFromTabGroups (group : GroupState) (panelId : String) : GroupState :=
  { group with tabGroups := group.tabGroups.map fun tabGroups => tabGroups.flatMap (closeTab panelId) }

mutual

def firstLeafGroupId : MutableNode → Option String
  | .leaf data _ => data.id
  | .branch data _ => firstLeafGroupIdOf data

def firstLeafGroupIdOf : List MutableNode → Option String
  | [] => none
  | child :: rest => match firstLeafGroupId child with
    | some groupId => if groupId = "" then firstLeafGroupIdOf rest else some groupId
    | none => firstLeafGroupIdOf rest

end

def removePanelFromLeaf (panelId : String) (group : GroupState) (size : ℚ) : RemovalResult :=
  if panelId ∉ group.views then ⟨some (.leaf group size), false, none, none, false⟩
  else if 1 < group.views.length then
    let remainingViews := group.views.filter (· ≠ panelId)
    let activeView := if group.activeView = some panelId then remainingViews.head? else group.activeView
    let group' := removePanelFromTabGroups { group with views := remainingViews, activeView } panelId
    ⟨some (.leaf group' size), true, group.id, group.id, false⟩
  else ⟨none, true, group.id, none, true⟩

/-- A child from which the panel is removed, with its place. -/
structure Removal where
  index : Nat
  child : MutableNode
  result : RemovalResult

def Removal.later (removal : Removal) : Removal := { removal with index := removal.index + 1 }

def closeChild (isRoot : Bool) (data : List MutableNode) (size : ℚ) (removal : Removal) : RemovalResult :=
  match removal.result.node with
  | some child => { removal.result with node := some (.branch (data.set removal.index child) size) }
  | none =>
    let data := data.eraseIdx removal.index
    match data with
    | [] => { removal.result with node := none }
    | first :: others =>
      let fallbackIndex := removal.index - 1
      let fallbackGroupId := ((first :: others)[fallbackIndex]?).bind firstLeafGroupId
      if !isRoot && others.isEmpty then { removal.result with node := some (first.resize size), fallbackGroupId }
      else { removal.result with
        node := some (.branch ((first :: others).modify fallbackIndex fun sibling =>
          sibling.resize (sibling.size + removal.child.size)) size)
        fallbackGroupId }

mutual

def removePanelFromNode (panelId : String) (isRoot : Bool) : MutableNode → RemovalResult
  | .leaf data size => removePanelFromLeaf panelId data size
  | .branch data size => match removePanelFromChildren panelId data with
    | none => ⟨some (.branch data size), false, none, none, false⟩
    | some removal => closeChild isRoot data size removal

def removePanelFromChildren (panelId : String) : List MutableNode → Option Removal
  | [] => none
  | child :: rest =>
    let result := removePanelFromNode panelId false child
    if result.removed then some ⟨0, child, result⟩ else (removePanelFromChildren panelId rest).map Removal.later

end

def removePanelPreservingLayout (layout : SerializedDockview) (panelId : String) : Option SerializedDockview :=
  let result := removePanelFromNode panelId true layout.root
  if !result.removed then none
  else result.node.map fun root =>
    { root
      maximizedNode := if result.removedLeaf then none else layout.maximizedNode
      panels := layout.panels.filter (· ≠ panelId)
      activeGroup := if layout.activeGroup.isSome ∧ layout.activeGroup = result.removedGroupId then
          result.fallbackGroupId <|> firstLeafGroupId root
        else layout.activeGroup }

/-! ### What is promised -/

def panes (node : MutableNode) : List String := node.leaves.flatMap GroupState.views

/-- Two panes are in different children of a branch, which stand along an axis. -/
inductive Parted : SplitAxis → MutableNode → String → String → SplitAxis → Prop
  | here {axis : SplitAxis} {data : List MutableNode} {size : ℚ} {i j : Nat} {one other : MutableNode} {first second : String}
    (differ : i ≠ j) (child : data[i]? = some one) (child' : data[j]? = some other) (inside : first ∈ panes one)
    (inside' : second ∈ panes other) : Parted axis (.branch data size) first second axis
  | within {axis along : SplitAxis} {data : List MutableNode} {size : ℚ} {child : MutableNode} {first second : String}
    (member : child ∈ data) (parted : Parted (oppositeAxis axis) child first second along) :
    Parted axis (.branch data size) first second along

/-- The sibling that gets the extent of a closed leaf, and whether it takes the place of their branch. -/
structure Absorber where
  node : MutableNode
  collapses : Bool

mutual

def absorber (panelId : String) (isRoot : Bool) : MutableNode → Option Absorber
  | .leaf _ _ => none
  | .branch data _ => absorberAmong panelId isRoot [] data

/-- `passed`: the children before -/
def absorberAmong (panelId : String) (isRoot : Bool) (passed : List MutableNode) : List MutableNode → Option Absorber
  | [] => none
  | child :: rest =>
    if panelId ∈ panes child then
      match absorber panelId false child with
      | some absorber => some absorber
      | none => (passed.getLast? <|> rest.head?).map fun node => ⟨node, !isRoot && (passed ++ rest).length == 1⟩
    else absorberAmong panelId isRoot (passed ++ [child]) rest

end

def Crowded (node : MutableNode) : Prop := 2 ≤ node.leaves.countP fun group => group.views ≠ []

def groupIds (node : MutableNode) : List (Option String) := node.leaves.map GroupState.id

def Named (node : MutableNode) : Prop := ∀ id ∈ groupIds node, id ≠ none ∧ id ≠ some ""

structure WellFormed (layout : SerializedDockview) : Prop where
  inhabited : layout.root.Inhabited
  panes : (panes layout.root).Nodup
  named : Named layout.root
  active : layout.activeGroup ∈ groupIds layout.root

/-- `axis` and `rect`: those of the grid -/
structure Preserved (axis : SplitAxis) (rect : Rect) (panelId : String) (absorbing : Option Absorber)
    (layout next : SerializedDockview) : Prop where
  panes : PaneClose.panes next.root = (PaneClose.panes layout.root).filter (· ≠ panelId)
  rects : ∀ leaf ∈ layout.root.rects axis rect, ∀ pane ∈ leaf.1.views, pane ≠ panelId →
    (∀ absorber, absorbing = some absorber → pane ∉ PaneClose.panes absorber.node) → leaf ∈ next.root.rects axis rect
  arranged : ∀ absorber, absorbing = some absorber → ∀ first ∈ PaneClose.panes absorber.node, ∀ second ∈ PaneClose.panes absorber.node,
    ∀ along, Parted axis layout.root first second along ↔ Parted axis next.root first second along
  active : next.activeGroup ∈ groupIds next.root

/-- `none` when there is no other pane. -/
def Holds (axis : SplitAxis) (rect : Rect) (layout : SerializedDockview) (panelId : String) : Prop :=
  match removePanelPreservingLayout layout panelId with
  | none => panes layout.root = [panelId]
  | some next => Preserved axis rect panelId (absorber panelId true layout.root) layout next

/-! ### What a removal does -/

/-- The leaf of the pane, or a branch with nothing else. -/
inductive Vanishes (panelId : String) (closed : GroupState) : MutableNode → Prop
  | leaf (only : closed.views = [panelId]) (size : ℚ) : Vanishes panelId closed (.leaf closed size)
  | branch {child : MutableNode} (gone : Vanishes panelId closed child) (size : ℚ) : Vanishes panelId closed (.branch [child] size)

/-- What remains of a node, and what gets the extent. -/
inductive Closes (panelId : String) (closed : GroupState) : Bool → MutableNode → MutableNode → Absorber → Prop
  | previous {isRoot : Bool} {before after : List MutableNode} {sibling child : MutableNode} (gone : Vanishes panelId closed child)
    (stays : isRoot ∨ before ++ after ≠ []) (size : ℚ) :
    Closes panelId closed isRoot (.branch (before ++ sibling :: child :: after) size)
      (.branch (before ++ sibling.resize (sibling.size + child.size) :: after) size) ⟨sibling, false⟩
  | next {isRoot : Bool} {after : List MutableNode} {sibling child : MutableNode} (gone : Vanishes panelId closed child)
    (stays : isRoot ∨ after ≠ []) (size : ℚ) :
    Closes panelId closed isRoot (.branch (child :: sibling :: after) size)
      (.branch (sibling.resize (sibling.size + child.size) :: after) size) ⟨sibling, false⟩
  | collapse {data : List MutableNode} {sibling child : MutableNode} (gone : Vanishes panelId closed child)
    (two : data = [sibling, child] ∨ data = [child, sibling]) (size : ℚ) :
    Closes panelId closed false (.branch data size) (sibling.resize size) ⟨sibling, true⟩
  | within {isRoot : Bool} {before after : List MutableNode} {child child' : MutableNode} {absorbing : Absorber}
    (closes : Closes panelId closed false child child' absorbing) (size : ℚ) :
    Closes panelId closed isRoot (.branch (before ++ child :: after) size) (.branch (before ++ child' :: after) size) absorbing

/-- What is returned for a node with the pane. -/
inductive Outcome (panelId : String) (closed : GroupState) (isRoot : Bool) (node : MutableNode) : RemovalResult → Prop
  | gone (vanishes : Vanishes panelId closed node) (alone : absorber panelId isRoot node = none) :
    Outcome panelId closed isRoot node ⟨none, true, closed.id, none, true⟩
  | kept {node' : MutableNode} {absorbing : Absorber} (closes : Closes panelId closed isRoot node node' absorbing)
    (absorbs : absorber panelId isRoot node = some absorbing) :
    Outcome panelId closed isRoot node ⟨some node', true, closed.id, firstLeafGroupId absorbing.node, true⟩

section Removal

variable {panelId : String} {isRoot : Bool}

theorem panes_branch (data : List MutableNode) (size : ℚ) : panes (.branch data size) = data.flatMap panes := by
  unfold panes
  rw [Node.leaves_branch, List.flatMap_assoc]

theorem panes_resize (size : ℚ) (node : MutableNode) : panes (node.resize size) = panes node := by
  unfold panes
  rw [Node.leaves_resize]

theorem panes_subset {node other : MutableNode} (sub : node.leaves ⊆ other.leaves) : panes node ⊆ panes other := by
  intro pane member
  obtain ⟨group, there, views⟩ := List.mem_flatMap.mp member
  exact List.mem_flatMap.mpr ⟨group, sub there, views⟩

theorem removePanelFromChildren_none {data : List MutableNode}
    (absent : ∀ child ∈ data, (removePanelFromNode panelId false child).removed = false) :
    removePanelFromChildren panelId data = none := by
  induction data with
  | nil => rfl
  | cons child rest ih =>
    rw [removePanelFromChildren, absent child List.mem_cons_self, ih fun other member => absent other (List.mem_cons_of_mem child member)]
    rfl

theorem removed_eq_false {node : MutableNode} (absent : panelId ∉ panes node) :
    (removePanelFromNode panelId isRoot node).removed = false := by
  induction node using Node.ind generalizing isRoot with
  | leaf data size =>
    have absent : panelId ∉ data.views := fun member => absent (List.mem_flatMap.mpr ⟨data, List.mem_singleton_self data, member⟩)
    rw [removePanelFromNode, removePanelFromLeaf, if_pos absent]
  | branch data size ih =>
    rw [panes_branch] at absent
    rw [removePanelFromNode, removePanelFromChildren_none fun child member =>
      ih child member fun inside => absent (List.mem_flatMap.mpr ⟨child, member, inside⟩)]

theorem removePanelFromChildren_eq {before after : List MutableNode} {child : MutableNode}
    (absent : ∀ other ∈ before, panelId ∉ panes other) (removed : (removePanelFromNode panelId false child).removed) :
    removePanelFromChildren panelId (before ++ child :: after) =
      some ⟨before.length, child, removePanelFromNode panelId false child⟩ := by
  induction before with
  | nil => rw [List.nil_append, removePanelFromChildren, if_pos removed, List.length_nil]
  | cons first rest ih =>
    rw [List.cons_append, removePanelFromChildren, removed_eq_false (absent first List.mem_cons_self),
      ih fun other member => absent other (List.mem_cons_of_mem first member)]
    rfl

theorem absorberAmong_eq {passed before after : List MutableNode} {child : MutableNode}
    (absent : ∀ other ∈ before, panelId ∉ panes other) (inside : panelId ∈ panes child) :
    absorberAmong panelId isRoot passed (before ++ child :: after) = (absorber panelId false child <|>
      ((passed ++ before).getLast? <|> after.head?).map fun node => ⟨node, !isRoot && (passed ++ before ++ after).length == 1⟩) := by
  induction before generalizing passed with
  | nil =>
    rw [List.nil_append, absorberAmong, if_pos inside, List.append_nil]
    cases absorber panelId false child with
    | none => rfl
    | some absorbing => rfl
  | cons first rest ih =>
    rw [List.cons_append, absorberAmong, if_neg (absent first List.mem_cons_self),
      ih fun other member => absent other (List.mem_cons_of_mem first member)]
    simp

theorem modify_append {α : Type} (f : α → α) (before after : List α) (a : α) :
    (before ++ a :: after).modify before.length f = before ++ f a :: after := by
  induction before with
  | nil => rfl
  | cons b before ih =>
    rw [List.cons_append, List.length_cons, List.modify_succ_cons, ih]
    rfl

theorem getElem?_append_cons {α : Type} (before after : List α) (a : α) : (before ++ a :: after)[before.length]? = some a := by
  simp

theorem closeChild_left {before left : List MutableNode} {data : List MutableNode} {child sibling : MutableNode} {closed : GroupState} {index : Nat}
    (size : ℚ) (erased : data.eraseIdx index = before ++ sibling :: left) (place : index - 1 = before.length) :
    closeChild isRoot data size ⟨index, child, ⟨none, true, closed.id, none, true⟩⟩ =
      ⟨some (if !isRoot && (before ++ left).isEmpty then sibling.resize size
        else .branch (before ++ sibling.resize (sibling.size + child.size) :: left) size),
        true, closed.id, firstLeafGroupId sibling, true⟩ := by
  unfold closeChild
  dsimp only
  rw [erased, place]
  cases before with
  | nil =>
    cases left with
    | nil =>
      cases isRoot with
      | true => rfl
      | false => rfl
    | cons next left =>
      simp only [List.nil_append, List.isEmpty_cons, Bool.and_false]
      rfl
  | cons first before =>
    have rest : (before ++ sibling :: left).isEmpty = false := by simp
    have rest' : (first :: before ++ left).isEmpty = false := rfl
    rw [rest', Bool.and_false, List.cons_append]
    dsimp only
    rw [rest, Bool.and_false, ← List.cons_append, getElem?_append_cons, modify_append]
    rfl

theorem stays_of_not {rest : List MutableNode} (stays : ¬(isRoot = false ∧ rest = [])) :
    (isRoot = true ∨ rest ≠ []) ∧ (!isRoot && rest.isEmpty) = false ∧ (!isRoot && rest.length + 1 == 1) = false := by
  cases isRoot with
  | true => exact ⟨.inl rfl, rfl, rfl⟩
  | false =>
    cases rest with
    | nil => exact absurd ⟨rfl, rfl⟩ stays
    | cons first rest => exact ⟨.inr (List.cons_ne_nil first rest), rfl, by simp⟩

theorem closeChild_gone {before after : List MutableNode} {child : MutableNode} {closed : GroupState} (size : ℚ)
    (vanishes : Vanishes panelId closed child) (alone : absorber panelId false child = none)
    (absent : ∀ other ∈ before, panelId ∉ panes other) (inside : panelId ∈ panes child) :
    Outcome panelId closed isRoot (.branch (before ++ child :: after) size) (closeChild isRoot (before ++ child :: after) size
      ⟨before.length, child, ⟨none, true, closed.id, none, true⟩⟩) := by
  have absorbs : absorber panelId isRoot (.branch (before ++ child :: after) size) =
      (before.getLast? <|> after.head?).map fun node => ⟨node, !isRoot && (before ++ after).length == 1⟩ := by
    rw [absorber, absorberAmong_eq absent inside, alone]
    rfl
  have left : (before ++ child :: after).eraseIdx before.length = before ++ after := by
    rw [List.eraseIdx_append_of_length_le (Nat.le_refl _), Nat.sub_self, List.eraseIdx_cons_zero]
  cases before using List.reverseRecOn with
  | nil =>
    cases after with
    | nil => exact .gone (.branch vanishes size) absorbs
    | cons sibling after =>
      rw [@closeChild_left isRoot [] after _ child sibling closed _ size left rfl]
      by_cases collapses : isRoot = false ∧ after = []
      · cases collapses.1
        cases collapses.2
        exact .kept (.collapse vanishes (.inr rfl) size) absorbs
      · have ⟨stays, branch, same⟩ := stays_of_not collapses
        rw [List.nil_append after, branch]
        refine .kept (.next vanishes stays size) (absorbs.trans ?_)
        rw [List.nil_append, List.length_cons, same]
        rfl
  | append_singleton before sibling _ =>
    have left : _ = before ++ sibling :: after := left.trans (List.append_assoc before [sibling] after)
    have total : (before ++ [sibling] ++ after).length = (before ++ after).length + 1 := by
      simp only [List.length_append, List.length_singleton]
      omega
    rw [List.getLast?_concat, total] at absorbs
    rw [closeChild_left size left (by simp)]
    by_cases collapses : isRoot = false ∧ before ++ after = []
    · cases collapses.1
      have ⟨none_before, none_after⟩ := List.append_eq_nil_iff.mp collapses.2
      cases none_before
      cases none_after
      exact .kept (.collapse vanishes (.inl rfl) size) absorbs
    · have ⟨stays, branch, same⟩ := stays_of_not collapses
      rw [same] at absorbs
      rw [branch, List.append_assoc]
      rw [List.append_assoc] at absorbs
      exact .kept (.previous vanishes stays size) absorbs

theorem outcome {node : MutableNode} {closed : GroupState} (nodup : (panes node).Nodup) (inside : closed ∈ node.leaves)
    (only : closed.views = [panelId]) : Outcome panelId closed isRoot node (removePanelFromNode panelId isRoot node) := by
  induction node using Node.ind generalizing isRoot with
  | leaf data size =>
    cases List.mem_singleton.mp inside
    rw [removePanelFromNode, removePanelFromLeaf, only, if_neg (not_not_intro (List.mem_singleton_self panelId)),
      List.length_singleton, if_neg (Nat.lt_irrefl 1)]
    exact .gone (.leaf only size) rfl
  | branch data size ih =>
    rw [Node.leaves_branch] at inside
    obtain ⟨child, member, within⟩ := List.mem_flatMap.mp inside
    obtain ⟨before, after, parts⟩ := List.append_of_mem member
    cases parts
    have here : panelId ∈ panes child := List.mem_flatMap.mpr ⟨closed, within, only ▸ List.mem_singleton_self panelId⟩
    rw [panes_branch, List.flatMap_append, List.flatMap_cons] at nodup
    have absent : ∀ other ∈ before, panelId ∉ panes other := by
      intro other there again
      have apart := (List.nodup_append.mp nodup).2.2 panelId (List.mem_flatMap.mpr ⟨other, there, again⟩) panelId
      exact apart (List.mem_append_left _ here) rfl
    have child_nodup := (List.nodup_append.mp (List.nodup_append.mp nodup).2.1).1
    have result := @ih child member false child_nodup within
    rw [removePanelFromNode]
    generalize returned : removePanelFromNode panelId false child = out at result
    have removed : (removePanelFromNode panelId false child).removed := by
      rw [returned]
      cases result with
      | gone => rfl
      | kept => rfl
    rw [removePanelFromChildren_eq absent removed, returned]
    dsimp only
    cases result with
    | gone vanishes alone => exact closeChild_gone size vanishes alone absent here
    | @kept child' absorbing closes absorbs =>
      have absorbs' : absorber panelId isRoot (.branch (before ++ child :: after) size) = some absorbing := by
        rw [absorber, absorberAmong_eq absent here, absorbs]
        rfl
      rw [closeChild]
      dsimp only
      rw [List.set_append_right _ _ (Nat.le_refl _), Nat.sub_self, List.set_cons_zero]
      exact .kept (.within closes size) absorbs'

end Removal

/-! ### What is kept -/

section Kept

variable {panelId : String} {closed : GroupState} {isRoot : Bool} {node node' : MutableNode} {absorbing : Absorber}

theorem Vanishes.leaves (gone : Vanishes panelId closed node) : node.leaves = [closed] := by
  induction gone with
  | leaf only size => rfl
  | branch gone size ih => rw [Node.leaves_branch, List.flatMap_singleton, ih]

theorem Vanishes.only (gone : Vanishes panelId closed node) : closed.views = [panelId] := by
  induction gone with
  | leaf only size => exact only
  | branch gone size ih => exact ih

theorem Closes.only (closes : Closes panelId closed isRoot node node' absorbing) : closed.views = [panelId] := by
  induction closes with
  | previous gone _ _ => exact gone.only
  | next gone _ _ => exact gone.only
  | collapse gone _ _ => exact gone.only
  | within _ _ ih => exact ih

theorem Closes.size (closes : Closes panelId closed isRoot node node' absorbing) : node'.size = node.size := by
  cases closes with
  | previous => rfl
  | next => rfl
  | collapse => exact Node.size_resize _ _
  | within => rfl

theorem Closes.leaves (closes : Closes panelId closed isRoot node node' absorbing) :
    ∃ before after, node.leaves = before ++ closed :: after ∧ node'.leaves = before ++ after := by
  induction closes with
  | @previous _ before after sibling child gone _ _ =>
    refine ⟨before.flatMap Node.leaves ++ sibling.leaves, after.flatMap Node.leaves, ?_, ?_⟩
    · simp [Node.leaves_branch, gone.leaves]
    · simp [Node.leaves_branch]
  | @next _ after sibling child gone _ _ =>
    refine ⟨[], sibling.leaves ++ after.flatMap Node.leaves, ?_, ?_⟩
    · simp [Node.leaves_branch, gone.leaves]
    · simp [Node.leaves_branch]
  | @collapse data sibling child gone two _ =>
    cases two with
    | inl two =>
      refine ⟨sibling.leaves, [], ?_, ?_⟩
      · simp [Node.leaves_branch, gone.leaves, two]
      · simp
    | inr two =>
      refine ⟨[], sibling.leaves, ?_, ?_⟩
      · simp [Node.leaves_branch, gone.leaves, two]
      · simp
  | @within _ before after _ _ _ _ _ ih =>
    obtain ⟨first, rest, whole, left⟩ := ih
    refine ⟨before.flatMap Node.leaves ++ first, rest ++ after.flatMap Node.leaves, ?_, ?_⟩
    · simp [Node.leaves_branch, whole]
    · simp [Node.leaves_branch, left]

theorem Closes.panes (closes : Closes panelId closed isRoot node node' absorbing) (nodup : (PaneClose.panes node).Nodup) :
    PaneClose.panes node' = (PaneClose.panes node).filter (· ≠ panelId) := by
  obtain ⟨before, after, whole, left⟩ := closes.leaves
  unfold PaneClose.panes at nodup ⊢
  rw [whole, List.flatMap_append, List.flatMap_cons, closes.only] at nodup ⊢
  rw [left, List.flatMap_append, List.filter_append, List.singleton_append, List.filter_cons_of_neg (by simp)]
  have ⟨_, rest, apart⟩ := List.nodup_append.mp nodup
  have fresh := (List.nodup_cons.mp rest).1
  rw [List.filter_eq_self.mpr, List.filter_eq_self.mpr]
  · intro pane there
    exact decide_eq_true fun same => fresh (same ▸ there)
  · intro pane there
    exact decide_eq_true (apart pane there panelId List.mem_cons_self)

theorem Closes.nodup (closes : Closes panelId closed isRoot node node' absorbing) (nodup : (PaneClose.panes node).Nodup) :
    (PaneClose.panes node').Nodup := by
  rw [closes.panes nodup]
  exact nodup.filter _

theorem Closes.sub (closes : Closes panelId closed isRoot node node' absorbing) :
    absorbing.node.leaves.Sublist node.leaves ∧ absorbing.node.leaves.Sublist node'.leaves := by
  induction closes with
  | @previous _ before after sibling child _ _ size =>
    refine ⟨Node.leaves_sublist (by simp) size, ?_⟩
    rw [← Node.leaves_resize (sibling.size + child.size)]
    exact Node.leaves_sublist (by simp) size
  | @next _ after sibling child _ _ size =>
    refine ⟨Node.leaves_sublist (by simp) size, ?_⟩
    rw [← Node.leaves_resize (sibling.size + child.size)]
    exact Node.leaves_sublist (by simp) size
  | collapse _ two size =>
    refine ⟨Node.leaves_sublist ?_ size, ?_⟩
    · cases two with
      | inl two => simp [two]
      | inr two => simp [two]
    · rw [Node.leaves_resize]
  | within _ size ih => exact ⟨ih.1.trans (Node.leaves_sublist (by simp) size), ih.2.trans (Node.leaves_sublist (by simp) size)⟩

theorem not_mem_rects_of_vanishes {axis : SplitAxis} {rect : Rect} {leaf : GroupState × Rect} {pane : String}
    (gone : Vanishes panelId closed node) (inside : pane ∈ leaf.1.views) (other : pane ≠ panelId) : leaf ∉ node.rects axis rect := by
  intro member
  have here := Node.mem_leaves_of_mem_rects member
  rw [gone.leaves] at here
  rw [List.mem_singleton.mp here, gone.only] at inside
  exact other (List.mem_singleton.mp inside)

theorem not_mem_rects_of_not_mem_panes {axis : SplitAxis} {rect : Rect} {leaf : GroupState × Rect} {pane : String}
    (inside : pane ∈ leaf.1.views) (outside : pane ∉ PaneClose.panes node) : leaf ∉ node.rects axis rect :=
  fun member => outside (List.mem_flatMap.mpr ⟨leaf.1, Node.mem_leaves_of_mem_rects member, inside⟩)

theorem Closes.rects (closes : Closes panelId closed isRoot node node' absorbing) {axis : SplitAxis} {rect : Rect}
    {leaf : GroupState × Rect} {pane : String} (inside : pane ∈ leaf.1.views) (other : pane ≠ panelId)
    (outside : pane ∉ PaneClose.panes absorbing.node) (member : leaf ∈ node.rects axis rect) : leaf ∈ node'.rects axis rect := by
  induction closes generalizing axis rect with
  | @previous _ before after sibling child gone _ _ =>
    rw [Node.rects, rectsFrom_append, rectsFrom, rectsFrom, List.mem_append, List.mem_append, List.mem_append] at member
    rw [Node.rects, rectsFrom_append, rectsFrom, List.mem_append, List.mem_append, Node.size_resize]
    obtain here | here | here | here := member
    · exact .inl here
    · exact absurd here (not_mem_rects_of_not_mem_panes inside outside)
    · exact absurd here (not_mem_rects_of_vanishes gone inside other)
    · rw [add_assoc] at here
      exact .inr (.inr here)
  | @next _ after sibling child gone _ _ =>
    rw [Node.rects, rectsFrom, rectsFrom, List.mem_append, List.mem_append] at member
    rw [Node.rects, rectsFrom, List.mem_append, Node.size_resize]
    obtain here | here | here := member
    · exact absurd here (not_mem_rects_of_vanishes gone inside other)
    · exact absurd here (not_mem_rects_of_not_mem_panes inside outside)
    · rw [add_assoc, add_comm child.size] at here
      exact .inr here
  | @collapse data sibling child gone two _ =>
    rw [Node.rects] at member
    have either : leaf ∉ rectsFrom axis rect (rect.start axis) data := by
      intro member
      cases two with
      | inl two =>
        rw [two, rectsFrom, rectsFrom, rectsFrom, List.append_nil, List.mem_append] at member
        exact member.elim (not_mem_rects_of_not_mem_panes inside outside) (not_mem_rects_of_vanishes gone inside other)
      | inr two =>
        rw [two, rectsFrom, rectsFrom, rectsFrom, List.append_nil, List.mem_append] at member
        exact member.elim (not_mem_rects_of_vanishes gone inside other) (not_mem_rects_of_not_mem_panes inside outside)
    exact absurd member either
  | within closes _ ih =>
    rw [Node.rects, rectsFrom_append, rectsFrom, List.mem_append, List.mem_append] at member ⊢
    rw [closes.size]
    exact member.imp_right (Or.imp_left (ih outside))

end Kept

/-! ### How panes are arranged -/

section Arrangement

variable {axis along other : SplitAxis} {node child : MutableNode} {data : List MutableNode} {size : ℚ} {first second : String}

theorem Parted.mem (parted : Parted axis node first second along) : first ∈ panes node ∧ second ∈ panes node := by
  induction parted with
  | here _ child child' inside inside' =>
    rw [panes_branch]
    exact ⟨List.mem_flatMap.mpr ⟨_, List.mem_of_getElem? child, inside⟩, List.mem_flatMap.mpr ⟨_, List.mem_of_getElem? child', inside'⟩⟩
  | within member _ ih =>
    rw [panes_branch]
    exact ⟨List.mem_flatMap.mpr ⟨_, member, ih.1⟩, List.mem_flatMap.mpr ⟨_, member, ih.2⟩⟩

theorem eq_of_mem_panes (nodup : (panes (.branch data size)).Nodup) {i j : Nat} {one other : MutableNode} (child : data[i]? = some one)
    (child' : data[j]? = some other) (inside : first ∈ panes one) (inside' : first ∈ panes other) : i = j := by
  rw [panes_branch, List.nodup_flatMap] at nodup
  have apart := List.pairwise_iff_getElem.mp nodup.2
  obtain ⟨short, one_eq⟩ := List.getElem?_eq_some_iff.mp child
  obtain ⟨short', other_eq⟩ := List.getElem?_eq_some_iff.mp child'
  subst one_eq other_eq
  by_contra differ
  cases Nat.lt_or_gt_of_ne differ with
  | inl less => exact apart i j short short' less inside inside'
  | inr less => exact apart j i short' short less inside' inside

theorem nodup_of_mem (nodup : (panes (.branch data size)).Nodup) (member : child ∈ data) : (panes child).Nodup := by
  rw [panes_branch, List.nodup_flatMap] at nodup
  exact nodup.1 child member

theorem parted_branch_iff (nodup : (panes (.branch data size)).Nodup) (member : child ∈ data) (inside : first ∈ panes child)
    (inside' : second ∈ panes child) : Parted axis (.branch data size) first second along ↔
      Parted (oppositeAxis axis) child first second along := by
  obtain ⟨k, at_k⟩ := List.getElem?_of_mem member
  constructor
  · intro parted
    cases parted with
    | here differ one other first_one second_other =>
      have same := eq_of_mem_panes nodup one at_k first_one inside
      have same' := eq_of_mem_panes nodup other at_k second_other inside'
      exact absurd (same.trans same'.symm) differ
    | @within _ _ _ _ other _ _ there parted =>
      obtain ⟨m, at_m⟩ := List.getElem?_of_mem there
      cases eq_of_mem_panes nodup at_m at_k parted.mem.1 inside
      cases at_m.symm.trans at_k
      exact parted
  · exact .within member

theorem parted_resize_iff : Parted axis (node.resize size) first second along ↔ Parted axis node first second along := by
  cases node with
  | leaf data old => exact ⟨fun parted => (by cases parted), fun parted => (by cases parted)⟩
  | branch data old =>
    constructor
    · intro parted
      cases parted with
      | here differ one other inside inside' => exact .here differ one other inside inside'
      | within member parted => exact .within member parted
    · intro parted
      cases parted with
      | here differ one other inside inside' => exact .here differ one other inside inside'
      | within member parted => exact .within member parted

theorem Parted.opposite (parted : Parted axis node first second along) :
    Parted (oppositeAxis axis) node first second (oppositeAxis along) := by
  induction parted with
  | here differ one other inside inside' => exact .here differ one other inside inside'
  | within member _ ih => exact .within member ih

theorem Parted.unique (parted : Parted axis node first second along) (nodup : (panes node).Nodup)
    (parted' : Parted axis node first second other) : along = other := by
  induction parted with
  | here differ one two inside inside' =>
    cases parted' with
    | here _ _ _ _ _ => rfl
    | within member parted' =>
      obtain ⟨k, at_k⟩ := List.getElem?_of_mem member
      have same := eq_of_mem_panes nodup one at_k inside parted'.mem.1
      have same' := eq_of_mem_panes nodup two at_k inside' parted'.mem.2
      exact absurd (same.trans same'.symm) differ
  | within member parted ih =>
    exact ih (nodup_of_mem nodup member) ((parted_branch_iff nodup member parted.mem.1 parted.mem.2).mp parted')

theorem countP_branch (data : List MutableNode) (size : ℚ) (p : GroupState → Bool) :
    (Node.branch data size).leaves.countP p = (data.map fun child => child.leaves.countP p).sum := by
  rw [Node.leaves_branch, List.countP_flatMap]
  rfl

theorem exists_pane (node : MutableNode) (some_pane : 1 ≤ node.leaves.countP fun group => group.views ≠ []) : ∃ pane, pane ∈ panes node := by
  obtain ⟨group, member, nonempty⟩ := List.countP_pos_iff.mp some_pane
  obtain ⟨pane, views⟩ := List.exists_mem_of_ne_nil _ (of_decide_eq_true nonempty)
  exact ⟨pane, List.mem_flatMap.mpr ⟨group, member, views⟩⟩

theorem countP_pos (inside : first ∈ panes node) : 1 ≤ node.leaves.countP fun group => group.views ≠ [] := by
  obtain ⟨group, member, views⟩ := List.mem_flatMap.mp inside
  exact List.countP_pos_iff.mpr ⟨group, member, decide_eq_true (List.ne_nil_of_mem views)⟩

theorem add_le_sum {l : List Nat} {i j m n : Nat} (differ : i ≠ j) (one : l[i]? = some m) (other : l[j]? = some n) : m + n ≤ l.sum := by
  induction l generalizing i j with
  | nil => cases one
  | cons k l ih =>
    rw [List.sum_cons]
    cases i with
    | zero =>
      cases j with
      | zero => exact absurd rfl differ
      | succ j =>
        cases one
        have there : l[j]? = some n := other
        have := List.le_sum_of_mem (List.mem_of_getElem? there)
        omega
    | succ i =>
      cases j with
      | zero =>
        cases other
        have there : l[i]? = some m := one
        have := List.le_sum_of_mem (List.mem_of_getElem? there)
        omega
      | succ j =>
        have := ih (fun same => differ (congrArg Nat.succ same)) one other
        omega

theorem two_of_sum {l : List Nat} (two : 2 ≤ l.sum) :
    (∃ n ∈ l, 2 ≤ n) ∨ ∃ i j m n : Nat, i ≠ j ∧ l[i]? = some m ∧ l[j]? = some n ∧ 1 ≤ m ∧ 1 ≤ n := by
  induction l with
  | nil => exact absurd two (by decide)
  | cons k l ih =>
    rw [List.sum_cons] at two
    by_cases rest : 2 ≤ l.sum
    · obtain ⟨n, member, big⟩ | ⟨i, j, m, n, differ, one, other, positive⟩ := ih rest
      · exact .inl ⟨n, List.mem_cons_of_mem k member, big⟩
      · exact .inr ⟨i + 1, j + 1, m, n, fun same => differ (Nat.succ.inj same), one, other, positive⟩
    · by_cases big : 2 ≤ k
      · exact .inl ⟨k, List.mem_cons_self, big⟩
      · have positive : 0 < l.sum := by omega
        obtain ⟨n, member, nonzero⟩ := List.sum_pos_iff_exists_pos_nat.mp positive
        obtain ⟨j, there⟩ := List.getElem?_of_mem member
        exact .inr ⟨0, j + 1, k, n, Nat.zero_ne_add_one j, rfl, there, by omega, nonzero⟩

theorem crowded_iff : Crowded node ↔ ∃ first second along, Parted axis node first second along := by
  constructor
  · induction node using Node.ind generalizing axis with
    | leaf data size =>
      intro crowded
      have few := List.countP_le_length (p := fun group : GroupState => decide (group.views ≠ [])) (l := [data])
      exact absurd (Nat.le_trans crowded few) (by simp)
    | branch data size ih =>
      intro crowded
      unfold Crowded at crowded
      rw [countP_branch] at crowded
      obtain ⟨n, member, big⟩ | ⟨i, j, m, n, differ, one, other, positive, positive'⟩ := two_of_sum crowded
      · obtain ⟨child, there, same⟩ := List.mem_map.mp member
        cases same
        obtain ⟨first, second, along, parted⟩ := @ih child there (oppositeAxis axis) big
        exact ⟨first, second, along, .within there parted⟩
      · rw [List.getElem?_map] at one other
        obtain ⟨child, at_i, same⟩ := Option.map_eq_some_iff.mp one
        obtain ⟨child', at_j, same'⟩ := Option.map_eq_some_iff.mp other
        cases same
        cases same'
        obtain ⟨first, inside⟩ := exists_pane child positive
        obtain ⟨second, inside'⟩ := exists_pane child' positive'
        exact ⟨first, second, axis, .here differ at_i at_j inside inside'⟩
  · intro ⟨first, second, along, parted⟩
    induction parted with
    | @here axis data size i j one other first second differ child child' inside inside' =>
      unfold Crowded
      rw [countP_branch]
      refine Nat.le_trans (Nat.add_le_add (countP_pos inside) (countP_pos inside')) (add_le_sum differ ?_ ?_)
      · rw [List.getElem?_map, child]
        rfl
      · rw [List.getElem?_map, child']
        rfl
    | within member _ ih =>
      unfold Crowded at ih ⊢
      rw [countP_branch]
      exact Nat.le_trans ih (List.le_sum_of_mem (List.mem_map_of_mem member))

theorem Closes.arranged {panelId : String} {closed : GroupState} {isRoot : Bool} {node node' : MutableNode} {absorbing : Absorber}
    (closes : Closes panelId closed isRoot node node' absorbing) (nodup : (PaneClose.panes node).Nodup) (axis : SplitAxis) :
    ∃ inner, ∀ first ∈ PaneClose.panes absorbing.node, ∀ second ∈ PaneClose.panes absorbing.node, ∀ along,
      (Parted axis node first second along ↔ Parted inner absorbing.node first second along) ∧
      (Parted axis node' first second along ↔
        Parted (if absorbing.collapses then oppositeAxis inner else inner) absorbing.node first second along) := by
  have nodup' := closes.nodup nodup
  induction closes generalizing axis with
  | @previous _ before after sibling child _ _ _ =>
    have member : sibling ∈ before ++ sibling :: child :: after := by simp
    have member' : sibling.resize (sibling.size + child.size) ∈ before ++ sibling.resize (sibling.size + child.size) :: after := by
      simp
    refine ⟨oppositeAxis axis, fun first inside second inside' along => ⟨parted_branch_iff nodup member inside inside', ?_⟩⟩
    rw [parted_branch_iff nodup' member' (by rwa [panes_resize]) (by rwa [panes_resize]), parted_resize_iff]
    rfl
  | @next _ after sibling child _ _ _ =>
    have member : sibling ∈ child :: sibling :: after := by simp
    refine ⟨oppositeAxis axis, fun first inside second inside' along => ⟨parted_branch_iff nodup member inside inside', ?_⟩⟩
    rw [parted_branch_iff nodup' List.mem_cons_self (by rwa [panes_resize]) (by rwa [panes_resize]), parted_resize_iff]
    rfl
  | collapse _ two =>
    refine ⟨oppositeAxis axis, fun first inside second inside' along => ⟨parted_branch_iff nodup ?_ inside inside', ?_⟩⟩
    · cases two with
      | inl two => simp [two]
      | inr two => simp [two]
    · rw [if_pos rfl, oppositeAxis_opposite, parted_resize_iff]
  | @within _ before after child child' absorbing closes _ ih =>
    have member : child ∈ before ++ child :: after := by simp
    have member' : child' ∈ before ++ child' :: after := by simp
    obtain ⟨inner, same⟩ := ih (nodup_of_mem nodup member) (oppositeAxis axis) (nodup_of_mem nodup' member')
    refine ⟨inner, fun first inside second inside' along => ?_⟩
    have ⟨sub, sub'⟩ := closes.sub
    have within {pane : String} (inside : pane ∈ PaneClose.panes absorbing.node) :
        pane ∈ PaneClose.panes child ∧ pane ∈ PaneClose.panes child' :=
      ⟨panes_subset sub.subset inside, panes_subset sub'.subset inside⟩
    have ⟨old, new⟩ := same first inside second inside' along
    rw [parted_branch_iff nodup member (within inside).1 (within inside').1,
      parted_branch_iff nodup' member' (within inside).2 (within inside').2]
    exact ⟨old, new⟩

end Arrangement

/-- The branch of the absorbing sibling goes, and panes in it are turned. -/
def Turns (absorbing : Option Absorber) : Prop := ∃ absorber, absorbing = some absorber ∧ absorber.collapses ∧ Crowded absorber.node

section Turning

variable {panelId : String} {closed : GroupState} {isRoot : Bool} {node node' : MutableNode} {absorbing : Absorber} {axis : SplitAxis}

theorem Closes.arranged_of_calm (closes : Closes panelId closed isRoot node node' absorbing) (nodup : (PaneClose.panes node).Nodup)
    (calm : ¬Turns (some absorbing)) : ∀ first ∈ PaneClose.panes absorbing.node, ∀ second ∈ PaneClose.panes absorbing.node, ∀ along,
      Parted axis node first second along ↔ Parted axis node' first second along := by
  obtain ⟨inner, same⟩ := closes.arranged nodup axis
  intro first inside second inside' along
  have ⟨old, new⟩ := same first inside second inside' along
  rw [old, new]
  split
  · rename_i collapses
    have none_parted {axis : SplitAxis} : ¬Parted axis absorbing.node first second along := fun parted =>
      calm ⟨absorbing, rfl, collapses, crowded_iff.mpr ⟨first, second, along, parted⟩⟩
    exact iff_of_false none_parted none_parted
  · exact Iff.rfl

theorem Closes.turned (closes : Closes panelId closed isRoot node node' absorbing) (nodup : (PaneClose.panes node).Nodup)
    (turns : Turns (some absorbing)) : ¬∀ first ∈ PaneClose.panes absorbing.node, ∀ second ∈ PaneClose.panes absorbing.node, ∀ along,
      Parted axis node first second along ↔ Parted axis node' first second along := by
  intro kept
  obtain ⟨_, is, collapses, crowded⟩ := turns
  cases is
  obtain ⟨inner, same⟩ := closes.arranged nodup axis
  obtain ⟨first, second, along, parted⟩ := (@crowded_iff inner absorbing.node).mp crowded
  have ⟨inside, inside'⟩ := parted.mem
  have ⟨old, new⟩ := same first inside second inside' along
  have turned := new.mp ((kept first inside second inside' along).mp (old.mpr parted))
  rw [if_pos collapses] at turned
  have inner_nodup : (PaneClose.panes absorbing.node).Nodup := nodup.sublist (closes.sub.1.flatMap _)
  exact oppositeAxis_ne along (parted.opposite.unique inner_nodup turned)

end Turning

/-! ### The whole layout -/

theorem firstLeafGroupId_named {node : MutableNode} (inhabited : node.Inhabited) (named : Named node) :
    ∃ text, firstLeafGroupId node = some text ∧ text ≠ "" ∧ some text ∈ groupIds node := by
  induction node using Node.ind with
  | leaf data size =>
    have ⟨text?, nonempty⟩ := named data.id (List.mem_singleton_self data.id)
    obtain ⟨text, same⟩ := Option.ne_none_iff_exists'.mp text?
    exact ⟨text, same, fun empty => nonempty (same.trans (congrArg some empty)), same ▸ List.mem_singleton_self data.id⟩
  | branch data size ih =>
    cases data with
    | nil => exact absurd rfl inhabited.1
    | cons child rest =>
      have sub : groupIds child ⊆ groupIds (.branch (child :: rest) size) :=
        List.map_subset _ (Node.leaves_sublist List.mem_cons_self size).subset
      obtain ⟨text, same, nonempty, member⟩ :=
        ih child List.mem_cons_self inhabited.2.1 fun id there => named id (sub there)
      refine ⟨text, ?_, nonempty, sub member⟩
      rw [firstLeafGroupId, firstLeafGroupIdOf, same]
      exact if_neg nonempty

theorem Closes.inhabited {panelId : String} {closed : GroupState} {isRoot : Bool} {node node' : MutableNode} {absorbing : Absorber}
    (closes : Closes panelId closed isRoot node node' absorbing) (inhabited : node.Inhabited) : absorbing.node.Inhabited := by
  induction closes with
  | previous => exact (inhabitedAll_iff _).mp inhabited.2 _ (by simp)
  | next => exact (inhabitedAll_iff _).mp inhabited.2 _ (by simp)
  | collapse _ two =>
    refine (inhabitedAll_iff _).mp inhabited.2 _ ?_
    cases two with
    | inl two => simp [two]
    | inr two => simp [two]
  | within _ _ ih => exact ih ((inhabitedAll_iff _).mp inhabited.2 _ (by simp))

section Whole

variable {layout : SerializedDockview} {panelId : String} {closed : GroupState} {axis : SplitAxis} {rect : Rect}

theorem removePanelPreservingLayout_cases (wellFormed : WellFormed layout) (inside : closed ∈ layout.root.leaves)
    (only : closed.views = [panelId]) :
    (removePanelPreservingLayout layout panelId = none ∧ absorber panelId true layout.root = none ∧
      Vanishes panelId closed layout.root) ∨
    ∃ next absorbing, removePanelPreservingLayout layout panelId = some next ∧ absorber panelId true layout.root = some absorbing ∧
      Closes panelId closed true layout.root next.root absorbing ∧ next.activeGroup ∈ groupIds next.root := by
  have result := @outcome panelId true layout.root closed wellFormed.panes inside only
  unfold removePanelPreservingLayout
  generalize removePanelFromNode panelId true layout.root = out at result
  cases result with
  | gone vanishes alone => exact .inl ⟨rfl, alone, vanishes⟩
  | @kept node' absorbing closes absorbs =>
    refine .inr ⟨_, absorbing, rfl, absorbs, closes, ?_⟩
    dsimp only
    split
    · have sub : groupIds absorbing.node ⊆ groupIds layout.root := List.map_subset _ closes.sub.1.subset
      obtain ⟨text, same, _, member⟩ := firstLeafGroupId_named (closes.inhabited wellFormed.inhabited)
        fun id there => wellFormed.named id (sub there)
      rw [same]
      exact List.map_subset _ closes.sub.2.subset member
    · rename_i other
      obtain ⟨before, after, whole, left⟩ := closes.leaves
      obtain ⟨group, member, same⟩ := List.mem_map.mp wellFormed.active
      rw [whole] at member
      have named : layout.activeGroup.isSome := Option.isSome_iff_ne_none.mpr (wellFormed.named _ wellFormed.active).1
      refine List.mem_map.mpr ⟨group, ?_, same⟩
      rw [left]
      cases List.mem_append.mp member with
      | inl first => exact List.mem_append_left _ first
      | inr rest =>
        cases rest with
        | head => exact absurd ⟨named, same.symm⟩ other
        | tail _ last => exact List.mem_append_right _ last

theorem holds_of_calm (wellFormed : WellFormed layout) (inside : closed ∈ layout.root.leaves) (only : closed.views = [panelId])
    (calm : ¬Turns (absorber panelId true layout.root)) : Holds axis rect layout panelId := by
  unfold Holds
  obtain ⟨returned, _, vanishes⟩ | ⟨next, absorbing, returned, absorbs, closes, active⟩ :=
    removePanelPreservingLayout_cases wellFormed inside only
  · rw [returned]
    show panes layout.root = [panelId]
    rw [panes, vanishes.leaves, List.flatMap_singleton, only]
  · rw [absorbs] at calm
    rw [returned, absorbs]
    refine ⟨closes.panes wellFormed.panes, ?_, ?_, active⟩
    · exact fun leaf member pane views other outside => closes.rects views other (outside absorbing rfl) member
    · intro absorber is
      cases is
      exact closes.arranged_of_calm wellFormed.panes calm

theorem calm_of_holds (wellFormed : WellFormed layout) (inside : closed ∈ layout.root.leaves) (only : closed.views = [panelId])
    (holds : Holds axis rect layout panelId) : ¬Turns (absorber panelId true layout.root) := by
  unfold Holds at holds
  obtain ⟨_, alone, _⟩ | ⟨next, absorbing, returned, absorbs, closes, _⟩ :=
    removePanelPreservingLayout_cases wellFormed inside only
  · intro ⟨absorber, is, _⟩
    rw [alone] at is
    cases is
  · rw [returned, absorbs] at holds
    rw [absorbs]
    exact fun turns => closes.turned wellFormed.panes turns (holds.arranged absorbing rfl)

end Whole

theorem preserved_iff {layout : SerializedDockview} {panelId : String} (wellFormed : WellFormed layout)
    (only : ∃ group ∈ layout.root.leaves, group.views = [panelId]) (axis : SplitAxis) (rect : Rect) :
    Holds axis rect layout panelId ↔ ¬Turns (absorber panelId true layout.root) := by
  obtain ⟨closed, inside, only⟩ := only
  exact ⟨calm_of_holds wellFormed inside only, holds_of_calm wellFormed inside only⟩

def pane (id : String) (size : ℚ) : MutableNode := .leaf ⟨some ("group-" ++ id), [id], some id, none⟩ size

def columns : SerializedDockview where
  root := .branch [pane "a" 300, pane "b" 200, pane "c" 100] 400
  maximizedNode := none
  panels := ["a", "b", "c"]
  activeGroup := some "group-b"

theorem preserved_columns : Holds .x ⟨0, 0, 600, 400⟩ columns "b" ↔ ¬Turns (absorber "b" true columns.root) := by
  have wellFormed : WellFormed columns := by
    refine ⟨?_, by decide, by unfold Named; decide, by decide⟩
    simp [columns, pane, Node.Inhabited, InhabitedAll]
  exact preserved_iff wellFormed ⟨_, List.mem_cons_of_mem _ List.mem_cons_self, rfl⟩ .x ⟨0, 0, 600, 400⟩

/-- A column with a pane over two others side by side, and a second column. -/
def nested : SerializedDockview where
  root := .branch [.branch [pane "a" 250, .branch [pane "b" 200, pane "c" 200] 150] 400, pane "d" 200] 400
  maximizedNode := none
  panels := ["a", "b", "c", "d"]
  activeGroup := some "group-d"

theorem turns_nested : ¬∀ (layout : SerializedDockview) (panelId : String) (axis : SplitAxis) (rect : Rect), WellFormed layout →
    layout.root.Fits axis rect → (∃ group ∈ layout.root.leaves, group.views = [panelId]) → Holds axis rect layout panelId := by
  intro always
  have wellFormed : WellFormed nested := by
    refine ⟨?_, by decide, by unfold Named; decide, by decide⟩
    simp [nested, pane, Node.Inhabited, InhabitedAll]
  have fits : nested.root.Fits .x ⟨0, 0, 600, 400⟩ := by
    simp [nested, pane, Node.Fits, FitsFrom, Rect.extent, Rect.slice, Rect.start, oppositeAxis, Node.size]
    norm_num
  have inside : (⟨some "group-a", ["a"], some "a", none⟩ : GroupState) ∈ nested.root.leaves := List.mem_cons_self
  refine calm_of_holds wellFormed inside rfl (always nested "a" .x ⟨0, 0, 600, 400⟩ wellFormed fits ⟨_, inside, rfl⟩) ⟨_, rfl, rfl, ?_⟩
  exact Nat.le_refl 2

end VibeLink.Layout.PaneClose
