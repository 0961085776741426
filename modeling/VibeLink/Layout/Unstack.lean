import VibeLink.Coordinator.Json
import Mathlib.Data.Rat.Defs
import Mathlib.Data.List.Nodup
import Mathlib.Data.List.Perm.Subperm
import Mathlib.Tactic.Common
import Std.Data.String.ToNat

/-! Panes that stand one behind another are put side by side (`src/layout/innerPaneLayout.ts`). -/

namespace VibeLink.Layout.Unstack

open Coordinator (Json)

variable {R S : Type}

/-- A group of a leaf; `none`: no such field. -/
structure MutableGroupState (R : Type) where
  id : Option Json
  views : Option Json
  activeView : Option Json
  tabGroups : Option Json
  rest : R

/-- A size is `none` where it is not a finite number. -/
inductive MutableNode (R : Type)
  | leaf (data : MutableGroupState R) (size : Option ℚ) (visible : Option Json)
  | branch (data : List (MutableNode R)) (size : Option ℚ)

/-- `root`: `grid.root`; `maximizedNode`: `grid.maximizedNode` -/
structure MutableDockview (R S : Type) where
  root : MutableNode R
  maximizedNode : Option Json
  activeGroup : Option Json
  rest : S

/-- `typeof value === 'string' ? value : null` -/
def asString (value : Option Json) : Option String := value.bind Json.asStr

def stringViews (value : Option Json) : List String :=
  match value with
  | some (.arr items) => items.filterMap Json.asStr
  | _ => []

def positiveSize (value : Option ℚ) : Option ℚ := value.filter fun size => 0 < size

def distributeSize (total : ℚ) (count : Nat) : List ℚ :=
  let size := total / max 1 count
  (List.range count).map fun index => if index = count - 1 then total - size * (count - 1) else size

mutual

def hasStackedLeaf : MutableNode R → Bool
  | .leaf data _ _ => 1 < (stringViews data.views).length
  | .branch data _ => anyStackedLeaf data

def anyStackedLeaf : List (MutableNode R) → Bool
  | [] => false
  | child :: rest => hasStackedLeaf child || anyStackedLeaf rest

end

mutual

/-- The groups of the leaves, in the order of the tree. -/
def MutableNode.groups : MutableNode R → List (MutableGroupState R)
  | .leaf data _ _ => [data]
  | .branch data _ => groupsOf data

def groupsOf : List (MutableNode R) → List (MutableGroupState R)
  | [] => []
  | child :: rest => child.groups ++ groupsOf rest

end

def groupIds (groups : List (MutableGroupState R)) : List String := groups.filterMap fun group => asString group.id

/-- The loop of `nextGroupId`, over so many more suffixes. -/
def nextCandidate (base : String) (used : List String) : Nat → String → Nat → String
  | 0, candidate, _ => candidate
  | fuel + 1, candidate, suffix =>
    if candidate ∈ used then nextCandidate base used fuel (base ++ "-" ++ toString suffix) (suffix + 1) else candidate

def nextGroupId (base : String) (used : List String) : String := nextCandidate base used (used.length + 1) base 2

/-- What the repair keeps: the ids in use, and the group that is to be active. -/
structure Repair where
  used : List String
  activeGroup : Option String

def splitViews (original : Option String) (groupId activeView : String) (data : MutableGroupState R) :
    Nat → List String → Repair → List (MutableGroupState R) × Repair
  | _, [], state => ([], state)
  | index, panelId :: views, state =>
    let id := if index = 0 then groupId else nextGroupId (groupId ++ "-pane-" ++ toString (index + 1)) state.used
    let group := { data with
      id := some (.str id), views := some (.arr [.str panelId]), activeView := some (.str panelId), tabGroups := none }
    let activeGroup := if original = some groupId ∧ panelId = activeView then some id else state.activeGroup
    let out := splitViews original groupId activeView data (index + 1) views ⟨id :: state.used, activeGroup⟩
    (group :: out.1, out.2)

def activeViewOf (data : MutableGroupState R) : Option String :=
  match (asString data.activeView).filter fun view => view ∈ stringViews data.views with
  | some view => some view
  | none => (stringViews data.views).head?

def repairGroup (original : Option String) (data : MutableGroupState R) (state : Repair) : List (MutableGroupState R) × Repair :=
  let groupId := (asString data.id).getD (nextGroupId "terminal-pane-group" state.used)
  let used := if (asString data.id).isSome then state.used else groupId :: state.used
  splitViews original groupId ((activeViewOf data).getD "") data 0 (stringViews data.views) ⟨used, state.activeGroup⟩

mutual

def repairNode (original : Option String) : MutableNode R → Repair → MutableNode R × Repair
  | .branch data size, state =>
    let out := repairNodes original data state
    (.branch out.1 size, out.2)
  | .leaf data size visible, state =>
    let views := stringViews data.views
    if views.length ≤ 1 then (.leaf data size visible, state)
    else
      let totalSize := (positiveSize size).getD views.length
      let out := repairGroup original data state
      (.branch (out.1.zipWith (fun group size => .leaf group (some size) visible) (distributeSize totalSize views.length)) (some totalSize), out.2)

def repairNodes (original : Option String) : List (MutableNode R) → Repair → List (MutableNode R) × Repair
  | [], state => ([], state)
  | child :: rest, state =>
    let first := repairNode original child state
    let others := repairNodes original rest first.2
    (first.1 :: others.1, others.2)

end

def unstackSerializedDockview (layout : MutableDockview R S) : MutableDockview R S :=
  if !hasStackedLeaf layout.root then layout
  else
    let original := asString layout.activeGroup
    let out := repairNode original layout.root ⟨groupIds layout.root.groups, original⟩
    { layout with
      root := out.1
      maximizedNode := none
      activeGroup := match out.2.activeGroup with
        | some id => if id = "" then layout.activeGroup else some (.str id)
        | none => layout.activeGroup }

/-! ### Ids that are not in use -/

section Fresh

variable {base candidate : String} {used : List String} {suffix : Nat}

theorem suffix_injective {m n : Nat} (same : base ++ "-" ++ toString m = base ++ "-" ++ toString n) : m = n := by
  have digits := (String.append_right_inj _).mp same
  exact Nat.repr_injective digits

theorem base_ne (n : Nat) : base ++ "-" ++ toString n ≠ base := by
  intro same
  have lengths := congrArg String.length same
  rw [String.length_append, String.length_append] at lengths
  have : "-".length = 1 := rfl
  omega

theorem numbered_ne_empty (n : Nat) : base ++ "-" ++ toString n ≠ "" := by
  intro same
  have lengths := congrArg String.length same
  rw [String.length_append, String.length_append] at lengths
  have : "-".length = 1 := rfl
  have : "".length = 0 := rfl
  omega

theorem nextCandidate_fresh {fuel : Nat} {seen : List String} (nodup : seen.Nodup) (within : seen ⊆ used)
    (enough : used.length < seen.length + fuel) (fresh : candidate ∉ seen)
    (apart : ∀ n, suffix ≤ n → base ++ "-" ++ toString n ∉ candidate :: seen) :
    nextCandidate base used fuel candidate suffix ∉ used := by
  induction fuel generalizing seen candidate suffix with
  | zero =>
    have := (List.Nodup.subperm nodup within).length_le
    omega
  | succ fuel ih =>
    rw [nextCandidate]
    split
    · rename_i member
      apply ih (List.nodup_cons.mpr ⟨fresh, nodup⟩) (List.cons_subset.mpr ⟨member, within⟩)
        (by rw [List.length_cons]; omega) (apart suffix le_rfl)
      intro n later inside
      cases List.mem_cons.mp inside with
      | inl same => exact absurd (suffix_injective same) (by omega)
      | inr inside => exact apart n (by omega) inside
    · assumption

theorem nextGroupId_fresh (base : String) (used : List String) : nextGroupId base used ∉ used := by
  apply nextCandidate_fresh List.nodup_nil (List.nil_subset _) (by simp) List.not_mem_nil
  intro n _ member
  exact base_ne n (List.mem_singleton.mp member)

theorem nextCandidate_ne_empty {fuel : Nat} (named : candidate ≠ "") :
    nextCandidate base used fuel candidate suffix ≠ "" := by
  induction fuel generalizing candidate suffix with
  | zero => exact named
  | succ fuel ih =>
    rw [nextCandidate]
    split
    · exact ih (numbered_ne_empty _)
    · exact named

theorem nextGroupId_ne_empty (named : base ≠ "") : nextGroupId base used ≠ "" := nextCandidate_ne_empty named

end Fresh

/-! ### One group -/

def Shows (groups : List (MutableGroupState R)) (activeGroup : Option String) (view : String) : Prop :=
  ∃ id, activeGroup = some id ∧ ∃ group ∈ groups, asString group.id = some id ∧ activeViewOf group = some view

section Group

variable {original : Option String} {groupId activeView : String} {data : MutableGroupState R}
  {views : List String} {index : Nat} {state : Repair}

theorem pane_ne_empty (n : Nat) : groupId ++ "-pane-" ++ toString n ≠ "" := by
  intro same
  have lengths := congrArg String.length same
  rw [String.length_append, String.length_append] at lengths
  have : "-pane-".length = 6 := rfl
  have : "".length = 0 := rfl
  omega

theorem length_splitViews : (splitViews original groupId activeView data index views state).1.length = views.length := by
  induction views generalizing index state with
  | nil => rfl
  | cons panelId views ih => rw [splitViews, List.length_cons, List.length_cons, ih]

theorem views_splitViews :
    (splitViews original groupId activeView data index views state).1.map (fun group => stringViews group.views)
      = views.map fun view => [view] := by
  induction views generalizing index state with
  | nil => rfl
  | cons panelId views ih =>
    rw [splitViews, List.map_cons, List.map_cons, ih]
    rfl

theorem used_splitViews : state.used ⊆ (splitViews original groupId activeView data index views state).2.used := by
  induction views generalizing index state with
  | nil => exact List.Subset.refl _
  | cons panelId views ih =>
    rw [splitViews]
    intro id inside
    exact ih (List.mem_cons_of_mem _ inside)

theorem groupIds_cons_str (id : String) (views activeView tabGroups : Option Json) (rest : R)
    (groups : List (MutableGroupState R)) :
    groupIds (⟨some (.str id), views, activeView, tabGroups, rest⟩ :: groups) = id :: groupIds groups := rfl

theorem groupIds_append (first second : List (MutableGroupState R)) :
    groupIds (first ++ second) = groupIds first ++ groupIds second := List.filterMap_append

theorem ids_used :
    groupIds (splitViews original groupId activeView data index views state).1
      ⊆ (splitViews original groupId activeView data index views state).2.used := by
  induction views generalizing index state with
  | nil => exact List.nil_subset _
  | cons panelId views ih =>
    rw [splitViews, groupIds_cons_str]
    exact List.cons_subset.mpr ⟨used_splitViews List.mem_cons_self, ih⟩

theorem ids_splitViews (later : index ≠ 0) :
    (groupIds (splitViews original groupId activeView data index views state).1).Nodup ∧
      ∀ id ∈ groupIds (splitViews original groupId activeView data index views state).1, id ∉ state.used := by
  induction views generalizing index state with
  | nil => exact ⟨List.nodup_nil, fun _ absent => absurd absent List.not_mem_nil⟩
  | cons panelId views ih =>
    rw [splitViews, groupIds_cons_str, if_neg later]
    have rest := @ih (index + 1) ⟨nextGroupId (groupId ++ "-pane-" ++ toString (index + 1)) state.used :: state.used,
      if original = some groupId ∧ panelId = activeView then
        some (nextGroupId (groupId ++ "-pane-" ++ toString (index + 1)) state.used) else state.activeGroup⟩
      (Nat.succ_ne_zero index)
    constructor
    · exact List.nodup_cons.mpr ⟨fun member => rest.2 _ member List.mem_cons_self, rest.1⟩
    · intro id member
      cases List.mem_cons.mp member with
      | inl same => rw [same]; exact nextGroupId_fresh _ _
      | inr member => exact fun inside => rest.2 id member (List.mem_cons_of_mem _ inside)

theorem active_splitViews :
    (original = some groupId ∧ activeView ∈ views →
      Shows (splitViews original groupId activeView data index views state).1
        (splitViews original groupId activeView data index views state).2.activeGroup activeView) ∧
    (¬(original = some groupId ∧ activeView ∈ views) →
      (splitViews original groupId activeView data index views state).2.activeGroup = state.activeGroup) := by
  induction views generalizing index state with
  | nil => exact ⟨fun inside => absurd inside.2 List.not_mem_nil, fun _ => rfl⟩
  | cons panelId views ih =>
    rw [splitViews]
    by_cases later : original = some groupId ∧ activeView ∈ views
    · refine ⟨fun _ => ?_, fun outside => absurd ⟨later.1, List.mem_cons_of_mem _ later.2⟩ outside⟩
      obtain ⟨id, active, group, member, shown⟩ := ih.1 later
      exact ⟨id, active, group, List.mem_cons_of_mem _ member, shown⟩
    · dsimp only
      rw [ih.2 later]
      constructor
      · rintro ⟨mine, member⟩
        have first : panelId = activeView := by
          cases List.mem_cons.mp member with
          | inl same => exact same.symm
          | inr member => exact absurd ⟨mine, member⟩ later
        have shown : original = some groupId ∧ panelId = activeView := ⟨mine, first⟩
        rw [if_pos shown]
        refine ⟨_, rfl, _, List.mem_cons_self, rfl, ?_⟩
        simp [activeViewOf, asString, stringViews, Json.asStr, first, Option.filter]
      · intro outside
        have hidden : ¬(original = some groupId ∧ panelId = activeView) :=
          fun shown => outside ⟨shown.1, shown.2 ▸ List.mem_cons_self⟩
        rw [if_neg hidden]

theorem active_ne_empty (named : state.activeGroup = some "" → original = some "")
    (empty : (splitViews original groupId activeView data index views state).2.activeGroup = some "") :
    original = some "" := by
  induction views generalizing index state with
  | nil => exact named empty
  | cons panelId views ih =>
    refine ih ?_ empty
    dsimp only
    split
    · rename_i mine
      split
      · intro same
        rw [mine.1, same]
      · intro same
        exact absurd (Option.some.inj same) (nextGroupId_ne_empty (pane_ne_empty _))
    · exact named

end Group

/-! ### All groups -/

def repairGroups (original : Option String) :
    List (MutableGroupState R) → Repair → List (MutableGroupState R) × Repair
  | [], state => ([], state)
  | group :: rest, state =>
    let first := if (stringViews group.views).length ≤ 1 then ([group], state) else repairGroup original group state
    let others := repairGroups original rest first.2
    (first.1 ++ others.1, others.2)

section Groups

variable {original : Option String} {groups : List (MutableGroupState R)} {group : MutableGroupState R} {state : Repair}

theorem repairGroups_append (first second : List (MutableGroupState R)) (state : Repair) :
    repairGroups original (first ++ second) state =
      ((repairGroups original first state).1
        ++ (repairGroups original second (repairGroups original first state).2).1,
        (repairGroups original second (repairGroups original first state).2).2) := by
  induction first generalizing state with
  | nil => rfl
  | cons group rest ih =>
    rw [List.cons_append, repairGroups, repairGroups]
    dsimp only
    rw [ih, List.append_assoc]

theorem length_distributeSize (total : ℚ) (count : Nat) : (distributeSize total count).length = count := by
  rw [distributeSize, List.length_map, List.length_range]

theorem groupsOf_leaves (visible : Option Json) (groups : List (MutableGroupState R)) (sizes : List ℚ)
    (enough : groups.length = sizes.length) :
    groupsOf (groups.zipWith (fun group size => .leaf group (some size) visible) sizes) = groups := by
  induction groups generalizing sizes with
  | nil => rfl
  | cons group rest ih =>
    cases sizes with
    | nil => cases enough
    | cons size sizes =>
      rw [List.zipWith_cons_cons, groupsOf, ih sizes (Nat.succ.inj enough)]
      rfl

theorem length_repairGroup : (repairGroup original group state).1.length = (stringViews group.views).length :=
  length_splitViews

mutual

theorem groups_repairNode (node : MutableNode R) (state : Repair) :
    ((repairNode original node state).1.groups, (repairNode original node state).2)
      = repairGroups original node.groups state := by
  cases node with
  | leaf data size visible =>
    rw [repairNode, MutableNode.groups, repairGroups, repairGroups]
    split
    · rfl
    · dsimp only
      rw [MutableNode.groups, List.append_nil, groupsOf_leaves]
      rw [length_repairGroup, length_distributeSize]
  | branch data size => exact groups_repairNodes data state

theorem groups_repairNodes (nodes : List (MutableNode R)) (state : Repair) :
    (groupsOf (repairNodes original nodes state).1, (repairNodes original nodes state).2)
      = repairGroups original (groupsOf nodes) state := by
  cases nodes with
  | nil => rfl
  | cons child rest =>
    rw [repairNodes, groupsOf, groupsOf, repairGroups_append, ← groups_repairNode child state]
    dsimp only
    rw [← groups_repairNodes rest]

end

theorem activeViewOf_mem {view : String} (shown : activeViewOf group = some view) : view ∈ stringViews group.views := by
  unfold activeViewOf at shown
  split at shown
  · rename_i filtered
    have member := (Option.filter_eq_some_iff.mp filtered).2
    rw [← Option.some.inj shown]
    exact of_decide_eq_true member
  · exact List.mem_of_mem_head? shown

theorem groupIds_singleton (group : MutableGroupState R) : groupIds [group] = (asString group.id).toList := by
  rw [groupIds, List.filterMap_cons]
  cases asString group.id <;> rfl

theorem mem_groupIds_singleton {id : String} : id ∈ groupIds [group] ↔ asString group.id = some id := by
  rw [groupIds_singleton, Option.mem_toList]

theorem ids_repairGroup :
    (groupIds (repairGroup original group state).1).Nodup ∧
      ∀ id ∈ groupIds (repairGroup original group state).1, asString group.id = some id ∨ id ∉ state.used := by
  unfold repairGroup
  dsimp only
  cases stringViews group.views with
  | nil => exact ⟨List.nodup_nil, fun _ member => absurd member List.not_mem_nil⟩
  | cons view views =>
    rw [splitViews, groupIds_cons_str, if_pos rfl]
    cases named : asString group.id with
    | none =>
      have fresh := nextGroupId_fresh "terminal-pane-group" state.used
      have rest := fun activeGroup => @ids_splitViews R original (nextGroupId "terminal-pane-group" state.used)
        ((activeViewOf group).getD "") group views 1
        ⟨nextGroupId "terminal-pane-group" state.used :: nextGroupId "terminal-pane-group" state.used :: state.used,
          activeGroup⟩ Nat.one_ne_zero
      constructor
      · exact List.nodup_cons.mpr ⟨fun member => (rest _).2 _ member List.mem_cons_self, (rest _).1⟩
      · intro id member
        cases List.mem_cons.mp member with
        | inl same => exact .inr (same ▸ fresh)
        | inr member =>
          exact .inr fun inside => (rest _).2 id member (List.mem_cons_of_mem _ (List.mem_cons_of_mem _ inside))
    | some groupId =>
      have rest := fun activeGroup => @ids_splitViews R original groupId ((activeViewOf group).getD "") group views 1
        ⟨groupId :: state.used, activeGroup⟩ Nat.one_ne_zero
      constructor
      · exact List.nodup_cons.mpr ⟨fun member => (rest _).2 _ member List.mem_cons_self, (rest _).1⟩
      · intro id member
        cases List.mem_cons.mp member with
        | inl same => exact .inl (congrArg some same.symm)
        | inr member => exact .inr fun inside => (rest _).2 id member (List.mem_cons_of_mem _ inside)

/-- What repairing a list of groups does. -/
structure Repaired (original : Option String) (groups : List (MutableGroupState R)) (state : Repair)
    (out : List (MutableGroupState R) × Repair) : Prop where
  single : ∀ group ∈ out.1, (stringViews group.views).length ≤ 1
  views : (out.1.flatMap fun group => stringViews group.views) = groups.flatMap fun group => stringViews group.views
  used : state.used ⊆ out.2.used
  entered : groupIds out.1 ⊆ out.2.used
  nodup : (groupIds out.1).Nodup
  ids : ∀ id ∈ groupIds out.1, id ∈ groupIds groups ∨ id ∉ state.used
  shown : state.activeGroup = original → ∀ view, Shows groups original view → Shows out.1 out.2.activeGroup view
  kept : ∀ id, original = some id → id ∈ state.used → id ∉ groupIds groups → out.2.activeGroup = state.activeGroup
  empty : (state.activeGroup = some "" → original = some "") → out.2.activeGroup = some "" → original = some ""

theorem Repaired.refl (single : (stringViews group.views).length ≤ 1) (known : groupIds [group] ⊆ state.used) :
    Repaired original [group] state ([group], state) where
  single := by
    intro other member
    rw [List.mem_singleton.mp member]
    exact single
  views := rfl
  used := List.Subset.refl _
  entered := known
  nodup := by
    rw [groupIds_singleton]
    cases asString group.id with
    | none => exact List.nodup_nil
    | some id => exact List.nodup_singleton id
  ids := fun _ member => .inl member
  shown := by
    intro same view shows
    rw [← same] at shows
    exact shows
  kept := fun _ _ _ _ => rfl
  empty := fun named => named

theorem Repaired.split :
    Repaired original [group] state (repairGroup original group state) where
  single := by
    intro other member
    have listed : stringViews other.views ∈ (repairGroup original group state).1.map (fun group => stringViews group.views) :=
      List.mem_map_of_mem member
    unfold repairGroup at listed
    rw [views_splitViews] at listed
    obtain ⟨view, _, same⟩ := List.mem_map.mp listed
    rw [← same]
    exact le_rfl
  views := by
    rw [List.flatMap_def, List.flatMap_singleton]
    unfold repairGroup
    rw [views_splitViews]
    rw [← List.flatMap_def, List.flatMap_singleton']
  used := by
    apply List.Subset.trans _ used_splitViews
    dsimp only
    split
    · exact List.Subset.refl _
    · exact List.subset_cons_self _ _
  entered := ids_used
  nodup := ids_repairGroup.1
  ids := by
    intro id member
    rw [mem_groupIds_singleton]
    exact ids_repairGroup.2 id member
  shown := by
    rintro _ view ⟨id, active, other, member, named, shows⟩
    rw [List.mem_singleton.mp member] at named shows
    unfold repairGroup
    rw [named, shows]
    exact active_splitViews.1 ⟨active, activeViewOf_mem shows⟩
  kept := by
    intro id active inside other
    rw [mem_groupIds_singleton] at other
    apply active_splitViews.2
    rintro ⟨same, _⟩
    rw [active] at same
    cases named : asString group.id with
    | none =>
      rw [named, Option.getD_none] at same
      rw [Option.some.inj same] at inside
      exact nextGroupId_fresh _ _ inside
    | some groupId =>
      rw [named, Option.getD_some] at same
      exact other (named.trans same.symm)
  empty := fun named => active_ne_empty named

theorem Repaired.append {first second : List (MutableGroupState R)} {out last : List (MutableGroupState R) × Repair}
    (known : groupIds (first ++ second) ⊆ state.used) (nodup : (groupIds (first ++ second)).Nodup)
    (one : Repaired original first state out) (two : Repaired original second out.2 last) :
    Repaired original (first ++ second) state (out.1 ++ last.1, last.2) where
  single := by
    intro group member
    cases List.mem_append.mp member with
    | inl member => exact one.single group member
    | inr member => exact two.single group member
  views := by rw [List.flatMap_append, List.flatMap_append, one.views, two.views]
  used := List.Subset.trans one.used two.used
  entered := by
    rw [groupIds_append]
    exact List.append_subset.mpr ⟨List.Subset.trans one.entered two.used, two.entered⟩
  nodup := by
    rw [groupIds_append] at nodup ⊢
    refine List.nodup_append.mpr ⟨one.nodup, two.nodup, fun id inFirst other inSecond same => ?_⟩
    cases two.ids id (same ▸ inSecond) with
    | inr fresh => exact fresh (one.entered inFirst)
    | inl old =>
      cases one.ids id inFirst with
      | inl older => exact (List.nodup_append.mp nodup).2.2 id older id old rfl
      | inr fresh => exact fresh (known (by rw [groupIds_append]; exact List.mem_append_right _ old))
  ids := by
    intro id member
    rw [groupIds_append] at member ⊢
    cases List.mem_append.mp member with
    | inl member => exact (one.ids id member).imp_left (List.mem_append_left _)
    | inr member =>
      cases two.ids id member with
      | inl old => exact .inl (List.mem_append_right _ old)
      | inr fresh => exact .inr fun inside => fresh (one.used inside)
  shown := by
    rintro same view ⟨id, active, group, member, named, shows⟩
    rw [groupIds_append] at known nodup
    have apart := (List.nodup_append.mp nodup).2.2
    have listed : ∀ groups : List (MutableGroupState R), group ∈ groups → id ∈ groupIds groups :=
      fun groups member => List.mem_filterMap.mpr ⟨group, member, named⟩
    cases List.mem_append.mp member with
    | inl member =>
      obtain ⟨now, isActive, holder, held, shown⟩ := one.shown same view ⟨id, active, group, member, named, shows⟩
      have still := two.kept id active (one.used (known (List.mem_append_left _ (listed _ member))))
        fun again => apart id (listed _ member) id again rfl
      exact ⟨now, still.trans isActive, holder, List.mem_append_left _ held, shown⟩
    | inr member =>
      have still := one.kept id active (known (List.mem_append_right _ (listed _ member)))
        fun again => apart id again id (listed _ member) rfl
      obtain ⟨now, isActive, holder, held, shown⟩ :=
        two.shown (still.trans same) view ⟨id, active, group, member, named, shows⟩
      exact ⟨now, isActive, holder, List.mem_append_right _ held, shown⟩
  kept := by
    intro id active inside other
    rw [groupIds_append] at other
    rw [two.kept id active (one.used inside) fun again => other (List.mem_append_right _ again)]
    exact one.kept id active inside fun again => other (List.mem_append_left _ again)
  empty := fun named => two.empty (one.empty named)

theorem repaired_repairGroups (known : groupIds groups ⊆ state.used) (nodup : (groupIds groups).Nodup) :
    Repaired original groups state (repairGroups original groups state) := by
  induction groups generalizing state with
  | nil =>
    exact ⟨fun _ member => absurd member List.not_mem_nil, rfl, List.Subset.refl _, List.nil_subset _, List.nodup_nil,
      fun _ member => absurd member List.not_mem_nil, fun same _ shows => by rw [← same] at shows; exact shows,
      fun _ _ _ _ => rfl, fun named => named⟩
  | cons group rest ih =>
    have all : group :: rest = [group] ++ rest := rfl
    rw [all, groupIds_append] at known nodup
    have parts := List.append_subset.mp known
    have first : Repaired original [group] state
        (if (stringViews group.views).length ≤ 1 then ([group], state) else repairGroup original group state) := by
      split
      · rename_i single
        exact .refl single parts.1
      · exact .split
    have later := nodup.sublist (List.sublist_append_right _ _)
    rw [← groupIds_append] at known nodup
    exact first.append known nodup (ih (List.Subset.trans parts.2 first.used) later)

end Groups

/-! ### The whole layout -/

section Whole

variable {layout : MutableDockview R S}

mutual

theorem single_of_hasStackedLeaf {node : MutableNode R} (flat : hasStackedLeaf node = false) :
    ∀ group ∈ node.groups, (stringViews group.views).length ≤ 1 := by
  cases node with
  | leaf data size visible =>
    intro group member
    rw [MutableNode.groups] at member
    rw [List.mem_singleton.mp member]
    rw [hasStackedLeaf] at flat
    exact not_lt.mp (of_decide_eq_false flat)
  | branch data size =>
    rw [hasStackedLeaf] at flat
    exact single_of_anyStackedLeaf flat

theorem single_of_anyStackedLeaf {nodes : List (MutableNode R)} (flat : anyStackedLeaf nodes = false) :
    ∀ group ∈ groupsOf nodes, (stringViews group.views).length ≤ 1 := by
  cases nodes with
  | nil => nofun
  | cons child rest =>
    rw [anyStackedLeaf, Bool.or_eq_false_iff] at flat
    intro group member
    rw [groupsOf] at member
    cases List.mem_append.mp member with
    | inl member => exact single_of_hasStackedLeaf flat.1 group member
    | inr member => exact single_of_anyStackedLeaf flat.2 group member

end

mutual

theorem hasStackedLeaf_of_single {node : MutableNode R}
    (single : ∀ group ∈ node.groups, (stringViews group.views).length ≤ 1) : hasStackedLeaf node = false := by
  cases node with
  | leaf data size visible =>
    rw [hasStackedLeaf]
    exact decide_eq_false (not_lt.mpr (single data (List.mem_singleton_self _)))
  | branch data size =>
    rw [hasStackedLeaf]
    exact anyStackedLeaf_of_single single

theorem anyStackedLeaf_of_single {nodes : List (MutableNode R)}
    (single : ∀ group ∈ groupsOf nodes, (stringViews group.views).length ≤ 1) : anyStackedLeaf nodes = false := by
  cases nodes with
  | nil => rfl
  | cons child rest =>
    rw [groupsOf] at single
    rw [anyStackedLeaf, Bool.or_eq_false_iff]
    exact ⟨hasStackedLeaf_of_single fun group member => single group (List.mem_append_left _ member),
      anyStackedLeaf_of_single fun group member => single group (List.mem_append_right _ member)⟩

end

def MutableDockview.views (layout : MutableDockview R S) : List String :=
  layout.root.groups.flatMap fun group => stringViews group.views

/-- What is asked of the layout that comes of `before`. -/
structure Unstacked (before after : MutableDockview R S) : Prop where
  single : ∀ group ∈ after.root.groups, (stringViews group.views).length ≤ 1
  views : after.views = before.views
  ids : (groupIds after.root.groups).Nodup
  shows : ∀ view, Shows before.root.groups (asString before.activeGroup) view →
    Shows after.root.groups (asString after.activeGroup) view

theorem unstackSerializedDockview_of_flat (flat : hasStackedLeaf layout.root = false) :
    unstackSerializedDockview layout = layout := by
  unfold unstackSerializedDockview
  rw [flat]
  rfl

theorem unstacked_unstackSerializedDockview (distinct : (groupIds layout.root.groups).Nodup) :
    Unstacked layout (unstackSerializedDockview layout) := by
  unfold unstackSerializedDockview
  split
  · rename_i flat
    exact ⟨single_of_hasStackedLeaf (by simpa using flat), rfl, distinct, fun _ shows => shows⟩
  · have repaired := @repaired_repairGroups R (asString layout.activeGroup) layout.root.groups
      ⟨groupIds layout.root.groups, asString layout.activeGroup⟩ (List.Subset.refl _) distinct
    rw [← groups_repairNode] at repaired
    refine ⟨repaired.single, repaired.views, repaired.nodup, ?_⟩
    intro view shows
    obtain ⟨id, active, holder⟩ := repaired.shown rfl view shows
    refine ⟨id, ?_, holder⟩
    dsimp only at active ⊢
    rw [active]
    dsimp only
    split
    · rename_i empty
      rw [empty] at active ⊢
      exact repaired.empty (fun same => same) active
    · rfl

theorem unstackSerializedDockview_spec (layout : MutableDockview R S) (distinct : (groupIds layout.root.groups).Nodup) :
    Unstacked layout (unstackSerializedDockview layout) ∧
      unstackSerializedDockview (unstackSerializedDockview layout) = unstackSerializedDockview layout ∧
      (hasStackedLeaf layout.root = false → unstackSerializedDockview layout = layout) := by
  have unstacked := unstacked_unstackSerializedDockview distinct
  have flat := hasStackedLeaf_of_single unstacked.single
  exact ⟨unstacked, unstackSerializedDockview_of_flat flat, unstackSerializedDockview_of_flat⟩

end Whole

private def tabs (id : String) (views : List Json) (activeView : Option Json) : MutableGroupState Unit :=
  ⟨some (.str id), some (.arr views), activeView, none, ()⟩

/-- The id for the second view of `g` is in use. -/
private def crowded : MutableDockview Unit Unit :=
  ⟨.branch [.leaf (tabs "g" [.str "a", .null, .str "b"] (some (.str "b"))) (some 300) none,
    .leaf (tabs "g-pane-2" [.str "c"] none) (some 200) none] none, none, some (.str "g"), ()⟩

theorem unstackSerializedDockview_crowded :
    (Unstacked crowded (unstackSerializedDockview crowded) ∧
      unstackSerializedDockview (unstackSerializedDockview crowded) = unstackSerializedDockview crowded ∧
      (hasStackedLeaf crowded.root = false → unstackSerializedDockview crowded = crowded)) ∧
    groupIds (unstackSerializedDockview crowded).root.groups = ["g", "g-pane-2-2", "g-pane-2"] ∧
    asString (unstackSerializedDockview crowded).activeGroup = some "g-pane-2-2" :=
  ⟨unstackSerializedDockview_spec crowded (by decide), by decide +kernel, by decide +kernel⟩

end VibeLink.Layout.Unstack
