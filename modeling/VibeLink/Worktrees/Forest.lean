import Mathlib.Data.List.Chain
import VibeLink.Relational.Ancestry
import VibeLink.Worktrees.Ledger

/-! The parents and children that the projections are shown with (`apply_lineage` of `app/git/worktree_registry.rs`). -/

namespace VibeLink.Worktrees

open Relational

section Cycles

variable {parents : List (String × String)} {path : List String} {a b cursor : String}

abbrev upward (parents : List (String × String)) : String → Option String := fun a => parents.lookup a

abbrev Climbs (parents : List (String × String)) : List String → Prop :=
  List.IsChain fun a b => upward parents a = some b

theorem above_of_climbs {l : List String} (climbs : Climbs parents (a :: l)) : ∀ b ∈ l, Above (upward parents) a b := by
  intro b member
  induction l generalizing a with
  | nil => cases member
  | cons c l ih =>
    obtain ⟨edge, rest⟩ := List.isChain_cons_cons.1 climbs
    cases member with
    | head => exact .single edge
    | tail _ later => exact .head edge (ih rest later)

theorem next_of_climbs {l : List String} (climbs : Climbs parents (l ++ [cursor])) (member : a ∈ l) :
    ∃ b ∈ (l ++ [cursor]).tail, upward parents a = some b := by
  obtain ⟨before, after, rfl⟩ := List.append_of_mem member
  rw [List.append_assoc, List.cons_append] at climbs ⊢
  obtain ⟨b, rest, split⟩ : ∃ b rest, after ++ [cursor] = b :: rest := List.exists_cons_of_ne_nil (by simp)
  rw [split] at climbs ⊢
  refine ⟨b, ?_, (List.isChain_append_cons_cons.1 climbs).2.1⟩
  cases before with
  | nil => exact List.mem_cons_self
  | cons first before => exact List.mem_append_right _ (List.mem_cons_of_mem _ List.mem_cons_self)

theorem above_of_mem_cycleNodes {steps : Nat} (climbs : Climbs parents (path ++ [cursor]))
    (member : a ∈ cycleNodes parents steps path cursor) : Above (upward parents) a a := by
  induction steps generalizing path cursor with
  | zero => cases member
  | succ steps ih =>
    rw [cycleNodes] at member
    split at member
    · cases member
    · rename_i parent edge
      split at member
      · rename_i back
        have drops : path.drop (path.idxOf cursor) = cursor :: path.drop (path.idxOf cursor + 1) := by
          rw [List.drop_eq_getElem_cons (List.idxOf_lt_length_of_mem back), List.getElem_idxOf]
        have round : Climbs parents (path.drop (path.idxOf cursor) ++ [cursor]) := by
          rw [← List.take_append_drop (path.idxOf cursor) path, List.append_assoc] at climbs
          exact climbs.right_of_append
        rw [drops] at member
        rw [drops, List.cons_append] at round
        have onward := above_of_climbs round
        cases member with
        | head => exact onward _ (List.mem_append_right _ List.mem_cons_self)
        | tail _ later =>
          obtain ⟨before, after, split⟩ := List.append_of_mem later
          rw [split, List.append_assoc, List.cons_append] at onward round
          rw [← List.cons_append] at round
          have rest : Climbs parents (a :: (after ++ [cursor])) := round.right_of_append
          have up := above_of_climbs rest cursor (List.mem_append_right _ List.mem_cons_self)
          exact up.trans (onward a (List.mem_append_right _ List.mem_cons_self))
      · refine ih ?_ member
        rw [List.append_assoc]
        exact List.isChain_append_cons_cons.2 ⟨climbs, edge, .singleton _⟩

theorem eq_of_climbs {tail : List String} (climbs : Climbs parents (a :: tail ++ [cursor])) (distinct : (a :: tail).Nodup)
    (cycle : Above (upward parents) a a) (back : cursor ∈ a :: tail) : cursor = a := by
  by_contra apart
  have within : cursor ∈ tail := by
    cases back with
    | head => exact absurd rfl apart
    | tail _ later => exact later
  have closed (b : String) (member : b ∈ a :: tail) (c : String) (edge : upward parents b = some c) : c ∈ tail := by
    obtain ⟨d, next, same⟩ := next_of_climbs climbs member
    cases edge.symm.trans same
    cases List.mem_append.1 (show c ∈ tail ++ [cursor] from next) with
    | inl inside => exact inside
    | inr last =>
      rw [List.mem_singleton.1 last]
      exact within
  have inside (b : String) (above : Above (upward parents) a b) : b ∈ tail := by
    induction above with
    | single edge => exact closed a List.mem_cons_self _ edge
    | tail _ edge ih => exact closed _ (List.mem_cons_of_mem _ ih) _ edge
  exact (List.nodup_cons.1 distinct).1 (inside a cycle)

theorem mem_cycleNodes_of_above {steps : Nat} (climbs : Climbs parents (path ++ [cursor])) (distinct : path.Nodup)
    (starts : (path ++ [cursor]).head? = some a) (cycle : Above (upward parents) a a)
    (enough : parents.length < steps + path.length) : a ∈ cycleNodes parents steps path cursor := by
  induction steps generalizing path cursor with
  | zero =>
    have keys : path ⊆ parents.map Prod.fst := by
      intro b member
      obtain ⟨c, _, edge⟩ := next_of_climbs climbs member
      obtain ⟨l₁, l₂, split, _⟩ := List.lookup_eq_some_iff.1 edge
      exact List.mem_map.2 ⟨(b, c), split ▸ List.mem_append_right _ List.mem_cons_self, rfl⟩
    have short := (distinct.subperm keys).length_le
    rw [List.length_map] at short
    omega
  | succ steps ih =>
    have goesOn : ∃ parent, upward parents cursor = some parent := by
      cases path with
      | nil =>
        cases starts
        obtain ⟨b, edge, _⟩ := Relation.TransGen.head'_iff.1 cycle
        exact ⟨b, edge⟩
      | cons first tail =>
        cases starts
        have up := above_of_climbs climbs cursor (List.mem_append_right _ List.mem_cons_self)
        obtain ⟨b, edge, _⟩ := Relation.TransGen.head'_iff.1 (above_of_above cycle up)
        exact ⟨b, edge⟩
    obtain ⟨parent, edge⟩ := goesOn
    rw [cycleNodes]
    simp only [show parents.lookup cursor = some parent from edge]
    split
    · rename_i back
      cases path with
      | nil => cases back
      | cons first tail =>
        cases starts
        rw [eq_of_climbs climbs distinct cycle back, List.idxOf_cons_self]
        exact List.mem_cons_self
    · rename_i fresh
      refine ih ?_ (List.nodup_append.2 ⟨distinct, List.nodup_singleton _, ?_⟩) ?_ ?_
      · rw [List.append_assoc]
        exact List.isChain_append_cons_cons.2 ⟨climbs, edge, .singleton _⟩
      · intro b member c last
        rw [List.mem_singleton.1 last]
        rintro rfl
        exact fresh member
      · rw [List.head?_append, starts]
        rfl
      · rw [List.length_append, List.length_singleton]
        omega

end Cycles

/-- The row is managed, its checkout is there, and that is proven to be the recorded one. -/
structure IsCurrent (projection : WorktreeProjection) (record : WorktreeRecord) : Prop where
  known : projection.record = some record
  managed : projection.state = .managed
  instance_ : projection.instanceId = some record.instanceId
  recorded : record.exists_ = true
  native : ∃ native, projection.native = some native ∧ native.exists_ = true ∧ native.gitDirIdentity ≠ "" ∧
    native.gitDirIdentity = record.gitDirIdentity

def WorktreeProjection.Named (projection : WorktreeProjection) : Prop := ∀ record ∈ projection.record, record.id = projection.id

def Own (projections : List WorktreeProjection) : Prop := ∀ projection ∈ projections, projection.Named

/-- The record of the one row says that the other is its parent, and both are current. -/
def StoredEdge (projections : List WorktreeProjection) (child parent : String) : Prop :=
  ∃ below ∈ projections, ∃ above ∈ projections, ∃ record parentRecord, IsCurrent below record ∧
    IsCurrent above parentRecord ∧ below.id = child ∧ above.id = parent ∧ record.parentWorktreeId = some parent ∧
    record.parentInstanceId = some parentRecord.instanceId ∧ record.repositoryId = parentRecord.repositoryId ∧
    child ≠ parent

def ParentEdge (projections : List WorktreeProjection) (child parent : String) : Prop :=
  ∃ projection ∈ projections, projection.id = child ∧ projection.parentWorktreeId = some parent

def OnCycle (projections : List WorktreeProjection) (id : String) : Prop := Relation.TransGen (StoredEdge projections) id id

section Edges

variable {projections : List WorktreeProjection} {projection : WorktreeProjection} {record : WorktreeRecord}
  {a b id : String}

theorem current_eq_some : projection.current = some record ↔ IsCurrent projection record := by
  unfold WorktreeProjection.current
  constructor
  · intro same
    split at same
    · rename_i known native recorded there
      split at same
      · rename_i proven
        cases same
        exact ⟨recorded, proven.1, proven.2.1, proven.2.2.1, native, there, proven.2.2.2⟩
      · cases same
    · cases same
  · intro current
    obtain ⟨native, there, proven⟩ := current.native
    rw [current.known, there]
    exact if_pos ⟨current.managed, current.instance_, current.recorded, proven⟩

theorem eq_of_id {other : WorktreeProjection} (distinct : (projections.map WorktreeProjection.id).Nodup)
    (member : projection ∈ projections) (also : other ∈ projections) (same : projection.id = other.id) :
    projection = other :=
  List.inj_on_of_nodup_map distinct member also same

theorem find_current (distinct : (projections.map WorktreeProjection.id).Nodup) (own : Own projections) :
    (projections.filterMap WorktreeProjection.current).find? (fun other => other.id == id) = some record ↔
      ∃ projection ∈ projections, IsCurrent projection record ∧ projection.id = id := by
  have named {projection : WorktreeProjection} {record : WorktreeRecord} (member : projection ∈ projections)
      (current : IsCurrent projection record) : record.id = projection.id := own projection member record current.known
  have found {record : WorktreeRecord} (there : (projections.filterMap WorktreeProjection.current).find?
      (fun other => other.id == id) = some record) : ∃ projection ∈ projections, IsCurrent projection record ∧
        projection.id = id := by
    obtain ⟨projection, member, same⟩ := List.mem_filterMap.1 (List.mem_of_find?_eq_some there)
    have current := current_eq_some.1 same
    have key : (record.id == id) = true := @List.find?_some _ (fun other : WorktreeRecord => other.id == id) _ _ there
    exact ⟨projection, member, current, (named member current).symm.trans (beq_iff_eq.1 key)⟩
  constructor
  · exact found
  · rintro ⟨projection, member, current, rfl⟩
    cases there : (projections.filterMap WorktreeProjection.current).find? (fun other => other.id == projection.id) with
    | none =>
      have absent := List.find?_eq_none.1 there record (List.mem_filterMap.2 ⟨projection, member, current_eq_some.2 current⟩)
      exact absurd (beq_iff_eq.2 (named member current)) absent
    | some other =>
      obtain ⟨projection', member', current', same⟩ := found there
      cases eq_of_id distinct member' member same
      exact current'.known.symm.trans current.known

def parentEdges (projections : List WorktreeProjection) : List (String × String) :=
  projections.filterMap fun projection => do
    let record ← projection.record
    let parent ← currentParent (projections.filterMap WorktreeProjection.current) record
    return (record.id, parent)

theorem mem_parentEdges (distinct : (projections.map WorktreeProjection.id).Nodup) (own : Own projections) :
    (a, b) ∈ parentEdges projections ↔ StoredEdge projections a b := by
  simp only [parentEdges, List.mem_filterMap, Option.bind_eq_bind, Option.bind_eq_some_iff]
  constructor
  · rintro ⟨below, member, record, known, parent, found, same⟩
    cases same
    unfold currentParent at found
    split at found
    · cases found
    · rename_i self there
      split at found
      · cases found
      · rename_i parentId names
        split at found
        · cases found
        · rename_i parentRecord up
          split at found
          · cases found
          · rename_i right
            cases found
            simp only [not_or, not_not] at right
            obtain ⟨below', member', current, named⟩ := (find_current distinct own).1 there
            obtain ⟨above, also, currentParent, key⟩ := (find_current distinct own).1 up
            cases eq_of_id distinct member' member (named.trans (own below member record known))
            cases current.known.symm.trans known
            have parentKey := own above also parentRecord currentParent.known
            rw [parentKey] at right ⊢
            exact ⟨below, member, above, also, record, parentRecord, current, currentParent, named, rfl, key ▸ names,
              right.2.2, right.2.1.symm, fun same => right.1 same.symm⟩
  · rintro ⟨below, member, above, also, record, parentRecord, current, currentParent_, rfl, rfl, names, is, same, apart⟩
    have key := own below member record current.known
    have parentKey := own above also parentRecord currentParent_.known
    refine ⟨below, member, record, current.known, above.id, ?_, by rw [key]; rfl⟩
    unfold currentParent
    simp only [(find_current distinct own).2 ⟨below, member, current, key.symm⟩, names,
      (find_current distinct own).2 ⟨above, also, currentParent_, rfl⟩]
    rw [if_neg, parentKey]
    rintro (loop | other | renewed)
    · exact apart (key.symm.trans (loop.symm.trans parentKey))
    · exact other same.symm
    · exact renewed is

theorem keys_parentEdges (own : Own projections) :
    (parentEdges projections).map Prod.fst |>.Sublist (projections.map WorktreeProjection.id) := by
  unfold parentEdges
  generalize projections.filterMap WorktreeProjection.current = current
  induction projections with
  | nil => exact .slnil
  | cons projection rest ih =>
    have later := ih fun other member => own other (List.mem_cons_of_mem _ member)
    rw [List.filterMap_cons]
    split
    · exact later.cons _
    · rename_i edge found
      simp only [Option.bind_eq_bind, Option.bind_eq_some_iff] at found
      obtain ⟨record, known, parent, _, same⟩ := found
      cases same
      rw [List.map_cons, List.map_cons, own projection List.mem_cons_self record known]
      exact later.cons_cons _

theorem lookup_iff_mem {edges : List (String × String)} (keys : (edges.map Prod.fst).Nodup) :
    edges.lookup a = some b ↔ (a, b) ∈ edges := by
  rw [List.lookup_eq_some_iff]
  constructor
  · rintro ⟨before, after, rfl, _⟩
    exact List.mem_append_right _ List.mem_cons_self
  · intro member
    obtain ⟨before, after, rfl⟩ := List.append_of_mem member
    refine ⟨before, after, rfl, fun edge inside => ?_⟩
    rw [List.map_append, List.map_cons, List.nodup_append] at keys
    simpa using (keys.2.2 edge.1 (List.mem_map_of_mem inside) a List.mem_cons_self).symm

end Edges

section Lineages

variable {projections : List WorktreeProjection} {a b : String}
  (distinct : (projections.map WorktreeProjection.id).Nodup) (own : Own projections)

def cycles (projections : List WorktreeProjection) : List String :=
  (parentEdges projections).flatMap fun start =>
    cycleNodes (parentEdges projections) ((parentEdges projections).length + 1) [] start.1

def straightEdges (projections : List WorktreeProjection) : List (String × String) :=
  (parentEdges projections).filter fun edge => !(cycles projections).contains edge.1 && !(cycles projections).contains edge.2

theorem applyLineage_eq : applyLineage projections = projections.map fun projection => { projection with
    parentWorktreeId := (straightEdges projections).lookup projection.id
    childWorktreeIds := orderBy (fun a b => decide (a ≤ b))
      (((straightEdges projections).filter fun edge => edge.2 == projection.id).map Prod.fst) } := rfl

include distinct own

theorem keys_nodup : ((parentEdges projections).map Prod.fst).Nodup := distinct.sublist (keys_parentEdges own)

theorem upward_eq : (fun a b => upward (parentEdges projections) a = some b) = StoredEdge projections := by
  funext a b
  exact propext ((lookup_iff_mem (keys_nodup distinct own)).trans (mem_parentEdges distinct own))

theorem mem_cycles : a ∈ cycles projections ↔ OnCycle projections a := by
  have same : Above (upward (parentEdges projections)) a a ↔ OnCycle projections a := by
    rw [Above, upward_eq distinct own]
    rfl
  rw [← same]
  constructor
  · intro member
    obtain ⟨start, _, found⟩ := List.mem_flatMap.1 member
    exact above_of_mem_cycleNodes (.singleton _) found
  · intro cycle
    obtain ⟨b, edge, _⟩ := Relation.TransGen.head'_iff.1 cycle
    have starts := (lookup_iff_mem (keys_nodup distinct own)).1 edge
    exact List.mem_flatMap.2 ⟨(a, b), starts, mem_cycleNodes_of_above (.singleton _) List.nodup_nil rfl cycle (by simp)⟩

theorem mem_straightEdges : (a, b) ∈ straightEdges projections ↔
    StoredEdge projections a b ∧ ¬OnCycle projections a ∧ ¬OnCycle projections b := by
  rw [straightEdges, List.mem_filter, mem_parentEdges distinct own, ← mem_cycles distinct own, ← mem_cycles distinct own]
  simp

theorem straight_nodup : ((straightEdges projections).map Prod.fst).Nodup :=
  (keys_nodup distinct own).sublist (List.filter_sublist.map _)

theorem parentEdge_iff : ParentEdge (applyLineage projections) a b ↔ (a, b) ∈ straightEdges projections := by
  rw [← lookup_iff_mem (straight_nodup distinct own), applyLineage_eq]
  constructor
  · rintro ⟨_, member, rfl, same⟩
    obtain ⟨projection, _, rfl⟩ := List.mem_map.1 member
    exact same
  · intro found
    obtain ⟨below, member, _, _, _, _, _, _, rfl, _⟩ :=
      ((mem_straightEdges distinct own).1 ((lookup_iff_mem (straight_nodup distinct own)).1 found)).1
    exact ⟨_, List.mem_map_of_mem member, rfl, found⟩

end Lineages

/-- The rows stay what they are but for their parents and children; the parents are the stored ones that are current and
not on a cycle, nor below one; no row is above itself; and each row has the children whose parent it is, in order. -/
theorem applyLineage_spec {projections : List WorktreeProjection}
    (distinct : (projections.map WorktreeProjection.id).Nodup) (own : Own projections) :
    ((applyLineage projections).map fun projection => { projection with
      parentWorktreeId := none, childWorktreeIds := [] }) =
        (projections.map fun projection => { projection with parentWorktreeId := none, childWorktreeIds := [] }) ∧
    (∀ child parent, ParentEdge (applyLineage projections) child parent ↔
      StoredEdge projections child parent ∧ ¬OnCycle projections child ∧ ¬OnCycle projections parent) ∧
    (∀ id, ¬Relation.TransGen (ParentEdge (applyLineage projections)) id id) ∧
    ∀ projection ∈ applyLineage projections, projection.childWorktreeIds.Pairwise (· ≤ ·) ∧
      projection.childWorktreeIds.Nodup ∧
      ∀ child, child ∈ projection.childWorktreeIds ↔ ParentEdge (applyLineage projections) child projection.id := by
  have edges (child parent : String) : ParentEdge (applyLineage projections) child parent ↔
      StoredEdge projections child parent ∧ ¬OnCycle projections child ∧ ¬OnCycle projections parent :=
    (parentEdge_iff distinct own).trans (mem_straightEdges distinct own)
  refine ⟨?_, edges, ?_, ?_⟩
  · rw [applyLineage_eq, List.map_map]
    rfl
  · intro id cycle
    obtain ⟨next, first, _⟩ := Relation.TransGen.head'_iff.1 cycle
    have stored : OnCycle projections id := Relation.TransGen.mono (fun child parent edge => ((edges child parent).1 edge).1) id id cycle
    exact ((edges id next).1 first).2.1 stored
  · intro row member
    rw [applyLineage_eq] at member
    obtain ⟨projection, _, rfl⟩ := List.mem_map.1 member
    dsimp only
    have total (a b : String) : decide (a ≤ b) = true ∨ decide (b ≤ a) = true := by
      simpa using String.le_total a b
    have trans (a b c : String) (first : decide (a ≤ b) = true) (second : decide (b ≤ c) = true) :
        decide (a ≤ c) = true := by
      rw [decide_eq_true_eq] at first second ⊢
      exact String.le_trans first second
    have sorted := pairwise_orderBy total trans
      (((straightEdges projections).filter fun edge => edge.2 == projection.id).map Prod.fst)
    refine ⟨sorted.imp fun before => of_decide_eq_true before, ?_, fun child => ?_⟩
    · exact (perm_orderBy _ _).nodup_iff.2 ((straight_nodup distinct own).sublist (List.filter_sublist.map _))
    · rw [mem_orderBy, parentEdge_iff distinct own]
      simp

theorem named_projectionForRecord (record : WorktreeRecord) (state : WorktreeReconcileState) (native : Option NativeWorktree) :
    (projectionForRecord record state native).Named := by
  intro known same
  cases same
  rfl

section Looped

def below (id : String) (parentWorktreeId : Option String) : WorktreeProjection :=
  let native := checkout id
  let row : NativeRecord := ⟨none, none, none, .manual, "skip", none, [], none, none, "HEAD"⟩
  projectionForRecord { row.record id id 0 repository "/repository" native with
    parentWorktreeId
    parentInstanceId := parentWorktreeId } .managed (some native)

/-- Three are in a circle and a fourth is below it; of the others one is below another. -/
def looped : List WorktreeProjection :=
  [below "a" (some "b"), below "b" (some "c"), below "c" (some "a"), below "d" (some "a"), below "e" (some "f"),
    below "f" none]

theorem applyLineage_looped : (applyLineage looped).map WorktreeProjection.parentWorktreeId =
      [none, none, none, none, some "f", none] ∧
    ∀ id, ¬Relation.TransGen (ParentEdge (applyLineage looped)) id id := by
  have own : Own looped := by
    intro projection member
    simp only [looped, List.mem_cons, List.not_mem_nil, or_false] at member
    obtain rfl | rfl | rfl | rfl | rfl | rfl := member <;> exact named_projectionForRecord _ _ _
  exact ⟨by decide +kernel, (applyLineage_spec (by decide +kernel) own).2.2.1⟩

end Looped

end VibeLink.Worktrees
