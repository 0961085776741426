import VibeLink.Relational.Ancestry
import VibeLink.Worktrees.Ledger
import VibeLink.Worktrees.Statements

/-! The parents of worktrees, and the walk up from one that is to be a parent. -/

namespace VibeLink.Worktrees

open Relational

def WorktreeRecord.lineage (record : WorktreeRecord) : String × Option String × Option String :=
  (record.instanceId, record.parentWorktreeId, record.parentInstanceId)

namespace Registry

def named (s : Registry) (id instanceId : Option String) : Option String :=
  id.bind fun id => (s.worktrees.find id).bind fun above => if instanceId = some above.instanceId then some id else none

/-- The parent of a worktree, if it still is the instance that has been its parent. -/
def parent (s : Registry) (id : String) : Option String :=
  (s.worktrees.find id).bind fun record => s.named record.parentWorktreeId record.parentInstanceId

variable {s s' : Registry} {id a b : String}

theorem named_eq_some {o instanceId : Option String} : s.named o instanceId = some b ↔
    o = some b ∧ ∃ above, s.worktrees.find b = some above ∧ instanceId = some above.instanceId := by
  simp only [named, Option.bind_eq_some_iff]
  constructor
  · rintro ⟨id, rfl, above, found, same⟩
    split at same
    · cases same
      exact ⟨rfl, above, found, ‹_›⟩
    · cases same
  · rintro ⟨rfl, above, found, same⟩
    exact ⟨b, rfl, above, found, if_pos same⟩

theorem parent_eq_some : s.parent a = some b ↔ ∃ record above, s.worktrees.find a = some record ∧
    record.parentWorktreeId = some b ∧ s.worktrees.find b = some above ∧
    record.parentInstanceId = some above.instanceId := by
  simp only [parent, Option.bind_eq_some_iff, named_eq_some]
  constructor
  · rintro ⟨record, found, names, above, there, same⟩
    exact ⟨record, above, found, names, there, same⟩
  · rintro ⟨record, above, found, names, there, same⟩
    exact ⟨record, found, names, above, there, same⟩

theorem parent_of_lineage (kept : ∀ id, (s'.worktrees.find id).map WorktreeRecord.lineage =
    (s.worktrees.find id).map WorktreeRecord.lineage) : s'.parent = s.parent := by
  have through (s : Registry) (id : String) : s.parent id =
      ((s.worktrees.find id).map WorktreeRecord.lineage).bind fun l => l.2.1.bind fun up =>
        ((s.worktrees.find up).map WorktreeRecord.lineage).bind fun above =>
          if l.2.2 = some above.1 then some up else none := by
    simp only [parent, named, Option.bind_map]
    rfl
  funext id
  rw [through, through, kept]
  congr 1
  funext l
  congr 1
  funext up
  rw [kept]

theorem update_parent {p : WorktreeRecord → Bool} {f : WorktreeRecord → WorktreeRecord} {same}
    (kept : ∀ record, (f record).lineage = record.lineage) : (s.update p f same).1.parent = s.parent := by
  obtain ⟨s', updated, rows⟩ | failed := @update_cases s p f same
  · rw [updated]
    apply parent_of_lineage
    intro id
    rw [rows]
    exact Table.map_find_update same kept id
  · rw [failed]

theorem delete_parent {p : WorktreeRecord → Bool} (edge : (s.delete p).1.parent a = some b) : s.parent a = some b := by
  obtain ⟨s', deleted, rows⟩ := @delete_eq s p
  rw [deleted] at edge
  obtain ⟨record, above, found, names, there, same⟩ := parent_eq_some.1 edge
  rw [rows, Table.find_retain, Option.filter_eq_some_iff] at found there
  exact parent_eq_some.2 ⟨record, above, found.1, names, there.1, same⟩

theorem parent_assign {record record' : WorktreeRecord} (found : s.worktrees.find id = some record)
    (there : s'.worktrees.find = Function.update s.worktrees.find id (some record'))
    (same : record'.instanceId = record.instanceId) :
    s'.parent = Function.update s.parent id (s.named record'.parentWorktreeId record'.parentInstanceId) := by
  have names (o instanceId : Option String) : s'.named o instanceId = s.named o instanceId := by
    simp only [named, there]
    congr 1
    funext up
    by_cases here : up = id
    · rw [here, Function.update_self, found, Option.bind_some, Option.bind_some, same]
    · rw [Function.update_of_ne here]
  funext other
  simp only [parent, names, there]
  by_cases here : other = id
  · rw [here, Function.update_self, Function.update_self, Option.bind_some]
  · rw [Function.update_of_ne here, Function.update_of_ne here]
    rfl

theorem acyclic_insert {record : WorktreeRecord} (acyclic : Acyclic s.parent)
    (there : s'.worktrees.find = Function.update s.worktrees.find record.id (some record))
    (fresh : ∀ a row, s'.worktrees.find a = some row → row.parentWorktreeId = some record.id →
      row.parentInstanceId ≠ some record.instanceId) : Acyclic s'.parent := by
  have unnamed (c : String) : s'.parent c ≠ some record.id := by
    intro edge
    obtain ⟨row, above, found, names, up, same⟩ := parent_eq_some.1 edge
    rw [there, Function.update_self] at up
    cases up
    exact fresh c row found names same
  refine acyclic.of_sources fun a b edge => ?_
  by_cases here : a = record.id
  · exact .inr fun c => here ▸ unnamed c
  · have apart : b ≠ record.id := by
      rintro rfl
      exact unnamed a edge
    obtain ⟨row, above, found, names, up, same⟩ := parent_eq_some.1 edge
    rw [there, Function.update_of_ne here] at found
    rw [there, Function.update_of_ne apart] at up
    exact .inl (parent_eq_some.2 ⟨row, above, found, names, up, same⟩)

theorem acyclic_renew {p : WorktreeRecord → Bool} {f : WorktreeRecord → WorktreeRecord} {same}
    (acyclic : Acyclic s.parent) (roots : ∀ record, (f record).parentWorktreeId = none) :
    Acyclic (s.update p f same).1.parent := by
  obtain ⟨s', updated, rows⟩ | failed := @update_cases s p f same
  · rw [updated]
    refine acyclic.of_sinks fun a b edge => ?_
    obtain ⟨record', above', found, names, up, is⟩ := parent_eq_some.1 edge
    rw [rows, Table.find_update, modifyAll_eq_some] at found up
    obtain ⟨record, found, rfl⟩ := found
    obtain ⟨above, up, rfl⟩ := up
    by_cases chosen : p record
    · rw [if_pos chosen, roots] at names
      cases names
    · by_cases renewed : p above
      · right
        simp only [parent, rows, Table.find_update, modifyAll, up, Option.map_some, if_pos renewed, Option.bind_some,
          roots]
        rfl
      · rw [if_neg chosen] at names is
        rw [if_neg renewed] at is
        exact .inl (parent_eq_some.2 ⟨record, above, found, names, up, is⟩)
  · rw [failed]
    exact acyclic

theorem not_reaches_of_walk {current : WorktreeRecord} {steps : Nat} {ancestor : WorktreeRecord}
    (ends : s.walk current steps ancestor = some (.ok ())) (found : s.worktrees.find ancestor.id = some ancestor) :
    ¬Reaches s.parent ancestor.id current.id := by
  induction steps generalizing ancestor with
  | zero => cases ends
  | succ steps ih =>
    rw [walk] at ends
    split at ends
    · cases ends
    · rename_i apart
      have up : s.parent ancestor.id = s.named ancestor.parentWorktreeId ancestor.parentInstanceId := by
        rw [parent, found, Option.bind_some]
      have stays (root : s.parent ancestor.id = none) : ¬Reaches s.parent ancestor.id current.id := by
        intro path
        cases Relation.ReflTransGen.cases_head path with
        | inl same => exact apart same
        | inr first =>
          obtain ⟨c, edge, _⟩ := first
          rw [root] at edge
          cases edge
      split at ends
      · rename_i alone
        exact stays (by rw [up, alone]; rfl)
      · rename_i nextId names
        split at ends
        · cases ends
        · rename_i next there
          split at ends
          · rename_i other
            exact stays (by simp [up, names, named, there, other])
          · rename_i is
            split at ends
            · cases ends
            · have edge : s.parent ancestor.id = some next.id := by
                have key : next.id = nextId := Table.key_of_find there
                simp only [ne_eq, not_not] at is
                simp [up, names, named, there, is, key]
              intro path
              have above := ih ends (by rw [show next.id = nextId from Table.key_of_find there]; exact there)
              cases Relation.ReflTransGen.cases_head path with
              | inl same => exact apart same
              | inr first =>
                obtain ⟨c, edge', rest⟩ := first
                rw [edge] at edge'
                cases edge'
                exact above rest

theorem walk_ends {current ancestor : WorktreeRecord} (acyclic : Acyclic s.parent)
    (found : s.worktrees.find ancestor.id = some ancestor) :
    s.walk current (s.worktrees.rows.length + 1) ancestor ≠ none := by
  have long {steps : Nat} {ancestor : WorktreeRecord} (goesOn : s.walk current steps ancestor = none)
      (found : s.worktrees.find ancestor.id = some ancestor) : (climb s.parent steps ancestor.id).length = steps := by
    induction steps generalizing ancestor with
    | zero => rfl
    | succ steps ih =>
      rw [walk] at goesOn
      split at goesOn
      · cases goesOn
      · split at goesOn
        · cases goesOn
        · rename_i nextId names
          split at goesOn
          · cases goesOn
          · rename_i next there
            have key : next.id = nextId := Table.key_of_find there
            split at goesOn
            · cases goesOn
            · rename_i is
              split at goesOn
              · cases goesOn
              · simp only [ne_eq, not_not] at is
                have edge : s.parent ancestor.id = some next.id := by
                  rw [parent, found, Option.bind_some, named_eq_some]
                  exact ⟨names.trans (congrArg some key.symm), next, key ▸ there, is⟩
                rw [climb, edge, Option.elim_some, List.length_cons, ih goesOn (key ▸ there)]
  intro goesOn
  have bound := @length_climb_le _ _ _ (s.worktrees.rows.map WorktreeRecord.id) acyclic (fun a b edge => ?_)
    (List.mem_map_of_mem (Table.mem_of_find found)) (s.worktrees.rows.length + 1)
  · rw [long goesOn found, List.length_map] at bound
    exact absurd bound (by omega)
  · obtain ⟨_, above, _, _, up, _⟩ := parent_eq_some.1 edge
    exact List.mem_map.2 ⟨above, Table.mem_of_find up, Table.key_of_find up⟩

end Registry

/-- The parent that the statement sets unchecked is not below the worktree, and a new worktree is nobody's parent. -/
def Statement.Straight (s : Registry) : Statement → Prop
  | .insertRecord record | .insertOrIgnore record => ∀ row ∈ record :: s.worktrees.rows,
    row.parentWorktreeId = some record.id → row.parentInstanceId ≠ some record.instanceId
  | .rebindImported _ _ parentWorktreeId parentInstanceId worktreeId instanceId =>
    ∀ record, s.worktrees.find worktreeId = some record → record.instanceId = instanceId →
      ∀ above, s.named parentWorktreeId parentInstanceId = some above → ¬Reaches s.parent above worktreeId
  | _ => True

section Steps

variable {s : Registry}

theorem Registry.acyclic_assign {s' : Registry} {id : String} {record record' : WorktreeRecord}
    (acyclic : Acyclic s.parent) (found : s.worktrees.find id = some record)
    (there : s'.worktrees.find = Function.update s.worktrees.find id (some record'))
    (same : record'.instanceId = record.instanceId)
    (apart : ∀ above, s.named record'.parentWorktreeId record'.parentInstanceId = some above → ¬Reaches s.parent above id) :
    Acyclic s'.parent := by
  rw [parent_assign found there same]
  cases named : s.named record'.parentWorktreeId record'.parentInstanceId with
  | some above => exact acyclic.update (apart above named)
  | none =>
    refine acyclic.mono fun a b edge => ?_
    by_cases here : a = id
    · rw [here, Function.update_self] at edge
      cases edge
    · rwa [Function.update_of_ne here] at edge

theorem Registry.insert_acyclic {record : WorktreeRecord} (acyclic : Acyclic s.parent)
    (fresh : ∀ row ∈ record :: s.worktrees.rows, row.parentWorktreeId = some record.id →
      row.parentInstanceId ≠ some record.instanceId) : Acyclic (s.insert record).1.parent := by
  obtain ⟨s', inserted, _, there⟩ | failed := s.insert_cases record
  · rw [inserted]
    refine acyclic_insert acyclic there fun a row found => fresh row ?_
    rw [there] at found
    obtain ⟨_, rfl⟩ | ⟨_, old⟩ := update_eq_some.1 found
    · exact List.mem_cons_self
    · exact List.mem_cons_of_mem _ (Table.mem_of_find old)
  · rw [failed]
    exact acyclic

/-- The parent that `set` gives a worktree has been walked up from, or there is none. -/
theorem Registry.setParent_apart {request : WorktreeSetRequest} {repository : RepositoryIdentity}
    {nativeRows : List NativeWorktree} {current : WorktreeRecord} {parent : Parent} {above : String}
    (acyclic : Acyclic s.parent) (found : s.worktrees.find current.id = some current)
    (assigned : s.setParent request repository nativeRows current = .ok parent)
    (named : s.named parent.worktreeId parent.instanceId = some above) : ¬Reaches s.parent above current.id := by
  unfold setParent at assigned
  split at assigned
  · cases assigned
    cases named
  · split at assigned
    · cases assigned
      have edge : s.parent current.id = some above := by rw [Registry.parent, found, Option.bind_some, named]
      exact fun path => acyclic _ (.head' edge path)
    · split at assigned
      · cases assigned
      · rename_i parent' there
        split at assigned
        · cases assigned
        · rename_i valid
          have same : _ = parent' := validatedParentRecord_eq valid
          split at assigned
          · cases assigned
          · cases assigned
          · rename_i walked
            cases assigned
            have key := (named_eq_some.1 named).1
            cases key
            refine not_reaches_of_walk walked ?_
            rw [same, Table.key_of_find there]
            exact there

theorem perform_acyclic (statement : Statement) (acyclic : Acyclic s.parent) (straight : statement.Straight s) :
    Acyclic (statement.perform s).1.parent := by
  have updated {p : WorktreeRecord → Bool} {f : WorktreeRecord → WorktreeRecord} {same}
      (kept : ∀ record, (f record).lineage = record.lineage) : Acyclic (s.update p f same).1.parent := by
    rw [Registry.update_parent kept]
    exact acyclic
  have deleted {p : WorktreeRecord → Bool} : Acyclic (s.delete p).1.parent :=
    acyclic.mono fun _ _ edge => Registry.delete_parent edge
  cases statement with
  | readRecord | readRecords | readRecordByPath | readRecordBySession => exact acyclic
  | prepareRemoval id instanceId =>
    have removing : (s.prepareRemoval id instanceId).1.parent = s.parent := by
      obtain ⟨record, s', _, _, same, rows⟩ | ⟨_, same⟩ | ⟨_, _, _, same⟩ := s.prepareRemoval_cases id instanceId
      · rw [same]
        apply Registry.parent_of_lineage
        intro other
        rw [rows, Relational.modify]
        split
        · rw [Option.map_map]
          rfl
        · rfl
      · rw [same]
      · rw [same]
    exact removing ▸ acyclic
  | finalizeRemoval | removeMetadataIfInstance => exact deleted
  | abortRemoval | updateRecordFromNative | setReconcileLifecycle | setUnmatched | bindLegacySession | bindSession
    | compareAndSwapPath => exact updated fun _ => rfl
  | renewInstance => exact Registry.acyclic_renew acyclic fun _ => rfl
  | set request repository nativeRows =>
    obtain ⟨current, parent, _, _, s', found, _, assigned, done, there⟩ | same :=
      s.set_cases request repository nativeRows
    · have key : current.id = request.worktreeId := Table.key_of_find found
      have kept : Acyclic s'.parent := Registry.acyclic_assign acyclic found there rfl fun above named =>
        key ▸ Registry.setParent_apart acyclic (key ▸ found) assigned named
      exact done ▸ kept
    · have kept : Acyclic (s.set request repository nativeRows).1.parent := by
        rw [same]
        exact acyclic
      exact kept
  | insertRecord record => exact Registry.insert_acyclic acyclic straight
  | insertOrIgnore record =>
    have kept := Registry.insert_acyclic acyclic straight
    dsimp only [Statement.perform]
    split
    · rename_i inserted
      rwa [inserted] at kept
    · exact acyclic
  | rebindImported sessionId parentSessionId parentWorktreeId parentInstanceId id instanceId =>
    by_cases meant : ∃ record, s.worktrees.find id = some record ∧ record.instanceId = instanceId
    · obtain ⟨record, found, right⟩ := meant
      obtain ⟨s', done, there⟩ := @Registry.update_instance s (fun record => { record with
        sessionId, parentSessionId, parentWorktreeId, parentInstanceId }) id instanceId record (fun _ => rfl)
        (fun _ => rfl) found right
      dsimp only [Statement.perform]
      rw [done]
      exact Registry.acyclic_assign acyclic found there rfl fun above named => straight record found right above named
    · have stale := @Registry.update_stale s (fun record => { record with
        sessionId, parentSessionId, parentWorktreeId, parentInstanceId }) id instanceId (fun _ => rfl)
        (fun record found right => meant ⟨record, found, right⟩) fun _ => true
      simp only [Bool.and_true] at stale
      have same : (Statement.perform s (.rebindImported sessionId parentSessionId parentWorktreeId parentInstanceId id
          instanceId)).1.parent = s.parent := Registry.parent_of_lineage fun other => by rw [← stale]; rfl
      exact same ▸ acyclic

end Steps

section Runs

open Operations

/-- Every registry that the operations come to, side by side, has its parents in order, and the walk up ends. -/
theorem lineage_acyclic {κ : Type} [DecidableEq κ] (operations : κ → Operation) (steps : List (Step κ))
    (straight : (started .empty operations).Meets (fun s statement => statement.Straight s) steps) :
    Acyclic ((started .empty operations).run steps).state.parent ∧
      ∀ current ancestor, ((started .empty operations).run steps).state.worktrees.find ancestor.id = some ancestor →
        ((started .empty operations).run steps).state.walk current
          (((started .empty operations).run steps).state.worktrees.rows.length + 1) ancestor ≠ none := by
  have acyclic : Acyclic ((started .empty operations).run steps).state.parent :=
    run_keeps (I := fun s => Acyclic s.parent) (fun s statement acyclic straight => perform_acyclic statement acyclic straight)
      acyclic_none straight
  exact ⟨acyclic, fun current ancestor found => Registry.walk_ends acyclic found⟩

/-- Two checkouts are imported, the second below the first; then the first is imported again, below the second. -/
def imports : Nat → Operation
  | 0 => .importExternal ⟨"/repository", "/a", none, some "a"⟩
  | 1 => .importExternal ⟨"/repository", "/b", some "a", some "b"⟩
  | 2 => .importExternal ⟨"/repository", "/c", none, some "c"⟩
  | _ => .importExternal ⟨"/repository", "/a", some "b", none⟩

def importSteps (k : Nat) (name : String) : List (Step Nat) :=
  Surroundings.steps repository [checkout "/a", checkout "/b", checkout "/c"] k name 24

def imported : List (Step Nat) := importSteps 0 "a" ++ importSteps 1 "b" ++ importSteps 2 "c"

/-- New ids that no row names, and no parent that is set unchecked. -/
def Statement.plain (s : Registry) : Statement → Bool
  | .insertRecord record | .insertOrIgnore record =>
    (record :: s.worktrees.rows).all fun row => decide (row.parentWorktreeId ≠ some record.id)
  | .rebindImported _ _ _ _ _ _ => false
  | _ => true

theorem straight_of_plain {s : Registry} {statement : Statement} (plain : statement.plain s = true) :
    statement.Straight s := by
  cases statement with
  | insertRecord record | insertOrIgnore record =>
    intro row member names
    exact absurd names (of_decide_eq_true (List.all_eq_true.1 plain row member))
  | rebindImported => cases plain
  | _ => trivial

theorem lineage_imported : Acyclic ((started .empty imports).run imported).state.parent ∧
    ∀ current ancestor, ((started .empty imports).run imported).state.worktrees.find ancestor.id = some ancestor →
      ((started .empty imports).run imported).state.walk current
        (((started .empty imports).run imported).state.worktrees.rows.length + 1) ancestor ≠ none := by
  have plain : Throughout next (fun pool step => (pool.statement step).all (Statement.plain pool.state) = true)
      (started .empty imports) imported := by decide +kernel
  refine lineage_acyclic imports imported (throughout_mono (fun pool step all statement performed => ?_) plain)
  rw [Option.mem_def.1 performed] at all
  exact straight_of_plain all

def reimported : Registry := ((started .empty imports).run (imported ++ importSteps 3 "d")).state

theorem walk_eq_none {s : Registry} {current : WorktreeRecord} {P : WorktreeRecord → Prop}
    (goesOn : ∀ record, P record → record.id ≠ current.id ∧ record.repositoryId = current.repositoryId ∧
      ∃ next, record.parentWorktreeId = some next.id ∧ s.worktrees.find next.id = some next ∧
        record.parentInstanceId = some next.instanceId ∧ P next) (steps : Nat) :
    ∀ record, P record → s.walk current steps record = none := by
  induction steps with
  | zero => exact fun _ _ => rfl
  | succ steps ih =>
    intro record holds
    obtain ⟨apart, _, next, names, found, same, again⟩ := goesOn record holds
    rw [Registry.walk, if_neg apart, names]
    dsimp only
    rw [found]
    dsimp only
    rw [if_neg (not_not_intro same), if_neg (not_not_intro (goesOn next again).2.1)]
    exact ih next again

theorem import_closes_cycle : ¬Acyclic reimported.parent ∧
    ∃ ancestor current, reimported.worktrees.find "a4" = some ancestor ∧ reimported.worktrees.find "c4" = some current ∧
      ∀ steps, reimported.walk current steps ancestor = none := by
  have up : reimported.parent "a4" = some "b5" := by decide +kernel
  have down : reimported.parent "b5" = some "a4" := by decide +kernel
  refine ⟨fun acyclic => acyclic "a4" (.head' up (.single down)), ?_⟩
  obtain ⟨a, foundA, b, foundB, c, foundC, facts⟩ : ∃ a ∈ reimported.worktrees.find "a4",
      ∃ b ∈ reimported.worktrees.find "b5", ∃ c ∈ reimported.worktrees.find "c4",
        (a.id ≠ c.id ∧ b.id ≠ c.id ∧ a.repositoryId = c.repositoryId ∧ b.repositoryId = c.repositoryId ∧
          a.parentWorktreeId = some b.id ∧ b.parentWorktreeId = some a.id) ∧
        a.parentInstanceId = some b.instanceId ∧ b.parentInstanceId = some a.instanceId := by decide +kernel
  obtain ⟨⟨ac, bc, ra, rb, upA, upB⟩, isB, isA⟩ := facts
  have keyA : a.id = "a4" := Table.key_of_find foundA
  have keyB : b.id = "b5" := Table.key_of_find foundB
  refine ⟨a, c, foundA, foundC, fun steps =>
    walk_eq_none (P := fun record => record = a ∨ record = b) ?_ steps a (.inl rfl)⟩
  rintro record (rfl | rfl)
  · exact ⟨ac, ra, b, upA, keyB ▸ foundB, isB, .inr rfl⟩
  · exact ⟨bc, rb, a, upB, keyA ▸ foundA, isA, .inl rfl⟩

end Runs

end VibeLink.Worktrees
