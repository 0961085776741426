import VibeLink.Worktrees.Removing

/-! Removals of one worktree side by side, among scans: who has the row in removal. -/

namespace VibeLink.Worktrees

open Relational Program Call

/-- A call of `remove`, or a scan that brings the rows in line with the checkouts. -/
inductive Contender
  | remove (request : WorktreeRemoveRequest) (runtime : WorktreeRuntimeBlockers)
  | reconcile (request : WorktreeReconcileRequest)
  | list (scratch : String) (request : WorktreeListRequest)

def Contender.operation : Contender → Operation
  | .remove request runtime => .remove request runtime
  | .reconcile request => .reconcile request
  | .list scratch request => .list scratch request

/-- The record that a call has in removal, from when `prepareRemoval` has returned it until it has finalised it or has
tried to abort. -/
def Event.holds (held : Option WorktreeRecord) : Event → Option WorktreeRecord
  | ⟨.sql (.prepareRemoval _ _), .ok record⟩ => some record
  | ⟨.sql (.finalizeRemoval _ _), .ok changed⟩ => if changed = (1 : Nat) then none else held
  | ⟨.sql (.abortRemoval _ _), _⟩ => none
  | _ => held

def heldBy (past : Trace) : Option WorktreeRecord := past.foldl Event.holds none

/-- A call finalises and aborts what it has in removal itself, and has one removal at a time. -/
def Owned (past : Trace) : Instr → Prop
  | .sql (.prepareRemoval _ _) => heldBy past = none
  | .sql (.finalizeRemoval id instanceId) | .sql (.abortRemoval id instanceId) =>
    ∃ record, heldBy past = some record ∧ record.id = id ∧ record.instanceId = instanceId
  | .sql (.removeMetadataIfInstance _ _) => False
  | _ => True

def Instr.quiet : Instr → Bool
  | .sql (.prepareRemoval _ _) | .sql (.finalizeRemoval _ _) | .sql (.abortRemoval _ _)
  | .sql (.removeMetadataIfInstance _ _) => false
  | _ => true

abbrev Quiet {α : Type} (call : Call α) : Prop := call.Only fun i => i.quiet = true

theorem heldBy_append (past : Trace) (event : Event) : heldBy (past ++ [event]) = event.holds (heldBy past) := by
  rw [heldBy, List.foldl_append]
  rfl

theorem owned_of_quiet (past : Trace) (i : Instr) (quiet : i.quiet = true) : Owned past i := by
  unfold Owned
  split
  · cases quiet
  · cases quiet
  · cases quiet
  · cases quiet
  · trivial

theorem holds_of_quiet (held : Option WorktreeRecord) (event : Event) (quiet : event.1.quiet = true) :
    event.holds held = held := by
  unfold Event.holds
  split
  · cases quiet
  · cases quiet
  · cases quiet
  · rfl

theorem heldBy_of_quiet (past : Trace) (event : Event) (quiet : event.1.quiet = true) :
    heldBy (past ++ [event]) = heldBy past := by
  rw [heldBy_append, holds_of_quiet _ _ quiet]

theorem quiet_of_leavesRows (i : Instr) (leaves : i.leavesRows = true) : i.quiet = true := by
  unfold Instr.quiet
  split
  · cases leaves
  · cases leaves
  · cases leaves
  · cases leaves
  · rfl

theorem LeavesRows.quiet {α : Type} {call : Call α} (leaves : LeavesRows call) : Quiet call :=
  leaves.mono quiet_of_leavesRows

theorem quiet_reads {α : Type} {call : Call α} (reads : call.Reads) : Quiet call := (leavesRows_reads reads).quiet

section Removals

variable {request : WorktreeRemoveRequest} {runtime : WorktreeRuntimeBlockers} {past : Trace} {record : WorktreeRecord}
  {α β : Type}

def Keeping (record : WorktreeRecord) (past : Trace) : Except Failure α → Prop
  | .ok _ => True
  | .error _ => heldBy past = some record

theorem owned_bind {call : Call α} {f : α → Call β} (quiet : Quiet call) (held : heldBy past = some record)
    (rest : ∀ later a, heldBy later = some record → (f a).wp Possible Owned (Keeping record) later) :
    (call >>= f).wp Possible Owned (Keeping record) past :=
  wp_bind_of_view (v := heldBy) quiet owned_of_quiet heldBy_of_quiet (fun _ _ same => same.trans held)
    fun later a same => rest later a (same.trans held)

theorem owned_finalizeRemoval (held : heldBy past = some record) :
    (Call.finalizeRemoval record.id record.instanceId).wp Possible Owned (Keeping record) past := by
  refine wp_bind.2 (wp_bind.2 (wp_issue.2 ⟨⟨record, held, rfl, rfl⟩, fun reply _ => wp_pure.2 ?_⟩))
  cases reply with
  | error e =>
    refine wp_fail.2 ?_
    change heldBy _ = some record
    rw [heldBy_append, held]
    rfl
  | ok changed =>
    refine wp_pure.2 ?_
    by_cases done : changed = (1 : Nat)
    · subst done
      exact wp_pure.2 trivial
    · have fails : bailIf (decide (changed ≠ (1 : Nat))) "worktree removal metadata compare-and-swap failed" =
          .fail (.bail "worktree removal metadata compare-and-swap failed") := by
        rw [bailIf, if_pos (decide_eq_true done)]
      change (bailIf (decide (changed ≠ (1 : Nat))) _).wp Possible Owned (Keeping record) _
      rw [fails]
      refine wp_fail.2 ?_
      change heldBy _ = some record
      rw [heldBy_append, held]
      exact if_neg done

theorem owned_removePrepared (preflight : WorktreeRemovalPreflight) (held : heldBy past = some record) :
    (removePrepared request preflight record).wp Possible Owned (Keeping record) past := by
  refine owned_bind (quiet_reads (reads_stage _)) held fun _ _ held => ?_
  refine owned_bind (only_issued rfl) held fun _ reply held => ?_
  refine owned_bind (quiet_reads (reads_orBail reply)) held fun _ _ held => ?_
  refine owned_bind (quiet_reads reads_checkCancelled) held fun _ _ held => ?_
  refine owned_bind (quiet_reads (reads_isMissing _ _)) held fun _ missing held => ?_
  refine owned_bind (leavesRows_removeUnlessMissing request preflight record missing).quiet held fun _ _ held => ?_
  refine owned_bind (leavesRows_finishBranch request record).quiet held fun _ _ held => ?_
  refine owned_bind (leavesRows_finishSession _).quiet held fun _ _ held => ?_
  refine wp_bind.2 (wp_mono (owned_finalizeRemoval held) fun later result keeping => ?_)
  cases result with
  | ok _ => exact wp_pure.2 trivial
  | error failure => exact keeping

theorem owned_abortAfter (failure : Failure) (held : heldBy past = some record) :
    (abortAfter record failure).wp Possible Owned (fun _ _ => True) past := by
  have asks : (sql (.abortRemoval record.id record.instanceId)).wp Possible Owned (fun _ _ => True) past :=
    wp_bind.2 (wp_issue.2 ⟨⟨record, held, rfl, rfl⟩, fun reply _ =>
      wp_pure.2 (wp_of_only (quiet_reads (reads_orBail reply)) owned_of_quiet)⟩)
  have aborts : (Call.abortRemoval record.id record.instanceId).wp Possible Owned (fun _ _ => True) past :=
    wp_bind_of_ends asks (fun _ _ => trivial) fun _ _ _ _ => wp_of_only (quiet_reads (reads_bailIf _ _)) owned_of_quiet
  refine wp_bind.2 (wp_attempt.2 (wp_mono aborts fun later aborted _ => ?_))
  cases aborted with
  | ok _ => exact wp_fail.2 trivial
  | error _ => exact wp_fail.2 trivial

theorem owned_removeClaimed (free : heldBy past = none) :
    (removeClaimed request runtime).wp Possible Owned (fun _ _ => True) past := by
  have quietly {α : Type} {call : Call α} {f : α → Call WorktreeRemovalResult} {past : Trace} (quiet : Quiet call)
      (free : heldBy past = none)
      (rest : ∀ later a, heldBy later = none → (f a).wp Possible Owned (fun _ _ => True) later) :
      (call >>= f).wp Possible Owned (fun _ _ => True) past :=
    wp_bind_of_view (v := heldBy) quiet owned_of_quiet heldBy_of_quiet (fun _ _ _ => trivial)
      fun later a same => rest later a (same.trans free)
  refine quietly (quiet_reads (reads_stage _)) free fun _ _ free => ?_
  refine quietly (quiet_reads (reads_removalPreflight _ _)) free fun _ preflight free => ?_
  refine quietly (quiet_reads (reads_validateRemovalAcknowledgements _ _)) free fun _ _ free => ?_
  refine wp_bind.2 (wp_bind.2 (wp_issue.2 ⟨free, fun reply _ => wp_pure.2 ?_⟩))
  cases reply with
  | error e => exact wp_fail.2 trivial
  | ok record =>
    refine wp_pure.2 (wp_bind.2 (wp_attempt.2 (wp_mono (owned_removePrepared preflight (heldBy_append _ _)) ?_)))
    intro later result keeping
    cases result with
    | ok result => exact wp_pure.2 trivial
    | error failure => exact owned_abortAfter failure keeping

theorem owned_remove (request : WorktreeRemoveRequest) (runtime : WorktreeRuntimeBlockers) :
    (Call.remove request runtime).wp Possible Owned (fun _ _ => True) [] := by
  have free (past : Trace) (i : Instr) (reads : i.reads = true) : Owned past i :=
    owned_of_quiet past i (quiet_of_leavesRows i (leavesRows_of_reads i reads))
  refine wp_bind_of_only (reads_bailIf _ _) free (fun _ _ => trivial) fun segment _ _ validated => ?_
  rw [(ends_bailIf validated).1]
  exact wp_claimed free fun reply => wp_recorded free (owned_removeClaimed rfl)

end Removals

section Scans

theorem quiet_orBail {α : Type} (result : Except String α) : Quiet (orBail result) := quiet_reads (reads_orBail result)

theorem quiet_sql {statement : Statement} (quiet : (Instr.sql statement).quiet = true) : Quiet (sql statement) :=
  only_bind (only_issued quiet) fun reply => quiet_orBail reply

theorem quiet_readRecord (id : String) : Quiet (readRecord id) := quiet_reads (reads_readRecord id)

variable (repository : RepositoryIdentity) (record : WorktreeRecord) (native : NativeWorktree)

theorem quiet_renewInstance : Quiet (Call.renewInstance repository record native) :=
  only_bind (only_issued rfl) fun _ => only_bind (only_issued rfl) fun _ => only_bind (quiet_sql rfl) fun _ =>
    only_bind (quiet_reads (reads_bailIf _ _)) fun _ => only_bind (quiet_readRecord _) fun _ => only_pure _

theorem quiet_refreshRecord : Quiet (refreshRecord repository record native) :=
  only_bind (only_bind (only_issued rfl) fun _ => only_bind (quiet_sql rfl) fun _ => only_pure _) fun _ =>
    only_bind (quiet_readRecord _) fun _ => only_pure _

theorem quiet_setConflicted (state : WorktreeReconcileState) : Quiet (setConflicted record native state) :=
  only_bind (only_bind (quiet_sql rfl) fun _ => only_pure _) fun _ => only_pure _

theorem quiet_reconcileMatchedRecord : Quiet (reconcileMatchedRecord repository record native) :=
  only_ite (only_pure _) (only_ite (quiet_setConflicted _ _ _) (only_ite (quiet_renewInstance _ _ _)
    (only_ite (quiet_refreshRecord _ _ _) (quiet_setConflicted _ _ _))))

theorem quiet_externalProjection (state : WorktreeReconcileState) :
    Quiet (externalProjection repository native state) :=
  only_bind (only_issued rfl) fun _ => only_pure _

theorem quiet_matchRows (foreignPaths : List String) (native : List NativeWorktree) (records : List WorktreeRecord) :
    Quiet (matchRows repository foreignPaths native records) := by
  induction native generalizing records with
  | nil => exact only_pure _
  | cons first rest ih =>
    unfold matchRows
    apply only_ite
    · exact only_bind (quiet_externalProjection _ _ _) fun _ => only_bind (ih records) fun _ => only_pure _
    · cases records.find? fun record => record.normalizedWorktreePath == first.normalizedPath with
      | none => exact only_bind (quiet_externalProjection _ _ _) fun _ => only_bind (ih records) fun _ => only_pure _
      | some record =>
        exact only_bind (quiet_reconcileMatchedRecord _ _ _) fun _ => only_bind (ih _) fun _ => only_pure _

theorem quiet_resolveRepositoryIdentity (path : String) : Quiet (resolveRepositoryIdentity path) :=
  only_bind (only_issued rfl) fun reply => quiet_orBail reply

theorem quiet_scanNativeWorktrees (path : String) : Quiet (scanNativeWorktrees path) :=
  only_bind (only_issued rfl) fun reply => quiet_orBail reply

theorem quiet_reconcileUnmatched : Quiet (reconcileUnmatched record) := by
  refine only_bind (only_issued rfl) fun pathExists => only_bind ?_ fun state => only_bind ?_ fun _ => only_pure _
  · exact only_ite (only_pure _) (only_ite (only_bind (only_attempt (quiet_resolveRepositoryIdentity _)) fun _ =>
      only_pure _) (only_pure _))
  · exact only_ite (only_bind (quiet_sql rfl) fun _ => only_pure _) (only_pure _)

theorem quiet_each {α β : Type} {call : α → Call β} (quiet : ∀ a, Quiet (call a)) (as : List α) :
    Quiet (each call as) := by
  induction as with
  | nil => exact only_pure _
  | cons a rest ih => exact only_bind (quiet a) fun _ => only_bind ih fun _ => only_pure _

theorem quiet_reconcileScan (native : List NativeWorktree) : Quiet (reconcileScan repository native) :=
  only_bind (quiet_sql rfl) fun _ => only_bind (quiet_sql rfl) fun _ => only_bind (quiet_matchRows _ _ _ _) fun _ =>
    only_bind (quiet_each quiet_reconcileUnmatched _) fun _ => only_pure _

theorem quiet_insertNativeRecord (row : NativeRecord) : Quiet (insertNativeRecord repository native row) :=
  only_bind (quiet_orBail _) fun _ => only_bind (only_issued rfl) fun _ => only_bind (only_issued rfl) fun _ =>
    only_bind (only_issued rfl) fun _ => only_bind (only_issued rfl) fun _ => only_bind (quiet_sql rfl) fun _ =>
      quiet_readRecord _

theorem quiet_pathsEqual (left right : String) : Quiet (pathsEqual left right) :=
  only_bind (only_issued rfl) fun _ => only_bind (only_issued rfl) fun _ => only_pure _

theorem quiet_repositoryPathBelongsToIdentity (path : String) :
    Quiet (repositoryPathBelongsToIdentity path repository) :=
  only_ite (only_pure _) (only_bind (quiet_pathsEqual _ _) fun _ => only_ite (only_pure _)
    (only_bind (only_attempt (quiet_resolveRepositoryIdentity _)) fun _ => only_pure _))

theorem quiet_legacyMainParent (row : LegacyWorktreeRow) (main : Option NativeWorktree) :
    Quiet (legacyMainParent repository row main) := by
  cases main with
  | none => exact only_pure _
  | some main =>
    refine only_bind (quiet_sql rfl) fun existing => ?_
    cases existing with
    | none => exact only_bind (quiet_insertNativeRecord _ _ _) fun _ => only_pure _
    | some existing =>
      exact only_ite (only_pure _) (only_ite (only_pure _) (only_ite (only_bind (only_bind (quiet_sql rfl) fun _ =>
        only_pure _) fun _ => only_pure _) (only_pure _)))

theorem quiet_legacyParent (native : List NativeWorktree) (row : LegacyWorktreeRow) (normalized : String) :
    Quiet (legacyParent repository native row normalized) := by
  refine only_bind (quiet_sql rfl) fun named => ?_
  cases named.filter (provesParent repository native normalized) with
  | some parent => exact only_pure _
  | none => exact only_bind (quiet_repositoryPathBelongsToIdentity _ _) fun _ =>
      only_ite (quiet_legacyMainParent _ _ _) (only_pure _)

theorem quiet_insertUnproven (normalized : String) (row : LegacyWorktreeRow) (baseRef : String)
    (parent : Option WorktreeRecord) (sourceProven : Bool) :
    Quiet (insertUnproven repository normalized row baseRef parent sourceProven) :=
  only_bind (only_issued rfl) fun _ => only_bind (only_issued rfl) fun _ => only_bind (only_issued rfl) fun _ =>
    only_bind (quiet_sql rfl) fun _ => only_pure _

theorem quiet_insertLegacy (normalized : String) (row : LegacyWorktreeRow) (baseRef : String)
    (parent : Option WorktreeRecord) (sourceProven : Bool) (native : Option NativeWorktree) :
    Quiet (insertLegacy repository normalized row baseRef parent sourceProven native) := by
  cases native with
  | none => exact quiet_insertUnproven _ _ _ _ _ _
  | some native =>
    exact only_ite (only_bind (quiet_insertNativeRecord _ _ _) fun _ => only_pure _) (quiet_insertUnproven _ _ _ _ _ _)

theorem quiet_importLegacyRow (native : List NativeWorktree) (row : LegacyWorktreeRow) :
    Quiet (importLegacyRow repository native row) := by
  refine only_bind (quiet_sql rfl) fun known => ?_
  cases known with
  | some known => exact only_pure _
  | none => exact only_bind (only_issued rfl) fun _ => only_bind (quiet_reads (reads_provenCommitId _ _)) fun _ =>
      only_bind (quiet_legacyParent _ _ _ _) fun _ => quiet_insertLegacy _ _ _ _ _ _ _

theorem quiet_remoteProjections (repositoryPath : String) : Quiet (remoteProjections repositoryPath) :=
  only_bind (only_issued rfl) fun _ => only_bind (quiet_sql rfl) fun _ => only_pure _

theorem quiet_reconcile (request : WorktreeReconcileRequest) : Quiet (Call.reconcile request) :=
  only_ite (quiet_remoteProjections _) (only_bind (quiet_resolveRepositoryIdentity _) fun _ =>
    only_bind (quiet_scanNativeWorktrees _) fun _ => only_bind (only_ite (only_pure _)
      (only_bind (quiet_each (quiet_importLegacyRow _ _) _) fun _ => only_pure _)) fun _ => quiet_reconcileScan _ _)

theorem quiet_hiddenExternal (scratch : String) (projection : WorktreeProjection) :
    Quiet (hiddenExternal scratch projection) := by
  unfold hiddenExternal
  split
  · exact only_bind (only_issued rfl) fun _ => only_bind (only_issued rfl) fun _ => only_pure _
  · exact only_pure _

theorem quiet_retainShown (scratch : String) (request : WorktreeListRequest) (projections : List WorktreeProjection) :
    Quiet (retainShown scratch request projections) :=
  only_bind (quiet_each (fun _ => only_bind (quiet_hiddenExternal _ _) fun _ => only_pure _) _) fun _ => only_pure _

theorem quiet_listAll : Quiet listAll :=
  only_bind (quiet_sql rfl) fun _ => only_bind (quiet_each (fun _ => only_bind (only_issued rfl) fun _ => only_pure _) _)
    fun _ => only_bind (quiet_each (fun _ => only_bind (only_attempt (quiet_reconcile _)) fun _ => only_pure _) _)
      fun _ => only_pure _

theorem quiet_list (scratch : String) (request : WorktreeListRequest) : Quiet (Call.list scratch request) := by
  unfold Call.list
  cases request.repositoryPath with
  | some repositoryPath => exact only_bind (quiet_reconcile _) fun _ => quiet_retainShown _ _ _
  | none => exact only_bind quiet_listAll fun _ => only_bind (quiet_retainShown _ _ _) fun _ => only_pure _

end Scans

theorem owned_program (contender : Contender) :
    contender.operation.program.wp Possible Owned (fun _ _ => True) [] := by
  have alone {α : Type} {call : Call α} (goes : call.wp Possible Owned (fun _ _ => True) []) :
      call.alone.wp Possible Owned (fun _ _ => True) [] :=
    wp_bind_of_ends goes (fun _ _ => trivial) fun _ _ _ _ => wp_pure.2 trivial
  cases contender with
  | remove request runtime => exact alone (owned_remove request runtime)
  | reconcile request => exact alone (wp_of_only (quiet_reconcile request) owned_of_quiet)
  | list scratch request => exact alone (wp_of_only (quiet_list scratch request) owned_of_quiet)

section Rows

variable {s : Registry} {record : WorktreeRecord} {statement : Statement}

def Registry.Removing (s : Registry) (record : WorktreeRecord) : Prop :=
  ∃ row, s.worktrees.find record.id = some row ∧ row.lifecycle = .removing ∧ row.instanceId = record.instanceId

theorem Registry.InRemoval.removing (inRemoval : s.InRemoval record) : s.Removing record := by
  obtain ⟨row, found, lifecycle, same⟩ := inRemoval
  exact ⟨row, found, lifecycle, (identity_eq.1 same).1⟩

theorem instanceId_of_rewrites {row row' : WorktreeRecord} (rewrites : statement.Rewrites row row') :
    row'.instanceId = row.instanceId := by
  cases rewrites with
  | kept made => exact (identity_eq.1 made).1
  | bindLegacySession _ _ made | rebindImported _ made | bindSession _ made | compareAndSwapPath _ _ made =>
    exact (identity_eq.1 made).1

theorem perform_stillRemoving (removing : s.Removing record) (unsettled : statement.settles record = false)
    (retained : statement.discards record = false) : (statement.perform s).1.Removing record := by
  obtain ⟨row, found, lifecycle, same⟩ := removing
  have key : row.id = record.id := Table.key_of_find found
  obtain ⟨row', there, still, rewrites⟩ := perform_removing statement found lifecycle
    ((settles_congr statement key same).trans unsettled) ((discards_congr statement key same).trans retained)
  exact ⟨row', there, still, (instanceId_of_rewrites rewrites).trans same⟩

theorem finalize_removing (removing : s.Removing record) :
    ((Statement.finalizeRemoval record.id record.instanceId).perform s).2 = .ok (1 : Nat) := by
  obtain ⟨row, found, lifecycle, same⟩ := removing
  obtain ⟨s', deleted, _⟩ := @Registry.delete_eq s fun row =>
    isInstance record.id record.instanceId row && isRemoving row
  have counted := @Registry.count_isInstance s record.id record.instanceId isRemoving
  dsimp only [Statement.perform]
  rw [deleted, counted, found, if_pos]
  simp [same, isRemoving, lifecycle]

theorem prepares_ok {id instanceId : String} (prepared : (s.prepareRemoval id instanceId).2 = .ok record) :
    (Statement.prepareRemoval id instanceId).prepares s = some record := by
  dsimp only [Statement.prepares]
  rw [prepared]
  rfl

theorem id_of_prepares {id instanceId : String} (prepared : (s.prepareRemoval id instanceId).2 = .ok record) :
    record.id = id := by
  obtain ⟨row, s', found, _, same, rows⟩ | ⟨_, same⟩ | ⟨_, _, _, same⟩ := s.prepareRemoval_cases id instanceId
  · rw [same] at prepared
    cases prepared
    exact (Table.key_of_find found :)
  · rw [same] at prepared
    cases prepared
  · rw [same] at prepared
    cases prepared

end Rows

section Runs

open Operations

variable {κ : Type} [DecidableEq κ] {pool : Operations κ} {step : Step κ}

def Operations.held (pool : Operations κ) (k : κ) : Option WorktreeRecord := heldBy (pool.calls k).1

/-- A removal that is prepared finds the row not in removal, or in removal for nobody any more. -/
def Operations.Uncontended (pool : Operations κ) (step : Step κ) : Prop :=
  ∀ id instanceId, pool.statement step = some (.prepareRemoval id instanceId) →
    ∀ row, pool.state.worktrees.find id = some row → row.lifecycle = .removing →
      ∀ k record, pool.held k = some record → record.id ≠ id

/-- Each record that is held is in removal, and for one call only. -/
structure Operations.Exclusive (pool : Operations κ) : Prop where
  owned : pool.Keeps Possible fun _ => Owned
  removing : ∀ k record, pool.held k = some record → pool.state.Removing record
  alone : ∀ k l record other, pool.held k = some record → pool.held l = some other → record.id = other.id → k = l

theorem holds_cases {s : Registry} {past : Trace} {statement : Statement} {record : WorktreeRecord}
    (owned : Owned past (.sql statement)) (removing : ∀ record, heldBy past = some record → s.Removing record)
    (holds : Event.holds (heldBy past) ⟨.sql statement, (statement.perform s).2⟩ = some record) :
    (heldBy past = some record ∧ statement.settles record = false) ∨
      ∃ id instanceId, statement = .prepareRemoval id instanceId ∧ (s.prepareRemoval id instanceId).2 = .ok record := by
  have quietly (quiet : (Instr.sql statement).quiet = true) (free : ∀ record, statement.settles record = false) :
      (heldBy past = some record ∧ statement.settles record = false) ∨
        ∃ id instanceId, statement = .prepareRemoval id instanceId ∧
          (s.prepareRemoval id instanceId).2 = .ok record := by
    rw [holds_of_quiet _ _ quiet] at holds
    exact .inl ⟨holds, free record⟩
  cases statement with
  | prepareRemoval id instanceId =>
    dsimp only [Statement.perform] at holds
    cases prepared : (s.prepareRemoval id instanceId).2 with
    | ok row =>
      rw [prepared] at holds
      exact .inr ⟨id, instanceId, rfl, prepared.trans (congrArg Except.ok (Option.some.inj holds))⟩
    | error e =>
      rw [prepared] at holds
      exact .inl ⟨holds, rfl⟩
  | finalizeRemoval id instanceId =>
    obtain ⟨mine, held, rfl, rfl⟩ := owned
    rw [finalize_removing (removing mine held)] at holds
    cases holds
  | abortRemoval id instanceId => cases holds
  | removeMetadataIfInstance => exact owned.elim
  | _ => exact quietly rfl fun _ => rfl

theorem held_next_other {k : κ} (other : k ≠ step.1) : (pool.next step).held k = pool.held k := by
  cases issued : (pool.calls step.1).2 with
  | pure a =>
    rw [next, Pool.next_of_not_issue fun i rest issues => nomatch issued.symm.trans issues]
  | fail e =>
    rw [next, Pool.next_of_not_issue fun i rest issues => nomatch issued.symm.trans issues]
  | issue i rest =>
    rw [next, Pool.next_of_issue issued]
    dsimp only [held]
    rw [Function.update_of_ne other]

theorem held_next_self {record : WorktreeRecord} (exclusive : pool.Exclusive)
    (holds : (pool.next step).held step.1 = some record) :
    (pool.held step.1 = some record ∧ ∀ statement, pool.statement step = some statement →
      statement.settles record = false) ∨
    ∃ id instanceId, pool.statement step = some (.prepareRemoval id instanceId) ∧
      (pool.state.prepareRemoval id instanceId).2 = .ok record := by
  have goes := exclusive.owned step.1
  cases issued : (pool.calls step.1).2 with
  | pure a =>
    rw [next, Pool.next_of_not_issue fun i rest issues => nomatch issued.symm.trans issues] at holds
    refine .inl ⟨holds, fun statement performed => ?_⟩
    obtain ⟨_, _, issues, _⟩ := statement_eq_some performed
    exact nomatch issued.symm.trans issues
  | fail e =>
    rw [next, Pool.next_of_not_issue fun i rest issues => nomatch issued.symm.trans issues] at holds
    refine .inl ⟨holds, fun statement performed => ?_⟩
    obtain ⟨_, _, issues, _⟩ := statement_eq_some performed
    exact nomatch issued.symm.trans issues
  | issue i rest =>
    rw [issued] at goes
    have owned := (Program.wp_issue.1 goes).1
    rw [next, Pool.next_of_issue issued] at holds
    dsimp only [held] at holds
    rw [Function.update_self, heldBy_append] at holds
    unfold Operations.statement
    rw [issued]
    cases i with
    | sql statement =>
      dsimp only
      cases answers : step.2 (.sql statement) with
      | error e =>
        rw [answers] at holds
        refine .inl ⟨?_, fun _ none => nomatch none⟩
        cases statement with
        | abortRemoval => cases holds
        | _ => exact holds
      | ok answer =>
        rw [answers] at holds
        obtain ⟨before, unsettled⟩ | ⟨id, instanceId, rfl, prepared⟩ :=
          holds_cases owned (exclusive.removing step.1) holds
        · refine .inl ⟨before, fun other same => ?_⟩
          cases same
          exact unsettled
        · exact .inr ⟨id, instanceId, rfl, prepared⟩
    | _ => exact .inl ⟨holds, fun _ none => nomatch none⟩

theorem settles_id {statement : Statement} {record : WorktreeRecord} (settles : statement.settles record = true) :
    ∃ id instanceId, (statement = .finalizeRemoval id instanceId ∨ statement = .abortRemoval id instanceId) ∧
      record.id = id := by
  cases statement with
  | finalizeRemoval id instanceId | abortRemoval id instanceId =>
    simp only [Statement.settles, isInstance, Bool.and_eq_true, beq_iff_eq] at settles
    exact ⟨id, instanceId, by simp, settles.1⟩
  | _ => cases settles

theorem Operations.Exclusive.settler (exclusive : pool.Exclusive) {statement : Statement} {record : WorktreeRecord} {k : κ}
    (performed : pool.statement step = some statement) (settles : statement.settles record = true)
    (held : pool.held k = some record) : k = step.1 := by
  have owned := statement_issued exclusive.owned performed
  obtain ⟨id, instanceId, rfl | rfl, key⟩ := settles_id settles
  · obtain ⟨mine, holds, same, _⟩ := owned
    exact exclusive.alone k step.1 record mine held holds (key.trans same.symm)
  · obtain ⟨mine, holds, same, _⟩ := owned
    exact exclusive.alone k step.1 record mine held holds (key.trans same.symm)

theorem Operations.Exclusive.next (exclusive : pool.Exclusive) (uncontended : pool.Uncontended step) :
    (pool.next step).Exclusive := by
  -- who holds a record afterwards has held it before, and nobody has finalised or aborted it, or has just prepared it
  have origin (k : κ) (record : WorktreeRecord) (holds : (pool.next step).held k = some record) :
      (pool.held k = some record ∧ ∀ statement, pool.statement step = some statement →
        statement.settles record = false) ∨
      k = step.1 ∧ ∃ id instanceId, pool.statement step = some (.prepareRemoval id instanceId) ∧
        (pool.state.prepareRemoval id instanceId).2 = .ok record := by
    by_cases here : k = step.1
    · subst here
      obtain before | prepared := held_next_self exclusive holds
      · exact .inl before
      · exact .inr ⟨rfl, prepared⟩
    · rw [held_next_other here] at holds
      refine .inl ⟨holds, fun statement performed => ?_⟩
      by_contra settles
      exact here (exclusive.settler performed (by simpa using settles) holds)
  have fresh {l : κ} {record other : WorktreeRecord} {id instanceId : String}
      (performed : pool.statement step = some (.prepareRemoval id instanceId))
      (prepared : (pool.state.prepareRemoval id instanceId).2 = .ok record) (held : pool.held l = some other) :
      record.id ≠ other.id := by
    intro same
    have key := id_of_prepares prepared
    obtain ⟨row, found, lifecycle, _⟩ := exclusive.removing l other held
    rw [← same, key] at found
    exact uncontended id instanceId performed row found lifecycle l other held (same.symm.trans key)
  constructor
  · exact Pool.Keeps.next exclusive.owned fun s i reply => ⟨s, reply, rfl⟩
  · intro k record holds
    rw [state_next]
    obtain ⟨before, unsettled⟩ | ⟨_, id, instanceId, performed, prepared⟩ := origin k record holds
    · have removing := exclusive.removing k record before
      cases performed : pool.statement step with
      | none => exact removing
      | some statement =>
        refine perform_stillRemoving removing (unsettled statement performed) ?_
        have owned := statement_issued exclusive.owned performed
        cases statement with
        | removeMetadataIfInstance => exact owned.elim
        | _ => rfl
    · rw [performed]
      exact (prepares_inRemoval (prepares_ok prepared)).removing
  · intro k l record other holds also same
    obtain ⟨before, _⟩ | ⟨here, _, _, performed, prepared⟩ := origin k record holds
    · obtain ⟨before', _⟩ | ⟨_, _, _, performed, prepared⟩ := origin l other also
      · exact exclusive.alone k l record other before before' same
      · exact absurd same.symm (fresh performed prepared before)
    · obtain ⟨before', _⟩ | ⟨here', _⟩ := origin l other also
      · exact absurd same (fresh performed prepared before')
      · exact here.trans here'.symm

theorem exclusive_run (s : Registry) (contenders : κ → Contender) (steps : List (Step κ))
    (uncontended : Throughout Operations.next Uncontended (started s fun k => (contenders k).operation) steps) :
    ((started s fun k => (contenders k).operation).run steps).Exclusive := by
  refine run_invariant (I := fun pool : Operations κ => pool.Exclusive) (fun _ _ => Exclusive.next) ?_ uncontended
  exact ⟨fun k => owned_program (contenders k), fun _ _ none => (nomatch none), fun _ _ _ _ none => (nomatch none)⟩

/-- Where no removal is prepared while another call has the row in removal: one call at a time has a row in removal, the
row is in removal as long, only the call that has it there takes it out, and the metadata is finalised when it says so. -/
theorem removal_exclusive (s : Registry) (contenders : κ → Contender) (steps : List (Step κ))
    (uncontended : Throughout Operations.next Uncontended (started s fun k => (contenders k).operation) steps) :
    let pool := (started s fun k => (contenders k).operation).run steps
    (∀ k l record other, pool.held k = some record → pool.held l = some other → record.id = other.id → k = l) ∧
    (∀ k record, pool.held k = some record → pool.state.Removing record) ∧
    (∀ step statement, pool.statement step = some statement → ∀ k record, pool.held k = some record →
      statement.settles record = true → k = step.1) ∧
    ∀ (step : Step κ) id instanceId, pool.statement step = some (.finalizeRemoval id instanceId) →
      ((Statement.finalizeRemoval id instanceId).perform pool.state).2 = .ok (1 : Nat) := by
  have exclusive := exclusive_run s contenders steps uncontended
  refine ⟨exclusive.alone, exclusive.removing, ?_, ?_⟩
  · exact fun step statement performed k record held settles => exclusive.settler performed settles held
  · intro step id instanceId performed
    obtain ⟨mine, held, rfl, rfl⟩ := statement_issued exclusive.owned performed
    exact finalize_removing (exclusive.removing step.1 mine held)

def cleanup (operationId : Nat) : WorktreeRemoveRequest := ⟨operationId, "worktree", "instance", false, false, none, []⟩

def abandoned : Registry :=
  holding { unmerged (cleanup 1) "head" with lifecycle := .active, sessionId := some "session" }

def inQuiet (k : Fin 2) (count : Nat) : List (Step (Fin 2)) := Surroundings.steps repository [] k "id" count

def scanned (k : Fin 2) : Contender := if k = 0 then .remove (cleanup 1) ⟨false, false⟩ else .reconcile ⟨"/repository", []⟩

def Statement.isPreparation : Statement → Bool
  | .prepareRemoval _ _ => true
  | _ => false

omit [DecidableEq κ] in
theorem uncontended_of_free (free : (pool.statement step).any Statement.isPreparation = true →
    ∀ k, (pool.held k).isNone = true) : pool.Uncontended step := by
  intro id instanceId performed _ _ _ k record held
  rw [performed] at free
  have none := free rfl k
  rw [held] at none
  cases none

theorem removal_exclusive_scanned :
    let pool := (started abandoned fun k => (scanned k).operation).run (inQuiet 0 9 ++ inQuiet 1 12)
    (∃ record, pool.held 0 = some record) ∧ ∀ k record, pool.held k = some record → pool.state.Removing record := by
  have free : Throughout Operations.next (fun pool step => (pool.statement step).any Statement.isPreparation = true →
      ∀ k, (pool.held k).isNone = true) (started abandoned fun k => (scanned k).operation)
      (inQuiet 0 9 ++ inQuiet 1 12) := by decide +kernel
  have uncontended := throughout_mono (fun _ _ => uncontended_of_free) free
  have holds : (((started abandoned fun k => (scanned k).operation).run (inQuiet 0 9 ++ inQuiet 1 12)).held 0).isSome = true := by
    decide +kernel
  exact ⟨Option.isSome_iff_exists.1 holds, (removal_exclusive abandoned scanned _ uncontended).2.1⟩

def colliding (k : Fin 2) : Contender := .remove (cleanup (k + 1)) ⟨false, false⟩

def uncleaned : Step (Fin 2) :=
  (1, fun
    | .cleanupResources _ => .error "resources"
    | i => (Surroundings.mk repository [] "id").answer i)

def Event.unfinalised : Event → Bool
  | ⟨.sql (.finalizeRemoval _ _), .ok changed⟩ => changed == (0 : Nat)
  | _ => false

/-- Two calls have the row in removal; the one that fails takes it out, and the other one, at its end, cannot finalise. -/
theorem removals_collide :
    let calls := started abandoned fun k => (colliding k).operation
    let both := calls.run (inQuiet 0 8 ++ List.replicate 8 uncleaned)
    let aborted := calls.run (inQuiet 0 8 ++ List.replicate 14 uncleaned)
    let ended := calls.run (inQuiet 0 8 ++ List.replicate 14 uncleaned ++ inQuiet 0 8)
    (∃ mine ∈ both.held 0, ∃ other ∈ both.held 1, mine.id = other.id) ∧
    (∃ mine ∈ aborted.held 0, ∃ row ∈ aborted.state.worktrees.find mine.id, row.lifecycle = .active) ∧
    (ended.calls 0).1.any Event.unfinalised = true := by
  decide +kernel

end Runs

end VibeLink.Worktrees
