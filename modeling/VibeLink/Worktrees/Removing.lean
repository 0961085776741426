import VibeLink.Worktrees.Deletion
import VibeLink.Worktrees.Ledger

/-! A record in removal while other operations go on. -/

namespace VibeLink.Worktrees

open Relational

/-- What a removal relies on: the instance, its session, and which checkout it is. -/
def WorktreeRecord.identity (record : WorktreeRecord) :
    String × Option String × String × String × String × String × String :=
  (record.instanceId, record.sessionId, record.worktreePath, record.normalizedWorktreePath, record.gitDirIdentity,
    record.head, record.branch)

def WorktreeRecord.moved (record : WorktreeRecord) (native : NativeWorktree) : WorktreeRecord :=
  { record with
    worktreePath := native.worktreePath
    normalizedWorktreePath := native.normalizedPath
    gitDirIdentity := native.gitDirIdentity
    head := native.head
    branch := native.branch.getD "" }

/-- What a statement may make of a row in removal, apart from its lineage and its comment. -/
inductive Statement.Rewrites (row : WorktreeRecord) : Statement → WorktreeRecord → Prop
  | kept {statement row'} : row'.identity = row.identity → Rewrites row statement row'
  | bindLegacySession {sessionId id instanceId row'} : isInstance id instanceId row = true → row.sessionId = none →
    row'.identity = { row with sessionId := some sessionId }.identity →
    Rewrites row (.bindLegacySession sessionId id instanceId) row'
  | rebindImported {sessionId parentSessionId parentWorktreeId parentInstanceId id instanceId row'} :
    isInstance id instanceId row = true → row'.identity = { row with sessionId := sessionId }.identity →
    Rewrites row (.rebindImported sessionId parentSessionId parentWorktreeId parentInstanceId id instanceId) row'
  | bindSession {id instanceId sessionId row'} : isInstance id instanceId row = true →
    row'.identity = { row with sessionId := some sessionId }.identity →
    Rewrites row (.bindSession id instanceId sessionId) row'
  | compareAndSwapPath {id instanceId normalizedPath native row'} : isInstance id instanceId row = true →
    row.normalizedWorktreePath = normalizedPath → row'.identity = (row.moved native).identity →
    Rewrites row (.compareAndSwapPath id instanceId normalizedPath native) row'

def Statement.settles (record : WorktreeRecord) : Statement → Bool
  | .finalizeRemoval id instanceId | .abortRemoval id instanceId => isInstance id instanceId record
  | _ => false

def Statement.discards (record : WorktreeRecord) : Statement → Bool
  | .removeMetadataIfInstance id instanceId => isInstance id instanceId record
  | _ => false

section Statements

variable {s : Registry} {id : String} {row : WorktreeRecord}

theorem perform_removing (statement : Statement) (found : s.worktrees.find id = some row) (removing : row.lifecycle = .removing)
    (unsettled : statement.settles row = false) (retained : statement.discards row = false) :
    ∃ row', (statement.perform s).1.worktrees.find id = some row' ∧ row'.lifecycle = .removing ∧
      statement.Rewrites row row' := by
  have stays {s' : Registry} (there : s'.worktrees.find id = some row) : ∃ row', s'.worktrees.find id = some row' ∧
      row'.lifecycle = .removing ∧ statement.Rewrites row row' := ⟨row, there, removing, .kept rfl⟩
  have updated {p : WorktreeRecord → Bool} {f : WorktreeRecord → WorktreeRecord} {same}
      (made : p row = true → (f row).lifecycle = .removing ∧ statement.Rewrites row (f row)) :
      ∃ row', (s.update p f same).1.worktrees.find id = some row' ∧ row'.lifecycle = .removing ∧
        statement.Rewrites row row' := by
    cases @Registry.update_row s p f id row same found with
    | inl there => exact stays there
    | inr there => exact ⟨f row, there.2, made there.1⟩
  have active (q : Bool) : (q && !isRemoving row) ≠ true := by
    simp [isRemoving, removing]
  cases statement with
  | readRecord | readRecords | readRecordByPath | readRecordBySession => exact stays found
  | prepareRemoval other instanceId =>
    obtain ⟨_, s', _, _, same, rows⟩ | ⟨_, same⟩ | ⟨_, _, _, same⟩ := s.prepareRemoval_cases other instanceId
    · dsimp only [Statement.perform]
      rw [same]
      dsimp only
      rw [rows, Relational.modify]
      split
      · rename_i here
        rw [← here, found]
        exact ⟨_, rfl, rfl, .kept rfl⟩
      · exact stays found
    · dsimp only [Statement.perform]
      rw [same]
      exact stays found
    · dsimp only [Statement.perform]
      rw [same]
      exact stays found
  | finalizeRemoval other instanceId =>
    refine stays (Registry.delete_row found ?_)
    rw [show isInstance other instanceId row = false from unsettled, Bool.false_and]
  | abortRemoval other instanceId =>
    apply updated
    intro meant
    rw [show isInstance other instanceId row = false from unsettled, Bool.false_and] at meant
    cases meant
  | set request repository nativeRows =>
    obtain ⟨current, parent, _, _, s', there, _, _, done, rows⟩ | same := s.set_cases request repository nativeRows
    · dsimp only [Statement.perform]
      rw [done, rows]
      by_cases here : id = request.worktreeId
      · subst here
        cases found.symm.trans there
        rw [Function.update_self]
        exact ⟨_, rfl, removing, .kept rfl⟩
      · rw [Function.update_of_ne here]
        exact stays found
    · dsimp only [Statement.perform]
      rw [same]
      exact stays found
  | updateRecordFromNative | setReconcileLifecycle | setUnmatched => exact updated fun meant => absurd meant (active _)
  | renewInstance =>
    apply updated
    intro meant
    rw [removing] at meant
    simp at meant
  | insertRecord new => exact stays (Registry.insert_row found)
  | insertOrIgnore new =>
    have there := @Registry.insert_row s id row new found
    dsimp only [Statement.perform]
    split
    · rename_i inserted
      rw [inserted] at there
      exact stays there
    · exact stays found
  | bindLegacySession sessionId other instanceId =>
    apply updated
    intro meant
    simp only [Bool.and_eq_true, Option.isNone_iff_eq_none] at meant
    exact ⟨removing, .bindLegacySession meant.1 meant.2 rfl⟩
  | rebindImported =>
    apply updated
    intro meant
    exact ⟨removing, .rebindImported meant rfl⟩
  | bindSession =>
    apply updated
    intro meant
    exact ⟨removing, .bindSession meant rfl⟩
  | compareAndSwapPath =>
    apply updated
    intro meant
    simp only [Bool.and_eq_true, beq_iff_eq] at meant
    exact ⟨removing, .compareAndSwapPath meant.1 meant.2 rfl⟩
  | removeMetadataIfInstance => exact stays (Registry.delete_row found retained)

end Statements

section Custody

/-- The row is in removal and still is what the removal has been told. -/
def Registry.InRemoval (s : Registry) (record : WorktreeRecord) : Prop :=
  ∃ row, s.worktrees.find record.id = some row ∧ row.lifecycle = .removing ∧ row.identity = record.identity

/-- What the statement writes over the record, if that is the one it means, is what the record says already. -/
def Statement.Spares (record : WorktreeRecord) : Statement → Prop
  | .bindLegacySession _ id instanceId => isInstance id instanceId record = true → record.sessionId ≠ none
  | .rebindImported sessionId _ _ _ id instanceId => isInstance id instanceId record = true → sessionId = record.sessionId
  | .bindSession id instanceId sessionId => isInstance id instanceId record = true → record.sessionId = some sessionId
  | .compareAndSwapPath id instanceId normalizedPath native => isInstance id instanceId record = true →
    record.normalizedWorktreePath = normalizedPath → (record.moved native).identity = record.identity
  | .removeMetadataIfInstance id instanceId => isInstance id instanceId record = false
  | _ => True

instance decidableSpares (record : WorktreeRecord) : (statement : Statement) → Decidable (statement.Spares record)
  | .bindLegacySession _ id instanceId =>
    inferInstanceAs (Decidable (isInstance id instanceId record = true → record.sessionId ≠ none))
  | .rebindImported sessionId _ _ _ id instanceId =>
    inferInstanceAs (Decidable (isInstance id instanceId record = true → sessionId = record.sessionId))
  | .bindSession id instanceId sessionId =>
    inferInstanceAs (Decidable (isInstance id instanceId record = true → record.sessionId = some sessionId))
  | .compareAndSwapPath id instanceId normalizedPath native => inferInstanceAs (Decidable
      (isInstance id instanceId record = true → record.normalizedWorktreePath = normalizedPath →
        (record.moved native).identity = record.identity))
  | .removeMetadataIfInstance id instanceId => inferInstanceAs (Decidable (isInstance id instanceId record = false))
  | .readRecord _ | .readRecords _ | .readRecordByPath _ _ | .readRecordBySession _ | .prepareRemoval _ _
  | .finalizeRemoval _ _ | .abortRemoval _ _ | .set _ _ _ | .updateRecordFromNative _ _ _ _ | .renewInstance _ _ _ _ _
  | .setReconcileLifecycle _ _ | .setUnmatched _ _ _ | .insertRecord _ | .insertOrIgnore _ => .isTrue trivial

/-- What `prepareRemoval` returns. -/
def Statement.prepares (s : Registry) : Statement → Option WorktreeRecord
  | .prepareRemoval id instanceId => (s.prepareRemoval id instanceId).2.toOption
  | _ => none

/-- The records that are relied on, each from when it has been returned until it is finalised or aborted. -/
def Statement.custody (s : Registry) (held : List WorktreeRecord) (statement : Statement) : List WorktreeRecord :=
  (statement.prepares s).toList ++ held.filter fun record => !statement.settles record

variable {s : Registry} {record row : WorktreeRecord}

theorem identity_eq : row.identity = record.identity ↔ row.instanceId = record.instanceId ∧
    row.sessionId = record.sessionId ∧ row.worktreePath = record.worktreePath ∧
    row.normalizedWorktreePath = record.normalizedWorktreePath ∧ row.gitDirIdentity = record.gitDirIdentity ∧
    row.head = record.head ∧ row.branch = record.branch := by
  simp only [WorktreeRecord.identity, Prod.mk.injEq]

theorem isInstance_congr {id instanceId : String} (key : row.id = record.id) (same : row.instanceId = record.instanceId) :
    isInstance id instanceId row = isInstance id instanceId record := by
  rw [isInstance, isInstance, key, same]

theorem settles_congr (statement : Statement) (key : row.id = record.id) (same : row.instanceId = record.instanceId) :
    statement.settles row = statement.settles record := by
  cases statement with
  | finalizeRemoval | abortRemoval => exact isInstance_congr key same
  | _ => rfl

theorem discards_congr (statement : Statement) (key : row.id = record.id) (same : row.instanceId = record.instanceId) :
    statement.discards row = statement.discards record := by
  cases statement with
  | removeMetadataIfInstance => exact isInstance_congr key same
  | _ => rfl

theorem Statement.Spares.discards {statement : Statement} (spares : statement.Spares record) :
    statement.discards record = false := by
  cases statement with
  | removeMetadataIfInstance => exact spares
  | _ => rfl

theorem Statement.Spares.rewrites {statement : Statement} {row' : WorktreeRecord} (spares : statement.Spares record)
    (key : row.id = record.id) (same : row.identity = record.identity) (rewrites : statement.Rewrites row row') :
    row'.identity = record.identity := by
  have is := identity_eq.1 same
  cases rewrites with
  | kept kept => exact kept.trans same
  | bindLegacySession meant none made =>
    rw [isInstance_congr key is.1] at meant
    exact absurd (is.2.1.symm.trans none) (spares meant)
  | rebindImported meant made =>
    rw [isInstance_congr key is.1] at meant
    refine made.trans (identity_eq.2 ⟨is.1, spares meant, is.2.2⟩)
  | bindSession meant made =>
    rw [isInstance_congr key is.1] at meant
    refine made.trans (identity_eq.2 ⟨is.1, (spares meant).symm, is.2.2⟩)
  | compareAndSwapPath meant here made =>
    rw [isInstance_congr key is.1] at meant
    have moved := identity_eq.1 (spares meant (is.2.2.2.1.symm.trans here))
    exact made.trans (identity_eq.2 ⟨is.1, is.2.1, moved.2.2⟩)

theorem perform_inRemoval {statement : Statement} (removing : s.InRemoval record) (spares : statement.Spares record)
    (unsettled : statement.settles record = false) : (statement.perform s).1.InRemoval record := by
  obtain ⟨row, found, lifecycle, same⟩ := removing
  have key : row.id = record.id := Table.key_of_find found
  have is := (identity_eq.1 same).1
  obtain ⟨row', there, still, rewrites⟩ := perform_removing statement found lifecycle
    ((settles_congr statement key is).trans unsettled) ((discards_congr statement key is).trans spares.discards)
  exact ⟨row', there, still, spares.rewrites key same rewrites⟩

theorem prepares_inRemoval {statement : Statement} (returned : statement.prepares s = some record) :
    (statement.perform s).1.InRemoval record := by
  cases statement with
  | prepareRemoval id instanceId =>
    obtain ⟨row, s', found, _, same, rows⟩ | ⟨_, same⟩ | ⟨_, _, _, same⟩ := s.prepareRemoval_cases id instanceId
    · have key : row.id = id := Table.key_of_find found
      dsimp only [Statement.prepares] at returned
      dsimp only [Statement.perform]
      rw [same] at returned ⊢
      cases returned
      subst key
      have there : s'.worktrees.find row.id = some { row with lifecycle := .removing } := by
        rw [rows, Relational.modify, if_pos rfl, found]
        rfl
      exact ⟨_, there, rfl, rfl⟩
    · dsimp only [Statement.prepares] at returned
      rw [same] at returned
      cases returned
    · dsimp only [Statement.prepares] at returned
      rw [same] at returned
      cases returned
  | _ => cases returned

theorem custody_inRemoval {held : List WorktreeRecord} {statement : Statement}
    (removing : ∀ record ∈ held, s.InRemoval record) (spares : ∀ record ∈ held, statement.Spares record) :
    ∀ record ∈ statement.custody s held, (statement.perform s).1.InRemoval record := by
  intro record member
  cases List.mem_append.1 member with
  | inl returned => exact prepares_inRemoval (Option.mem_toList.1 returned)
  | inr old =>
    obtain ⟨old, unsettled⟩ := List.mem_filter.1 old
    exact perform_inRemoval (removing record old) (spares record old) (by simpa using unsettled)

end Custody

section Instances

open Program Call

def Operation.expects : Operation → Option (String × String)
  | .moveCheckout request => some (request.worktreeId, request.expectedInstanceId)
  | .remove request _ => some (request.worktreeId, request.expectedInstanceId)
  | .set request => some (request.worktreeId, request.expectedInstanceId)
  | _ => none

def Instr.Means (id instanceId : String) : Instr → Prop
  | .sql (.prepareRemoval other instance_) | .sql (.finalizeRemoval other instance_) | .sql (.abortRemoval other instance_)
  | .sql (.compareAndSwapPath other instance_ _ _) => other = id ∧ instance_ = instanceId
  | .sql (.set request _ _) => request.worktreeId = id ∧ request.expectedInstanceId = instanceId
  | .sql statement => statement.reads = true
  | _ => True

def Instr.leavesRows : Instr → Bool
  | .sql statement => statement.reads
  | _ => true

abbrev LeavesRows {α : Type} (call : Call α) : Prop := call.Only fun i => i.leavesRows = true

abbrev Meaning (id instanceId : String) {α : Type} (call : Call α) : Prop := call.Only (Instr.Means id instanceId)

variable {s : Registry} {id instanceId : String}

theorem leavesRows_of_reads (i : Instr) (reads : i.reads = true) : i.leavesRows = true := by
  cases i with
  | sql statement => exact reads
  | _ => rfl

theorem leavesRows_reads {α : Type} {call : Call α} (reads : call.Reads) : LeavesRows call :=
  reads.mono leavesRows_of_reads

theorem means_of_leavesRows (i : Instr) (leaves : i.leavesRows = true) : i.Means id instanceId := by
  unfold Instr.Means
  split
  · exact nomatch leaves
  · exact nomatch leaves
  · exact nomatch leaves
  · exact nomatch leaves
  · exact nomatch leaves
  · exact leaves
  · trivial

theorem LeavesRows.meaning {α : Type} {call : Call α} (leaves : LeavesRows call) : Meaning id instanceId call :=
  leaves.mono means_of_leavesRows

theorem means_of_reads (i : Instr) (reads : i.reads = true) : i.Means id instanceId :=
  means_of_leavesRows i (leavesRows_of_reads i reads)

theorem meaning_reads {α : Type} {call : Call α} (reads : call.Reads) : Meaning id instanceId call :=
  reads.mono means_of_reads

section Cleaning

variable (request : WorktreeRemoveRequest) (preflight : WorktreeRemovalPreflight) (record : WorktreeRecord)

theorem leavesRows_runSuccess (directory : String) (command : GitCommand) : LeavesRows (runSuccess directory command) :=
  only_bind (only_issued rfl) fun reply => leavesRows_reads (reads_orFail reply)

theorem leavesRows_removeUnlessMissing (missing : Bool) :
    LeavesRows (removeUnlessMissing request preflight record missing) :=
  only_ite (only_pure _) (only_bind (leavesRows_reads (reads_resolveRepository _)) fun _ =>
    only_bind (leavesRows_reads (reads_nativeSnapshot _ _)) fun _ => only_bind (leavesRows_reads (reads_orBail _)) fun _ =>
      only_bind (leavesRows_reads (reads_stage _)) fun _ => only_bind (leavesRows_runSuccess _ _) fun _ => only_pure _)

theorem leavesRows_finishBranch : LeavesRows (finishBranch request record) := only_finishBranch leavesRows_of_reads rfl

theorem leavesRows_finishSession (session : Option String) : LeavesRows (finishSession session) :=
  only_finishSession leavesRows_of_reads (fun _ => rfl) session

end Cleaning

theorem Registry.delete_stale (stale : ∀ record, s.worktrees.find id = some record → record.instanceId ≠ instanceId)
    (q : WorktreeRecord → Bool) :
    (s.delete fun record => isInstance id instanceId record && q record).1.worktrees.find = s.worktrees.find := by
  obtain ⟨s', deleted, rows⟩ := @Registry.delete_eq s fun record => isInstance id instanceId record && q record
  funext other
  rw [deleted, rows, Table.find_retain]
  cases there : s.worktrees.find other with
  | none => rfl
  | some row =>
    have key : row.id = other := Table.key_of_find there
    have unmeant : isInstance id instanceId row = false := by
      by_contra meant
      simp only [isInstance, Bool.not_eq_false, Bool.and_eq_true, beq_iff_eq] at meant
      exact stale row (meant.1 ▸ key ▸ there) meant.2
    simp [unmeant]

theorem perform_stale {statement : Statement} (means : (Instr.sql statement).Means id instanceId)
    (stale : ∀ record, s.worktrees.find id = some record → record.instanceId ≠ instanceId) :
    (statement.perform s).1.worktrees.find = s.worktrees.find := by
  cases statement with
  | readRecord | readRecords | readRecordByPath | readRecordBySession => rfl
  | prepareRemoval other instance_ =>
    obtain ⟨rfl, rfl⟩ := means
    dsimp only [Statement.perform]
    obtain ⟨record, _, found, right, _⟩ | ⟨_, same⟩ | ⟨_, _, _, same⟩ := s.prepareRemoval_cases other instance_
    · exact absurd right (stale record found)
    · rw [same]
    · rw [same]
  | finalizeRemoval other instance_ =>
    obtain ⟨rfl, rfl⟩ := means
    exact Registry.delete_stale stale isRemoving
  | abortRemoval other instance_ =>
    obtain ⟨rfl, rfl⟩ := means
    exact Registry.update_stale stale isRemoving
  | set request repository nativeRows =>
    obtain ⟨rfl, rfl⟩ := means
    dsimp only [Statement.perform]
    obtain ⟨current, _, _, _, _, found, right, _⟩ | same := s.set_cases request repository nativeRows
    · exact absurd right (stale current found)
    · rw [same]
  | compareAndSwapPath other instance_ normalizedPath native =>
    obtain ⟨rfl, rfl⟩ := means
    exact Registry.update_stale stale fun record => record.normalizedWorktreePath == normalizedPath
  | updateRecordFromNative | renewInstance | setReconcileLifecycle | setUnmatched | insertRecord | insertOrIgnore
    | bindLegacySession | rebindImported | bindSession | removeMetadataIfInstance => cases means

theorem meaning_set (request : WorktreeSetRequest) :
    Meaning request.worktreeId request.expectedInstanceId (Call.set request) := by
  refine only_bind (meaning_reads (reads_readRecord _)) fun known => only_bind (meaning_reads (reads_orBail _)) fun _ =>
    only_bind (only_bind (only_issued trivial) fun reply => meaning_reads (reads_orBail reply)) fun repository =>
      only_bind (meaning_reads (reads_bailIf _ _)) fun _ =>
        only_bind (only_bind (only_issued trivial) fun reply => meaning_reads (reads_orBail reply)) fun rows => ?_
  cases rows.find? fun native => native.normalizedPath == known.normalizedWorktreePath with
  | none => exact only_fail _
  | some native => exact only_bind (meaning_reads (reads_bailIf _ _)) fun _ => only_bind (only_issued ⟨rfl, rfl⟩) fun reply =>
      meaning_reads (reads_orBail reply)

variable {record : WorktreeRecord}

theorem meaning_removePrepared (request : WorktreeRemoveRequest) (preflight : WorktreeRemovalPreflight)
    (key : record.id = id) (right : record.instanceId = instanceId) :
    Meaning id instanceId (removePrepared request preflight record) :=
  only_bind (meaning_reads (reads_stage _)) fun _ => only_bind (only_issued trivial) fun reply =>
    only_bind (meaning_reads (reads_orBail reply)) fun _ => only_bind (meaning_reads reads_checkCancelled) fun _ =>
      only_bind (meaning_reads (reads_isMissing _ _)) fun missing =>
        only_bind (leavesRows_removeUnlessMissing request preflight record missing).meaning fun _ =>
          only_bind (leavesRows_finishBranch request record).meaning fun _ =>
            only_bind (leavesRows_finishSession _).meaning fun _ =>
              only_bind (only_bind (only_bind (only_issued ⟨key, right⟩) fun reply => meaning_reads (reads_orBail reply))
                fun _ => meaning_reads (reads_bailIf _ _)) fun _ => only_pure _

theorem meaning_abortAfter (failure : Failure) (key : record.id = id) (right : record.instanceId = instanceId) :
    Meaning id instanceId (abortAfter record failure) := by
  refine only_bind (only_attempt (only_bind ?_ fun _ => meaning_reads (reads_bailIf _ _))) fun aborted => ?_
  · exact only_bind (only_issued ⟨key, right⟩) fun reply => meaning_reads (reads_orBail reply)
  · cases aborted with
    | ok _ => exact only_fail _
    | error abort => exact only_fail _

theorem meaning_updateMoved (repository : RepositoryIdentity) (source : NativeSnapshot) (destination : String)
    (key : record.id = id) (right : record.instanceId = instanceId) :
    Meaning id instanceId (updateMoved record repository source destination) :=
  only_bind (meaning_reads (reads_nativeSnapshot _ _)) fun _ => only_bind (meaning_reads (reads_orBail _)) fun _ =>
    only_bind (only_issued trivial) fun _ =>
      only_bind (only_bind (only_issued ⟨key, right⟩) fun reply => meaning_reads (reads_orBail reply)) fun _ =>
        only_bind (meaning_reads (reads_bailIf _ _)) fun _ => meaning_reads (reads_readRecord _)

theorem meaning_moveBack (repository : RepositoryIdentity) (source : NativeSnapshot) (destination : String)
    (createdDirectories : List String) (moveError : Failure) :
    Meaning id instanceId (moveBack record repository source destination createdDirectories moveError) := by
  refine only_bind (only_attempt (leavesRows_runSuccess _ _).meaning) fun rollback => ?_
  cases rollback with
  | error rollbackError => exact only_fail _
  | ok _ =>
    refine only_bind (only_attempt ?_) fun identity => ?_
    · exact only_bind (meaning_reads (reads_nativeSnapshot _ _)) fun _ => meaning_reads (reads_orBail _)
    · cases identity with
      | error identityError => exact only_fail _
      | ok _ => exact only_bind (only_issued trivial) fun _ => only_fail _

theorem id_of_readRecord {segment : Trace} (ends : (readRecord id).Ends segment (.ok record))
    (possible : ∀ event ∈ segment, Possible event) : record.id = id := by
  obtain ⟨first, rest, found, rfl, asked, after⟩ := ends.of_bind
  have first := ends_sql asked
  subst first
  cases found with
  | none => exact nomatch after.of_fail.2
  | some found =>
    obtain ⟨_, same⟩ := after.of_pure
    cases same
    obtain ⟨s, reply, answers⟩ := possible _ (List.mem_append_left _ List.mem_cons_self)
    cases reply with
    | error e => exact nomatch answers
    | ok _ =>
      have there : (Except.ok (s.worktrees.find id) : Except SqlError (Option WorktreeRecord)) = .ok (some record) := answers
      exact Table.key_of_find (Except.ok.inj there)

theorem instanceId_of_ends {expectedInstanceId : String} {segment : Trace}
    (ends : (orBail (requireActiveInstance record expectedInstanceId)).Ends segment (.ok ())) :
    record.instanceId = expectedInstanceId := by
  have passed := (ends_orBail ends).2
  unfold requireActiveInstance at passed
  split at passed
  · cases passed
  · rename_i right
    exact not_not.1 right

def Intends (id instanceId : String) (_ : Trace) (i : Instr) : Prop := i.Means id instanceId

theorem intends_of_means (past : Trace) (i : Instr) (means : i.Means id instanceId) : Intends id instanceId past i := means

theorem intends_of_reads (past : Trace) (i : Instr) (reads : i.reads = true) : Intends id instanceId past i :=
  means_of_reads i reads

theorem wp_moveClaimed (request : WorktreeMoveRequest) (past : Trace) : (moveClaimed request).wp Possible
    (Intends request.worktreeId request.expectedInstanceId) (fun _ _ => True) past := by
  refine wp_bind_of_only (reads_readRecord _) intends_of_reads (fun _ _ => trivial) fun first record possible read => ?_
  refine wp_bind_of_only (reads_orBail _) intends_of_reads (fun _ _ => trivial) fun second _ _ checked => ?_
  have key := id_of_readRecord read possible
  have right := instanceId_of_ends checked
  refine wp_of_only (only_bind (meaning_reads (reads_resolveRepository _)) fun _ =>
    only_bind (meaning_reads (reads_nativeSnapshot _ _)) fun _ => only_bind (meaning_reads (reads_orBail _)) fun _ =>
      only_bind (meaning_reads (reads_bailIf _ _)) fun _ =>
        only_bind (only_bind (only_issued trivial) fun reply => meaning_reads (reads_orBail reply)) fun _ =>
          only_bind (meaning_reads (reads_stage _)) fun _ => only_bind (leavesRows_runSuccess _ _).meaning fun _ =>
            only_bind (only_attempt (meaning_updateMoved _ _ _ key right)) fun updated => ?_) intends_of_means
  cases updated with
  | ok updated => exact only_pure _
  | error moveError => exact meaning_moveBack _ _ _ _ _

theorem wp_removing (request : WorktreeRemoveRequest) (runtime : WorktreeRuntimeBlockers) (past : Trace) :
    (removeClaimed request runtime).wp Possible (Intends request.worktreeId request.expectedInstanceId)
      (fun _ _ => True) past := by
  refine wp_bind_of_only (reads_stage _) intends_of_reads (fun _ _ => trivial) fun _ _ _ _ => ?_
  refine wp_bind_of_only (reads_removalPreflight _ _) intends_of_reads (fun _ _ => trivial) fun _ preflight _ _ => ?_
  refine wp_bind_of_only (reads_validateRemovalAcknowledgements _ _) intends_of_reads (fun _ _ => trivial)
    fun _ _ _ _ => ?_
  have asks : Meaning request.worktreeId request.expectedInstanceId
      (sql (.prepareRemoval request.worktreeId request.expectedInstanceId)) :=
    only_bind (only_issued ⟨rfl, rfl⟩) fun reply => meaning_reads (reads_orBail reply)
  refine wp_bind_of_only asks intends_of_means (fun _ _ => trivial) fun segment record possible answers => ?_
  have segment := ends_sql answers
  subst segment
  have prepared := isPrepared_of_possible (possible _ List.mem_cons_self)
  refine wp_of_only (only_bind (only_attempt
    (meaning_removePrepared request preflight prepared.id prepared.instanceId)) fun attempted => ?_) intends_of_means
  cases attempted with
  | ok result => exact only_pure result
  | error failure => exact meaning_abortAfter failure prepared.id prepared.instanceId

/-- The instance that an operation is given is the only one that it means. -/
def Operation.Heeds (operation : Operation) (_ : Trace) (i : Instr) : Prop :=
  ∀ id instanceId, operation.expects = some (id, instanceId) → i.Means id instanceId

theorem wp_program (operation : Operation) (past : Trace) :
    operation.program.wp Possible operation.Heeds (fun _ _ => True) past := by
  have alone {α : Type} {call : Call α} {id instanceId : String} (expects : operation.expects = some (id, instanceId))
      (goes : ∀ past, call.wp Possible (Intends id instanceId) (fun _ _ => True) past) :
      call.alone.wp Possible operation.Heeds (fun _ _ => True) past := by
    have intends : call.alone.wp Possible (Intends id instanceId) (fun _ _ => True) past :=
      wp_bind_of_ends (goes past) (fun _ _ => trivial) fun _ _ _ _ => wp_pure.2 trivial
    refine wp_weaken intends fun past i means other instance_ same => ?_
    cases expects.symm.trans same
    exact means
  cases operation with
  | moveCheckout request =>
    exact alone rfl fun past => wp_bind_of_only (reads_bailIf _ _) intends_of_reads (fun _ _ => trivial) fun _ _ _ _ =>
      wp_claimed intends_of_reads fun _ => wp_recorded intends_of_reads (wp_moveClaimed request _)
  | remove request runtime =>
    exact alone rfl fun past => wp_bind_of_only (reads_bailIf _ _) intends_of_reads (fun _ _ => trivial) fun _ _ _ _ =>
      wp_claimed intends_of_reads fun _ => wp_recorded intends_of_reads (wp_removing request runtime _)
  | set request => exact alone rfl fun past => wp_of_only (meaning_set request) intends_of_means
  | create | registerCreated | importExternal | checkpoint | reconcile | list =>
    exact wp_of_only (only_any _) fun _ _ _ _ _ expects => nomatch expects

end Instances

section Runs

open Operations Program

variable {κ : Type} [DecidableEq κ]

def Operations.watch (view : Operations κ × List WorktreeRecord) (step : Step κ) : Operations κ × List WorktreeRecord :=
  (view.1.next step, (view.1.statement step).elim view.2 fun statement => statement.custody view.1.state view.2)

def Operations.Undisturbed (view : Operations κ × List WorktreeRecord) (step : Step κ) : Prop :=
  ∀ statement ∈ view.1.statement step, ∀ record ∈ view.2, statement.Spares record

instance (view : Operations κ × List WorktreeRecord) (step : Step κ) : Decidable (Undisturbed view step) :=
  inferInstanceAs (Decidable (∀ statement ∈ view.1.statement step, ∀ record ∈ view.2, statement.Spares record))

theorem watch_inRemoval {view : Operations κ × List WorktreeRecord} {step : Step κ}
    (removing : ∀ record ∈ view.2, view.1.state.InRemoval record) (undisturbed : Undisturbed view step) :
    ∀ record ∈ (watch view step).2, (watch view step).1.state.InRemoval record := by
  dsimp only [watch]
  rw [state_next]
  cases performed : view.1.statement step with
  | none => exact removing
  | some statement => exact custody_inRemoval removing (undisturbed statement performed)

theorem heeds_run (s : Registry) (operations : κ → Operation) (steps : List (Step κ)) :
    ((started s operations).run steps).Keeps Possible fun k => (operations k).Heeds := by
  induction steps using List.reverseRecOn with
  | nil => exact fun k => wp_program (operations k) []
  | append_singleton steps step ih =>
    rw [run, List.foldl_append]
    exact Pool.Keeps.next ih fun s i reply => ⟨s, reply, rfl⟩

def Operation.Stale (operation : Operation) (s : Registry) : Prop :=
  ∃ id instanceId, operation.expects = some (id, instanceId) ∧
    ∀ record, s.worktrees.find id = some record → record.instanceId ≠ instanceId

theorem find_next_of_stale {pool : Operations κ} {operations : κ → Operation} {step : Step κ}
    (heeds : pool.Keeps Possible fun k => (operations k).Heeds) (stale : (operations step.1).Stale pool.state) :
    (pool.next step).state.worktrees.find = pool.state.worktrees.find := by
  obtain ⟨id, instanceId, expects, gone⟩ := stale
  rw [state_next]
  cases performed : pool.statement step with
  | none => rfl
  | some statement => exact perform_stale (statement_issued heeds performed id instanceId expects) gone

/-- What a removal has been told of its record stays so until the removal is over, and who has been told of an instance
that is not there any more changes nothing. -/
theorem removal_undisturbed (s : Registry) (operations : κ → Operation) (steps : List (Step κ)) :
    (Throughout watch Undisturbed (started s operations, []) steps →
      ∀ record ∈ (steps.foldl watch (started s operations, [])).2,
        (steps.foldl watch (started s operations, [])).1.state.InRemoval record) ∧
    ∀ step : Step κ, (operations step.1).Stale ((started s operations).run steps).state →
      (((started s operations).run steps).next step).state.worktrees.find =
        ((started s operations).run steps).state.worktrees.find := by
  constructor
  · intro undisturbed
    exact run_invariant (I := fun view : Operations κ × List WorktreeRecord =>
      ∀ record ∈ view.2, view.1.state.InRemoval record) (fun _ _ => watch_inRemoval) (fun _ none => nomatch none) undisturbed
  · intro step stale
    exact find_next_of_stale (heeds_run s operations steps) stale

/-- A checkout is imported and removed; it is listed, imported again with another session, and its metadata is set for
an instance of long ago. -/
def removals : Nat → Operation
  | 0 => .importExternal ⟨"/repository", "/a", none, some "a"⟩
  | 1 => .remove ⟨1, "a4", "a5", true, false, none, [.unpushed]⟩ ⟨false, false⟩
  | 2 => .reconcile ⟨"/repository", []⟩
  | 3 => .importExternal ⟨"/repository", "/a", none, some "z"⟩
  | _ => .set ⟨"a4", "a0", some "comment", none, none, false⟩

def removalSteps (k : Nat) (name : String) (count : Nat) : List (Step Nat) :=
  Surroundings.steps repository [checkout "/a"] k name count

def removed : List (Step Nat) := removalSteps 0 "a" 24 ++ removalSteps 1 "b" 8 ++ removalSteps 2 "c" 12

def metadataStep : Step Nat := (4, (Surroundings.mk repository [checkout "/a"] "d").answer)

theorem removal_undisturbed_removed :
    (∀ record ∈ (removed.foldl watch (started .empty removals, [])).2,
      (removed.foldl watch (started .empty removals, [])).1.state.InRemoval record) ∧
    (((started .empty removals).run removed).next metadataStep).state.worktrees.find =
      ((started .empty removals).run removed).state.worktrees.find := by
  have undisturbed : Throughout watch Undisturbed (started .empty removals, []) removed := by decide +kernel
  have gone : ∀ record ∈ ((started .empty removals).run removed).state.worktrees.find "a4", record.instanceId ≠ "a0" := by
    decide +kernel
  have kept := removal_undisturbed .empty removals removed
  exact ⟨kept.1 undisturbed, kept.2 metadataStep ⟨"a4", "a0", rfl, gone⟩⟩

/-- The checkout is imported again while it is removed: the session that the removal has been told is not the one of the
row any more. -/
theorem import_disturbs : ¬∀ record ∈ ((removed ++ removalSteps 3 "e" 24).foldl watch (started .empty removals, [])).2,
    ((removed ++ removalSteps 3 "e" 24).foldl watch (started .empty removals, [])).1.state.InRemoval record := by
  intro kept
  obtain ⟨record, held, row, found, other⟩ :
      ∃ record ∈ ((removed ++ removalSteps 3 "e" 24).foldl watch (started .empty removals, [])).2,
        ∃ row ∈ ((removed ++ removalSteps 3 "e" 24).foldl watch (started .empty removals, [])).1.state.worktrees.find
          record.id, row.sessionId ≠ record.sessionId := by decide +kernel
  obtain ⟨same, there, _, identity⟩ := kept record held
  cases (Option.mem_def.1 found).symm.trans there
  exact other (identity_eq.1 identity).2.1

end Runs

end VibeLink.Worktrees
