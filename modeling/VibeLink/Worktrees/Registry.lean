import VibeLink.Coordinator.Store
import VibeLink.Relational.Table

/-! The table of worktrees and its statements (`app/git/worktree_registry.rs`), each of which is one transaction. -/

namespace VibeLink.Worktrees

open Relational
open Coordinator (trim)

inductive WorktreeOrigin
  | manual | cli | mcp | orchestration | automation | externalImport
  deriving DecidableEq

inductive WorktreeLifecycle
  | active | missing | stale | conflicted | removing | failed
  deriving DecidableEq

structure RepositoryIdentity where
  repositoryId : String
  repositoryPath : String
  commonDir : String
  normalizedCommonDir : String
  deriving DecidableEq

structure NativeWorktree where
  worktreePath : String
  normalizedPath : String
  gitDirIdentity : String
  head : String
  branch : Option String
  detached : Bool
  bare : Bool
  locked : Bool
  lockReason : Option String
  prunable : Bool
  prunableReason : Option String
  exists_ : Bool
  isMain : Bool
  dirty : Bool
  untracked : Bool
  hasConflicts : Bool
  ahead : Nat
  behind : Nat
  deriving DecidableEq

structure WorktreeRecord where
  id : String
  instanceId : String
  repositoryId : String
  repositoryPath : String
  worktreePath : String
  branch : String
  head : String
  baseRef : String
  sessionId : Option String
  parentSessionId : Option String
  parentWorktreeId : Option String
  parentInstanceId : Option String
  origin : WorktreeOrigin
  lifecycle : WorktreeLifecycle
  locked : Bool
  lockReason : Option String
  prunable : Bool
  prunableReason : Option String
  dirty : Bool
  untracked : Bool
  hasConflicts : Bool
  ahead : Nat
  behind : Nat
  exists_ : Bool
  setupPolicy : String
  sparsePreset : Option String
  linkedFiles : List String
  initialAgent : Option String
  initialPrompt : Option String
  comment : Option String
  reviewTarget : Option String
  createdAt : Nat
  normalizedRepositoryPath : String
  normalizedWorktreePath : String
  gitDirIdentity : String
  deriving DecidableEq

/-- `UNIQUE(repository_id, normalized_worktree_path)` -/
def WorktreeRecord.place (record : WorktreeRecord) : String × String :=
  (record.repositoryId, record.normalizedWorktreePath)

structure Registry where
  worktrees : Table WorktreeRecord.id
  places : (worktrees.rows.map WorktreeRecord.place).Nodup

abbrev SqlError := String

def uniqueFailed : SqlError := "UNIQUE constraint failed"

namespace Registry

def empty : Registry := ⟨.empty, List.nodup_nil⟩

variable (s : Registry)

/-- What a statement has made of the table is taken over, if no two worktrees are at one place. -/
def write (worktrees : Table WorktreeRecord.id) : Registry × Except SqlError Unit :=
  if places : (worktrees.rows.map WorktreeRecord.place).Nodup then (⟨worktrees, places⟩, .ok ())
  else (s, .error uniqueFailed)

def count (p : WorktreeRecord → Bool) : Nat := s.worktrees.rows.countP p

/-- `UPDATE … SET f WHERE p`, and how many rows it has changed. -/
def update (p : WorktreeRecord → Bool) (f : WorktreeRecord → WorktreeRecord)
    (same : ∀ record, (f record).id = record.id := by intro record; rfl) : Registry × Except SqlError Nat :=
  match s.write (s.worktrees.update p f same) with
  | (s', .ok ()) => (s', .ok (s.count p))
  | (s', .error e) => (s', .error e)

/-- `DELETE … WHERE p`, and how many rows are gone. -/
def delete (p : WorktreeRecord → Bool) : Registry × Except SqlError Nat :=
  match s.write (s.worktrees.retain fun record => !p record) with
  | (s', .ok ()) => (s', .ok (s.count p))
  | (s', .error e) => (s', .error e)

def insert (record : WorktreeRecord) : Registry × Except SqlError Nat :=
  match s.worktrees.insert? record with
  | none => (s, .error uniqueFailed)
  | some worktrees => match s.write worktrees with
    | (s', .ok ()) => (s', .ok 1)
    | (s', .error e) => (s', .error e)

/-- `ORDER BY created_at,id` -/
def inOrder (a b : WorktreeRecord) : Bool := a.createdAt < b.createdAt || (a.createdAt == b.createdAt && a.id ≤ b.id)

def readRecords (repositoryId : Option String) : List WorktreeRecord :=
  orderBy inOrder (s.worktrees.rows.filter fun record => repositoryId.all (· == record.repositoryId))

def readRecordByPath (repositoryId normalizedPath : String) : Option WorktreeRecord :=
  s.worktrees.rows.find? fun record => record.repositoryId == repositoryId && record.normalizedWorktreePath == normalizedPath

/-- `ORDER BY created_at LIMIT 1` -/
def readRecordBySession (sessionId : String) : Option WorktreeRecord :=
  (orderBy (fun a b => a.createdAt ≤ b.createdAt)
    (s.worktrees.rows.filter fun record => record.sessionId == some sessionId)).head?

end Registry

/-- `id=?1 AND instance_id=?2` -/
def isInstance (id instanceId : String) (record : WorktreeRecord) : Bool := record.id == id && record.instanceId == instanceId

def isRemoving (record : WorktreeRecord) : Bool := record.lifecycle == .removing

def WorktreeRecord.withNative (record : WorktreeRecord) (repository : RepositoryIdentity) (normalizedRepositoryPath : String)
    (native : NativeWorktree) : WorktreeRecord :=
  { record with
    repositoryPath := repository.repositoryPath
    worktreePath := native.worktreePath
    branch := native.branch.getD ""
    head := native.head
    locked := native.locked
    lockReason := native.lockReason
    prunable := native.prunable
    prunableReason := native.prunableReason
    dirty := native.dirty
    untracked := native.untracked
    hasConflicts := native.hasConflicts
    ahead := native.ahead
    behind := native.behind
    exists_ := native.exists_
    normalizedRepositoryPath
    normalizedWorktreePath := native.normalizedPath
    gitDirIdentity := native.gitDirIdentity }

structure WorktreeSetRequest where
  worktreeId : String
  expectedInstanceId : String
  comment : Option String
  reviewTarget : Option String
  parentWorktreeId : Option String
  clearParent : Bool

def nonempty (value : String) : Option String := if trim value = "" then none else some (trim value)

def notFound (id : String) : String := s!"worktree not found: {id}"

def requireInstance (record : WorktreeRecord) (expectedInstanceId : String) : Except String Unit :=
  if record.instanceId ≠ expectedInstanceId then .error "worktree instance changed" else .ok ()

def validatedParentRecord (repository : RepositoryIdentity) (nativeRows : List NativeWorktree)
    (childNormalizedPath : String) (parent : WorktreeRecord) : Except String WorktreeRecord :=
  if parent.repositoryId ≠ repository.repositoryId ∨ parent.normalizedWorktreePath = childNormalizedPath ∨
      parent.lifecycle ≠ .active ∨ parent.exists_ = false ∨ parent.gitDirIdentity = "" then
    .error "parent does not identify a current checkout in the same repository"
  else match nativeRows.find? fun native => native.normalizedPath == parent.normalizedWorktreePath with
    | none => .error "parent worktree is not registered with Git"
    | some parentNative =>
      if parentNative.gitDirIdentity = "" ∨ parentNative.gitDirIdentity ≠ parent.gitDirIdentity then
        .error "parent worktree instance identity cannot be proven"
      else .ok parent

namespace Registry

variable (s : Registry)

/-- The walk up from a parent to be, for so many worktrees at most. -/
def walk (current : WorktreeRecord) : Nat → WorktreeRecord → Option (Except String Unit)
  | 0, _ => none
  | steps + 1, ancestor =>
    if ancestor.id = current.id then some (.error "parent worktree assignment would create a lineage cycle")
    else match ancestor.parentWorktreeId with
      | none => some (.ok ())
      | some nextId => match s.worktrees.find nextId with
        | none => some (.error (notFound nextId))
        | some next =>
          if ancestor.parentInstanceId ≠ some next.instanceId then some (.ok ())
          else if next.repositoryId ≠ current.repositoryId then
            some (.error "parent worktree lineage crosses repository identity")
          else walk current steps next

def neverReplies : SqlError := "the connection is never given back"

structure Parent where
  worktreeId : Option String
  instanceId : Option String
  sessionId : Option String
  deriving DecidableEq

def setParent (request : WorktreeSetRequest) (repository : RepositoryIdentity) (nativeRows : List NativeWorktree)
    (current : WorktreeRecord) : Except String Parent :=
  if request.clearParent then .ok ⟨none, none, none⟩
  else match request.parentWorktreeId with
    | none => .ok ⟨current.parentWorktreeId, current.parentInstanceId, current.parentSessionId⟩
    | some parentId => match s.worktrees.find parentId with
      | none => .error (notFound parentId)
      | some parent => match validatedParentRecord repository nativeRows current.normalizedWorktreePath parent with
        | .error e => .error e
        | .ok parent => match s.walk current (s.worktrees.rows.length + 1) parent with
          | none => .error neverReplies
          | some (.error e) => .error e
          | some (.ok ()) => .ok ⟨some parent.id, some parent.instanceId, parent.sessionId⟩

def set (request : WorktreeSetRequest) (repository : RepositoryIdentity) (nativeRows : List NativeWorktree) :
    Registry × Except SqlError WorktreeRecord :=
  match s.worktrees.find request.worktreeId with
  | none => (s, .error (notFound request.worktreeId))
  | some current => match requireInstance current request.expectedInstanceId with
    | .error e => (s, .error e)
    | .ok () => match s.setParent request repository nativeRows current with
      | .error e => (s, .error e)
      | .ok parent =>
        let updated (record : WorktreeRecord) : WorktreeRecord := { record with
          comment := match request.comment with
            | some comment => nonempty comment
            | none => record.comment
          reviewTarget := match request.reviewTarget with
            | some target => nonempty target
            | none => record.reviewTarget
          parentWorktreeId := parent.worktreeId
          parentInstanceId := parent.instanceId
          parentSessionId := parent.sessionId }
        match s.update (isInstance request.worktreeId request.expectedInstanceId) updated with
        | (_, .error e) => (s, .error e)
        | (s', .ok changed) =>
          if changed ≠ 1 then (s, .error "worktree metadata compare-and-swap failed")
          else match s'.worktrees.find request.worktreeId with
            | none => (s, .error (notFound request.worktreeId))
            | some updated => (s', .ok updated)

def prepareRemoval (worktreeId expectedInstanceId : String) : Registry × Except SqlError WorktreeRecord :=
  match s.worktrees.find worktreeId with
  | none => (s, .error (notFound worktreeId))
  | some record => match requireInstance record expectedInstanceId with
    | .error e => (s, .error e)
    | .ok () =>
      match s.update (fun record => isInstance worktreeId expectedInstanceId record && !isRemoving record)
        fun record => { record with lifecycle := .removing } with
      | (_, .error e) => (s, .error e)
      | (s', .ok changed) =>
        if changed = 0 ∧ record.lifecycle ≠ .removing then (s, .error "worktree lifecycle changed before removal")
        else (s', .ok { record with lifecycle := .removing })

end Registry

/-- One SQL statement or one transaction, with its parameters. -/
inductive Statement
  | readRecord (id : String)
  | readRecords (repositoryId : Option String)
  | readRecordByPath (repositoryId normalizedPath : String)
  | readRecordBySession (sessionId : String)
  | prepareRemoval (worktreeId expectedInstanceId : String)
  | finalizeRemoval (worktreeId expectedInstanceId : String)
  | abortRemoval (worktreeId expectedInstanceId : String)
  | set (request : WorktreeSetRequest) (repository : RepositoryIdentity) (nativeRows : List NativeWorktree)
  | updateRecordFromNative (id : String) (repository : RepositoryIdentity) (normalizedRepositoryPath : String)
    (native : NativeWorktree)
  | renewInstance (id newInstanceId : String) (repository : RepositoryIdentity) (normalizedRepositoryPath : String)
    (native : NativeWorktree)
  | setReconcileLifecycle (id : String) (lifecycle : WorktreeLifecycle)
  | setUnmatched (id : String) (lifecycle : WorktreeLifecycle) (pathExists : Bool)
  | insertRecord (record : WorktreeRecord)
  | insertOrIgnore (record : WorktreeRecord)
  | bindLegacySession (sessionId worktreeId instanceId : String)
  | rebindImported (sessionId parentSessionId parentWorktreeId parentInstanceId : Option String)
    (worktreeId instanceId : String)
  | bindSession (worktreeId expectedInstanceId sessionId : String)
  | compareAndSwapPath (worktreeId expectedInstanceId normalizedPath : String) (native : NativeWorktree)
  | removeMetadataIfInstance (worktreeId expectedInstanceId : String)

namespace Statement

abbrev Answer : Statement → Type
  | .readRecord _ | .readRecordByPath _ _ | .readRecordBySession _ => Option WorktreeRecord
  | .readRecords _ => List WorktreeRecord
  | .prepareRemoval _ _ | .set _ _ _ => WorktreeRecord
  | _ => Nat

def perform (s : Registry) : (statement : Statement) → Registry × Except SqlError statement.Answer
  | .readRecord id => (s, .ok (s.worktrees.find id))
  | .readRecords repositoryId => (s, .ok (s.readRecords repositoryId))
  | .readRecordByPath repositoryId normalizedPath => (s, .ok (s.readRecordByPath repositoryId normalizedPath))
  | .readRecordBySession sessionId => (s, .ok (s.readRecordBySession sessionId))
  | .prepareRemoval worktreeId expectedInstanceId => s.prepareRemoval worktreeId expectedInstanceId
  | .finalizeRemoval worktreeId expectedInstanceId =>
    s.delete fun record => isInstance worktreeId expectedInstanceId record && isRemoving record
  | .abortRemoval worktreeId expectedInstanceId =>
    s.update (fun record => isInstance worktreeId expectedInstanceId record && isRemoving record)
      fun record => { record with lifecycle := .active }
  | .set request repository nativeRows => s.set request repository nativeRows
  | .updateRecordFromNative id repository normalizedRepositoryPath native =>
    s.update (fun record => record.id == id && !isRemoving record)
      fun record => { record.withNative repository normalizedRepositoryPath native with lifecycle := .active }
  | .renewInstance id newInstanceId repository normalizedRepositoryPath native =>
    s.update (fun record => record.id == id && [.missing, .stale, .failed].contains record.lifecycle)
      fun record => { record.withNative repository normalizedRepositoryPath native with
        instanceId := newInstanceId
        sessionId := none
        parentSessionId := none
        parentWorktreeId := none
        parentInstanceId := none
        lifecycle := .active }
  | .setReconcileLifecycle id lifecycle =>
    s.update (fun record => record.id == id && !isRemoving record) fun record => { record with lifecycle }
  | .setUnmatched id lifecycle pathExists =>
    s.update (fun record => record.id == id && !isRemoving record)
      fun record => { record with lifecycle, exists_ := pathExists }
  | .insertRecord record => s.insert record
  | .insertOrIgnore record => match s.insert record with
    | (s', .ok inserted) => (s', .ok inserted)
    | (_, .error _) => (s, .ok 0)
  | .bindLegacySession sessionId worktreeId instanceId =>
    s.update (fun record => isInstance worktreeId instanceId record && record.sessionId.isNone)
      fun record => { record with sessionId := some sessionId }
  | .rebindImported sessionId parentSessionId parentWorktreeId parentInstanceId worktreeId instanceId =>
    s.update (isInstance worktreeId instanceId)
      fun record => { record with sessionId, parentSessionId, parentWorktreeId, parentInstanceId }
  | .bindSession worktreeId expectedInstanceId sessionId =>
    s.update (isInstance worktreeId expectedInstanceId) fun record => { record with sessionId := some sessionId }
  | .compareAndSwapPath worktreeId expectedInstanceId normalizedPath native =>
    s.update (fun record => isInstance worktreeId expectedInstanceId record &&
        record.normalizedWorktreePath == normalizedPath)
      fun record => { record with
        worktreePath := native.worktreePath
        normalizedWorktreePath := native.normalizedPath
        gitDirIdentity := native.gitDirIdentity
        head := native.head
        branch := native.branch.getD "" }
  | .removeMetadataIfInstance worktreeId expectedInstanceId => s.delete (isInstance worktreeId expectedInstanceId)

end Statement

end VibeLink.Worktrees
