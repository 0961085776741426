import VibeLink.Worktrees.Removal

/-! The operations of the registry that ask Git (`app/git/worktree_registry.rs`): the scan that brings the rows in line
with the checkouts, the import of checkouts and of legacy rows, the registration of a created worktree, its metadata
and its checkpoints. -/

namespace VibeLink.Worktrees

open Relational
open Coordinator (trim)

inductive WorktreeReconcileState
  | managed | external | missing | stale | conflicted | untrusted
  deriving DecidableEq

structure WorktreeProjection where
  id : String
  instanceId : Option String
  state : WorktreeReconcileState
  record : Option WorktreeRecord
  native : Option NativeWorktree
  parentWorktreeId : Option String
  childWorktreeIds : List String
  deriving DecidableEq

structure LegacyWorktreeRow where
  sessionId : String
  parentSessionId : String
  sourceWorkspaceFolder : String
  worktreePath : String
  branch : String
  startRef : String
  createdAt : Nat

structure WorktreeListRequest where
  repositoryPath : Option String
  includeExternal : Bool
  includeHidden : Bool

structure WorktreeReconcileRequest where
  repositoryPath : String
  legacyRows : List LegacyWorktreeRow

structure WorktreeImportRequest where
  repositoryPath : String
  worktreePath : String
  parentSessionId : Option String
  sessionId : Option String

structure WorktreeCreateRequest where
  operationId : Nat
  repositoryPath : String
  parentSessionId : String
  parentWorktreeId : Option String
  name : String
  startRef : String
  branch : Option String
  fetch : Bool
  setupPolicy : String
  sparsePreset : Option String
  linkedFiles : List String
  initialAgent : Option String
  initialPrompt : Option String
  origin : WorktreeOrigin

structure WorktreeCheckpointRequest where
  worktreeId : String
  kind : String
  label : String
  comment : Option String

structure WorktreeCheckpoint where
  id : String
  worktreeId : String
  kind : String
  label : String
  head : String
  comment : Option String
  createdAt : Nat

def projectionForRecord (record : WorktreeRecord) (state : WorktreeReconcileState) (native : Option NativeWorktree) :
    WorktreeProjection :=
  ⟨record.id, some record.instanceId, state, some record, native, record.parentWorktreeId, []⟩

section Lineage

def WorktreeProjection.current (projection : WorktreeProjection) : Option WorktreeRecord :=
  match projection.record, projection.native with
  | some record, some native =>
    if projection.state = .managed ∧ projection.instanceId = some record.instanceId ∧ record.exists_ = true ∧
        native.exists_ = true ∧ native.gitDirIdentity ≠ "" ∧ native.gitDirIdentity = record.gitDirIdentity then some record
    else none
  | _, _ => none

def currentParent (current : List WorktreeRecord) (record : WorktreeRecord) : Option String :=
  match current.find? fun other => other.id == record.id with
  | none => none
  | some _ => match record.parentWorktreeId with
    | none => none
    | some parentId => match current.find? fun other => other.id == parentId with
      | none => none
      | some parent =>
        if parent.id = record.id ∨ parent.repositoryId ≠ record.repositoryId ∨
            record.parentInstanceId ≠ some parent.instanceId then none
        else some parent.id

/-- The nodes of the cycle that the way up runs into, after the nodes of `path`. -/
def cycleNodes (parents : List (String × String)) : Nat → List String → String → List String
  | 0, _, _ => []
  | steps + 1, path, cursor => match parents.lookup cursor with
    | none => []
    | some parent =>
      if cursor ∈ path then path.drop (path.idxOf cursor)
      else cycleNodes parents steps (path ++ [cursor]) parent

def applyLineage (projections : List WorktreeProjection) : List WorktreeProjection :=
  let current := projections.filterMap WorktreeProjection.current
  let parents := projections.filterMap fun projection => do
    let record ← projection.record
    let parent ← currentParent current record
    return (record.id, parent)
  let nodes := parents.flatMap fun start => cycleNodes parents (parents.length + 1) [] start.1
  let straight := parents.filter fun edge => !nodes.contains edge.1 && !nodes.contains edge.2
  projections.map fun projection => { projection with
    parentWorktreeId := straight.lookup projection.id
    childWorktreeIds := orderBy (fun a b => decide (a ≤ b)) ((straight.filter fun edge => edge.2 == projection.id).map Prod.fst) }

end Lineage

def isRemotePath (path : String) : Bool :=
  "ssh://".toList.isPrefixOf path.toList || "wsl://".toList.isPrefixOf path.toList ||
    "\\\\wsl$\\".toList.isPrefixOf (Call.toAsciiLowercase path).toList

def validateSetupPolicy (policy : String) : Except String Unit :=
  if ["run", "skip", "inherit"].contains policy then .ok () else .error s!"invalid setup policy: {policy}"

def validateCheckpointKind (kind : String) : Except String Unit :=
  if ["creation_complete", "review_ready", "committed", "pushed", "pr_opened", "merged", "manual"].contains kind then .ok ()
  else .error s!"invalid checkpoint kind: {kind}"

def requiredText (value field : String) : Except String String :=
  if trim value = "" then .error s!"{field} is required" else .ok (trim value)

/-- What a new row says besides what Git says. -/
structure NativeRecord where
  sessionId : Option String
  parentSessionId : Option String
  parent : Option WorktreeRecord
  origin : WorktreeOrigin
  setupPolicy : String
  sparsePreset : Option String
  linkedFiles : List String
  initialAgent : Option String
  initialPrompt : Option String
  baseRef : String

def NativeRecord.record (row : NativeRecord) (id instanceId : String) (now : Nat) (repository : RepositoryIdentity)
    (normalizedRepositoryPath : String) (native : NativeWorktree) : WorktreeRecord where
  id
  instanceId
  repositoryId := repository.repositoryId
  repositoryPath := repository.repositoryPath
  worktreePath := native.worktreePath
  branch := native.branch.getD ""
  head := native.head
  baseRef := row.baseRef
  sessionId := row.sessionId
  parentSessionId := row.parentSessionId
  parentWorktreeId := row.parent.map WorktreeRecord.id
  parentInstanceId := row.parent.map WorktreeRecord.instanceId
  origin := row.origin
  lifecycle := .active
  locked := native.locked
  lockReason := native.lockReason
  prunable := native.prunable
  prunableReason := native.prunableReason
  dirty := native.dirty
  untracked := native.untracked
  hasConflicts := native.hasConflicts
  ahead := native.ahead
  behind := native.behind
  exists_ := native.exists_
  setupPolicy := row.setupPolicy
  sparsePreset := row.sparsePreset
  linkedFiles := row.linkedFiles
  initialAgent := row.initialAgent
  initialPrompt := row.initialPrompt
  comment := none
  reviewTarget := none
  createdAt := now
  normalizedRepositoryPath
  normalizedWorktreePath := native.normalizedPath
  gitDirIdentity := native.gitDirIdentity

namespace Call

def newUuid : Call String := Program.issued Instr.newUuid

def nowMillis : Call Nat := Program.issued Instr.nowMillis

def normalizePathForComparison (path : String) : Call String := Program.issued (Instr.normalizePathForComparison path)

def sha256Hex (text : String) : Call String := Program.issued (Instr.sha256Hex text)

def pathEntryExists (path : String) : Call Bool := Program.issued (Instr.pathEntryExists path)

def pathsEqual (left right : String) : Call Bool := do
  let left ← normalizePathForComparison left
  let right ← normalizePathForComparison right
  return left == right

def resolveRepositoryIdentity (path : String) : Call RepositoryIdentity := do
  orBail (← .issued (.resolveRepositoryIdentity path))

def scanNativeWorktrees (repositoryPath : String) : Call (List NativeWorktree) := do
  orBail (← .issued (.scanNativeWorktrees repositoryPath))

def updateRecordFromNative (id : String) (repository : RepositoryIdentity) (native : NativeWorktree) : Call Unit := do
  let normalizedRepositoryPath ← normalizePathForComparison repository.repositoryPath
  let _ : Nat ← sql (.updateRecordFromNative id repository normalizedRepositoryPath native)

def setReconcileLifecycle (id : String) (lifecycle : WorktreeLifecycle) : Call Unit := do
  let _ : Nat ← sql (.setReconcileLifecycle id lifecycle)

section Reconciliation

def removingState (record : WorktreeRecord) (native : NativeWorktree) : WorktreeReconcileState :=
  if native.gitDirIdentity = "" then .untrusted
  else if record.gitDirIdentity = native.gitDirIdentity then .managed
  else .conflicted

def renewInstance (repository : RepositoryIdentity) (record : WorktreeRecord) (native : NativeWorktree) :
    Call WorktreeProjection := do
  let newInstanceId ← newUuid
  let normalizedRepositoryPath ← normalizePathForComparison repository.repositoryPath
  let changed : Nat ← sql (.renewInstance record.id newInstanceId repository normalizedRepositoryPath native)
  bailIf (changed ≠ 1) "worktree instance changed during reconciliation"
  let renewed ← readRecord record.id
  return projectionForRecord renewed .managed (some native)

def refreshRecord (repository : RepositoryIdentity) (record : WorktreeRecord) (native : NativeWorktree) :
    Call WorktreeProjection := do
  updateRecordFromNative record.id repository native
  let refreshed ← readRecord record.id
  return projectionForRecord refreshed .managed (some native)

def setConflicted (record : WorktreeRecord) (native : NativeWorktree) (state : WorktreeReconcileState) :
    Call WorktreeProjection := do
  setReconcileLifecycle record.id .conflicted
  return projectionForRecord { record with lifecycle := .conflicted } state (some native)

def reconcileMatchedRecord (repository : RepositoryIdentity) (record : WorktreeRecord) (native : NativeWorktree) :
    Call WorktreeProjection :=
  if record.lifecycle = .removing then .pure (projectionForRecord record (removingState record native) (some native))
  else if native.gitDirIdentity = "" then setConflicted record native .untrusted
  else if [.missing, .stale, .failed].contains record.lifecycle then renewInstance repository record native
  else if record.gitDirIdentity = native.gitDirIdentity then refreshRecord repository record native
  else setConflicted record native .conflicted

def uuidFromDigest (hex : String) : String :=
  let digit (c : Char) : Char := ("0123456789abcdef".toList.getD (8 + (if c.isDigit then c.toNat - 48 else c.toNat - 87) % 4) '8')
  let text := (((hex.toList.take 32).set 12 '5').modify 16 digit)
  let part (start length : Nat) : String := String.ofList ((text.drop start).take length)
  "-".intercalate [part 0 8, part 8 4, part 12 4, part 16 4, part 20 12]

def externalProjection (repository : RepositoryIdentity) (native : NativeWorktree) (state : WorktreeReconcileState) :
    Call WorktreeProjection := do
  let hex ← sha256Hex s!"{repository.repositoryId}\x00{native.normalizedPath}\x00{native.gitDirIdentity}"
  return ⟨uuidFromDigest hex, none, state, none, some native, none, []⟩

def externalState (native : NativeWorktree) : WorktreeReconcileState :=
  if native.gitDirIdentity = "" then .untrusted else .external

/-- The checkouts of the repository one after another, and the records that none of them has been. -/
def matchRows (repository : RepositoryIdentity) (foreignPaths : List String) :
    List NativeWorktree → List WorktreeRecord → Call (List WorktreeProjection × List WorktreeRecord)
  | [], records => .pure ([], records)
  | native :: rest, records =>
    if foreignPaths.contains native.normalizedPath then do
      let projection ← externalProjection repository native .conflicted
      let (projections, records) ← matchRows repository foreignPaths rest records
      return (projection :: projections, records)
    else match records.find? fun record => record.normalizedWorktreePath == native.normalizedPath with
      | none => do
        let projection ← externalProjection repository native (externalState native)
        let (projections, records) ← matchRows repository foreignPaths rest records
        return (projection :: projections, records)
      | some record => do
        let projection ← reconcileMatchedRecord repository record native
        let (projections, records) ← matchRows repository foreignPaths rest (records.filter (·.id != record.id))
        return (projection :: projections, records)

def foreignState (record : WorktreeRecord) : Except Failure RepositoryIdentity → WorktreeReconcileState
  | .ok identity => if identity.repositoryId ≠ record.repositoryId then .conflicted else .stale
  | .error _ => .stale

def unmatchedState (record : WorktreeRecord) (pathExists : Bool) : Call WorktreeReconcileState :=
  if isRemotePath record.worktreePath then .pure .untrusted
  else if pathExists then do
    let identity : Except Failure RepositoryIdentity ← (resolveRepositoryIdentity record.worktreePath).attempt
    return foreignState record identity
  else .pure .missing

def unmatchedLifecycle (record : WorktreeRecord) (state : WorktreeReconcileState) : WorktreeLifecycle :=
  if record.lifecycle = .removing then .removing
  else match state with
    | .missing => .missing
    | .stale => .stale
    | .conflicted | .untrusted => .conflicted
    | .managed | .external => record.lifecycle

def setUnmatched (record : WorktreeRecord) (lifecycle : WorktreeLifecycle) (pathExists : Bool) : Call Unit :=
  if record.lifecycle ≠ .removing then do
    let _ : Nat ← sql (.setUnmatched record.id lifecycle pathExists)
  else .pure ()

def reconcileUnmatched (record : WorktreeRecord) : Call WorktreeProjection := do
  let pathExists ← pathEntryExists record.worktreePath
  let state ← unmatchedState record pathExists
  let lifecycle := unmatchedLifecycle record state
  setUnmatched record lifecycle pathExists
  return projectionForRecord { record with lifecycle, exists_ := pathExists } state none

def each {α β : Type} (call : α → Call β) : List α → Call (List β)
  | [] => .pure []
  | a :: rest => do
    let b ← call a
    let others ← each call rest
    return b :: others

def reconcileScan (repository : RepositoryIdentity) (native : List NativeWorktree) : Call (List WorktreeProjection) := do
  let records : List WorktreeRecord ← sql (.readRecords (some repository.repositoryId))
  let allRecords : List WorktreeRecord ← sql (.readRecords none)
  let foreignPaths := (allRecords.filter fun record => record.repositoryId != repository.repositoryId).map
    WorktreeRecord.normalizedWorktreePath
  let (projections, unmatched) ← matchRows repository foreignPaths native records
  let others ← each reconcileUnmatched unmatched
  return applyLineage (projections ++ others)

end Reconciliation

section Import

def insertNativeRecord (repository : RepositoryIdentity) (native : NativeWorktree) (row : NativeRecord) :
    Call WorktreeRecord := do
  orBail (validateSetupPolicy row.setupPolicy)
  let id ← newUuid
  let instanceId ← newUuid
  let now ← nowMillis
  let normalizedRepositoryPath ← normalizePathForComparison repository.repositoryPath
  let _ : Nat ← sql (.insertRecord (row.record id instanceId now repository normalizedRepositoryPath native))
  readRecord id

def readRecordBySession (sessionId : String) : Call (Option WorktreeRecord) := sql (.readRecordBySession sessionId)

def validatedParentForSession (repository : RepositoryIdentity) (nativeRows : List NativeWorktree)
    (childNormalizedPath : String) : Option String → Call (Option WorktreeRecord)
  | none => .pure none
  | some parentSessionId => do
    match ← readRecordBySession parentSessionId with
    | none => .pure none
    | some parent => some <$> orBail (validatedParentRecord repository nativeRows childNormalizedPath parent)

def repositoryPathBelongsToIdentity (path : String) (repository : RepositoryIdentity) : Call Bool :=
  if isRemotePath path then .pure false
  else do
    let equal ← pathsEqual path repository.repositoryPath
    if equal then .pure true
    else do
      let identity : Except Failure RepositoryIdentity ← (resolveRepositoryIdentity path).attempt
      return identity.toOption.any fun identity => identity.repositoryId == repository.repositoryId

def legacyRecord (sessionId : String) (parentSessionId : Option String) (parent : Option WorktreeRecord) (baseRef : String) :
    NativeRecord :=
  ⟨some sessionId, parentSessionId, parent, .manual, "inherit", none, [], none, none, baseRef⟩

def bindLegacySession (sessionId : String) (existing : WorktreeRecord) : Call WorktreeRecord := do
  let _ : Nat ← sql (.bindLegacySession sessionId existing.id existing.instanceId)
  return { existing with sessionId := some sessionId }

/-- The main checkout as the parent of a legacy row, and whether the source of the row is proven. -/
def legacyMainParent (repository : RepositoryIdentity) (row : LegacyWorktreeRow) :
    Option NativeWorktree → Call (Option WorktreeRecord × Bool)
  | none => .pure (none, false)
  | some main => do
    match ← sql (.readRecordByPath repository.repositoryId main.normalizedPath) with
    | some existing =>
      if existing.gitDirIdentity = "" ∨ existing.gitDirIdentity ≠ main.gitDirIdentity then .pure (none, false)
      else if existing.sessionId = some row.parentSessionId then .pure (some existing, true)
      else if existing.sessionId = none then do
        let bound ← bindLegacySession row.parentSessionId existing
        return (some bound, true)
      else .pure (none, false)
    | none => do
      let inserted ← insertNativeRecord repository main (legacyRecord row.parentSessionId none none main.head)
      return (some inserted, true)

def provesParent (repository : RepositoryIdentity) (native : List NativeWorktree) (childNormalizedPath : String)
    (parent : WorktreeRecord) : Bool :=
  parent.repositoryId == repository.repositoryId && parent.normalizedWorktreePath != childNormalizedPath &&
    parent.lifecycle == .active && parent.exists_ && parent.gitDirIdentity != "" &&
    native.any fun entry => entry.normalizedPath == parent.normalizedWorktreePath && entry.gitDirIdentity != "" &&
      entry.gitDirIdentity == parent.gitDirIdentity

def legacyParent (repository : RepositoryIdentity) (native : List NativeWorktree) (row : LegacyWorktreeRow)
    (normalized : String) : Call (Option WorktreeRecord × Bool) := do
  let named ← readRecordBySession row.parentSessionId
  match named.filter (provesParent repository native normalized) with
  | some parent => .pure (some parent, true)
  | none => do
    let belongs ← repositoryPathBelongsToIdentity row.sourceWorkspaceFolder repository
    if belongs then legacyMainParent repository row (native.find? NativeWorktree.isMain)
    else .pure (none, false)

def unprovenRecord (id instanceId : String) (repository : RepositoryIdentity) (normalizedRepositoryPath normalized : String)
    (row : LegacyWorktreeRow) (baseRef : String) (parent : Option WorktreeRecord) (sourceProven : Bool) : WorktreeRecord where
  id
  instanceId
  repositoryId := repository.repositoryId
  repositoryPath := repository.repositoryPath
  worktreePath := row.worktreePath
  branch := row.branch
  head := ""
  baseRef
  sessionId := some row.sessionId
  parentSessionId := some row.parentSessionId
  parentWorktreeId := parent.map WorktreeRecord.id
  parentInstanceId := parent.map WorktreeRecord.instanceId
  origin := .manual
  lifecycle := if sourceProven then .stale else .conflicted
  locked := false
  lockReason := none
  prunable := false
  prunableReason := none
  dirty := false
  untracked := false
  hasConflicts := false
  ahead := 0
  behind := 0
  exists_ := false
  setupPolicy := "inherit"
  sparsePreset := none
  linkedFiles := []
  initialAgent := none
  initialPrompt := none
  comment := none
  reviewTarget := none
  createdAt := max row.createdAt 1
  normalizedRepositoryPath
  normalizedWorktreePath := normalized
  gitDirIdentity := ""

def insertUnproven (repository : RepositoryIdentity) (normalized : String) (row : LegacyWorktreeRow) (baseRef : String)
    (parent : Option WorktreeRecord) (sourceProven : Bool) : Call Unit := do
  let id ← newUuid
  let instanceId ← newUuid
  let normalizedRepositoryPath ← normalizePathForComparison repository.repositoryPath
  let _ : Nat ← sql (.insertOrIgnore
    (unprovenRecord id instanceId repository normalizedRepositoryPath normalized row baseRef parent sourceProven))

def insertLegacy (repository : RepositoryIdentity) (normalized : String) (row : LegacyWorktreeRow) (baseRef : String)
    (parent : Option WorktreeRecord) (sourceProven : Bool) : Option NativeWorktree → Call Unit
  | some native =>
    if sourceProven then do
      let _ ← insertNativeRecord repository native (legacyRecord row.sessionId (some row.parentSessionId) parent baseRef)
    else insertUnproven repository normalized row baseRef parent sourceProven
  | none => insertUnproven repository normalized row baseRef parent sourceProven

def importLegacyRow (repository : RepositoryIdentity) (native : List NativeWorktree) (row : LegacyWorktreeRow) :
    Call Unit := do
  match ← readRecordBySession row.sessionId with
  | some _ => .pure ()
  | none => do
    let normalized ← normalizePathForComparison row.worktreePath
    let baseRef := (← provenCommitId repository.repositoryPath row.startRef).getD ""
    let (parent, sourceProven) ← legacyParent repository native row normalized
    insertLegacy repository normalized row baseRef parent sourceProven
      (native.find? fun entry => entry.normalizedPath == normalized)

def importLegacyRows (repository : RepositoryIdentity) (native : List NativeWorktree) (rows : List LegacyWorktreeRow) :
    Call Unit := do
  let _ ← each (importLegacyRow repository native) rows

/-- What a second import of a checkout writes over the session and the parent of its record. -/
def rebind (request : WorktreeImportRequest) (parent : Option WorktreeRecord) (reconciled : WorktreeRecord)
    (native : NativeWorktree) : Call WorktreeProjection := do
  let sessionId := request.sessionId.or reconciled.sessionId
  let parentSessionId := request.parentSessionId.or reconciled.parentSessionId
  let (parentWorktreeId, parentInstanceId) :=
    if request.parentSessionId.isSome then (parent.map WorktreeRecord.id, parent.map WorktreeRecord.instanceId)
    else (reconciled.parentWorktreeId, reconciled.parentInstanceId)
  let _ : Nat ← sql (.rebindImported sessionId parentSessionId parentWorktreeId parentInstanceId reconciled.id
    reconciled.instanceId)
  let rebound ← readRecord reconciled.id
  return projectionForRecord rebound .managed (some native)

def importKnown (request : WorktreeImportRequest) (repository : RepositoryIdentity) (parent : Option WorktreeRecord)
    (record : WorktreeRecord) (native : NativeWorktree) : Call WorktreeProjection := do
  let projection ← reconcileMatchedRecord repository record native
  match projection.record with
  | none => .fail (.bail "reconciled worktree record is unavailable")
  | some reconciled =>
    if request.sessionId.isSome ∨ request.parentSessionId.isSome then rebind request parent reconciled native
    else .pure projection

def importNew (request : WorktreeImportRequest) (repository : RepositoryIdentity) (parent : Option WorktreeRecord)
    (native : NativeWorktree) : Call WorktreeProjection := do
  let record ← insertNativeRecord repository native
    ⟨request.sessionId, request.parentSessionId, parent, .externalImport, "inherit", none, [], none, none, ""⟩
  return projectionForRecord record .managed (some native)

def importExternal (request : WorktreeImportRequest) : Call WorktreeProjection := do
  let repository ← resolveRepositoryIdentity request.repositoryPath
  let nativeRows ← scanNativeWorktrees request.repositoryPath
  let normalized ← normalizePathForComparison request.worktreePath
  match nativeRows.find? fun entry => entry.normalizedPath == normalized with
  | none => .fail (.bail s!"worktree is not registered with Git: {request.worktreePath}")
  | some native => do
    bailIf (native.gitDirIdentity = "") "worktree identity is unavailable"
    let parent ← validatedParentForSession repository nativeRows normalized request.parentSessionId
    match ← sql (.readRecordByPath repository.repositoryId normalized) with
    | some record => importKnown request repository parent record native
    | none => importNew request repository parent native

def createdParent (repository : RepositoryIdentity) (nativeRows : List NativeWorktree) (native : NativeWorktree)
    (request : WorktreeCreateRequest) : Call (Option WorktreeRecord) :=
  match request.parentWorktreeId with
  | some parentId => do
    let parent ← readRecord parentId
    some <$> orBail (validatedParentRecord repository nativeRows native.normalizedPath parent)
  | none => validatedParentForSession repository nativeRows native.normalizedPath (some request.parentSessionId)

def registerCreated (repository : RepositoryIdentity) (native : NativeWorktree) (request : WorktreeCreateRequest)
    (sessionId : Option String) : Call WorktreeRecord := do
  let nativeRows ← scanNativeWorktrees repository.repositoryPath
  let parent ← createdParent repository nativeRows native request
  insertNativeRecord repository native
    ⟨sessionId, some request.parentSessionId, parent, request.origin, request.setupPolicy, request.sparsePreset,
      request.linkedFiles, request.initialAgent, request.initialPrompt, request.startRef⟩

end Import

section Listing

def importLegacy (repository : RepositoryIdentity) (native : List NativeWorktree) (rows : List LegacyWorktreeRow) :
    Call Unit :=
  if rows.isEmpty then .pure () else importLegacyRows repository native rows

def remoteProjections (repositoryPath : String) : Call (List WorktreeProjection) := do
  let normalized ← normalizePathForComparison repositoryPath
  let records : List WorktreeRecord ← sql (.readRecords none)
  return applyLineage ((records.filter fun record => record.normalizedRepositoryPath == normalized).map fun record =>
    projectionForRecord record .untrusted none)

def reconcile (request : WorktreeReconcileRequest) : Call (List WorktreeProjection) :=
  if isRemotePath request.repositoryPath then remoteProjections request.repositoryPath
  else do
    let repository ← resolveRepositoryIdentity request.repositoryPath
    let native ← scanNativeWorktrees request.repositoryPath
    importLegacy repository native request.legacyRows
    reconcileScan repository native

/-- Whether the checkout is one of the automations' own, below `scratch`. -/
def hiddenExternal (scratch : String) (projection : WorktreeProjection) : Call Bool :=
  match projection.record, projection.native with
  | none, some native => do
    let path ← normalizePathForComparison native.worktreePath
    let root ← normalizePathForComparison scratch
    return path == root || (root.toList ++ ['/']).isPrefixOf path.toList
  | _, _ => .pure false

def shown (scratch : String) (request : WorktreeListRequest) (projection : WorktreeProjection) :
    Call (Option WorktreeProjection) := do
  let hidden ← hiddenExternal scratch projection
  return if (request.includeExternal || projection.record.isSome) && (request.includeHidden || !hidden) then some projection
    else none

def retainShown (scratch : String) (request : WorktreeListRequest) (projections : List WorktreeProjection) :
    Call (List WorktreeProjection) := do
  let rows ← each (shown scratch request) projections
  return rows.filterMap fun row => row

def keyedRepository (record : WorktreeRecord) : Call (String × WorktreeRecord) := do
  let normalized ← normalizePathForComparison record.repositoryPath
  return (normalized, record)

/-- `dedup_by` -/
def dedupRepositories : List (String × WorktreeRecord) → List (String × WorktreeRecord)
  | [] => []
  | first :: rest => first :: (dedupRepositories rest).dropWhile fun other => other.1 == first.1

/-- What a repository shows; if it cannot be asked, its records as they are. -/
def listRepository (keyed : List (String × WorktreeRecord)) (repository : String × WorktreeRecord) :
    Call (List WorktreeProjection) := do
  let result : Except Failure (List WorktreeProjection) ← (reconcile ⟨repository.2.repositoryPath, []⟩).attempt
  return match result with
    | .ok rows => rows
    | .error _ => (keyed.filter fun other => other.1 == repository.1).map fun other =>
      projectionForRecord other.2 .untrusted none

def pushUnseen (projections : List WorktreeProjection) (row : WorktreeProjection) : List WorktreeProjection :=
  if projections.any fun projection => projection.id == row.id then projections else projections ++ [row]

def listAll : Call (List WorktreeProjection) := do
  let records : List WorktreeRecord ← sql (.readRecords none)
  let keyed ← each keyedRepository records
  let repositories := dedupRepositories (orderBy (fun a b => decide (a.1 ≤ b.1)) keyed)
  let rows ← each (listRepository keyed) repositories
  return rows.flatten.foldl pushUnseen []

def list (scratch : String) (request : WorktreeListRequest) : Call (List WorktreeProjection) :=
  match request.repositoryPath with
  | some repositoryPath => do
    let projections ← reconcile ⟨repositoryPath, []⟩
    retainShown scratch request projections
  | none => do
    let projections ← listAll
    let rows ← retainShown scratch request projections
    return applyLineage rows

end Listing

section Metadata

def set (request : WorktreeSetRequest) : Call WorktreeRecord := do
  let known ← readRecord request.worktreeId
  orBail (requireInstance known request.expectedInstanceId)
  let repository ← resolveRepositoryIdentity known.repositoryPath
  bailIf (repository.repositoryId ≠ known.repositoryId ∨ known.lifecycle ≠ .active ∨ known.exists_ = false)
    "worktree metadata target is not a current active checkout"
  let nativeRows ← scanNativeWorktrees known.repositoryPath
  match nativeRows.find? fun native => native.normalizedPath == known.normalizedWorktreePath with
  | none => .fail (.bail "worktree metadata target is not registered with Git")
  | some native => do
    bailIf (native.gitDirIdentity = "" ∨ native.gitDirIdentity ≠ known.gitDirIdentity)
      "worktree metadata target instance identity cannot be proven"
    sql (.set request repository nativeRows)

def insertCheckpoint (checkpoint : WorktreeCheckpoint) : Call Unit := do
  orBail (← .issued (.insertCheckpoint checkpoint.worktreeId checkpoint.kind checkpoint.label checkpoint.head
    checkpoint.comment))

def checkpoint (request : WorktreeCheckpointRequest) : Call WorktreeCheckpoint := do
  orBail (validateCheckpointKind request.kind)
  let record ← readRecord request.worktreeId
  let repository ← resolveRepositoryIdentity record.repositoryPath
  bailIf (repository.repositoryId ≠ record.repositoryId) "checkpoint repository identity changed"
  bailIf (record.lifecycle = .removing) "checkpoint cannot be created while worktree removal is in progress"
  let nativeRows ← scanNativeWorktrees record.repositoryPath
  match nativeRows.find? fun native => native.normalizedPath == record.normalizedWorktreePath with
  | none => .fail (.bail "checkpoint worktree is not registered with Git")
  | some native => do
    bailIf (native.gitDirIdentity = "" ∨ native.gitDirIdentity ≠ record.gitDirIdentity)
      "checkpoint worktree instance changed"
    updateRecordFromNative record.id repository native
    let id ← newUuid
    let label ← orBail (requiredText request.label "checkpoint label")
    let createdAt ← nowMillis
    let checkpoint := ⟨id, record.id, request.kind, label, native.head, request.comment.bind nonempty, createdAt⟩
    insertCheckpoint checkpoint
    return checkpoint

end Metadata

end Call

end VibeLink.Worktrees
