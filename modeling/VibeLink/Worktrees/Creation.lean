import VibeLink.Worktrees.Operations

/-! The creation of a worktree, with the journal by which it is rolled back, and the move of a checkout
(`app/git/worktree_lifecycle.rs`). -/

namespace VibeLink.Worktrees

open Relational
open Coordinator (trim)

structure CreateJournal where
  repositoryPath : Option String
  worktreePath : Option String
  gitDirIdentity : Option String
  branch : Option String
  baseSha : Option String
  record : Option (String × String)
  sessionId : Option String
  copy : Option CopyJournal
  createdDirectories : List String

def CreateJournal.empty : CreateJournal := ⟨none, none, none, none, none, none, none, none, []⟩

structure WorktreeCreateResult where
  worktree : WorktreeRecord
  sessionId : String
  baseSha : String

structure WorktreeMoveRequest where
  operationId : Nat
  worktreeId : String
  expectedInstanceId : String
  destinationPath : String

structure WorktreeMoveResult where
  worktree : WorktreeRecord
  previousPath : String

def joinPath (root name : String) : String :=
  if root.toList.getLast? = some '/' then root ++ name else root ++ "/" ++ name

def containsText (text part : String) : Bool := text.toList.tails.any part.toList.isPrefixOf

def isCollisionFailure : CommandFailure → Bool
  | .exit message output =>
    let text := Call.toAsciiLowercase (message ++ "\n" ++ output.stderrTail)
    containsText text "already exists" || containsText text "already checked out" ||
      containsText text "missing but already registered worktree"
  | _ => false

def isAllowedBaseRefChar (c : Char) : Bool := c.isAlphanum || "/_-.@~^".toList.contains c

def validateBaseRef (baseRef : String) : Except String Unit :=
  if baseRef = "" then .error "git base ref must not be empty"
  else if baseRef.toList.head? = some '-' then .error "git base ref must not start with '-'"
  else if !baseRef.toList.all isAllowedBaseRefChar then .error "git base ref contains unsupported characters"
  else .ok ()

def requireActiveInstance (record : WorktreeRecord) (expectedInstanceId : String) : Except String Unit :=
  if record.instanceId ≠ expectedInstanceId then .error "worktree instance changed"
  else if record.lifecycle ≠ .active ∨ record.exists_ = false then .error "worktree must be an active managed checkout"
  else .ok ()

namespace Call

section Steps

def verifyCreatedSnapshot (snapshot : NativeSnapshot) (branch baseSha : String) : Except String Unit :=
  if snapshot.native.gitDirIdentity = "" ∨ snapshot.native.head ≠ baseSha ∨ snapshot.native.branch ≠ some branch ∨
      snapshot.native.detached = true ∨ snapshot.native.bare = true ∨ snapshot.native.exists_ = false then
    .error "created worktree failed final native identity validation"
  else .ok ()

def verifyMoveSnapshot (source destination : NativeSnapshot) : Except String Unit :=
  if source.normalizedCommonDir ≠ destination.normalizedCommonDir ∨
      source.native.gitDirIdentity ≠ destination.native.gitDirIdentity ∨ source.native.head ≠ destination.native.head ∨
      source.native.branch ≠ destination.native.branch then .error "moved worktree identity changed"
  else .ok ()

def validateBranchName (repository branch : String) : Call Unit :=
  if trim branch = "" ∨ branch.toList.head? = some '-' ∨ branch.toList.contains '\x00' then
    .fail (.bail "worktree branch is empty or unsafe")
  else do
    let _ ← runSuccess repository (.checkRefFormat branch)

def remoteNames (output : CommandOutput) : List String :=
  ((output.stdoutTail.toList.splitOn '\n').map fun line => trim (String.ofList line)).filter (· ≠ "")

def preferredRemote (repository : String) : Call (Option String) := do
  match ← git repository .pushDefault with
  | .ok output => some <$> outputText output "configured fetch remote"
  | .error failure => if failure.isNo then .pure none else .fail failure.failure

def chooseRemote (remotes : List String) : Option String → Except String String
  | some preferred =>
    if remotes.contains preferred then .ok preferred else .error s!"configured remote does not exist: {preferred}"
  | none => .ok (if remotes.contains "origin" then "origin" else remotes.headD "")

def configuredRemote (repository : String) : Call String := do
  let output ← runSuccess repository .remote
  bailIf (remoteNames output).isEmpty "fetch was requested but the repository has no configured remote"
  let preferred ← preferredRemote repository
  orBail (chooseRemote (remoteNames output) preferred)

def dirtyBase (repository : String) (output : CommandOutput) : Call String :=
  if trim output.stdoutTail = "" then resolveCommit repository "HEAD"
  else if output.stdoutTruncated || !isExactSha (trim output.stdoutTail) then
    .fail (.bail "Git returned an invalid dirty worktree base snapshot")
  else .pure (toAsciiLowercase (trim output.stdoutTail))

def resolveCreationBase (repository startRef : String) : Call String :=
  if startRef ≠ "HEAD" then resolveCommit repository startRef
  else do
    let output ← runSuccess repository .stashCreate
    dirtyBase repository output

def branchExists (repository branch : String) : Call Bool := do
  match ← git repository (.showRef branch) with
  | .ok _ => .pure true
  | .error failure => if failure.isNo then .pure false else .fail failure.failure

/-- The destination, its branch, and what Git says of it. -/
structure Created where
  destination : String
  branch : String
  snapshot : NativeSnapshot

/-- The identity of what has just been added is proven, or the error says what is left behind. -/
def proveCreated (repository : RepositoryIdentity) (destination branch : String) : Call Created := do
  let result : Except Failure NativeSnapshot ← (nativeSnapshot repository destination).attempt
  match result with
  | .ok snapshot => .pure ⟨destination, branch, snapshot⟩
  | .error error => .fail {
      message := s!"worktree add succeeded but identity could not be proven: {error.message}; retained artifacts: path:{destination}, branch:{branch}; recovery instruction: inspect the retained Git worktree identity before explicit cleanup"
      cancelled := false
      retained := [.path destination, .branch branch] }

def collided : Failure :=
  .bail "worktree name and branch collided for every candidate from the base name through suffix -25"

def suffix (number : Nat) : String := if number = 1 then "" else s!"-{number}"

/-- The candidate is free, it is taken (`none`), or it cannot be told. -/
def addWorktree (repository : RepositoryIdentity) (destination branch baseSha : String) : Call (Option Created) := do
  match ← git repository.repositoryPath (.worktreeAdd branch destination baseSha) with
  | .ok _ => some <$> proveCreated repository destination branch
  | .error failure =>
    if isCollisionFailure failure then .pure none else .fail (failure.failure.context "create Git worktree")

def addUnlessBranch (repository : RepositoryIdentity) (destination branch baseSha : String) : Bool → Call (Option Created)
  | true => .pure none
  | false => addWorktree repository destination branch baseSha

def tryCandidate (repository : RepositoryIdentity) (destination branch baseSha : String) : Call (Option Created) := do
  checkCancelled
  validateBranchName repository.repositoryPath branch
  match ← symlinkMetadata destination with
  | .found _ _ => .pure none
  | .missing => do
    let exists_ ← branchExists repository.repositoryPath branch
    addUnlessBranch repository destination branch baseSha exists_
  | .unreadable _ => .fail (.bail s!"inspect worktree destination {destination}")

/-- `for number in 1..=25`, from some candidate on. -/
def tryCandidates (repository : RepositoryIdentity) (root slug baseBranch baseSha : String) : List Nat → Call Created
  | [] => .fail collided
  | number :: rest => do
    match ← tryCandidate repository (joinPath root (slug ++ suffix number)) (baseBranch ++ suffix number) baseSha with
    | some created => .pure created
    | none => tryCandidates repository root slug baseBranch baseSha rest

def createCollisionBounded (repository : RepositoryIdentity) (root slug baseBranch baseSha : String) : Call Created :=
  tryCandidates repository root slug baseBranch baseSha ((List.range 25).map Nat.succ)

def copyRegularFiles (repository destination : String) (files : List String) : Call CopyJournal := do
  let reply ← Program.issued (Instr.copyRegularFiles repository destination files)
  match reply with
  | .ok journal => .pure journal
  | .error (message, cancelled) => .fail ⟨message, cancelled, []⟩

def runSetup (directory : String) (command : SetupCommand) : Call CommandOutput := do
  orFail (← .issued (.setup directory command))

end Steps

section Creation

abbrev Journaled : Type → Type := Program Instr.Reply (CreateJournal × Failure)

def during {α : Type} (journal : CreateJournal) (call : Call α) : Journaled α := call.mapError fun failure => (journal, failure)

structure CreationPlan where
  slug : String
  baseBranch : String
  linkedFiles : List String
  repository : RepositoryIdentity
  sparsePaths : Option (List String)
  setup : Option SetupCommand
  root : String

def slugName (name : String) : Call String := do orBail (← .issued (.slugName name))

def validateLinkedFilePaths (files : List String) : Call (List String) := do orBail (← .issued (.linkedFilePaths files))

structure CreationTarget where
  slug : String
  baseBranch : String
  linkedFiles : List String
  repository : RepositoryIdentity

def identifyCreation (request : WorktreeCreateRequest) : Call CreationTarget := do
  stage "validating"
  let slug ← slugName request.name
  context "validate worktree start ref" (orBail (validateBaseRef request.startRef))
  let baseBranch := request.branch.getD s!"vibelink/{slug}"
  orBail (validateSetupPolicy request.setupPolicy)
  let linkedFiles ← validateLinkedFilePaths request.linkedFiles
  let repository ← resolveRepository request.repositoryPath
  return ⟨slug, baseBranch, linkedFiles, repository⟩

def validateRegularFileSources (repository : String) (files : List String) : Call Unit := do
  orBail (← .issued (.regularFileSources repository files))

def resolveSparsePreset (repository : String) : Option String → Call (Option (List String))
  | none => .pure none
  | some preset => do
    let paths : List String ← orBail (← .issued (.sparsePreset repository preset))
    return some paths

def resolveSetupCommand (repository policy : String) : Call (Option SetupCommand) := do
  orBail (← .issued (.setupCommand repository policy))

def resolveRoot (repository : String) : Call String := do orBail (← .issued (.resolveRoot repository))

def fetchRemote (repository : String) : Bool → Call Unit
  | false => .pure ()
  | true => do
    stage "fetching"
    let remote ← configuredRemote repository
    let _ ← runSuccess repository (.fetch remote)
    checkCancelled

def planCreation (request : WorktreeCreateRequest) (target : CreationTarget) : Call (CreationPlan × String) := do
  validateRegularFileSources target.repository.repositoryPath target.linkedFiles
  validateBranchName target.repository.repositoryPath target.baseBranch
  let sparsePaths ← resolveSparsePreset target.repository.repositoryPath request.sparsePreset
  let setup ← resolveSetupCommand target.repository.repositoryPath request.setupPolicy
  let root ← resolveRoot target.repository.repositoryPath
  fetchRemote target.repository.repositoryPath request.fetch
  let baseSha ← resolveCreationBase target.repository.repositoryPath request.startRef
  return (⟨target.slug, target.baseBranch, target.linkedFiles, target.repository, sparsePaths, setup, root⟩, baseSha)

def createSafeDirectoryChain (root : String) : Call (String × List String) := do
  orBail (← .issued (.createSafeDirectoryChain root))

def prepareRoot (plan : CreationPlan) : Call (String × List String) := do
  stage "creating"
  createSafeDirectoryChain plan.root

def copyLinkedFiles (plan : CreationPlan) (destination : String) : Call (Option CopyJournal) :=
  if plan.linkedFiles.isEmpty then .pure none
  else do
    stage "copying"
    let journal ← copyRegularFiles plan.repository.repositoryPath destination plan.linkedFiles
    return some journal

def checkCopied : Option CopyJournal → Call Unit
  | none => .pure ()
  | some _ => checkCancelled

def sparseCheckout (destination : String) : Option (List String) → Call Unit
  | none => .pure ()
  | some paths => do
    stage "sparse"
    let _ ← runSuccess destination .sparseInit
    let _ ← runSuccess destination (.sparseSet paths)
    checkCancelled

def setUp (destination : String) : Option SetupCommand → Call Unit
  | none => .pure ()
  | some command => do
    stage "setup"
    let _ ← runSetup destination command
    checkCancelled

def registerCheckout (request : WorktreeCreateRequest) (plan : CreationPlan) (baseSha : String) (created : Created)
    (copied : Option CopyJournal) : Call WorktreeRecord := do
  checkCopied copied
  sparseCheckout created.destination plan.sparsePaths
  setUp created.destination plan.setup
  let registered ← nativeSnapshot plan.repository created.destination
  orBail (verifyCreatedSnapshot registered created.branch baseSha)
  registerCreated plan.repository registered.native { request with startRef := baseSha } none

def createSession (record : WorktreeRecord) : Call String := do
  stage "binding"
  orBail (← .issued (.createSession record))

def bindSession (worktreeId expectedInstanceId sessionId : String) : Call WorktreeRecord := do
  let changed : Nat ← sql (.bindSession worktreeId expectedInstanceId sessionId)
  bailIf (changed ≠ 1) "worktree session compare-and-swap failed"
  readRecord worktreeId

def finishCreation (plan : CreationPlan) (baseSha : String) (created : Created) (record : WorktreeRecord)
    (sessionId : String) : Call WorktreeCreateResult := do
  let worktree ← bindSession record.id record.instanceId sessionId
  checkCancelled
  stage "launching"
  let final ← nativeSnapshot plan.repository created.destination
  orBail (verifyCreatedSnapshot final created.branch baseSha)
  let samePath ← pathsEqual worktree.worktreePath final.native.worktreePath
  bailIf (worktree.sessionId ≠ some sessionId ∨ worktree.gitDirIdentity ≠ final.native.gitDirIdentity ∨ samePath = false)
    "created worktree identity or session binding changed before completion"
  stage "complete"
  return ⟨worktree, sessionId, baseSha⟩

/-- The steps of a creation, each with what has been done before it in the journal. -/
def createSteps (request : WorktreeCreateRequest) : Journaled WorktreeCreateResult := do
  let journal := CreateJournal.empty
  let target ← during journal (identifyCreation request)
  let journal := { journal with repositoryPath := some target.repository.repositoryPath }
  let (plan, baseSha) ← during journal (planCreation request target)
  let journal := { journal with baseSha := some baseSha }
  let (managedRoot, createdDirectories) ← during journal (prepareRoot plan)
  let journal := { journal with createdDirectories }
  let created ← during journal
    (createCollisionBounded plan.repository managedRoot plan.slug plan.baseBranch baseSha)
  let journal := { journal with
    branch := some created.branch
    worktreePath := some created.destination
    gitDirIdentity := some created.snapshot.native.gitDirIdentity }
  let copied ← during journal (do
    checkCancelled
    copyLinkedFiles plan created.destination)
  let journal := { journal with copy := copied }
  let record ← during journal (registerCheckout request plan baseSha created copied)
  let journal := { journal with record := some (record.id, record.instanceId) }
  let sessionId ← during journal (createSession record)
  let journal := { journal with sessionId := some sessionId }
  during journal (finishCreation plan baseSha created record sessionId)

end Creation

section Rollback

def retainedUnless (artifact : Artifact) : Except Failure Unit → List Artifact
  | .ok () => []
  | .error _ => [artifact]

def removeSession (sessionId : String) : Call Unit := do orBail (← .issued (.removeSession sessionId))

def rollbackSession : Option String → Call (List Artifact)
  | none => .pure []
  | some sessionId => do
    let result : Except Failure Unit ← (removeSession sessionId).attempt
    return retainedUnless (.session sessionId) result

/-- `remove_metadata_if_instance`, which an error says has removed nothing -/
def removeMetadataIfInstance (worktreeId instanceId : String) : Call Bool := do
  let changed : Nat ← sql (.removeMetadataIfInstance worktreeId instanceId)
  return changed == 1

def rollbackMetadata : Option (String × String) → Call (List Artifact)
  | none => .pure []
  | some (worktreeId, instanceId) => do
    let removed ← orElse (removeMetadataIfInstance worktreeId instanceId) false
    return if removed then [] else [.metadata worktreeId instanceId]

def snapshotAgain (repository path : String) : Call NativeSnapshot := do
  let identity ← resolveRepository repository
  nativeSnapshot identity path

def removeProven (repository path : String) : Call (List Artifact) := do
  let result : Except Failure CommandOutput ← (runSuccess repository (.worktreeRemove true path)).attempt
  return retainedUnless (.path path) (result.map fun _ => ())

def rollbackCopyJournal : Option CopyJournal → Call Unit
  | none => .pure ()
  | some copy => Program.issued (Instr.rollbackCopyJournal copy)

def retainUnproven (path : String) (copy : Option CopyJournal) : Call (List Artifact) := do
  rollbackCopyJournal copy
  return [.path path]

def isProven (expectedIdentity : String) : Except Failure NativeSnapshot → Bool
  | .ok snapshot => snapshot.native.gitDirIdentity == expectedIdentity
  | .error _ => false

def rollbackPath (copy : Option CopyJournal) : Option String → Option String → Option String → Call (List Artifact)
  | some repository, some path, some expectedIdentity => do
    let exact : Except Failure NativeSnapshot ← (snapshotAgain repository path).attempt
    if isProven expectedIdentity exact then removeProven repository path else retainUnproven path copy
  | _, _, _ => .pure []

def deleteExact (repository branch baseSha : String) : Call (List Artifact) := do
  let result : Except Failure CommandOutput ← (runSuccess repository (.deleteRef branch baseSha)).attempt
  return retainedUnless (.branch branch) (result.map fun _ => ())

/-- A branch that cannot be read is neither deleted nor said to be retained. -/
def rollbackBranch : Option String → Option String → Option String → Call (List Artifact)
  | some repository, some branch, some baseSha => do
    let result : Except Failure String ← (resolveCommit repository (headsRef branch)).attempt
    match result with
    | .ok current => if current = baseSha then deleteExact repository branch baseSha else .pure [.branch branch]
    | .error _ => .pure []
  | _, _, _ => .pure []

def rollbackCreate (journal : CreateJournal) : Call (List Artifact) := do
  let session ← rollbackSession journal.sessionId
  let metadata ← rollbackMetadata journal.record
  let path ← rollbackPath journal.copy journal.repositoryPath journal.worktreePath journal.gitDirIdentity
  let branch ← rollbackBranch journal.repositoryPath journal.branch journal.baseSha
  let _ ← Program.issued (Instr.removeDirectories journal.createdDirectories)
  return session ++ metadata ++ path ++ branch

end Rollback

/-- What a failed creation says, with the artifacts that are retained. -/
def rolledBack (failure : Failure) (retained : List Artifact) : Failure :=
  let message := failure.message ++ (if retained = [] then "" else
    "; retained artifacts: " ++ ", ".intercalate (retained.map Artifact.name) ++
      "; recovery instruction: inspect the retained identity and remove it explicitly after preserving any work")
  if failure.cancelled then
    { (CommandFailure.cancelled { CommandOutput.default with stderrTail := message }).failure with
      retained := failure.retained ++ retained }
  else ⟨message, false, failure.retained ++ retained⟩

def afterFailure (journal : CreateJournal) (failure : Failure) : Call WorktreeCreateResult := do
  let _ ← Program.issued (Instr.operationStage "rolling_back")
  let retained ← rollbackCreate journal
  .fail (rolledBack failure retained)

def createClaimed (request : WorktreeCreateRequest) : Call WorktreeCreateResult := do
  let result : Except (CreateJournal × Failure) WorktreeCreateResult ← (createSteps request).attempt
  match result with
  | .ok result => .pure result
  | .error (journal, failure) => afterFailure journal failure

def failedStage (failure : Failure) : String := if failure.cancelled then "cancelled" else "failed"

def createRecorded (request : WorktreeCreateRequest) : Call WorktreeCreateResult := do
  let result : Except Failure WorktreeCreateResult ← (createClaimed request).attempt
  match result with
  | .ok result => do
    orBail (← .issued .completeOperation)
    return result
  | .error failure => do
    orBail (← .issued (.failOperation (failedStage failure) failure.message))
    .fail failure

def create (request : WorktreeCreateRequest) : Call (Performed WorktreeCreateResult) := do
  validateOperationId request.operationId
  claimed "create" (createRecorded request)

section Moving

def compareAndSwapPath (record : WorktreeRecord) (native : NativeWorktree) : Call WorktreeRecord := do
  let normalized ← normalizePathForComparison record.worktreePath
  let changed : Nat ← sql (.compareAndSwapPath record.id record.instanceId normalized native)
  bailIf (changed ≠ 1) "worktree path compare-and-swap failed"
  readRecord record.id

def moveDestination (source destination : String) : Call (String × List String) := do
  orBail (← .issued (.moveDestination source destination))

def updateMoved (record : WorktreeRecord) (repository : RepositoryIdentity) (source : NativeSnapshot)
    (destination : String) : Call WorktreeRecord := do
  let moved ← nativeSnapshot repository destination
  orBail (verifyMoveSnapshot source moved)
  compareAndSwapPath record moved.native

def verifyMovedBack (record : WorktreeRecord) (repository : RepositoryIdentity) (source : NativeSnapshot) : Call Unit := do
  let snapshot ← nativeSnapshot repository record.worktreePath
  orBail (verifyMoveSnapshot source snapshot)

def moveBack (record : WorktreeRecord) (repository : RepositoryIdentity) (source : NativeSnapshot) (destination : String)
    (createdDirectories : List String) (moveError : Failure) : Call WorktreeMoveResult := do
  let rollback : Except Failure CommandOutput ←
    (runSuccess repository.repositoryPath (.worktreeMove destination record.worktreePath)).attempt
  match rollback with
  | .error rollbackError =>
    .fail (.bail s!"{moveError.message}; move-back failed: {rollbackError.message}; retained path: {destination}")
  | .ok _ => do
    let identity : Except Failure Unit ← (verifyMovedBack record repository source).attempt
    match identity with
    | .error identityError => .fail (.bail
        s!"{moveError.message}; move-back identity validation failed: {identityError.message}; retained path: {record.worktreePath}")
    | .ok () => do
      let _ ← Program.issued (Instr.removeDirectories createdDirectories)
      .fail moveError

def moveClaimed (request : WorktreeMoveRequest) : Call WorktreeMoveResult := do
  let record ← readRecord request.worktreeId
  orBail (requireActiveInstance record request.expectedInstanceId)
  let repository ← resolveRepository record.repositoryPath
  let source ← nativeSnapshot repository record.worktreePath
  orBail (verifyRecordSnapshot record repository source)
  bailIf source.native.isMain "the main checkout cannot be moved by the managed lifecycle"
  let (destination, createdDirectories) ← moveDestination record.worktreePath request.destinationPath
  stage "moving"
  let _ ← runSuccess repository.repositoryPath (.worktreeMove record.worktreePath destination)
  let updated : Except Failure WorktreeRecord ← (updateMoved record repository source destination).attempt
  match updated with
  | .ok updated => .pure ⟨updated, record.worktreePath⟩
  | .error moveError => moveBack record repository source destination createdDirectories moveError

def moveCheckout (request : WorktreeMoveRequest) : Call (Performed WorktreeMoveResult) := do
  validateOperationId request.operationId
  claimed "move" (recorded (moveClaimed request))

end Moving

end Call

end VibeLink.Worktrees
