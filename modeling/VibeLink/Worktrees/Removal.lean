import VibeLink.Worktrees.Calls

/-! The removal of a worktree: the preflight and its acknowledgements (`app/git/worktree_registry.rs`), and the
operation (`remove` of `app/git/worktree_lifecycle.rs`). -/

namespace VibeLink.Worktrees

open Relational
open Coordinator (trim)

inductive WorktreeBlockerKind
  | mainCheckout | gitLocked | identityMismatch | dirty | conflicted | unpushed | liveSession | livePanes
  | missingRegistration | orphanDirectory
  deriving DecidableEq

def WorktreeBlockerKind.name : WorktreeBlockerKind → String
  | .mainCheckout => "MainCheckout"
  | .gitLocked => "GitLocked"
  | .identityMismatch => "IdentityMismatch"
  | .dirty => "Dirty"
  | .conflicted => "Conflicted"
  | .unpushed => "Unpushed"
  | .liveSession => "LiveSession"
  | .livePanes => "LivePanes"
  | .missingRegistration => "MissingRegistration"
  | .orphanDirectory => "OrphanDirectory"

structure WorktreeBlocker where
  kind : WorktreeBlockerKind
  hard : Bool
  message : String
  deriving DecidableEq

structure WorktreeRuntimeBlockers where
  liveSession : Bool
  livePanes : Bool

structure WorktreeRemovalPreflightRequest where
  worktreeId : String
  deleteBranch : Bool

structure WorktreeRemovalPreflight where
  worktreeId : String
  instanceId : String
  repositoryPath : String
  worktreePath : String
  branch : String
  head : String
  blockers : List WorktreeBlocker
  warnings : List String
  deriving DecidableEq

structure WorktreeRemoveRequest where
  /-- As a number; the nil id is 0. -/
  operationId : Nat
  worktreeId : String
  expectedInstanceId : String
  force : Bool
  deleteBranch : Bool
  providerMergedHead : Option String
  acknowledgedBlockers : List WorktreeBlockerKind

def WorktreeRemoveRequest.expectedHead (request : WorktreeRemoveRequest) : Option String :=
  (request.providerMergedHead.map trim).filter (· ≠ "")

structure WorktreeRemovalResult where
  checkoutRemoved : Bool
  branchDeleted : Bool
  branchPreservedReason : Option String
  sessionRemoved : Bool
  metadataRemoved : Bool
  deriving DecidableEq

/-- An operation has been carried out, or its recorded result is returned. -/
inductive Performed (α : Type)
  | computed (a : α)
  | replayed (resultJson : String)

namespace Call

/-- `git_read_allow_fail` -/
def readAllowFail (repository : String) (command : GitRead) : Call (Option String) := do
  orBail (← .issued (.read repository command))

/-- `git_read` -/
def gitRead (repository : String) (command : GitRead) : Call String := do
  match ← readAllowFail repository command with
  | some text => .pure text
  | none => .fail (.bail "git failed")

def readRecord (id : String) : Call WorktreeRecord := do
  match ← sql (.readRecord id) with
  | some record => .pure record
  | none => .fail (.bail (notFound id))

def sameCommit (candidate output : String) : Option String :=
  if toAsciiLowercase (trim output) = toAsciiLowercase candidate then some (toAsciiLowercase (trim output)) else none

def isCommitId (candidate : String) : Bool :=
  (candidate.length = 40 || candidate.length = 64) && candidate.toList.all isHexDigit

def provenCommitId (repositoryPath candidate : String) : Call (Option String) :=
  if isCommitId (trim candidate) then do
    let output ← readAllowFail repositoryPath (.commit (trim candidate))
    return output.bind (sameCommit (trim candidate))
  else .pure none

def parseCount (output : String) : Call Nat :=
  match parseU64 (trim output).toList with
  | some count => .pure count
  | none => .fail (.bail "invalid digit found in string")

def hasCommitsSince (record : WorktreeRecord) : Option String → Call Bool
  | none => .pure true
  | some baseRef => do
    let output ← gitRead record.repositoryPath (.countCommits baseRef record.branch)
    let count ← parseCount output
    return decide (0 < count)

def branchHasCommitsBeyondBase (record : WorktreeRecord) : Call Bool :=
  if trim record.branch = "" then .pure false
  else do hasCommitsSince record (← provenCommitId record.repositoryPath record.baseRef)

/-- `unwrap_or` -/
def orElse {α : Type} (call : Call α) (default : α) : Call α := do
  let result : Except Failure α ← call.attempt
  return match result with
    | .ok a => a
    | .error _ => default

def nativeBlockers (record : WorktreeRecord) (native : NativeWorktree) : List WorktreeBlocker :=
  (if native.isMain then [⟨.mainCheckout, true, "The main checkout cannot be removed."⟩] else []) ++
  (if native.locked then
    [⟨.gitLocked, true, native.lockReason.getD "Git reports this worktree as locked."⟩] else []) ++
  (if native.gitDirIdentity = "" ∨ record.gitDirIdentity = "" ∨ native.gitDirIdentity ≠ record.gitDirIdentity then
    [⟨.identityMismatch, true, "The checkout instance identity cannot be proven against the registration."⟩] else []) ++
  (if native.dirty ∨ native.untracked then
    [⟨.dirty, false, "The checkout contains tracked or untracked changes."⟩] else []) ++
  (if native.hasConflicts then [⟨.conflicted, false, "The checkout contains unresolved conflicts."⟩] else [])

def unpushedBlocker : WorktreeBlocker :=
  ⟨.unpushed, false, "The branch may contain commits not preserved by a remote or review target."⟩

def runtimeBlockers (runtime : WorktreeRuntimeBlockers) : List WorktreeBlocker :=
  (if runtime.liveSession then [⟨.liveSession, false, "A bound workspace session is still live."⟩] else []) ++
  (if runtime.livePanes then [⟨.livePanes, false, "The bound workspace still owns live panes."⟩] else [])

def hasUnpushedCommits (record : WorktreeRecord) (native : NativeWorktree) : Call Bool :=
  if 0 < native.ahead then .pure true
  else if record.branch = "" then .pure false
  else orElse (branchHasCommitsBeyondBase record) true

def checkoutBlockers (record : WorktreeRecord) : Option NativeWorktree → Call (List WorktreeBlocker × List String)
  | some native => do
    let unpushed ← hasUnpushedCommits record native
    return (nativeBlockers record native ++ (if unpushed then [unpushedBlocker] else []), [])
  | none => do
    let exists_ ← .issued (.pathEntryExists record.worktreePath)
    return if exists_ then
        ([⟨.orphanDirectory, true, "The directory exists but is not a registered Git worktree; it will not be deleted recursively."⟩], [])
      else
        ([⟨.missingRegistration, false, "The Git worktree registration is missing."⟩],
          ["Git registration and checkout directory are already absent; metadata cleanup is available."])

def removalPreflight (request : WorktreeRemovalPreflightRequest) (runtime : WorktreeRuntimeBlockers) :
    Call WorktreeRemovalPreflight := do
  let record ← readRecord request.worktreeId
  let nativeRows ← orBail (← .issued (.scanNativeWorktrees record.repositoryPath))
  let native := nativeRows.find? fun entry => entry.normalizedPath == record.normalizedWorktreePath
  let (blockers, warnings) ← checkoutBlockers record native
  let branch := (native.bind NativeWorktree.branch).getD record.branch
  return {
    worktreeId := record.id
    instanceId := record.instanceId
    repositoryPath := record.repositoryPath
    worktreePath := record.worktreePath
    branch
    head := (native.map NativeWorktree.head).getD record.head
    blockers := blockers ++ runtimeBlockers runtime
    warnings := warnings ++ (if request.deleteBranch ∧ branch = "" then
      ["The checkout is detached, so there is no local branch to delete."] else []) }

/-- `split_whitespace().next()` of the first line -/
def firstWord (listing : String) : Option String :=
  match listing.toList.splitOn '\n' with
  | [] => none
  | line :: _ => match (line.splitOnP Coordinator.isWhiteSpace).filter (· ≠ []) with
    | [] => none
    | word :: _ => nonempty (String.ofList word)

def remoteBranchTip (repositoryPath branch : String) : Call (Option String) := do
  let configured ← orElse (readAllowFail repositoryPath (.configuredRemote branch)) none
  match configured with
  | none => .pure none
  | some configured =>
    if trim configured = "" then .pure none
    else do
      let listing ← orElse (readAllowFail repositoryPath (.remoteHeads (trim configured) branch)) none
      return listing.bind firstWord

def providerMergeProven (request : WorktreeRemoveRequest) (preflight : WorktreeRemovalPreflight) : Call Bool :=
  match request.expectedHead with
  | none => .pure false
  | some expected => do
    let actual ← gitRead preflight.repositoryPath (.revParse (headsRef preflight.branch))
    bailIf (trim actual ≠ expected) "provider merge proof does not match the local branch head"
    let tip ← remoteBranchTip preflight.repositoryPath preflight.branch
    return tip == some expected

def forceable (preflight : WorktreeRemovalPreflight) (providerMergeProven : Bool) : List WorktreeBlockerKind :=
  (preflight.blockers.filter fun blocker =>
    !(blocker.hard || blocker.kind == .missingRegistration || (blocker.kind == .unpushed && providerMergeProven))).map
      WorktreeBlocker.kind

def requireAcknowledged (request : WorktreeRemoveRequest) (kinds : List WorktreeBlockerKind) : Except String Unit :=
  if kinds ≠ [] ∧ request.force = false then .error "force is required for removal blockers"
  else match kinds.find? fun kind => !request.acknowledgedBlockers.contains kind with
    | some kind => .error s!"removal blocker was not acknowledged: {kind.name}"
    | none => .ok ()

def validateRemovalAcknowledgements (request : WorktreeRemoveRequest) (preflight : WorktreeRemovalPreflight) : Call Unit :=
  match preflight.blockers.find? WorktreeBlocker.hard with
  | some blocker => .fail (.bail s!"removal blocked by {blocker.kind.name}: {blocker.message}")
  | none => do
    let proven ← providerMergeProven request preflight
    orBail (requireAcknowledged request (forceable preflight proven))

def verifyRecordSnapshot (record : WorktreeRecord) (repository : RepositoryIdentity) (snapshot : NativeSnapshot) :
    Except String Unit :=
  if record.repositoryId ≠ repository.repositoryId ∨ snapshot.normalizedCommonDir ≠ repository.normalizedCommonDir ∨
      record.normalizedWorktreePath ≠ snapshot.native.normalizedPath ∨
      record.gitDirIdentity ≠ snapshot.native.gitDirIdentity ∨ record.head ≠ snapshot.native.head ∨
      (record.branch ≠ "" ∧ snapshot.native.branch ≠ some record.branch) then
    .error "worktree native identity changed"
  else .ok ()

def branchSafelyMerged (repository branch branchHead : String) : Call Bool := do
  let upstream ← runSuccess repository (.upstream branch)
  bailIf upstream.stdoutTruncated "branch upstream exceeded the bounded command output limit"
  let target := if trim upstream.stdoutTail = "" then "HEAD" else trim upstream.stdoutTail
  let targetHead ← resolveCommit repository target
  match ← git repository (.isAncestor branchHead targetHead) with
  | .ok _ => .pure true
  | .error failure => if failure.isNo then .pure false else .fail failure.failure

def boundedText (text : String) : String := String.ofList (text.toList.take 4096)

def forcesGit (request : WorktreeRemoveRequest) (preflight : WorktreeRemovalPreflight) : Bool :=
  request.force && preflight.blockers.any fun blocker =>
    (blocker.kind == .dirty || blocker.kind == .conflicted) && request.acknowledgedBlockers.contains blocker.kind

def removeCheckout (request : WorktreeRemoveRequest) (preflight : WorktreeRemovalPreflight) (record : WorktreeRecord) :
    Call Unit := do
  let repository ← resolveRepository record.repositoryPath
  let snapshot ← nativeSnapshot repository record.worktreePath
  orBail (verifyRecordSnapshot record repository snapshot)
  stage "removing"
  let _ ← runSuccess record.repositoryPath (.worktreeRemove (forcesGit request preflight) record.worktreePath)

def deleteBranch (record : WorktreeRecord) : Call (Bool × Option String) := do
  match ← git record.repositoryPath (.deleteRef record.branch record.head) with
  | .ok _ => .pure (true, none)
  | .error (.exit message _) => .pure (false, some (boundedText message))
  | .error failure => .fail failure.failure

def finishBranch (request : WorktreeRemoveRequest) (record : WorktreeRecord) : Call (Bool × Option String) :=
  if request.deleteBranch = false ∨ record.branch = "" then .pure (false, none)
  else do
    let currentHead ← resolveCommit record.repositoryPath (headsRef record.branch)
    if currentHead ≠ record.head then
      .pure (false, some "branch changed after preflight; exact-head deletion was refused")
    else do
      let safelyMerged ← branchSafelyMerged record.repositoryPath record.branch record.head
      let forceDelete := request.force && request.providerMergedHead == some record.head
      if safelyMerged || forceDelete then deleteBranch record
      else .pure (false, some "branch is not fully merged; safe exact-head deletion was refused")

def isMissing (preflight : WorktreeRemovalPreflight) (record : WorktreeRecord) : Call Bool :=
  if preflight.blockers.any fun blocker => blocker.kind == .missingRegistration then do
    let entry ← symlinkMetadata record.worktreePath
    return entry == .missing
  else .pure false

def finishSession : Option String → Call Bool
  | none => .pure false
  | some sessionId => do orBail (← .issued (.finalizeSession sessionId))

def finalizeRemoval (worktreeId expectedInstanceId : String) : Call Unit := do
  let changed : Nat ← sql (.finalizeRemoval worktreeId expectedInstanceId)
  bailIf (changed ≠ 1) "worktree removal metadata compare-and-swap failed"

def abortRemoval (worktreeId expectedInstanceId : String) : Call Unit := do
  let changed : Nat ← sql (.abortRemoval worktreeId expectedInstanceId)
  bailIf (changed ≠ 1) "worktree removal abort compare-and-swap failed"

def removeUnlessMissing (request : WorktreeRemoveRequest) (preflight : WorktreeRemovalPreflight) (record : WorktreeRecord)
    (missing : Bool) : Call Unit :=
  if missing then .pure () else removeCheckout request preflight record

def removePrepared (request : WorktreeRemoveRequest) (preflight : WorktreeRemovalPreflight) (record : WorktreeRecord) :
    Call WorktreeRemovalResult := do
  stage "cleaning"
  orBail (← .issued (.cleanupResources record))
  checkCancelled
  removeUnlessMissing request preflight record (← isMissing preflight record)
  let (branchDeleted, branchPreservedReason) ← finishBranch request record
  let sessionRemoved ← finishSession record.sessionId
  finalizeRemoval record.id record.instanceId
  return ⟨true, branchDeleted, branchPreservedReason, sessionRemoved, true⟩

def abortAfter (record : WorktreeRecord) (failure : Failure) : Call WorktreeRemovalResult := do
  let aborted : Except Failure Unit ← (abortRemoval record.id record.instanceId).attempt
  match aborted with
  | .ok () => .fail failure
  | .error abort => .fail (.bail s!"{failure.message}; failed to abort removal lifecycle: {abort.message}")

def removeClaimed (request : WorktreeRemoveRequest) (runtime : WorktreeRuntimeBlockers) : Call WorktreeRemovalResult := do
  stage "validating"
  let preflight ← removalPreflight ⟨request.worktreeId, request.deleteBranch⟩ runtime
  validateRemovalAcknowledgements request preflight
  let record : WorktreeRecord ← sql (.prepareRemoval request.worktreeId request.expectedInstanceId)
  let attempted : Except Failure WorktreeRemovalResult ← (removePrepared request preflight record).attempt
  match attempted with
  | .ok result => .pure result
  | .error failure => abortAfter record failure

/-- The outcome that has been recorded for the operation, or what it does now. -/
def claimed {α : Type} (kind : String) (operation : Call α) : Call (Performed α) := do
  let claim : OperationClaim ← orBail (← .issued (.claimOperation kind))
  match claim with
  | .replay (some resultJson) none => .pure (.replayed resultJson)
  | .replay _ (some error) => .fail (.bail error)
  | .replay none none => .fail (.bail s!"worktree {kind} operation is still running")
  | .claimed => .computed <$> operation

def validateOperationId (operationId : Nat) : Call Unit := bailIf (operationId = 0) "operation id must not be nil"

def recorded {α : Type} (operation : Call α) : Call α := do
  let result : Except Failure α ← operation.attempt
  match result with
  | .ok result => do
    orBail (← .issued .completeOperation)
    return result
  | .error failure => do
    orBail (← .issued (.failOperation "failed" failure.message))
    .fail failure

def remove (request : WorktreeRemoveRequest) (runtime : WorktreeRuntimeBlockers) :
    Call (Performed WorktreeRemovalResult) := do
  validateOperationId request.operationId
  claimed "remove" (recorded (removeClaimed request runtime))

section Endings

open Program

variable {trace : Trace}

theorem ends_orElse {α : Type} {call : Call α} {default a : α} (ends : (orElse call default).Ends trace (.ok a)) :
    call.Ends trace (.ok a) ∨ a = default := by
  obtain ⟨first, rest, result, rfl, before, after⟩ := ends.of_bind
  obtain ⟨rfl, same⟩ := after.of_pure
  rw [List.append_nil]
  cases result with
  | ok b =>
    cases same
    exact .inl before.of_attempt
  | error e =>
    cases same
    exact .inr rfl

theorem ends_readAllowFail {repository : String} {command : GitRead} {text : Option String}
    (ends : (readAllowFail repository command).Ends trace (.ok text)) : trace = [⟨.read repository command, .ok text⟩] := by
  obtain ⟨reply, rest, rfl, after⟩ := Ends.of_issued_bind ends
  obtain ⟨rfl, rfl⟩ := ends_orBail after
  rfl

/-- Git answers so when it is asked for the head of the branch in its own remote. -/
def RemoteCarries (past : Trace) (repository branch head : String) : Prop :=
  ∃ remote listing, (⟨.read repository (.configuredRemote branch), .ok (some remote)⟩ : Event) ∈ past ∧
    (⟨.read repository (.remoteHeads (trim remote) branch), .ok (some listing)⟩ : Event) ∈ past ∧
    firstWord listing = some head

theorem ends_remoteBranchTip {repository branch head : String}
    (ends : (remoteBranchTip repository branch).Ends trace (.ok (some head))) : RemoteCarries trace repository branch head := by
  obtain ⟨first, rest, configured, rfl, before, after⟩ := ends.of_bind
  cases configured with
  | none => exact nomatch after.of_pure.2
  | some configured =>
    dsimp only at after
    split at after
    · exact nomatch after.of_pure.2
    · obtain ⟨second, rest, listing, rfl, listed, after⟩ := after.of_bind
      obtain ⟨rfl, same⟩ := after.of_pure
      obtain asked | absent := ends_orElse before
      · obtain read | absent := ends_orElse listed
        · rw [ends_readAllowFail asked, ends_readAllowFail read]
          cases listing with
          | none => exact nomatch same
          | some listing =>
            exact ⟨configured, listing, by simp, by simp, (Except.ok.inj same).symm⟩
        · subst absent
          exact nomatch same
      · exact nomatch absent

theorem ends_providerMergeProven {request : WorktreeRemoveRequest} {preflight : WorktreeRemovalPreflight}
    (ends : (providerMergeProven request preflight).Ends trace (.ok true)) :
    ∃ expected ∈ request.expectedHead, RemoteCarries trace preflight.repositoryPath preflight.branch expected := by
  unfold providerMergeProven at ends
  cases expects : request.expectedHead with
  | none =>
    rw [expects] at ends
    exact nomatch ends.of_pure.2
  | some expected =>
    rw [expects] at ends
    obtain ⟨first, rest, actual, rfl, _, after⟩ := ends.of_bind
    obtain ⟨second, rest, _, rfl, _, after⟩ := after.of_bind
    obtain ⟨third, rest, tip, rfl, asked, after⟩ := after.of_bind
    obtain ⟨rfl, same⟩ := after.of_pure
    have carried : tip = some expected := by
      have proven := Except.ok.inj same
      exact beq_iff_eq.1 proven.symm
    subst carried
    obtain ⟨remote, listing, configured, listed, word⟩ := ends_remoteBranchTip asked
    exact ⟨expected, rfl, remote, listing, by simp [configured], by simp [listed], word⟩

end Endings

section Reading

open Program

theorem reads_readAllowFail (repository : String) (command : GitRead) : (readAllowFail repository command).Reads :=
  only_bind (only_issued rfl) fun reply => reads_orBail reply

theorem reads_gitRead (repository : String) (command : GitRead) : (gitRead repository command).Reads := by
  refine only_bind (reads_readAllowFail _ _) fun text => ?_
  cases text with
  | none => exact only_fail _
  | some text => exact only_pure text

theorem reads_readRecord (id : String) : (readRecord id).Reads := by
  refine only_bind (reads_sql rfl) fun record => ?_
  cases record with
  | none => exact only_fail _
  | some record => exact only_pure record

theorem reads_orElse {α : Type} {call : Call α} (reads : call.Reads) (default : α) : (orElse call default).Reads :=
  only_bind (only_attempt reads) fun _ => only_pure _

theorem reads_provenCommitId (repositoryPath candidate : String) : (provenCommitId repositoryPath candidate).Reads := by
  unfold provenCommitId
  apply only_ite
  · exact only_bind (reads_readAllowFail _ _) fun _ => only_pure _
  · exact only_pure _

theorem reads_parseCount (output : String) : (parseCount output).Reads := by
  unfold parseCount
  cases parseU64 (trim output).toList with
  | none => exact only_fail _
  | some count => exact only_pure count

theorem reads_hasCommitsSince (record : WorktreeRecord) (base : Option String) : (hasCommitsSince record base).Reads := by
  cases base with
  | none => exact only_pure _
  | some base => exact only_bind (reads_gitRead _ _) fun _ => only_bind (reads_parseCount _) fun _ => only_pure _

theorem reads_branchHasCommitsBeyondBase (record : WorktreeRecord) : (branchHasCommitsBeyondBase record).Reads := by
  unfold branchHasCommitsBeyondBase
  apply only_ite
  · exact only_pure _
  · exact only_bind (reads_provenCommitId _ _) fun base => reads_hasCommitsSince record base

theorem reads_hasUnpushedCommits (record : WorktreeRecord) (native : NativeWorktree) :
    (hasUnpushedCommits record native).Reads :=
  only_ite (only_pure _) (only_ite (only_pure _) (reads_orElse (reads_branchHasCommitsBeyondBase record) true))

theorem reads_checkoutBlockers (record : WorktreeRecord) (native : Option NativeWorktree) :
    (checkoutBlockers record native).Reads := by
  cases native with
  | none => exact only_bind (only_issued rfl) fun _ => only_pure _
  | some native => exact only_bind (reads_hasUnpushedCommits record native) fun _ => only_pure _

theorem reads_removalPreflight (request : WorktreeRemovalPreflightRequest) (runtime : WorktreeRuntimeBlockers) :
    (removalPreflight request runtime).Reads :=
  only_bind (reads_readRecord _) fun _ => only_bind (only_issued rfl) fun rows => only_bind (reads_orBail rows) fun _ =>
    only_bind (reads_checkoutBlockers _ _) fun _ => only_pure _

theorem reads_remoteBranchTip (repositoryPath branch : String) : (remoteBranchTip repositoryPath branch).Reads := by
  refine only_bind (reads_orElse (reads_readAllowFail _ _) none) fun configured => ?_
  cases configured with
  | none => exact only_pure _
  | some configured => exact only_ite (only_pure _) (only_bind (reads_orElse (reads_readAllowFail _ _) none) fun _ => only_pure _)

theorem reads_providerMergeProven (request : WorktreeRemoveRequest) (preflight : WorktreeRemovalPreflight) :
    (providerMergeProven request preflight).Reads := by
  unfold providerMergeProven
  split
  · exact only_pure _
  · exact only_bind (reads_gitRead _ _) fun _ => only_bind (reads_bailIf _ _) fun _ =>
      only_bind (reads_remoteBranchTip _ _) fun _ => only_pure _

theorem reads_validateRemovalAcknowledgements (request : WorktreeRemoveRequest) (preflight : WorktreeRemovalPreflight) :
    (validateRemovalAcknowledgements request preflight).Reads := by
  unfold validateRemovalAcknowledgements
  split
  · exact only_fail _
  · exact only_bind (reads_providerMergeProven _ _) fun _ => reads_orBail _

theorem reads_branchSafelyMerged (repository branch branchHead : String) :
    (branchSafelyMerged repository branch branchHead).Reads := by
  refine only_bind (reads_runSuccess _ rfl) fun _ => only_bind (reads_bailIf _ _) fun _ =>
    only_bind (reads_resolveCommit _ _) fun _ => only_bind (only_issued rfl) fun reply => ?_
  cases reply with
  | ok output => exact only_pure _
  | error failure => exact only_ite (only_pure _) (only_fail _)

theorem reads_isMissing (preflight : WorktreeRemovalPreflight) (record : WorktreeRecord) :
    (isMissing preflight record).Reads :=
  only_ite (only_bind (only_issued rfl) fun _ => only_pure _) (only_pure _)

variable {P : Instr → Prop} {request : WorktreeRemoveRequest} {record : WorktreeRecord}

theorem only_finishBranch (reads : ∀ i, i.reads = true → P i)
    (deletes : P (.git record.repositoryPath (.deleteRef record.branch record.head))) :
    (finishBranch request record).Only P := by
  refine only_ite (only_pure _) (only_bind ((reads_resolveCommit _ _).mono reads) fun _ => only_ite (only_pure _)
    (only_bind ((reads_branchSafelyMerged _ _ _).mono reads) fun _ => only_ite ?_ (only_pure _)))
  refine only_bind (only_issued deletes) fun reply => ?_
  cases reply with
  | ok output => exact only_pure _
  | error failure =>
    cases failure with
    | exit message output => exact only_pure _
    | cancelled _ | timedOut _ _ | spawn _ => exact only_fail _

theorem only_finishSession (reads : ∀ i, i.reads = true → P i) (finalizes : ∀ id, P (.finalizeSession id))
    (session : Option String) : (finishSession session).Only P := by
  cases session with
  | none => exact only_pure _
  | some id => exact only_bind (only_issued (finalizes id)) fun reply => (reads_orBail reply).mono reads

end Reading

section Specifications

open Program

variable {P : Trace → Instr → Prop} {past : Trace} {α : Type} {operation : Call α}

theorem wp_recorded (free : ∀ past i, i.reads = true → P past i)
    (safe : operation.wp Possible P (fun _ _ => True) past) :
    (recorded operation).wp Possible P (fun _ _ => True) past := by
  refine wp_bind.2 (wp_attempt.2 (wp_mono safe fun later result _ => ?_))
  cases result with
  | ok a =>
    exact wp_of_only (S := fun i => i.reads = true) (only_bind (only_issued rfl) fun reply =>
      only_bind (reads_orBail reply) fun _ => only_pure a) free
  | error failure =>
    exact wp_of_only (S := fun i => i.reads = true) (only_bind (only_issued rfl) fun reply =>
      only_bind (reads_orBail reply) fun _ => only_fail failure) free

theorem wp_claimed {kind : String} (free : ∀ past i, i.reads = true → P past i)
    (safe : ∀ reply, operation.wp Possible P (fun _ _ => True) (past ++ [⟨.claimOperation kind, reply⟩])) :
    (claimed kind operation).wp Possible P (fun _ _ => True) past := by
  refine wp_bind.2 (wp_issue.2 ⟨free _ _ rfl, fun reply _ => wp_pure.2 ?_⟩)
  cases reply with
  | error e => exact wp_bind.2 (wp_fail.2 trivial)
  | ok claim =>
    refine wp_bind.2 (wp_pure.2 ?_)
    cases claim with
    | claimed => exact wp_bind_of_ends (safe _) (fun _ _ => trivial) fun _ _ _ _ => wp_pure.2 trivial
    | replay result error =>
      cases error with
      | some error => cases result <;> exact wp_fail.2 trivial
      | none =>
        cases result with
        | some result => exact wp_pure.2 trivial
        | none => exact wp_fail.2 trivial

end Specifications

end Call

end VibeLink.Worktrees
