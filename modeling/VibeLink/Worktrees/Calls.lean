import VibeLink.Relational.Programs
import VibeLink.Worktrees.Registry
import Mathlib.Algebra.Order.Ring.Nat

/-! What the operations on worktrees ask of the database, of Git and of the file system
(`app/git/worktree_operation.rs` and the helpers of `app/git/worktree_lifecycle.rs`).  What Git, the file system, the
clock and the callbacks answer is left open. -/

namespace VibeLink.Worktrees

open Relational
open Coordinator (trim)

structure CommandOutput where
  exitCode : Option Int
  stdoutTail : String
  stderrTail : String
  stdoutTruncated : Bool
  stderrTruncated : Bool
  deriving DecidableEq

def CommandOutput.default : CommandOutput := ⟨none, "", "", false, false⟩

def CommandOutput.text (output : CommandOutput) : String :=
  let exit := output.exitCode.elim "None" fun code => s!"Some({code})"
  s!"exit={exit}; stdout tail={output.stdoutTail.quote}; stderr tail={output.stderrTail.quote}; stdout truncated={output.stdoutTruncated}; stderr truncated={output.stderrTruncated}"

inductive CommandFailure
  | cancelled (output : CommandOutput)
  | timedOut (timeoutMillis : Nat) (output : CommandOutput)
  | spawn (message : String)
  | exit (message : String) (output : CommandOutput)
  deriving DecidableEq

def CommandFailure.text : CommandFailure → String
  | .cancelled output => s!"worktree operation was cancelled; {output.text}"
  | .timedOut millis output => s!"command timed out after {millis} ms; {output.text}"
  | .spawn message => s!"failed to spawn command: {message}"
  | .exit message output => s!"command exited unsuccessfully: {message}; {output.text}"

def CommandFailure.isCancelled : CommandFailure → Bool
  | .cancelled _ => true
  | _ => false

/-- `Exit` with the code 1, by which Git says no. -/
def CommandFailure.isNo : CommandFailure → Bool
  | .exit _ output => output.exitCode == some 1
  | _ => false

/-- What the creation of a worktree makes. -/
inductive Artifact
  | session (sessionId : String)
  | metadata (worktreeId instanceId : String)
  | path (directory : String)
  | branch (ref : String)
  deriving DecidableEq

def Artifact.name : Artifact → String
  | .session sessionId => s!"session:{sessionId}"
  | .metadata worktreeId instanceId => s!"metadata:{worktreeId}/{instanceId}"
  | .path directory => s!"path:{directory}"
  | .branch ref => s!"branch:{ref}"

/-- What is shown of an error, whether a cancellation is in its chain, and the artifacts that it says are retained. -/
structure Failure where
  message : String
  cancelled : Bool
  retained : List Artifact
  deriving DecidableEq

def Failure.bail (message : String) : Failure := ⟨message, false, []⟩

def Failure.context (message : String) (failure : Failure) : Failure := { failure with message, retained := [] }

def CommandFailure.failure (failure : CommandFailure) : Failure := ⟨failure.text, failure.isCancelled, []⟩

def headsRef (branch : String) : String := "refs/heads/" ++ branch

/-- The commands of Git that the operations run. -/
inductive GitCommand
  | showToplevel
  | gitCommonDir
  | gitDir
  | revParseCommit (ref : String)
  | symbolicRef
  | status
  | checkRefFormat (branch : String)
  | showRef (branch : String)
  | stashCreate
  | remote
  | pushDefault
  | fetch (remote : String)
  | worktreeAdd (branch destination baseSha : String)
  | worktreeRemove (force : Bool) (path : String)
  | worktreeMove (source destination : String)
  | deleteRef (branch head : String)
  | upstream (branch : String)
  | isAncestor (head target : String)
  | sparseInit
  | sparseSet (paths : List String)
  deriving DecidableEq

/-- What the registry itself reads with Git. -/
inductive GitRead
  | revParse (ref : String)
  | commit (id : String)
  | countCommits (base branch : String)
  | configuredRemote (branch : String)
  | remoteHeads (remote branch : String)
  deriving DecidableEq

inductive Entry
  | missing
  | unreadable (error : String)
  | found (directory link : Bool)
  deriving DecidableEq

inductive OperationClaim
  | claimed
  | replay (resultJson error : Option String)
  deriving DecidableEq

structure SetupCommand where
  program : String
  args : List String
  deriving DecidableEq

structure CopyJournal where
  copiedFiles : List String
  createdDirectories : List String
  deriving DecidableEq

inductive Instr
  | sql (statement : Statement)
  | git (directory : String) (command : GitCommand)
  | setup (directory : String) (command : SetupCommand)
  | read (repository : String) (command : GitRead)
  | scanNativeWorktrees (repositoryPath : String)
  | resolveRepositoryIdentity (path : String)
  | normalizePathForComparison (path : String)
  | sha256Hex (text : String)
  | pathEntryExists (path : String)
  | symlinkMetadata (path : String)
  | canonicalize (path : String)
  | gitPath (base value : String)
  | isCancelled
  | operationStage (stage : String)
  | claimOperation (kind : String)
  | completeOperation
  | failOperation (stage error : String)
  | insertCheckpoint (worktreeId kind label head : String) (comment : Option String)
  | cleanupResources (record : WorktreeRecord)
  | finalizeSession (sessionId : String)
  | createSession (record : WorktreeRecord)
  | removeSession (sessionId : String)
  | newUuid
  | nowMillis
  | slugName (name : String)
  | linkedFilePaths (files : List String)
  | regularFileSources (repository : String) (files : List String)
  | sparsePreset (repository preset : String)
  | setupCommand (repository policy : String)
  | resolveRoot (repository : String)
  | createSafeDirectoryChain (root : String)
  | moveDestination (source destination : String)
  | removeDirectories (directories : List String)
  | copyRegularFiles (repository destination : String) (files : List String)
  | rollbackCopyJournal (journal : CopyJournal)

abbrev Instr.Reply : Instr → Type
  | .sql statement => Except SqlError statement.Answer
  | .git _ _ | .setup _ _ => Except CommandFailure CommandOutput
  | .read _ _ => Except String (Option String)
  | .scanNativeWorktrees _ => Except String (List NativeWorktree)
  | .resolveRepositoryIdentity _ => Except String RepositoryIdentity
  | .normalizePathForComparison _ | .sha256Hex _ | .newUuid => String
  | .pathEntryExists _ | .isCancelled => Bool
  | .symlinkMetadata _ => Entry
  | .canonicalize _ | .gitPath _ _ | .createSession _ | .slugName _ | .resolveRoot _ => Except String String
  | .operationStage _ | .completeOperation | .failOperation _ _ | .insertCheckpoint _ _ _ _ _ | .cleanupResources _
  | .removeSession _ | .regularFileSources _ _ => Except String Unit
  | .claimOperation _ => Except String OperationClaim
  | .finalizeSession _ => Except String Bool
  | .nowMillis => Nat
  | .linkedFilePaths _ | .sparsePreset _ _ => Except String (List String)
  | .setupCommand _ _ => Except String (Option SetupCommand)
  | .createSafeDirectoryChain _ | .moveDestination _ _ => Except String (String × List String)
  | .removeDirectories _ | .rollbackCopyJournal _ => Unit
  | .copyRegularFiles _ _ _ => Except (String × Bool) CopyJournal

/-- The registry determines what statements reply, unless they fail, which changes nothing; the rest is chosen. -/
def Instr.execute (s : Registry) : (i : Instr) → i.Reply → Registry × i.Reply
  | .sql _, .error e => (s, .error e)
  | .sql statement, .ok _ => statement.perform s
  | _, reply => (s, reply)

def Statement.reads : Statement → Bool
  | .readRecord _ | .readRecords _ | .readRecordByPath _ _ | .readRecordBySession _ => true
  | _ => false

def GitCommand.reads : GitCommand → Bool
  | .stashCreate | .fetch _ | .worktreeAdd _ _ _ | .worktreeRemove _ _ | .worktreeMove _ _ | .deleteRef _ _
  | .sparseInit | .sparseSet _ => false
  | _ => true

/-- Nothing is changed but what is recorded of the operation itself. -/
def Instr.reads : Instr → Bool
  | .sql statement => statement.reads
  | .git _ command => command.reads
  | .setup _ _ | .cleanupResources _ | .finalizeSession _ | .createSession _ | .removeSession _
  | .createSafeDirectoryChain _ | .moveDestination _ _ | .removeDirectories _ | .copyRegularFiles _ _ _
  | .rollbackCopyJournal _ => false
  | _ => true

abbrev Event : Type := Sigma Instr.Reply

abbrev Trace : Type := List Event

/-- A statement replies what it does in some state of the registry. -/
def Possible (event : Event) : Prop := ∃ s reply, (event.1.execute s reply).2 = event.2

abbrev Call : Type → Type := Program Instr.Reply Failure

namespace Call

def orBail {α : Type} : Except String α → Call α
  | .ok a => .pure a
  | .error e => .fail (.bail e)

def sql (statement : Statement) : Call statement.Answer := do orBail (← .issued (.sql statement))

def context {α : Type} (message : String) (call : Call α) : Call α := call.mapError (Failure.context message)

def bailIf (condition : Bool) (message : String) : Call Unit :=
  if condition then .fail (.bail message) else .pure ()

def checkCancelled : Call Unit := do
  let cancelled ← .issued .isCancelled
  if cancelled then .fail (CommandFailure.cancelled .default).failure else .pure ()

def stage (name : String) : Call Unit := do
  checkCancelled
  orBail (← .issued (.operationStage name))
  checkCancelled

def git (directory : String) (command : GitCommand) : Call (Except CommandFailure CommandOutput) :=
  Program.issued (Instr.git directory command)

def orFail : Except CommandFailure CommandOutput → Call CommandOutput
  | .ok output => .pure output
  | .error failure => .fail failure.failure

def runSuccess (directory : String) (command : GitCommand) : Call CommandOutput := do orFail (← git directory command)

def outputText (output : CommandOutput) (label : String) : Call String :=
  if output.stdoutTruncated then .fail (.bail s!"{label} exceeded the bounded command output limit")
  else if trim output.stdoutTail = "" then .fail (.bail s!"{label} was empty")
  else .pure (trim output.stdoutTail)

def resolveRepository (repository : String) : Call RepositoryIdentity := do
  let top ← outputText (← runSuccess repository .showToplevel) "repository top level"
  let top ← context "canonicalize repository top level" (do orBail (← .issued (.gitPath repository top)))
  let common ← outputText (← runSuccess top .gitCommonDir) "repository common directory"
  let common ← context "canonicalize repository common directory" (do orBail (← .issued (.gitPath top common)))
  let normalizedCommonDir ← .issued (.normalizePathForComparison common)
  let repositoryId ← .issued (.sha256Hex normalizedCommonDir)
  return ⟨repositoryId, top, common, normalizedCommonDir⟩

def isHexDigit (c : Char) : Bool := c.isDigit || ('a' ≤ c && c ≤ 'f') || ('A' ≤ c && c ≤ 'F')

def isExactSha (text : String) : Bool := 40 ≤ text.length && text.toList.all isHexDigit

def toAsciiLowercase (text : String) : String := String.ofList (text.toList.map Char.toLower)

def resolveCommit (repository startRef : String) : Call String := do
  let output ← runSuccess repository (.revParseCommit startRef)
  let sha ← outputText output "resolved worktree base SHA"
  bailIf (!isExactSha sha) "Git returned an invalid exact base SHA"
  return toAsciiLowercase sha

structure StatusSummary where
  dirty : Bool
  untracked : Bool
  hasConflicts : Bool
  ahead : Nat
  behind : Nat
  deriving DecidableEq

/-- `str::parse::<u64>` -/
def parseU64 (text : List Char) : Option Nat :=
  let digits := if text.head? = some '+' then text.tail else text
  if digits = [] ∨ digits.any (!·.isDigit) then none
  else
    let value := digits.foldl (fun value c => value * 10 + (c.toNat - '0'.toNat)) 0
    if value < 2 ^ 64 then some value else none

def StatusSummary.field (summary : StatusSummary) : List Char → StatusSummary
  | '+' :: value => { summary with ahead := (parseU64 value).getD 0 }
  | '-' :: value => { summary with behind := (parseU64 value).getD 0 }
  | _ => summary

def StatusSummary.entry (summary : StatusSummary) (entry : List Char) : StatusSummary :=
  if ['?', ' '].isPrefixOf entry then { summary with untracked := true }
  else if ['u', ' '].isPrefixOf entry then { summary with dirty := true, hasConflicts := true }
  else if ['1', ' '].isPrefixOf entry || ['2', ' '].isPrefixOf entry then { summary with dirty := true }
  else if "# branch.ab ".toList.isPrefixOf entry then
    ((entry.drop 12).splitOnP Coordinator.isWhiteSpace).foldl StatusSummary.field summary
  else summary

def parseStatusSummary (text : String) : StatusSummary :=
  (text.toList.splitOn '\x00').foldl StatusSummary.entry ⟨false, false, false, 0, 0⟩

structure NativeSnapshot where
  normalizedCommonDir : String
  native : NativeWorktree

def currentBranch (path : String) : Call (Option String) := do
  match ← git path .symbolicRef with
  | .ok output => some <$> outputText output "worktree branch"
  | .error failure => if failure.isNo then .pure none else .fail failure.failure

def symlinkMetadata (path : String) : Call Entry := Program.issued (Instr.symlinkMetadata path)

def nativeSnapshot (repository : RepositoryIdentity) (path : String) : Call NativeSnapshot := do
  match ← symlinkMetadata path with
  | .found directory link =>
    bailIf (!directory || link) s!"worktree path is not a regular directory: {path}"
    let path ← context s!"canonicalize worktree path {path}" (do orBail (← .issued (.canonicalize path)))
    let head ← resolveCommit path "HEAD"
    let gitDir ← outputText (← runSuccess path .gitDir) "worktree git directory"
    let gitDir ← context "canonicalize worktree git directory" (do orBail (← .issued (.gitPath path gitDir)))
    let normalizedGitDir ← .issued (.normalizePathForComparison gitDir)
    let gitDirIdentity ← .issued (.sha256Hex normalizedGitDir)
    let common ← outputText (← runSuccess path .gitCommonDir) "worktree common directory"
    let common ← context "canonicalize worktree common directory" (do orBail (← .issued (.gitPath path common)))
    let normalizedCommonDir ← .issued (.normalizePathForComparison common)
    let branch ← currentBranch path
    let status ← runSuccess path .status
    let summary := parseStatusSummary status.stdoutTail
    let normalizedPath ← .issued (.normalizePathForComparison path)
    let normalizedRepository ← .issued (.normalizePathForComparison repository.repositoryPath)
    return {
      normalizedCommonDir
      native := {
        worktreePath := path
        normalizedPath
        gitDirIdentity
        head
        branch
        detached := branch.isNone
        bare := false
        locked := false
        lockReason := none
        prunable := false
        prunableReason := none
        exists_ := true
        isMain := normalizedPath == normalizedRepository
        dirty := summary.dirty || status.stdoutTruncated
        untracked := summary.untracked || status.stdoutTruncated
        hasConflicts := summary.hasConflicts || status.stdoutTruncated
        ahead := summary.ahead
        behind := summary.behind } }
  | _ => .fail (.bail s!"inspect worktree path {path}")

abbrev Reads {α : Type} (call : Call α) : Prop := call.Only fun i => i.reads = true

section Commits

theorem isHexDigit_cases {c : Char} (hex : isHexDigit c = true) : isHexDigit c.toLower = true ∧
    c.toLower.toLower = c.toLower ∧ Coordinator.isWhiteSpace c = false := by
  have all : ∀ n < 103, isHexDigit (Char.ofNat n) = true → isHexDigit (Char.ofNat n).toLower = true ∧
      (Char.ofNat n).toLower.toLower = (Char.ofNat n).toLower ∧ Coordinator.isWhiteSpace (Char.ofNat n) = false := by
    decide +kernel
  have small : c.toNat < 103 := by
    simp only [isHexDigit, Char.isDigit, Bool.or_eq_true, Bool.and_eq_true, decide_eq_true_eq] at hex
    obtain (digit | lower) | upper := hex
    · exact Nat.lt_of_le_of_lt (UInt32.le_iff_toNat_le.1 digit.2) (by decide)
    · exact Nat.lt_of_le_of_lt (UInt32.le_iff_toNat_le.1 lower.2) (by decide)
    · exact Nat.lt_of_le_of_lt (UInt32.le_iff_toNat_le.1 upper.2) (by decide)
  have here := all c.toNat small
  rw [Char.ofNat_toNat] at here
  exact here hex

variable {sha : String}

theorem hex_of_isExactSha (sure : isExactSha sha = true) : ∀ c ∈ sha.toList, isHexDigit c = true := by
  rw [isExactSha, Bool.and_eq_true, List.all_eq_true] at sure
  exact sure.2

theorem length_of_isExactSha (sure : isExactSha sha = true) : 40 ≤ sha.toList.length := by
  rw [isExactSha, Bool.and_eq_true, decide_eq_true_eq] at sure
  exact sure.1

theorem isExactSha_toAsciiLowercase (sure : isExactSha sha = true) : isExactSha (toAsciiLowercase sha) = true ∧
    toAsciiLowercase (toAsciiLowercase sha) = toAsciiLowercase sha := by
  constructor
  · rw [isExactSha, Bool.and_eq_true, List.all_eq_true, decide_eq_true_eq, toAsciiLowercase, String.length_ofList,
      List.length_map, String.toList_ofList]
    refine ⟨length_of_isExactSha sure, fun c member => ?_⟩
    obtain ⟨d, inside, rfl⟩ := List.mem_map.1 member
    exact (isHexDigit_cases (hex_of_isExactSha sure d inside)).1
  · simp only [toAsciiLowercase, String.toList_ofList, List.map_map]
    congr 1
    exact List.map_congr_left fun c member => (isHexDigit_cases (hex_of_isExactSha sure c member)).2.1

theorem trim_of_isExactSha (sure : isExactSha sha = true) : trim sha = sha := by
  have stays (text : List Char) (within : ∀ c ∈ text, c ∈ sha.toList) :
      text.dropWhile Coordinator.isWhiteSpace = text := by
    cases text with
    | nil => rfl
    | cons c rest =>
      have solid := (isHexDigit_cases (hex_of_isExactSha sure c (within c List.mem_cons_self))).2.2
      rw [List.dropWhile_cons_of_neg (by rw [solid]; exact Bool.false_ne_true)]
  rw [trim, stays _ fun _ member => member, stays _ fun _ member => List.mem_reverse.1 member, List.reverse_reverse,
    String.ofList_toList]

theorem ne_empty_of_isExactSha (sure : isExactSha sha = true) : sha ≠ "" := by
  rintro rfl
  exact absurd (length_of_isExactSha sure) (by decide)

end Commits

section Endings

open Program

variable {trace : Trace}

theorem ends_orBail {α : Type} {result : Except String α} {a : α} (ends : (orBail result).Ends trace (.ok a)) :
    trace = [] ∧ result = .ok a := by
  cases result with
  | ok b =>
    obtain ⟨rfl, same⟩ := ends.of_pure
    exact ⟨rfl, congrArg Except.ok (Except.ok.inj same).symm⟩
  | error e => exact nomatch ends.of_fail.2

theorem ends_bailIf {condition : Bool} {message : String} (ends : (bailIf condition message).Ends trace (.ok ())) :
    trace = [] ∧ condition = false := by
  cases condition with
  | true => exact nomatch ends.of_fail.2
  | false => exact ⟨ends.of_pure.1, rfl⟩

theorem ends_sql {statement : Statement} {answer : statement.Answer} (ends : (sql statement).Ends trace (.ok answer)) :
    trace = [⟨.sql statement, .ok answer⟩] := by
  obtain ⟨reply, rest, rfl, after⟩ := Ends.of_issued_bind ends
  obtain ⟨rfl, rfl⟩ := ends_orBail after
  rfl

theorem ends_runSuccess {directory : String} {command : GitCommand} {output : CommandOutput}
    (ends : (runSuccess directory command).Ends trace (.ok output)) : trace = [⟨.git directory command, .ok output⟩] := by
  obtain ⟨reply, rest, rfl, after⟩ := Ends.of_issued_bind ends
  cases reply with
  | ok other =>
    obtain ⟨rfl, same⟩ := after.of_pure
    cases same
    rfl
  | error failure => exact nomatch after.of_fail.2

theorem ends_outputText {output : CommandOutput} {label text : String}
    (ends : (outputText output label).Ends trace (.ok text)) : trace = [] ∧ text = trim output.stdoutTail := by
  unfold outputText at ends
  split at ends
  · exact nomatch ends.of_fail.2
  · split at ends
    · exact nomatch ends.of_fail.2
    · exact ⟨ends.of_pure.1, (Except.ok.inj ends.of_pure.2)⟩

theorem ends_resolveCommit {repository startRef sha : String}
    (ends : (resolveCommit repository startRef).Ends trace (.ok sha)) :
    ∃ output, trace = [⟨.git repository (.revParseCommit startRef), .ok output⟩] ∧
      isExactSha (trim output.stdoutTail) = true ∧ sha = toAsciiLowercase (trim output.stdoutTail) := by
  obtain ⟨first, rest, output, rfl, before, after⟩ := ends.of_bind
  obtain ⟨second, rest, text, rfl, printed, after⟩ := after.of_bind
  obtain ⟨third, rest, _, rfl, checked, after⟩ := after.of_bind
  obtain ⟨rfl, rfl⟩ := ends_outputText printed
  have asked := ends_runSuccess before
  have passed := ends_bailIf checked
  have same := after.of_pure
  rw [passed.1, same.1, asked]
  exact ⟨output, rfl, by simpa using passed.2, Except.ok.inj same.2⟩

end Endings

section Reading

open Program

theorem reads_orBail {α : Type} (result : Except String α) : (orBail result).Reads := by
  cases result with
  | ok a => exact only_pure a
  | error e => exact only_fail _

theorem reads_orFail (result : Except CommandFailure CommandOutput) : (orFail result).Reads := by
  cases result with
  | ok output => exact only_pure output
  | error failure => exact only_fail _

theorem reads_bailIf (condition : Bool) (message : String) : (bailIf condition message).Reads := by
  cases condition with
  | true => exact only_fail _
  | false => exact only_pure _

theorem reads_sql {statement : Statement} (reads : statement.reads = true) : (sql statement).Reads :=
  only_bind (only_issued reads) fun reply => reads_orBail reply

theorem reads_checkCancelled : checkCancelled.Reads := by
  refine only_bind (only_issued rfl) fun cancelled => ?_
  cases cancelled with
  | true => exact only_fail _
  | false => exact only_pure _

theorem reads_stage (name : String) : (stage name).Reads :=
  only_bind reads_checkCancelled fun _ =>
    only_bind (only_issued rfl) fun reply => only_bind (reads_orBail reply) fun _ => reads_checkCancelled

theorem reads_runSuccess (directory : String) {command : GitCommand} (reads : command.reads = true) :
    (runSuccess directory command).Reads :=
  only_bind (only_issued reads) fun reply => reads_orFail reply

theorem reads_outputText (output : CommandOutput) (label : String) : (outputText output label).Reads :=
  only_ite (only_fail _) (only_ite (only_fail _) (only_pure _))

theorem reads_path (message base value : String) :
    (context message (do orBail (← .issued (.gitPath base value))) : Call String).Reads :=
  only_mapError (only_bind (only_issued rfl) fun reply => reads_orBail reply)

theorem reads_resolveRepository (repository : String) : (resolveRepository repository).Reads :=
  only_bind (reads_runSuccess _ rfl) fun _ => only_bind (reads_outputText _ _) fun _ =>
    only_bind (reads_path _ _ _) fun _ => only_bind (reads_runSuccess _ rfl) fun _ =>
      only_bind (reads_outputText _ _) fun _ => only_bind (reads_path _ _ _) fun _ =>
        only_bind (only_issued rfl) fun _ => only_bind (only_issued rfl) fun _ => only_pure _

theorem reads_resolveCommit (repository startRef : String) : (resolveCommit repository startRef).Reads :=
  only_bind (reads_runSuccess _ rfl) fun _ => only_bind (reads_outputText _ _) fun _ =>
    only_bind (reads_bailIf _ _) fun _ => only_pure _

theorem reads_currentBranch (path : String) : (currentBranch path).Reads := by
  refine only_bind (only_issued rfl) fun reply => ?_
  cases reply with
  | ok output => exact only_bind (reads_outputText output _) fun _ => only_pure _
  | error failure => exact only_ite (only_pure _) (only_fail _)

theorem reads_nativeSnapshot (repository : RepositoryIdentity) (path : String) :
    (nativeSnapshot repository path).Reads := by
  refine only_bind (only_issued rfl) fun entry => ?_
  cases entry with
  | missing => exact only_fail _
  | unreadable e => exact only_fail _
  | found directory link =>
    refine only_bind (reads_bailIf _ _) fun _ => only_bind ?_ fun path => ?_
    · exact only_mapError (only_bind (only_issued rfl) fun reply => reads_orBail reply)
    · exact only_bind (reads_resolveCommit _ _) fun _ => only_bind (reads_runSuccess _ rfl) fun _ =>
        only_bind (reads_outputText _ _) fun _ => only_bind (reads_path _ _ _) fun _ =>
          only_bind (only_issued rfl) fun _ => only_bind (only_issued rfl) fun _ =>
            only_bind (reads_runSuccess _ rfl) fun _ => only_bind (reads_outputText _ _) fun _ =>
              only_bind (reads_path _ _ _) fun _ => only_bind (only_issued rfl) fun _ =>
                only_bind (reads_currentBranch _) fun _ => only_bind (reads_runSuccess _ rfl) fun _ =>
                  only_bind (only_issued rfl) fun _ => only_bind (only_issued rfl) fun _ => only_pure _

end Reading

end Call

end VibeLink.Worktrees
