import VibeLink.Worktrees.Removal
import VibeLink.Worktrees.Statements

/-! What has been found out before a checkout or a branch is deleted. -/

namespace VibeLink.Worktrees

open Relational Program Call
open Coordinator (trim)

variable {request : WorktreeRemoveRequest} {runtime : WorktreeRuntimeBlockers}

def Ran {α : Type} (past : Trace) (call : Call α) (a : α) : Prop :=
  ∃ before segment after, past = before ++ segment ++ after ∧ call.Ends segment (.ok a)

theorem Ran.of_ends {α : Type} {call : Call α} {a : α} {segment : Trace} (ends : call.Ends segment (.ok a))
    (before after : Trace) : Ran (before ++ segment ++ after) call a :=
  ⟨before, segment, after, rfl, ends⟩

def prepared (request : WorktreeRemoveRequest) (record : WorktreeRecord) : Event :=
  ⟨.sql (.prepareRemoval request.worktreeId request.expectedInstanceId), .ok record⟩

/-- The blocker needs no force, or has been forced and acknowledged. -/
def Waived (request : WorktreeRemoveRequest) (past : Trace) (preflight : WorktreeRemovalPreflight)
    (kind : WorktreeBlockerKind) : Prop :=
  kind = .missingRegistration ∨
  (kind = .unpushed ∧ ∃ expected ∈ request.expectedHead,
    RemoteCarries past preflight.repositoryPath preflight.branch expected) ∨
  (request.force = true ∧ kind ∈ request.acknowledgedBlockers)

/-- The head is in the history of the branch's upstream, or of `HEAD` if there is none. -/
def MergedInto (past : Trace) (repository branch head : String) : Prop :=
  ∃ upstream target merged : CommandOutput, (⟨.git repository (.upstream branch), .ok upstream⟩ : Event) ∈ past ∧
    (⟨.git repository (.revParseCommit (if trim upstream.stdoutTail = "" then "HEAD" else trim upstream.stdoutTail)),
      .ok target⟩ : Event) ∈ past ∧
    (⟨.git repository (.isAncestor head (toAsciiLowercase (trim target.stdoutTail))), .ok merged⟩ : Event) ∈ past

structure PreflightPassed (request : WorktreeRemoveRequest) (runtime : WorktreeRuntimeBlockers) (past : Trace)
    (preflight : WorktreeRemovalPreflight) : Prop where
  ran : Ran past (removalPreflight ⟨request.worktreeId, request.deleteBranch⟩ runtime) preflight
  soft : ∀ blocker ∈ preflight.blockers, blocker.hard = false
  waived : ∀ blocker ∈ preflight.blockers, Waived request past preflight blocker.kind

structure CheckoutMatches (past : Trace) (record : WorktreeRecord) (repository : RepositoryIdentity)
    (snapshot : NativeSnapshot) : Prop where
  ran : Ran past (nativeSnapshot repository record.worktreePath) snapshot
  identity : snapshot.native.gitDirIdentity = record.gitDirIdentity
  head : snapshot.native.head = record.head
  branch : record.branch ≠ "" → snapshot.native.branch = some record.branch

structure IsPrepared (request : WorktreeRemoveRequest) (record : WorktreeRecord) : Prop where
  id : record.id = request.worktreeId
  instanceId : record.instanceId = request.expectedInstanceId
  lifecycle : record.lifecycle = .removing

theorem Waived.mono {past later : Trace} {preflight : WorktreeRemovalPreflight} {kind : WorktreeBlockerKind}
    (waived : Waived request past preflight kind) (within : past ⊆ later) : Waived request later preflight kind := by
  obtain missing | ⟨unpushed, expected, expects, remote, listing, configured, listed, word⟩ | forced := waived
  · exact .inl missing
  · exact .inr (.inl ⟨unpushed, expected, expects, remote, listing, within configured, within listed, word⟩)
  · exact .inr (.inr forced)

/-- Why the checkout may be removed: the preflight has passed, then the record has been put in removal, and then the
checkout has been found to be the recorded one. -/
def CheckoutJustified (request : WorktreeRemoveRequest) (runtime : WorktreeRuntimeBlockers) (past : Trace)
    (directory path : String) : Prop :=
  ∃ pre post record, past = pre ++ prepared request record :: post ∧ IsPrepared request record ∧
    directory = record.repositoryPath ∧ path = record.worktreePath ∧
    (∃ preflight, PreflightPassed request runtime pre preflight) ∧
    ∃ repository snapshot, CheckoutMatches post record repository snapshot

/-- Why the branch may be deleted: it is at the recorded head, which is merged or carried by its remote. -/
def BranchJustified (request : WorktreeRemoveRequest) (past : Trace) (directory branch head : String) : Prop :=
  ∃ pre post record, past = pre ++ prepared request record :: post ∧ IsPrepared request record ∧
    directory = record.repositoryPath ∧ branch = record.branch ∧ head = record.head ∧
    (∃ output : CommandOutput, (⟨.git directory (.revParseCommit (headsRef branch)), .ok output⟩ : Event) ∈ post ∧
      toAsciiLowercase (trim output.stdoutTail) = head) ∧
    (MergedInto post directory branch head ∨ RemoteCarries past directory branch head)

def Justified (request : WorktreeRemoveRequest) (runtime : WorktreeRuntimeBlockers) (past : Trace) : Instr → Prop
  | .git directory (.worktreeRemove _ path) => CheckoutJustified request runtime past directory path
  | .git directory (.deleteRef branch head) => BranchJustified request past directory branch head
  | _ => True

def Instr.deletes : Instr → Bool
  | .git _ (.worktreeRemove _ _) | .git _ (.deleteRef _ _) => true
  | _ => false

theorem justified_of_harmless (past : Trace) (i : Instr) (harmless : i.deletes = false) :
    Justified request runtime past i := by
  unfold Justified
  split
  · exact nomatch harmless
  · exact nomatch harmless
  · trivial

theorem harmless_of_reads (i : Instr) (reads : i.reads = true) : i.deletes = false := by
  unfold Instr.deletes
  split
  · exact nomatch reads
  · exact nomatch reads
  · rfl

abbrev Harmless {α : Type} (call : Call α) : Prop := call.Only fun i => i.deletes = false

theorem harmless_reads {α : Type} {call : Call α} (reads : call.Reads) : Harmless call := reads.mono harmless_of_reads

section Steps

variable {preflight : WorktreeRemovalPreflight} {record : WorktreeRecord} {past : Trace}

theorem isPrepared_of_possible (possible : Possible (prepared request record)) : IsPrepared request record := by
  obtain ⟨s, reply, same⟩ := possible
  cases reply with
  | error e => exact nomatch same
  | ok answer =>
    have performed : (s.prepareRemoval request.worktreeId request.expectedInstanceId).2 = .ok record := same
    obtain ⟨current, s', found, right, same, _⟩ | ⟨_, same⟩ | ⟨_, _, _, same⟩ :=
      s.prepareRemoval_cases request.worktreeId request.expectedInstanceId
    · rw [same] at performed
      cases performed
      exact ⟨(Table.key_of_find found :), right, rfl⟩
    · rw [same] at performed
      exact nomatch performed
    · rw [same] at performed
      exact nomatch performed

/-- What `validate` lets pass is waived. -/
theorem waived_of_ends {segment : Trace} (ends : (validateRemovalAcknowledgements request preflight).Ends segment (.ok ())) :
    ∀ blocker ∈ preflight.blockers, blocker.hard = false ∧ Waived request segment preflight blocker.kind := by
  unfold validateRemovalAcknowledgements at ends
  split at ends
  · exact nomatch ends.of_fail.2
  · rename_i noneHard
    obtain ⟨first, rest, proven, rfl, asked, after⟩ := ends.of_bind
    obtain ⟨rfl, passed⟩ := ends_orBail after
    intro blocker member
    have soft : blocker.hard = false := by
      have none := List.find?_eq_none.1 noneHard blocker member
      exact Bool.eq_false_iff.2 none
    refine ⟨soft, ?_⟩
    by_cases missing : blocker.kind = .missingRegistration
    · exact .inl missing
    by_cases merged : blocker.kind = .unpushed ∧ proven = true
    · obtain ⟨unpushed, rfl⟩ := merged
      rw [List.append_nil]
      exact .inr (.inl ⟨unpushed, ends_providerMergeProven asked⟩)
    · have forced : blocker.kind ∈ forceable preflight proven := by
        refine List.mem_map.2 ⟨blocker, List.mem_filter.2 ⟨member, ?_⟩, rfl⟩
        have neither : ¬(blocker.kind == .unpushed && proven) = true := by simpa using merged
        simp [soft, missing, Bool.eq_false_iff.2 neither]
      unfold requireAcknowledged at passed
      split at passed
      · exact nomatch passed
      · rename_i needed
        split at passed
        · exact nomatch passed
        · rename_i acknowledged
          have said := List.find?_eq_none.1 acknowledged blocker.kind forced
          refine .inr (.inr ⟨?_, by simpa using said⟩)
          cases forces : request.force with
          | true => rfl
          | false => exact absurd ⟨List.ne_nil_of_mem forced, forces⟩ needed

theorem matches_of_ends {repository : RepositoryIdentity} {snapshot : NativeSnapshot}
    (verified : verifyRecordSnapshot record repository snapshot = .ok ()) :
    snapshot.native.gitDirIdentity = record.gitDirIdentity ∧ snapshot.native.head = record.head ∧
      (record.branch ≠ "" → snapshot.native.branch = some record.branch) := by
  unfold verifyRecordSnapshot at verified
  split at verified
  · exact nomatch verified
  · rename_i same
    simp only [not_or, not_and, not_not] at same
    exact ⟨same.2.2.2.1.symm, same.2.2.2.2.1.symm, same.2.2.2.2.2⟩

theorem ends_branchSafelyMerged {repository branch head : String} {segment : Trace}
    (ends : (branchSafelyMerged repository branch head).Ends segment (.ok true)) :
    MergedInto segment repository branch head := by
  obtain ⟨first, rest, upstream, rfl, asked, after⟩ := ends.of_bind
  obtain ⟨second, rest, _, rfl, checked, after⟩ := after.of_bind
  obtain ⟨third, rest, target, rfl, resolved, after⟩ := after.of_bind
  obtain ⟨reply, rest, rfl, judged⟩ := Ends.of_issued_bind after
  have first := ends_runSuccess asked
  have second := (ends_bailIf checked).1
  obtain ⟨output, third, _, lowered⟩ := ends_resolveCommit resolved
  cases reply with
  | ok merged =>
    subst first second third lowered
    exact ⟨upstream, output, merged, by simp, by simp, by simp⟩
  | error failure =>
    dsimp only at judged
    split at judged
    · exact nomatch judged.of_pure.2
    · exact nomatch judged.of_fail.2

def Since (request : WorktreeRemoveRequest) (record : WorktreeRecord) (past : Trace) : Prop :=
  ∃ pre post, past = pre ++ prepared request record :: post

theorem Since.append {segment : Trace} (since : Since request record past) : Since request record (past ++ segment) := by
  obtain ⟨pre, post, rfl⟩ := since
  exact ⟨pre, post ++ segment, by simp⟩

theorem wp_runSuccess {P : Trace → Instr → Prop} {directory : String} {command : GitCommand}
    (may : P past (.git directory command)) :
    (runSuccess directory command).wp Possible P (fun _ _ => True) past := by
  refine wp_bind.2 (wp_issue.2 ⟨may, fun reply _ => wp_pure.2 ?_⟩)
  cases reply with
  | ok output => exact wp_pure.2 trivial
  | error failure => exact wp_fail.2 trivial

theorem wp_removeCheckout (passed : ∃ preflight', PreflightPassed request runtime past preflight')
    (isPrepared : IsPrepared request record) (segment : Trace) :
    (removeCheckout request preflight record).wp Possible (Justified request runtime) (fun _ _ => True)
      (past ++ prepared request record :: segment) := by
  refine wp_bind_of_only (harmless_reads (reads_resolveRepository _)) justified_of_harmless (fun _ _ => trivial)
    fun first repository _ _ => ?_
  refine wp_bind_of_only (harmless_reads (reads_nativeSnapshot _ _)) justified_of_harmless (fun _ _ => trivial)
    fun second snapshot _ snapped => ?_
  refine wp_bind_of_only (harmless_reads (reads_orBail _)) justified_of_harmless (fun _ _ => trivial)
    fun third _ _ verified => ?_
  refine wp_bind_of_only (harmless_reads (reads_stage _)) justified_of_harmless (fun _ _ => trivial)
    fun fourth _ _ _ => ?_
  obtain ⟨rfl, same⟩ := ends_orBail verified
  obtain ⟨identity, head, branch⟩ := matches_of_ends same
  refine wp_bind_of_ends (wp_runSuccess ?_) (fun _ _ => trivial) fun _ _ _ _ => wp_pure.2 trivial
  refine ⟨past, segment ++ first ++ second ++ fourth, record, by simp, isPrepared, rfl, rfl, passed,
    repository, snapshot, ?_, identity, head, branch⟩
  exact ⟨segment ++ first, second, fourth, by simp, snapped⟩

/-- The caller echoes a head, and with force that is taken for a proof that the branch is merged. -/
def Echoes (request : WorktreeRemoveRequest) : Prop :=
  request.operationId ≠ 0 ∧ request.force = true ∧ request.deleteBranch = true ∧
    ∃ head ∈ request.providerMergedHead, isExactSha head = true ∧ toAsciiLowercase head = head

theorem wp_deleteBranch (justified : BranchJustified request past record.repositoryPath record.branch record.head) :
    (deleteBranch record).wp Possible (Justified request runtime) (fun _ _ => True) past := by
  refine wp_bind.2 (wp_issue.2 ⟨justified, fun reply _ => wp_pure.2 ?_⟩)
  cases reply with
  | ok output => exact wp_pure.2 trivial
  | error failure =>
    cases failure with
    | exit message output => exact wp_pure.2 trivial
    | cancelled _ | timedOut _ _ | spawn _ => exact wp_fail.2 trivial

theorem wp_finishBranch (honest : ¬Echoes request) (valid : request.operationId ≠ 0)
    (isPrepared : IsPrepared request record) (since : Since request record past) :
    (finishBranch request record).wp Possible (Justified request runtime) (fun _ _ => True) past := by
  obtain ⟨pre, post, rfl⟩ := since
  refine wp_ite (fun _ => wp_pure.2 trivial) fun asked => ?_
  refine wp_bind_of_only (harmless_reads (reads_resolveCommit _ _)) justified_of_harmless (fun _ _ => trivial)
    fun first currentHead _ resolved => ?_
  refine wp_ite (fun _ => wp_pure.2 trivial) fun same => ?_
  refine wp_bind_of_only (harmless_reads (reads_branchSafelyMerged _ _ _)) justified_of_harmless (fun _ _ => trivial)
    fun second safelyMerged _ judged => ?_
  obtain ⟨output, rfl, sure, lowered⟩ := ends_resolveCommit resolved
  have here : toAsciiLowercase (trim output.stdoutTail) = record.head := lowered.symm.trans (not_not.1 same)
  refine wp_ite (fun merged => wp_deleteBranch ?_) fun _ => wp_pure.2 trivial
  cases safelyMerged with
  | true =>
    obtain ⟨upstream, target, merges, asks, resolves, holds⟩ := ends_branchSafelyMerged judged
    refine ⟨pre, post ++ [⟨.git record.repositoryPath (.revParseCommit (headsRef record.branch)), .ok output⟩] ++ second,
      record, by simp, isPrepared, rfl, rfl, rfl, ⟨output, by simp, here⟩, .inl ⟨upstream, target, merges, ?_, ?_, ?_⟩⟩
    · exact List.mem_append_right _ asks
    · exact List.mem_append_right _ resolves
    · exact List.mem_append_right _ holds
  | false =>
    rw [Bool.false_or, Bool.and_eq_true, beq_iff_eq] at merged
    have deletes : request.deleteBranch = true := by
      cases deletes : request.deleteBranch with
      | true => rfl
      | false => exact absurd (.inl deletes) asked
    have exact_ := isExactSha_toAsciiLowercase sure
    rw [here] at exact_
    exact absurd ⟨valid, merged.1, deletes, record.head, merged.2, exact_⟩ honest

theorem wp_removePrepared (honest : ¬Echoes request) (valid : request.operationId ≠ 0)
    (passed : ∃ preflight', PreflightPassed request runtime past preflight') (isPrepared : IsPrepared request record) :
    (removePrepared request preflight record).wp Possible (Justified request runtime) (fun _ _ => True)
      (past ++ [prepared request record]) := by
  have since (segment : Trace) : Since request record (past ++ prepared request record :: segment) := ⟨past, segment, rfl⟩
  refine wp_bind_of_only (harmless_reads (reads_stage _)) justified_of_harmless (fun _ _ => trivial) fun first _ _ _ => ?_
  refine wp_bind_of_only (S := fun i => i.deletes = false) (only_issued rfl) justified_of_harmless (fun _ _ => trivial)
    fun second reply _ _ => ?_
  refine wp_bind_of_only (harmless_reads (reads_orBail _)) justified_of_harmless (fun _ _ => trivial) fun third _ _ _ => ?_
  refine wp_bind_of_only (harmless_reads reads_checkCancelled) justified_of_harmless (fun _ _ => trivial)
    fun fourth _ _ _ => ?_
  refine wp_bind_of_only (harmless_reads (reads_isMissing _ _)) justified_of_harmless (fun _ _ => trivial)
    fun fifth missing _ _ => ?_
  have joined : past ++ [prepared request record] ++ first ++ second ++ third ++ fourth ++ fifth =
      past ++ prepared request record :: (first ++ second ++ third ++ fourth ++ fifth) := by simp
  rw [joined]
  have removed : (removeUnlessMissing request preflight record missing).wp Possible (Justified request runtime)
      (fun _ _ => True) (past ++ prepared request record :: (first ++ second ++ third ++ fourth ++ fifth)) :=
    wp_ite (fun _ => wp_pure.2 trivial) fun _ => wp_removeCheckout passed isPrepared _
  refine wp_bind_of_ends removed (fun _ _ => trivial) fun sixth _ _ _ => ?_
  refine wp_bind_of_ends (wp_finishBranch honest valid isPrepared (since _).append) (fun _ _ => trivial)
    fun seventh branch _ _ => ?_
  refine wp_of_only (S := fun i => i.deletes = false) ?_ justified_of_harmless
  refine only_bind ?_ fun _ => only_bind (only_bind ?_ fun _ => harmless_reads (reads_bailIf _ _)) fun _ => only_pure _
  · cases record.sessionId with
    | none => exact only_pure _
    | some sessionId => exact only_bind (only_issued rfl) fun reply => harmless_reads (reads_orBail reply)
  · exact only_bind (only_issued rfl) fun reply => harmless_reads (reads_orBail reply)

theorem harmless_abortAfter (failure : Failure) : Harmless (abortAfter record failure) := by
  refine only_bind (only_attempt (only_bind ?_ fun _ => harmless_reads (reads_bailIf _ _))) fun aborted => ?_
  · exact only_bind (only_issued rfl) fun reply => harmless_reads (reads_orBail reply)
  · cases aborted with
    | ok _ => exact only_fail _
    | error abort => exact only_fail _

theorem wp_removeClaimed (honest : ¬Echoes request) (valid : request.operationId ≠ 0) :
    (removeClaimed request runtime).wp Possible (Justified request runtime) (fun _ _ => True) past := by
  refine wp_bind_of_only (harmless_reads (reads_stage _)) justified_of_harmless (fun _ _ => trivial) fun first _ _ _ => ?_
  refine wp_bind_of_only (harmless_reads (reads_removalPreflight _ _)) justified_of_harmless (fun _ _ => trivial)
    fun second preflight _ ran => ?_
  refine wp_bind_of_only (harmless_reads (reads_validateRemovalAcknowledgements _ _)) justified_of_harmless
    (fun _ _ => trivial) fun third _ _ validated => ?_
  have passed : PreflightPassed request runtime (past ++ first ++ second ++ third) preflight := by
    have waived := waived_of_ends validated
    refine ⟨Ran.of_ends ran (past ++ first) third, fun blocker member => (waived blocker member).1, fun blocker member => ?_⟩
    exact (waived blocker member).2.mono (List.subset_append_right _ _)
  have harmless : Harmless (sql (.prepareRemoval request.worktreeId request.expectedInstanceId)) :=
    only_bind (only_issued rfl) fun reply => harmless_reads (reads_orBail reply)
  refine wp_bind_of_only harmless justified_of_harmless (fun _ _ => trivial) fun fourth record possible answers => ?_
  have fourth := ends_sql answers
  subst fourth
  have isPrepared := isPrepared_of_possible (possible _ List.mem_cons_self)
  refine wp_bind.2 (wp_attempt.2 (wp_mono (wp_removePrepared honest valid ⟨preflight, passed⟩ isPrepared) ?_))
  intro later result _
  cases result with
  | ok result => exact wp_pure.2 trivial
  | error failure => exact wp_of_only (harmless_abortAfter failure) justified_of_harmless

theorem wp_remove (honest : ¬Echoes request) :
    (remove request runtime).wp Possible (Justified request runtime) (fun _ _ => True) past := by
  refine wp_bind_of_only (harmless_reads (reads_bailIf _ _)) justified_of_harmless (fun _ _ => trivial)
    fun first _ _ validated => ?_
  have valid : request.operationId ≠ 0 := of_decide_eq_false (ends_bailIf validated).2
  have free (past : Trace) (i : Instr) (reads : i.reads = true) : Justified request runtime past i :=
    justified_of_harmless past i (harmless_of_reads i reads)
  exact wp_claimed free fun _ => wp_recorded free (wp_removeClaimed honest valid)

end Steps

section Echo

variable {request : WorktreeRemoveRequest} {head : String}

def printed (text : String) : CommandOutput := ⟨some 0, text, "", false, false⟩

def otherHead : String := String.ofList (List.replicate 40 '0')

def unmerged (request : WorktreeRemoveRequest) (head : String) : WorktreeRecord where
  id := request.worktreeId
  instanceId := request.expectedInstanceId
  repositoryId := "repository"
  repositoryPath := "/repository"
  worktreePath := "/worktree"
  branch := "topic"
  head
  baseRef := ""
  sessionId := none
  parentSessionId := none
  parentWorktreeId := none
  parentInstanceId := none
  origin := .manual
  lifecycle := .removing
  locked := false
  lockReason := none
  prunable := false
  prunableReason := none
  dirty := false
  untracked := false
  hasConflicts := false
  ahead := 0
  behind := 0
  exists_ := false
  setupPolicy := ""
  sparsePreset := none
  linkedFiles := []
  initialAgent := none
  initialPrompt := none
  comment := none
  reviewTarget := none
  createdAt := 0
  normalizedRepositoryPath := "/repository"
  normalizedWorktreePath := "/worktree"
  gitDirIdentity := ""

def holding (record : WorktreeRecord) : Registry := ⟨⟨[record], List.nodup_singleton _⟩, List.nodup_singleton _⟩

theorem prepareRemoval_holding (record : WorktreeRecord) :
    ((holding record).prepareRemoval record.id record.instanceId).2 = .ok { record with lifecycle := .removing } := by
  have found : (holding record).worktrees.find record.id = some record := by simp [holding, Table.find]
  obtain ⟨other, s', here, _, same, _⟩ | ⟨none, _⟩ | ⟨other, here, apart, _⟩ :=
    (holding record).prepareRemoval_cases record.id record.instanceId
  · cases found.symm.trans here
    rw [same]
  · cases found.symm.trans none
  · cases found.symm.trans here
    exact absurd rfl apart

/-- No reply says that the branch is merged, and none that it has a remote. -/
def Unhelpful (event : Event) : Prop :=
  Possible event ∧ match event with
    | ⟨.git _ (.isAncestor _ _), .ok _⟩ => False
    | ⟨.read _ (.configuredRemote _), .ok (some _)⟩ => False
    | _ => True

theorem may_bailIf {condition : Bool} (passes : condition = false) (message : String) :
    (bailIf condition message).May Unhelpful (.ok ()) := by
  rw [passes]
  exact may_pure

theorem may_checkCancelled : checkCancelled.May Unhelpful (.ok ()) :=
  may_bind (may_issued (r := false) ⟨⟨.empty, false, rfl⟩, trivial⟩) may_pure

theorem may_stage (name : String) : (stage name).May Unhelpful (.ok ()) := by
  have answer : (Program.issued (Instr.operationStage name) : Call (Except String Unit)).May Unhelpful (.ok (.ok ())) :=
    may_issued ⟨⟨.empty, .ok (), rfl⟩, trivial⟩
  exact may_bind may_checkCancelled (may_bind answer (may_bind may_pure may_checkCancelled))

theorem may_resolveCommit {sha : String} (sure : isExactSha sha = true) (lower : toAsciiLowercase sha = sha)
    (repository ref : String) : (resolveCommit repository ref).May Unhelpful (.ok sha) := by
  have answer : (runSuccess repository (.revParseCommit ref)).May Unhelpful (.ok (printed sha)) :=
    may_bind (may_issued (r := .ok (printed sha)) ⟨⟨.empty, .ok (printed sha), rfl⟩, trivial⟩) may_pure
  have text : (outputText (printed sha) "resolved worktree base SHA").May Unhelpful (.ok sha) := by
    have trimmed : trim (printed sha).stdoutTail = sha := trim_of_isExactSha sure
    rw [outputText, trimmed, if_neg (ne_empty_of_isExactSha sure)]
    exact may_pure
  refine may_bind answer (may_bind text (may_bind (may_bailIf ?_ _) ?_))
  · rw [sure, Bool.not_true]
  · rw [lower]
    exact may_pure

variable {request : WorktreeRemoveRequest} {head : String}

def preflighted (request : WorktreeRemoveRequest) (head : String) : WorktreeRemovalPreflight where
  worktreeId := request.worktreeId
  instanceId := request.expectedInstanceId
  repositoryPath := "/repository"
  worktreePath := "/worktree"
  branch := "topic"
  head
  blockers := [⟨.missingRegistration, false, "The Git worktree registration is missing."⟩]
  warnings := ["Git registration and checkout directory are already absent; metadata cleanup is available."]

theorem may_preflight : (removalPreflight ⟨request.worktreeId, request.deleteBranch⟩ ⟨false, false⟩).May Unhelpful
    (.ok (preflighted request head)) := by
  have reads : (readRecord request.worktreeId).May Unhelpful (.ok (unmerged request head)) := by
    have possible : Possible ⟨.sql (.readRecord request.worktreeId), .ok (some (unmerged request head))⟩ := by
      refine ⟨holding (unmerged request head), .ok none, ?_⟩
      simp [Instr.execute, Statement.perform, holding, Table.find, unmerged]
    exact may_bind (a := some (unmerged request head)) (may_bind (may_issued ⟨possible, trivial⟩) may_pure) may_pure
  have scans : (Program.issued (Instr.scanNativeWorktrees "/repository") : Call (Except String (List NativeWorktree))).May
      Unhelpful (.ok (.ok [])) := may_issued ⟨⟨.empty, .ok [], rfl⟩, trivial⟩
  have looks : (Program.issued (Instr.pathEntryExists "/worktree") : Call Bool).May Unhelpful (.ok false) :=
    may_issued ⟨⟨.empty, false, rfl⟩, trivial⟩
  have none_ : (checkoutBlockers (unmerged request head) none).May Unhelpful
      (.ok ((preflighted request head).blockers, (preflighted request head).warnings)) := may_bind looks may_pure
  refine may_bind reads (may_bind scans (may_bind may_pure (may_bind none_ ?_)))
  have same : ∀ preflight, preflight = preflighted request head →
      (Program.pure preflight : Call WorktreeRemovalPreflight).May Unhelpful (.ok (preflighted request head)) := by
    rintro _ rfl
    exact may_pure
  apply same
  simp [preflighted, unmerged, runtimeBlockers]

theorem may_validate (expects : request.expectedHead = some head) (sure : isExactSha head = true) :
    (validateRemovalAcknowledgements request (preflighted request head)).May Unhelpful (.ok ()) := by
  have heads : (readAllowFail "/repository" (.revParse (headsRef "topic"))).May Unhelpful (.ok (some head)) :=
    may_bind (may_issued ⟨⟨.empty, .ok (some head), rfl⟩, trivial⟩) may_pure
  have actual : (gitRead "/repository" (.revParse (headsRef "topic"))).May Unhelpful (.ok head) :=
    may_bind heads may_pure
  have noRemote : (readAllowFail "/repository" (.configuredRemote "topic")).May Unhelpful (.ok none) :=
    may_bind (may_issued ⟨⟨.empty, .ok none, rfl⟩, trivial⟩) may_pure
  have configured : (orElse (readAllowFail "/repository" (.configuredRemote "topic")) none).May Unhelpful (.ok none) :=
    may_bind noRemote.attempt may_pure
  have tip : (remoteBranchTip "/repository" "topic").May Unhelpful (.ok none) := may_bind configured may_pure
  have unproven : (providerMergeProven request (preflighted request head)).May Unhelpful (.ok false) := by
    unfold providerMergeProven
    rw [expects]
    refine may_bind actual (may_bind (may_bailIf ?_ _) (may_bind tip may_pure))
    rw [trim_of_isExactSha sure]
    simp
  exact may_bind unproven may_pure

theorem may_prepare : (sql (.prepareRemoval request.worktreeId request.expectedInstanceId)).May Unhelpful
    (.ok (unmerged request head)) := by
  have possible : Possible (prepared request (unmerged request head)) :=
    ⟨holding (unmerged request head), .ok (unmerged request head), prepareRemoval_holding (unmerged request head)⟩
  exact may_bind (may_issued ⟨possible, trivial⟩) may_pure

theorem may_missing : (isMissing (preflighted request head) (unmerged request head)).May Unhelpful (.ok true) := by
  have looks : (symlinkMetadata "/worktree").May Unhelpful (.ok .missing) :=
    may_issued ⟨⟨.empty, .missing, rfl⟩, trivial⟩
  exact may_bind looks may_pure

theorem may_branchSafelyMerged : (branchSafelyMerged "/repository" "topic" head).May Unhelpful (.ok false) := by
  have upstream : (runSuccess "/repository" (.upstream "topic")).May Unhelpful (.ok (printed "")) :=
    may_bind (may_issued (r := .ok (printed "")) ⟨⟨.empty, .ok (printed ""), rfl⟩, trivial⟩) may_pure
  have target := @may_resolveCommit otherHead (by decide +kernel) (by decide +kernel) "/repository" "HEAD"
  let no : CommandFailure := .exit "exit code 1" { printed "" with exitCode := some 1 }
  have judged : (git "/repository" (.isAncestor head otherHead)).May Unhelpful (.ok (.error no)) :=
    may_issued ⟨⟨.empty, .error no, rfl⟩, trivial⟩
  refine may_bind upstream (may_bind (may_bailIf rfl _) ?_)
  have empty : (if trim (printed "").stdoutTail = "" then "HEAD" else trim (printed "").stdoutTail) = "HEAD" := by
    decide +kernel
  rw [empty]
  exact may_bind target (may_bind judged may_pure)

theorem mayIssue_finishBranch (forces : request.force = true) (deletes : request.deleteBranch = true)
    (echoes : request.providerMergedHead = some head) (sure : isExactSha head = true) (lower : toAsciiLowercase head = head) :
    (finishBranch request (unmerged request head)).MayIssue Unhelpful (.git "/repository" (.deleteRef "topic" head)) := by
  unfold finishBranch
  rw [if_neg (by simp [deletes, unmerged])]
  refine mayIssue_bind (may_resolveCommit sure lower _ _) ?_
  rw [if_neg (by simp [unmerged])]
  refine mayIssue_bind may_branchSafelyMerged ?_
  rw [if_pos (by simp [forces, echoes, unmerged])]
  exact MayIssue.of_left mayIssue_issued

theorem mayIssue_removePrepared (forces : request.force = true) (deletes : request.deleteBranch = true)
    (echoes : request.providerMergedHead = some head) (sure : isExactSha head = true) (lower : toAsciiLowercase head = head) :
    (removePrepared request (preflighted request head) (unmerged request head)).MayIssue Unhelpful
      (.git "/repository" (.deleteRef "topic" head)) := by
  have cleans : (Program.issued (Instr.cleanupResources (unmerged request head)) : Call (Except String Unit)).May Unhelpful
      (.ok (.ok ())) := may_issued ⟨⟨.empty, .ok (), rfl⟩, trivial⟩
  have finishes := mayIssue_finishBranch forces deletes echoes sure lower
  exact mayIssue_bind (may_stage "cleaning") <| mayIssue_bind cleans <| mayIssue_bind may_pure <|
    mayIssue_bind may_checkCancelled <| mayIssue_bind may_missing <| mayIssue_bind may_pure finishes.of_left

theorem mayIssue_remove (valid : request.operationId ≠ 0) (forces : request.force = true)
    (deletes : request.deleteBranch = true) (echoes : request.providerMergedHead = some head)
    (sure : isExactSha head = true) (lower : toAsciiLowercase head = head) :
    (remove request ⟨false, false⟩).MayIssue Unhelpful (.git "/repository" (.deleteRef "topic" head)) := by
  have expects : request.expectedHead = some head := by
    have trimmed := trim_of_isExactSha sure
    have solid := ne_empty_of_isExactSha sure
    simp [WorktreeRemoveRequest.expectedHead, echoes, trimmed, solid]
  have claims : (Program.issued (Instr.claimOperation "remove") : Call (Except String OperationClaim)).May Unhelpful
      (.ok (.ok .claimed)) := may_issued ⟨⟨.empty, .ok .claimed, rfl⟩, trivial⟩
  have valid : (validateOperationId request.operationId).May Unhelpful (.ok ()) := may_bailIf (decide_eq_false valid) _
  have removes : (removeClaimed request ⟨false, false⟩).MayIssue Unhelpful (.git "/repository" (.deleteRef "topic" head)) :=
    mayIssue_bind (may_stage "validating") <| mayIssue_bind (@may_preflight request head) <|
      mayIssue_bind (may_validate expects sure) <| mayIssue_bind may_prepare <|
        (mayIssue_removePrepared forces deletes echoes sure lower).attempt.of_left
  have goes : (recorded (removeClaimed request ⟨false, false⟩)).MayIssue Unhelpful
      (.git "/repository" (.deleteRef "topic" head)) := removes.attempt.of_left
  exact mayIssue_bind valid (mayIssue_bind claims (mayIssue_bind may_pure goes.of_left))

theorem not_branchJustified {past : Trace} (unhelpful : ∀ event ∈ past, Unhelpful event) {directory branch head : String} :
    ¬BranchJustified request past directory branch head := by
  rintro ⟨pre, post, record, rfl, _, _, _, _, _, ⟨_, _, merged, _, _, judged⟩ | ⟨_, _, configured, _⟩⟩
  · exact (unhelpful _ (List.mem_append_right _ (List.mem_cons_of_mem _ judged))).2
  · exact (unhelpful _ configured).2

/-- What a removal deletes is justified in all its executions if and only if its request does not echo a head. -/
theorem deletes_justified_iff (request : WorktreeRemoveRequest) :
    (∀ runtime past i, (∀ event ∈ past, Possible event) → (remove request runtime).Issues past i →
      Justified request runtime past i) ↔ ¬Echoes request := by
  constructor
  · rintro justified ⟨valid, forces, deletes, head, echoes, sure, lower⟩
    obtain ⟨past, unhelpful, issues⟩ := mayIssue_remove valid forces deletes echoes sure lower
    have possible (event : Event) (member : event ∈ past) : Possible event := (unhelpful event member).1
    exact not_branchJustified unhelpful (justified ⟨false, false⟩ past _ possible issues)
  · intro honest runtime past i possible issues
    have safe : (remove request runtime).wp Possible (Justified request runtime) (fun _ _ => True) [] := wp_remove honest
    exact (wp_iff.1 safe).1 past i possible issues

def echoedHead : String := String.ofList (List.replicate 40 'a')

def echoing : WorktreeRemoveRequest := ⟨1, "worktree", "instance", true, true, some echoedHead, []⟩

/-- The head is echoed, and the branch is deleted that is nowhere else. -/
theorem echo_deletes : ∃ past, (∀ event ∈ past, Possible event) ∧
    (remove echoing ⟨false, false⟩).Issues past (.git "/repository" (.deleteRef "topic" echoedHead)) ∧
    ¬Justified echoing ⟨false, false⟩ past (.git "/repository" (.deleteRef "topic" echoedHead)) := by
  obtain ⟨past, unhelpful, issues⟩ := @mayIssue_remove echoing echoedHead Nat.one_ne_zero rfl rfl rfl
    (by decide +kernel) (by decide +kernel)
  exact ⟨past, fun event member => (unhelpful event member).1, issues, not_branchJustified unhelpful⟩

end Echo

end VibeLink.Worktrees
