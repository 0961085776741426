import VibeLink.Worktrees.Deletion
import VibeLink.Worktrees.Ledger

/-! The record of a removal that fails (`remove_claimed` and `abort_removal`): what it is given back as when the
checkout is gone already. -/

namespace VibeLink.Worktrees

open Relational Program Call
open Coordinator (trim)

/-- A call with the registry as each of its instructions finds it; others may have changed it in between. -/
abbrev History : Type := List (Moment Registry Instr.Reply)

def History.trace (history : History) : Trace := history.map (Moment.event Instr.execute)

theorem possible_of_history {history : History} : ∀ event ∈ history.trace, Possible event := by
  intro event member
  obtain ⟨moment, _, rfl⟩ := List.mem_map.1 member
  exact ⟨moment.state, moment.answer, rfl⟩

def removesCheckout : Event → Bool
  | ⟨.git _ (.worktreeRemove _ _), .ok _⟩ => true
  | _ => false

def Activates (id : String) (moment : Moment Registry Instr.Reply) : Prop :=
  (∃ row, moment.state.worktrees.find id = some row ∧ row.lifecycle ≠ .active) ∧
  ∃ row, (moment.after Instr.execute).worktrees.find id = some row ∧ row.lifecycle = .active

/-- The record is made active again only while its checkout has not been removed. -/
def RestoresOnlyIntact (id : String) (history : History) : Prop :=
  ∀ past moment later, history = past ++ moment :: later → Activates id moment →
    ∀ event ∈ History.trace past, removesCheckout event = false

def Hinders : Event → Prop
  | ⟨.git _ (.revParseCommit _), .ok output⟩ =>
    output.stdoutTruncated = true ∨ isExactSha (trim output.stdoutTail) = false
  | ⟨.git _ (.revParseCommit _), .error _⟩ => True
  | ⟨.git _ (.upstream _), .ok output⟩ => output.stdoutTruncated = true
  | ⟨.git _ (.upstream _), .error _⟩ => True
  | ⟨.git _ (.isAncestor _ _), .error failure⟩ => failure.isNo = false
  | ⟨.git _ (.deleteRef _ _), .error (.exit _ _)⟩ => False
  | ⟨.git _ (.deleteRef _ _), .error _⟩ => True
  | ⟨.finalizeSession _, .error _⟩ => True
  | ⟨.sql (.finalizeRemoval _ _), .error _⟩ => True
  | ⟨.sql (.finalizeRemoval _ _), .ok changed⟩ => changed ≠ (1 : Nat)
  | _ => False

/-- The checkout has been removed, and then a step has been hindered. -/
def HinderedAfterRemoval (past : Trace) : Prop :=
  ∃ before removal later, past = before ++ removal :: later ∧ removesCheckout removal = true ∧ ∃ event ∈ later, Hinders event

/-- The removal is aborted where the record is still in it, and the database does not fail. -/
def GivesBack (id instanceId : String) (moment : Moment Registry Instr.Reply) : Prop :=
  ∃ s row, ∃ answer : Nat, moment = ⟨s, .sql (.abortRemoval id instanceId), .ok answer⟩ ∧
    s.worktrees.find id = some row ∧ row.instanceId = instanceId ∧ row.lifecycle = .removing

section Instructions

def Instr.mild : Instr → Bool
  | .git _ (.worktreeRemove _ _) => false
  | .sql (.prepareRemoval _ _) | .sql (.finalizeRemoval _ _) => true
  | .sql statement => statement.reads
  | _ => true

theorem mild_of_reads (i : Instr) (reads : i.reads = true) : i.mild = true := by
  unfold Instr.mild
  split
  · exact nomatch reads
  · rfl
  · rfl
  · exact reads
  · rfl

theorem not_removesCheckout {event : Event} (mild : event.1.mild = true) : removesCheckout event = false := by
  unfold removesCheckout
  split
  · exact nomatch mild
  · rfl

abbrev Mild {α : Type} (call : Call α) : Prop := call.Only fun i => i.mild = true

theorem mild_reads {α : Type} {call : Call α} (reads : call.Reads) : Mild call := reads.mono mild_of_reads

variable {s : Registry} {id : String} {row : WorktreeRecord}

theorem lifecycle_of_mild {i : Instr} {answer : i.Reply} (mild : i.mild = true) (found : s.worktrees.find id = some row)
    (inactive : row.lifecycle ≠ .active) {row' : WorktreeRecord}
    (there : (i.execute s answer).1.worktrees.find id = some row') : row'.lifecycle ≠ .active := by
  have stays {s' : Registry} (same : s'.worktrees.find id = some row) (there : s'.worktrees.find id = some row') :
      row'.lifecycle ≠ .active := by
    cases same.symm.trans there
    exact inactive
  cases i with
  | sql statement =>
    cases answer with
    | error e => exact stays found there
    | ok answer =>
      cases statement with
      | readRecord | readRecords | readRecordByPath | readRecordBySession => exact stays found there
      | prepareRemoval other instanceId =>
        change (s.prepareRemoval other instanceId).1.worktrees.find id = some row' at there
        obtain ⟨record, s', here, _, same, rows⟩ | ⟨_, same⟩ | ⟨_, _, _, same⟩ :=
          s.prepareRemoval_cases other instanceId
        · rw [same, rows, Relational.modify] at there
          split at there
          · obtain ⟨record, _, rfl⟩ := Option.map_eq_some_iff.1 there
            exact WorktreeLifecycle.noConfusion
          · exact stays found there
        · rw [same] at there
          exact stays found there
        · rw [same] at there
          exact stays found there
      | finalizeRemoval other instanceId =>
        change (s.delete _).1.worktrees.find id = some row' at there
        obtain ⟨s', deleted, rows⟩ := @Registry.delete_eq s fun record => isInstance other instanceId record && isRemoving record
        rw [deleted, rows, Table.find_retain] at there
        obtain ⟨there, _⟩ := Option.filter_eq_some_iff.1 there
        exact stays found there
      | _ => cases mild
  | _ => exact stays found there

theorem abortRemoval_activates {instanceId : String} (found : s.worktrees.find id = some row)
    (right : row.instanceId = instanceId) (removing : row.lifecycle = .removing) (answer : Nat) :
    Activates id ⟨s, .sql (.abortRemoval id instanceId), .ok answer⟩ := by
  have key : row.id = id := Table.key_of_find found
  have meant : (isInstance id instanceId row && isRemoving row) = true := by
    simp [isInstance, isRemoving, key, right, removing]
  refine ⟨⟨row, found, ?_⟩, { row with lifecycle := .active }, ?_, rfl⟩
  · rw [removing]
    exact WorktreeLifecycle.noConfusion
  · obtain ⟨s', updated, rows⟩ := @Registry.update_of_place s
      (fun record => isInstance id instanceId record && isRemoving record)
      (fun record => { record with lifecycle := .active }) (fun _ => rfl) fun _ => rfl
    change (s.update _ _ _).1.worktrees.find id = _
    rw [updated, rows, Table.find_update, modifyAll, found, Option.map_some, if_pos meant]

theorem givesBack_of_activates {instanceId : String} {reply : Except SqlError Nat}
    (activates : Activates id ⟨s, .sql (.abortRemoval id instanceId), reply⟩) :
    GivesBack id instanceId ⟨s, .sql (.abortRemoval id instanceId), reply⟩ := by
  obtain ⟨⟨row, found, inactive⟩, row', there, active⟩ := activates
  cases reply with
  | error e =>
    cases found.symm.trans there
    exact absurd active inactive
  | ok answer =>
    change (s.update _ _ _).1.worktrees.find id = some row' at there
    obtain same | ⟨meant, _⟩ := @Registry.update_row s
      (fun record => isInstance id instanceId record && isRemoving record)
      (fun record => { record with lifecycle := .active }) id row (fun _ => rfl) found
    · cases same.symm.trans there
      exact absurd active inactive
    · simp only [isInstance, isRemoving, Bool.and_eq_true, beq_iff_eq] at meant
      exact ⟨s, row, answer, rfl, found, meant.1.2, meant.2⟩

end Instructions

section Hindrances

variable {α β : Type}

def Passes (call : Call α) : Prop :=
  ∀ past, call.wp (fun event => ¬Hinders event) (fun _ _ => True) (fun _ result => ∃ a, result = .ok a) past

theorem passes_pure (a : α) : Passes (Program.pure a : Call α) := fun _ => wp_pure.2 ⟨a, rfl⟩

theorem passes_bind {call : Call α} {f : α → Call β} (first : Passes call) (rest : ∀ a, Passes (f a)) :
    Passes (call >>= f) := by
  refine fun past => wp_bind.2 (wp_mono (first past) fun later result returned => ?_)
  obtain ⟨a, rfl⟩ := returned
  exact rest a later

theorem passes_issued {i : Instr} {f : i.Reply → Call α} (rest : ∀ reply, ¬Hinders ⟨i, reply⟩ → Passes (f reply)) :
    Passes (Program.issued i >>= f) :=
  fun _ => wp_bind.2 (wp_issue.2 ⟨trivial, fun reply free => wp_pure.2 (rest reply free _)⟩)

theorem passes_runSuccess {directory : String} {command : GitCommand} {f : CommandOutput → Call α}
    (fails : ∀ failure, Hinders ⟨.git directory command, .error failure⟩)
    (rest : ∀ output, ¬Hinders ⟨.git directory command, .ok output⟩ → Passes (f output)) :
    Passes (runSuccess directory command >>= f) := by
  refine fun past => wp_bind.2 (wp_bind.2 (wp_issue.2 ⟨trivial, fun reply free => wp_pure.2 ?_⟩))
  cases reply with
  | error failure => exact absurd (fails failure) free
  | ok output => exact wp_pure.2 (rest output free _)

theorem hinders_of_fails {call : Call α} (passes : Passes call) {trace : Trace} {failure : Failure}
    (ends : call.Ends trace (.error failure)) : ∃ event ∈ trace, Hinders event := by
  by_contra none
  obtain ⟨a, returned⟩ :=
    (wp_iff.1 (passes [])).2 trace _ (fun event member hinders => none ⟨event, member, hinders⟩) ends
  exact nomatch returned

theorem passes_resolveCommit (repository ref : String) : Passes (resolveCommit repository ref) := by
  refine passes_runSuccess (fun _ => trivial) fun output free => ?_
  obtain ⟨whole, sure⟩ := not_or.1 free
  have sure := Bool.eq_true_of_not_eq_false sure
  have text : outputText output "resolved worktree base SHA" = .pure (trim output.stdoutTail) := by
    rw [outputText, if_neg whole, if_neg (ne_empty_of_isExactSha sure)]
  have passed : bailIf (!isExactSha (trim output.stdoutTail)) "Git returned an invalid exact base SHA" = .pure () := by
    rw [sure, Bool.not_true]
    rfl
  rw [text]
  intro past
  refine wp_bind.2 (wp_pure.2 ?_)
  dsimp only [Then]
  rw [passed]
  exact wp_bind.2 (wp_pure.2 (wp_pure.2 ⟨_, rfl⟩))

theorem passes_branchSafelyMerged (repository branch head : String) : Passes (branchSafelyMerged repository branch head) := by
  refine passes_runSuccess (fun _ => trivial) fun upstream free => ?_
  have whole : upstream.stdoutTruncated = false := Bool.eq_false_of_not_eq_true free
  rw [whole]
  refine passes_bind (passes_pure ()) fun _ => passes_bind (passes_resolveCommit _ _) fun targetHead =>
    passes_issued fun reply free => ?_
  cases reply with
  | ok output => exact passes_pure true
  | error failure =>
    have no : failure.isNo = true := Bool.eq_true_of_not_eq_false free
    dsimp only
    rw [if_pos no]
    exact passes_pure false

theorem passes_deleteBranch (record : WorktreeRecord) : Passes (deleteBranch record) := by
  refine passes_issued fun reply free => ?_
  cases reply with
  | ok output => exact passes_pure _
  | error failure =>
    cases failure with
    | exit message output => exact passes_pure _
    | cancelled _ | timedOut _ _ | spawn _ => exact absurd trivial free

theorem passes_finishBranch (request : WorktreeRemoveRequest) (record : WorktreeRecord) :
    Passes (finishBranch request record) := by
  unfold finishBranch
  split
  · exact passes_pure _
  · refine passes_bind (passes_resolveCommit _ _) fun currentHead => ?_
    split
    · exact passes_pure _
    · refine passes_bind (passes_branchSafelyMerged _ _ _) fun safelyMerged => ?_
      dsimp only
      split
      · exact passes_deleteBranch record
      · exact passes_pure _

theorem passes_finishSession (session : Option String) : Passes (finishSession session) := by
  cases session with
  | none => exact passes_pure _
  | some sessionId =>
    refine passes_issued fun reply free => ?_
    cases reply with
    | ok removed => exact passes_pure removed
    | error e => exact absurd trivial free

theorem passes_finalizeRemoval (id instanceId : String) : Passes (finalizeRemoval id instanceId) := by
  refine fun past => wp_bind.2 (wp_bind.2 (wp_issue.2 ⟨trivial, fun reply free => wp_pure.2 ?_⟩))
  cases reply with
  | error e => exact absurd trivial free
  | ok changed =>
    have one : changed = (1 : Nat) := not_not.1 free
    subst one
    exact wp_pure.2 (wp_pure.2 ⟨_, rfl⟩)

end Hindrances

section Removals

variable {request : WorktreeRemoveRequest} {preflight : WorktreeRemovalPreflight} {record : WorktreeRecord}
  {α β : Type} {past : Trace}

def Intact (past : Trace) : Prop := ∀ event ∈ past, removesCheckout event = false

/-- If the checkout has been removed, something has hindered the rest. -/
def Excused (past : Trace) : Prop := ¬Intact past → HinderedAfterRemoval past

/-- A removal is aborted with its checkout in place, or because something has hindered it. -/
def AbortsExcused (request : WorktreeRemoveRequest) (past : Trace) : Instr → Prop
  | .sql (.abortRemoval id instanceId) => id = request.worktreeId ∧ instanceId = request.expectedInstanceId ∧ Excused past
  | .git _ (.worktreeRemove _ _) => True
  | i => i.mild = true

theorem abortsExcused_of_mild (past : Trace) (i : Instr) (mild : i.mild = true) : AbortsExcused request past i := by
  unfold AbortsExcused
  split
  · exact nomatch mild
  · trivial
  · exact mild

theorem AbortsExcused.cases {i : Instr} (excused : AbortsExcused request past i) : i.mild = true ∨
    (∃ directory force path, i = .git directory (.worktreeRemove force path)) ∨
    (i = .sql (.abortRemoval request.worktreeId request.expectedInstanceId) ∧ Excused past) := by
  unfold AbortsExcused at excused
  split at excused
  · obtain ⟨rfl, rfl, excuse⟩ := excused
    exact .inr (.inr ⟨rfl, excuse⟩)
  · exact .inr (.inl ⟨_, _, _, rfl⟩)
  · exact .inl excused

theorem Intact.excused (intact : Intact past) : Excused past := fun removed => absurd intact removed

theorem Intact.append (intact : Intact past) {later : Trace} (rest : Intact later) : Intact (past ++ later) :=
  List.forall_mem_append.2 ⟨intact, rest⟩

theorem intact_of_mild {call : Call α} (mild : Mild call) {trace : Trace} {result : Except Failure α}
    (ends : call.Ends trace result) : Intact trace :=
  fun event member => not_removesCheckout (mild.ends ends event member)

theorem wp_bind_of_mild {call : Call α} {f : α → Call β} {R : Trace → Except Failure β → Prop} (mild : Mild call)
    (intact : Intact past) (fails : ∀ later failure, Intact later → R later (.error failure))
    (rest : ∀ trace a, (∀ event ∈ trace, Possible event) → call.Ends trace (.ok a) → Intact (past ++ trace) →
      (f a).wp Possible (AbortsExcused request) R (past ++ trace)) :
    (call >>= f).wp Possible (AbortsExcused request) R past := by
  refine wp_bind.2 (wp_of_ends (wp_of_only mild abortsExcused_of_mild) fun trace result possible ends => ?_)
  have still := intact.append (intact_of_mild mild ends)
  cases result with
  | ok a => exact rest trace a possible ends still
  | error failure => exact fails _ failure still

def finishRemoval (request : WorktreeRemoveRequest) (record : WorktreeRecord) : Call WorktreeRemovalResult := do
  let (branchDeleted, branchPreservedReason) ← finishBranch request record
  let sessionRemoved ← finishSession record.sessionId
  finalizeRemoval record.id record.instanceId
  return ⟨true, branchDeleted, branchPreservedReason, sessionRemoved, true⟩

theorem mild_finishRemoval (request : WorktreeRemoveRequest) (record : WorktreeRecord) :
    Mild (finishRemoval request record) :=
  only_bind (only_finishBranch mild_of_reads rfl) fun _ => only_bind (only_finishSession mild_of_reads (fun _ => rfl) _) fun _ =>
    only_bind (only_bind (only_bind (only_issued rfl) fun reply => mild_reads (reads_orBail reply))
      fun _ => mild_reads (reads_bailIf _ _)) fun _ => only_pure _

theorem passes_finishRemoval (request : WorktreeRemoveRequest) (record : WorktreeRecord) :
    Passes (finishRemoval request record) :=
  passes_bind (passes_finishBranch request record) fun _ => passes_bind (passes_finishSession _) fun _ =>
    passes_bind (passes_finalizeRemoval _ _) fun _ => passes_pure _

def FailsExcused (past : Trace) : Except Failure WorktreeRemovalResult → Prop
  | .ok _ => True
  | .error _ => Excused past

theorem excused_finishRemoval (excused : Intact past ∨ ∃ before removal, past = before ++ [removal] ∧ removesCheckout removal = true) :
    (finishRemoval request record).wp Possible (AbortsExcused request) FailsExcused past := by
  refine wp_of_ends (wp_of_only (mild_finishRemoval request record) abortsExcused_of_mild) fun trace result _ ends => ?_
  cases result with
  | ok result => trivial
  | error failure =>
    cases excused with
    | inl intact => exact (intact.append (intact_of_mild (mild_finishRemoval request record) ends)).excused
    | inr removed =>
      obtain ⟨before, removal, rfl, removes⟩ := removed
      refine fun _ => ⟨before, removal, trace, ?_, removes, hinders_of_fails (passes_finishRemoval request record) ends⟩
      rw [List.append_assoc, List.singleton_append]

theorem excused_removePrepared (intact : Intact past) :
    (removePrepared request preflight record).wp Possible (AbortsExcused request) FailsExcused past := by
  have fails (later : Trace) (failure : Failure) (still : Intact later) : FailsExcused later (.error failure) := still.excused
  refine wp_bind_of_mild (mild_reads (reads_stage _)) intact fails fun _ _ _ _ intact => ?_
  refine wp_bind_of_mild (only_issued rfl) intact fails fun _ reply _ _ intact => ?_
  refine wp_bind_of_mild (mild_reads (reads_orBail reply)) intact fails fun _ _ _ _ intact => ?_
  refine wp_bind_of_mild (mild_reads reads_checkCancelled) intact fails fun _ _ _ _ intact => ?_
  refine wp_bind_of_mild (mild_reads (reads_isMissing _ _)) intact fails fun _ missing _ _ intact => ?_
  cases missing with
  | true => exact wp_bind.2 (wp_pure.2 (excused_finishRemoval (.inl intact)))
  | false =>
    change (removeCheckout request preflight record >>= fun _ => finishRemoval request record).wp _ _ _ _
    refine wp_bind.2 ?_
    have failsHere (later : Trace) (failure : Failure) (still : Intact later) :
        Then Possible (AbortsExcused request) FailsExcused (fun _ => finishRemoval request record) later
          (.error failure : Except Failure Unit) :=
      still.excused
    refine wp_bind_of_mild (mild_reads (reads_resolveRepository _)) intact failsHere fun _ repository _ _ intact => ?_
    refine wp_bind_of_mild (mild_reads (reads_nativeSnapshot _ _)) intact failsHere fun _ snapshot _ _ intact => ?_
    refine wp_bind_of_mild (mild_reads (reads_orBail _)) intact failsHere fun _ _ _ _ intact => ?_
    refine wp_bind_of_mild (mild_reads (reads_stage _)) intact failsHere fun trace _ _ _ intact => ?_
    refine wp_bind.2 (wp_bind.2 (wp_issue.2 ⟨trivial, fun reply _ => wp_pure.2 ?_⟩))
    cases reply with
    | ok output => exact wp_pure.2 (wp_pure.2 (excused_finishRemoval (.inr ⟨_, _, rfl, rfl⟩)))
    | error failure =>
      refine wp_fail.2 (Intact.excused (intact.append fun event member => ?_))
      rw [List.mem_singleton.1 member]
      rfl

theorem excused_abortAfter (failure : Failure) (isPrepared : IsPrepared request record) (excused : Excused past) :
    (abortAfter record failure).wp Possible (AbortsExcused request) (fun _ _ => True) past := by
  have aborts : (abortRemoval record.id record.instanceId).wp Possible (AbortsExcused request) (fun _ _ => True) past := by
    refine wp_bind.2 (wp_bind.2 (wp_issue.2 ⟨⟨isPrepared.id, isPrepared.instanceId, excused⟩, fun reply _ => wp_pure.2 ?_⟩))
    cases reply with
    | ok changed => exact wp_pure.2 (wp_of_only (mild_reads (reads_bailIf _ _)) abortsExcused_of_mild)
    | error e => exact wp_fail.2 trivial
  refine wp_bind.2 (wp_attempt.2 (wp_mono aborts fun later aborted _ => ?_))
  cases aborted with
  | ok _ => exact wp_fail.2 trivial
  | error abort => exact wp_fail.2 trivial

theorem excused_removeClaimed (runtime : WorktreeRuntimeBlockers) (intact : Intact past) :
    (removeClaimed request runtime).wp Possible (AbortsExcused request) (fun _ _ => True) past := by
  have fails (later : Trace) (failure : Failure) (_ : Intact later) : True := trivial
  refine wp_bind_of_mild (mild_reads (reads_stage _)) intact fails fun _ _ _ _ intact => ?_
  refine wp_bind_of_mild (mild_reads (reads_removalPreflight _ _)) intact fails fun _ preflight _ _ intact => ?_
  refine wp_bind_of_mild (mild_reads (reads_validateRemovalAcknowledgements _ _)) intact fails fun _ _ _ _ intact => ?_
  have asks : Mild (sql (.prepareRemoval request.worktreeId request.expectedInstanceId)) :=
    only_bind (only_issued rfl) fun reply => mild_reads (reads_orBail reply)
  refine wp_bind_of_mild asks intact fails fun trace record possible answers intact => ?_
  have trace := ends_sql answers
  subst trace
  have isPrepared := isPrepared_of_possible (possible _ List.mem_cons_self)
  refine wp_bind.2 (wp_attempt.2 (wp_mono (excused_removePrepared intact) fun later attempted failed => ?_))
  cases attempted with
  | ok result => exact wp_pure.2 trivial
  | error failure => exact excused_abortAfter failure isPrepared failed

theorem excused_remove (request : WorktreeRemoveRequest) (runtime : WorktreeRuntimeBlockers) :
    (remove request runtime).wp Possible (AbortsExcused request) (fun _ _ => True) [] := by
  have intact : Intact [] := fun _ none => absurd none List.not_mem_nil
  have free (past : Trace) (i : Instr) (reads : i.reads = true) : AbortsExcused request past i :=
    abortsExcused_of_mild past i (mild_of_reads i reads)
  refine wp_bind_of_mild (mild_reads (reads_bailIf _ _)) intact (fun _ _ _ => trivial) fun trace _ _ _ intact => ?_
  refine wp_claimed free fun reply => wp_recorded free (excused_removeClaimed runtime ?_)
  refine intact.append fun event member => ?_
  rw [List.mem_singleton.1 member]
  rfl

end Removals

/-- A step after the removal of the checkout is hindered, and then the record, which is in removal, is given back. -/
def Strands (id instanceId : String) (history : History) : Prop :=
  ∃ past moment later, history = past ++ moment :: later ∧ HinderedAfterRemoval (History.trace past) ∧
    GivesBack id instanceId moment

/-- A removal never makes the record of a checkout active that it has removed, if and only if none of its steps after
that is hindered while the record can be given back. -/
theorem restoresOnlyIntact_iff (request : WorktreeRemoveRequest) (runtime : WorktreeRuntimeBlockers) {history : History}
    {result : Except Failure (Performed WorktreeRemovalResult)} (ends : (remove request runtime).Ends history.trace result) :
    RestoresOnlyIntact request.worktreeId history ↔
      ¬Strands request.worktreeId request.expectedInstanceId history := by
  constructor
  · intro restores strands
    obtain ⟨past, moment, later, rfl, ⟨before, removal, after, split, removes, _⟩, s, row, answer, rfl, found, right,
      removing⟩ := strands
    have kept := restores past _ later rfl (abortRemoval_activates found right removing answer) removal <| by
      rw [split]
      exact List.mem_append_right _ List.mem_cons_self
    exact nomatch removes.symm.trans kept
  · intro free past moment later split activates event member
    subst split
    by_contra removes
    have issues : (remove request runtime).Issues (History.trace past) moment.instr := by
      have whole : History.trace (past ++ moment :: later) =
          History.trace past ++ moment.event Instr.execute :: History.trace later := List.map_append
      rw [whole] at ends
      exact ends.issues
    have excused := (wp_iff.1 (excused_remove request runtime)).1 _ _ possible_of_history issues
    obtain ⟨s, i, answer⟩ := moment
    rw [List.nil_append] at excused
    obtain mild | ⟨_, _, _, rfl⟩ | ⟨rfl, excuse⟩ := excused.cases
    · obtain ⟨⟨row, found, inactive⟩, row', there, active⟩ := activates
      exact lifecycle_of_mild mild found inactive there active
    · obtain ⟨⟨row, found, inactive⟩, row', there, active⟩ := activates
      cases found.symm.trans there
      exact inactive active
    · have hindered := excuse fun intact => removes (intact event member)
      exact free ⟨past, _, later, rfl, hindered, givesBack_of_activates activates⟩

section Stranded

def bound : WorktreeRecord :=
  { unmerged ⟨1, "worktree", "instance", false, false, none, []⟩ otherHead with
    repositoryId := "/repository/.git"
    branch := ""
    sessionId := some "session"
    lifecycle := .active
    exists_ := true
    normalizedWorktreePath := "/worktree"
    gitDirIdentity := "/repository/.git/worktrees/worktree" }

def removing : WorktreeRemoveRequest := ⟨1, "worktree", "instance", false, false, none, []⟩

/-- Git does all that it is asked, and the session cannot be closed. -/
def sessionFails : (i : Instr) → i.Reply
  | .scanNativeWorktrees _ =>
    .ok [{ checkout "/worktree" with branch := none, gitDirIdentity := "/repository/.git/worktrees/worktree" }]
  | .git _ .showToplevel => .ok (printed "/repository")
  | .git _ .gitCommonDir => .ok (printed "/repository/.git")
  | .git _ .gitDir => .ok (printed "/repository/.git/worktrees/worktree")
  | .git _ (.revParseCommit _) => .ok (printed otherHead)
  | .git _ .symbolicRef => .error (.exit "exit code 1" { printed "" with exitCode := some 1 })
  | .git _ _ => .ok (printed "")
  | .symlinkMetadata _ => .found true false
  | .finalizeSession _ => .error "the sessions cannot be written"
  | i => (Surroundings.mk repository [] "id").answer i

def strandedHistory : History :=
  passage Instr.execute sessionFails (holding bound) (remove removing ⟨false, false⟩)

theorem strandedHistory_long : 37 < strandedHistory.length := by decide +kernel

/-- The checkout is removed, closing the session fails, and the record is active. -/
theorem strandedHistory_restores :
    (∃ failure, (remove removing ⟨false, false⟩).Ends strandedHistory.trace (.error failure)) ∧
    ¬RestoresOnlyIntact removing.worktreeId strandedHistory := by
  constructor
  · have ends := ends_passage Instr.execute sessionFails (holding bound) (remove removing ⟨false, false⟩)
    have fails : (outcome Instr.execute sessionFails (holding bound) (remove removing ⟨false, false⟩)).toBool = false := by
      decide +kernel
    cases ended : outcome Instr.execute sessionFails (holding bound) (remove removing ⟨false, false⟩) with
    | ok result =>
      rw [ended] at fails
      cases fails
    | error failure =>
      rw [ended] at ends
      exact ⟨failure, ends⟩
  · intro restores
    have split : strandedHistory =
        strandedHistory.take 37 ++ strandedHistory.get ⟨37, strandedHistory_long⟩ :: strandedHistory.drop 38 := by
      rw [List.get_eq_getElem, ← List.drop_eq_getElem_cons, List.take_append_drop]
    have activates : Activates removing.worktreeId (strandedHistory.get ⟨37, strandedHistory_long⟩) :=
      ⟨⟨{ bound with lifecycle := .removing }, by decide +kernel, by decide⟩, bound, by decide +kernel, rfl⟩
    have removed : (History.trace (strandedHistory.take 37)).any removesCheckout = true := by decide +kernel
    obtain ⟨event, member, removes⟩ := List.any_eq_true.1 removed
    exact nomatch removes.symm.trans (restores _ _ _ split activates event member)

/-- It is known of this run by what it has been answered. -/
theorem restoresOnlyIntact_iff_stranded : RestoresOnlyIntact removing.worktreeId strandedHistory ↔
    ¬Strands removing.worktreeId removing.expectedInstanceId strandedHistory :=
  restoresOnlyIntact_iff removing ⟨false, false⟩
    (ends_passage Instr.execute sessionFails (holding bound) (remove removing ⟨false, false⟩))

end Stranded

end VibeLink.Worktrees
