import VibeLink.Relational.Runs
import VibeLink.Worktrees.Calls
import VibeLink.Worktrees.Creation

/-! The ledger of operations (`worktree_operations` in `app/git/worktree_registry.rs`): who may carry an operation out,
and what the others are told of it. -/

namespace VibeLink.Worktrees

open Relational

inductive OperationStatus
  | running | completed | failed | cancelled
  deriving DecidableEq

structure OperationRow where
  operationId : Nat
  kind : String
  stage : String
  status : OperationStatus
  requestHash : String
  requestJson : String
  resultJson : Option String
  error : Option String
  deriving DecidableEq

def operationStages : List String :=
  ["validating", "fetching", "creating", "copying", "sparse", "setup", "configuring", "binding", "launching", "moving",
    "cleaning", "removing", "complete", "rolling_back", "failed", "cancelled"]

def validateOperationStage (stage : String) : Except String Unit :=
  if operationStages.contains stage then .ok () else .error s!"invalid worktree operation stage: {stage}"

def boundedError (value : String) : String := String.ofList (value.toList.take 4096)

structure Ledger where
  operations : Table OperationRow.operationId
  /-- `CANCELLATION_FLAGS` of the process -/
  flags : Nat → Option Bool

namespace Ledger

def empty : Ledger := ⟨.empty, fun _ => none⟩

variable (digest : String → String) (s : Ledger)

def claimOperation (operationId : Nat) (kind requestJson : String) : Ledger × Except String OperationClaim :=
  match s.operations.find operationId with
  | some stored =>
    if stored.requestHash ≠ digest requestJson then (s, .error "operation id conflict")
    else (s, .ok (.replay stored.resultJson stored.error))
  | none => match s.operations.insert?
      ⟨operationId, kind, "validating", .running, digest requestJson, requestJson, none, none⟩ with
    | some operations => ({ s with operations }, .ok .claimed)
    | none => (s, .error "UNIQUE constraint failed")

def isRunning (operationId : Nat) (row : OperationRow) : Bool := row.operationId == operationId && row.status == .running

/-- `UPDATE worktree_operations SET f WHERE operation_id=? AND status='running'`, and how many rows it has changed. -/
def updateRunning (operationId : Nat) (f : OperationRow → OperationRow)
    (same : ∀ row, (f row).operationId = row.operationId := by intro row; rfl) : Ledger × Nat :=
  ({ s with operations := s.operations.update (isRunning operationId) f same },
    s.operations.rows.countP (isRunning operationId))

def operationStage (operationId : Nat) (stage : String) : Ledger × Except String Unit :=
  match validateOperationStage stage with
  | .error e => (s, .error e)
  | .ok () => ((s.updateRunning operationId fun row => { row with stage }).1, .ok ())

def completed (resultJson : String) (row : OperationRow) : OperationRow :=
  { row with stage := "complete", status := .completed, resultJson := some resultJson, error := none }

def completeOperation (operationId : Nat) (resultJson : String) : Ledger × Except String Unit :=
  match s.updateRunning operationId (completed resultJson) with
  | (s', changed) => if changed ≠ 1 then (s', .error "worktree operation is not running") else (s', .ok ())

def failed (stage error : String) (row : OperationRow) : OperationRow :=
  { row with
    stage
    status := if stage = "cancelled" then .cancelled else .failed
    error := some (boundedError error) }

def failOperation (operationId : Nat) (stage error : String) : Ledger × Except String Unit :=
  match validateOperationStage stage with
  | .error e => (s, .error e)
  | .ok () => ((s.updateRunning operationId (failed stage error)).1, .ok ())

/-- Whether a running operation of this process has been asked to stop. -/
def requestCancel (operationId : Nat) : Ledger × Bool :=
  if s.operations.rows.any (isRunning operationId) then match s.flags operationId with
    | some _ => ({ s with flags := Function.update s.flags operationId (some true) }, true)
    | none => (s, false)
  else (s, false)

def cancellationFlag (operationId : Nat) : Ledger :=
  { s with flags := Function.update s.flags operationId (some ((s.flags operationId).getD false)) }

def clearCancellation (operationId : Nat) : Ledger := { s with flags := Function.update s.flags operationId none }

end Ledger

/-- What is asked of the ledger; a new process has no flags. -/
inductive LedgerCall
  | claimOperation (operationId : Nat) (kind requestJson : String)
  | operationStage (operationId : Nat) (stage : String)
  | completeOperation (operationId : Nat) (resultJson : String)
  | failOperation (operationId : Nat) (stage error : String)
  | requestCancel (operationId : Nat)
  | cancellationFlag (operationId : Nat)
  | clearCancellation (operationId : Nat)
  | restart
  /-- The database fails, and nothing is changed. -/
  | databaseFails

namespace Ledger

variable (digest : String → String) (s : Ledger)

def next : LedgerCall → Ledger
  | .claimOperation operationId kind requestJson => (s.claimOperation digest operationId kind requestJson).1
  | .operationStage operationId stage => (s.operationStage operationId stage).1
  | .completeOperation operationId resultJson => (s.completeOperation operationId resultJson).1
  | .failOperation operationId stage error => (s.failOperation operationId stage error).1
  | .requestCancel operationId => (s.requestCancel operationId).1
  | .cancellationFlag operationId => s.cancellationFlag operationId
  | .clearCancellation operationId => s.clearCancellation operationId
  | .restart => { s with flags := fun _ => none }
  | .databaseFails => s

def run (calls : List LedgerCall) : Ledger := calls.foldl (next digest) s

section Rows

variable {digest : String → String} {s t u : Ledger} {operationId id : Nat} {row : OperationRow}

theorem find_updateRunning {f : OperationRow → OperationRow} {same : ∀ row, (f row).operationId = row.operationId} :
    (s.updateRunning operationId f same).1.operations.find =
      modifyAll s.operations.find fun row => if isRunning operationId row then f row else row :=
  Table.find_update s.operations (isRunning operationId) f same

/-- What a row keeps, all of it once it has settled. -/
structure Keeps (row row' : OperationRow) : Prop where
  hash : row'.requestHash = row.requestHash
  settled : row.status ≠ .running → row' = row

def Later (s t : Ledger) : Prop :=
  ∀ id row, s.operations.find id = some row → ∃ row', t.operations.find id = some row' ∧ Keeps row row'

theorem Later.refl (s : Ledger) : Later s s := fun _ row found => ⟨row, found, rfl, fun _ => rfl⟩

theorem Later.trans (first : Later s t) (second : Later t u) : Later s u := by
  intro id row found
  obtain ⟨row', found', keeps⟩ := first id row found
  obtain ⟨row'', found'', keeps'⟩ := second id row' found'
  refine ⟨row'', found'', keeps'.hash.trans keeps.hash, fun settled => ?_⟩
  have same := keeps.settled settled
  subst same
  exact keeps'.settled settled

theorem later_of_same (same : t.operations = s.operations) : Later s t := by
  intro id row found
  exact ⟨row, same ▸ found, rfl, fun _ => rfl⟩

theorem later_updateRunning {f : OperationRow → OperationRow} {same : ∀ row, (f row).operationId = row.operationId}
    (hash : ∀ row, (f row).requestHash = row.requestHash) : Later s (s.updateRunning operationId f same).1 := by
  intro id row found
  refine ⟨if isRunning operationId row then f row else row, ?_, ?_, fun settled => ?_⟩
  · rw [find_updateRunning, modifyAll, found]
    rfl
  · split
    · exact hash row
    · rfl
  · rw [if_neg]
    simp [isRunning, settled]

def Bare (s : Ledger) : Prop :=
  ∀ id row, s.operations.find id = some row → row.status = .running → row.resultJson = none ∧ row.error = none

theorem bare_updateRunning {f : OperationRow → OperationRow} {same : ∀ row, (f row).operationId = row.operationId}
    (bare : Bare s) (outcome : ∀ row, (f row).status = .running →
      (f row).resultJson = row.resultJson ∧ (f row).error = row.error) : Bare (s.updateRunning operationId f same).1 := by
  intro id row' found running
  rw [find_updateRunning, modifyAll_eq_some] at found
  obtain ⟨row, there, rfl⟩ := found
  by_cases runs : isRunning operationId row = true
  · rw [if_pos runs] at running ⊢
    have before : row.status = .running := by
      simp only [isRunning, Bool.and_eq_true, beq_iff_eq] at runs
      exact runs.2
    rw [(outcome row running).1, (outcome row running).2]
    exact bare id row there before
  · rw [if_neg runs] at running ⊢
    exact bare id row there running

theorem failed_status (stage error : String) (row : OperationRow) : (failed stage error row).status ≠ .running := by
  unfold failed
  split <;> exact OperationStatus.noConfusion

theorem completeOperation_fst (operationId : Nat) (resultJson : String) :
    (s.completeOperation operationId resultJson).1 = (s.updateRunning operationId (completed resultJson)).1 := by
  unfold completeOperation
  dsimp only
  split <;> rfl

theorem claimOperation_cases (digest : String → String) (s : Ledger) (operationId : Nat) (kind request : String) :
    (∃ row, s.operations.find operationId = some row ∧ s.claimOperation digest operationId kind request =
      (s, if row.requestHash = digest request then .ok (.replay row.resultJson row.error)
        else .error "operation id conflict")) ∨
    (s.operations.find operationId = none ∧ (s.claimOperation digest operationId kind request).2 = .ok .claimed ∧
      (s.claimOperation digest operationId kind request).1.operations.find = Function.update s.operations.find operationId
        (some ⟨operationId, kind, "validating", .running, digest request, request, none, none⟩)) := by
  unfold claimOperation
  cases found : s.operations.find operationId with
  | some row =>
    refine .inl ⟨row, rfl, ?_⟩
    dsimp only
    by_cases same : row.requestHash = digest request <;> simp [same]
  | none =>
    right
    obtain ⟨operations, inserted⟩ := Table.exists_insert (t := s.operations)
      (a := ⟨operationId, kind, "validating", .running, digest request, request, none, none⟩) found
    dsimp only
    rw [inserted]
    exact ⟨rfl, rfl, Table.find_insert inserted⟩

theorem later_claimOperation (operationId : Nat) (kind request : String) :
    Later s (s.claimOperation digest operationId kind request).1 := by
  obtain ⟨row, _, same⟩ | ⟨fresh, _, there⟩ := claimOperation_cases digest s operationId kind request
  · rw [same]
    exact .refl s
  · intro id row found
    refine ⟨row, ?_, rfl, fun _ => rfl⟩
    rw [there, Function.update_of_ne]
    · exact found
    · rintro rfl
      exact nomatch fresh.symm.trans found

theorem bare_claimOperation (bare : Bare s) (operationId : Nat) (kind request : String) :
    Bare (s.claimOperation digest operationId kind request).1 := by
  obtain ⟨row, _, same⟩ | ⟨fresh, _, there⟩ := claimOperation_cases digest s operationId kind request
  · rw [same]
    exact bare
  · intro id row found running
    rw [there, update_eq_some] at found
    obtain ⟨_, rfl⟩ | ⟨_, found⟩ := found
    · exact ⟨rfl, rfl⟩
    · exact bare id row found running

theorem kept_next (call : LedgerCall) : Later s (s.next digest call) ∧ (Bare s → Bare (s.next digest call)) := by
  cases call with
  | claimOperation operationId kind request =>
    exact ⟨later_claimOperation operationId kind request, fun bare => bare_claimOperation bare operationId kind request⟩
  | operationStage operationId stage =>
    dsimp only [next, operationStage]
    cases validateOperationStage stage with
    | error e => exact ⟨.refl s, fun bare => bare⟩
    | ok _ => exact ⟨later_updateRunning fun _ => rfl, fun bare => bare_updateRunning bare fun _ _ => ⟨rfl, rfl⟩⟩
  | completeOperation operationId result =>
    dsimp only [next]
    rw [completeOperation_fst]
    exact ⟨later_updateRunning fun _ => rfl, fun bare => bare_updateRunning bare fun _ running => nomatch running⟩
  | failOperation operationId stage error =>
    dsimp only [next, failOperation]
    cases validateOperationStage stage with
    | error e => exact ⟨.refl s, fun bare => bare⟩
    | ok _ =>
      refine ⟨later_updateRunning fun _ => rfl, fun bare => bare_updateRunning bare fun row running => ?_⟩
      exact absurd running (failed_status stage error row)
  | requestCancel operationId =>
    have same : (s.requestCancel operationId).1.operations = s.operations := by
      unfold requestCancel
      split
      · split <;> rfl
      · rfl
    exact ⟨later_of_same same, fun bare id row found => bare id row (same ▸ found)⟩
  | cancellationFlag operationId => exact ⟨later_of_same rfl, fun bare => bare⟩
  | clearCancellation operationId => exact ⟨later_of_same rfl, fun bare => bare⟩
  | restart => exact ⟨later_of_same rfl, fun bare => bare⟩
  | databaseFails => exact ⟨.refl s, fun bare => bare⟩

theorem kept_run (calls : List LedgerCall) : Later s (s.run digest calls) ∧ (Bare s → Bare (s.run digest calls)) := by
  induction calls generalizing s with
  | nil => exact ⟨.refl s, fun bare => bare⟩
  | cons call calls ih =>
    have first := @kept_next digest s call
    have rest := ih (s := s.next digest call)
    exact ⟨first.1.trans rest.1, fun bare => rest.2 (first.2 bare)⟩

end Rows

variable {digest : String → String} {s : Ledger} {operationId : Nat}

/-- What the callers of a claimed operation get from then on. -/
structure Answered (digest : String → String) (s : Ledger) (later : List LedgerCall) (operationId : Nat)
    (request : String) (row : OperationRow) : Prop where
  found : s.operations.find operationId = some row
  once : ∀ kind' request', (s.claimOperation digest operationId kind' request').2 ≠ .ok .claimed
  replays : ∀ kind', s.claimOperation digest operationId kind' request = (s, .ok (.replay row.resultJson row.error))
  conflicts : ∀ kind' request', request' ≠ request →
    s.claimOperation digest operationId kind' request' = (s, .error "operation id conflict")
  bare : row.status = .running → row.resultJson = none ∧ row.error = none
  completes : row.status = .running → ∀ result, (s.completeOperation operationId result).2 = .ok () ∧
    (s.completeOperation operationId result).1.operations.find operationId = some (completed result row)
  fails : row.status = .running → ∀ stage error, validateOperationStage stage = .ok () →
    (s.failOperation operationId stage error).1.operations.find operationId = some (failed stage error row)
  settled : row.status ≠ .running → (s.run digest later).operations.find operationId = some row

theorem countP_isRunning {row : OperationRow} (found : s.operations.find operationId = some row)
    (running : row.status = .running) : s.operations.rows.countP (isRunning operationId) = 1 := by
  have counted := Table.countP_erase s.operations operationId (isRunning operationId)
  have others : (s.operations.erase operationId).rows.countP (isRunning operationId) = 0 := by
    rw [List.countP_eq_zero]
    intro other member
    have apart := (List.mem_filter.1 member).2
    simp only [decide_eq_true_eq] at apart
    simp [isRunning, apart]
  have named : row.operationId = operationId := Table.key_of_find found
  rw [others, found] at counted
  rw [← counted]
  simp [isRunning, named, running]

theorem updated_row {f : OperationRow → OperationRow} {same : ∀ row, (f row).operationId = row.operationId}
    {row : OperationRow} (found : s.operations.find operationId = some row) (running : row.status = .running) :
    (s.updateRunning operationId f same).1.operations.find operationId = some (f row) := by
  have named : row.operationId = operationId := Table.key_of_find found
  rw [find_updateRunning, modifyAll, found, Option.map_some, if_pos]
  simp [isRunning, named, running]

/-- A claimed operation is claimed once, with one request whatever the kind, and has one outcome. -/
theorem operations_settle (digest : String → String) (distinct : Function.Injective digest)
    (before after later : List LedgerCall) (operationId : Nat) (kind request : String)
    (claimed : ((run digest .empty before).claimOperation digest operationId kind request).2 = .ok .claimed) :
    ∃ row, Answered digest (run digest ((run digest .empty before).claimOperation digest operationId kind request).1 after)
      later operationId request row := by
  obtain ⟨row, _, same⟩ | ⟨_, _, there⟩ :=
    claimOperation_cases digest (run digest .empty before) operationId kind request
  · rw [same] at claimed
    dsimp only at claimed
    split at claimed
    · exact nomatch claimed
    · exact nomatch claimed
  · have bare : Bare (run digest .empty before) := (kept_run before).2 fun _ _ found => nomatch found
    have stays := @kept_run digest ((run digest .empty before).claimOperation digest operationId kind request).1 after
    obtain ⟨row, found, keeps⟩ := stays.1 operationId _ (by rw [there, Function.update_self])
    have hash : row.requestHash = digest request := keeps.hash
    have bare := stays.2 (bare_claimOperation bare operationId kind request)
    generalize run digest ((run digest .empty before).claimOperation digest operationId kind request).1 after = s at *
    have again (kind' request' : String) : s.claimOperation digest operationId kind' request' =
        (s, if row.requestHash = digest request' then .ok (.replay row.resultJson row.error)
          else .error "operation id conflict") := by
      obtain ⟨row', found', same⟩ | ⟨none_, _⟩ := claimOperation_cases digest s operationId kind' request'
      · cases found.symm.trans found'
        exact same
      · exact nomatch found.symm.trans none_
    refine ⟨row, found, ?_, ?_, ?_, bare operationId row found, ?_, ?_, ?_⟩
    · intro kind' request' claims
      rw [again] at claims
      dsimp only at claims
      split at claims
      · exact nomatch claims
      · exact nomatch claims
    · intro kind'
      rw [again, if_pos hash]
    · intro kind' request' different
      rw [again, if_neg]
      rw [hash]
      exact fun same => different (distinct same).symm
    · intro running result
      rw [completeOperation_fst]
      refine ⟨?_, updated_row found running⟩
      have changed : (s.updateRunning operationId (completed result)).2 = 1 := countP_isRunning found running
      unfold completeOperation
      dsimp only
      rw [changed]
      rfl
    · intro running stage error valid
      unfold failOperation
      rw [valid]
      exact updated_row found running
    · intro settled
      obtain ⟨row', found', keeps⟩ := (@kept_run digest _ later).1 operationId row found
      rw [found', keeps.settled settled]

theorem operations_settle_first : ∃ row, Answered id
    (run id ((run id .empty []).claimOperation id 1 "create" "{}").1 []) [] 1 "{}" row :=
  operations_settle id Function.injective_id [] [] [] 1 "create" "{}" rfl

/-- The kind of the operation is not compared. -/
theorem other_kind_replays : ((run id .empty [.claimOperation 1 "create" "{}"]).claimOperation id 1 "remove" "{}").2 =
    .ok (.replay none none) := rfl

end Ledger

end VibeLink.Worktrees

/-! The operations on worktrees side by side: one instruction of one of them after another, over one registry. -/

namespace VibeLink.Worktrees

open Relational

inductive Operation
  | create (request : WorktreeCreateRequest)
  | registerCreated (repository : RepositoryIdentity) (native : NativeWorktree) (request : WorktreeCreateRequest)
    (sessionId : Option String)
  | moveCheckout (request : WorktreeMoveRequest)
  | remove (request : WorktreeRemoveRequest) (runtime : WorktreeRuntimeBlockers)
  | set (request : WorktreeSetRequest)
  | importExternal (request : WorktreeImportRequest)
  | checkpoint (request : WorktreeCheckpointRequest)
  | reconcile (request : WorktreeReconcileRequest)
  | list (scratch : String) (request : WorktreeListRequest)

def Call.alone {α : Type} (call : Call α) : Call Unit := do
  let _ ← call

def Operation.program : Operation → Call Unit
  | .create request => (Call.create request).alone
  | .registerCreated repository native request sessionId => (Call.registerCreated repository native request sessionId).alone
  | .moveCheckout request => (Call.moveCheckout request).alone
  | .remove request runtime => (Call.remove request runtime).alone
  | .set request => (Call.set request).alone
  | .importExternal request => (Call.importExternal request).alone
  | .checkpoint request => (Call.checkpoint request).alone
  | .reconcile request => (Call.reconcile request).alone
  | .list scratch request => (Call.list scratch request).alone

/-- Which operation goes on, and what it is told of what the registry does not determine. -/
abbrev Step (κ : Type) : Type := κ × ((i : Instr) → i.Reply)

abbrev Operations (κ : Type) : Type := Pool Registry κ Instr.Reply Failure Unit

namespace Operations

variable {κ : Type} [DecidableEq κ]

def started (s : Registry) (operations : κ → Operation) : Operations κ := Pool.start s fun k => (operations k).program

def next (pool : Operations κ) (step : Step κ) : Operations κ := Pool.next Instr.execute pool step

/-- The statement that the step carries out, unless the database fails. -/
def statement (pool : Operations κ) (step : Step κ) : Option Statement :=
  match (pool.calls step.1).2 with
  | .issue (.sql statement) _ => match step.2 (.sql statement) with
    | .ok _ => some statement
    | .error _ => none
  | _ => none

theorem statement_eq_some {pool : Operations κ} {step : Step κ} {statement : Statement}
    (performed : pool.statement step = some statement) :
    ∃ rest answer, (pool.calls step.1).2 = .issue (.sql statement) rest ∧ step.2 (.sql statement) = .ok answer := by
  unfold Operations.statement at performed
  split at performed
  · rename_i statement' rest issued
    split at performed
    · rename_i answer answers
      cases performed
      exact ⟨rest, answer, issued, answers⟩
    · cases performed
  · cases performed

theorem statement_issued {Allowed : Event → Prop} {P : κ → Trace → Instr → Prop} {pool : Operations κ} {step : Step κ}
    {statement : Statement} (keeps : pool.Keeps Allowed P) (performed : pool.statement step = some statement) :
    P step.1 (pool.calls step.1).1 (.sql statement) := by
  obtain ⟨rest, _, issued, _⟩ := statement_eq_some performed
  have goes := keeps step.1
  rw [issued] at goes
  exact (Program.wp_issue.1 goes).1

theorem state_next (pool : Operations κ) (step : Step κ) : (pool.next step).state =
    (pool.statement step).elim pool.state fun statement => (statement.perform pool.state).1 := by
  unfold next statement
  cases issued : (pool.calls step.1).2 with
  | pure a =>
    rw [Pool.next_of_not_issue fun i rest issues => nomatch issued.symm.trans issues]
    rfl
  | fail e =>
    rw [Pool.next_of_not_issue fun i rest issues => nomatch issued.symm.trans issues]
    rfl
  | issue i rest =>
    rw [Pool.next_of_issue issued]
    cases i with
    | sql statement =>
      dsimp only
      cases step.2 (.sql statement) <;> rfl
    | _ => rfl

/-- Each statement of the run meets `P` in the registry that it finds. -/
def Meets (P : Registry → Statement → Prop) (pool : Operations κ) (steps : List (Step κ)) : Prop :=
  Throughout next (fun pool step => ∀ statement ∈ pool.statement step, P pool.state statement) pool steps

def run (pool : Operations κ) (steps : List (Step κ)) : Operations κ := steps.foldl next pool

theorem run_keeps {I : Registry → Prop} {P : Registry → Statement → Prop} {pool : Operations κ} {steps : List (Step κ)}
    (keeps : ∀ s statement, I s → P s statement → I (statement.perform s).1) (start : I pool.state)
    (meets : pool.Meets P steps) : I (pool.run steps).state := by
  refine run_invariant (I := fun pool : Operations κ => I pool.state) (fun pool step holds may => ?_) start meets
  rw [state_next]
  cases performed : pool.statement step with
  | none => exact holds
  | some statement => exact keeps pool.state statement holds (may statement performed)

end Operations

deriving instance Inhabited for WorktreeOrigin, WorktreeLifecycle, WorktreeRecord

def Statement.anyAnswer : (statement : Statement) → statement.Answer
  | .readRecord _ | .readRecordByPath _ _ | .readRecordBySession _ => none
  | .readRecords _ => []
  | .prepareRemoval _ _ | .set _ _ _ => default
  | .finalizeRemoval _ _ | .abortRemoval _ _ | .updateRecordFromNative _ _ _ _ | .renewInstance _ _ _ _ _
  | .setReconcileLifecycle _ _ | .setUnmatched _ _ _ | .insertRecord _ | .insertOrIgnore _ | .bindLegacySession _ _ _
  | .rebindImported _ _ _ _ _ _ | .bindSession _ _ _ | .compareAndSwapPath _ _ _ _ | .removeMetadataIfInstance _ _ =>
    (0 : Nat)

/-- Surroundings to try the operations in: the checkouts of a repository, where nothing fails but Git. -/
structure Surroundings where
  repository : RepositoryIdentity
  checkouts : List NativeWorktree
  uuid : String

def Surroundings.answer (around : Surroundings) : (i : Instr) → i.Reply
  | .sql statement => .ok statement.anyAnswer
  | .git _ _ | .setup _ _ => .error (.spawn "git")
  | .read _ _ => .ok none
  | .scanNativeWorktrees _ => .ok around.checkouts
  | .resolveRepositoryIdentity _ => .ok around.repository
  | .normalizePathForComparison path | .sha256Hex path => path
  | .newUuid => around.uuid
  | .pathEntryExists _ | .isCancelled => false
  | .symlinkMetadata _ => .missing
  | .canonicalize path | .gitPath _ path | .slugName path | .resolveRoot path => .ok path
  | .operationStage _ | .completeOperation | .failOperation _ _ | .insertCheckpoint _ _ _ _ _ | .cleanupResources _
  | .removeSession _ | .regularFileSources _ _ => .ok ()
  | .createSession _ => .ok around.uuid
  | .claimOperation _ => .ok .claimed
  | .finalizeSession _ => .ok true
  | .nowMillis => (1 : Nat)
  | .linkedFilePaths files => .ok files
  | .sparsePreset _ _ => .ok []
  | .setupCommand _ _ => .ok none
  | .createSafeDirectoryChain path | .moveDestination _ path => .ok (path, [])
  | .removeDirectories _ | .rollbackCopyJournal _ => ()
  | .copyRegularFiles _ _ files => .ok ⟨files, []⟩

def Surroundings.steps {κ : Type} (repository : RepositoryIdentity) (checkouts : List NativeWorktree) (k : κ) (name : String)
    (count : Nat) : List (Step κ) :=
  (List.range count).map fun i => (k, (Surroundings.mk repository checkouts s!"{name}{i}").answer)

def checkout (path : String) : NativeWorktree where
  worktreePath := path
  normalizedPath := path
  gitDirIdentity := path
  head := "head"
  branch := some path
  detached := false
  bare := false
  locked := false
  lockReason := none
  prunable := false
  prunableReason := none
  exists_ := true
  isMain := false
  dirty := false
  untracked := false
  hasConflicts := false
  ahead := 0
  behind := 0

def repository : RepositoryIdentity := ⟨"repository", "/repository", "/repository/.git", "/repository/.git"⟩

end VibeLink.Worktrees
