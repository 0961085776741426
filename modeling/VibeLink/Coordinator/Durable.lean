import VibeLink.Coordinator.Gates
import VibeLink.Coordinator.Lifecycle

/-! Manual task edits, run decisions and restart recovery (`orchestration/durable.rs`). -/

namespace VibeLink.Coordinator

open VibeLink.Relational

variable (platform : Platform) (env : Env) (operationId : Uuid)

def acknowledgeEvents (request : AcknowledgeEventsRequest) : CoordinatorResult Response := do
  let consumerId ← .ofExcept (required request.consumerId "event consumer id")
  mutate platform env operationId (.acknowledgeEvents request) do
    let _ ← readRun request.runId
    let latest ← .gets fun s => s.latestSequence request.runId
    .require (request.sequence ≤ latest)
      (.invalidArgument s!"cannot acknowledge sequence {request.sequence} beyond latest {latest}")
    let row : EventAcknowledgement :=
      { consumerId, runId := request.runId, acknowledgedSequence := stored request.sequence
        updatedAt := env.now }
    .write fun s =>
      { s with
        acknowledgements := (s.acknowledgements.insert? row).getD
          (s.acknowledgements.update (fun a => decide (a.key = row.key)) fun a =>
            { a with
              acknowledgedSequence := max a.acknowledgedSequence row.acknowledgedSequence
              updatedAt := env.now }) }
    let acknowledged ← .expect (fun s => s.acknowledgements.find row.key)
      (.storage "Query returned no rows")
    pure (.acknowledgement { acknowledged with updatedAt := env.now })

def acknowledgeNotification (notificationId : Uuid) : CoordinatorResult Response :=
  mutate platform env operationId (.acknowledgeNotification notificationId) do
    let _ ← readNotificationById notificationId
    .write fun s =>
      { s with
        notifications := s.notifications.update (fun n => decide (n.id = notificationId)) fun n =>
          { n with unread := false, acknowledgedAt := n.acknowledgedAt.or (some env.now) } }
    let notification ← readNotificationById notificationId
    pure (.notification notification)

/-- `validate_manual_task_transition` -/
def manualTransitionAllowed (current next : OrchestrationTaskStatus) : Bool :=
  decide (current = next) ||
    match current, next with
    | .pending, .ready => true
    | .ready, .blocked => true
    | .failed, .ready => true
    | .blocked, .ready => true
    | _, .cancelled => true
    | _, _ => false

def validateManualTaskTransition (current next : OrchestrationTaskStatus) :
    Except CoordinatorError Unit :=
  if manualTransitionAllowed current next then .ok ()
  else .error (.invalidTransition
    s!"task cannot transition manually from {current.debug} to {next.debug}")

def updateTaskBody (request : UpdateTaskRequest) : CoordinatorResult Response := do
  let run ← readRun request.runId
  requireRunRevision run request.expectedRunRevision
  let task ← readTask request.taskId
  .require (task.runId = run.id) (.conflict "task does not belong to run")
  requireTaskRevision task request.expectedTaskRevision
  let title ← .ofExcept (match request.patch.title with
    | some title => required title "task title"
    | none => .ok task.title)
  let status := request.patch.status.getD task.status
  .ofExcept (validateManualTaskTransition task.status status)
  let task :=
    { task with
      title
      description := request.patch.description.getD task.description
      status
      result := request.patch.result.or task.result
      revision := task.revision + 1
      updatedAt := env.now }
  updateTask task.id fun row =>
    { row with
      title := task.title
      description := task.description
      status := task.status
      revision := task.revision
      result := task.result
      updatedAt := task.updatedAt }
  let run ← bumpRunRevision env run
  insertEvent env operationId (some run.id) "task.updated" (some task.id)
    (.obj [("status", .str (taskStatusText task.status)), ("revision", .nat task.revision)])
  pure (.task task)

def updateTaskOperation (request : UpdateTaskRequest) : CoordinatorResult Response :=
  mutate platform env operationId (.updateTask request) (updateTaskBody env operationId request)

def retryTask (request : RetryTaskRequest) : CoordinatorResult Response :=
  mutate platform env operationId (.retryTask request) do
    let run ← readRun request.runId
    requireRunRevision run request.expectedRunRevision
    let task ← readTask request.taskId
    requireTaskRevision task request.expectedTaskRevision
    .require (task.runId = run.id) (.conflict "task does not belong to run")
    .require (task.status = .failed ∨ task.status = .blocked ∨ task.status = .cancelled)
      (.invalidTransition s!"task {task.id} cannot retry from {task.status.debug}")
    let dependencies ← .gets fun s => s.dependencyStatuses task.id
    let next :=
      if dependencies.all (fun status => decide (status = .completed)) then
        OrchestrationTaskStatus.ready
      else .pending
    updateTask task.id fun row =>
      { row with
        status := next
        revision := row.revision + 1
        result := none
        updatedAt := env.now }
    let run ←
      if run.status.isTerminal ∨ run.status = .waiting then updateRunStatus env run .running
      else bumpRunRevision env run
    insertEvent env operationId (some run.id) "task.retried" (some task.id)
      (.obj [("status", .str (taskStatusText next))])
    let task ← readTask task.id
    pure (.task task)

def worktreeOrder (a b : WorktreeAssignment) : Bool := decide (a.worktreePath ≤ b.worktreePath)

/-- `SELECT DISTINCT … ORDER BY d.worktree_path` -/
def Store.worktreesForRun (s : Store) (runId : Uuid) : List WorktreeAssignment :=
  orderBy worktreeOrder
    ((s.dispatches.rows.filter (s.inRun runId)).filterMap DispatchRow.worktree).dedup

def recordDecision (runId : Uuid) (decision : String) (payload : Json) : CoordinatorResult Unit :=
  let row : RunDecisionRow :=
    { runId, decision, payload, revision := 0, createdAt := env.now, updatedAt := env.now }
  .write fun s =>
    { s with
      runDecisions := (s.runDecisions.insert? row).getD
        (s.runDecisions.update (fun r => decide (r.runId = runId)) fun r =>
          { r with decision, payload, revision := r.revision + 1, updatedAt := env.now }) }

def recordRunDecision (request : RunDecisionRequest) (accepted : Bool) :
    CoordinatorResult Response := do
  let decision := if accepted then "accepted" else "rejected"
  mutate platform env operationId (if accepted then .acceptRun request else .rejectRun request) do
    let run ← readRun request.runId
    requireRunRevision run request.expectedRunRevision
    let run ←
      if accepted then do
        let unfinished ← .gets fun s => s.tasks.rows.countP (fun t =>
          decide (t.runId = run.id) && decide (t.status ≠ .completed))
        let pendingGates ← .gets fun s => s.pendingGateCountForRun run.id
        .require (¬(unfinished > 0 ∨ pendingGates > 0))
          (.invalidTransition "run cannot be accepted before every task and gate is complete")
        if run.status ≠ .completed then updateRunStatus env run .completed
        else bumpRunRevision env run
      else do
        cancelActiveRunEntities env run.id
        updateRunStatus env run .cancelled
    recordDecision env run.id decision request.payload
    let worktrees ← .gets fun s => s.worktreesForRun run.id
    insertEvent env operationId (some run.id) (if accepted then "run.accepted" else "run.rejected")
      (some run.id) (.obj [("worktrees", .arr (worktrees.map WorktreeAssignment.json))])
    pure (.decision { run, decision, worktrees })

def acceptRun (request : RunDecisionRequest) : CoordinatorResult Response :=
  recordRunDecision platform env operationId request true

def rejectRun (request : RunDecisionRequest) : CoordinatorResult Response :=
  recordRunDecision platform env operationId request false

/-- Runs that a restart looks at, `ORDER BY created_at,id`. -/
def Store.interruptedRuns (s : Store) : List Uuid :=
  (orderBy
    (fun a b : RunRecord => decide (a.createdAt < b.createdAt) ||
      (decide (a.createdAt = b.createdAt) && decide (a.id ≤ b.id)))
    (s.runs.rows.filter fun r => decide (r.status = .planning ∨ r.status = .running ∨
      r.status = .waiting ∨ r.status = .paused))).map RunRecord.id

/-- `AND status='dispatched'`: a reset task returns to the queue unless it moved on. -/
def resetTask (taskId : Uuid) (observedAt : Nat) : CoordinatorResult Unit :=
  updateTasks (fun t => decide (t.id = taskId) && decide (t.status = .dispatched)) fun t =>
    { t with status := .ready, revision := t.revision + 1, updatedAt := stored observedAt }

def expiredGate (runId : Uuid) (now : Nat) (gate : DecisionGateRecord) : Bool :=
  decide (gate.runId = runId) && decide (gate.status = .pending) &&
    match gate.expiresAt with
    | some expiresAt => decide (expiresAt ≤ asI64 now)
    | none => false

/-- What a restart did with one active dispatch. -/
inductive RestartOutcome where
  | reset (dispatchId : Uuid)
  | resumable (agentId : Uuid)
  | blocked (taskId : Uuid)

/-- One round of the loop over the active dispatches of a run. -/
def restartDispatch (nowMillis : Nat) (active : DispatchRow) : CoordinatorResult RestartOutcome := do
  let dispatch ← readDispatch active.id
  match dispatch.agentInstanceId with
  | none => do
    updateDispatch dispatch.id fun d =>
      { d with
        status := .failed
        failureCode := some "restart_before_launch"
        updatedAt := stored nowMillis }
    resetTask dispatch.taskId nowMillis
    pure (.reset dispatch.id)
  | some agentId => do
    let agent ← readAgent agentId
    if agent.resumable then do
      updateAgent agent.id fun a =>
        { a with status := .reconciling, updatedAt := stored nowMillis }
      updateDispatch dispatch.id fun d =>
        { d with status := .waiting, updatedAt := stored nowMillis }
      pure (.resumable agent.id)
    else do
      updateAgent agent.id fun a => { a with status := .lost, updatedAt := stored nowMillis }
      updateDispatch dispatch.id fun d =>
        { d with
          status := .failed
          failureCode := some "agent_lost"
          updatedAt := stored nowMillis }
      setTaskStatus env dispatch.taskId .blocked (some (.obj [("reason", .str "agent_lost")]))
      pure (.blocked dispatch.taskId)

def gateOrder (a b : DecisionGateRecord) : Bool :=
  decide (a.createdAt < b.createdAt) || (decide (a.createdAt = b.createdAt) && decide (a.id ≤ b.id))

def expireGate (nowMillis : Nat) (gateId : Uuid) : CoordinatorResult Uuid := do
  updateGate gateId fun g => { g with status := .timeout, updatedAt := stored nowMillis }
  pure gateId

def RestartOutcome.resumableAgent : RestartOutcome → Option Uuid
  | .resumable agentId => some agentId
  | _ => none

def RestartOutcome.blockedTask : RestartOutcome → Option Uuid
  | .blocked taskId => some taskId
  | _ => none

def RestartOutcome.resetDispatch : RestartOutcome → Option Uuid
  | .reset dispatchId => some dispatchId
  | _ => none

/-- One round of the loop over the interrupted runs; the event reports all runs so far. -/
def restartRun (nowMillis : Nat) (result : RestartReconciliationResult) (runId : Uuid) :
    CoordinatorResult RestartReconciliationResult := do
  let active ← .gets fun s => s.activeDispatches runId
  let outcomes ← Tx.traverse (restartDispatch env nowMillis) active
  let expired ← .gets fun s =>
    (orderBy gateOrder (s.gates.rows.filter (expiredGate runId nowMillis))).map DecisionGateRecord.id
  let timedOut ← Tx.traverse (expireGate nowMillis) expired
  let result : RestartReconciliationResult :=
    { result with
      resumableAgentIds := result.resumableAgentIds ++ outcomes.filterMap RestartOutcome.resumableAgent
      blockedTaskIds := result.blockedTaskIds ++ outcomes.filterMap RestartOutcome.blockedTask
      resetDispatchIds := result.resetDispatchIds ++ outcomes.filterMap RestartOutcome.resetDispatch
      timedOutGateIds := result.timedOutGateIds ++ timedOut }
  if outcomes ≠ [] ∨ timedOut ≠ [] then do
    let run ← readRun runId
    let run ← bumpRunRevision env run
    let _ ← refreshTerminalRunStatus env run
    insertEvent env operationId (some runId) "run.restart_reconciled" (some runId)
      (.obj [("resumableAgents", .arr (result.resumableAgentIds.map .str)),
        ("blockedTasks", .arr (result.blockedTaskIds.map .str)),
        ("resetDispatches", .arr (result.resetDispatchIds.map .str))])
    pure { result with reconciledRunIds := result.reconciledRunIds ++ [runId] }
  else pure result

def reconcileAfterRestart (request : RestartReconciliationRequest) : CoordinatorResult Response :=
  mutate platform env operationId (.reconcileAfterRestart request) do
    let runIds ← .gets Store.interruptedRuns
    let result ← Tx.fold (restartRun env operationId request.nowMillis)
      { reconciledRunIds := [], resumableAgentIds := [], blockedTaskIds := [], resetDispatchIds := []
        timedOutGateIds := [] }
      runIds
    pure (.restart result)

end VibeLink.Coordinator
