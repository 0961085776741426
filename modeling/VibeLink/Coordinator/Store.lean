import VibeLink.Relational.Transaction
import VibeLink.Coordinator.Requests

namespace VibeLink.Coordinator

open VibeLink.Relational

structure LaunchOperationRow where
  operationId : Uuid
  requestHash : String
  request : DispatchLaunchRequest
  /-- `None` while the operation is in state `intent`, the result once it is `final`. -/
  result : Option DispatchLaunchResult
  plan : ScheduleResult
  createdAt : Nat
  updatedAt : Nat

structure LaunchClaimRow where
  dispatchId : Uuid
  operationId : Uuid
  command : String
  commandDigest : String
  profile : Option String
  worktreeMode : WorktreeMode
  createdAt : Nat

structure ResourceRow extends DispatchResourceRecord where
  dispatchId : Uuid
  operationId : Uuid
  cleanupAttempts : Nat
  updatedAt : Nat

structure OperationRow where
  operationId : Uuid
  requestHash : String
  response : Response
  createdAt : Nat

def EventAcknowledgement.key (a : EventAcknowledgement) : String × Uuid := (a.consumerId, a.runId)

/-- The coordinator's tables; each enforces its primary key. -/
structure Store where
  runs : Table RunRecord.id
  tasks : Table TaskRecord.id
  dispatches : Table DispatchRow.id
  agents : Table AgentInstanceRecord.id
  messages : Table MessageRecord.id
  gates : Table DecisionGateRecord.id
  runEvents : List RunEventRecord
  acknowledgements : Table EventAcknowledgement.key
  notifications : Table NotificationRecord.id
  runDecisions : Table RunDecisionRow.runId
  launchOperations : Table LaunchOperationRow.operationId
  launchClaims : Table LaunchClaimRow.dispatchId
  resources : Table ResourceRow.dispatchId
  operations : Table OperationRow.operationId

def Store.empty : Store where
  runs := .empty
  tasks := .empty
  dispatches := .empty
  agents := .empty
  messages := .empty
  gates := .empty
  runEvents := []
  acknowledgements := .empty
  notifications := .empty
  runDecisions := .empty
  launchOperations := .empty
  launchClaims := .empty
  resources := .empty
  operations := .empty

/-- What the coordinator takes from its libraries: SHA-256 of the JSON of a request with
its kind, SHA-256 of a text, and the UUID parser. -/
structure Platform where
  requestHash : Op → String
  digestHex : String → String
  isUuid : String → Bool

/-- The clock and the random ids that one call sees. -/
structure Env where
  now : Nat
  uuid : Nat → Uuid

abbrev CoordinatorResult := Tx Store CoordinatorError

/-- Unicode `White_Space`, as `str::trim` uses it. -/
def isWhiteSpace (c : Char) : Bool :=
  let n := c.toNat
  (9 ≤ n && n ≤ 13) || n == 32 || n == 0x85 || n == 0xA0 || n == 0x1680 ||
    (0x2000 ≤ n && n ≤ 0x200A) || n == 0x2028 || n == 0x2029 || n == 0x202F || n == 0x205F ||
    n == 0x3000

def trim (value : String) : String :=
  String.ofList ((value.toList.dropWhile isWhiteSpace).reverse.dropWhile isWhiteSpace).reverse

def required (value field : String) : Except CoordinatorError String :=
  if trim value = "" then .error (.invalidArgument s!"{field} is required") else .ok (trim value)

def trimOptional (value : Option String) : Option String :=
  (value.map trim).filter (fun text => decide (text ≠ ""))

namespace Store

def taskRun (s : Store) (taskId : Uuid) : Option Uuid := (s.tasks.find taskId).map TaskRecord.runId

/-- `JOIN orchestration_tasks t ON t.id=d.task_id WHERE t.run_id=?1` -/
def inRun (s : Store) (runId : Uuid) (dispatch : DispatchRow) : Bool :=
  decide (s.taskRun dispatch.taskId = some runId)

def taskPosition (s : Store) (dispatch : DispatchRow) : Nat :=
  ((s.tasks.find dispatch.taskId).map TaskRecord.position).getD 0

def activeCount (s : Store) (runId : Uuid) : Nat :=
  s.dispatches.rows.countP (fun d => d.status.isActive && s.inRun runId d)

def incompleteCount (s : Store) (runId : Uuid) : Nat :=
  s.tasks.rows.countP (fun t => decide (t.runId = runId) && t.status.isOpen)

def failedCount (s : Store) (runId : Uuid) : Nat :=
  s.tasks.rows.countP (fun t => decide (t.runId = runId) &&
    (decide (t.status = .failed) || decide (t.status = .blocked)))

def pendingGateCount (s : Store) (dispatchId : Uuid) : Nat :=
  s.gates.rows.countP (fun g => decide (g.dispatchId = some dispatchId) && decide (g.status = .pending))

def pendingGateCountForRun (s : Store) (runId : Uuid) : Nat :=
  s.gates.rows.countP (fun g => decide (g.runId = runId) && decide (g.status = .pending))

/-- `ORDER BY position, id` -/
def taskOrder (a b : TaskRecord) : Bool :=
  decide (a.position < b.position) || (decide (a.position = b.position) && decide (a.id ≤ b.id))

/-- `ORDER BY t.position, d.attempt, d.id` -/
def dispatchOrder (s : Store) (a b : DispatchRow) : Bool :=
  decide (s.taskPosition a < s.taskPosition b) ||
    (decide (s.taskPosition a = s.taskPosition b) &&
      (decide (a.attempt < b.attempt) || (decide (a.attempt = b.attempt) && decide (a.id ≤ b.id))))

def tasksWithStatus (s : Store) (runId : Uuid) (status : OrchestrationTaskStatus) : List TaskRecord :=
  orderBy taskOrder
    (s.tasks.rows.filter (fun t => decide (t.runId = runId) && decide (t.status = status)))

def activeDispatches (s : Store) (runId : Uuid) : List DispatchRow :=
  orderBy s.dispatchOrder
    (s.dispatches.rows.filter (fun d => d.status.isActive && s.inRun runId d))

/-- The statuses of the dependencies, in the order of their positions. -/
def dependencyStatuses (s : Store) (taskId : Uuid) : List OrchestrationTaskStatus :=
  match s.tasks.find taskId with
  | none => []
  | some task => (orderBy taskOrder (task.dependencies.filterMap s.tasks.find)).map TaskRecord.status

def nextPosition (s : Store) (runId : Uuid) : Nat :=
  ((s.tasks.rows.filter (fun t => decide (t.runId = runId))).map (fun t => t.position + 1)).foldl max 0

def nextAttempt (s : Store) (taskId : Uuid) : Nat :=
  ((s.dispatches.rows.filter (fun d => decide (d.taskId = taskId))).map DispatchRow.attempt).foldl max 0
    + 1

def latestSequence (s : Store) (runId : Uuid) : Nat :=
  ((s.runEvents.filter (fun e => decide (e.runId = some runId))).map RunEventRecord.sequence).foldl max 0

def launchClaim (s : Store) (dispatchId : Uuid) : Option DispatchLaunchClaimRecord :=
  (s.launchClaims.find dispatchId).map fun claim =>
    { operationId := claim.operationId
      commandDigest := claim.commandDigest
      profile := claim.profile
      worktreeMode := claim.worktreeMode }

def dispatchRecord (s : Store) (row : DispatchRow) : DispatchRecord :=
  { row with
    launchClaim := s.launchClaim row.id
    resources := (s.resources.find row.id).map ResourceRow.toDispatchResourceRecord }

end Store

def AgentInstanceRecord.read (row : AgentInstanceRecord) : AgentInstanceRecord :=
  { row with lastHeartbeatAt := row.lastHeartbeatAt.map (fun n => (nonnegative n : Int)) }

def DecisionGateRecord.read (row : DecisionGateRecord) : DecisionGateRecord :=
  { row with expiresAt := row.expiresAt.map (fun n => (nonnegative n : Int)) }

def WorktreeAssignment.json (worktree : WorktreeAssignment) : Json :=
  .obj ((worktree.worktreeId.map fun id => ("worktreeId", .str id)).toList ++
    (worktree.instanceId.map fun id => ("instanceId", .str id)).toList ++
    [("baseRevision", .str worktree.baseRevision), ("branch", .str worktree.branch),
      ("worktreePath", .str worktree.worktreePath)])

section Reads

def readRun (runId : Uuid) : CoordinatorResult RunRecord :=
  .expect (fun s => s.runs.find runId) (.notFound s!"run {runId}")

def readTask (taskId : Uuid) : CoordinatorResult TaskRecord :=
  .expect (fun s => s.tasks.find taskId) (.notFound s!"task {taskId}")

def readDispatch (dispatchId : Uuid) : CoordinatorResult DispatchRecord :=
  .expect (fun s => (s.dispatches.find dispatchId).map s.dispatchRecord)
    (.notFound s!"dispatch {dispatchId}")

def readAgent (agentId : Uuid) : CoordinatorResult AgentInstanceRecord :=
  .expect (fun s => (s.agents.find agentId).map AgentInstanceRecord.read)
    (.notFound s!"agent {agentId}")

def readGate (gateId : Uuid) : CoordinatorResult DecisionGateRecord :=
  .expect (fun s => (s.gates.find gateId).map DecisionGateRecord.read) (.notFound s!"gate {gateId}")

def readMessage (messageId : Uuid) : CoordinatorResult MessageRecord :=
  .expect (fun s => s.messages.find messageId) (.notFound s!"message {messageId}")

def readNotificationById (id : Uuid) : CoordinatorResult NotificationRecord :=
  .expect (fun s => s.notifications.find id) (.notFound s!"notification {id}")

/-- `id.map(read).transpose()` -/
def readOptional (read : Uuid → CoordinatorResult α) : Option Uuid → CoordinatorResult (Option α)
  | none => pure none
  | some id => do
    let a ← read id
    pure (some a)

def requireRunRevision (run : RunRecord) (expected : Nat) : CoordinatorResult Unit :=
  .require (run.revision = expected) (.staleRevision s!"run {run.id}" expected run.revision)

def requireTaskRevision (task : TaskRecord) (expected : Nat) : CoordinatorResult Unit :=
  .require (task.revision = expected) (.staleRevision s!"task {task.id}" expected task.revision)

def validateIdentity (identity : LifecycleIdentity) : CoordinatorResult DispatchRecord := do
  let dispatch ← readDispatch identity.dispatchId
  .require (dispatch.taskId = identity.taskId) (.identityMismatch "task id does not own dispatch")
  .require (dispatch.agentInstanceId = some identity.agentInstanceId)
    (.identityMismatch "agent instance does not own dispatch")
  .require (dispatch.paneId = identity.paneId)
    (.identityMismatch "pane id does not match dispatch")
  .require (dispatch.processGeneration = some identity.processGeneration)
    (.identityMismatch "process generation does not match dispatch")
  let agent ← readAgent identity.agentInstanceId
  .require (agent.generation = identity.processGeneration)
    (.identityMismatch "agent generation does not match dispatch")
  pure dispatch

def validateScope (runId : Uuid) (taskId dispatchId : Option Uuid) : CoordinatorResult Unit := do
  let task ← readOptional readTask taskId
  .require (∀ t, task = some t → t.runId = runId) (.conflict "task does not belong to run")
  let dispatch ← readOptional readDispatch dispatchId
  let owner ← readOptional readTask (dispatch.map fun d => d.taskId)
  .require (∀ t, owner = some t → t.runId = runId ∧ ∀ expected, taskId = some expected → expected = t.id)
    (.conflict "dispatch does not belong to requested run/task")

def validateWorktree (worktree : WorktreeAssignment) : Except CoordinatorError Unit := do
  let _ ← required (worktree.worktreeId.getD "") "worktree id"
  let _ ← required (worktree.instanceId.getD "") "worktree instance id"
  let _ ← required worktree.baseRevision "base revision"
  let _ ← required worktree.branch "worktree branch"
  let _ ← required worktree.worktreePath "worktree path"
  pure ()

end Reads

section Writes

def updateRun (runId : Uuid) (f : RunRecord → RunRecord)
    (hf : ∀ r, (f r).id = r.id := by intro r; rfl) : CoordinatorResult Unit :=
  .write fun s => { s with runs := s.runs.update (fun r => decide (r.id = runId)) f hf }

def updateTasks (p : TaskRecord → Bool) (f : TaskRecord → TaskRecord)
    (hf : ∀ t, (f t).id = t.id := by intro t; rfl) : CoordinatorResult Unit :=
  .write fun s => { s with tasks := s.tasks.update p f hf }

def updateTask (taskId : Uuid) (f : TaskRecord → TaskRecord)
    (hf : ∀ t, (f t).id = t.id := by intro t; rfl) : CoordinatorResult Unit :=
  updateTasks (fun t => decide (t.id = taskId)) f hf

def updateDispatches (p : Store → DispatchRow → Bool) (f : DispatchRow → DispatchRow)
    (hf : ∀ d, (f d).id = d.id := by intro d; rfl) : CoordinatorResult Unit :=
  .write fun s => { s with dispatches := s.dispatches.update (p s) f hf }

def updateDispatch (dispatchId : Uuid) (f : DispatchRow → DispatchRow)
    (hf : ∀ d, (f d).id = d.id := by intro d; rfl) : CoordinatorResult Unit :=
  updateDispatches (fun _ d => decide (d.id = dispatchId)) f hf

def updateAgents (p : Store → AgentInstanceRecord → Bool)
    (f : AgentInstanceRecord → AgentInstanceRecord)
    (hf : ∀ a, (f a).id = a.id := by intro a; rfl) : CoordinatorResult Unit :=
  .write fun s => { s with agents := s.agents.update (p s) f hf }

def updateAgent (agentId : Uuid) (f : AgentInstanceRecord → AgentInstanceRecord)
    (hf : ∀ a, (f a).id = a.id := by intro a; rfl) : CoordinatorResult Unit :=
  updateAgents (fun _ a => decide (a.id = agentId)) f hf

def updateGates (p : DecisionGateRecord → Bool) (f : DecisionGateRecord → DecisionGateRecord)
    (hf : ∀ g, (f g).id = g.id := by intro g; rfl) : CoordinatorResult Unit :=
  .write fun s => { s with gates := s.gates.update p f hf }

def updateGate (gateId : Uuid) (f : DecisionGateRecord → DecisionGateRecord)
    (hf : ∀ g, (f g).id = g.id := by intro g; rfl) : CoordinatorResult Unit :=
  updateGates (fun g => decide (g.id = gateId)) f hf

def updateResource (dispatchId : Uuid) (f : ResourceRow → ResourceRow)
    (hf : ∀ r, (f r).dispatchId = r.dispatchId := by intro r; rfl) : CoordinatorResult Unit :=
  .write fun s =>
    { s with resources := s.resources.update (fun r => decide (r.dispatchId = dispatchId)) f hf }

/-- The error of an `INSERT` whose primary key is taken. -/
def uniqueFailed (column : String) : CoordinatorError :=
  .storage s!"UNIQUE constraint failed: {column}"

def insertRun (run : RunRecord) : CoordinatorResult Unit :=
  .tryWrite (fun s => (s.runs.insert? run).map fun runs => { s with runs })
    (uniqueFailed "orchestration_runs.id")

def insertTask (task : TaskRecord) : CoordinatorResult Unit :=
  .tryWrite (fun s => (s.tasks.insert? task).map fun tasks => { s with tasks })
    (uniqueFailed "orchestration_tasks.id")

def insertDispatch (dispatch : DispatchRow) : CoordinatorResult Unit :=
  .tryWrite (fun s => (s.dispatches.insert? dispatch).map fun dispatches => { s with dispatches })
    (uniqueFailed "dispatches.id")

def insertAgent (agent : AgentInstanceRecord) : CoordinatorResult Unit :=
  .tryWrite (fun s => (s.agents.insert? agent).map fun agents => { s with agents })
    (uniqueFailed "agent_instances.id")

def createGateRecord (env : Env) (gateId runId : Uuid) (taskId dispatchId : Option Uuid)
    (gateType prompt : String) (options : List String) (expiresAt : Option Nat) :
    CoordinatorResult DecisionGateRecord := do
  let gate : DecisionGateRecord :=
    { id := gateId, runId, taskId, dispatchId, status := .pending, gateType, prompt, options
      resolution := none, expiresAt := expiresAt.map asI64, createdAt := env.now
      updatedAt := env.now }
  .tryWrite (fun s => (s.gates.insert? gate).map fun gates => { s with gates })
    (uniqueFailed "decision_gates.id")
  readGate gateId

def insertMessage (env : Env) (messageId runId : Uuid) (taskId dispatchId parentId : Option Uuid)
    (senderKind : String) (messageType : MessageType) (payload : Json) :
    CoordinatorResult MessageRecord := do
  let message : MessageRecord :=
    { id := messageId, runId, taskId, dispatchId, parentId, senderKind, messageType, payload
      unread := true, deliveredAt := none, createdAt := env.now }
  .tryWrite (fun s => (s.messages.insert? message).map fun messages => { s with messages })
    (uniqueFailed "messages.id")
  readMessage messageId

/-- `run_events` is append-only and its `AUTOINCREMENT` sequence starts at one. -/
def insertEvent (env : Env) (operationId : Uuid) (runId : Option Uuid) (eventType : String)
    (entityId : Option Uuid) (payload : Json) : CoordinatorResult Unit :=
  .write fun s =>
    { s with runEvents := s.runEvents ++
        [{ sequence := s.runEvents.length + 1, runId, domain := "orchestration", eventType, entityId
           operationId := some operationId, payload, createdAt := env.now }] }

def bumpRunRevision (env : Env) (run : RunRecord) : CoordinatorResult RunRecord := do
  let run := { run with revision := run.revision + 1, updatedAt := env.now }
  updateRun run.id fun row => { row with revision := run.revision, updatedAt := run.updatedAt }
  pure run

def updateRunStatus (env : Env) (run : RunRecord) (status : RunStatus) :
    CoordinatorResult RunRecord := do
  let run := { run with status, revision := run.revision + 1, updatedAt := env.now }
  updateRun run.id fun row =>
    { row with status := run.status, revision := run.revision, updatedAt := run.updatedAt }
  pure run

def refreshTerminalRunStatus (env : Env) (run : RunRecord) : CoordinatorResult RunRecord :=
  if run.status = .cancelled then pure run
  else do
    let pendingGates ← .gets fun s => s.pendingGateCountForRun run.id
    let active ← .gets fun s => s.activeCount run.id
    let incomplete ← .gets fun s => s.incompleteCount run.id
    let failed ← .gets fun s => s.failedCount run.id
    let desired :=
      if pendingGates > 0 then RunStatus.waiting
      else if incomplete = 0 ∧ failed > 0 then RunStatus.failed
      else if incomplete = 0 then RunStatus.completed
      else if active > 0 then RunStatus.running
      else run.status
    if desired ≠ run.status then updateRunStatus env run desired else pure run

def bumpTaskRevision (env : Env) (task : TaskRecord) : CoordinatorResult TaskRecord := do
  let task := { task with revision := task.revision + 1, updatedAt := env.now }
  updateTask task.id fun row => { row with revision := task.revision, updatedAt := task.updatedAt }
  pure task

/-- `result_json=COALESCE(?3, result_json)`: no result keeps the one the task has. -/
def setTaskStatus (env : Env) (taskId : Uuid) (status : OrchestrationTaskStatus)
    (result : Option Json) : CoordinatorResult Unit :=
  updateTask taskId fun row =>
    { row with
      status
      revision := row.revision + 1
      result := result.or row.result
      updatedAt := env.now }

end Writes

/-- The envelope of every idempotent mutation: replay the recorded response, refuse the id
for another request, or run the body in one transaction and record what it answers. -/
def mutate (platform : Platform) (env : Env) (operationId : Uuid) (request : Op)
    (mutation : CoordinatorResult Response) : CoordinatorResult Response := do
  let requestHash := platform.requestHash request
  match ← .gets fun s => s.operations.find operationId with
  | some recorded =>
    .require (recorded.requestHash = requestHash)
      (.conflict "operation id was already used for a different request")
    pure recorded.response
  | none => .atomically do
    let response ← mutation
    let row : OperationRow :=
      { operationId, requestHash, response := response.throughJson, createdAt := env.now }
    .tryWrite (fun s => (s.operations.insert? row).map fun operations => { s with operations })
      (uniqueFailed "operations.operation_id")
    pure response

end VibeLink.Coordinator
