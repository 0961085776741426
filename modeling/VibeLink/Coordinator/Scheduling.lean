import VibeLink.Coordinator.Store

/-! Runs, tasks and the scheduler (`orchestration/mod.rs`). -/

namespace VibeLink.Coordinator

open VibeLink.Relational

variable (platform : Platform) (env : Env) (operationId : Uuid)

def runPayload (run : RunRecord) : Json := .obj [("revision", .nat run.revision)]

def createRun (request : CreateRunRequest) : CoordinatorResult Response := do
  .require (platform.isUuid request.sessionId) (.invalidArgument "session id must be a UUID")
  let goal ← .ofExcept (required request.goal "run goal")
  .require (request.policy.maxConcurrent ≠ 0)
    (.invalidArgument "maxConcurrent must be at least 1")
  mutate platform env operationId (.createRun request) do
    let run : RunRecord :=
      { id := env.uuid 0
        sessionId := request.sessionId
        goal
        status := .queued
        revision := 0
        policy := request.policy
        createdAt := env.now
        updatedAt := env.now }
    insertRun run
    insertEvent env operationId (some run.id) "run.created" (some run.id)
      (.obj [("status", .str (runStatusText run.status))])
    pure (.run run)

def startRun (request : RunRevisionRequest) : CoordinatorResult Response :=
  mutate platform env operationId (.startRun request) do
    let run ← readRun request.runId
    requireRunRevision run request.expectedRunRevision
    .require (run.status = .queued ∨ run.status = .planning ∨ run.status = .paused)
      (.invalidTransition s!"run {run.id} cannot start from {run.status.debug}")
    let run ← updateRunStatus env run .running
    insertEvent env operationId (some run.id) "run.started" (some run.id) (runPayload run)
    pure (.run run)

/-- `sort(); dedup()` -/
def sortedDependencies (dependencies : List Uuid) : List Uuid :=
  orderBy (fun a b => decide (a ≤ b)) dependencies.dedup

def requireDependency (runId dependency : Uuid) : CoordinatorResult Unit := do
  let task ← readTask dependency
  .require (task.runId = runId)
    (.invalidDependency s!"dependency {dependency} belongs to another run")

def createTask (request : CreateTaskRequest) : CoordinatorResult Response := do
  let title ← .ofExcept (required request.title "task title")
  mutate platform env operationId (.createTask request) do
    let run ← readRun request.runId
    requireRunRevision run request.expectedRunRevision
    .require (run.status.isTerminal = false)
      (.invalidTransition s!"cannot add tasks to {run.status.debug} run")
    let dependencies := sortedDependencies request.dependencies
    let _ ← Tx.traverse (requireDependency run.id) dependencies
    let position ← .gets fun s => s.nextPosition run.id
    let task : TaskRecord :=
      { id := env.uuid 0
        runId := run.id
        title
        description := request.description
        status := .pending
        revision := 0
        position
        dependencies
        result := none
        createdAt := env.now
        updatedAt := env.now }
    insertTask task
    let run ← bumpRunRevision env run
    insertEvent env operationId (some run.id) "task.created" (some task.id)
      (.obj [("dependencies", .arr (dependencies.map .str)), ("position", .nat position)])
    pure (.task task)

/-- What one pass over the pending tasks did to one of them. -/
inductive Readiness where
  | ready | blocked | unchanged
  deriving DecidableEq

/-- One round of the loop over the pending tasks. -/
def settlePendingTask (taskId : Uuid) : CoordinatorResult (Uuid × Readiness) := do
  let statuses ← .gets fun s => s.dependencyStatuses taskId
  if statuses.any (fun status =>
      decide (status = .failed ∨ status = .blocked ∨ status = .cancelled)) then do
    setTaskStatus env taskId .blocked (some (.obj [("reason", .str "dependency_failed")]))
    pure (taskId, .blocked)
  else if statuses.all (fun status => decide (status = .completed)) then do
    setTaskStatus env taskId .ready none
    pure (taskId, .ready)
  else pure (taskId, .unchanged)

/-- One round of the loop that creates dispatches; it draws the `index`-th random id. -/
def dispatchReadyTask (runId : Uuid) : Uuid × Nat → CoordinatorResult DispatchRecord
  | (taskId, index) => do
    let attempt ← .gets fun s => s.nextAttempt taskId
    let dispatchId := env.uuid index
    insertDispatch
      { id := dispatchId, taskId, attempt, agentInstanceId := none, status := .pending
        paneId := none, processGeneration := none, worktree := none, failureCode := none
        createdAt := env.now, updatedAt := env.now }
    setTaskStatus env taskId .dispatched none
    insertEvent env operationId (some runId) "dispatch.created" (some dispatchId)
      (.obj [("taskId", .str taskId), ("attempt", .nat attempt)])
    readDispatch dispatchId

def scheduleReadyTransaction (runId : Uuid) (expectedRunRevision : Nat) :
    CoordinatorResult ScheduleResult := do
  let run ← readRun runId
  requireRunRevision run expectedRunRevision
  .require (run.status = .running ∨ run.status = .waiting)
    (.invalidTransition s!"run {run.id} cannot schedule from {run.status.debug}")
  let pending ← .gets fun s => (s.tasksWithStatus run.id .pending).map TaskRecord.id
  let settled ← Tx.traverse (settlePendingTask env) pending
  let newlyReady := (settled.filter fun r => decide (r.2 = .ready)).map Prod.fst
  let newlyBlocked := (settled.filter fun r => decide (r.2 = .blocked)).map Prod.fst
  let active ← .gets fun s => s.activeCount run.id % UInt32.size
  let capacity := run.policy.maxConcurrent.toNat - active
  let ready ← .gets fun s => ((s.tasksWithStatus run.id .ready).take capacity).map TaskRecord.id
  let dispatches ← Tx.traverse (dispatchReadyTask env operationId run.id) ready.zipIdx
  let run ←
    if dispatches ≠ [] ∧ run.status ≠ .running then updateRunStatus env run .running
    else if newlyReady ≠ [] ∨ newlyBlocked ≠ [] ∨ dispatches ≠ [] then bumpRunRevision env run
    else pure run
  let run ← refreshTerminalRunStatus env run
  pure { run, dispatches, newlyReadyTaskIds := newlyReady, newlyBlockedTaskIds := newlyBlocked }

def scheduleReady (request : ScheduleRequest) : CoordinatorResult Response :=
  mutate platform env operationId (.scheduleReady request) do
    let result ← scheduleReadyTransaction env operationId request.runId request.expectedRunRevision
    pure (.schedule result)

/-- The launch specification: the command and the profile are trimmed before they are hashed. -/
def launchSpecification (request : DispatchLaunchRequest) :
    Except CoordinatorError DispatchLaunchRequest := do
  let command ← required request.command "launch command"
  pure { request with command, profile := trimOptional request.profile }

def dispatchLaunchRequestHash (request : DispatchLaunchRequest) : String :=
  platform.requestHash (.prepareDispatchLaunch request)

/-- Claims of an operation, `ORDER BY t.position,d.attempt,d.id`. -/
def Store.claimedDispatches (s : Store) (operationId : Uuid) : List DispatchRow :=
  orderBy s.dispatchOrder (s.dispatches.rows.filter fun d =>
    decide ((s.launchClaims.find d.id).map LaunchClaimRow.operationId = some operationId) &&
      (s.tasks.find d.taskId).isSome)

def launchIntent (request : DispatchLaunchRequest) (plan : ScheduleResult) : LaunchOperationRow where
  operationId
  requestHash := dispatchLaunchRequestHash platform request
  request
  result := none
  plan
  createdAt := env.now
  updatedAt := env.now

def launchClaimRow (request : DispatchLaunchRequest) (dispatchId : Uuid) : LaunchClaimRow where
  dispatchId
  operationId
  command := request.command
  commandDigest := platform.digestHex request.command
  profile := request.profile
  worktreeMode := request.worktreeMode
  createdAt := env.now

/-- `INSERT … ON CONFLICT(dispatch_id) DO NOTHING`, then the check who owns the claim. -/
def claimDispatch (request : DispatchLaunchRequest) (dispatchId : Uuid) : CoordinatorResult Unit := do
  let claim := launchClaimRow platform env operationId request dispatchId
  .write fun s => { s with launchClaims := (s.launchClaims.insert? claim).getD s.launchClaims }
  let claimed ← .expect (fun s => s.launchClaims.find dispatchId)
    (.storage "Query returned no rows")
  .require (claimed.operationId = operationId)
    (.conflict s!"dispatch {dispatchId} is already claimed by another launch operation")

def prepareDispatchLaunch (request : DispatchLaunchRequest) : CoordinatorResult Response := do
  let request ← .ofExcept (launchSpecification request)
  let requestHash := dispatchLaunchRequestHash platform request
  match ← .gets fun s => s.launchOperations.find operationId with
  | some recorded => do
    .require (recorded.requestHash = requestHash)
      (.conflict "launch operation id was already used for a different immutable specification")
    match recorded.result with
    | some result => pure (.preparation (.replay result))
    | none => do
      let dispatches ← .gets fun s => (s.claimedDispatches operationId).map s.dispatchRecord
      pure (.preparation (.intent { recorded.plan with dispatches }))
  | none => .atomically do
    let plan ← scheduleReadyTransaction env operationId request.runId request.expectedRunRevision
    let dispatchIds := plan.dispatches.map fun d => d.id
    let row := launchIntent platform env operationId request plan
    .tryWrite
      (fun s => (s.launchOperations.insert? row).map fun launchOperations =>
        { s with launchOperations })
      (uniqueFailed "dispatch_launch_operations.operation_id")
    let _ ← Tx.traverse (claimDispatch platform env operationId request) dispatchIds
    let dispatches ← Tx.traverse readDispatch dispatchIds
    let plan := { plan with dispatches }
    .write fun s =>
      { s with
        launchOperations := s.launchOperations.update (fun r => decide (r.operationId = operationId))
          fun r => { r with plan, updatedAt := env.now } }
    pure (.preparation (.intent plan))

def completeDispatchLaunch (request : DispatchLaunchRequest) (result : DispatchLaunchResult) :
    CoordinatorResult Response := do
  let requestHash := dispatchLaunchRequestHash platform request
  .atomically do
    let recorded ← .expect (fun s => s.launchOperations.find operationId)
      (.notFound s!"launch operation {operationId}")
    .require (recorded.requestHash = requestHash)
      (.conflict "launch operation specification changed before completion")
    match recorded.result with
    | some result => pure (.launch result)
    | none => do
      .write fun s =>
        { s with
          launchOperations := s.launchOperations.update
            (fun r => decide (r.operationId = operationId))
            fun r => { r with result := some result, updatedAt := env.now } }
      pure (.launch result)

end VibeLink.Coordinator
