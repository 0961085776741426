import VibeLink.Coordinator.Store

/-! Agents and the reports of workers (`orchestration/mod.rs`). -/

namespace VibeLink.Coordinator

open VibeLink.Relational

variable (platform : Platform) (env : Env) (operationId : Uuid)

def circuitBreakerFailures : Nat := 3

def registerAgent (request : RegisterAgentRequest) : CoordinatorResult Response := do
  let workspacePath ← .ofExcept (required request.workspacePath "workspace path")
  mutate platform env operationId (.registerAgent request) do
    let agent : AgentInstanceRecord :=
      { id := env.uuid 0
        provider := request.provider
        profile := trimOptional request.profile
        workspacePath
        worktreePath := trimOptional request.worktreePath
        runtimeIdentity := none
        status := .registered
        resumable := request.resumable
        generation := 0
        lastHeartbeatAt := none
        createdAt := env.now
        updatedAt := env.now }
    insertAgent agent
    insertEvent env operationId none "agent.registered" (some agent.id)
      (.obj [("provider", .str (providerText agent.provider))])
    pure (.agent agent)

def recordUnboundAgentLaunchFailure (request : AgentLaunchFailureRequest) :
    CoordinatorResult Response := do
  let failureCode ← .ofExcept (required request.failureCode "failure code")
  mutate platform env operationId (.recordUnboundAgentLaunchFailure request) do
    let agent ← readAgent request.agentInstanceId
    let bindingCount ← .gets fun s =>
      s.dispatches.rows.countP (fun d => decide (d.agentInstanceId = some agent.id))
    .require (bindingCount = 0) (.conflict s!"agent {agent.id} is already bound to a dispatch")
    .require (agent.status = .registered)
      (.invalidTransition s!"agent {agent.id} cannot fail launch from {agent.status.debug}")
    updateAgent agent.id fun a => { a with status := .failed, updatedAt := env.now }
    insertEvent env operationId none "agent.launch_failed" (some agent.id)
      (.obj [("failureCode", .str failureCode)])
    let agent ← readAgent agent.id
    pure (.agent agent)

def bindDispatch (request : BindDispatchRequest) : CoordinatorResult Response := do
  let runtimeIdentity ← .ofExcept (required request.runtimeIdentity "runtime identity")
  mutate platform env operationId (.bindDispatch request) do
    let dispatch ← readDispatch request.dispatchId
    .require (dispatch.status = .pending)
      (.invalidTransition s!"dispatch {dispatch.id} cannot bind from {dispatch.status.debug}")
    let task ← readTask dispatch.taskId
    requireTaskRevision task request.expectedTaskRevision
    let agent ← readAgent request.agentInstanceId
    .require (agent.status.isActive = false) (.conflict s!"agent {agent.id} is already active")
    .ofExcept (match request.worktree with
      | some worktree => validateWorktree worktree
      | none => .ok ())
    updateDispatch dispatch.id fun d =>
      { d with
        agentInstanceId := some agent.id
        status := .dispatched
        paneId := request.paneId
        processGeneration := some (stored request.processGeneration)
        worktree := request.worktree
        updatedAt := env.now }
    updateAgent agent.id fun a =>
      { a with
        runtimeIdentity := some runtimeIdentity
        status := .starting
        generation := stored request.processGeneration
        worktreePath := (request.worktree.map WorktreeAssignment.worktreePath).or a.worktreePath
        updatedAt := env.now }
    let task ← bumpTaskRevision env task
    let dispatch ← readDispatch dispatch.id
    let agent ← readAgent agent.id
    let _ ← insertMessage env (env.uuid 0) task.runId (some task.id) (some dispatch.id) none
      "coordinator" .dispatch
      (.obj [("agentInstanceId", .str agent.id), ("attempt", .nat dispatch.attempt)])
    insertEvent env operationId (some task.runId) "dispatch.bound" (some dispatch.id)
      (.obj [("agentInstanceId", .str agent.id),
        ("processGeneration", .nat request.processGeneration)])
    pure (.bound { task, dispatch, agent })

def markDispatchRunning (identity : LifecycleIdentity) (observedAt : Nat) :
    CoordinatorResult Response :=
  mutate platform env operationId (.markDispatchRunning identity observedAt) do
    let dispatch ← validateIdentity identity
    .require (dispatch.status = .dispatched ∨ dispatch.status = .waiting)
      (.invalidTransition s!"dispatch {dispatch.id} cannot run from {dispatch.status.debug}")
    let now := max observedAt 1
    updateDispatch dispatch.id fun d => { d with status := .running, updatedAt := stored now }
    updateAgent identity.agentInstanceId fun a =>
      { a with status := .running, lastHeartbeatAt := some (asI64 now), updatedAt := stored now }
    let task ← readTask identity.taskId
    let task ← bumpTaskRevision env task
    let dispatch ← readDispatch dispatch.id
    let agent ← readAgent identity.agentInstanceId
    insertEvent env operationId (some task.runId) "dispatch.running" (some dispatch.id)
      (.obj [("agentInstanceId", .str agent.id)])
    pure (.bound { task, dispatch, agent })

/-- `failure_code LIKE 'launch:%'`; SQLite's `LIKE` ignores the case of ASCII letters. -/
def isLaunchFailure (failureCode : Option String) : Bool :=
  match failureCode with
  | some code => "launch:".toList.isPrefixOf (code.toList.map Char.toLower)
  | none => false

def recordLaunchFailure (request : LaunchFailureRequest) : CoordinatorResult Response := do
  let failureCode ← .ofExcept (required request.failureCode "failure code")
  mutate platform env operationId (.recordLaunchFailure request) do
    let dispatch ← readDispatch request.dispatchId
    .require (dispatch.status = .pending ∨ dispatch.status = .dispatched)
      (.invalidTransition
        s!"dispatch {dispatch.id} cannot record launch failure from {dispatch.status.debug}")
    let task ← readTask dispatch.taskId
    requireTaskRevision task request.expectedTaskRevision
    let previousFailures ← .gets fun s =>
      s.dispatches.rows.countP (fun d =>
        decide (d.taskId = task.id) && decide (d.id ≠ dispatch.id) && isLaunchFailure d.failureCode)
    let consecutiveFailures := min (previousFailures % UInt32.size + 1) (UInt32.size - 1)
    let circuitBroken := decide (consecutiveFailures ≥ circuitBreakerFailures)
    let status := if circuitBroken then DispatchStatus.circuitBroken else .failed
    updateDispatch dispatch.id fun d =>
      { d with status, failureCode := some ("launch:" ++ failureCode), updatedAt := env.now }
    setTaskStatus env task.id (if circuitBroken then .failed else .ready)
      (if circuitBroken then
        some (.obj [("reason", .str "launch_circuit_broken"),
          ("failures", .nat consecutiveFailures), ("failureCode", .str failureCode)])
      else none)
    let task ← readTask task.id
    let dispatch ← readDispatch dispatch.id
    updateAgents (fun _ a => decide (some a.id = dispatch.agentInstanceId)) fun a =>
      { a with status := .failed, updatedAt := env.now }
    insertEvent env operationId (some task.runId)
      (if circuitBroken then "dispatch.circuit_broken" else "dispatch.launch_failed")
      (some dispatch.id)
      (.obj [("failureCode", .str failureCode), ("consecutiveFailures", .nat consecutiveFailures)])
    pure (.launchFailure { task, dispatch, consecutiveFailures, circuitBroken })

def heartbeat (request : HeartbeatRequest) : CoordinatorResult Response :=
  mutate platform env operationId (.heartbeat request) do
    let dispatch ← validateIdentity request.identity
    .require dispatch.status.isActive (.invalidTransition s!"dispatch {dispatch.id} is not active")
    let observedAt := max request.observedAt 1
    updateAgent request.identity.agentInstanceId fun a =>
      { a with
        status := .running
        lastHeartbeatAt := some (asI64 observedAt)
        updatedAt := stored observedAt }
    let pendingGates ← .gets fun s => s.pendingGateCount dispatch.id
    if dispatch.status = .waiting ∧ pendingGates = 0 then
      updateDispatch dispatch.id fun d =>
        { d with status := .running, updatedAt := stored observedAt }
    else pure ()
    let task ← readTask dispatch.taskId
    insertEvent env operationId (some task.runId) "agent.heartbeat"
      (some request.identity.agentInstanceId)
      (.obj [("dispatchId", .str dispatch.id), ("observedAt", .nat observedAt)])
    let agent ← readAgent request.identity.agentInstanceId
    pure (.agent agent)

def ReconciliationActionKind.text : ReconciliationActionKind → String
  | .probe => "probe"
  | .resume => "resume"
  | .waiting => "waiting"
  | .recovered => "recovered"
  | .blockedAgentLost => "blocked_agent_lost"

def ReconciliationAction.json (action : ReconciliationAction) : Json :=
  .obj [("agentInstanceId", .str action.agentInstanceId), ("dispatchId", .str action.dispatchId),
    ("taskId", .str action.taskId), ("kind", .str action.kind.text)]

/-- The agent status, the dispatch status, the action and whether the task blocks. -/
def reconcileVerdict (observation : Option AdapterObservationStatus) (resumable : Bool) :
    AgentLifecycleStatus × DispatchStatus × ReconciliationActionKind × Bool :=
  match observation with
  | some .running => (.running, .running, .recovered, false)
  | some .waiting => (.waiting, .waiting, .waiting, false)
  | some _ =>
    if resumable then (.reconciling, .waiting, .resume, false)
    else (.lost, .failed, .blockedAgentLost, true)
  | none => (.reconciling, .waiting, .probe, false)

/-- `observations` collected into a map: the last one of an agent counts. -/
def observationOf (request : ReconcileLivenessRequest) (agentId : Uuid) : Option AgentObservation :=
  request.observations.reverse.find? (fun o => decide (o.agentInstanceId = agentId))

def livenessCutoff (request : ReconcileLivenessRequest) : Int :=
  asI64 (request.nowMillis - max request.silenceAfterMillis 1)

/-- Dispatched, running or waiting dispatches of the run whose agent was silent too long. -/
def Store.staleDispatches (s : Store) (runId : Uuid) (cutoff : Int) : List (Uuid × DispatchRow) :=
  (orderBy
    (fun a b : AgentInstanceRecord × DispatchRow =>
      decide (s.taskPosition a.2 < s.taskPosition b.2) ||
        (decide (s.taskPosition a.2 = s.taskPosition b.2) &&
          (decide (a.2.attempt < b.2.attempt) ||
            (decide (a.2.attempt = b.2.attempt) && decide (a.1.id ≤ b.1.id)))))
    (s.dispatches.rows.filterMap fun d =>
      if (d.status = .dispatched ∨ d.status = .running ∨ d.status = .waiting) ∧ s.inRun runId d then
        (d.agentInstanceId.bind s.agents.find).bind fun a =>
          if a.lastHeartbeatAt.getD 0 < cutoff then some (a, d) else none
      else none)).map fun pair => (pair.1.id, pair.2)

/-- One round of the loop over the silent agents. -/
def reconcileStaleDispatch (request : ReconcileLivenessRequest) :
    Uuid × DispatchRow → CoordinatorResult ReconciliationAction
  | (agentId, stale) => do
    let agent ← readAgent agentId
    let observation := observationOf request agentId
    let verdict := reconcileVerdict (observation.map AgentObservation.status) agent.resumable
    .require (∀ o, observation = some o → ∀ runtimeIdentity, o.runtimeIdentity = some runtimeIdentity →
        agent.runtimeIdentity = some runtimeIdentity)
      (.identityMismatch s!"agent {agentId} runtime identity changed")
    .require (∀ o, observation = some o → ∀ generation, o.generation = some generation →
        generation = agent.generation)
      (.identityMismatch s!"agent {agentId} generation changed")
    updateAgent agentId fun a =>
      { a with
        status := verdict.1
        lastHeartbeatAt :=
          if verdict.1 = .running then some (asI64 request.nowMillis) else a.lastHeartbeatAt
        updatedAt := stored request.nowMillis }
    updateDispatch stale.id fun d =>
      { d with
        status := verdict.2.1
        failureCode := if verdict.2.2.2 then some "agent_lost" else d.failureCode
        updatedAt := stored request.nowMillis }
    if verdict.2.2.2 then
      setTaskStatus env stale.taskId .blocked (some (.obj [("reason", .str "agent_lost")]))
    else pure ()
    pure
      { agentInstanceId := agentId
        dispatchId := stale.id
        taskId := stale.taskId
        kind := verdict.2.2.1 }

def reconcileLiveness (request : ReconcileLivenessRequest) : CoordinatorResult Response :=
  mutate platform env operationId (.reconcileLiveness request) do
    let run ← readRun request.runId
    requireRunRevision run request.expectedRunRevision
    let stale ← .gets fun s => s.staleDispatches run.id (livenessCutoff request)
    let actions ← Tx.traverse (reconcileStaleDispatch env request) stale
    if actions ≠ [] then do
      let run ← bumpRunRevision env run
      insertEvent env operationId (some run.id) "agents.reconciled" (some run.id)
        (.obj [("actions", .arr (actions.map ReconciliationAction.json))])
      pure (.liveness { run, actions })
    else pure (.liveness { run, actions })

def completionJson (request : WorkerDoneRequest) : List (String × Json) :=
  [("files", .arr (request.files.map .str)), ("tests", .arr (request.tests.map .str)),
    ("commit", .option .str request.commit), ("checkpoint", .option .str request.checkpoint),
    ("result", request.result)]

/-- The merge gate of a completed dispatch that worked in a worktree of its own. -/
def openMergeGate (run : RunRecord) (task : TaskRecord) (dispatch : DispatchRecord) :
    CoordinatorResult DecisionGateRecord := do
  let gate ← createGateRecord env (env.uuid 1) run.id (some task.id) (some dispatch.id) "merge"
    "Approve merging this completed worktree into the user's branch?" ["approve", "reject"] none
  let _ ← insertMessage env (env.uuid 2) run.id (some task.id) (some dispatch.id) none "coordinator"
    .mergeReady
    (.obj [("gateId", .str gate.id), ("worktree", .option WorktreeAssignment.json dispatch.worktree)])
  updateResource dispatch.id fun r =>
    { r with
      worktreeDisposition := .retained
      cleanupReason := some "merge_decision"
      cleanupError := none
      updatedAt := env.now }
  pure gate

def workerDone (request : WorkerDoneRequest) : CoordinatorResult Response :=
  mutate platform env operationId (.workerDone request) do
    let dispatch ← validateIdentity request.identity
    .require (dispatch.status = .running ∨ dispatch.status = .waiting)
      (.invalidTransition s!"dispatch {dispatch.id} cannot complete from {dispatch.status.debug}")
    let task ← readTask request.identity.taskId
    requireTaskRevision task request.expectedTaskRevision
    let run ← readRun task.runId
    updateDispatch dispatch.id fun d => { d with status := .completed, updatedAt := env.now }
    setTaskStatus env task.id .completed (some (.obj (completionJson request)))
    updateAgent request.identity.agentInstanceId fun a =>
      { a with status := .completed, updatedAt := env.now }
    let message ← insertMessage env (env.uuid 0) run.id (some task.id) (some dispatch.id) none
      "worker" .workerDone
      (.obj ([("taskId", .str task.id), ("dispatchId", .str dispatch.id),
        ("agentInstanceId", .str request.identity.agentInstanceId)] ++ completionJson request))
    let dispatch ← readDispatch dispatch.id
    let task ← readTask task.id
    if dispatch.worktree.isSome then do
      let gate ← openMergeGate env run task dispatch
      let run ← updateRunStatus env run .waiting
      insertEvent env operationId (some run.id) "worker.completed" (some dispatch.id)
        (.obj [("taskId", .str task.id), ("mergeGateId", .str gate.id)])
      pure (.workerDone { run, task, dispatch, message, mergeGate := some gate })
    else do
      let run ← bumpRunRevision env run
      let run ← refreshTerminalRunStatus env run
      insertEvent env operationId (some run.id) "worker.completed" (some dispatch.id)
        (.obj [("taskId", .str task.id), ("mergeGateId", .null)])
      pure (.workerDone { run, task, dispatch, message, mergeGate := none })

end VibeLink.Coordinator
