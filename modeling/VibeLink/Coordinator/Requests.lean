import VibeLink.Coordinator.Records

/-! What callers send to the coordinator and what they get back. -/

namespace VibeLink.Coordinator

structure CreateRunRequest where
  sessionId : String
  goal : String
  policy : RunPolicy

structure CreateTaskRequest where
  runId : Uuid
  title : String
  description : String
  dependencies : List Uuid
  expectedRunRevision : Nat

structure RunRevisionRequest where
  runId : Uuid
  expectedRunRevision : Nat

structure ScheduleRequest where
  runId : Uuid
  expectedRunRevision : Nat

structure ScheduleResult where
  run : RunRecord
  dispatches : List DispatchRecord
  newlyReadyTaskIds : List Uuid
  newlyBlockedTaskIds : List Uuid

structure DispatchLaunchRequest where
  runId : Uuid
  expectedRunRevision : Nat
  command : String
  profile : Option String
  worktreeMode : WorktreeMode
  deriving DecidableEq

inductive DispatchLaunchStatus where
  | launched | existing | failed
  deriving DecidableEq, Repr

structure DispatchLaunchOutcome where
  dispatchId : Uuid
  taskId : Uuid
  attempt : Nat
  status : DispatchLaunchStatus
  agentInstanceId : Option Uuid
  paneId : Option Uuid
  runtimeIdentity : Option String
  processGeneration : Option Nat
  worktree : Option WorktreeAssignment
  resources : Option DispatchResourceRecord
  failureCode : Option String
  error : Option String

structure DispatchLaunchResult where
  run : RunRecord
  launches : List DispatchLaunchOutcome
  newlyReadyTaskIds : List Uuid
  newlyBlockedTaskIds : List Uuid

inductive DispatchLaunchPreparation where
  | intent (plan : ScheduleResult)
  | replay (result : DispatchLaunchResult)

structure DispatchResourceReservation where
  dispatchId : Uuid
  sessionId : String
  repositoryRoot : Option String
  relativePrefix : String
  launchPath : Option String
  worktree : Option WorktreeAssignment

structure RegisterAgentRequest where
  provider : AgentProvider
  profile : Option String
  workspacePath : String
  worktreePath : Option String
  resumable : Bool

structure AgentLaunchFailureRequest where
  agentInstanceId : Uuid
  failureCode : String

structure BindDispatchRequest where
  dispatchId : Uuid
  expectedTaskRevision : Nat
  agentInstanceId : Uuid
  runtimeIdentity : String
  paneId : Option Uuid
  processGeneration : Nat
  worktree : Option WorktreeAssignment

structure BoundDispatch where
  task : TaskRecord
  dispatch : DispatchRecord
  agent : AgentInstanceRecord

structure LaunchFailureRequest where
  dispatchId : Uuid
  expectedTaskRevision : Nat
  failureCode : String

structure LaunchFailureResult where
  task : TaskRecord
  dispatch : DispatchRecord
  consecutiveFailures : Nat
  circuitBroken : Bool

structure HeartbeatRequest where
  identity : LifecycleIdentity
  observedAt : Nat

inductive AdapterObservationStatus where
  | running | waiting | stopped | lost | failed
  deriving DecidableEq, Repr

structure AgentObservation where
  agentInstanceId : Uuid
  status : AdapterObservationStatus
  runtimeIdentity : Option String
  generation : Option Nat

structure ReconcileLivenessRequest where
  runId : Uuid
  expectedRunRevision : Nat
  nowMillis : Nat
  silenceAfterMillis : Nat
  observations : List AgentObservation

inductive ReconciliationActionKind where
  | probe | resume | waiting | recovered | blockedAgentLost
  deriving DecidableEq, Repr

structure ReconciliationAction where
  agentInstanceId : Uuid
  dispatchId : Uuid
  taskId : Uuid
  kind : ReconciliationActionKind

structure ReconcileLivenessResult where
  run : RunRecord
  actions : List ReconciliationAction

structure WorkerDoneRequest where
  identity : LifecycleIdentity
  expectedTaskRevision : Nat
  files : List String
  tests : List String
  commit : Option String
  checkpoint : Option String
  result : Json

structure WorkerDoneResult where
  run : RunRecord
  task : TaskRecord
  dispatch : DispatchRecord
  message : MessageRecord
  mergeGate : Option DecisionGateRecord

structure CreateGateRequest where
  runId : Uuid
  taskId : Option Uuid
  dispatchId : Option Uuid
  gateType : String
  prompt : String
  options : List String
  expiresAt : Option Nat
  expectedRunRevision : Nat

structure ResolveGateRequest where
  gateId : Uuid
  resolution : Json
  expectedRunRevision : Nat

structure GateMutationResult where
  run : RunRecord
  gate : DecisionGateRecord
  dispatch : Option DispatchRecord
  cleanupGate : Option DecisionGateRecord

structure PostMessageRequest where
  runId : Uuid
  taskId : Option Uuid
  dispatchId : Option Uuid
  parentId : Option Uuid
  senderKind : String
  messageType : MessageType
  payload : Json

structure MergeAppliedRequest where
  gateId : Uuid
  expectedRunRevision : Nat
  commitId : String

structure CleanupAppliedRequest where
  gateId : Uuid
  expectedRunRevision : Nat

structure CleanupDecision where
  decision : String
  force : Bool
  deleteBranch : Bool
  acknowledgedBlockers : List String

structure CleanupAuthorization where
  worktree : WorktreeAssignment
  force : Bool
  deleteBranch : Bool
  acknowledgedBlockers : List String

structure AcknowledgeEventsRequest where
  consumerId : String
  runId : Uuid
  sequence : Nat

structure UpdateTaskPatch where
  title : Option String
  description : Option String
  status : Option OrchestrationTaskStatus
  result : Option Json

structure UpdateTaskRequest where
  runId : Uuid
  taskId : Uuid
  expectedRunRevision : Nat
  expectedTaskRevision : Nat
  patch : UpdateTaskPatch

structure RetryTaskRequest where
  runId : Uuid
  taskId : Uuid
  expectedRunRevision : Nat
  expectedTaskRevision : Nat

structure RunDecisionRequest where
  runId : Uuid
  expectedRunRevision : Nat
  payload : Json

structure RunDecisionResult where
  run : RunRecord
  decision : String
  worktrees : List WorktreeAssignment

structure RestartReconciliationRequest where
  nowMillis : Nat

structure RestartReconciliationResult where
  reconciledRunIds : List Uuid
  resumableAgentIds : List Uuid
  blockedTaskIds : List Uuid
  resetDispatchIds : List Uuid
  timedOutGateIds : List Uuid

/-- Every coordinator operation that writes, with the arguments its caller chooses. -/
inductive Op where
  | createRun (request : CreateRunRequest)
  | startRun (request : RunRevisionRequest)
  | createTask (request : CreateTaskRequest)
  | scheduleReady (request : ScheduleRequest)
  | prepareDispatchLaunch (request : DispatchLaunchRequest)
  | completeDispatchLaunch (request : DispatchLaunchRequest) (result : DispatchLaunchResult)
  | reserveDispatchResources (reservation : DispatchResourceReservation)
  | updateDispatchWorktree (dispatchId : Uuid) (worktree : WorktreeAssignment)
  | recordDispatchAgentResource (dispatchId agentInstanceId : Uuid)
  | recordDispatchPaneResource (dispatchId paneId : Uuid) (rootPid processStartedAt : Option Nat)
      (processGeneration : Nat)
  | markDispatchResourceDisposition (dispatchId : Uuid)
      (paneDisposition worktreeDisposition : Option ResourceDisposition)
      (clearPaneIdentity clearWorktreeIdentity : Bool)
      (cleanupReason cleanupError : Option String)
  | recordPaneExit (paneId : Uuid) (exitCode : Option Int) (observedAt : Nat)
  | reconcileDaemonRestart (observedAt : Nat)
  | recordUnboundAgentLaunchFailure (request : AgentLaunchFailureRequest)
  | registerAgent (request : RegisterAgentRequest)
  | bindDispatch (request : BindDispatchRequest)
  | markDispatchRunning (identity : LifecycleIdentity) (observedAt : Nat)
  | recordLaunchFailure (request : LaunchFailureRequest)
  | heartbeat (request : HeartbeatRequest)
  | reconcileLiveness (request : ReconcileLivenessRequest)
  | workerDone (request : WorkerDoneRequest)
  | createGate (request : CreateGateRequest)
  | resolveGate (request : ResolveGateRequest)
  | markMergeApplied (request : MergeAppliedRequest)
  | markCleanupApplied (request : CleanupAppliedRequest)
  | cancelRun (request : RunRevisionRequest)
  | postMessage (request : PostMessageRequest)
  | acknowledgeEvents (request : AcknowledgeEventsRequest)
  | acknowledgeNotification (notificationId : Uuid)
  | updateTask (request : UpdateTaskRequest)
  | retryTask (request : RetryTaskRequest)
  | acceptRun (request : RunDecisionRequest)
  | rejectRun (request : RunDecisionRequest)
  | reconcileAfterRestart (request : RestartReconciliationRequest)

inductive Response where
  | run (run : RunRecord)
  | task (task : TaskRecord)
  | schedule (result : ScheduleResult)
  | preparation (preparation : DispatchLaunchPreparation)
  | launch (result : DispatchLaunchResult)
  | resource (resource : DispatchResourceRecord)
  | exited (dispatch : Option DispatchRecord)
  | reconciledRuns (runIds : List Uuid)
  | agent (agent : AgentInstanceRecord)
  | bound (bound : BoundDispatch)
  | launchFailure (result : LaunchFailureResult)
  | liveness (result : ReconcileLivenessResult)
  | workerDone (result : WorkerDoneResult)
  | gate (result : GateMutationResult)
  | message (message : MessageRecord)
  | acknowledgement (acknowledgement : EventAcknowledgement)
  | notification (notification : NotificationRecord)
  | decision (result : RunDecisionResult)
  | restart (result : RestartReconciliationResult)

/-- An `Option<Value>` holding `null` prints as `null`, which reads back as `None`. -/
def nonNull : Option Json → Option Json
  | some .null => none
  | value => value

def TaskRecord.throughJson (task : TaskRecord) : TaskRecord :=
  { task with result := nonNull task.result }

def DecisionGateRecord.throughJson (gate : DecisionGateRecord) : DecisionGateRecord :=
  { gate with resolution := nonNull gate.resolution }

/-- The response that a replay decodes from the recorded JSON text. -/
def Response.throughJson : Response → Response
  | .task t => .task t.throughJson
  | .bound b => .bound { b with task := b.task.throughJson }
  | .launchFailure r => .launchFailure { r with task := r.task.throughJson }
  | .workerDone r => .workerDone
      { r with
        task := r.task.throughJson
        mergeGate := r.mergeGate.map DecisionGateRecord.throughJson }
  | .gate r => .gate
      { r with
        gate := r.gate.throughJson
        cleanupGate := r.cleanupGate.map DecisionGateRecord.throughJson }
  | response => response

end VibeLink.Coordinator
