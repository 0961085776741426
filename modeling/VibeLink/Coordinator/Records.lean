import VibeLink.Relational.Table
import VibeLink.Coordinator.Json

/-! The rows of the control database that the coordinator reads and writes. -/

namespace VibeLink.Coordinator

open VibeLink.Relational

/-- Row ids are the texts of UUIDs, but a caller may send any text. -/
abbrev Uuid := String

inductive CoordinatorError where
  | notFound (entity : String)
  | conflict (reason : String)
  | staleRevision (entity : String) (expected current : Nat)
  | invalidTransition (reason : String)
  | invalidDependency (reason : String)
  | identityMismatch (reason : String)
  | invalidArgument (reason : String)
  | storage (reason : String)

inductive RunStatus where
  | queued | planning | running | waiting | paused | completed | failed | cancelled
  deriving DecidableEq, Repr

inductive OrchestrationTaskStatus where
  | pending | ready | dispatched | completed | failed | blocked | cancelled
  deriving DecidableEq, Repr

inductive DispatchStatus where
  | pending | dispatched | running | waiting | completed | failed | circuitBroken | cancelled
  deriving DecidableEq, Repr

inductive GateStatus where
  | pending | resolved | timeout | cancelled
  deriving DecidableEq, Repr

inductive MessageType where
  | status | dispatch | workerDone | mergeReady | escalation | handoff | decisionGate | heartbeat
  | chat
  deriving DecidableEq, Repr

inductive AgentLifecycleStatus where
  | registered | starting | running | waiting | reconciling | completed | failed | lost
  | cancelled | stopped
  deriving DecidableEq, Repr

inductive AgentProvider where
  | hermesAcp | ptyCli
  deriving DecidableEq, Repr

inductive ResourceDisposition where
  | notCreated | live | cleaned | retained | cleanupFailed | unknown
  deriving DecidableEq, Repr

inductive WorktreeMode where
  | reuse | worktree
  deriving DecidableEq, Repr

def RunStatus.isTerminal : RunStatus → Bool
  | .completed | .failed | .cancelled => true
  | _ => false

def DispatchStatus.isActive : DispatchStatus → Bool
  | .pending | .dispatched | .running | .waiting => true
  | _ => false

def AgentLifecycleStatus.isActive : AgentLifecycleStatus → Bool
  | .starting | .running | .waiting | .reconciling => true
  | _ => false

/-- `status NOT IN ('completed','failed','blocked','cancelled')` -/
def OrchestrationTaskStatus.isOpen : OrchestrationTaskStatus → Bool
  | .completed | .failed | .blocked | .cancelled => false
  | _ => true

def runStatusText : RunStatus → String
  | .queued => "queued"
  | .planning => "planning"
  | .running => "running"
  | .waiting => "waiting"
  | .paused => "paused"
  | .completed => "completed"
  | .failed => "failed"
  | .cancelled => "cancelled"

def taskStatusText : OrchestrationTaskStatus → String
  | .pending => "pending"
  | .ready => "ready"
  | .dispatched => "dispatched"
  | .completed => "completed"
  | .failed => "failed"
  | .blocked => "blocked"
  | .cancelled => "cancelled"

def providerText : AgentProvider → String
  | .hermesAcp => "hermes_acp"
  | .ptyCli => "pty_cli"

def messageTypeText : MessageType → String
  | .status => "status"
  | .dispatch => "dispatch"
  | .workerDone => "worker_done"
  | .mergeReady => "merge_ready"
  | .escalation => "escalation"
  | .handoff => "handoff"
  | .decisionGate => "decision_gate"
  | .heartbeat => "heartbeat"
  | .chat => "chat"

/-- `{:?}` of a status, as the error texts show it. -/
def RunStatus.debug : RunStatus → String
  | .queued => "Queued"
  | .planning => "Planning"
  | .running => "Running"
  | .waiting => "Waiting"
  | .paused => "Paused"
  | .completed => "Completed"
  | .failed => "Failed"
  | .cancelled => "Cancelled"

def OrchestrationTaskStatus.debug : OrchestrationTaskStatus → String
  | .pending => "Pending"
  | .ready => "Ready"
  | .dispatched => "Dispatched"
  | .completed => "Completed"
  | .failed => "Failed"
  | .blocked => "Blocked"
  | .cancelled => "Cancelled"

def DispatchStatus.debug : DispatchStatus → String
  | .pending => "Pending"
  | .dispatched => "Dispatched"
  | .running => "Running"
  | .waiting => "Waiting"
  | .completed => "Completed"
  | .failed => "Failed"
  | .circuitBroken => "CircuitBroken"
  | .cancelled => "Cancelled"

def GateStatus.debug : GateStatus → String
  | .pending => "Pending"
  | .resolved => "Resolved"
  | .timeout => "Timeout"
  | .cancelled => "Cancelled"

def AgentLifecycleStatus.debug : AgentLifecycleStatus → String
  | .registered => "Registered"
  | .starting => "Starting"
  | .running => "Running"
  | .waiting => "Waiting"
  | .reconciling => "Reconciling"
  | .completed => "Completed"
  | .failed => "Failed"
  | .lost => "Lost"
  | .cancelled => "Cancelled"
  | .stopped => "Stopped"

/-- A `u64` bound `as i64`: from `2 ^ 63` on the stored integer is negative. -/
def asI64 (n : Nat) : Int :=
  if n % UInt64.size < UInt64.size / 2 then ((n % UInt64.size : Nat) : Int)
  else ((n % UInt64.size : Nat) : Int) - UInt64.size

def nonnegative (value : Int) : Nat := value.toNat

/-- What a column written from a `u64` reads back as. -/
def stored (n : Nat) : Nat := nonnegative (asI64 n)

/-- `max_concurrent` is a `u32`; the code rejects zero when it creates the run. -/
structure RunPolicy where
  maxConcurrent : UInt32
  deriving DecidableEq

/-- Revisions count the writes to a run or a task, one by one from zero. -/
structure RunRecord where
  id : Uuid
  sessionId : String
  goal : String
  status : RunStatus
  revision : Nat
  policy : RunPolicy
  createdAt : Nat
  updatedAt : Nat

/-- The rows of `task_dependencies` are written with the task and never again, so they
are kept in its record. -/
structure TaskRecord where
  id : Uuid
  runId : Uuid
  title : String
  description : String
  status : OrchestrationTaskStatus
  revision : Nat
  position : Nat
  dependencies : List Uuid
  result : Option Json
  createdAt : Nat
  updatedAt : Nat

structure WorktreeAssignment where
  worktreeId : Option String
  instanceId : Option String
  baseRevision : String
  branch : String
  worktreePath : String
  deriving DecidableEq

structure DispatchLaunchClaimRecord where
  operationId : Uuid
  commandDigest : String
  profile : Option String
  worktreeMode : WorktreeMode

structure DispatchResourceRecord where
  sessionId : String
  repositoryRoot : Option String
  relativePrefix : String
  launchPath : Option String
  agentInstanceId : Option Uuid
  paneId : Option Uuid
  rootPid : Option Nat
  processStartedAt : Option Nat
  processGeneration : Option Nat
  worktree : Option WorktreeAssignment
  paneDisposition : ResourceDisposition
  worktreeDisposition : ResourceDisposition
  cleanupReason : Option String
  cleanupError : Option String

/-- A row of `dispatches`; its five worktree columns are set and cleared together. -/
structure DispatchRow where
  id : Uuid
  taskId : Uuid
  attempt : Nat
  agentInstanceId : Option Uuid
  status : DispatchStatus
  paneId : Option Uuid
  processGeneration : Option Nat
  worktree : Option WorktreeAssignment
  failureCode : Option String
  createdAt : Nat
  updatedAt : Nat

structure DispatchRecord extends DispatchRow where
  launchClaim : Option DispatchLaunchClaimRecord
  resources : Option DispatchResourceRecord

structure AgentInstanceRecord where
  id : Uuid
  provider : AgentProvider
  profile : Option String
  workspacePath : String
  worktreePath : Option String
  runtimeIdentity : Option String
  status : AgentLifecycleStatus
  resumable : Bool
  generation : Nat
  lastHeartbeatAt : Option Int
  createdAt : Nat
  updatedAt : Nat

structure MessageRecord where
  id : Uuid
  runId : Uuid
  taskId : Option Uuid
  dispatchId : Option Uuid
  parentId : Option Uuid
  senderKind : String
  messageType : MessageType
  payload : Json
  unread : Bool
  deliveredAt : Option Nat
  createdAt : Nat

structure DecisionGateRecord where
  id : Uuid
  runId : Uuid
  taskId : Option Uuid
  dispatchId : Option Uuid
  status : GateStatus
  gateType : String
  prompt : String
  options : List String
  resolution : Option Json
  expiresAt : Option Int
  createdAt : Nat
  updatedAt : Nat

structure RunEventRecord where
  sequence : Nat
  runId : Option Uuid
  domain : String
  eventType : String
  entityId : Option Uuid
  operationId : Option Uuid
  payload : Json
  createdAt : Nat

structure EventAcknowledgement where
  consumerId : String
  runId : Uuid
  acknowledgedSequence : Nat
  updatedAt : Nat

structure NotificationRecord where
  id : Uuid
  sequence : Nat
  kind : String
  entityId : Option Uuid
  unread : Bool
  acknowledgedAt : Option Nat
  payload : Json
  createdAt : Nat

structure RunDecisionRow where
  runId : Uuid
  decision : String
  payload : Json
  revision : Nat
  createdAt : Nat
  updatedAt : Nat

structure LifecycleIdentity where
  taskId : Uuid
  dispatchId : Uuid
  agentInstanceId : Uuid
  paneId : Option Uuid
  processGeneration : Nat

end VibeLink.Coordinator
