import VibeLink.Relational.Runs
import VibeLink.Coordinator.Scheduling
import VibeLink.Coordinator.Resources

/-! The coordinator as one state machine: a call after another, from an empty database. -/

namespace VibeLink.Coordinator

open VibeLink.Relational

/-- One call of the service, with the operation id of its caller and the clock and random
ids it happens to see. -/
structure Call where
  operationId : Uuid
  env : Env
  op : Op

variable (platform : Platform)

def perform (call : Call) : CoordinatorResult Response :=
  match call.op with
  | .createRun request => createRun platform call.env call.operationId request
  | .startRun request => startRun platform call.env call.operationId request
  | .createTask request => createTask platform call.env call.operationId request
  | .scheduleReady request => scheduleReady platform call.env call.operationId request
  | .prepareDispatchLaunch request => prepareDispatchLaunch platform call.env call.operationId request
  | .completeDispatchLaunch request result =>
    completeDispatchLaunch platform call.env call.operationId request result
  | .reserveDispatchResources reservation =>
    reserveDispatchResources call.env call.operationId reservation
  | .updateDispatchWorktree dispatchId worktree =>
    updateDispatchWorktree call.env call.operationId dispatchId worktree
  | .recordDispatchAgentResource dispatchId agentInstanceId =>
    recordDispatchAgentResource call.env call.operationId dispatchId agentInstanceId
  | .recordDispatchPaneResource dispatchId paneId rootPid processStartedAt processGeneration =>
    recordDispatchPaneResource call.env call.operationId dispatchId paneId rootPid processStartedAt
      processGeneration
  | .markDispatchResourceDisposition dispatchId paneDisposition worktreeDisposition
      clearPaneIdentity clearWorktreeIdentity cleanupReason cleanupError =>
    markDispatchResourceDisposition call.env dispatchId paneDisposition worktreeDisposition
      clearPaneIdentity clearWorktreeIdentity cleanupReason cleanupError
  | .recordPaneExit paneId exitCode observedAt =>
    recordPaneExit call.env call.operationId paneId exitCode observedAt
  | .reconcileDaemonRestart observedAt => reconcileDaemonRestart call.env call.operationId observedAt
  | .recordUnboundAgentLaunchFailure request =>
    recordUnboundAgentLaunchFailure platform call.env call.operationId request
  | .registerAgent request => registerAgent platform call.env call.operationId request
  | .bindDispatch request => bindDispatch platform call.env call.operationId request
  | .markDispatchRunning identity observedAt =>
    markDispatchRunning platform call.env call.operationId identity observedAt
  | .recordLaunchFailure request => recordLaunchFailure platform call.env call.operationId request
  | .heartbeat request => heartbeat platform call.env call.operationId request
  | .reconcileLiveness request => reconcileLiveness platform call.env call.operationId request
  | .workerDone request => workerDone platform call.env call.operationId request
  | .createGate request => createGate platform call.env call.operationId request
  | .resolveGate request => resolveGate platform call.env call.operationId request
  | .markMergeApplied request => markMergeApplied platform call.env call.operationId request
  | .markCleanupApplied request => markCleanupApplied platform call.env call.operationId request
  | .cancelRun request => cancelRun platform call.env call.operationId request
  | .postMessage request => postMessage platform call.env call.operationId request
  | .acknowledgeEvents request => acknowledgeEvents platform call.env call.operationId request
  | .acknowledgeNotification notificationId =>
    acknowledgeNotification platform call.env call.operationId notificationId
  | .updateTask request => updateTaskOperation platform call.env call.operationId request
  | .retryTask request => retryTask platform call.env call.operationId request
  | .acceptRun request => acceptRun platform call.env call.operationId request
  | .rejectRun request => rejectRun platform call.env call.operationId request
  | .reconcileAfterRestart request =>
    reconcileAfterRestart platform call.env call.operationId request

def next (s : Store) (call : Call) : Store := (perform platform call s).2

def run (calls : List Call) : Store := calls.foldl (next platform) .empty

theorem run_append (before after : List Call) :
    run platform (before ++ after) = after.foldl (next platform) (run platform before) :=
  List.foldl_append

theorem run_snoc (calls : List Call) (call : Call) :
    run platform (calls ++ [call]) = next platform (run platform calls) call :=
  run_append platform calls [call]

/-- Each call of the run meets `P` in the store it finds. -/
def EveryCall (P : Store → Call → Prop) (calls : List Call) : Prop :=
  Throughout (next platform) P .empty calls

instance {P : Store → Call → Prop} [∀ s call, Decidable (P s call)] (calls : List Call) :
    Decidable (EveryCall platform P calls) :=
  inferInstanceAs (Decidable (Throughout (next platform) P .empty calls))

/-- A platform to try the service on, which tells requests apart by the texts they carry. -/
def Platform.plain : Platform where
  requestHash
    | .createRun request => s!"run {request.goal}"
    | .createTask request => s!"task {request.title}"
    | .startRun request => s!"start {request.runId}"
    | .cancelRun request => s!"cancel {request.runId}"
    | .prepareDispatchLaunch request => request.command
    | _ => ""
  digestHex text := text
  isUuid _ := true

def Call.plain (operationId : Uuid) (op : Op) : Call where
  operationId
  env := { now := 1, uuid := fun i => s!"{operationId}-{i}" }
  op

end VibeLink.Coordinator
