import VibeLink.Coordinator.Effects
import VibeLink.Coordinator.Service

/-! Which moves of the ledger a call may make, seen from the store that it finds. -/

namespace VibeLink.Coordinator

open VibeLink.Relational

def Call.Fresh (s : Store) (call : Call) : Prop := s.operations.find call.operationId = none

namespace Store

def RunAt (s : Store) (runId : Uuid) (revision : Nat) : Prop :=
  ∃ run, s.ledger.runs runId = some run ∧ run.revision = revision

def TaskAt (s : Store) (taskId : Uuid) (revision : Nat) : Prop :=
  ∃ task, s.ledger.tasks taskId = some task ∧ task.revision = revision

/-- `validate_identity` accepts: the row is the dispatch that the identity names. -/
structure Identifies (s : Store) (identity : LifecycleIdentity) (row : DispatchRow) : Prop where
  found : s.ledger.dispatches row.id = some row
  dispatch : row.id = identity.dispatchId
  task : row.taskId = identity.taskId
  agent : row.agentInstanceId = some identity.agentInstanceId
  pane : row.paneId = identity.paneId
  process : row.processGeneration = some identity.processGeneration
  generation : ∃ agent, s.ledger.agents identity.agentInstanceId = some agent ∧
    agent.generation = identity.processGeneration

/-- `validate_scope` accepts. -/
def InScope (s : Store) (runId : Uuid) (taskId dispatchId : Option Uuid) : Prop :=
  (validateScope runId taskId dispatchId s).1 = .ok ()

/-- What the adapters observed is about the processes that the silent agents run. -/
def Observed (s : Store) (request : ReconcileLivenessRequest) : Prop :=
  ∀ agentId row, (agentId, row) ∈ s.staleDispatches request.runId (livenessCutoff request) →
    ∀ agent, s.ledger.agents agentId = some agent → ∀ o, observationOf request agentId = some o →
      (∀ runtimeIdentity, o.runtimeIdentity = some runtimeIdentity →
        agent.runtimeIdentity = some runtimeIdentity) ∧
      ∀ generation, o.generation = some generation → generation = agent.generation

/-- The task of the dispatch belongs to a run that a restart looks at. -/
def Interrupted (s : Store) (row : DispatchRow) : Prop :=
  ∃ task, s.ledger.tasks row.taskId = some task ∧ task.runId ∈ s.interruptedRuns

end Store

section Guards

variable (s : Store) (call : Call)

/-- The call is an `update_task` that passes its checks and leaves the task at `new`. -/
def Edits (taskId : Uuid) (new : OrchestrationTaskStatus) : Prop :=
  ∃ request task, call.op = .updateTask request ∧ call.Fresh s ∧ request.taskId = taskId ∧
    s.RunAt request.runId request.expectedRunRevision ∧ s.ledger.tasks taskId = some task ∧
    task.runId = request.runId ∧ task.revision = request.expectedTaskRevision ∧
    (∀ title, request.patch.title = some title → trim title ≠ "") ∧
    request.patch.status.getD task.status = new

/-- The call reports the end of an active dispatch, which sets the status of its task. -/
def Reports (row : DispatchRow) (new : DispatchStatus) : Prop :=
  match call.op with
  | .workerDone request => call.Fresh s ∧ s.Identifies request.identity row ∧
      (row.status = .running ∨ row.status = .waiting) ∧
      s.TaskAt row.taskId request.expectedTaskRevision
  | .recordLaunchFailure request => new ≠ .completed ∧ call.Fresh s ∧ row.id = request.dispatchId ∧
      (row.status = .pending ∨ row.status = .dispatched) ∧
      s.TaskAt row.taskId request.expectedTaskRevision ∧ trim request.failureCode ≠ ""
  | .recordPaneExit paneId _ _ => new ≠ .completed ∧ s.dispatchOfPane paneId = some row.id ∧
      intentionalCleanup ((s.resources.find row.id).bind fun r => r.cleanupReason) = false
  | .reconcileLiveness request => new ≠ .completed ∧ call.Fresh s ∧
      s.RunAt request.runId request.expectedRunRevision ∧ s.Observed request ∧
      ∃ agentId agent, (agentId, row) ∈ s.staleDispatches request.runId (livenessCutoff request) ∧
        s.ledger.agents agentId = some agent ∧
        (reconcileVerdict ((observationOf request agentId).map AgentObservation.status)
          agent.resumable).2.2.2 = true
  | .reconcileDaemonRestart _ => new ≠ .completed ∧ row.status ≠ .pending ∧ s.Interrupted row
  | .reconcileAfterRestart _ => new ≠ .completed ∧ call.Fresh s ∧ s.Interrupted row ∧
      ∃ agentId agent, row.agentInstanceId = some agentId ∧ s.ledger.agents agentId = some agent ∧
        agent.resumable = false
  | _ => False

/-- The call says that a dispatch runs, whatever gates it waits for. -/
def Announces (dispatchId : Uuid) : Prop :=
  match call.op with
  | .markDispatchRunning identity _ => call.Fresh s ∧
      ∃ row, s.Identifies identity row ∧ row.id = dispatchId ∧
        (row.status = .dispatched ∨ row.status = .waiting)
  | .reconcileLiveness request => call.Fresh s ∧
      s.RunAt request.runId request.expectedRunRevision ∧ s.Observed request ∧
      ∃ agentId row, (agentId, row) ∈ s.staleDispatches request.runId (livenessCutoff request) ∧
        row.id = dispatchId ∧
        (observationOf request agentId).map AgentObservation.status = some .running
  | _ => False

def OpensGate (runId : Uuid) : Prop :=
  match call.op with
  | .createGate request => call.Fresh s ∧ request.runId = runId ∧
      s.RunAt runId request.expectedRunRevision ∧ trim request.gateType ≠ "" ∧
      trim request.prompt ≠ "" ∧ s.InScope runId request.taskId request.dispatchId
  | .markMergeApplied request => call.Fresh s ∧ s.RunAt runId request.expectedRunRevision ∧
      trim request.commitId ≠ "" ∧ ∃ gate, s.ledger.gates request.gateId = some gate ∧ gate.runId = runId ∧
        gate.gateType = "merge" ∧ gate.status = .resolved ∧ approved gate.resolution ∧
        ¬applied gate.resolution
  | .workerDone _ => ∃ d, s.ledger.ActiveIn runId d
  | _ => False

/-- The call gives the run a status without a look at the status it has. -/
def Reopens (runId : Uuid) : Prop :=
  OpensGate s call runId ∨
  match call.op with
  | .acceptRun request => call.Fresh s ∧ request.runId = runId ∧
      s.RunAt runId request.expectedRunRevision ∧
      (∀ i task, s.ledger.tasks i = some task → task.runId = runId → task.status = .completed) ∧
      ∀ i gate, s.ledger.gates i = some gate → gate.runId = runId → gate.status ≠ .pending
  | .retryTask request => request.runId = runId
  | .resolveGate _ => ∃ i gate, s.ledger.gates i = some gate ∧ gate.runId = runId ∧
      gate.status = .pending
  | _ => False

/-- The moves that a call may make from `L`, when it began in `s`. -/
def Permits (L : Ledger) : Label → Prop
  | .setRun runId old _ => old = .cancelled → L.runs = s.ledger.runs ∧ Reopens s call runId
  | .cancelRun runId => (∃ request, call.op = .cancelRun request ∧ request.runId = runId) ∨
      ∃ request, call.op = .rejectRun request ∧ request.runId = runId
  | .editTask taskId _ new => L = s.ledger ∧ Edits s call taskId new
  | .retry taskId => ∃ request, call.op = .retryTask request ∧ request.taskId = taskId
  | .dispatch _ _ => (∃ request, call.op = .scheduleReady request) ∨
      ∃ request, call.op = .prepareDispatchLaunch request
  | .advance dispatchId new => new = .running → Announces s call dispatchId
  | .resume _ => (∃ request, call.op = .heartbeat request) ∨ ∃ request, call.op = .resolveGate request
  | .finish dispatchId new taskId => ∃ row, s.ledger.dispatches dispatchId = some row ∧
      row.status.isActive ∧ row.taskId = taskId ∧ Reports s call row new
  | .openGate runId _ _ => L.runs = s.ledger.runs ∧ OpensGate s call runId
  | .resolve gateId resolution => L = s.ledger ∧ ∃ request gate, call.op = .resolveGate request ∧
      call.Fresh s ∧ request.gateId = gateId ∧ request.resolution = resolution ∧
      s.ledger.gates gateId = some gate ∧ s.RunAt gate.runId request.expectedRunRevision
  | .apply gateId => L = s.ledger ∧ ∃ gate, s.ledger.gates gateId = some gate ∧
      ((∃ request, call.op = .markMergeApplied request ∧ request.gateId = gateId ∧
        gate.gateType = "merge") ∨
      ∃ request, call.op = .markCleanupApplied request ∧ request.gateId = gateId ∧
        gate.gateType = "cleanup")
  | .openLaunch operationId => operationId = call.operationId ∧
      ∃ request, call.op = .prepareDispatchLaunch request
  | .reviseLaunch operationId => operationId = call.operationId
  | .claim _ operationId => operationId = call.operationId ∧
      ∃ request, call.op = .prepareDispatchLaunch request
  | _ => True

/-- The call carries the revision `expected` for the run: `expected_run_revision`. -/
def Expects (runId : Uuid) (expected : Nat) : Prop :=
  match call.op with
  | .startRun request => request.runId = runId ∧ request.expectedRunRevision = expected
  | .createTask request => request.runId = runId ∧ request.expectedRunRevision = expected
  | .scheduleReady request => request.runId = runId ∧ request.expectedRunRevision = expected
  | .prepareDispatchLaunch request => request.runId = runId ∧ request.expectedRunRevision = expected
  | .reconcileLiveness request => request.runId = runId ∧ request.expectedRunRevision = expected
  | .createGate request => request.runId = runId ∧ request.expectedRunRevision = expected
  | .resolveGate request => request.expectedRunRevision = expected ∧
      ∃ gate, s.ledger.gates request.gateId = some gate ∧ gate.runId = runId
  | .markMergeApplied request => request.expectedRunRevision = expected ∧
      ∃ gate, s.ledger.gates request.gateId = some gate ∧ gate.runId = runId
  | .markCleanupApplied request => request.expectedRunRevision = expected ∧
      ∃ gate, s.ledger.gates request.gateId = some gate ∧ gate.runId = runId
  | .cancelRun request => request.runId = runId ∧ request.expectedRunRevision = expected
  | .updateTask request => request.runId = runId ∧ request.expectedRunRevision = expected
  | .retryTask request => request.runId = runId ∧ request.expectedRunRevision = expected
  | .acceptRun request => request.runId = runId ∧ request.expectedRunRevision = expected
  | .rejectRun request => request.runId = runId ∧ request.expectedRunRevision = expected
  | _ => False

def Ledger.SamePlan (L L' : Ledger) : Prop :=
  L'.tasks = L.tasks ∧ L'.dispatches = L.dispatches ∧ L'.gates = L.gates

/-- What a successful call does to the ledger. -/
structure Outcome (L : Ledger) : Prop where
  chain : Chain Move (Permits s call) s.ledger L
  fence : ∀ runId expected, Expects s call runId expected → s.ledger.SamePlan L ∨
    s.RunAt runId expected ∧ ∃ run, L.runs runId = some run ∧ expected < run.revision

end Guards

theorem fence_of_put {s : Store} {L L' : Ledger} {runId : Uuid} {expected : Nat}
    {old new : RunRecord} (row : s.ledger.runs old.id = some old) (hid : old.id = runId)
    (hrev : old.revision = expected) (h : L' = L.putRun new) (same : new.id = old.id)
    (grows : old.revision < new.revision) :
    s.RunAt runId expected ∧ ∃ run, L'.runs runId = some run ∧ expected < run.revision := by
  subst hid hrev h
  exact ⟨⟨old, row, rfl⟩, new, by simp [← same], grows⟩

theorem Ledger.SamePlan.refl (L : Ledger) : L.SamePlan L := ⟨rfl, rfl, rfl⟩

theorem Outcome.refl (s : Store) (call : Call) : Outcome s call s.ledger :=
  ⟨.refl, fun _ _ _ => .inl (.refl _)⟩

theorem wlp_refresh_chain {env : Env} {s : Store} {run : RunRecord} {Q : RunRecord → Store → Prop}
    {A : Ledger → Label → Prop} {L : Ledger} (c : Chain Move A L s.ledger)
    (row : s.ledger.runs run.id = some run)
    (allowed : ∀ L runId old new, old ≠ .cancelled → A L (.setRun runId old new))
    (k : ∀ run' s', Chain Move A L s'.ledger → run'.id = run.id → run.revision ≤ run'.revision →
      s'.ledger = s.ledger.putRun run' → Q run' s') :
    (refreshTerminalRunStatus env run).wlp Q s := by
  refine wlp_refreshTerminalRunStatus row ?_ ?_
  · exact k run s c rfl le_rfl (Ledger.putRun_self row).symm
  · intro hold status hstatus s' h
    exact k _ s' (c.step h (allowed _ _ _ _ hold) (.setRun row hstatus env.now)) rfl
      (Nat.le_succ _) h

end VibeLink.Coordinator
