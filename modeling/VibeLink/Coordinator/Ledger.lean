import Mathlib.Tactic.Simps.Basic
import VibeLink.Relational.Runs
import VibeLink.Coordinator.Durable

/-! The coordinator seen as a ledger of runs, tasks, dispatches, agents, gates and launches,
and the moves that such a ledger may make. -/

namespace VibeLink.Coordinator

open VibeLink.Relational

structure Ledger where
  runs : Uuid → Option RunRecord
  tasks : Uuid → Option TaskRecord
  dispatches : Uuid → Option DispatchRow
  agents : Uuid → Option AgentInstanceRecord
  gates : Uuid → Option DecisionGateRecord
  launches : Uuid → Option LaunchOperationRow
  claims : Uuid → Option LaunchClaimRow

namespace Ledger

def empty : Ledger where
  runs _ := none
  tasks _ := none
  dispatches _ := none
  agents _ := none
  gates _ := none
  launches _ := none
  claims _ := none

@[simps] def putRun (L : Ledger) (run : RunRecord) : Ledger :=
  { L with runs := Function.update L.runs run.id (some run) }

@[simps] def putTask (L : Ledger) (task : TaskRecord) : Ledger :=
  { L with tasks := Function.update L.tasks task.id (some task) }

@[simps] def putDispatch (L : Ledger) (dispatch : DispatchRow) : Ledger :=
  { L with dispatches := Function.update L.dispatches dispatch.id (some dispatch) }

@[simps] def putAgent (L : Ledger) (agent : AgentInstanceRecord) : Ledger :=
  { L with agents := Function.update L.agents agent.id (some agent) }

@[simps] def putGate (L : Ledger) (gate : DecisionGateRecord) : Ledger :=
  { L with gates := Function.update L.gates gate.id (some gate) }

@[simps] def putLaunch (L : Ledger) (launch : LaunchOperationRow) : Ledger :=
  { L with launches := Function.update L.launches launch.operationId (some launch) }

@[simps] def putClaim (L : Ledger) (claim : LaunchClaimRow) : Ledger :=
  { L with claims := Function.update L.claims claim.dispatchId (some claim) }

def ActiveIn (L : Ledger) (runId dispatchId : Uuid) : Prop :=
  ∃ row, L.dispatches dispatchId = some row ∧ row.status.isActive ∧
    (L.tasks row.taskId).map TaskRecord.runId = some runId

/-- Fewer than `n` dispatches of the run are active. -/
def ActiveBelow (L : Ledger) (runId : Uuid) (n : Nat) : Prop :=
  ∀ ds : Finset Uuid, (∀ d ∈ ds, L.ActiveIn runId d) → ds.card < n

def GatePending (L : Ledger) (dispatchId : Uuid) : Prop :=
  ∃ i gate, L.gates i = some gate ∧ gate.dispatchId = some dispatchId ∧ gate.status = .pending

def DependenciesMet (L : Ledger) (task : TaskRecord) : Prop :=
  ∀ d ∈ task.dependencies, ∀ dependency, L.tasks d = some dependency →
    dependency.status = .completed

/-- No run has more active dispatches than its policy lets run at once. -/
def WithinPolicy (L : Ledger) : Prop :=
  ∀ runId run, L.runs runId = some run → L.ActiveBelow runId (run.policy.maxConcurrent.toNat + 1)

/-- What `cancel_run` and a rejection do to a run and all it has open. -/
def cancelRun (L : Ledger) (run : RunRecord) (now : Nat) : Ledger :=
  { L with
    runs := Function.update L.runs run.id
      (some { run with status := .cancelled, revision := run.revision + 1, updatedAt := now })
    tasks := modifyAll L.tasks fun t =>
      if t.runId = run.id ∧ t.status.isOpen then
        { t with status := .cancelled, revision := t.revision + 1, updatedAt := now }
      else t
    dispatches := modifyAll L.dispatches fun d =>
      if (L.tasks d.taskId).map TaskRecord.runId = some run.id ∧ d.status.isActive then
        { d with status := .cancelled, updatedAt := now }
      else d
    gates := modifyAll L.gates fun g =>
      if g.runId = run.id ∧ g.status = .pending then
        { g with status := .cancelled, updatedAt := now }
      else g }

end Ledger

def TaskRecord.place (task : TaskRecord) : Uuid × Nat := (task.runId, task.position)

/-- A task row rewritten: what the task is stays, and its revision grows. -/
structure TaskRecord.Revises (new old : TaskRecord) : Prop where
  id : new.id = old.id
  runId : new.runId = old.runId
  position : new.position = old.position
  dependencies : new.dependencies = old.dependencies
  revision : old.revision < new.revision

/-- A gate row rewritten: what the gate asks for stays. -/
structure DecisionGateRecord.Rewrites (new old : DecisionGateRecord) : Prop where
  id : new.id = old.id
  runId : new.runId = old.runId
  dispatchId : new.dispatchId = old.dispatchId
  gateType : new.gateType = old.gateType

inductive Label where
  | openRun (runId : Uuid)
  | bumpRun (runId : Uuid)
  | setRun (runId : Uuid) (old new : RunStatus)
  | cancelRun (runId : Uuid)
  | addTask (taskId : Uuid)
  | reviseTask (taskId : Uuid)
  | editTask (taskId : Uuid) (old new : OrchestrationTaskStatus)
  | promote (taskId : Uuid)
  | block (taskId : Uuid)
  | retry (taskId : Uuid)
  | dispatch (taskId dispatchId : Uuid)
  | reviseDispatch (dispatchId : Uuid)
  | advance (dispatchId : Uuid) (new : DispatchStatus)
  | resume (dispatchId : Uuid)
  | finish (dispatchId : Uuid) (new : DispatchStatus) (taskId : Uuid)
  | release (dispatchId : Uuid)
  | addAgent (agentId : Uuid)
  | reviseAgents
  | openGate (runId : Uuid) (old : RunStatus) (dispatchId : Option Uuid)
  | expireGates
  | resolve (gateId : Uuid) (resolution : Json)
  | apply (gateId : Uuid)
  | openLaunch (operationId : Uuid)
  | reviseLaunch (operationId : Uuid)
  | claim (dispatchId operationId : Uuid)

/-- One move of the ledger.  Whoever makes it, these are its terms. -/
inductive Move : Label → Ledger → Ledger → Prop where
  | openRun {L : Ledger} {run : RunRecord} (fresh : L.runs run.id = none)
      (status : run.status = .queued) : Move (.openRun run.id) L (L.putRun run)
  | bumpRun {L : Ledger} {run : RunRecord} (row : L.runs run.id = some run) (now : Nat) :
      Move (.bumpRun run.id) L
        (L.putRun { run with revision := run.revision + 1, updatedAt := now })
  | setRun {L : Ledger} {run : RunRecord} {status : RunStatus} (row : L.runs run.id = some run)
      (open_ : status ≠ .cancelled) (now : Nat) :
      Move (.setRun run.id run.status status) L
        (L.putRun { run with status, revision := run.revision + 1, updatedAt := now })
  | cancelRun {L : Ledger} {run : RunRecord} (row : L.runs run.id = some run) (now : Nat) :
      Move (.cancelRun run.id) L (L.cancelRun run now)
  | addTask {L : Ledger} {task : TaskRecord} (fresh : L.tasks task.id = none)
      (run : (L.runs task.runId).isSome) (status : task.status = .pending)
      (dependencies : ∀ d ∈ task.dependencies, ∃ t, L.tasks d = some t ∧ t.runId = task.runId)
      (last : ∀ i t, L.tasks i = some t → t.runId = task.runId → t.position < task.position) :
      Move (.addTask task.id) L (L.putTask task)
  | reviseTask {L : Ledger} {old new : TaskRecord} (row : L.tasks new.id = some old)
      (revises : new.Revises old) (status : new.status = old.status) :
      Move (.reviseTask new.id) L (L.putTask new)
  | editTask {L : Ledger} {old new : TaskRecord} (row : L.tasks new.id = some old)
      (revises : new.Revises old) (allowed : manualTransitionAllowed old.status new.status) :
      Move (.editTask new.id old.status new.status) L (L.putTask new)
  | promote {L : Ledger} {old new : TaskRecord} (row : L.tasks new.id = some old)
      (revises : new.Revises old) (pending : old.status = .pending) (ready : new.status = .ready)
      (met : L.DependenciesMet old) : Move (.promote new.id) L (L.putTask new)
  | block {L : Ledger} {old new : TaskRecord} (row : L.tasks new.id = some old)
      (revises : new.Revises old) (pending : old.status = .pending)
      (blocked : new.status = .blocked) : Move (.block new.id) L (L.putTask new)
  | retry {L : Ledger} {old new : TaskRecord} (row : L.tasks new.id = some old)
      (revises : new.Revises old)
      (stopped : old.status = .failed ∨ old.status = .blocked ∨ old.status = .cancelled)
      (next : new.status = .pending ∨ new.status = .ready ∧ L.DependenciesMet old) :
      Move (.retry new.id) L (L.putTask new)
  | dispatch {L : Ledger} {run : RunRecord} {old new : TaskRecord} {row : DispatchRow}
      (run_row : L.runs run.id = some run) (live : run.status = .running ∨ run.status = .waiting)
      (task_row : L.tasks new.id = some old) (run_id : old.runId = run.id)
      (revises : new.Revises old) (ready : old.status = .ready)
      (dispatched : new.status = .dispatched) (fresh : L.dispatches row.id = none)
      (task_id : row.taskId = new.id) (pending : row.status = .pending)
      (capacity : L.ActiveBelow run.id run.policy.maxConcurrent.toNat) :
      Move (.dispatch new.id row.id) L ((L.putDispatch row).putTask new)
  | reviseDispatch {L : Ledger} {old new : DispatchRow} (row : L.dispatches new.id = some old)
      (task_id : new.taskId = old.taskId) (status : new.status = old.status) :
      Move (.reviseDispatch new.id) L (L.putDispatch new)
  | advance {L : Ledger} {old new : DispatchRow} (row : L.dispatches new.id = some old)
      (task_id : new.taskId = old.taskId) (active : old.status.isActive)
      (still : new.status.isActive) (bound : new.status ≠ .pending)
      (first : new.status = .dispatched → old.status = .pending) :
      Move (.advance new.id new.status) L (L.putDispatch new)
  | resume {L : Ledger} {old new : DispatchRow} (row : L.dispatches new.id = some old)
      (task_id : new.taskId = old.taskId) (waiting : old.status = .waiting)
      (running : new.status = .running) (settled : ¬L.GatePending new.id) :
      Move (.resume new.id) L (L.putDispatch new)
  | finish {L : Ledger} {old new : DispatchRow} {task task' : TaskRecord}
      (row : L.dispatches new.id = some old) (task_id : new.taskId = old.taskId)
      (active : old.status.isActive) (final : new.status.isActive = false)
      (task_row : L.tasks task'.id = some task) (owner : task'.id = old.taskId)
      (revises : task'.Revises task)
      (report : task'.status = .completed ∧ new.status = .completed ∨
        new.status ≠ .completed ∧
          (task'.status = .ready ∨ task'.status = .failed ∨ task'.status = .blocked)) :
      Move (.finish new.id new.status task'.id) L ((L.putDispatch new).putTask task')
  | release {L : Ledger} {old new : DispatchRow} {task task' : TaskRecord}
      (row : L.dispatches new.id = some old) (task_id : new.taskId = old.taskId)
      (active : old.status.isActive) (failed : new.status = .failed)
      (task_row : L.tasks task'.id = some task) (owner : task'.id = old.taskId)
      (reset : task.status = .dispatched ∧ task'.status = .ready ∧ task'.Revises task ∨
        task.status ≠ .dispatched ∧ task' = task) :
      Move (.release new.id) L ((L.putDispatch new).putTask task')
  | addAgent {L : Ledger} {agent : AgentInstanceRecord} (fresh : L.agents agent.id = none) :
      Move (.addAgent agent.id) L (L.putAgent agent)
  | reviseAgents {L : Ledger} (agents : Uuid → Option AgentInstanceRecord)
      (resumable : ∀ i, (agents i).map AgentInstanceRecord.resumable =
        (L.agents i).map AgentInstanceRecord.resumable) :
      Move .reviseAgents L { L with agents }
  | openGate {L : Ledger} {run : RunRecord} {gate : DecisionGateRecord}
      (fresh : L.gates gate.id = none) (run_row : L.runs run.id = some run)
      (run_id : gate.runId = run.id) (pending : gate.status = .pending)
      (unresolved : gate.resolution = none) :
      Move (.openGate run.id run.status gate.dispatchId) L (L.putGate gate)
  | expireGates {L : Ledger} (gates : Uuid → Option DecisionGateRecord)
      (absent : ∀ i, gates i = none ↔ L.gates i = none)
      (expired : ∀ i new, gates i = some new → L.gates i = some new ∨
        ∃ old, L.gates i = some old ∧ new.Rewrites old ∧ old.status = .pending ∧
          new.status = .timeout ∧ new.resolution = old.resolution) :
      Move .expireGates L { L with gates }
  | resolve {L : Ledger} {old new : DecisionGateRecord} {resolution : Json}
      (row : L.gates new.id = some old) (rewrites : new.Rewrites old)
      (pending : old.status = .pending) (resolved : new.status = .resolved)
      (decided : new.resolution = some resolution) :
      Move (.resolve new.id resolution) L (L.putGate new)
  | apply {L : Ledger} {old new : DecisionGateRecord} (row : L.gates new.id = some old)
      (rewrites : new.Rewrites old) (resolved : old.status = .resolved)
      (still : new.status = .resolved) (approval : approved old.resolution)
      (kept : approved new.resolution) : Move (.apply new.id) L (L.putGate new)
  | openLaunch {L : Ledger} {launch : LaunchOperationRow}
      (fresh : L.launches launch.operationId = none) (intent : launch.result = none) :
      Move (.openLaunch launch.operationId) L (L.putLaunch launch)
  | reviseLaunch {L : Ledger} {old new : LaunchOperationRow}
      (row : L.launches new.operationId = some old) (hash : new.requestHash = old.requestHash)
      (intent : old.result = none) : Move (.reviseLaunch new.operationId) L (L.putLaunch new)
  | claim {L : Ledger} {claim : LaunchClaimRow} (fresh : L.claims claim.dispatchId = none) :
      Move (.claim claim.dispatchId claim.operationId) L (L.putClaim claim)

end VibeLink.Coordinator
