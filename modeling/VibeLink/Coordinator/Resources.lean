import VibeLink.Coordinator.Durable

/-! Launch resources, pane exits and daemon restarts: the writers that are not idempotent
mutations (`orchestration/mod.rs`). -/

namespace VibeLink.Coordinator

open VibeLink.Relational

variable (env : Env) (operationId : Uuid)

def reserveDispatchResources (reservation : DispatchResourceReservation) :
    CoordinatorResult Response := .atomically do
  let claimed ← .expect (fun s => s.launchClaims.find reservation.dispatchId)
    (.storage "Query returned no rows")
  .require (claimed.operationId = operationId)
    (.conflict "resource reservation does not own the dispatch launch claim")
  let row : ResourceRow :=
    { dispatchId := reservation.dispatchId
      operationId
      sessionId := reservation.sessionId
      repositoryRoot := reservation.repositoryRoot
      relativePrefix := reservation.relativePrefix
      launchPath := reservation.launchPath
      agentInstanceId := none
      paneId := none
      rootPid := none
      processStartedAt := none
      processGeneration := none
      worktree := reservation.worktree
      paneDisposition := .notCreated
      worktreeDisposition := if reservation.worktree.isSome then .retained else .notCreated
      cleanupReason := none
      cleanupError := none
      cleanupAttempts := 0
      updatedAt := env.now }
  .write fun s => { s with resources := (s.resources.insert? row).getD s.resources }
  let resource ← .expect
    (fun s => (s.resources.find reservation.dispatchId).map ResourceRow.toDispatchResourceRecord)
    (.storage "dispatch resource reservation disappeared")
  .require (resource.sessionId = reservation.sessionId ∧
      resource.repositoryRoot = reservation.repositoryRoot ∧
      resource.relativePrefix = reservation.relativePrefix ∧
      resource.launchPath = reservation.launchPath ∧ resource.worktree = reservation.worktree)
    (.conflict "dispatch resource authority changed after it was reserved")
  pure (.resource resource)

def updateDispatchWorktree (dispatchId : Uuid) (worktree : WorktreeAssignment) :
    CoordinatorResult Response := .atomically do
  let row ← .expect (fun s => s.resources.find dispatchId)
    (.notFound "dispatch resource reservation not found")
  .require (row.operationId = operationId)
    (.conflict "worktree identity update does not own the dispatch launch claim")
  updateResource dispatchId fun r => { r with worktree := some worktree, updatedAt := env.now }
  let updated ← .expect
    (fun s => (s.resources.find dispatchId).map ResourceRow.toDispatchResourceRecord)
    (.storage "updated dispatch resource disappeared")
  pure (.resource updated)

/-- The common part of the two recorders: the launch operation owns the resource row. -/
def updateDispatchResourceOwner (dispatchId : Uuid) (unchanged : ResourceRow → Bool)
    (changedError : String) (f : ResourceRow → ResourceRow)
    (hf : ∀ r, (f r).dispatchId = r.dispatchId) : CoordinatorResult Response := .atomically do
  let row ← .expect (fun s => s.resources.find dispatchId) (.storage "Query returned no rows")
  .require (row.operationId = operationId)
    (.conflict "dispatch resource is owned by another launch operation")
  .require (unchanged row) (.conflict changedError)
  updateResource dispatchId f hf
  let resource ← .expect
    (fun s => (s.resources.find dispatchId).map ResourceRow.toDispatchResourceRecord)
    (.notFound s!"dispatch resources {dispatchId}")
  pure (.resource resource)

def recordDispatchAgentResource (dispatchId agentInstanceId : Uuid) : CoordinatorResult Response :=
  updateDispatchResourceOwner operationId dispatchId
    (fun r => decide (r.agentInstanceId = none ∨ r.agentInstanceId = some agentInstanceId))
    "dispatch agent identity changed after it was recorded"
    (fun r =>
      { r with
        agentInstanceId := r.agentInstanceId.or (some agentInstanceId)
        updatedAt := env.now })
    (fun _ => rfl)

def recordDispatchPaneResource (dispatchId paneId : Uuid) (rootPid processStartedAt : Option Nat)
    (processGeneration : Nat) : CoordinatorResult Response :=
  updateDispatchResourceOwner operationId dispatchId
    (fun r => decide (r.paneId = none ∨ r.paneId = some paneId))
    "dispatch pane identity changed after it was recorded"
    (fun r =>
      { r with
        paneId := r.paneId.or (some paneId)
        rootPid := r.rootPid.or rootPid
        processStartedAt := r.processStartedAt.or (processStartedAt.map stored)
        processGeneration := r.processGeneration.or (some (stored processGeneration))
        paneDisposition := .live
        cleanupReason := none
        cleanupError := none
        updatedAt := env.now })
    (fun _ => rfl)

def markDispatchResourceDisposition (dispatchId : Uuid)
    (paneDisposition worktreeDisposition : Option ResourceDisposition)
    (clearPaneIdentity clearWorktreeIdentity : Bool) (cleanupReason cleanupError : Option String) :
    CoordinatorResult Response := .atomically do
  let _ ← .expect (fun s => s.resources.find dispatchId) (.notFound s!"dispatch resources {dispatchId}")
  updateResource dispatchId fun r =>
    { r with
      paneDisposition := paneDisposition.getD r.paneDisposition
      worktreeDisposition := worktreeDisposition.getD r.worktreeDisposition
      paneId := if clearPaneIdentity then none else r.paneId
      rootPid := if clearPaneIdentity then none else r.rootPid
      processStartedAt := if clearPaneIdentity then none else r.processStartedAt
      processGeneration := if clearPaneIdentity then none else r.processGeneration
      worktree := if clearWorktreeIdentity then none else r.worktree
      launchPath := if clearWorktreeIdentity then none else r.launchPath
      cleanupReason := cleanupReason.or r.cleanupReason
      cleanupError
      cleanupAttempts := r.cleanupAttempts + 1
      updatedAt := env.now }
  if clearPaneIdentity then do
    updateDispatch dispatchId fun d =>
      { d with paneId := none, processGeneration := none, updatedAt := env.now }
    updateAgents
      (fun s a => decide (some a.id = (s.dispatches.find dispatchId).bind DispatchRow.agentInstanceId))
      fun a => { a with runtimeIdentity := none, updatedAt := env.now }
  else pure ()
  if clearWorktreeIdentity then
    updateDispatch dispatchId fun d => { d with worktree := none, updatedAt := env.now }
  else pure ()
  let resource ← .expect
    (fun s => (s.resources.find dispatchId).map ResourceRow.toDispatchResourceRecord)
    (.notFound s!"dispatch resources {dispatchId}")
  pure (.resource resource)

/-- The `UNION` of the two lookups by pane; SQLite yields a `UNION` in ascending order. -/
def Store.dispatchOfPane (s : Store) (paneId : Uuid) : Option Uuid :=
  (orderBy (fun a b => decide (a ≤ b))
    ((s.resources.rows.filter fun r => decide (r.paneId = some paneId)).map ResourceRow.dispatchId ++
      (s.dispatches.rows.filter fun d => decide (d.paneId = some paneId)).map DispatchRow.id)).head?

def intentionalCleanup (cleanupReason : Option String) : Bool :=
  match cleanupReason with
  | some reason => decide (reason ∈ ["cancel", "reject", "gate_reject", "merge_applied",
      "launch_failure", "daemon_restart", "retry_cleanup"])
  | none => false

def processExitCode (exitCode : Option Int) : String :=
  match exitCode with
  | some code => s!"process_exit:{code}"
  | none => "process_exit:unknown"

/-- An active dispatch whose pane exited unasked fails and blocks its task. -/
def failExitedDispatch (dispatch : DispatchRecord) (task : TaskRecord) (paneId : Uuid)
    (exitCode : Option Int) (observedAt : Nat) : CoordinatorResult Unit := do
  updateDispatch dispatch.id fun d =>
    { d with
      status := .failed
      failureCode := some (processExitCode exitCode)
      updatedAt := stored observedAt }
  setTaskStatus env task.id .blocked
    (some (.obj [("reason", .str "worker_process_exited"),
      ("exitCode", .option (fun code => .num (toString code)) exitCode)]))
  updateAgents (fun _ a => decide (some a.id = dispatch.agentInstanceId)) fun a =>
    { a with status := .failed, updatedAt := stored observedAt }
  let run ← readRun task.runId
  let run ← bumpRunRevision env run
  let run ← refreshTerminalRunStatus env run
  insertEvent env operationId (some run.id) "dispatch.process_exited" (some dispatch.id)
    (.obj [("paneId", .str paneId),
      ("exitCode", .option (fun code => .num (toString code)) exitCode)])

def recordPaneExit (paneId : Uuid) (exitCode : Option Int) (observedAt : Nat) :
    CoordinatorResult Response := .atomically do
  match ← .gets fun s => s.dispatchOfPane paneId with
  | none => pure (.exited none)
  | some dispatchId => do
    let dispatch ← readDispatch dispatchId
    let intentional := intentionalCleanup (dispatch.resources.bind fun r => r.cleanupReason)
    updateResource dispatchId fun r =>
      { r with
        paneId := none
        rootPid := none
        processStartedAt := none
        processGeneration := none
        paneDisposition := .cleaned
        cleanupReason := r.cleanupReason.or (some "process_exit")
        cleanupError := none
        updatedAt := stored observedAt }
    updateDispatch dispatchId fun d =>
      { d with paneId := none, processGeneration := none, updatedAt := stored observedAt }
    updateAgents (fun _ a => decide (some a.id = dispatch.agentInstanceId)) fun a =>
      { a with runtimeIdentity := none, updatedAt := stored observedAt }
    let task ← readTask dispatch.taskId
    if dispatch.status.isActive ∧ intentional = false then
      failExitedDispatch env operationId dispatch task paneId exitCode observedAt
    else pure ()
    let updated ← readDispatch dispatchId
    pure (.exited (some updated))

/-- One round of the loop over the active dispatches of a run: a pending dispatch that a
launch has claimed is left to that launch. -/
def reconcileRestartedDispatch (observedAt : Nat) (active : DispatchRow) : CoordinatorResult Bool := do
  let dispatch ← readDispatch active.id
  if dispatch.status = .pending ∧ dispatch.launchClaim.isSome then pure false
  else if dispatch.status = .pending then do
    updateDispatch dispatch.id fun d =>
      { d with
        status := .failed
        failureCode := some "restart_unclaimed"
        updatedAt := stored observedAt }
    resetTask dispatch.taskId observedAt
    pure true
  else do
    updateDispatch dispatch.id fun d =>
      { d with
        status := .failed
        failureCode := some "daemon_restart"
        paneId := none
        processGeneration := none
        updatedAt := stored observedAt }
    setTaskStatus env dispatch.taskId .blocked (some (.obj [("reason", .str "daemon_restart")]))
    updateAgents (fun _ a => decide (some a.id = dispatch.agentInstanceId)) fun a =>
      { a with status := .lost, runtimeIdentity := none, updatedAt := stored observedAt }
    pure true

theorem timedOut_id (observedAt : Nat) (gate : DecisionGateRecord) :
    { gate with status := .timeout, updatedAt := stored observedAt }.id = gate.id := rfl

/-- One round of the loop over the interrupted runs. -/
def reconcileRestartedRun (observedAt : Nat) (reconciled : List Uuid) (runId : Uuid) :
    CoordinatorResult (List Uuid) := do
  let active ← .gets fun s => s.activeDispatches runId
  let changes ← Tx.traverse (reconcileRestartedDispatch env observedAt) active
  let timedOut ← .gets fun s => s.gates.rows.countP (expiredGate runId observedAt)
  updateGates (expiredGate runId observedAt)
    (fun g => { g with status := .timeout, updatedAt := stored observedAt }) (timedOut_id observedAt)
  if changes.any id ∨ timedOut > 0 then do
    let run ← readRun runId
    let run ← bumpRunRevision env run
    let _ ← refreshTerminalRunStatus env run
    insertEvent env operationId (some runId) "run.daemon_reconciled" (some runId)
      (.obj [("observedAt", .nat observedAt)])
    pure (reconciled ++ [runId])
  else pure reconciled

def reconcileDaemonRestart (observedAt : Nat) : CoordinatorResult Response := .atomically do
  let runIds ← .gets Store.interruptedRuns
  let reconciled ← Tx.fold (reconcileRestartedRun env operationId observedAt) [] runIds
  pure (.reconciledRuns reconciled)

end VibeLink.Coordinator
