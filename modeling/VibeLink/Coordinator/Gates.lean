import VibeLink.Coordinator.Store

/-! Decision gates, merge and cleanup, run cancellation, messages (`orchestration/mod.rs`). -/

namespace VibeLink.Coordinator

open VibeLink.Relational

variable (platform : Platform) (env : Env) (operationId : Uuid)

def createGate (request : CreateGateRequest) : CoordinatorResult Response := do
  let gateType ← .ofExcept (required request.gateType "gate type")
  let prompt ← .ofExcept (required request.prompt "gate prompt")
  mutate platform env operationId (.createGate request) do
    let run ← readRun request.runId
    requireRunRevision run request.expectedRunRevision
    validateScope run.id request.taskId request.dispatchId
    let gate ← createGateRecord env (env.uuid 0) run.id request.taskId request.dispatchId gateType
      prompt request.options request.expiresAt
    updateDispatches
      (fun _ d => decide (some d.id = request.dispatchId ∧ (d.status = .dispatched ∨ d.status = .running)))
      fun d => { d with status := .waiting, updatedAt := env.now }
    let dispatch ← readOptional readDispatch request.dispatchId
    updateAgents
      (fun _ a => decide (some a.id = dispatch.bind (fun d => d.agentInstanceId) ∧
        (a.status = .starting ∨ a.status = .running ∨ a.status = .reconciling)))
      fun a => { a with status := .waiting, updatedAt := env.now }
    let run ← updateRunStatus env run .waiting
    let _ ← insertMessage env (env.uuid 1) run.id request.taskId request.dispatchId none "coordinator"
      .decisionGate
      (.obj [("gateId", .str gate.id), ("gateType", .str gate.gateType), ("prompt", .str gate.prompt),
        ("options", .arr (gate.options.map .str))])
    insertEvent env operationId (some run.id) "gate.created" (some gate.id)
      (.obj [("gateType", .str gate.gateType)])
    pure (.gate { run, gate, dispatch, cleanupGate := none })

def cleanupDecisionFields : List String :=
  ["decision", "force", "deleteBranch", "acknowledgedBlockers"]

/-- `serde_json::from_value::<CleanupDecision>`: every field is required and, in an object,
no other is allowed.  A derived `Deserialize` reads the fields from an array as well. -/
def CleanupDecision.ofJson : Json → Option CleanupDecision
  | .obj fields =>
    if fields.all (fun field => cleanupDecisionFields.any fun name => decide (name = field.1)) then
      ofFields ((Json.obj fields).get "decision") ((Json.obj fields).get "force")
        ((Json.obj fields).get "deleteBranch") ((Json.obj fields).get "acknowledgedBlockers")
    else none
  | .arr [decision, force, deleteBranch, acknowledgedBlockers] =>
    ofFields (some decision) (some force) (some deleteBranch) (some acknowledgedBlockers)
  | _ => none
where
  ofFields : Option Json → Option Json → Option Json → Option Json → Option CleanupDecision
  | some (.str decision), some (.bool force), some (.bool deleteBranch), some (.arr blockers) =>
    (Json.strings blockers).map fun acknowledgedBlockers =>
      { decision, force, deleteBranch, acknowledgedBlockers }
  | _, _, _, _ => none

/-- Resolving any other gate resumes its dispatch once no gate of it is pending. -/
def resumeDispatch (dispatch : DispatchRecord) : CoordinatorResult DispatchRecord := do
  let pendingGates ← .gets fun s => s.pendingGateCount dispatch.id
  if dispatch.status = .waiting ∧ pendingGates = 0 then do
    updateDispatch dispatch.id fun d => { d with status := .running, updatedAt := env.now }
    updateAgents
      (fun _ a => decide (some a.id = dispatch.agentInstanceId ∧ a.status = .waiting))
      fun a => { a with status := .running, updatedAt := env.now }
    readDispatch dispatch.id
  else pure dispatch

def resumeOptional : Option DispatchRecord → CoordinatorResult (Option DispatchRecord)
  | none => pure none
  | some dispatch => do
    let dispatch ← resumeDispatch env dispatch
    pure (some dispatch)

def isMergeOrCleanup (gateType : String) : Bool :=
  decide (gateType = "merge") || decide (gateType = "cleanup")

def resolveGate (request : ResolveGateRequest) : CoordinatorResult Response :=
  mutate platform env operationId (.resolveGate request) do
    let gate ← readGate request.gateId
    .require (gate.status = .pending)
      (.invalidTransition s!"gate {gate.id} cannot resolve from {gate.status.debug}")
    let run ← readRun gate.runId
    requireRunRevision run request.expectedRunRevision
    let decision := (request.resolution.getStr "decision").getD ""
    .require (isMergeOrCleanup gate.gateType → decision = "approve" ∨ decision = "reject")
      (.invalidArgument s!"{gate.gateType} gate resolution decision must be approve or reject")
    .require (gate.gateType = "cleanup" → decision = "approve" →
        (CleanupDecision.ofJson request.resolution).isSome)
      (.invalidArgument
        "cleanup approval requires force, deleteBranch, and acknowledgedBlockers")
    updateGate gate.id fun g =>
      { g with status := .resolved, resolution := some request.resolution, updatedAt := env.now }
    let gate ← readGate gate.id
    let dispatch ← readOptional readDispatch gate.dispatchId
    let (run, dispatch) ←
      if isMergeOrCleanup gate.gateType then do
        let run ← bumpRunRevision env run
        let run ← if decision = "reject" then refreshTerminalRunStatus env run else pure run
        pure (run, dispatch)
      else do
        let dispatch ← resumeOptional env dispatch
        let pendingGates ← .gets fun s => s.pendingGateCountForRun run.id
        let run ←
          if pendingGates = 0 then do
            let run ← updateRunStatus env run .running
            refreshTerminalRunStatus env run
          else bumpRunRevision env run
        pure (run, dispatch)
    insertEvent env operationId (some run.id) "gate.resolved" (some gate.id)
      (.obj [("resolution", .option id gate.resolution)])
    pure (.gate { run, gate, dispatch, cleanupGate := none })

def approved (resolution : Option Json) : Prop :=
  (resolution.bind fun value => value.getStr "decision") = some "approve"

instance (resolution : Option Json) : Decidable (approved resolution) :=
  inferInstanceAs (Decidable (_ = _))

def applied (resolution : Option Json) : Prop :=
  (resolution.bind fun value => value.getBool "applied") = some true

instance (resolution : Option Json) : Decidable (applied resolution) :=
  inferInstanceAs (Decidable (_ = _))

/-- `ORDER BY created_at DESC LIMIT 1` over the resolved merge gates of a dispatch. -/
def Store.latestMergeGate (s : Store) (dispatchId : Uuid) : Option DecisionGateRecord :=
  (orderBy (fun a b : DecisionGateRecord => decide (b.createdAt ≤ a.createdAt))
    (s.gates.rows.filter fun g =>
      decide (g.dispatchId = some dispatchId ∧ g.gateType = "merge" ∧ g.status = .resolved))).head?

def cleanupAuthorization (gateId : Uuid) : CoordinatorResult CleanupAuthorization := do
  let gate ← readGate gateId
  .require (gate.gateType = "cleanup" ∧ gate.status = .resolved)
    (.invalidTransition s!"gate {gate.id} is not an approved cleanup gate")
  let decision ← .expect (fun _ => gate.resolution) (.conflict "cleanup has no decision")
  let decision ← .expect (fun _ => CleanupDecision.ofJson decision)
    (.conflict "cleanup decision is invalid")
  .require (decision.decision = "approve") (.conflict "cleanup was not approved")
  let dispatchId ← .expect (fun _ => gate.dispatchId) (.conflict "cleanup gate has no dispatch")
  let merge ← .gets fun s => (s.latestMergeGate dispatchId).bind DecisionGateRecord.resolution
  .require (approved merge ∧ applied merge)
    (.conflict "cleanup requires a recorded applied merge")
  let dispatch ← readDispatch dispatchId
  let worktree ← .expect (fun _ => dispatch.worktree)
    (.conflict "cleanup dispatch has no worktree record")
  .ofExcept (validateWorktree worktree)
  pure
    { worktree
      force := decision.force
      deleteBranch := decision.deleteBranch
      acknowledgedBlockers := decision.acknowledgedBlockers }

def markMergeApplied (request : MergeAppliedRequest) : CoordinatorResult Response := do
  let commitId ← .ofExcept (required request.commitId "merge commit id")
  mutate platform env operationId (.markMergeApplied request) do
    let gate ← readGate request.gateId
    let run ← readRun gate.runId
    requireRunRevision run request.expectedRunRevision
    .require (gate.gateType = "merge" ∧ gate.status = .resolved)
      (.invalidTransition "merge gate is not resolved")
    let resolution := gate.resolution.getD (.obj [])
    .require (approved (some resolution)) (.conflict "merge was not approved")
    .require (¬applied (some resolution)) (.conflict "merge was already applied")
    let resolution := (resolution.set "applied" (.bool true)).set "commitId" (.str commitId)
    updateGate gate.id fun g => { g with resolution := some resolution, updatedAt := env.now }
    let gate ← readGate gate.id
    let dispatch ← readOptional readDispatch gate.dispatchId
    let cleanupGate ← createGateRecord env (env.uuid 0) run.id gate.taskId gate.dispatchId "cleanup"
      "Approve cleanup of the merged worktree through shared removal preflight?"
      ["approve", "reject"] none
    .write fun s =>
      { s with
        resources := s.resources.update (fun r => decide (some r.dispatchId = gate.dispatchId)) fun r =>
          { r with
            worktreeDisposition := .retained
            cleanupReason := some "cleanup_decision"
            cleanupError := none
            updatedAt := env.now } }
    let run ← updateRunStatus env run .waiting
    let _ ← insertMessage env (env.uuid 1) run.id gate.taskId gate.dispatchId none "coordinator"
      .decisionGate
      (.obj [("gateId", .str cleanupGate.id), ("gateType", .str "cleanup"),
        ("worktree", .option WorktreeAssignment.json (dispatch.bind fun d => d.worktree))])
    insertEvent env operationId (some run.id) "merge.applied" gate.dispatchId
      (.obj [("gateId", .str gate.id), ("commitId", .str commitId),
        ("cleanupGateId", .str cleanupGate.id)])
    pure (.gate { run, gate, dispatch, cleanupGate := some cleanupGate })

def markCleanupApplied (request : CleanupAppliedRequest) : CoordinatorResult Response :=
  mutate platform env operationId (.markCleanupApplied request) do
    let gate ← readGate request.gateId
    let run ← readRun gate.runId
    requireRunRevision run request.expectedRunRevision
    .require (gate.gateType = "cleanup" ∧ gate.status = .resolved)
      (.invalidTransition "cleanup gate is not resolved")
    let resolution := gate.resolution.getD (.obj [])
    .require (approved (some resolution)) (.conflict "cleanup was not approved")
    let resolution := resolution.set "applied" (.bool true)
    updateGate gate.id fun g => { g with resolution := some resolution, updatedAt := env.now }
    let gate ← readGate gate.id
    let run ← bumpRunRevision env run
    let run ← refreshTerminalRunStatus env run
    let dispatch ← readOptional readDispatch gate.dispatchId
    insertEvent env operationId (some run.id) "cleanup.applied" gate.dispatchId
      (.obj [("gateId", .str gate.id)])
    pure (.gate { run, gate, dispatch, cleanupGate := none })

/-- The four statements by which `cancel_run` and a rejection close what a run has open. -/
def cancelActiveRunEntities (runId : Uuid) : CoordinatorResult Unit := do
  updateTasks (fun t => decide (t.runId = runId) && t.status.isOpen) fun t =>
    { t with status := .cancelled, revision := t.revision + 1, updatedAt := env.now }
  updateDispatches (fun s d => s.inRun runId d && d.status.isActive) fun d =>
    { d with status := .cancelled, updatedAt := env.now }
  updateAgents
    (fun s a => (s.dispatches.rows.any fun d => s.inRun runId d && decide (d.agentInstanceId = some a.id)) &&
      a.status.isActive)
    fun a => { a with status := .cancelled, updatedAt := env.now }
  updateGates (fun g => decide (g.runId = runId) && decide (g.status = .pending)) fun g =>
    { g with status := .cancelled, updatedAt := env.now }

def cancelRun (request : RunRevisionRequest) : CoordinatorResult Response :=
  mutate platform env operationId (.cancelRun request) do
    let run ← readRun request.runId
    requireRunRevision run request.expectedRunRevision
    .require (run.status.isTerminal = false)
      (.invalidTransition s!"run {run.id} is already {run.status.debug}")
    cancelActiveRunEntities env run.id
    let run ← updateRunStatus env run .cancelled
    insertEvent env operationId (some run.id) "run.cancelled" (some run.id)
      (.obj [("revision", .nat run.revision)])
    pure (.run run)

def postMessage (request : PostMessageRequest) : CoordinatorResult Response := do
  .require (request.messageType ≠ .workerDone ∧ request.messageType ≠ .mergeReady ∧
      request.messageType ≠ .decisionGate)
    (.invalidArgument
      "worker_done, merge_ready, and decision_gate messages must use lifecycle methods")
  let senderKind ← .ofExcept (required request.senderKind "sender kind")
  mutate platform env operationId (.postMessage request) do
    let _ ← readRun request.runId
    validateScope request.runId request.taskId request.dispatchId
    let message ← insertMessage env (env.uuid 0) request.runId request.taskId request.dispatchId
      request.parentId senderKind request.messageType request.payload
    insertEvent env operationId (some request.runId) "message.created" (some message.id)
      (.obj [("messageType", .str (messageTypeText message.messageType))])
    pure (.message message)

end VibeLink.Coordinator
