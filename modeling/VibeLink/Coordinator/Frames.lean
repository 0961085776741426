import VibeLink.Coordinator.Service

/-! Which tables a step of a mutation writes: each writes those that its name says, and none
writes the record of operations, which is the envelope's. -/

namespace VibeLink.Coordinator

open VibeLink.Relational Tx

/-- A preorder of stores that does not look at the tables which no frame tells apart:
runs, tasks, messages and gates, and what the daemon keeps of launches. -/
class Aside (R : Store → Store → Prop) : Prop extends IsPreorder Store R where
  runs : ∀ s t, R s { s with runs := t }
  tasks : ∀ s t, R s { s with tasks := t }
  messages : ∀ s t, R s { s with messages := t }
  gates : ∀ s t, R s { s with gates := t }
  notifications : ∀ s t, R s { s with notifications := t }
  runDecisions : ∀ s t, R s { s with runDecisions := t }
  launchOperations : ∀ s t, R s { s with launchOperations := t }
  launchClaims : ∀ s t, R s { s with launchClaims := t }
  resources : ∀ s t, R s { s with resources := t }

class AsideDispatches (R : Store → Store → Prop) : Prop where
  dispatches : ∀ s t, R s { s with dispatches := t }

class AsideAgents (R : Store → Store → Prop) : Prop where
  agents : ∀ s t, R s { s with agents := t }

/-- The envelope may leave its record. -/
class AsideOperations (R : Store → Store → Prop) : Prop where
  operations : ∀ s t, R s { s with operations := t }

class AsideAcknowledgements (R : Store → Store → Prop) : Prop where
  acknowledgements : ∀ s t, R s { s with acknowledgements := t }

/-- A relation that lets the log of events grow at its end. -/
class AsideEvents (R : Store → Store → Prop) : Prop where
  runEvents : ∀ s event, event.sequence = s.runEvents.length + 1 →
    R s { s with runEvents := s.runEvents ++ [event] }

instance : Aside (Same Store.operations) where
  runs _ _ := rfl
  tasks _ _ := rfl
  messages _ _ := rfl
  gates _ _ := rfl
  notifications _ _ := rfl
  runDecisions _ _ := rfl
  launchOperations _ _ := rfl
  launchClaims _ _ := rfl
  resources _ _ := rfl

instance : AsideDispatches (Same Store.operations) := ⟨fun _ _ => rfl⟩

instance : AsideAgents (Same Store.operations) := ⟨fun _ _ => rfl⟩

instance : AsideAcknowledgements (Same Store.operations) := ⟨fun _ _ => rfl⟩

instance : AsideEvents (Same Store.operations) := ⟨fun _ _ _ => rfl⟩

variable {R : Store → Store → Prop} [Aside R] {env : Env} {operationId runId taskId dispatchId : Uuid}

set_option synthInstance.maxSize 100000

section Reads

instance : Respects R (readRun runId) := by unfold readRun; infer_instance

instance : Respects R (readTask taskId) := by unfold readTask; infer_instance

instance : Respects R (readDispatch dispatchId) := by unfold readDispatch; infer_instance

instance {i : Uuid} : Respects R (readAgent i) := by unfold readAgent; infer_instance

instance {i : Uuid} : Respects R (readGate i) := by unfold readGate; infer_instance

instance {i : Uuid} : Respects R (readMessage i) := by unfold readMessage; infer_instance

instance {i : Uuid} : Respects R (readNotificationById i) := by
  unfold readNotificationById; infer_instance

instance {α : Type} {read : Uuid → CoordinatorResult α} [∀ i, Respects R (read i)]
    {i : Option Uuid} : Respects R (readOptional read i) := by
  cases i <;> unfold readOptional <;> infer_instance

instance {run : RunRecord} {expected : Nat} :
    Respects R (requireRunRevision run expected) := by
  unfold requireRunRevision; infer_instance

instance {task : TaskRecord} {expected : Nat} :
    Respects R (requireTaskRevision task expected) := by
  unfold requireTaskRevision; infer_instance

instance {identity : LifecycleIdentity} : Respects R (validateIdentity identity) := by
  unfold validateIdentity; infer_instance

instance {t d : Option Uuid} : Respects R (validateScope runId t d) := by
  unfold validateScope; infer_instance

end Reads

section Writes

theorem respects_insert {τ : Type} {o : Store → Option τ} {put : Store → τ → Store}
    {e : CoordinatorError} (h : ∀ s t, R s (put s t)) :
    Respects R (tryWrite (fun s => (o s).map (put s)) e) := by
  refine respects_tryWrite fun s s' hs => ?_
  obtain ⟨t, _, rfl⟩ := Option.map_eq_some_iff.1 hs
  exact h s t

instance {f hf} : Respects R (updateRun runId f hf) := respects_write fun _ => Aside.runs _ _

instance {p f hf} : Respects R (updateTasks p f hf) := respects_write fun _ => Aside.tasks _ _

instance {f hf} : Respects R (updateTask taskId f hf) := respects_write fun _ => Aside.tasks _ _

instance {p f hf} [AsideDispatches R] : Respects R (updateDispatches p f hf) :=
  respects_write fun _ => AsideDispatches.dispatches _ _

instance {f hf} [AsideDispatches R] : Respects R (updateDispatch dispatchId f hf) :=
  respects_write fun _ => AsideDispatches.dispatches _ _

instance {p f hf} [AsideAgents R] : Respects R (updateAgents p f hf) :=
  respects_write fun _ => AsideAgents.agents _ _

instance {i f hf} [AsideAgents R] : Respects R (updateAgent i f hf) :=
  respects_write fun _ => AsideAgents.agents _ _

instance {p f hf} : Respects R (updateGates p f hf) := respects_write fun _ => Aside.gates _ _

instance {i f hf} : Respects R (updateGate i f hf) := respects_write fun _ => Aside.gates _ _

instance {f hf} : Respects R (updateResource dispatchId f hf) :=
  respects_write fun _ => Aside.resources _ _

instance {f : Store → Table ResourceRow.dispatchId} :
    Respects R (write fun s => { s with resources := f s } : CoordinatorResult Unit) :=
  respects_write fun _ => Aside.resources _ _

instance {f : Store → Table EventAcknowledgement.key} [AsideAcknowledgements R] :
    Respects R (write fun s => { s with acknowledgements := f s } : CoordinatorResult Unit) :=
  respects_write fun _ => AsideAcknowledgements.acknowledgements _ _

instance {f : Store → Table NotificationRecord.id} :
    Respects R (write fun s => { s with notifications := f s } : CoordinatorResult Unit) :=
  respects_write fun _ => Aside.notifications _ _

instance {f : Store → Table LaunchClaimRow.dispatchId} :
    Respects R (write fun s => { s with launchClaims := f s } : CoordinatorResult Unit) :=
  respects_write fun _ => Aside.launchClaims _ _

instance {f : Store → Table LaunchOperationRow.operationId} :
    Respects R (write fun s => { s with launchOperations := f s } : CoordinatorResult Unit) :=
  respects_write fun _ => Aside.launchOperations _ _

instance {run : RunRecord} : Respects R (insertRun run) := respects_insert Aside.runs

instance {task : TaskRecord} : Respects R (insertTask task) := respects_insert Aside.tasks

instance {dispatch : DispatchRow} [AsideDispatches R] : Respects R (insertDispatch dispatch) :=
  respects_insert AsideDispatches.dispatches

instance {agent : AgentInstanceRecord} [AsideAgents R] : Respects R (insertAgent agent) :=
  respects_insert AsideAgents.agents

instance {launch : LaunchOperationRow} :
    Respects R (tryWrite
      (fun s => (s.launchOperations.insert? launch).map fun launchOperations =>
        { s with launchOperations })
      (uniqueFailed "dispatch_launch_operations.operation_id") : CoordinatorResult Unit) :=
  respects_insert Aside.launchOperations

instance {gateId : Uuid} {t d : Option Uuid} {gateType prompt : String} {options : List String}
    {expiresAt : Option Nat} :
    Respects R (createGateRecord env gateId runId t d gateType prompt options expiresAt) :=
  .bind (h := respects_insert Aside.gates)

instance {messageId : Uuid} {t d parentId : Option Uuid} {senderKind : String}
    {messageType : MessageType} {payload : Json} :
    Respects R (insertMessage env messageId runId t d parentId senderKind messageType payload) :=
  .bind (h := respects_insert Aside.messages)

instance {run : Option Uuid} {eventType : String} {entityId : Option Uuid} {payload : Json}
    [AsideEvents R] : Respects R (insertEvent env operationId run eventType entityId payload) :=
  respects_write fun _ => AsideEvents.runEvents _ _ rfl

instance {run : RunRecord} : Respects R (bumpRunRevision env run) := by
  unfold bumpRunRevision; infer_instance

instance {run : RunRecord} {status : RunStatus} : Respects R (updateRunStatus env run status) := by
  unfold updateRunStatus; infer_instance

instance {run : RunRecord} : Respects R (refreshTerminalRunStatus env run) := by
  unfold refreshTerminalRunStatus; infer_instance

instance {task : TaskRecord} : Respects R (bumpTaskRevision env task) := by
  unfold bumpTaskRevision; infer_instance

instance {status : OrchestrationTaskStatus} {result : Option Json} :
    Respects R (setTaskStatus env taskId status result) := by
  unfold setTaskStatus; infer_instance

instance {decision : String} {payload : Json} :
    Respects R (recordDecision env runId decision payload) :=
  respects_write fun _ => Aside.runDecisions _ _

instance {observedAt : Nat} : Respects R (resetTask taskId observedAt) := by
  unfold resetTask; infer_instance

instance {nowMillis : Nat} {gateId : Uuid} : Respects R (expireGate nowMillis gateId) := by
  unfold expireGate; infer_instance

instance {run : RunRecord} {task : TaskRecord} {dispatch : DispatchRecord} :
    Respects R (openMergeGate env run task dispatch) := by
  unfold openMergeGate; infer_instance

instance {dependency : Uuid} : Respects R (requireDependency runId dependency) := by
  unfold requireDependency; infer_instance

instance : Respects R (settlePendingTask env taskId) := by
  unfold settlePendingTask; infer_instance

instance {platform : Platform} {request : DispatchLaunchRequest} :
    Respects R (claimDispatch platform env operationId request dispatchId) := by
  unfold claimDispatch; dsimp only; infer_instance

end Writes

instance {expected : Nat} [∀ runId task, Respects R (dispatchReadyTask env operationId runId task)] :
    Respects R (scheduleReadyTransaction env operationId runId expected) := by
  unfold scheduleReadyTransaction; dsimp only; infer_instance

instance {platform : Platform} {request : DispatchLaunchRequest}
    [∀ runId task, Respects R (dispatchReadyTask env operationId runId task)] :
    Respects R (prepareDispatchLaunch platform env operationId request) := by
  refine .bind (k := fun normal => .bind (k := fun recorded => ?_))
  cases recorded with
  | none => infer_instance
  | some recorded =>
    refine .bind (k := fun _ => ?_)
    cases recorded.result <;> dsimp only <;> infer_instance

instance {platform : Platform} {request : DispatchLaunchRequest} {result : DispatchLaunchResult} :
    Respects R (completeDispatchLaunch platform env operationId request result) := by
  refine .atomically (h := .bind (k := fun recorded => .bind (k := fun _ => ?_)))
  cases recorded.result <;> dsimp only <;> infer_instance

section Dispatches

variable [AsideDispatches R] [AsideAgents R] [AsideEvents R]

instance {task : Uuid × Nat} : Respects R (dispatchReadyTask env operationId runId task) := by
  unfold dispatchReadyTask; infer_instance

instance {request : ReconcileLivenessRequest} {stale : Uuid × DispatchRow} :
    Respects R (reconcileStaleDispatch env request stale) := by
  unfold reconcileStaleDispatch; dsimp only; infer_instance

instance {dispatch : DispatchRecord} : Respects R (resumeDispatch env dispatch) := by
  unfold resumeDispatch; infer_instance

instance {dispatch : Option DispatchRecord} : Respects R (resumeOptional env dispatch) := by
  cases dispatch <;> unfold resumeOptional <;> infer_instance

instance : Respects R (cancelActiveRunEntities env runId) := by
  unfold cancelActiveRunEntities; infer_instance

instance {nowMillis : Nat} {active : DispatchRow} :
    Respects R (restartDispatch env nowMillis active) := by
  refine .bind (k := fun dispatch => ?_)
  cases dispatch.agentInstanceId <;> dsimp only <;> infer_instance

instance {nowMillis : Nat} {result : RestartReconciliationResult} :
    Respects R (restartRun env operationId nowMillis result runId) := by
  unfold restartRun; dsimp only; infer_instance

instance {observedAt : Nat} {active : DispatchRow} :
    Respects R (reconcileRestartedDispatch env observedAt active) := by
  unfold reconcileRestartedDispatch; infer_instance

instance {observedAt : Nat} {reconciled : List Uuid} :
    Respects R (reconcileRestartedRun env operationId observedAt reconciled runId) := by
  unfold reconcileRestartedRun; infer_instance

instance {dispatch : DispatchRecord} {task : TaskRecord} {paneId : Uuid} {exitCode : Option Int}
    {observedAt : Nat} :
    Respects R (failExitedDispatch env operationId dispatch task paneId exitCode observedAt) := by
  unfold failExitedDispatch; infer_instance

end Dispatches

section Operations

variable {platform : Platform} [AsideDispatches R] [AsideAgents R] [AsideEvents R]

instance {paneId : Uuid} {exitCode : Option Int} {observedAt : Nat} :
    Respects R (recordPaneExit env operationId paneId exitCode observedAt) := by
  refine .atomically (h := .bind (k := fun found => ?_))
  cases found <;> dsimp only <;> infer_instance

omit [AsideDispatches R] [AsideAgents R] [AsideEvents R] in
instance [AsideOperations R] {request : Op} {mutation : CoordinatorResult Response}
    [Respects R mutation] : Respects R (mutate platform env operationId request mutation) := by
  refine .bind (k := fun recorded => ?_)
  cases recorded with
  | some recorded => infer_instance
  | none => exact .atomically (h := .bind (k := fun response =>
      .bind (h := respects_insert AsideOperations.operations)))

theorem perform_respects [AsideOperations R] (platform : Platform) (call : Call)
    (acknowledges : ∀ request, call.op = .acknowledgeEvents request →
      Respects R (perform platform call)) : Respects R (perform platform call) := by
  obtain ⟨operationId, env, op⟩ := call
  cases op with
  | acknowledgeEvents request => exact acknowledges request rfl
  | prepareDispatchLaunch request =>
    exact inferInstanceAs (Respects R (prepareDispatchLaunch platform env operationId request))
  | completeDispatchLaunch request result =>
    exact inferInstanceAs (Respects R (completeDispatchLaunch platform env operationId request result))
  | recordPaneExit paneId exitCode observedAt =>
    exact inferInstanceAs (Respects R (recordPaneExit env operationId paneId exitCode observedAt))
  | updateTask request =>
    have : Respects R (updateTaskBody env operationId request) := by
      unfold updateTaskBody; dsimp only; infer_instance
    exact inferInstanceAs (Respects R (mutate platform env operationId _ _))
  | reserveDispatchResources | updateDispatchWorktree | recordDispatchAgentResource
    | recordDispatchPaneResource | markDispatchResourceDisposition | reconcileDaemonRestart =>
    exact .atomically
  | createRun => exact .bind (k := fun _ => .bind (k := fun _ => .bind))
  | postMessage | createGate => exact .bind (k := fun _ => .bind)
  | createTask | markMergeApplied | recordLaunchFailure | registerAgent
    | recordUnboundAgentLaunchFailure | bindDispatch => exact .bind
  | _ => exact inferInstanceAs (Respects R (mutate platform env operationId _ _))

end Operations

end VibeLink.Coordinator
