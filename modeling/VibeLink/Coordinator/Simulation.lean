import VibeLink.Coordinator.Refinement.Launch
import VibeLink.Coordinator.Refinement.Lifecycle
import VibeLink.Coordinator.Refinement.Recovery

/-! The service refines the ledger: a call that succeeds makes permitted moves, and one that
fails makes none. -/

namespace VibeLink.Coordinator

open VibeLink.Relational

variable {platform : Platform} {env : Env} {operationId : Uuid} {s : Store} {call : Call}

section Settled

theorem settled_mutate {request : Op} {mutation : CoordinatorResult Response} :
    (mutate platform env operationId request mutation).Settled := by
  refine .bind (Tx.readOnly_gets _) fun recorded => ?_
  cases recorded with
  | some recorded =>
    exact (Tx.ReadOnly.bind (Tx.readOnly_require _ _) fun _ => Tx.readOnly_pure _).settled
  | none => exact Tx.settled_atomically

theorem settled_required {α : Type} {x : Except CoordinatorError α}
    {f : α → CoordinatorResult Response} (h : ∀ a, (f a).Settled) :
    (Tx.ofExcept x >>= f).Settled := .bind (Tx.readOnly_ofExcept _) h

theorem settled_prepareDispatchLaunch {request : DispatchLaunchRequest} :
    (prepareDispatchLaunch platform env operationId request).Settled := by
  refine settled_required fun request => .bind (Tx.readOnly_gets _) fun recorded => ?_
  cases recorded with
  | none => exact Tx.settled_atomically
  | some recorded =>
    refine .bind (Tx.readOnly_require _ _) fun _ => ?_
    cases recorded.result with
    | some result => exact (Tx.readOnly_pure _).settled
    | none => exact ((Tx.readOnly_gets _).bind fun _ => Tx.readOnly_pure _).settled

theorem perform_settled (platform : Platform) (call : Call) : (perform platform call).Settled := by
  obtain ⟨operationId, env, op⟩ := call
  cases op with
  | createRun => exact .bind (Tx.readOnly_require _ _) fun _ =>
      settled_required fun _ => .bind (Tx.readOnly_require _ _) fun _ => settled_mutate
  | prepareDispatchLaunch => exact settled_prepareDispatchLaunch
  | postMessage => exact .bind (Tx.readOnly_require _ _) fun _ => settled_required fun _ => settled_mutate
  | createGate => exact settled_required fun _ => settled_required fun _ => settled_mutate
  | createTask | markMergeApplied | acknowledgeEvents | recordLaunchFailure | registerAgent
    | recordUnboundAgentLaunchFailure | bindDispatch => exact settled_required fun _ => settled_mutate
  | completeDispatchLaunch | reserveDispatchResources | updateDispatchWorktree
    | recordDispatchAgentResource | recordDispatchPaneResource | markDispatchResourceDisposition
    | recordPaneExit | reconcileDaemonRestart => exact Tx.settled_atomically
  | _ => exact settled_mutate

end Settled

theorem perform_outcome (platform : Platform) (policy : s.ledger.WithinPolicy) (call : Call) :
    (perform platform call).wlp (fun _ s' => Outcome s call s'.ledger) s := by
  obtain ⟨operationId, env, op⟩ := call
  cases op with
  | createRun => exact createRun_outcome
  | startRun => exact startRun_outcome
  | createTask => exact createTask_outcome
  | scheduleReady => exact scheduleReady_outcome policy
  | prepareDispatchLaunch => exact prepareDispatchLaunch_outcome policy
  | completeDispatchLaunch => exact completeDispatchLaunch_outcome
  | reserveDispatchResources => exact reserveDispatchResources_outcome
  | updateDispatchWorktree => exact updateDispatchWorktree_outcome
  | recordDispatchAgentResource => exact recordDispatchAgentResource_outcome
  | recordDispatchPaneResource => exact recordDispatchPaneResource_outcome
  | markDispatchResourceDisposition => exact markDispatchResourceDisposition_outcome
  | recordPaneExit => exact recordPaneExit_outcome
  | reconcileDaemonRestart => exact reconcileDaemonRestart_outcome
  | recordUnboundAgentLaunchFailure => exact recordUnboundAgentLaunchFailure_outcome
  | registerAgent => exact registerAgent_outcome
  | bindDispatch => exact bindDispatch_outcome
  | markDispatchRunning => exact markDispatchRunning_outcome
  | recordLaunchFailure => exact recordLaunchFailure_outcome
  | heartbeat => exact heartbeat_outcome
  | reconcileLiveness => exact reconcileLiveness_outcome
  | workerDone => exact workerDone_outcome
  | createGate => exact createGate_outcome
  | resolveGate => exact resolveGate_outcome
  | markMergeApplied => exact markMergeApplied_outcome
  | markCleanupApplied => exact markCleanupApplied_outcome
  | cancelRun => exact cancelRun_outcome
  | postMessage => exact postMessage_outcome
  | acknowledgeEvents => exact acknowledgeEvents_outcome
  | acknowledgeNotification => exact acknowledgeNotification_outcome
  | updateTask => exact updateTaskOperation_outcome
  | retryTask => exact retryTask_outcome
  | acceptRun => exact acceptRun_outcome
  | rejectRun => exact rejectRun_outcome
  | reconcileAfterRestart => exact reconcileAfterRestart_outcome

theorem next_of_wlp {P : Store → Prop} (same : P s) (h : (perform platform call).wlp (fun _ => P) s) :
    P (next platform s call) := by
  rw [next]
  rcases hp : perform platform call s with ⟨_ | response, s'⟩
  · rwa [perform_settled platform call s _ s' hp]
  · exact h response s' hp

theorem next_outcome (platform : Platform) (policy : s.ledger.WithinPolicy) (call : Call) :
    Outcome s call (next platform s call).ledger :=
  next_of_wlp (P := fun s' => Outcome s call s'.ledger) (.refl s call)
    (perform_outcome platform policy call)

end VibeLink.Coordinator
