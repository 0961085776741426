import Mathlib.Data.List.Induction
import VibeLink.Coordinator.Manning
import VibeLink.Coordinator.Capacity

/-! The circuit breaker of a task: how many launch failures it counts, and how many there have been in a row
(`orchestration/mod.rs`, `record_launch_failure`). -/

namespace VibeLink.Coordinator

open VibeLink.Relational Tx

def DispatchRow.failedLaunch (row : DispatchRow) : Option Uuid :=
  if isLaunchFailure row.failureCode then some row.taskId else none

def Store.failedLaunches (s : Store) (d : Uuid) : Option Uuid := (s.dispatches.find d).bind DispatchRow.failedLaunch

def Store.launchFailures (s : Store) (taskId : Uuid) : Nat :=
  s.dispatches.rows.countP fun d => decide (d.failedLaunch = some taskId)

variable {platform : Platform} {env : Env} {operationId runId taskId d : Uuid} {s s' : Store} {call : Call}

instance : Aside (Same Store.failedLaunches) where
  runs _ _ := rfl
  tasks _ _ := rfl
  messages _ _ := rfl
  gates _ _ := rfl
  notifications _ _ := rfl
  runDecisions _ _ := rfl
  launchOperations _ _ := rfl
  launchClaims _ _ := rfl
  resources _ _ := rfl

instance : AsideAgents (Same Store.failedLaunches) := ⟨fun _ _ => rfl⟩

instance : AsideEvents (Same Store.failedLaunches) := ⟨fun _ _ _ => rfl⟩

instance : AsideOperations (Same Store.failedLaunches) := ⟨fun _ _ => rfl⟩

instance : AsideAcknowledgements (Same Store.failedLaunches) := ⟨fun _ _ => rfl⟩

theorem failedLaunches_update {p : DispatchRow → Bool} {f : DispatchRow → DispatchRow} {hf}
    (same : ∀ row, s.dispatches.find row.id = some row → p row → (f row).failedLaunch = row.failedLaunch) :
    Store.failedLaunches { s with dispatches := s.dispatches.update p f hf } = s.failedLaunches := by
  funext d
  simp only [Store.failedLaunches, Table.find_update, modifyAll]
  cases found : s.dispatches.find d with
  | none => rfl
  | some row =>
    have id : row.id = d := Table.key_of_find found
    by_cases chosen : p row
    · simp only [Option.map_some, Option.bind_some, if_pos chosen]
      exact same row (id ▸ found) chosen
    · simp only [Option.map_some, Option.bind_some, if_neg chosen]

/-- Writes that leave the task and the failure of a dispatch alone. -/
instance {p : Store → DispatchRow → Bool} {agent : DispatchRow → Option Uuid} {status : DispatchRow → DispatchStatus}
    {pane : DispatchRow → Option Uuid} {generation : DispatchRow → Option Nat}
    {worktree : DispatchRow → Option WorktreeAssignment} {updatedAt : DispatchRow → Nat} {hf} :
    Respects (Same Store.failedLaunches) (updateDispatches p (fun d =>
      ⟨d.id, d.taskId, d.attempt, agent d, status d, pane d, generation d, worktree d, d.failureCode, d.createdAt,
        updatedAt d⟩) hf) :=
  respects_write fun _ => failedLaunches_update fun _ _ _ => rfl

instance {agent : DispatchRow → Option Uuid} {status : DispatchRow → DispatchStatus}
    {pane : DispatchRow → Option Uuid} {generation : DispatchRow → Option Nat}
    {worktree : DispatchRow → Option WorktreeAssignment} {updatedAt : DispatchRow → Nat} {hf} :
    Respects (Same Store.failedLaunches) (updateDispatch d (fun d =>
      ⟨d.id, d.taskId, d.attempt, agent d, status d, pane d, generation d, worktree d, d.failureCode, d.createdAt,
        updatedAt d⟩) hf) :=
  respects_write fun _ => failedLaunches_update fun _ _ _ => rfl

theorem respects_insertUnfailed {row : DispatchRow} (unfailed : row.failedLaunch = none) :
    Respects (Same Store.failedLaunches) (insertDispatch row) := by
  refine respects_tryWrite fun s s' inserted => ?_
  obtain ⟨dispatches, h, rfl⟩ := Option.map_eq_some_iff.1 inserted
  funext d
  simp only [Store.failedLaunches, Table.find_insert h, Function.update_apply]
  split
  · rename_i same
    rw [same, (Table.insert?_eq_some.1 h).1, Option.bind_some, unfailed, Option.bind_none]
  · rfl

instance {task : Uuid × Nat} :
    Respects (Same Store.failedLaunches) (dispatchReadyTask env operationId runId task) :=
  .bind (k := fun _ => .bind (h := respects_insertUnfailed rfl))

section Operations

set_option synthInstance.maxSize 100000

instance {dispatch : DispatchRecord} : Respects (Same Store.failedLaunches) (resumeDispatch env dispatch) := by
  unfold resumeDispatch; infer_instance

instance {dispatch : Option DispatchRecord} :
    Respects (Same Store.failedLaunches) (resumeOptional env dispatch) := by
  cases dispatch <;> unfold resumeOptional <;> infer_instance

instance : Respects (Same Store.failedLaunches) (cancelActiveRunEntities env runId) := by
  unfold cancelActiveRunEntities; infer_instance

def Op.fails : Op → Bool
  | .recordPaneExit .. | .reconcileDaemonRestart _ | .recordLaunchFailure _ | .reconcileLiveness _
    | .reconcileAfterRestart _ => true
  | _ => false

theorem perform_failedLaunches (call : Call) (spared : call.op.fails = false) :
    Respects (Same Store.failedLaunches) (perform platform call) := by
  obtain ⟨operationId, env, op⟩ := call
  cases op with
  | recordPaneExit | reconcileDaemonRestart | recordLaunchFailure | reconcileLiveness
    | reconcileAfterRestart => cases spared
  | prepareDispatchLaunch request =>
    exact inferInstanceAs (Respects _ (prepareDispatchLaunch platform env operationId request))
  | completeDispatchLaunch request result =>
    exact inferInstanceAs (Respects _ (completeDispatchLaunch platform env operationId request result))
  | updateTask request =>
    have : Respects (Same Store.failedLaunches) (updateTaskBody env operationId request) := by
      unfold updateTaskBody; dsimp only; infer_instance
    exact inferInstanceAs (Respects _ (mutate platform env operationId _ _))
  | reserveDispatchResources | updateDispatchWorktree | recordDispatchAgentResource
    | recordDispatchPaneResource | markDispatchResourceDisposition => exact .atomically
  | createRun => exact .bind (k := fun _ => .bind (k := fun _ => .bind))
  | postMessage | createGate => exact .bind (k := fun _ => .bind)
  | createTask | markMergeApplied | acknowledgeEvents | registerAgent | recordUnboundAgentLaunchFailure
    | bindDispatch => exact .bind
  | _ => exact inferInstanceAs (Respects _ (mutate platform env operationId _ _))

end Operations

section Failures

def Ledger.Ended (L : Ledger) (d : Uuid) : Prop :=
  ∃ row, L.dispatches d = some row ∧ row.status.isActive = false

theorem Move.ended {L L' : Ledger} {l : Label} (h : Move l L L') (ended : L.Ended d) : L'.Ended d := by
  obtain ⟨row, found, final⟩ := ended
  cases h.dispatch_step d with
  | same same => exact ⟨row, same ▸ found, final⟩
  | created fresh => rw [found] at fresh; cases fresh
  | revised was now _ turn =>
    rw [found, Option.some.injEq] at was
    subst was
    refine ⟨_, now, Bool.eq_false_iff.2 fun active => ?_⟩
    rw [turn.active active] at final
    cases final

def Store.FailuresEnded (s : Store) : Prop := ∀ d, s.failedLaunches d ≠ none → s.ledger.Ended d

theorem Store.FailuresEnded.clear (ended : s.FailuresEnded) {row : DispatchRow}
    (found : s.ledger.dispatches d = some row) (active : row.status.isActive) : s.failedLaunches d = none := by
  by_contra failed
  obtain ⟨row', found', final⟩ := ended d failed
  cases found.symm.trans found'
  rw [active] at final
  cases final

/-- From one store to the other no launch has failed. -/
structure Store.FailsNone (s s' : Store) : Prop where
  same : s'.failedLaunches = s.failedLaunches
  ended : s.FailuresEnded → s'.FailuresEnded

instance : IsPreorder Store Store.FailsNone where
  refl _ := ⟨rfl, id⟩
  trans _ _ _ h h' := ⟨h'.same.trans h.same, h'.ended ∘ h.ended⟩

instance : Aside (Same Store.dispatches) where
  runs _ _ := rfl
  tasks _ _ := rfl
  messages _ _ := rfl
  gates _ _ := rfl
  notifications _ _ := rfl
  runDecisions _ _ := rfl
  launchOperations _ _ := rfl
  launchClaims _ _ := rfl
  resources _ _ := rfl

instance : AsideAgents (Same Store.dispatches) := ⟨fun _ _ => rfl⟩

instance : AsideEvents (Same Store.dispatches) := ⟨fun _ _ _ => rfl⟩

theorem wlp_updateDispatch_otherwise {f : DispatchRow → DispatchRow} {hf} {Q : Unit → Store → Prop}
    (clear : s.failedLaunches d = none)
    (otherwise : ∀ row, row.failedLaunch = none → (f row).failedLaunch = none)
    (k : ∀ s', s.FailsNone s' → Q () s') : (updateDispatch d f hf).wlp Q s := by
  simp only [updateDispatch, updateDispatches, wlp_write]
  have same : Store.failedLaunches { s with dispatches := s.dispatches.update (fun row => decide (row.id = d)) f hf } =
      s.failedLaunches := by
    refine failedLaunches_update fun row found chosen => ?_
    simp only [Store.failedLaunches, ← of_decide_eq_true chosen, found, Option.bind_some] at clear
    rw [clear, otherwise row clear]
  refine k _ ⟨same, fun ended i failed => ?_⟩
  rw [same] at failed
  obtain ⟨row, found, final⟩ := ended i failed
  refine ⟨row, ?_, final⟩
  have found : s.dispatches.find i = some row := found
  have ne : i ≠ d := fun eq => failed (eq ▸ clear)
  simp only [Store.ledger, Table.find_update, modifyAll, found, Option.map_some]
  rw [if_neg (by simpa [Table.key_of_find found] using ne)]

theorem wlp_failsNone {α : Type} {x : CoordinatorResult α} [Respects (Same Store.dispatches) x]
    {Q : α → Store → Prop} (k : ∀ a s', s.FailsNone s' → Q a s') : x.wlp Q s := by
  refine wlp_of_respects (Same Store.dispatches) fun a s' same => k a s' ⟨?_, fun ended d failed => ?_⟩
  · funext d
    rw [Store.failedLaunches, same, Store.failedLaunches]
  · rw [Store.failedLaunches, same] at failed
    obtain ⟨row, found, final⟩ := ended d failed
    exact ⟨row, (congrArg (fun t => Table.find t d) same).trans found, final⟩

theorem restartDispatch_failsNone {nowMillis : Nat} {active : DispatchRow}
    (clear : s.failedLaunches active.id = none) :
    (restartDispatch env nowMillis active).wlp (fun _ => s.FailsNone) s := by
  simp only [restartDispatch, wlp_bind, wlp_readDispatch]
  intro row found id
  have clear : s.failedLaunches (s.dispatchRecord row).id = none := (congrArg s.failedLaunches id).trans clear
  cases (s.dispatchRecord row).agentInstanceId with
  | none =>
    simp only [wlp_bind, wlp_pure]
    refine wlp_updateDispatch_otherwise clear (fun _ _ => rfl) fun s₁ h₁ => wlp_failsNone fun _ s₂ h₂ => ?_
    exact IsTrans.trans _ _ _ h₁ h₂
  | some a =>
    simp only [wlp_bind, wlp_readAgent, wlp_ite, wlp_pure]
    intro agent _
    refine ⟨fun _ => wlp_failsNone fun _ s₁ h₁ => ?_, fun _ => wlp_failsNone fun _ s₁ h₁ => ?_⟩
    · refine wlp_updateDispatch_otherwise (h₁.same ▸ clear) (fun _ same => same) fun s₂ h₂ => ?_
      exact IsTrans.trans _ _ _ h₁ h₂
    · refine wlp_updateDispatch_otherwise (h₁.same ▸ clear) (fun _ _ => rfl) fun s₂ h₂ => ?_
      exact wlp_failsNone fun _ s₃ h₃ => IsTrans.trans _ _ _ (IsTrans.trans _ _ _ h₁ h₂) h₃

theorem reconcileRestartedDispatch_failsNone {observedAt : Nat} {active : DispatchRow}
    (clear : s.failedLaunches active.id = none) :
    (reconcileRestartedDispatch env observedAt active).wlp (fun _ => s.FailsNone) s := by
  simp only [reconcileRestartedDispatch, wlp_bind, wlp_readDispatch, wlp_ite, wlp_pure]
  intro row found id
  have clear : s.failedLaunches (s.dispatchRecord row).id = none := (congrArg s.failedLaunches id).trans clear
  refine ⟨fun _ => refl s, fun _ => ⟨fun _ => ?_, fun _ => ?_⟩⟩
  · refine wlp_updateDispatch_otherwise clear (fun _ _ => rfl) fun s₁ h₁ => wlp_failsNone fun _ s₂ h₂ => ?_
    exact IsTrans.trans _ _ _ h₁ h₂
  · refine wlp_updateDispatch_otherwise clear (fun _ _ => rfl) fun s₁ h₁ => wlp_failsNone fun _ s₂ h₂ => ?_
    exact wlp_failsNone fun _ s₃ h₃ => IsTrans.trans _ _ _ (IsTrans.trans _ _ _ h₁ h₂) h₃

theorem activeDispatches_failsNone {β : Type} {f : DispatchRow → CoordinatorResult β} (ended : s.FailuresEnded)
    (round : ∀ row s₁, s₁.failedLaunches row.id = none → (f row).wlp (fun _ => s₁.FailsNone) s₁) :
    (Tx.traverse f (s.activeDispatches runId)).wlp (fun _ => s.FailsNone) s := by
  apply wlp_traverse (I := fun _ _ => s.FailsNone) (refl s)
  intro before row after split _ s₁ h₁
  have member : row ∈ s.activeDispatches runId := by rw [split]; simp
  obtain ⟨found, active, _⟩ := Store.mem_activeDispatches member
  refine wlp_mono (round row s₁ (h₁.same ▸ ended.clear found active)) fun _ s₂ h₂ => ?_
  exact IsTrans.trans _ _ _ h₁ h₂

theorem reconcileDaemonRestart_failsNone {observedAt : Nat} (ended : s.FailuresEnded) :
    (reconcileDaemonRestart env operationId observedAt).wlp (fun _ => s.FailsNone) s := by
  simp only [reconcileDaemonRestart, wlp_atomically, wlp_bind, wlp_gets, wlp_pure]
  apply wlp_fold (I := fun _ => s.FailsNone) (refl s)
  intro runId _ reconciled s₀ h₀
  simp only [reconcileRestartedRun, wlp_bind, wlp_gets, wlp_ite, wlp_readRun, wlp_pure]
  refine wlp_mono (activeDispatches_failsNone (h₀.ended ended) fun _ _ =>
    reconcileRestartedDispatch_failsNone) fun _ s₁ h₁ => ?_
  have h₁ := IsTrans.trans _ _ _ h₀ h₁
  refine wlp_failsNone fun _ s₂ h₂ => ?_
  have h₂ := IsTrans.trans _ _ _ h₁ h₂
  refine ⟨fun _ run _ _ => ?_, fun _ => h₂⟩
  refine wlp_failsNone fun _ s₃ h₃ => wlp_failsNone fun _ s₄ h₄ => wlp_failsNone fun _ s₅ h₅ => ?_
  exact IsTrans.trans _ _ _ h₂ (IsTrans.trans _ _ _ h₃ (IsTrans.trans _ _ _ h₄ h₅))

theorem wlp_mutate_failedLaunches {request : Op} {mutation : CoordinatorResult Response}
    (body : mutation.wlp (fun _ s' => s'.failedLaunches = s.failedLaunches) s) :
    (mutate platform env operationId request mutation).wlp
      (fun _ s' => s'.failedLaunches = s.failedLaunches) s :=
  wlp_mutate_cases (fun _ _ _ => rfl) fun _ => wlp_mono body fun _ _ same _ _ => same

theorem reconcileAfterRestart_failedLaunches {request : RestartReconciliationRequest} (ended : s.FailuresEnded) :
    (reconcileAfterRestart platform env operationId request).wlp
      (fun _ s' => s'.failedLaunches = s.failedLaunches) s := by
  apply wlp_mutate_failedLaunches
  simp only [wlp_bind, wlp_gets, wlp_pure]
  refine wlp_mono (wlp_fold (I := fun _ => s.FailsNone) (refl s) ?_) fun _ _ h => h.same
  intro runId _ result s₀ h₀
  simp only [restartRun, wlp_bind, wlp_gets, wlp_ite, wlp_readRun, wlp_pure]
  refine wlp_mono (activeDispatches_failsNone (h₀.ended ended) fun _ _ =>
    restartDispatch_failsNone) fun _ s₁ h₁ => ?_
  have h₁ := IsTrans.trans _ _ _ h₀ h₁
  refine wlp_failsNone fun _ s₂ h₂ => ?_
  have h₂ := IsTrans.trans _ _ _ h₁ h₂
  refine ⟨fun _ run _ _ => ?_, fun _ => h₂⟩
  refine wlp_failsNone fun _ s₃ h₃ => wlp_failsNone fun _ s₄ h₄ => wlp_failsNone fun _ s₅ h₅ => ?_
  exact IsTrans.trans _ _ _ h₂ (IsTrans.trans _ _ _ h₃ (IsTrans.trans _ _ _ h₄ h₅))

theorem reconcileLiveness_failedLaunches {request : ReconcileLivenessRequest} (ended : s.FailuresEnded) :
    (reconcileLiveness platform env operationId request).wlp
      (fun _ s' => s'.failedLaunches = s.failedLaunches) s := by
  apply wlp_mutate_failedLaunches
  simp only [wlp_bind, wlp_readRun, wlp_requireRunRevision, wlp_gets, wlp_ite, wlp_pure]
  intro run _ _ _
  refine wlp_mono (wlp_traverse (I := fun _ _ => s.FailsNone) (refl s) ?_) fun actions s₁ h₁ => ?_
  · intro before pair after split _ s₁ h₁
    obtain ⟨agentId, stale⟩ := pair
    have member : (agentId, stale) ∈ s.staleDispatches run.id (livenessCutoff request) := by rw [split]; simp
    obtain ⟨found, active, _⟩ := Store.mem_staleDispatches member
    have clear := ended.clear found active
    simp only [reconcileStaleDispatch, wlp_bind, wlp_readAgent, wlp_require, wlp_ite, wlp_pure]
    intro agent _ _ _
    refine wlp_failsNone fun _ s₂ h₂ => ?_
    have h₂ := IsTrans.trans _ _ _ h₁ h₂
    refine wlp_updateDispatch_otherwise (h₂.same ▸ clear) ?_ fun s₃ h₃ => ?_
    · intro row same
      cases (reconcileVerdict ((observationOf request agentId).map AgentObservation.status)
        agent.read.resumable).2.2.2
      · exact same
      · rfl
    · have h₃ := IsTrans.trans _ _ _ h₂ h₃
      exact ⟨fun _ => wlp_failsNone fun _ s₄ h₄ => IsTrans.trans _ _ _ h₃ h₄, fun _ => h₃⟩
  · refine ⟨fun _ => ?_, fun _ => h₁.same⟩
    refine wlp_failsNone fun _ s₂ h₂ => wlp_failsNone fun _ s₃ h₃ => ?_
    rw [h₃.same, h₂.same, h₁.same]

theorem failedLaunch_processExit {row : DispatchRow} {exitCode : Option Int}
    (code : row.failureCode = some (processExitCode exitCode)) : row.failedLaunch = none := by
  have other : isLaunchFailure (some (processExitCode exitCode)) = false := by
    cases exitCode with
    | none => decide
    | some code =>
      have first : (toString "process_exit:").toList = 'p' :: "rocess_exit:".toList := by decide
      simp only [isLaunchFailure, processExitCode, String.toList_append, first, List.cons_append, List.map_cons]
      rfl
  rw [DispatchRow.failedLaunch, code, other]
  rfl

theorem recordPaneExit_failedLaunches {paneId : Uuid} {exitCode : Option Int} {observedAt : Nat}
    (ended : s.FailuresEnded) : (recordPaneExit env operationId paneId exitCode observedAt).wlp
      (fun _ s' => s'.failedLaunches = s.failedLaunches) s := by
  have aside {α : Type} {x : CoordinatorResult α} [Respects (Same Store.failedLaunches) x]
      {Q : α → Store → Prop} {s : Store} (k : ∀ a (s' : Store), s'.failedLaunches = s.failedLaunches → Q a s') :
      x.wlp Q s := wlp_of_respects (Same Store.failedLaunches) k
  simp only [recordPaneExit, wlp_atomically, wlp_bind, wlp_gets]
  cases s.dispatchOfPane paneId with
  | none => simp
  | some dispatchId =>
    simp only [wlp_bind, wlp_readDispatch, wlp_readTask, wlp_ite, wlp_pure]
    intro row found id
    refine aside fun _ s₁ h₁ => aside fun _ s₂ h₂ => aside fun _ s₃ h₃ => ?_
    have same : s₃.failedLaunches = s.failedLaunches := by rw [h₃, h₂, h₁]
    intro task _ _
    refine ⟨fun failed => ?_, fun _ _ _ _ => same⟩
    have clear : s₃.failedLaunches (s.dispatchRecord row).id = none := same ▸ ended.clear found failed.1
    simp only [failExitedDispatch, wlp_bind, wlp_readRun]
    refine wlp_updateDispatch_otherwise clear (fun _ _ => failedLaunch_processExit rfl) fun s₄ h₄ => ?_
    refine aside fun _ s₅ h₅ => aside fun _ s₆ h₆ _ _ _ => ?_
    refine aside fun _ s₇ h₇ => aside fun _ s₈ h₈ => aside fun _ s₉ h₉ _ _ _ => ?_
    rw [h₉, h₈, h₇, h₆, h₅, h₄.same, same]

theorem perform_unfailed (platform : Platform) (ended : s.FailuresEnded)
    (other : ∀ request, call.op ≠ .recordLaunchFailure request) :
    (perform platform call).wlp (fun _ s' => s'.failedLaunches = s.failedLaunches) s := by
  cases fails : call.op.fails with
  | false =>
    have : Respects (Same Store.failedLaunches) (perform platform call) := perform_failedLaunches call fails
    exact wlp_of_respects (Same Store.failedLaunches) fun _ _ same => same
  | true =>
    obtain ⟨operationId, env, op⟩ := call
    cases op with
    | recordLaunchFailure request => exact absurd rfl (other request)
    | recordPaneExit => exact recordPaneExit_failedLaunches ended
    | reconcileDaemonRestart =>
      exact wlp_mono (reconcileDaemonRestart_failsNone ended) fun _ _ none => none.same
    | reconcileLiveness => exact reconcileLiveness_failedLaunches ended
    | reconcileAfterRestart => exact reconcileAfterRestart_failedLaunches ended
    | _ => cases fails

end Failures

section Counting

theorem DispatchRow.failedLaunch_eq_some {row : DispatchRow} :
    row.failedLaunch = some taskId ↔ isLaunchFailure row.failureCode ∧ row.taskId = taskId := by
  simp only [DispatchRow.failedLaunch]
  split <;> simp [*]

theorem Store.mem_failedLaunches : d ∈ ((s.dispatches.rows.filter fun row =>
    decide (row.failedLaunch = some taskId)).map DispatchRow.id).toFinset ↔ s.failedLaunches d = some taskId := by
  simp only [List.mem_toFinset, List.mem_map, List.mem_filter, decide_eq_true_eq, Store.failedLaunches,
    Option.bind_eq_some_iff]
  constructor
  · rintro ⟨row, ⟨member, failed⟩, rfl⟩
    exact ⟨row, Table.find_of_mem member, failed⟩
  · rintro ⟨row, found, failed⟩
    exact ⟨row, ⟨Table.mem_of_find found, failed⟩, Table.key_of_find found⟩

theorem launchFailures_congr (same : s'.failedLaunches = s.failedLaunches) :
    s'.launchFailures taskId = s.launchFailures taskId := by
  simp only [Store.launchFailures, Table.countP_eq_card]
  congr 1
  ext d
  rw [Store.mem_failedLaunches, Store.mem_failedLaunches, same]

theorem launchFailures_update {owner : Uuid} (clear : s.failedLaunches d = none)
    (recorded : s'.failedLaunches = Function.update s.failedLaunches d (some owner)) :
    s'.launchFailures taskId = s.launchFailures taskId + if owner = taskId then 1 else 0 := by
  simp only [Store.launchFailures, Table.countP_eq_card]
  by_cases own : owner = taskId
  · rw [if_pos own, ← Finset.card_insert_of_notMem (a := d)]
    · congr 1
      ext i
      rw [Finset.mem_insert, Store.mem_failedLaunches, Store.mem_failedLaunches, recorded, Function.update_apply]
      split
      · rename_i same
        simp [same, own]
      · rename_i other
        simp [other]
    · rw [Store.mem_failedLaunches, clear]
      simp
  · rw [if_neg own, Nat.add_zero]
    congr 1
    ext i
    rw [Store.mem_failedLaunches, Store.mem_failedLaunches, recorded, Function.update_apply]
    split
    · rename_i same
      simp [same, own, clear]
    · rfl

/-- What the record of a launch failure does to the store. -/
structure FailureRecorded (s s' : Store) (d : Uuid) (result : LaunchFailureResult) : Prop where
  clear : s.failedLaunches d = none
  recorded : s'.failedLaunches = Function.update s.failedLaunches d (some result.task.id)
  broken : result.circuitBroken ↔ 2 ≤ s.launchFailures result.task.id % UInt32.size
  status : (s'.ledger.dispatches d).map DispatchRow.status =
    some (if result.circuitBroken then .circuitBroken else .failed)

theorem Store.countP_previousFailures (clear : s.failedLaunches d = none) :
    s.dispatches.rows.countP (fun row => decide (row.taskId = taskId) && decide (row.id ≠ d) &&
      isLaunchFailure row.failureCode) = s.launchFailures taskId := by
  apply List.countP_congr
  intro other member
  have found' : s.dispatches.find other.id = some other := Table.find_of_mem member
  rw [decide_eq_true_iff, DispatchRow.failedLaunch_eq_some]
  simp only [Bool.and_eq_true, decide_eq_true_eq]
  constructor
  · exact fun ⟨⟨task, _⟩, failed⟩ => ⟨failed, task⟩
  · refine fun ⟨failed, task⟩ => ⟨⟨task, fun same => ?_⟩, failed⟩
    rw [Store.failedLaunches, ← same, found', Option.bind_some, DispatchRow.failedLaunch, if_pos failed] at clear
    cases clear

theorem trips_iff_count (n : Nat) : circuitBreakerFailures ≤ min (n % UInt32.size + 1) (UInt32.size - 1) ↔
    2 ≤ n % UInt32.size := by
  simp only [circuitBreakerFailures, UInt32.size]
  omega

theorem recordLaunchFailure_records {request : LaunchFailureRequest} (ended : s.FailuresEnded) :
    (recordLaunchFailure platform env operationId request).wlp (fun response s' =>
      (s.operations.find operationId).isSome ∧ s' = s ∨ s.operations.find operationId = none ∧
        ∃ result, response = .launchFailure result ∧ FailureRecorded s s' request.dispatchId result) s := by
  simp only [recordLaunchFailure, wlp_bind, wlp_ofExcept]
  intro failureCode _
  refine wlp_mutate_cases (fun recorded found _ => .inl ⟨by rw [found]; rfl, rfl⟩) fun fresh => ?_
  simp only [wlp_bind, wlp_readDispatch, wlp_require, wlp_readTask, wlp_requireTaskRevision, wlp_gets, wlp_pure]
  intro row found id active task task_row task_id _
  have active : row.status.isActive := by
    rcases active with pending | dispatched
    · exact congrArg DispatchStatus.isActive pending
    · exact congrArg DispatchStatus.isActive dispatched
  have found : s.ledger.dispatches request.dispatchId = some row := id ▸ found
  have clear := ended.clear found active
  have same_id : (s.dispatchRecord row).id = request.dispatchId := id
  simp only [same_id, Store.countP_previousFailures clear, ge_iff_le, trips_iff_count]
  refine wlp_updateDispatch found fun s₁ new hnew h₁ => ?_
  refine wlp_of_respects (Same Store.dispatches) fun _ s₂ h₂ task' _ task_id' row' _ _ => ?_
  refine wlp_of_respects (Same Store.dispatches) fun _ s₃ h₃ => ?_
  refine wlp_of_respects (Same Store.dispatches) fun _ s₄ h₄ operations _ => .inr ⟨fresh, _, rfl, ?_⟩
  have dispatches : s₄.ledger.dispatches = Function.update s.ledger.dispatches request.dispatchId (some new) := by
    have new_id : new.id = request.dispatchId := by rw [hnew]; exact id
    have put : s₁.ledger.dispatches = (s.ledger.putDispatch new).dispatches := congrArg Ledger.dispatches h₁
    have same : s₄.dispatches = s₁.dispatches := h₄.trans (h₃.trans h₂)
    simp only [Store.ledger] at put ⊢
    rw [same, put, Ledger.putDispatch, new_id]
  have failed : new.failedLaunch = some task.id := by
    have launch : isLaunchFailure (some ("launch:" ++ failureCode)) := by
      have first : "launch:".toList = ['l', 'a', 'u', 'n', 'c', 'h', ':'] := by decide
      simp only [isLaunchFailure, String.toList_append, first, List.cons_append, List.map_cons]
      rfl
    rw [DispatchRow.failedLaunch_eq_some, hnew]
    exact ⟨launch, task_id.symm⟩
  refine ⟨clear, ?_, ?_, ?_⟩
  · funext d
    have at_d := congrFun dispatches d
    change (s₄.ledger.dispatches d).bind DispatchRow.failedLaunch = _
    rw [at_d, Function.update_apply, Function.update_apply]
    split
    · rw [Option.bind_some, failed, task_id']
    · rfl
  · rw [decide_eq_true_iff, task_id']
  · change (s₄.ledger.dispatches request.dispatchId).map DispatchRow.status = _
    rw [dispatches, Function.update_self, Option.map_some, hnew]
    simp only [same_id, Store.countP_previousFailures clear, ge_iff_le, trips_iff_count]

end Counting

section History

variable (platform) (taskId)

/-- What becomes of the launches of a task. -/
inductive LaunchEvent where
  | launched
  | failed
  | retried
  deriving DecidableEq

def Store.isRunning (s : Store) (d : Uuid) : Bool :=
  decide ((s.dispatches.find d).map DispatchRow.status = some .running)

def launches (calls : List Call) (call : Call) : Bool :=
  (next platform (run platform calls) call).dispatches.rows.any fun row =>
    decide (row.taskId = taskId ∧ row.status = .running) &&
      !(calls.inits.any fun before => (run platform before).isRunning row.id)

/-- What the call tells of the task's launches after the calls before it. -/
def launchEvent (calls : List Call) (call : Call) : Option LaunchEvent :=
  match ((run platform calls).operations.find call.operationId).isSome, call.op,
    (perform platform call (run platform calls)).1 with
  | true, _, _ => none
  | false, .recordLaunchFailure _, .ok (.launchFailure result) =>
    if result.task.id = taskId then some .failed else none
  | false, .retryTask _, .ok (.task task) => if task.id = taskId then some .retried else none
  | false, _, _ => if launches platform taskId calls call then some .launched else none

def launchEventsFrom (past : List Call) : List Call → List LaunchEvent
  | [] => []
  | call :: calls => (launchEvent platform taskId past call).toList ++ launchEventsFrom (past ++ [call]) calls

/-- The launches of a task over a run of the service, the last one last. -/
def launchHistory (calls : List Call) : List LaunchEvent := launchEventsFrom platform taskId [] calls

/-- The call breaks the circuit of the dispatch whose launch it records as failed. -/
def Trips (calls : List Call) (call : Call) : Prop :=
  ∃ request, call.op = .recordLaunchFailure request ∧
    ((next platform (run platform calls) call).dispatches.find request.dispatchId).map DispatchRow.status =
      some .circuitBroken

/-- The failures in the whole life of the task and those at the end of its history are two or more alike. -/
def FailedInARow (history : List LaunchEvent) : Prop :=
  List.replicate 2 .failed <:+ history ↔ 2 ≤ history.count .failed % UInt32.size

variable {platform} {taskId}

theorem launchEventsFrom_snoc (past calls : List Call) (call : Call) :
    launchEventsFrom platform taskId past (calls ++ [call]) =
      launchEventsFrom platform taskId past calls ++ (launchEvent platform taskId (past ++ calls) call).toList := by
  induction calls generalizing past with
  | nil => simp [launchEventsFrom]
  | cons first calls ih => simp [launchEventsFrom, ih]

theorem launchHistory_snoc (calls : List Call) (call : Call) :
    launchHistory platform taskId (calls ++ [call]) =
      launchHistory platform taskId calls ++ (launchEvent platform taskId calls call).toList :=
  launchEventsFrom_snoc [] calls call

theorem next_records (platform : Platform) (ended : s.FailuresEnded) (call : Call) :
    (∃ request result, call.op = .recordLaunchFailure request ∧ s.operations.find call.operationId = none ∧
      (perform platform call s).1 = .ok (.launchFailure result) ∧
      FailureRecorded s (next platform s call) request.dispatchId result) ∨
    (next platform s call).failedLaunches = s.failedLaunches ∧
      (s.operations.find call.operationId = none → ∀ request result, call.op = .recordLaunchFailure request →
        (perform platform call s).1 ≠ .ok (.launchFailure result)) := by
  by_cases other : ∀ request, call.op ≠ .recordLaunchFailure request
  · refine .inr ⟨?_, fun _ request _ op => absurd op (other request)⟩
    exact next_of_wlp (P := fun s' => s'.failedLaunches = s.failedLaunches) rfl (perform_unfailed platform ended other)
  · obtain ⟨request, op⟩ := not_forall_not.1 other
    rw [next]
    rcases performed : perform platform call s with ⟨e | response, s'⟩
    · refine .inr ⟨?_, fun _ _ _ _ => by simp⟩
      rw [perform_settled platform call s e s' performed]
    · obtain ⟨operationId, env, _⟩ := call
      cases op
      rcases recordLaunchFailure_records ended response s' performed with
        ⟨replayed, same⟩ | ⟨fresh, result, rfl, recorded⟩
      · refine .inr ⟨congrArg Store.failedLaunches same, fun fresh => ?_⟩
        rw [fresh] at replayed
        cases replayed
      · exact .inl ⟨request, result, rfl, fresh, rfl, recorded⟩

theorem next_failuresEnded (platform : Platform) (sound : s.ledger.Sound) (ended : s.FailuresEnded)
    (call : Call) : (next platform s call).FailuresEnded := by
  have stays (d : Uuid) (was : s.ledger.Ended d) : (next platform s call).ledger.Ended d :=
    (next_outcome platform sound.policy call).chain.preserves (I := fun L => L.Ended d)
      (fun _ _ _ _ move => move.ended) was
  intro d failed
  rcases next_records platform ended call with ⟨request, result, _, _, _, recorded⟩ | ⟨same, _⟩
  · rw [recorded.recorded, Function.update_apply] at failed
    split at failed
    · rename_i is
      obtain ⟨row, found, status⟩ := Option.map_eq_some_iff.1 recorded.status
      refine ⟨row, is ▸ found, ?_⟩
      rw [status]
      split <;> rfl
    · exact stays d (ended d failed)
  · exact stays d (ended d (same ▸ failed))

theorem run_failuresEnded (platform : Platform) (calls : List Call) : (run platform calls).FailuresEnded := by
  induction calls using List.reverseRecOn with
  | nil => intro d failed; exact absurd rfl failed
  | append_singleton calls call ih =>
    rw [run_snoc]
    exact next_failuresEnded platform (run_sound platform calls) ih call

theorem launchEvent_eq_failed {calls : List Call} {call : Call} :
    launchEvent platform taskId calls call = some .failed ↔ ∃ request result,
      call.op = .recordLaunchFailure request ∧ (run platform calls).operations.find call.operationId = none ∧
      (perform platform call (run platform calls)).1 = .ok (.launchFailure result) ∧ result.task.id = taskId := by
  rw [← Option.not_isSome_iff_eq_none]
  simp only [launchEvent]
  split <;> simp_all

theorem count_toList (event : Option LaunchEvent) :
    event.toList.count .failed = if event = some .failed then 1 else 0 := by
  rcases event with _ | _ | _ | _ <;> rfl

theorem count_launchHistory (platform : Platform) (taskId : Uuid) (calls : List Call) :
    (launchHistory platform taskId calls).count .failed = (run platform calls).launchFailures taskId := by
  induction calls using List.reverseRecOn with
  | nil => rfl
  | append_singleton calls call ih =>
    rw [launchHistory_snoc, List.count_append, ih, run_snoc, count_toList]
    rcases next_records platform (run_failuresEnded platform calls) call with
      ⟨request, result, op, fresh, answered, recorded⟩ | ⟨same, unrecorded⟩
    · have event : launchEvent platform taskId calls call = some .failed ↔ result.task.id = taskId := by
        rw [launchEvent_eq_failed]
        constructor
        · rintro ⟨request', result', _, _, answered', own⟩
          rw [answered] at answered'
          cases answered'
          exact own
        · exact fun own => ⟨request, result, op, fresh, answered, own⟩
      rw [launchFailures_update recorded.clear recorded.recorded]
      simp only [event]
    · rw [launchFailures_congr same, if_neg, Nat.add_zero]
      intro event
      obtain ⟨request, result, op, fresh, answered, _⟩ := launchEvent_eq_failed.1 event
      exact unrecorded fresh request result op answered

theorem suffix_snoc {α : Type} {a : α} {n : Nat} {l : List α} :
    List.replicate (n + 1) a <:+ l ++ [a] ↔ List.replicate n a <:+ l := by
  rw [List.suffix_concat_iff, List.replicate_succ']
  constructor
  · rintro (empty | ⟨t, same, suffix⟩)
    · simp at empty
    · rwa [List.append_cancel_right same]
  · exact fun suffix => .inr ⟨_, rfl, suffix⟩

def brokenRun : List Call :=
  scheduledRun ++
    [.plain "first" (.recordLaunchFailure ⟨"schedule-0", 2, "spawn"⟩),
      .plain "second" (.scheduleReady ⟨"run-0", 3⟩),
      .plain "again" (.recordLaunchFailure ⟨"second-0", 4, "spawn"⟩),
      .plain "third" (.scheduleReady ⟨"run-0", 4⟩)]

def breaks : Call := .plain "last" (.recordLaunchFailure ⟨"third-0", 6, "spawn"⟩)

/-- The task is retried once its circuit is broken, and its next launch is the fourth. -/
def retriedRun : List Call :=
  brokenRun ++ [breaks, .plain "retry" (.retryTask ⟨"run-0", "task-0", 5, 7⟩),
    .plain "fourth" (.scheduleReady ⟨"run-0", 6⟩)]

def breaksAgain : Call := .plain "fail" (.recordLaunchFailure ⟨"fourth-0", 9, "spawn"⟩)

end History

end VibeLink.Coordinator
