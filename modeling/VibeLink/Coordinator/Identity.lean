import VibeLink.Coordinator.Cancellation
import VibeLink.Coordinator.Replay

/-! A worker reports under the identity it was bound with.  Once the dispatch or the agent has
another one on record, nothing that the worker reports changes the store. -/

namespace VibeLink.Coordinator

open VibeLink.Relational

def Op.identity : Op → Option LifecycleIdentity
  | .markDispatchRunning identity _ => some identity
  | .heartbeat request => some request.identity
  | .workerDone request => some request.identity
  | _ => none

/-- The identity differs from what the dispatch and its agent have on record. -/
def Store.Foreign (s : Store) (identity : LifecycleIdentity) : Prop :=
  ∀ row, s.ledger.dispatches identity.dispatchId = some row →
    row.taskId ≠ identity.taskId ∨ row.agentInstanceId ≠ some identity.agentInstanceId ∨
    row.paneId ≠ identity.paneId ∨ row.processGeneration ≠ some identity.processGeneration ∨
    ∀ agent, s.ledger.agents identity.agentInstanceId = some agent →
      agent.generation ≠ identity.processGeneration

variable {platform : Platform} {s : Store} {call : Call} {identity : LifecycleIdentity}

theorem Store.Foreign.not_identifies (foreign : s.Foreign identity) (row : DispatchRow) :
    ¬s.Identifies identity row := by
  intro h
  obtain ⟨agent, found, generation⟩ := h.generation
  rcases foreign row (h.dispatch ▸ h.found) with task | owner | pane | process | replaced
  · exact task h.task
  · exact owner h.agent
  · exact pane h.pane
  · exact process h.process
  · exact replaced agent found generation

theorem wlp_validateIdentity_of_foreign {Q : DispatchRecord → Store → Prop}
    (foreign : s.Foreign identity) : (validateIdentity identity).wlp Q s :=
  wlp_validateIdentity fun row h => absurd h (foreign.not_identifies row)

theorem perform_worker (platform : Platform) (worker : call.op.identity = some identity) :
    ∃ report : DispatchRecord → CoordinatorResult Response,
      perform platform call = mutate platform call.env call.operationId call.op
        (validateIdentity identity >>= report) := by
  obtain ⟨operationId, env, op⟩ := call
  cases op with
  | markDispatchRunning | heartbeat | workerDone =>
    cases worker
    exact ⟨_, rfl⟩
  | _ => cases worker

theorem perform_foreign (worker : call.op.identity = some identity) (foreign : s.Foreign identity)
    (fresh : call.Fresh s) : (perform platform call).wlp (fun _ _ => False) s := by
  obtain ⟨report, routed⟩ := perform_worker platform worker
  rw [routed]
  apply wlp_mutate_cases
  · intro recorded found
    cases found.symm.trans fresh
  · intro _
    rw [Tx.wlp_bind]
    exact wlp_validateIdentity_of_foreign foreign

/-- The report of a worker under a foreign identity leaves the store as it is.  It fails, unless
its operation id is on record: then an equal request gets the recorded answer again. -/
theorem foreign_worker_changes_nothing (platform : Platform) (calls : List Call) (call : Call)
    (identity : LifecycleIdentity) (worker : call.op.identity = some identity)
    (foreign : (run platform calls).Foreign identity) :
    run platform (calls ++ [call]) = run platform calls ∧
      (call.Fresh (run platform calls) →
        ∃ e, perform platform call (run platform calls) = (.error e, run platform calls)) ∧
      ∀ recorded, (run platform calls).operations.find call.operationId = some recorded →
        perform platform call (run platform calls) =
          (if recorded.requestHash = platform.requestHash call.op then .ok recorded.response
            else .error (.conflict "operation id was already used for a different request"),
            run platform calls) := by
  have fails (fresh : call.Fresh (run platform calls)) :
      ∃ e, perform platform call (run platform calls) = (.error e, run platform calls) := by
    cases h : perform platform call (run platform calls) with
    | mk result s' =>
      cases result with
      | error e => exact ⟨e, by rw [perform_settled platform call _ e s' h]⟩
      | ok response => exact (perform_foreign worker foreign fresh response s' h).elim
  have replays (recorded : OperationRow)
      (found : (run platform calls).operations.find call.operationId = some recorded) :
      perform platform call (run platform calls) =
        (if recorded.requestHash = platform.requestHash call.op then .ok recorded.response
          else .error (.conflict "operation id was already used for a different request"),
          run platform calls) := by
    obtain ⟨report, routed⟩ := perform_worker platform worker
    rw [routed]
    split
    · exact mutate_replayed found ‹_›
    · exact mutate_conflict found ‹_›
  refine ⟨?_, fails, replays⟩
  rw [run_snoc, next]
  cases h : (run platform calls).operations.find call.operationId with
  | none =>
    obtain ⟨e, he⟩ := fails h
    rw [he]
  | some recorded => rw [replays recorded h]

def paneIdentity : LifecycleIdentity := ⟨"task-0", "schedule-0", "agent-0", some "pane", 1⟩

def beat (operationId : Uuid) : Call := .plain operationId (.heartbeat ⟨paneIdentity, 1⟩)

/-- The worker of the dispatch sends a heartbeat, then its pane exits. -/
def exitedRun : List Call :=
  scheduledRun ++
    [.plain "agent" (.registerAgent ⟨.ptyCli, none, "workspace", none, true⟩),
      .plain "bind" (.bindDispatch ⟨"schedule-0", 2, "agent-0", "runtime", some "pane", 1, none⟩),
      beat "beat", .plain "exit" (.recordPaneExit "pane" none 1)]

theorem exitedRun_foreign : (run .plain exitedRun).Foreign paneIdentity := by
  have h : ∀ row ∈ (run .plain exitedRun).ledger.dispatches "schedule-0", row.paneId = none := by
    decide +kernel
  intro row found
  refine .inr (.inr (.inl ?_))
  rw [h row found]
  exact nofun

theorem late_beat_refused :
    ∃ e, perform .plain (beat "late") (run .plain exitedRun) = (.error e, run .plain exitedRun) :=
  (foreign_worker_changes_nothing .plain exitedRun (beat "late") paneIdentity rfl
    exitedRun_foreign).2.1
      (Option.isNone_iff_eq_none.1 (by decide +kernel))

/-- The heartbeat that the worker sends a second time is answered once more. -/
theorem repeated_beat_answered :
    (run .plain exitedRun).Foreign paneIdentity ∧
      ∃ response, perform .plain (beat "beat") (run .plain exitedRun) =
        (.ok response, run .plain exitedRun) := by
  refine ⟨exitedRun_foreign, ?_⟩
  obtain ⟨recorded, found, same⟩ : ∃ recorded ∈ (run .plain exitedRun).operations.find "beat",
      recorded.requestHash = Platform.plain.requestHash (beat "beat").op := by decide +kernel
  exact ⟨recorded.response, mutate_replayed found same⟩

end VibeLink.Coordinator
