import VibeLink.Coordinator.Manning
import VibeLink.Coordinator.Capacity

/-! An agent and its dispatches over whole runs: one at a time, and active while it has one,
unless a run is closed in which the agent used to work. -/

namespace VibeLink.Coordinator

open VibeLink.Relational Tx

/-- No agent has two live dispatches, and the agent of a live one is active. -/
structure Store.Staffed (s : Store) : Prop where
  one : ∀ {d d' row row' agentId}, s.ledger.dispatches d = some row →
    s.ledger.dispatches d' = some row' → row.status.isLive → row'.status.isLive →
    row.agentInstanceId = some agentId → row'.agentInstanceId = some agentId → d = d'
  active : ∀ {d row}, s.ledger.dispatches d = some row → row.status.isLive →
    ∃ agentId agent, row.agentInstanceId = some agentId ∧ s.ledger.agents agentId = some agent ∧
      agent.status.isActive

/-- An agent that has had a dispatch in the run is at work in another one. -/
def Store.worksElsewhere (s : Store) (runId : Uuid) : Bool :=
  s.dispatches.rows.any fun d => s.inRun runId d && d.agentInstanceId.isSome &&
    s.dispatches.rows.any fun d' => decide (d'.agentInstanceId = d.agentInstanceId) &&
      d'.status.isLive && !s.inRun runId d'

/-- The run that a call is about to close: an open run that it cancels, or one that it rejects. -/
def Store.closing (s : Store) (call : Call) : Option Uuid :=
  if (s.operations.find call.operationId).isSome then none
  else match call.op with
    | .cancelRun request => (s.runs.find request.runId).bind fun run =>
        if run.revision = request.expectedRunRevision ∧ run.status.isTerminal = false then some run.id
        else none
    | .rejectRun request => (s.runs.find request.runId).bind fun run =>
        if run.revision = request.expectedRunRevision then some run.id else none
    | _ => none

/-- The call closes a run and takes with it an agent that is at work elsewhere. -/
def Store.Strands (s : Store) (call : Call) : Prop := ∃ runId ∈ s.closing call, s.worksElsewhere runId

instance (s : Store) (call : Call) : Decidable (s.Strands call) :=
  inferInstanceAs (Decidable (∃ runId ∈ s.closing call, s.worksElsewhere runId))

variable {platform : Platform} {env : Env} {operationId runId : Uuid} {s : Store}

theorem Store.Staffed.of_manned (manned : s.crew.Manned) : s.Staffed where
  one found found' live live' owner owner' := by
    exact manned.one _ _ _ ⟨_, owner ▸ Store.crew_post found, live⟩
      ⟨_, owner' ▸ Store.crew_post found', live'⟩
  active found live := by
    obtain ⟨agentId, status, owner, working, active⟩ := manned.owned _ _ _ (Store.crew_post found) live
    obtain ⟨agent, agent_found, rfl⟩ := Option.map_eq_some_iff.1 working
    exact ⟨agentId, agent, owner, agent_found, active⟩

section Closing

def Store.InRun (s : Store) (runId d : Uuid) : Prop :=
  ∃ row, s.ledger.dispatches d = some row ∧ s.inRun runId row

theorem Store.apart_of_worksElsewhere (h : ¬s.worksElsewhere runId) {a d i : Uuid}
    {status : DispatchStatus} (inside : s.InRun runId d) (worked : s.crew.post d = some (status, some a))
    (owns : s.crew.Owns a i) : s.InRun runId i := by
  obtain ⟨row, found, inRun⟩ := inside
  obtain ⟨live, post, isLive⟩ := owns
  obtain ⟨row', found', heq⟩ := Option.map_eq_some_iff.1 post
  obtain ⟨rfl, owner'⟩ := Prod.mk.inj heq
  have owner : row.agentInstanceId = some a := by
    rw [Store.crew_post found] at worked
    exact (Prod.mk.inj (Option.some.inj worked)).2
  refine ⟨row', found', Bool.not_eq_false _ ▸ fun outside => h ?_⟩
  refine List.any_eq_true.2 ⟨row, Table.mem_of_find found, ?_⟩
  rw [inRun, owner, Option.isSome_some, Bool.true_and, Bool.true_and]
  refine List.any_eq_true.2 ⟨row', Table.mem_of_find found', ?_⟩
  rw [owner', outside, isLive]
  simp

theorem cancelActiveRunEntities_manned (manned : s.crew.Manned) (apart : ¬s.worksElsewhere runId) :
    (cancelActiveRunEntities env runId).wlp (fun _ s' => s'.crew.Manned) s := by
  simp only [cancelActiveRunEntities, wlp_bind]
  refine wlp_updateTasks fun s₁ h₁ => wlp_updateDispatches fun s₂ h₂ => ?_
  refine wlp_updateAgents_crew (fun _ => rfl) fun s₃ posts crew => wlp_aside fun _ s₄ h₄ => ?_
  have owners (t : Uuid) : (s₁.ledger.tasks t).map TaskRecord.runId =
      (s.ledger.tasks t).map TaskRecord.runId := by
    rw [h₁]
    apply map_modifyAll
    intro task
    split <;> rfl
  have inRun (row : DispatchRow) : s₁.inRun runId row = s.inRun runId row :=
    Bool.eq_iff_iff.2 (by rw [Store.inRun_iff, Store.inRun_iff, owners])
  have rows {d : Uuid} {row' : DispatchRow} (found' : s₂.ledger.dispatches d = some row') :
      ∃ row, s.ledger.dispatches d = some row ∧ row'.taskId = row.taskId ∧
        row'.agentInstanceId = row.agentInstanceId ∧
        (row'.status.isActive = false ∨ s.inRun runId row = false ∧ row'.status = row.status) := by
    rw [h₂] at found'
    obtain ⟨row, found, rfl⟩ := modifyAll_eq_some.1 found'
    rw [h₁] at found
    refine ⟨row, found, ?_⟩
    rw [inRun]
    cases inside : s.inRun runId row with
    | true =>
      cases active : row.status.isActive with
      | true => exact ⟨rfl, rfl, .inl rfl⟩
      | false => exact ⟨rfl, rfl, .inl active⟩
    | false => exact ⟨rfl, rfl, .inr ⟨rfl, rfl⟩⟩
  rw [h₄]
  apply manned.dismiss (P := s.InRun runId)
  · intro d status owner post
    rw [posts] at post
    obtain ⟨row', found', heq⟩ := Option.map_eq_some_iff.1 post
    cases heq
    obtain ⟨row, found, _, owner, final | ⟨outside, status⟩⟩ := rows found'
    · exact .inl final
    · rw [owner, status]
      refine .inr ⟨?_, Store.crew_post found⟩
      rintro ⟨other, found', inside⟩
      cases found.symm.trans found'
      rw [outside] at inside
      cases inside
  · intro a
    have kept : s₂.crew.status = s.crew.status := by simp only [Store.crew, Ledger.crew, h₂, h₁]
    rw [← kept]
    apply (crew a).imp_right
    intro released
    obtain ⟨_, agent, agent_found, chosen⟩ := released
    rw [Bool.and_eq_true, List.any_eq_true] at chosen
    obtain ⟨⟨row', member, chosen⟩, _⟩ := chosen
    rw [Bool.and_eq_true, decide_eq_true_eq, Store.agent_id agent_found] at chosen
    obtain ⟨row, found, task, owner, _⟩ := rows (Store.mem_rows_dispatches.1 member)
    refine ⟨row'.id, row.status, ⟨row, found, ?_⟩, ?_⟩
    · rw [Store.inRun_iff, ← owners, ← task]
      have inside := Store.inRun_iff.1 chosen.1
      rwa [h₂] at inside
    · rw [Store.crew_post found, ← owner, chosen.2]
  · exact fun a d i status inside worked owns => Store.apart_of_worksElsewhere apart inside worked owns

theorem cancelRun_manned {request : RunRevisionRequest} (manned : s.crew.Manned)
    (spared : ¬s.Strands ⟨operationId, env, .cancelRun request⟩) :
    (cancelRun platform env operationId request).wlp (fun _ s' => s'.crew.Manned) s := by
  apply wlp_mutate_crew manned
  intro fresh
  simp only [wlp_bind, wlp_readRun, wlp_requireRunRevision, wlp_require, wlp_pure]
  intro run found id revision open_
  have closing : s.closing ⟨operationId, env, .cancelRun request⟩ = some run.id := by
    have found : s.runs.find request.runId = some run := id ▸ found
    simp [Store.closing, fresh, found, revision, open_]
  refine wlp_mono (cancelActiveRunEntities_manned manned fun elsewhere =>
    spared ⟨run.id, closing, elsewhere⟩) fun _ s₁ manned₁ => ?_
  refine wlp_aside fun _ s₂ h₂ => wlp_aside fun _ s₃ h₃ => ?_
  rw [h₃, h₂]
  exact manned₁

theorem acceptRun_manned {request : RunDecisionRequest} (manned : s.crew.Manned) :
    (acceptRun platform env operationId request).wlp (fun _ s' => s'.crew.Manned) s := by
  apply wlp_mutate_crew manned
  intro _
  simp only [if_true, wlp_bind, wlp_readRun, wlp_requireRunRevision, wlp_require, wlp_gets, wlp_ite, wlp_pure]
  intro run _ _ _ _
  refine ⟨fun _ => ?_, fun _ => ?_⟩
  all_goals
    refine wlp_aside fun _ s₁ h₁ => wlp_aside fun _ s₂ h₂ => wlp_aside fun _ s₃ h₃ => ?_
    rw [h₃, h₂, h₁]
    exact manned

theorem rejectRun_manned {request : RunDecisionRequest} (manned : s.crew.Manned)
    (spared : ¬s.Strands ⟨operationId, env, .rejectRun request⟩) :
    (rejectRun platform env operationId request).wlp (fun _ s' => s'.crew.Manned) s := by
  apply wlp_mutate_crew manned
  intro fresh
  simp only [Bool.false_eq_true, if_false, wlp_bind, wlp_readRun, wlp_requireRunRevision, wlp_gets, wlp_pure]
  intro run found id revision
  have closing : s.closing ⟨operationId, env, .rejectRun request⟩ = some run.id := by
    have found : s.runs.find request.runId = some run := id ▸ found
    simp [Store.closing, fresh, found, revision]
  refine wlp_mono (cancelActiveRunEntities_manned manned fun elsewhere =>
    spared ⟨run.id, closing, elsewhere⟩) fun _ s₁ manned₁ => ?_
  refine wlp_aside fun _ s₂ h₂ => wlp_aside fun _ s₃ h₃ => wlp_aside fun _ s₄ h₄ => ?_
  rw [h₄, h₃, h₂]
  exact manned₁

end Closing

section Runs

variable {call : Call}

set_option synthInstance.maxSize 100000

theorem perform_manned (platform : Platform) (manned : s.crew.Manned) (spared : ¬s.Strands call) :
    (perform platform call).wlp (fun _ s' => s'.crew.Manned) s := by
  have aside (x : CoordinatorResult Response) (h : Respects (Same Store.crew) x) :
      x.wlp (fun _ s' => s'.crew.Manned) s := wlp_aside fun _ s' same => same ▸ manned
  have stays (x : CoordinatorResult Response) (h : Respects Store.StaysManned x) :
      x.wlp (fun _ s' => s'.crew.Manned) s :=
    wlp_of_respects Store.StaysManned fun _ _ stays => stays manned
  obtain ⟨operationId, env, op⟩ := call
  cases op with
  | scheduleReady => exact stays _ (inferInstanceAs (Respects _ (mutate platform env operationId _ _)))
  | prepareDispatchLaunch request =>
    exact stays _ (inferInstanceAs (Respects _ (prepareDispatchLaunch platform env operationId request)))
  | recordPaneExit => exact recordPaneExit_manned manned
  | reconcileDaemonRestart => exact reconcileDaemonRestart_manned manned
  | markDispatchResourceDisposition => exact markDispatchResourceDisposition_manned manned
  | recordUnboundAgentLaunchFailure => exact recordUnboundAgentLaunchFailure_manned manned
  | registerAgent => exact registerAgent_manned manned
  | bindDispatch => exact bindDispatch_manned manned
  | markDispatchRunning => exact markDispatchRunning_manned manned
  | recordLaunchFailure => exact recordLaunchFailure_manned manned
  | heartbeat => exact heartbeat_manned manned
  | reconcileLiveness => exact reconcileLiveness_manned manned
  | workerDone => exact workerDone_manned manned
  | createGate => exact createGate_manned manned
  | resolveGate => exact resolveGate_manned manned
  | cancelRun => exact cancelRun_manned manned spared
  | acceptRun => exact acceptRun_manned manned
  | rejectRun => exact rejectRun_manned manned spared
  | reconcileAfterRestart => exact reconcileAfterRestart_manned manned
  | completeDispatchLaunch request result =>
    exact aside _ (inferInstanceAs
      (Respects _ (completeDispatchLaunch platform env operationId request result)))
  | reserveDispatchResources | updateDispatchWorktree | recordDispatchAgentResource
    | recordDispatchPaneResource => exact aside _ .atomically
  | createRun => exact aside _ (.bind (k := fun _ => .bind (k := fun _ => .bind)))
  | postMessage => exact aside _ (.bind (k := fun _ => .bind))
  | createTask | markMergeApplied | acknowledgeEvents => exact aside _ .bind
  | updateTask request =>
    have : Respects (Same Store.crew) (updateTaskBody env operationId request) := by
      unfold updateTaskBody; dsimp only; infer_instance
    exact aside _ (inferInstanceAs (Respects _ (mutate platform env operationId _ _)))
  | startRun | markCleanupApplied | acknowledgeNotification | retryTask =>
    exact aside _ (inferInstanceAs (Respects _ (mutate platform env operationId _ _)))

theorem run_manned (platform : Platform) (calls : List Call)
    (spared : EveryCall platform (fun s call => ¬s.Strands call) calls) :
    (run platform calls).crew.Manned :=
  run_invariant (I := fun s : Store => s.crew.Manned) (s := .empty)
    (fun _ _ manned spared => next_of_wlp (P := fun s => s.crew.Manned) manned
      (perform_manned platform manned spared))
    Crew.manned_empty spared

/-- In a run of calls none of which strands an agent, an agent has one live dispatch at most and
is active while it has it. -/
theorem run_staffed (platform : Platform) (calls : List Call)
    (spared : EveryCall platform (fun s call => ¬s.Strands call) calls) :
    (run platform calls).Staffed := .of_manned (run_manned platform calls spared)

/-- An agent whose first dispatch failed to start takes one of two dispatches of a second run. -/
def reusedAgent : List Call :=
  scheduledRun ++
    [.plain "agent" (.registerAgent ⟨.ptyCli, none, "workspace", none, true⟩),
      .plain "bind" (.bindDispatch ⟨"schedule-0", 2, "agent-0", "runtime", some "pane", 1, none⟩),
      .plain "fail" (.recordLaunchFailure ⟨"schedule-0", 3, "exec"⟩),
      .plain "other" (.createRun ⟨"session", "other goal", ⟨2⟩⟩),
      .plain "left" (.createTask ⟨"other-0", "title", "description", [], 0⟩),
      .plain "right" (.createTask ⟨"other-0", "title", "description", [], 1⟩),
      .plain "begin" (.startRun ⟨"other-0", 2⟩),
      .plain "spread" (.scheduleReady ⟨"other-0", 3⟩),
      .plain "rebind" (.bindDispatch ⟨"spread-0", 2, "agent-0", "runtime", some "pane", 1, none⟩)]

theorem staffed_reusedAgent :
    EveryCall .plain (fun s call => ¬s.Strands call)
        (reusedAgent ++ [.plain "stop" (.cancelRun ⟨"other-0", 4⟩)]) ∧
      (run .plain (reusedAgent ++ [.plain "stop" (.cancelRun ⟨"other-0", 4⟩)])).Staffed := by
  have spared : EveryCall .plain (fun s call => ¬s.Strands call)
      (reusedAgent ++ [.plain "stop" (.cancelRun ⟨"other-0", 4⟩)]) := by decide +kernel
  exact ⟨spared, run_staffed .plain _ spared⟩

/-- The first run is cancelled while the agent is at work in the second. -/
def strandedAgent : List Call := reusedAgent ++ [.plain "stop" (.cancelRun ⟨"run-0", 3⟩)]

/-- Cancelled, the agent takes the other dispatch of the second run as well. -/
def postedTwice : List Call :=
  strandedAgent ++
    [.plain "twice" (.bindDispatch ⟨"spread-1", 2, "agent-0", "runtime", some "pane", 2, none⟩)]

theorem not_staffed_strandedAgent :
    ¬(run .plain strandedAgent).Staffed ∧ ¬(run .plain postedTwice).Staffed := by
  constructor
  · intro staffed
    obtain ⟨row, found, live, owner⟩ : ∃ row ∈ (run .plain strandedAgent).ledger.dispatches "spread-0",
        row.status.isLive ∧ row.agentInstanceId = some "agent-0" := by decide +kernel
    have cancelled : ∀ agent ∈ (run .plain strandedAgent).ledger.agents "agent-0",
        agent.status.isActive = false := by decide +kernel
    obtain ⟨agentId, agent, owner', agent_found, active⟩ := staffed.active found live
    cases owner.symm.trans owner'
    rw [cancelled agent agent_found] at active
    cases active
  · intro staffed
    obtain ⟨row, found, row', found', live, live', owner, owner'⟩ :
        ∃ row ∈ (run .plain postedTwice).ledger.dispatches "spread-0",
        ∃ row' ∈ (run .plain postedTwice).ledger.dispatches "spread-1",
          row.status.isLive ∧ row'.status.isLive ∧ row.agentInstanceId = some "agent-0" ∧
            row'.agentInstanceId = some "agent-0" := by decide +kernel
    exact absurd (staffed.one found found' live live' owner owner') (by decide)

end Runs

end VibeLink.Coordinator
