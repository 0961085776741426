import VibeLink.Coordinator.Refinement
import VibeLink.Coordinator.Refinement.Launch

namespace VibeLink.Coordinator

open VibeLink.Relational

variable {platform : Platform} {env : Env} {operationId : Uuid} {s : Store}

theorem registerAgent_outcome {request : RegisterAgentRequest} :
    (registerAgent platform env operationId request).wlp
      (fun _ s' => Outcome s ⟨operationId, env, .registerAgent request⟩ s'.ledger) s := by
  simp only [registerAgent, Tx.wlp_bind, Tx.wlp_ofExcept]
  intro workspacePath _
  refine wlp_mutate (.refl s _) fun _ => ?_
  simp only [Tx.wlp_bind, Tx.wlp_pure]
  refine wlp_insertAgent fun fresh s₁ h₁ => wlp_insertEvent fun s₂ h₂ => ?_
  rw [h₂, h₁]
  exact ⟨.single (by trivial) (.addAgent fresh), fun _ _ h => h.elim⟩

theorem recordUnboundAgentLaunchFailure_outcome {request : AgentLaunchFailureRequest} :
    (recordUnboundAgentLaunchFailure platform env operationId request).wlp
      (fun _ s' => Outcome s ⟨operationId, env, .recordUnboundAgentLaunchFailure request⟩ s'.ledger)
      s := by
  simp only [recordUnboundAgentLaunchFailure, Tx.wlp_bind, Tx.wlp_ofExcept]
  intro failureCode _
  refine wlp_mutate (.refl s _) fun _ => ?_
  simp only [Tx.wlp_bind, wlp_readAgent, Tx.wlp_gets, Tx.wlp_require, Tx.wlp_pure]
  intro agent row _ _
  refine wlp_updateAgents (by intro a; rfl) fun s₁ agents h₁ hres => wlp_insertEvent fun s₂ h₂ => ?_
  intro _ _
  rw [h₂, h₁]
  exact ⟨.single (by trivial) (.reviseAgents agents hres), fun _ _ h => h.elim⟩

theorem bindDispatch_outcome {request : BindDispatchRequest} :
    (bindDispatch platform env operationId request).wlp
      (fun _ s' => Outcome s ⟨operationId, env, .bindDispatch request⟩ s'.ledger) s := by
  simp only [bindDispatch, Tx.wlp_bind, Tx.wlp_ofExcept]
  intro runtimeIdentity _
  refine wlp_mutate (.refl s _) fun _ => ?_
  simp only [Tx.wlp_bind, wlp_readDispatch, wlp_readTask, wlp_requireTaskRevision, wlp_readAgent,
    Tx.wlp_require, Tx.wlp_ofExcept, Tx.wlp_pure]
  intro d hd _ pending task htask _ _ agent hagent _ _ _
  refine wlp_updateDispatch hd fun s₁ d' hd' h₁ => ?_
  refine wlp_updateAgents (by intro a; rfl) fun s₂ agents h₂ hres => ?_
  have htask₂ : s₂.ledger.tasks task.id = some task := by rw [h₂, h₁]; exact htask
  refine wlp_bumpTaskRevision htask₂ fun s₃ task' revises same h₃ => ?_
  intro _ _ _ _ _
  refine wlp_insertMessage fun _ s₄ h₄ => wlp_insertEvent fun s₅ h₅ => ?_
  rw [h₅, h₄]
  have hbound : d'.status = .dispatched := by rw [hd']
  have hid : d'.id = d.id := by rw [hd']
  have pending : d.status = .pending := pending
  have c₁ : Chain Move (Permits s ⟨operationId, env, .bindDispatch request⟩) s.ledger s₁.ledger := by
    refine .step .refl h₁ ?_ (.advance (hid ▸ hd) (by rw [hd']) ?_ ?_ ?_ fun _ => pending)
    · intro hrunning
      simp [hbound] at hrunning
    · rw [pending]
      rfl
    · rw [hbound]
      rfl
    · simp [hbound]
  have c₂ := c₁.step h₂ (by trivial) (.reviseAgents agents hres)
  have c₃ := c₂.step h₃ (by trivial) (.reviseTask (revises.id ▸ htask₂) revises same)
  exact ⟨c₃, fun _ _ h => h.elim⟩

theorem wlp_validateIdentity {identity : LifecycleIdentity} {Q : DispatchRecord → Store → Prop}
    (k : ∀ row, s.Identifies identity row → Q (s.dispatchRecord row) s) :
    (validateIdentity identity).wlp Q s := by
  simp only [validateIdentity, Tx.wlp_bind, wlp_readDispatch, Tx.wlp_require, wlp_readAgent,
    Tx.wlp_pure]
  intro row hrow hid htask hagent hpane hprocess agent hfound hgeneration
  exact k row ⟨hrow, hid, htask, hagent, hpane, hprocess, agent, hfound, hgeneration⟩

theorem markDispatchRunning_outcome {identity : LifecycleIdentity} {observedAt : Nat} :
    (markDispatchRunning platform env operationId identity observedAt).wlp
      (fun _ s' => Outcome s ⟨operationId, env, .markDispatchRunning identity observedAt⟩ s'.ledger)
      s := by
  refine wlp_mutate (.refl s _) fun fresh => ?_
  simp only [Tx.wlp_bind, wlp_readDispatch, wlp_readTask, wlp_readAgent, Tx.wlp_require, Tx.wlp_pure]
  refine wlp_validateIdentity fun row hrow => ?_
  intro hstatus
  have hstatus : row.status = .dispatched ∨ row.status = .waiting := hstatus
  refine wlp_updateDispatch hrow.found fun s₁ row' hrow' h₁ => ?_
  refine wlp_updateAgents (by intro a; rfl) fun s₂ agents h₂ hres => ?_
  intro task htask _
  refine wlp_bumpTaskRevision htask fun s₃ task' revises same h₃ => ?_
  intro _ _ _ _ _
  refine wlp_insertEvent fun s₄ h₄ => ?_
  rw [h₄]
  have hrunning : row'.status = .running := by rw [hrow']
  have hid : row'.id = row.id := by rw [hrow']
  have c₁ : Chain Move (Permits s ⟨operationId, env, .markDispatchRunning identity observedAt⟩)
      s.ledger s₁.ledger := by
    refine .step .refl h₁ ?_ (.advance (hid ▸ hrow.found) (by rw [hrow']) ?_ ?_ ?_ ?_)
    · exact fun _ => ⟨fresh, row, hrow, hid.symm, hstatus⟩
    · rcases hstatus with h | h <;> rw [h] <;> rfl
    · rw [hrunning]
      rfl
    · simp [hrunning]
    · simp [hrunning]
  have c₂ := c₁.step h₂ (by trivial) (.reviseAgents agents hres)
  have c₃ := c₂.step h₃ (by trivial) (.reviseTask (revises.id ▸ htask) revises same)
  exact ⟨c₃, fun _ _ h => h.elim⟩

theorem heartbeat_outcome {request : HeartbeatRequest} :
    (heartbeat platform env operationId request).wlp
      (fun _ s' => Outcome s ⟨operationId, env, .heartbeat request⟩ s'.ledger) s := by
  refine wlp_mutate (.refl s _) fun _ => ?_
  simp only [Tx.wlp_bind, wlp_readTask, wlp_readAgent, Tx.wlp_require, Tx.wlp_gets, Tx.wlp_ite,
    Tx.wlp_pure]
  refine wlp_validateIdentity fun row hrow => ?_
  intro _
  refine wlp_updateAgents (by intro a; rfl) fun s₁ agents h₁ hres => ?_
  have c₁ : Chain Move (Permits s ⟨operationId, env, .heartbeat request⟩) s.ledger s₁.ledger :=
    .step .refl h₁ (by trivial) (.reviseAgents agents hres)
  have hrow₁ : s₁.ledger.dispatches row.id = some row := by rw [h₁]; exact hrow.found
  refine ⟨fun hwaiting => ?_, fun _ => ?_⟩
  · refine wlp_updateDispatch hrow₁ fun s₂ row' hrow' h₂ => ?_
    intro _ _ _
    refine wlp_insertEvent fun s₃ h₃ => ?_
    intro _ _
    rw [h₃]
    have hid : row'.id = row.id := by rw [hrow']
    refine ⟨c₁.step h₂ ?_ (.resume (hid ▸ hrow₁) (by rw [hrow']; rfl) hwaiting.1 (by rw [hrow']) ?_),
      fun _ _ h => h.elim⟩
    · exact .inl ⟨request, rfl⟩
    · rw [hid]
      exact Store.pendingGateCount_eq_zero.1 hwaiting.2
  · intro _ _ _
    refine wlp_insertEvent fun s₃ h₃ => ?_
    intro _ _
    rw [h₃]
    exact ⟨c₁, fun _ _ h => h.elim⟩

theorem recordLaunchFailure_outcome {request : LaunchFailureRequest} :
    (recordLaunchFailure platform env operationId request).wlp
      (fun _ s' => Outcome s ⟨operationId, env, .recordLaunchFailure request⟩ s'.ledger) s := by
  simp only [recordLaunchFailure, Tx.wlp_bind, Tx.wlp_ofExcept]
  intro failureCode hcode
  refine wlp_mutate (.refl s _) fun fresh => ?_
  simp only [Tx.wlp_bind, wlp_readDispatch, wlp_readTask, wlp_requireTaskRevision, Tx.wlp_require,
    Tx.wlp_gets, Tx.wlp_pure]
  intro row hrow hid hstatus task htask howner hrev
  have hstatus : row.status = .pending ∨ row.status = .dispatched := hstatus
  have howner : task.id = row.taskId := howner
  refine wlp_updateDispatch hrow fun s₁ row' hrow' h₁ => ?_
  have htask₁ : s₁.ledger.tasks task.id = some task := by rw [h₁]; exact htask
  refine wlp_setTaskStatus htask₁ fun s₂ task' revises hnext h₂ => ?_
  intro _ _ _ _ _ _
  refine wlp_updateAgents (by intro a; rfl) fun s₃ agents h₃ hres => wlp_insertEvent fun s₄ h₄ => ?_
  rw [h₄]
  have hid' : row'.id = row.id := by rw [hrow']
  have hfinal : row'.status = .circuitBroken ∨ row'.status = .failed := by
    rw [hrow']
    exact ite_eq_or_eq _ _ _
  have hnext : task'.status = .failed ∨ task'.status = .ready := hnext ▸ ite_eq_or_eq _ _ _
  have c₂ : Chain Move (Permits s ⟨operationId, env, .recordLaunchFailure request⟩) s.ledger
      s₂.ledger := by
    refine .step .refl (h₂.trans (by rw [h₁])) ?_ (.finish (hid' ▸ hrow) (by rw [hrow']) ?_ ?_
      (revises.id ▸ htask) (revises.id.trans howner) revises (.inr ⟨?_, ?_⟩))
    · refine ⟨row, hid' ▸ hrow, ?_, howner.symm.trans revises.id.symm, ?_, fresh, hid, hstatus,
        ⟨task, howner ▸ htask, hrev⟩, trim_ne_of_required hcode⟩
      · rcases hstatus with h | h <;> rw [h] <;> rfl
      · rcases hfinal with h | h <;> simp [h]
    · rcases hstatus with h | h <;> rw [h] <;> rfl
    · rcases hfinal with h | h <;> rw [h] <;> rfl
    · rcases hfinal with h | h <;> simp [h]
    · rcases hnext with h | h <;> simp [h]
  exact ⟨c₂.step h₃ (by trivial) (.reviseAgents agents hres), fun _ _ h => h.elim⟩

theorem wlp_openMergeGate {run : RunRecord} {task : TaskRecord} {dispatch : DispatchRecord}
    {Q : DecisionGateRecord → Store → Prop}
    (k : ∀ gate s', s.ledger.gates gate.id = none → gate.runId = run.id →
      gate.dispatchId = some dispatch.id → gate.status = .pending → gate.resolution = none →
      s'.ledger = s.ledger.putGate gate → Q gate.read s') :
    (openMergeGate env run task dispatch).wlp Q s := by
  simp only [openMergeGate, Tx.wlp_bind, Tx.wlp_pure]
  refine wlp_createGateRecord fun fresh gate s₁ hid hrun hdispatch _ hpending hnone h₁ => ?_
  refine wlp_insertMessage fun _ s₂ h₂ => wlp_updateResource fun s₃ h₃ => ?_
  exact k gate s₃ (hid ▸ fresh) hrun hdispatch hpending hnone (h₃.trans (h₂.trans h₁))

theorem workerDone_outcome {request : WorkerDoneRequest} :
    (workerDone platform env operationId request).wlp
      (fun _ s' => Outcome s ⟨operationId, env, .workerDone request⟩ s'.ledger) s := by
  refine wlp_mutate (.refl s _) fun fresh => ?_
  simp only [Tx.wlp_bind, wlp_readDispatch, wlp_readTask, wlp_readRun, wlp_requireTaskRevision,
    Tx.wlp_require, Tx.wlp_ite, Tx.wlp_pure]
  refine wlp_validateIdentity fun row hrow => ?_
  intro hstatus task htask hid hrev run hrun howner
  have hstatus : row.status = .running ∨ row.status = .waiting := hstatus
  have hactive : row.status.isActive = true := by rcases hstatus with h | h <;> rw [h] <;> rfl
  have hid : task.id = row.taskId := hid.trans hrow.task.symm
  have hin : s.ledger.ActiveIn run.id row.id :=
    ⟨row, hrow.found, hactive, by rw [← hid, htask, howner, Option.map_some]⟩
  refine wlp_updateDispatch hrow.found fun s₁ row' hrow' h₁ => ?_
  have htask₁ : s₁.ledger.tasks task.id = some task := by rw [h₁]; exact htask
  refine wlp_setTaskStatus htask₁ fun s₂ task' revises hcompleted h₂ => ?_
  have hid' : row'.id = row.id := by rw [hrow']
  have c₂ : Chain Move (Permits s ⟨operationId, env, .workerDone request⟩) s.ledger s₂.ledger := by
    refine .step .refl (h₂.trans (by rw [h₁])) ?_ (.finish (hid' ▸ hrow.found) (by rw [hrow'])
      hactive (by rw [hrow']; rfl) (revises.id ▸ htask) (revises.id.trans hid) revises
      (.inl ⟨hcompleted, by rw [hrow']⟩))
    exact ⟨row, hid' ▸ hrow.found, hactive, hid.symm.trans revises.id.symm, fresh, hrow, hstatus,
      task, hid ▸ htask, hrev⟩
  refine wlp_updateAgents (by intro a; rfl) fun s₃ agents h₃ hres => ?_
  have c₃ := c₂.step h₃ (by trivial) (.reviseAgents agents hres)
  refine wlp_insertMessage fun _ s₄ h₄ => ?_
  intro d _ _ _ _ _
  have hrun₄ : s₄.ledger.runs run.id = some run := by rw [h₄, h₃, h₂, h₁]; exact hrun
  have hruns₄ : s₄.ledger.runs = s.ledger.runs := by rw [h₄, h₃, h₂, h₁]; rfl
  rw [← h₄] at c₃
  refine ⟨fun _ => ?_, fun _ => ?_⟩
  · refine wlp_openMergeGate fun gate s₅ hnone hgrun _ hpending hres h₅ => ?_
    have hrun₅ : s₅.ledger.runs run.id = some run := by rw [h₅]; exact hrun₄
    refine wlp_updateRunStatus hrun₅ fun s₆ h₆ => wlp_insertEvent fun s₇ h₇ => ?_
    rw [h₇]
    have c₅ := c₃.step h₅ (by exact ⟨hruns₄, row.id, hin⟩) (.openGate hnone hrun₄ hgrun hpending hres)
    have c₆ := c₅.step h₆ (by exact fun _ => ⟨by rw [h₅]; exact hruns₄, .inl ⟨row.id, hin⟩⟩)
      (.setRun hrun₅ (by decide) env.now)
    exact ⟨c₆, fun _ _ h => h.elim⟩
  · refine wlp_bumpRunRevision hrun₄ fun s₅ h₅ => ?_
    have c₅ := c₃.step h₅ (by trivial) (.bumpRun hrun₄ env.now)
    refine wlp_refresh_chain c₅ (by simp [h₅]) (fun _ _ _ _ hold h => absurd h hold)
      fun run' s₆ c₆ _ _ _ => wlp_insertEvent fun s₇ h₇ => ?_
    rw [h₇]
    exact ⟨c₆, fun _ _ h => h.elim⟩

end VibeLink.Coordinator

namespace VibeLink.Coordinator

open VibeLink.Relational

variable {platform : Platform} {env : Env} {operationId : Uuid} {s : Store}

theorem acknowledgeEvents_outcome {request : AcknowledgeEventsRequest} :
    (acknowledgeEvents platform env operationId request).wlp
      (fun _ s' => Outcome s ⟨operationId, env, .acknowledgeEvents request⟩ s'.ledger) s := by
  simp only [acknowledgeEvents, Tx.wlp_bind, Tx.wlp_ofExcept]
  intro consumerId _
  refine wlp_mutate (.refl s _) fun _ => ?_
  simp only [Tx.wlp_bind, wlp_readRun, Tx.wlp_gets, Tx.wlp_require, Tx.wlp_write, Tx.wlp_expect,
    Tx.wlp_pure]
  intro _ _ _ _ _ _
  exact .refl s _

theorem acknowledgeNotification_outcome {notificationId : Uuid} :
    (acknowledgeNotification platform env operationId notificationId).wlp
      (fun _ s' =>
        Outcome s ⟨operationId, env, .acknowledgeNotification notificationId⟩ s'.ledger) s := by
  refine wlp_mutate (.refl s _) fun _ => ?_
  simp only [Tx.wlp_bind, readNotificationById, Tx.wlp_write, Tx.wlp_expect, Tx.wlp_pure]
  intro _ _ _ _
  exact .refl s _

theorem updateTaskOperation_outcome {request : UpdateTaskRequest} :
    (updateTaskOperation platform env operationId request).wlp
      (fun _ s' => Outcome s ⟨operationId, env, .updateTask request⟩ s'.ledger) s := by
  refine wlp_mutate (.refl s _) fun fresh => ?_
  simp only [updateTaskBody, Tx.wlp_bind, wlp_readRun, wlp_readTask, wlp_requireRunRevision,
    wlp_requireTaskRevision, Tx.wlp_require, Tx.wlp_ofExcept, Tx.wlp_pure]
  intro run row hid hrev task htask htid hrun htrev title htitle _ hallowed
  have hgiven : ∀ given, request.patch.title = some given → trim given ≠ "" := by
    intro given hgiven
    rw [hgiven] at htitle
    exact trim_ne_of_required htitle
  refine wlp_updateTask htask fun s₁ h₁ => ?_
  have c₁ : Chain Move (Permits s ⟨operationId, env, .updateTask request⟩) s.ledger s₁.ledger := by
    refine .step .refl h₁ ?_ (.editTask htask ⟨rfl, rfl, rfl, rfl, Nat.lt_succ_self _⟩ ?_)
    · exact ⟨rfl, request, task, rfl, fresh, htid.symm, ⟨run, hid ▸ row, hrev⟩, htask,
        hrun.trans hid, htrev, hgiven, rfl⟩
    · by_contra h
      simp [validateManualTaskTransition, h] at hallowed
  have row₁ : s₁.ledger.runs run.id = some run := by rw [h₁]; exact row
  refine wlp_bumpRunRevision row₁ fun s₂ h₂ => wlp_insertEvent fun s₃ h₃ => ?_
  rw [h₃]
  refine ⟨c₁.step h₂ (by trivial) (.bumpRun row₁ env.now), ?_⟩
  rintro r e ⟨rfl, rfl⟩
  exact .inr (fence_of_put row hid hrev h₂ rfl (Nat.lt_succ_self _))

theorem retryTask_outcome {request : RetryTaskRequest} :
    (retryTask platform env operationId request).wlp
      (fun _ s' => Outcome s ⟨operationId, env, .retryTask request⟩ s'.ledger) s := by
  refine wlp_mutate (.refl s _) fun fresh => ?_
  simp only [Tx.wlp_bind, wlp_readRun, wlp_readTask, wlp_requireRunRevision,
    wlp_requireTaskRevision, Tx.wlp_require, Tx.wlp_gets, Tx.wlp_ite, Tx.wlp_pure]
  intro run row hid hrev task htask htid htrev hrun hstopped
  refine wlp_updateTask htask fun s₁ h₁ => ?_
  have c₁ : Chain Move (Permits s ⟨operationId, env, .retryTask request⟩) s.ledger s₁.ledger := by
    refine .step .refl h₁ (by exact ⟨request, rfl, htid.symm⟩)
      (.retry htask ⟨rfl, rfl, rfl, rfl, Nat.lt_succ_self _⟩ hstopped ?_)
    by_cases hmet : (s.dependencyStatuses task.id).all fun status => decide (status = .completed)
    · exact .inr ⟨by simp [hmet], Store.dependenciesMet htask hmet⟩
    · exact .inl (by simp [hmet])
  have hruns₁ : s₁.ledger.runs = s.ledger.runs := by rw [h₁]; rfl
  have row₁ : s₁.ledger.runs run.id = some run := hruns₁ ▸ row
  refine ⟨fun _ => ?_, fun _ => ?_⟩
  · refine wlp_updateRunStatus row₁ fun s₂ h₂ => wlp_insertEvent fun s₃ h₃ => ?_
    intro task' _ _
    rw [h₃]
    refine ⟨c₁.step h₂ (by exact fun _ => ⟨hruns₁, .inr hid.symm⟩)
      (.setRun row₁ (by decide) env.now), ?_⟩
    rintro r e ⟨rfl, rfl⟩
    exact .inr (fence_of_put row hid hrev h₂ rfl (Nat.lt_succ_self _))
  · refine wlp_bumpRunRevision row₁ fun s₂ h₂ => wlp_insertEvent fun s₃ h₃ => ?_
    intro task' _ _
    rw [h₃]
    refine ⟨c₁.step h₂ (by trivial) (.bumpRun row₁ env.now), ?_⟩
    rintro r e ⟨rfl, rfl⟩
    exact .inr (fence_of_put row hid hrev h₂ rfl (Nat.lt_succ_self _))

theorem wlp_recordDecision {runId : Uuid} {decision : String} {payload : Json}
    {Q : Unit → Store → Prop} (k : ∀ s', s'.ledger = s.ledger → Q () s') :
    (recordDecision env runId decision payload).wlp Q s := by
  simp only [recordDecision, Tx.wlp_write]
  exact k _ rfl

theorem acceptRun_outcome {request : RunDecisionRequest} :
    (acceptRun platform env operationId request).wlp
      (fun _ s' => Outcome s ⟨operationId, env, .acceptRun request⟩ s'.ledger) s := by
  refine wlp_mutate (.refl s _) fun fresh => ?_
  simp only [if_true, Tx.wlp_bind, wlp_readRun, wlp_requireRunRevision, Tx.wlp_require, Tx.wlp_gets,
    Tx.wlp_ite, Tx.wlp_pure]
  intro run row hid hrev hdone
  rw [not_or, Nat.not_lt, Nat.not_lt, Nat.le_zero, Nat.le_zero] at hdone
  refine ⟨fun _ => ?_, fun _ => ?_⟩
  · have hreopens : Reopens s ⟨operationId, env, .acceptRun request⟩ run.id := by
      refine .inr ⟨fresh, hid.symm, ⟨run, row, hrev⟩, fun i task htask hrun => ?_,
        fun i gate hgate hrun hpending => ?_⟩
      · simpa [hrun] using List.countP_eq_zero.1 hdone.1 task (Table.mem_of_find htask)
      · simpa [hrun, hpending] using List.countP_eq_zero.1 hdone.2 gate (Table.mem_of_find hgate)
    refine wlp_updateRunStatus row fun s₁ h₁ => wlp_recordDecision fun s₂ h₂ =>
      wlp_insertEvent fun s₃ h₃ => ?_
    rw [h₃, h₂]
    refine ⟨.step .refl h₁ (by exact fun _ => ⟨rfl, hreopens⟩) (.setRun row (by decide) env.now), ?_⟩
    rintro r e ⟨rfl, rfl⟩
    exact .inr (fence_of_put row hid hrev h₁ rfl (Nat.lt_succ_self _))
  · refine wlp_bumpRunRevision row fun s₁ h₁ => wlp_recordDecision fun s₂ h₂ =>
      wlp_insertEvent fun s₃ h₃ => ?_
    rw [h₃, h₂]
    refine ⟨.step .refl h₁ (by trivial) (.bumpRun row env.now), ?_⟩
    rintro r e ⟨rfl, rfl⟩
    exact .inr (fence_of_put row hid hrev h₁ rfl (Nat.lt_succ_self _))

theorem rejectRun_outcome {request : RunDecisionRequest} :
    (rejectRun platform env operationId request).wlp
      (fun _ s' => Outcome s ⟨operationId, env, .rejectRun request⟩ s'.ledger) s := by
  refine wlp_mutate (.refl s _) fun fresh => ?_
  simp only [Bool.false_eq_true, if_false, Tx.wlp_bind, wlp_readRun, wlp_requireRunRevision,
    Tx.wlp_gets, Tx.wlp_pure]
  intro run row hid hrev
  refine wlp_cancelActiveRunEntities (A := Permits s ⟨operationId, env, .rejectRun request⟩) .refl row
    (.inr ⟨request, rfl, hid.symm⟩) (fun _ => trivial) fun run' s₁ hid' hgrows c₁ h₁ =>
    wlp_recordDecision fun s₂ h₂ => wlp_insertEvent fun s₃ h₃ => ?_
  rw [h₃, h₂]
  refine ⟨c₁, ?_⟩
  rintro r e ⟨rfl, rfl⟩
  exact .inr (fence_of_put row hid hrev h₁ hid' hgrows)

end VibeLink.Coordinator

namespace VibeLink.Coordinator

open VibeLink.Relational

variable {env : Env} {operationId : Uuid} {s : Store}

theorem reserveDispatchResources_outcome {reservation : DispatchResourceReservation} :
    (reserveDispatchResources env operationId reservation).wlp
      (fun _ s' => Outcome s ⟨operationId, env, .reserveDispatchResources reservation⟩ s'.ledger)
      s := by
  simp only [reserveDispatchResources, Tx.wlp_atomically, Tx.wlp_bind, Tx.wlp_expect, Tx.wlp_require,
    Tx.wlp_write, Tx.wlp_pure]
  intro _ _ _ _ _ _
  exact .refl s _

theorem updateDispatchWorktree_outcome {dispatchId : Uuid} {worktree : WorktreeAssignment} :
    (updateDispatchWorktree env operationId dispatchId worktree).wlp
      (fun _ s' =>
        Outcome s ⟨operationId, env, .updateDispatchWorktree dispatchId worktree⟩ s'.ledger) s := by
  simp only [updateDispatchWorktree, Tx.wlp_atomically, Tx.wlp_bind, Tx.wlp_expect, Tx.wlp_require,
    Tx.wlp_pure]
  intro _ _ _
  refine wlp_updateResource fun s₁ h₁ _ _ => ?_
  rw [h₁]
  exact .refl s _

theorem updateDispatchResourceOwner_ledger {dispatchId : Uuid} {unchanged : ResourceRow → Bool}
    {changedError : String} {f : ResourceRow → ResourceRow} {hf} :
    (updateDispatchResourceOwner operationId dispatchId unchanged changedError f hf).wlp
      (fun _ s' => s'.ledger = s.ledger) s := by
  simp only [updateDispatchResourceOwner, Tx.wlp_atomically, Tx.wlp_bind, Tx.wlp_expect,
    Tx.wlp_require, Tx.wlp_pure]
  intro _ _ _ _
  exact wlp_updateResource fun s₁ h₁ _ _ => h₁

theorem recordDispatchAgentResource_outcome {dispatchId agentInstanceId : Uuid} :
    (recordDispatchAgentResource env operationId dispatchId agentInstanceId).wlp
      (fun _ s' => Outcome s
        ⟨operationId, env, .recordDispatchAgentResource dispatchId agentInstanceId⟩ s'.ledger) s :=
  Tx.wlp_mono updateDispatchResourceOwner_ledger fun _ _ h => h ▸ .refl s _

theorem recordDispatchPaneResource_outcome {dispatchId paneId : Uuid}
    {rootPid processStartedAt : Option Nat} {processGeneration : Nat} :
    (recordDispatchPaneResource env operationId dispatchId paneId rootPid processStartedAt
      processGeneration).wlp
      (fun _ s' => Outcome s ⟨operationId, env, .recordDispatchPaneResource dispatchId paneId rootPid
        processStartedAt processGeneration⟩ s'.ledger) s :=
  Tx.wlp_mono updateDispatchResourceOwner_ledger fun _ _ h => h ▸ .refl s _

theorem wlp_reviseDispatch {A : Ledger → Label → Prop} {L : Ledger} {dispatchId : Uuid}
    {f : DispatchRow → DispatchRow} {hf} {Q : Unit → Store → Prop} (c : Chain Move A L s.ledger)
    (task : ∀ d, (f d).taskId = d.taskId) (status : ∀ d, (f d).status = d.status)
    (allowed : ∀ L d, A L (.reviseDispatch d)) (k : ∀ s', Chain Move A L s'.ledger → Q () s') :
    (updateDispatch dispatchId f hf).wlp Q s := by
  cases hrow : s.ledger.dispatches dispatchId with
  | none =>
    refine wlp_updateDispatches fun s₁ h₁ => ?_
    have same : (modifyAll s.ledger.dispatches fun d =>
        if decide (d.id = dispatchId) then f d else d) = s.ledger.dispatches := by
      funext i
      cases hi : s.ledger.dispatches i with
      | none => simp [modifyAll, hi]
      | some row =>
        have hne : row.id ≠ dispatchId := by
          rintro rfl
          rw [Store.dispatch_id hi, hi] at hrow
          cases hrow
        simp [modifyAll, hi, hne]
    rw [same] at h₁
    exact k s₁ (by rw [h₁]; exact c)
  | some row =>
    refine wlp_updateDispatch hrow fun s₁ new hnew h₁ => ?_
    have hid : new.id = dispatchId := by rw [hnew, hf, Store.dispatch_id hrow]
    exact k s₁ (c.step h₁ (allowed _ _) (.reviseDispatch (hid ▸ hrow) (by rw [hnew, task])
      (by rw [hnew, status])))

theorem markDispatchResourceDisposition_outcome {dispatchId : Uuid}
    {paneDisposition worktreeDisposition : Option ResourceDisposition}
    {clearPaneIdentity clearWorktreeIdentity : Bool} {cleanupReason cleanupError : Option String} :
    (markDispatchResourceDisposition env dispatchId paneDisposition worktreeDisposition
      clearPaneIdentity clearWorktreeIdentity cleanupReason cleanupError).wlp
      (fun _ s' => Outcome s ⟨operationId, env, .markDispatchResourceDisposition dispatchId
        paneDisposition worktreeDisposition clearPaneIdentity clearWorktreeIdentity cleanupReason
        cleanupError⟩ s'.ledger) s := by
  generalize hcall : (⟨operationId, env, .markDispatchResourceDisposition dispatchId paneDisposition
    worktreeDisposition clearPaneIdentity clearWorktreeIdentity cleanupReason cleanupError⟩ : Call) =
    call
  have unfenced : ∀ {L}, Chain Move (Permits s call) s.ledger L → Outcome s call L := fun c =>
    ⟨c, by subst hcall; rintro _ _ ⟨⟩⟩
  have revise : ∀ L d, Permits s call L (.reviseDispatch d) := fun _ _ => trivial
  simp only [markDispatchResourceDisposition, Tx.wlp_atomically, Tx.wlp_bind, Tx.wlp_expect,
    Tx.wlp_ite, Tx.wlp_pure]
  intro _ _
  refine wlp_updateResource fun s₁ h₁ => ?_
  have c₁ : Chain Move (Permits s call) s.ledger s₁.ledger := by rw [h₁]; exact .refl
  refine ⟨fun _ => ?_, fun _ => ⟨fun _ => ?_, fun _ _ _ => unfenced c₁⟩⟩
  · refine wlp_reviseDispatch c₁ (fun _ => rfl) (fun _ => rfl) revise fun s₂ c₂ => ?_
    refine wlp_updateAgents (by intro a; rfl) fun s₃ agents h₃ hagents => ?_
    have c₃ := c₂.step h₃ (by trivial) (.reviseAgents agents hagents)
    refine ⟨fun _ => ?_, fun _ _ _ => unfenced c₃⟩
    exact wlp_reviseDispatch c₃ (fun _ => rfl) (fun _ => rfl) revise fun _ c₄ _ _ => unfenced c₄
  · exact wlp_reviseDispatch c₁ (fun _ => rfl) (fun _ => rfl) revise fun _ c₂ _ _ => unfenced c₂

end VibeLink.Coordinator
