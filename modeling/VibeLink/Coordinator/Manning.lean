import VibeLink.Coordinator.Crew
import VibeLink.Coordinator.Simulation

/-! Operation by operation: the two tables of the crew keep in step. -/

namespace VibeLink.Coordinator

open VibeLink.Relational Tx

variable {platform : Platform} {env : Env} {operationId : Uuid} {s : Store}

instance : Aside (Same Store.crew) where
  runs _ _ := rfl
  tasks _ _ := rfl
  messages _ _ := rfl
  gates _ _ := rfl
  notifications _ _ := rfl
  runDecisions _ _ := rfl
  launchOperations _ _ := rfl
  launchClaims _ _ := rfl
  resources _ _ := rfl

instance : AsideEvents (Same Store.crew) := ⟨fun _ _ _ => rfl⟩

instance : AsideOperations (Same Store.crew) := ⟨fun _ _ => rfl⟩

instance : AsideAcknowledgements (Same Store.crew) := ⟨fun _ _ => rfl⟩

section Rules

variable {α : Type} {Q : Unit → Store → Prop} {st : AgentLifecycleStatus}

theorem wlp_aside {x : CoordinatorResult α} [Respects (Same Store.crew) x] {Q : α → Store → Prop}
    (k : ∀ a s', s'.crew = s.crew → Q a s') : x.wlp Q s := wlp_of_respects (Same Store.crew) k

theorem wlp_mutate_crew {P : Crew → Prop} {request : Op} {mutation : CoordinatorResult Response}
    (replay : P s.crew)
    (body : s.operations.find operationId = none → mutation.wlp (fun _ s' => P s'.crew) s) :
    (mutate platform env operationId request mutation).wlp (fun _ s' => P s'.crew) s :=
  wlp_mutate_cases (fun _ _ _ => replay) fun h => wlp_mono (body h) fun _ _ hP _ _ => hP

theorem wlp_updateDispatch_crew {d : Uuid} {f : DispatchRow → DispatchRow} {hf}
    {status status' : DispatchStatus} {owner owner' : Option Uuid}
    (found : s.crew.post d = some (status, owner))
    (sets : ∀ row, row.agentInstanceId = owner → (f row).status = status' ∧
      (f row).agentInstanceId = owner')
    (k : ∀ s', s'.crew = s.crew.assign d status' owner' → Q () s') :
    (updateDispatch d f hf).wlp Q s := by
  obtain ⟨row, row_found, heq⟩ := Option.map_eq_some_iff.1 found
  cases heq
  have new := sets row rfl
  refine wlp_updateDispatch row_found fun s' row' hrow' h => k s' ?_
  have id : row'.id = d := by rw [hrow', hf, Store.dispatch_id row_found]
  rw [Store.crew, h, Ledger.crew_putDispatch, id, hrow', new.1, new.2]
  rfl

theorem wlp_updateAgent_crew {a : Uuid} {f : AgentInstanceRecord → AgentInstanceRecord} {hf}
    (sets : ∀ agent, (f agent).status = st) (k : ∀ s', s'.crew = s.crew.set a st → Q () s') :
    (updateAgent a f hf).wlp Q s := by
  simp only [updateAgent, updateAgents, wlp_write]
  apply k
  simp only [Store.crew, Ledger.crew, Store.ledger, Crew.set]
  congr 1
  funext i
  rw [Table.find_update_key]
  by_cases hi : i = a
  · subst hi
    rw [modify_same, modify_same, Option.map_map, Option.map_map]
    congr 1
    funext agent
    exact sets agent
  · rw [modify_of_ne hi, modify_of_ne hi]

/-- Some agents, each of them picked by `p`, take a status. -/
theorem wlp_updateAgents_crew {p : Store → AgentInstanceRecord → Bool}
    {f : AgentInstanceRecord → AgentInstanceRecord} {hf} (sets : ∀ agent, (f agent).status = st)
    (k : ∀ s', s'.crew.post = s.crew.post →
      (∀ a, s'.crew.status a = s.crew.status a ∨
        s'.crew.status a = some st ∧ ∃ agent, s.ledger.agents a = some agent ∧ p s agent) → Q () s') :
    (updateAgents p f hf).wlp Q s := by
  simp only [updateAgents, wlp_write]
  refine k _ (by rfl) fun a => ?_
  simp only [Store.crew, Ledger.crew, Store.ledger, Table.find_update, modifyAll]
  cases found : s.agents.find a with
  | none => exact .inl rfl
  | some agent =>
    cases chosen : p s agent with
    | true => exact .inr ⟨by simp [chosen, sets], agent, rfl, chosen⟩
    | false => exact .inl (by simp [chosen])

theorem wlp_updateOwner_crew {owner : Option Uuid} {f : AgentInstanceRecord → AgentInstanceRecord} {hf}
    (sets : ∀ agent, (f agent).status = st)
    (k : ∀ s', s'.crew = (owner.elim s.crew fun a => s.crew.set a st) → Q () s') :
    (updateAgents (fun _ a => decide (some a.id = owner)) f hf).wlp Q s := by
  cases owner with
  | none =>
    simp only [updateAgents, wlp_write]
    apply k
    simp [Store.crew, Ledger.crew, Store.ledger, Table.find_update]
  | some a =>
    simp only [Option.some.injEq]
    exact wlp_updateAgent_crew sets k

theorem wlp_updateAgents_aside {p : Store → AgentInstanceRecord → Bool}
    {f : AgentInstanceRecord → AgentInstanceRecord} {hf} (same : ∀ a, (f a).status = a.status)
    (k : ∀ s', s'.crew = s.crew → Q () s') : (updateAgents p f hf).wlp Q s := by
  simp only [updateAgents, wlp_write]
  apply k
  simp only [Store.crew, Ledger.crew, Store.ledger]
  congr 1
  funext i
  exact Table.map_find_update hf same i

theorem wlp_updateDispatch_aside {d : Uuid} {f : DispatchRow → DispatchRow} {hf}
    (same : ∀ row, (f row).status = row.status ∧ (f row).agentInstanceId = row.agentInstanceId)
    (k : ∀ s', s'.crew = s.crew → Q () s') : (updateDispatch d f hf).wlp Q s := by
  simp only [updateDispatch, updateDispatches, wlp_write]
  apply k
  simp only [Store.crew, Ledger.crew, Store.ledger]
  congr 1
  funext i
  exact Table.map_find_update hf (fun row => Prod.ext (same row).1 (same row).2) i

end Rules

theorem Store.agent_id {a : Uuid} {agent : AgentInstanceRecord} (found : s.ledger.agents a = some agent) :
    agent.id = a := Table.key_of_find found

section Lifecycle

theorem registerAgent_manned {request : RegisterAgentRequest} (manned : s.crew.Manned) :
    (registerAgent platform env operationId request).wlp (fun _ s' => s'.crew.Manned) s := by
  simp only [registerAgent, wlp_bind, wlp_ofExcept]
  intro workspacePath _
  apply wlp_mutate_crew manned
  intro _
  simp only [wlp_bind, wlp_pure]
  refine wlp_insertAgent fun fresh s₁ h₁ => wlp_aside fun _ s₂ h₂ => ?_
  rw [h₂, Store.crew, h₁, Ledger.crew_putAgent]
  exact manned.enroll (manned.free_of_absent (Option.map_eq_none_iff.2 fresh))

theorem recordUnboundAgentLaunchFailure_manned {request : AgentLaunchFailureRequest}
    (manned : s.crew.Manned) : (recordUnboundAgentLaunchFailure platform env operationId request).wlp
      (fun _ s' => s'.crew.Manned) s := by
  simp only [recordUnboundAgentLaunchFailure, wlp_bind, wlp_ofExcept]
  intro failureCode _
  apply wlp_mutate_crew manned
  intro _
  simp only [wlp_bind, wlp_readAgent, wlp_gets, wlp_require, wlp_pure]
  intro agent found _ registered
  have registered : agent.status = .registered := registered
  refine wlp_updateAgent_crew (fun _ => rfl) fun s₁ h₁ => wlp_aside fun _ s₂ h₂ => ?_
  intro _ _
  rw [h₂, h₁]
  apply manned.set_free
  have working : s.crew.status agent.id = some agent.status :=
    Store.agent_id found ▸ Store.crew_status found
  rw [registered] at working
  exact manned.free_of_inactive working rfl

theorem bindDispatch_manned {request : BindDispatchRequest} (manned : s.crew.Manned) :
    (bindDispatch platform env operationId request).wlp (fun _ s' => s'.crew.Manned) s := by
  simp only [bindDispatch, wlp_bind, wlp_ofExcept]
  intro runtimeIdentity _
  apply wlp_mutate_crew manned
  intro _
  simp only [wlp_bind, wlp_readDispatch, wlp_readTask, wlp_requireTaskRevision, wlp_readAgent,
    wlp_require, wlp_ofExcept, wlp_pure]
  intro row found _ _ task _ _ _ agent agent_found idle _ _
  have working : s.crew.status agent.id = some agent.status :=
    Store.agent_id agent_found ▸ Store.crew_status agent_found
  refine wlp_updateDispatch_crew (Store.crew_post found) (fun _ _ => ⟨rfl, rfl⟩) fun s₁ h₁ => ?_
  refine wlp_updateAgent_crew (fun _ => rfl) fun s₂ h₂ => wlp_aside fun _ s₃ h₃ => ?_
  intro _ _ _ _ _
  refine wlp_aside fun _ s₄ h₄ => wlp_aside fun _ s₅ h₅ => ?_
  rw [h₅, h₄, h₃, h₂, h₁]
  exact manned.bind working idle rfl rfl

theorem Store.Identifies.owns {identity : LifecycleIdentity} {row : DispatchRow}
    (h : s.Identifies identity row) (manned : s.crew.Manned) (active : row.status.isActive) :
    s.crew.Owns identity.agentInstanceId row.id := by
  have post := Store.crew_post h.found
  rw [h.agent] at post
  refine ⟨row.status, post, (DispatchStatus.isActive_iff.1 active).resolve_left fun pending => ?_⟩
  rw [pending] at post
  cases manned.unbound _ _ post

theorem markDispatchRunning_manned {identity : LifecycleIdentity} {observedAt : Nat}
    (manned : s.crew.Manned) : (markDispatchRunning platform env operationId identity observedAt).wlp
      (fun _ s' => s'.crew.Manned) s := by
  apply wlp_mutate_crew manned
  intro _
  simp only [wlp_bind, wlp_readDispatch, wlp_readTask, wlp_readAgent, wlp_require, wlp_pure]
  refine wlp_validateIdentity fun row h => ?_
  intro status
  have status : row.status = .dispatched ∨ row.status = .waiting := status
  have owns := h.owns manned (by rcases status with h | h <;> rw [h] <;> rfl)
  refine wlp_updateDispatch_crew (Store.crew_post h.found)
    (fun _ owner => ⟨rfl, owner.trans h.agent⟩) fun s₁ h₁ => ?_
  refine wlp_updateAgent_crew (fun _ => rfl) fun s₂ h₂ => ?_
  intro _ _ _
  refine wlp_aside fun _ s₃ h₃ => ?_
  intro _ _ _ _ _
  refine wlp_aside fun _ s₄ h₄ => ?_
  rw [h₄, h₃, h₂, h₁]
  exact (manned.go_on owns rfl).set_active rfl

theorem recordLaunchFailure_manned {request : LaunchFailureRequest} (manned : s.crew.Manned) :
    (recordLaunchFailure platform env operationId request).wlp (fun _ s' => s'.crew.Manned) s := by
  simp only [recordLaunchFailure, wlp_bind, wlp_ofExcept]
  intro failureCode _
  apply wlp_mutate_crew manned
  intro _
  simp only [wlp_bind, wlp_readDispatch, wlp_readTask, wlp_requireTaskRevision, wlp_require, wlp_gets,
    wlp_pure]
  intro row found _ status task _ _ _
  have active : row.status.isActive := by
    have status : row.status = .pending ∨ row.status = .dispatched := status
    rcases status with h | h <;> rw [h] <;> rfl
  refine wlp_updateDispatch_crew (Store.crew_post found) (fun _ owner => ⟨rfl, owner⟩) fun s₁ h₁ => ?_
  refine wlp_aside fun _ s₂ h₂ => ?_
  intro _ _ _ failed failed_found failed_id
  have owner : failed.agentInstanceId = row.agentInstanceId := by
    have post := Store.crew_post failed_found
    rw [h₂, h₁, failed_id] at post
    exact (Prod.mk.inj (Option.some.inj (Crew.assign_post_self.symm.trans post))).2.symm
  refine wlp_updateOwner_crew (fun _ => rfl) fun s₃ h₃ => wlp_aside fun _ s₄ h₄ => ?_
  change s₃.crew = failed.agentInstanceId.elim _ _ at h₃
  rw [h₄, h₃, owner, h₂, h₁]
  have final : ∀ broken : Bool, (if broken then DispatchStatus.circuitBroken else .failed).isActive =
      false := by decide
  exact manned.finish (Store.crew_post found) active (final _)

theorem heartbeat_manned {request : HeartbeatRequest} (manned : s.crew.Manned) :
    (heartbeat platform env operationId request).wlp (fun _ s' => s'.crew.Manned) s := by
  apply wlp_mutate_crew manned
  intro _
  simp only [wlp_bind, wlp_readTask, wlp_readAgent, wlp_require, wlp_gets, wlp_ite, wlp_pure]
  refine wlp_validateIdentity fun row h => ?_
  intro active
  have owns := h.owns manned active
  refine wlp_updateAgent_crew (fun _ => rfl) fun s₁ h₁ => ⟨fun _ => ?_, fun _ => ?_⟩
  · have post : s₁.crew.post row.id = some (row.status, row.agentInstanceId) := by
      rw [h₁]
      exact Store.crew_post h.found
    refine wlp_updateDispatch_crew post (fun _ owner => ⟨rfl, owner.trans h.agent⟩) fun s₂ h₂ => ?_
    intro _ _ _
    refine wlp_aside fun _ s₃ h₃ => ?_
    intro _ _
    rw [h₃, h₂, h₁]
    exact (manned.set_active rfl).go_on (Crew.owns_set.2 owns) rfl
  · intro _ _ _
    refine wlp_aside fun _ s₂ h₂ => ?_
    intro _ _
    rw [h₂, h₁]
    exact manned.set_active rfl

theorem workerDone_manned {request : WorkerDoneRequest} (manned : s.crew.Manned) :
    (workerDone platform env operationId request).wlp (fun _ s' => s'.crew.Manned) s := by
  apply wlp_mutate_crew manned
  intro _
  simp only [wlp_bind, wlp_readDispatch, wlp_readTask, wlp_readRun, wlp_requireTaskRevision,
    wlp_require, wlp_ite, wlp_pure]
  refine wlp_validateIdentity fun row h => ?_
  intro status _ _ _ _ _ _ _
  have active : row.status.isActive := by
    have status : row.status = .running ∨ row.status = .waiting := status
    rcases status with h | h <;> rw [h] <;> rfl
  have post := Store.crew_post h.found
  rw [h.agent] at post
  refine wlp_updateDispatch_crew post (fun _ owner => ⟨rfl, owner⟩) fun s₁ h₁ => ?_
  refine wlp_aside fun _ s₂ h₂ => wlp_updateAgent_crew (fun _ => rfl) fun s₃ h₃ => ?_
  have done : s₃.crew.Manned := by
    rw [h₃, h₂, h₁]
    exact manned.finish post active rfl
  refine wlp_aside fun _ s₄ h₄ => ?_
  intro _ _ _ _ _ _
  refine ⟨fun _ => ?_, fun _ => ?_⟩
  · refine wlp_aside fun _ s₅ h₅ => wlp_aside fun _ s₆ h₆ => wlp_aside fun _ s₇ h₇ => ?_
    rw [h₇, h₆, h₅, h₄]
    exact done
  · refine wlp_aside fun _ s₅ h₅ => wlp_aside fun _ s₆ h₆ => wlp_aside fun _ s₇ h₇ => ?_
    rw [h₇, h₆, h₅, h₄]
    exact done

end Lifecycle

section Liveness

theorem Store.owner_of_stale {runId agentId : Uuid} {cutoff : Int} {row : DispatchRow}
    (h : (agentId, row) ∈ s.staleDispatches runId cutoff) : s.crew.Owns agentId row.id := by
  simp only [Store.staleDispatches, List.mem_map, mem_orderBy, List.mem_filterMap] at h
  obtain ⟨⟨agent, d⟩, ⟨d', member, hd⟩, heq⟩ := h
  cases heq
  split at hd
  · rename_i live
    obtain ⟨found, hfound, hsome⟩ := Option.bind_eq_some_iff.1 hd
    split at hsome
    · cases hsome
      obtain ⟨id, owner, agent_found⟩ := Option.bind_eq_some_iff.1 hfound
      refine ⟨d.status, ?_, ?_⟩
      · rw [Store.agent_id agent_found, ← owner]
        exact Store.crew_post (Store.mem_rows_dispatches.1 member)
      · rcases live.1 with h | h | h <;> rw [h] <;> rfl
    · cases hsome
  · cases hd

theorem reconcileVerdict_keeps (observation : Option AdapterObservationStatus) (resumable : Bool) :
    (reconcileVerdict observation resumable).1.isActive ∧
        (reconcileVerdict observation resumable).2.1.isLive ∨
      (reconcileVerdict observation resumable).2.1.isActive = false := by
  rcases observation with _ | _ | _ | _ | _ <;> cases resumable <;> decide

theorem reconcileStaleDispatch_manned {request : ReconcileLivenessRequest} {agentId : Uuid}
    {stale : DispatchRow} (manned : s.crew.Manned) (owns : s.crew.Owns agentId stale.id) :
    (reconcileStaleDispatch env request (agentId, stale)).wlp (fun _ s' => s'.crew.Manned ∧
      ∀ d, d ≠ stale.id → s'.crew.post d = s.crew.post d) s := by
  obtain ⟨status, post, live⟩ := owns
  simp only [reconcileStaleDispatch, wlp_bind, wlp_readAgent, wlp_require, wlp_ite, wlp_pure]
  intro agent _ _ _
  refine wlp_updateAgent_crew (fun _ => rfl) fun s₁ h₁ => ?_
  have post₁ : s₁.crew.post stale.id = some (status, some agentId) := by rw [h₁]; exact post
  refine wlp_updateDispatch_crew post₁ (fun _ owner => ⟨rfl, owner⟩) fun s₂ h₂ => ?_
  have done : s₂.crew.Manned ∧ ∀ d, d ≠ stale.id → s₂.crew.post d = s.crew.post d := by
    rw [h₂, h₁]
    refine ⟨?_, fun d hd => Crew.assign_post_of_ne hd⟩
    rcases reconcileVerdict_keeps ((observationOf request agentId).map AgentObservation.status)
      agent.read.resumable with ⟨active, live'⟩ | final
    · exact (manned.set_active active).go_on ⟨status, post, live⟩ live'
    · rw [← Crew.set_assign_comm]
      exact manned.finish post (DispatchStatus.isActive_iff.2 (.inr live)) final
  refine ⟨fun _ => wlp_aside fun _ s₃ h₃ => ?_, fun _ => done⟩
  rw [h₃]
  exact done

theorem reconcileLiveness_manned {request : ReconcileLivenessRequest} (manned : s.crew.Manned) :
    (reconcileLiveness platform env operationId request).wlp (fun _ s' => s'.crew.Manned) s := by
  apply wlp_mutate_crew manned
  intro _
  simp only [wlp_bind, wlp_readRun, wlp_requireRunRevision, wlp_gets, wlp_ite, wlp_pure]
  intro run _ _ _
  refine wlp_mono (wlp_traverse_keyed (fun s => s.crew.post) (I := fun s => s.crew.Manned)
    (s.nodup_staleDispatches _ _) manned fun pair member s₁ manned₁ same => ?_) ?_
  · obtain ⟨agentId, stale⟩ := pair
    obtain ⟨status, post, live⟩ := Store.owner_of_stale member
    exact reconcileStaleDispatch_manned manned₁ ⟨status, same.trans post, live⟩
  · intro actions s₁ manned₁
    refine ⟨fun _ => ?_, fun _ => manned₁⟩
    refine wlp_aside fun _ s₂ h₂ => wlp_aside fun _ s₃ h₃ => ?_
    rw [h₃, h₂]
    exact manned₁

end Liveness

section Gates

theorem wlp_updateDispatches_live {p : Store → DispatchRow → Bool} {f : DispatchRow → DispatchRow} {hf}
    {Q : Unit → Store → Prop} (manned : s.crew.Manned) (live : ∀ row, p s row → row.status.isLive)
    (sets : ∀ row, (f row).status.isLive ∧ (f row).agentInstanceId = row.agentInstanceId)
    (k : ∀ s', s'.crew.Manned → Q () s') : (updateDispatches p f hf).wlp Q s := by
  refine wlp_updateDispatches fun s' h => k s' ?_
  apply manned.relabel
  · intro i
    simp only [Store.crew, Ledger.crew, h, modifyAll]
    cases found : s.ledger.dispatches i with
    | none => exact .inl rfl
    | some row =>
      by_cases hp : p s row
      · refine .inr ⟨row.status, (f row).status, row.agentInstanceId, rfl, ?_, live row hp, (sets row).1⟩
        simp [hp, (sets row).2]
      · exact .inl (by simp [hp])
  · intro i
    exact .inl (by simp only [Store.crew, Ledger.crew, h])

theorem wlp_updateAgents_active {p : Store → AgentInstanceRecord → Bool}
    {f : AgentInstanceRecord → AgentInstanceRecord} {hf} {st : AgentLifecycleStatus}
    {Q : Unit → Store → Prop} (manned : s.crew.Manned) (sets : ∀ agent, (f agent).status = st)
    (active : st.isActive) (k : ∀ s', s'.crew.Manned → Q () s') : (updateAgents p f hf).wlp Q s := by
  refine wlp_updateAgents_crew sets fun s' posts crew => k s' (manned.relabel ?_ fun a => ?_)
  · exact fun d => .inl (congrFun posts d)
  · exact (crew a).imp_right fun h => ⟨st, h.1, active⟩

theorem createGate_manned {request : CreateGateRequest} (manned : s.crew.Manned) :
    (createGate platform env operationId request).wlp (fun _ s' => s'.crew.Manned) s := by
  simp only [createGate, wlp_bind, wlp_ofExcept]
  intro gateType _ prompt _
  apply wlp_mutate_crew manned
  intro _
  simp only [wlp_bind, wlp_readRun, wlp_requireRunRevision, wlp_pure]
  intro run _ _ _
  refine wlp_aside fun _ s₁ h₁ => wlp_aside fun gate s₂ h₂ => ?_
  rw [← h₁, ← h₂] at manned
  refine wlp_updateDispatches_live manned ?_ (fun _ => ⟨rfl, rfl⟩) ?_
  · intro row chosen
    rcases (of_decide_eq_true chosen).2 with h | h <;> rw [h] <;> rfl
  · intro s₃ manned₃
    refine wlp_aside fun dispatch s₄ h₄ => ?_
    rw [← h₄] at manned₃
    refine wlp_updateAgents_active manned₃ (fun _ => rfl) rfl fun s₅ manned₅ => ?_
    refine wlp_aside fun _ s₆ h₆ => wlp_aside fun _ s₇ h₇ => wlp_aside fun _ s₈ h₈ => ?_
    rw [h₈, h₇, h₆]
    exact manned₅

theorem resumeDispatch_manned {row : DispatchRecord} (manned : s.crew.Manned)
    (found : s.ledger.dispatches row.id = some row.toDispatchRow) :
    (resumeDispatch env row).wlp (fun _ s' => s'.crew.Manned) s := by
  simp only [resumeDispatch, wlp_bind, wlp_gets, wlp_ite, wlp_readDispatch, wlp_pure]
  refine ⟨fun waits => ?_, fun _ => manned⟩
  have waiting : row.status = .waiting := waits.1
  obtain ⟨a, _, owner, _⟩ := manned.owned row.id row.status _ (Store.crew_post found) (by rw [waiting]; rfl)
  have owns : s.crew.Owns a row.id := ⟨row.status, owner ▸ Store.crew_post found, by rw [waiting]; rfl⟩
  refine wlp_updateDispatch_crew (Store.crew_post found) (fun _ h => ⟨rfl, h.trans owner⟩) fun s₁ h₁ => ?_
  have manned₁ : s₁.crew.Manned := by
    rw [h₁]
    exact manned.go_on owns rfl
  exact wlp_updateAgents_active manned₁ (fun _ => rfl) rfl fun s₂ manned₂ _ _ _ => manned₂

theorem resumeOptional_manned {dispatch : Option DispatchRecord} (manned : s.crew.Manned)
    (found : ∀ d, dispatch = some d → s.ledger.dispatches d.id = some d.toDispatchRow) :
    (resumeOptional env dispatch).wlp (fun _ s' => s'.crew.Manned) s := by
  cases dispatch with
  | none => simpa [resumeOptional] using manned
  | some d =>
    simp only [resumeOptional, wlp_bind, wlp_pure]
    exact resumeDispatch_manned manned (found d rfl)

theorem resolveGate_manned {request : ResolveGateRequest} (manned : s.crew.Manned) :
    (resolveGate platform env operationId request).wlp (fun _ s' => s'.crew.Manned) s := by
  apply wlp_mutate_crew manned
  intro _
  simp only [wlp_bind, wlp_readGate, wlp_readRun, wlp_requireRunRevision, wlp_require, wlp_ite,
    wlp_gets, wlp_pure]
  intro gate _ _ _ run _ _ _ _ _
  refine wlp_aside fun _ s₁ h₁ => ?_
  rw [← h₁] at manned
  intro gate₁ _ _
  refine wlp_readOptionalDispatch fun dispatch found => ⟨fun _ => ?_, fun _ => ?_⟩
  · refine wlp_aside fun _ s₂ h₂ => ⟨fun _ => wlp_aside fun _ s₃ h₃ => ?_, fun _ => ?_⟩
    · refine wlp_aside fun _ s₄ h₄ => ?_
      rw [h₄, h₃, h₂]
      exact manned
    · refine wlp_aside fun _ s₃ h₃ => ?_
      rw [h₃, h₂]
      exact manned
  · refine wlp_mono (resumeOptional_manned manned found) fun _ s₂ manned₂ => ⟨fun _ => ?_, fun _ => ?_⟩
    · refine wlp_aside fun _ s₃ h₃ => wlp_aside fun _ s₄ h₄ => wlp_aside fun _ s₅ h₅ => ?_
      rw [h₅, h₄, h₃]
      exact manned₂
    · refine wlp_aside fun _ s₃ h₃ => wlp_aside fun _ s₄ h₄ => ?_
      rw [h₄, h₃]
      exact manned₂

end Gates

section Exits

theorem failExitedDispatch_manned {dispatch : DispatchRecord} {task : TaskRecord} {paneId : Uuid}
    {exitCode : Option Int} {observedAt : Nat} (manned : s.crew.Manned)
    (post : s.crew.post dispatch.id = some (dispatch.status, dispatch.agentInstanceId))
    (active : dispatch.status.isActive) :
    (failExitedDispatch env operationId dispatch task paneId exitCode observedAt).wlp
      (fun _ s' => s'.crew.Manned) s := by
  simp only [failExitedDispatch, wlp_bind, wlp_readRun]
  refine wlp_updateDispatch_crew post (fun _ owner => ⟨rfl, owner⟩) fun s₁ h₁ => ?_
  refine wlp_aside fun _ s₂ h₂ => wlp_updateOwner_crew (fun _ => rfl) fun s₃ h₃ => ?_
  intro _ _ _
  refine wlp_aside fun _ s₄ h₄ => wlp_aside fun _ s₅ h₅ => wlp_aside fun _ s₆ h₆ => ?_
  change s₃.crew = dispatch.agentInstanceId.elim _ _ at h₃
  rw [h₆, h₅, h₄, h₃, h₂, h₁]
  exact manned.finish post active rfl

theorem recordPaneExit_manned {paneId : Uuid} {exitCode : Option Int} {observedAt : Nat}
    (manned : s.crew.Manned) : (recordPaneExit env operationId paneId exitCode observedAt).wlp
      (fun _ s' => s'.crew.Manned) s := by
  simp only [recordPaneExit, wlp_atomically, wlp_bind, wlp_gets]
  cases s.dispatchOfPane paneId with
  | none => simpa using manned
  | some dispatchId =>
    simp only [wlp_bind, wlp_readDispatch, wlp_readTask, wlp_ite, wlp_pure]
    intro row found id
    refine wlp_aside fun _ s₁ h₁ => wlp_updateDispatch_aside (fun _ => ⟨rfl, rfl⟩) fun s₂ h₂ => ?_
    refine wlp_updateAgents_aside (fun _ => rfl) fun s₃ h₃ => ?_
    have same : s₃.crew = s.crew := by rw [h₃, h₂, h₁]
    intro task _ _
    refine ⟨fun failed => ?_, fun _ _ _ _ => same ▸ manned⟩
    have post : s₃.crew.post row.id = some (row.status, row.agentInstanceId) :=
      same ▸ Store.crew_post (id ▸ found)
    exact wlp_mono (failExitedDispatch_manned (same ▸ manned) post failed.1) fun _ _ manned _ _ _ => manned

theorem markDispatchResourceDisposition_manned {dispatchId : Uuid}
    {paneDisposition worktreeDisposition : Option ResourceDisposition}
    {clearPaneIdentity clearWorktreeIdentity : Bool} {cleanupReason cleanupError : Option String}
    (manned : s.crew.Manned) :
    (markDispatchResourceDisposition env dispatchId paneDisposition worktreeDisposition clearPaneIdentity
      clearWorktreeIdentity cleanupReason cleanupError).wlp (fun _ s' => s'.crew.Manned) s := by
  simp only [markDispatchResourceDisposition, wlp_atomically, wlp_bind, wlp_expect, wlp_ite, wlp_pure]
  intro _ _
  refine wlp_aside fun _ s₁ h₁ => ?_
  have cleared {s₂ : Store} (h₂ : s₂.crew = s.crew) :
      (clearWorktreeIdentity = true → (updateDispatch dispatchId
        (fun d => { d with worktree := none, updatedAt := env.now })).wlp (fun _ s' => ∀ resource,
          (s'.resources.find dispatchId).map ResourceRow.toDispatchResourceRecord = some resource →
            s'.crew.Manned) s₂) ∧
      (¬clearWorktreeIdentity = true → ∀ resource,
        (s₂.resources.find dispatchId).map ResourceRow.toDispatchResourceRecord = some resource →
          s₂.crew.Manned) := by
    refine ⟨fun _ => wlp_updateDispatch_aside (fun _ => ⟨rfl, rfl⟩) fun s₃ h₃ _ _ => ?_, fun _ _ _ => ?_⟩
    · rw [h₃, h₂]
      exact manned
    · rw [h₂]
      exact manned
  refine ⟨fun _ => ?_, fun _ => cleared h₁⟩
  refine wlp_updateDispatch_aside (fun _ => ⟨rfl, rfl⟩) fun s₂ h₂ => ?_
  refine wlp_updateAgents_aside (fun _ => rfl) fun s₃ h₃ => ?_
  exact cleared (by rw [h₃, h₂, h₁])

end Exits

section Restarts

theorem Store.post_of_active {runId : Uuid} {row : DispatchRow} (member : row ∈ s.activeDispatches runId) :
    s.crew.post row.id = some (row.status, row.agentInstanceId) ∧ row.status.isActive := by
  obtain ⟨found, active, _⟩ := Store.mem_activeDispatches member
  exact ⟨Store.crew_post found, active⟩

theorem activeDispatches_manned {β : Type} {f : DispatchRow → CoordinatorResult β} {runId : Uuid}
    (manned : s.crew.Manned)
    (round : ∀ row s₁, s₁.crew.Manned →
      s₁.crew.post row.id = some (row.status, row.agentInstanceId) → row.status.isActive →
      (f row).wlp (fun _ s₂ => s₂.crew.Manned ∧
        ∀ d, d ≠ row.id → s₂.crew.post d = s₁.crew.post d) s₁) :
    (Tx.traverse f (s.activeDispatches runId)).wlp (fun _ s' => s'.crew.Manned) s := by
  apply wlp_traverse_keyed (fun s : Store => s.crew.post) (I := fun s : Store => s.crew.Manned)
    (s.nodup_activeDispatches runId) manned
  intro row member s₁ manned₁ same
  obtain ⟨post, active⟩ := Store.post_of_active member
  exact round row s₁ manned₁ (same.trans post) active

theorem Crew.Manned.owns_of_active {C : Crew} {a d : Uuid} {status : DispatchStatus} (manned : C.Manned)
    (post : C.post d = some (status, some a)) (active : status.isActive) : C.Owns a d := by
  refine ⟨status, post, (DispatchStatus.isActive_iff.1 active).resolve_left fun pending => ?_⟩
  cases manned.unbound d _ (pending ▸ post)

theorem restartDispatch_manned {nowMillis : Nat} {active : DispatchRow} (manned : s.crew.Manned)
    (post : s.crew.post active.id = some (active.status, active.agentInstanceId))
    (isActive : active.status.isActive) : (restartDispatch env nowMillis active).wlp
      (fun _ s' => s'.crew.Manned ∧ ∀ d, d ≠ active.id → s'.crew.post d = s.crew.post d) s := by
  simp only [restartDispatch, wlp_bind, wlp_readDispatch]
  intro row found id
  have post' := Store.crew_post found
  rw [id, post] at post'
  obtain ⟨status, owner⟩ := Prod.mk.inj (Option.some.inj post')
  have owner' : (s.dispatchRecord row).agentInstanceId = active.agentInstanceId := owner.symm
  rw [owner']
  cases agent : active.agentInstanceId with
  | none =>
    rw [agent] at post
    simp only [wlp_bind, wlp_pure]
    refine wlp_updateDispatch_crew (id ▸ post) (fun _ owner => ⟨rfl, owner⟩) fun s₁ h₁ => ?_
    refine wlp_aside fun _ s₂ h₂ => ⟨?_, fun d hd => ?_⟩
    · rw [h₂, h₁]
      exact manned.assign_idle rfl (by simp)
    · rw [h₂, h₁]
      exact Crew.assign_post_of_ne (id ▸ hd)
  | some a =>
    rw [agent] at post
    have owns := manned.owns_of_active post isActive
    simp only [wlp_bind, wlp_readAgent, wlp_ite, wlp_pure]
    intro record agent_found
    have agent_id : record.id = a := Store.agent_id agent_found
    have is : record.read.id = a := agent_id
    have row_id : (s.dispatchRecord row).id = active.id := id
    refine ⟨fun _ => ?_, fun _ => ?_⟩
    · refine wlp_updateAgent_crew (fun _ => rfl) fun s₁ h₁ => ?_
      have post₁ : s₁.crew.post row.id = some (active.status, some a) := by rw [h₁, id]; exact post
      refine wlp_updateDispatch_crew post₁ (fun _ owner => ⟨rfl, owner⟩) fun s₂ h₂ => ⟨?_, fun d hd => ?_⟩
      · rw [h₂, h₁, is, row_id]
        exact (manned.set_active rfl).go_on (Crew.owns_set.2 owns) rfl
      · rw [h₂, h₁]
        exact Crew.assign_post_of_ne (id ▸ hd)
    · refine wlp_updateAgent_crew (fun _ => rfl) fun s₁ h₁ => ?_
      have post₁ : s₁.crew.post row.id = some (active.status, some a) := by rw [h₁, id]; exact post
      refine wlp_updateDispatch_crew post₁ (fun _ owner => ⟨rfl, owner⟩) fun s₂ h₂ => ?_
      refine wlp_aside fun _ s₃ h₃ => ⟨?_, fun d hd => ?_⟩
      · rw [h₃, h₂, h₁, is, row_id, ← Crew.set_assign_comm]
        exact manned.finish post isActive rfl
      · rw [h₃, h₂, h₁]
        exact Crew.assign_post_of_ne (id ▸ hd)

theorem reconcileRestartedDispatch_manned {observedAt : Nat} {active : DispatchRow}
    (manned : s.crew.Manned)
    (post : s.crew.post active.id = some (active.status, active.agentInstanceId))
    (isActive : active.status.isActive) : (reconcileRestartedDispatch env observedAt active).wlp
      (fun _ s' => s'.crew.Manned ∧ ∀ d, d ≠ active.id → s'.crew.post d = s.crew.post d) s := by
  simp only [reconcileRestartedDispatch, wlp_bind, wlp_readDispatch, wlp_ite, wlp_pure]
  intro row found id
  have post' := Store.crew_post found
  rw [id, post] at post'
  obtain ⟨status, owner⟩ := Prod.mk.inj (Option.some.inj post')
  have row_id : (s.dispatchRecord row).id = active.id := id
  refine ⟨fun _ => ⟨manned, fun _ _ => trivial⟩, fun _ => ⟨fun pending => ?_, fun _ => ?_⟩⟩
  · have pending : active.status = .pending := status.trans pending
    rw [pending] at post
    rw [manned.unbound _ _ post] at post
    refine wlp_updateDispatch_crew (id ▸ post) (fun _ owner => ⟨rfl, owner⟩) fun s₁ h₁ => ?_
    refine wlp_aside fun _ s₂ h₂ => ⟨?_, fun d hd => ?_⟩
    · rw [h₂, h₁]
      exact manned.assign_idle rfl (by simp)
    · rw [h₂, h₁]
      exact Crew.assign_post_of_ne (id ▸ hd)
  · refine wlp_updateDispatch_crew (id ▸ post) (fun _ owner => ⟨rfl, owner⟩) fun s₁ h₁ => ?_
    refine wlp_aside fun _ s₂ h₂ => wlp_updateOwner_crew (fun _ => rfl) fun s₃ h₃ => ?_
    change s₃.crew = row.agentInstanceId.elim _ _ at h₃
    rw [← owner, h₂, h₁] at h₃
    refine ⟨?_, fun d hd => ?_⟩
    · rw [h₃, row_id]
      exact manned.finish post isActive rfl
    · rw [h₃]
      cases active.agentInstanceId <;> exact Crew.assign_post_of_ne (id ▸ hd)

theorem reconcileDaemonRestart_manned {observedAt : Nat} (manned : s.crew.Manned) :
    (reconcileDaemonRestart env operationId observedAt).wlp (fun _ s' => s'.crew.Manned) s := by
  simp only [reconcileDaemonRestart, wlp_atomically, wlp_bind, wlp_gets, wlp_pure]
  apply wlp_fold (I := fun _ (s : Store) => s.crew.Manned) manned
  intro runId _ reconciled s manned
  simp only [reconcileRestartedRun, wlp_bind, wlp_gets, wlp_ite, wlp_readRun, wlp_pure]
  refine wlp_mono (activeDispatches_manned manned fun row s₁ manned₁ post active =>
    reconcileRestartedDispatch_manned manned₁ post active) fun _ s₁ manned₁ => ?_
  refine wlp_aside fun _ s₂ h₂ => ?_
  rw [← h₂] at manned₁
  refine ⟨fun _ run _ _ => ?_, fun _ => manned₁⟩
  refine wlp_aside fun _ s₃ h₃ => wlp_aside fun _ s₄ h₄ => wlp_aside fun _ s₅ h₅ => ?_
  rw [h₅, h₄, h₃]
  exact manned₁

theorem reconcileAfterRestart_manned {request : RestartReconciliationRequest} (manned : s.crew.Manned) :
    (reconcileAfterRestart platform env operationId request).wlp (fun _ s' => s'.crew.Manned) s := by
  apply wlp_mutate_crew manned
  intro _
  simp only [wlp_bind, wlp_gets, wlp_pure]
  apply wlp_fold (I := fun _ (s : Store) => s.crew.Manned) manned
  intro runId _ result s manned
  simp only [restartRun, wlp_bind, wlp_gets, wlp_ite, wlp_readRun, wlp_pure]
  refine wlp_mono (activeDispatches_manned manned fun row s₁ manned₁ post active =>
    restartDispatch_manned manned₁ post active) fun _ s₁ manned₁ => ?_
  refine wlp_aside fun _ s₂ h₂ => ?_
  rw [← h₂] at manned₁
  refine ⟨fun _ run _ _ => ?_, fun _ => manned₁⟩
  refine wlp_aside fun _ s₃ h₃ => wlp_aside fun _ s₄ h₄ => wlp_aside fun _ s₅ h₅ => ?_
  rw [h₅, h₄, h₃]
  exact manned₁

end Restarts

section Schedule

def Store.StaysManned (s s' : Store) : Prop := s.crew.Manned → s'.crew.Manned

instance : IsPreorder Store Store.StaysManned where
  refl _ := id
  trans _ _ _ h h' := h' ∘ h

theorem Store.staysManned_of_same {s s' : Store} (h : Same Store.crew s s') : s.StaysManned s' := by
  intro manned
  rw [h]
  exact manned

instance : Aside Store.StaysManned where
  runs _ _ := Store.staysManned_of_same rfl
  tasks _ _ := Store.staysManned_of_same rfl
  messages _ _ := Store.staysManned_of_same rfl
  gates _ _ := Store.staysManned_of_same rfl
  notifications _ _ := Store.staysManned_of_same rfl
  runDecisions _ _ := Store.staysManned_of_same rfl
  launchOperations _ _ := Store.staysManned_of_same rfl
  launchClaims _ _ := Store.staysManned_of_same rfl
  resources _ _ := Store.staysManned_of_same rfl

instance : AsideEvents Store.StaysManned := ⟨fun _ _ _ => Store.staysManned_of_same rfl⟩

instance : AsideOperations Store.StaysManned := ⟨fun _ _ => Store.staysManned_of_same rfl⟩

theorem respects_insertPending {row : DispatchRow} (pending : row.status = .pending)
    (unbound : row.agentInstanceId = none) : Respects Store.StaysManned (insertDispatch row) := by
  refine respects_tryWrite fun s s' inserted manned => ?_
  obtain ⟨dispatches, h, rfl⟩ := Option.map_eq_some_iff.1 inserted
  have put : Store.ledger { s with dispatches } = s.ledger.putDispatch row := by
    simp only [Store.ledger, Ledger.putDispatch, Table.find_insert h]
  rw [Store.crew, put, Ledger.crew_putDispatch]
  exact manned.assign_idle (by rw [pending]; rfl) fun _ => unbound

instance {runId : Uuid} {task : Uuid × Nat} :
    Respects Store.StaysManned (dispatchReadyTask env operationId runId task) :=
  .bind (k := fun _ => .bind (h := respects_insertPending rfl rfl))

end Schedule

end VibeLink.Coordinator
