import VibeLink.Coordinator.Refinement

/-! Liveness reconciliation, pane exits and restarts: the operations that walk over the
active dispatches of a run. -/

namespace VibeLink.Coordinator

open VibeLink.Relational

variable {platform : Platform} {env : Env} {operationId : Uuid} {s : Store}

/-- The ledger `L` of a walk that began in `s`.  An active dispatch of `L` was there in `s`,
and `R` says what the walk may have changed of it. -/
structure Walk (R : DispatchRow → DispatchRow → Prop) (A : Ledger → Label → Prop) (s : Store)
    (L : Ledger) : Prop where
  chain : Chain Move A s.ledger L
  resumable : ∀ i, (L.agents i).map AgentInstanceRecord.resumable =
    (s.ledger.agents i).map AgentInstanceRecord.resumable
  owners : ∀ t, (L.tasks t).map TaskRecord.runId = (s.ledger.tasks t).map TaskRecord.runId
  rows : ∀ d row, L.dispatches d = some row → row.status.isActive →
    ∃ old, s.ledger.dispatches d = some old ∧ R old row

namespace Walk

variable {R : DispatchRow → DispatchRow → Prop} {A : Ledger → Label → Prop} {L L' : Ledger}

theorem refl (hR : ∀ row : DispatchRow, row.status.isActive → R row row) : Walk R A s s.ledger :=
  ⟨.refl, fun _ => rfl, fun _ => rfl, fun _ row h hactive => ⟨row, h, hR row hactive⟩⟩

theorem aside (h : Walk R A s L) {l : Label} (hl : A L l) (hm : Move l L L')
    (hagents : L'.agents = L.agents) (htasks : L'.tasks = L.tasks)
    (hdispatches : L'.dispatches = L.dispatches) : Walk R A s L' where
  chain := h.chain.snoc hl hm
  resumable i := by rw [hagents, h.resumable]
  owners t := by rw [htasks, h.owners]
  rows d row hrow := h.rows d row (hdispatches ▸ hrow)

theorem agents (h : Walk R A s L) {agents : Uuid → Option AgentInstanceRecord}
    (hl : A L .reviseAgents) (hres : ∀ i, (agents i).map AgentInstanceRecord.resumable =
      (L.agents i).map AgentInstanceRecord.resumable) : Walk R A s { L with agents } where
  chain := h.chain.snoc hl (.reviseAgents agents hres)
  resumable i := (hres i).trans (h.resumable i)
  owners := h.owners
  rows := h.rows

theorem owners_putTask (h : Walk R A s L) {task task' : TaskRecord}
    (row : L.tasks task'.id = some task) (hrun : task'.runId = task.runId) (t : Uuid) :
    ((L.putTask task').tasks t).map TaskRecord.runId = (s.ledger.tasks t).map TaskRecord.runId := by
  rw [← h.owners t, Ledger.putTask_tasks]
  by_cases ht : t = task'.id
  · subst ht
    simp [row, hrun]
  · rw [Function.update_of_ne ht]

theorem rows_putDispatch (h : Walk R A s L) {old new : DispatchRow}
    (row : L.dispatches new.id = some old) (hactive : old.status.isActive)
    (hR : new.status.isActive → ∀ first, R first old → R first new) (d : Uuid) (found : DispatchRow)
    (hfound : (L.putDispatch new).dispatches d = some found) (hstill : found.status.isActive) :
    ∃ first, s.ledger.dispatches d = some first ∧ R first found := by
  rw [Ledger.putDispatch_dispatches] at hfound
  by_cases hd : d = new.id
  · subst hd
    rw [Function.update_self, Option.some.injEq] at hfound
    subst hfound
    obtain ⟨first, hfirst, hrel⟩ := h.rows _ _ row hactive
    exact ⟨first, hfirst, hR hstill first hrel⟩
  · rw [Function.update_of_ne hd] at hfound
    exact h.rows d found hfound hstill

theorem advance (h : Walk R A s L) {old new : DispatchRow} (hl : A L (.advance new.id new.status))
    (row : L.dispatches new.id = some old) (task_id : new.taskId = old.taskId)
    (hactive : old.status.isActive) (still : new.status = .running ∨ new.status = .waiting)
    (hR : ∀ first, R first old → R first new) : Walk R A s (L.putDispatch new) where
  chain := by
    refine h.chain.snoc hl (.advance row task_id hactive ?_ ?_ ?_)
    · rcases still with h | h <;> rw [h] <;> rfl
    · rcases still with h | h <;> simp [h]
    · rcases still with h | h <;> simp [h]
  resumable := h.resumable
  owners := h.owners
  rows := h.rows_putDispatch row hactive fun _ => hR

theorem block (h : Walk R A s L) {old new : DispatchRow} {task task' : TaskRecord}
    (hl : A L (.finish new.id .failed task'.id)) (row : L.dispatches new.id = some old)
    (task_id : new.taskId = old.taskId) (hactive : old.status.isActive)
    (failed : new.status = .failed) (task_row : L.tasks task'.id = some task)
    (owner : task'.id = old.taskId) (revises : task'.Revises task)
    (blocked : task'.status = .blocked) : Walk R A s ((L.putDispatch new).putTask task') where
  chain := by
    rw [← failed] at hl
    exact h.chain.snoc hl (.finish row task_id hactive (by rw [failed]; rfl) task_row owner revises
      (.inr ⟨by simp [failed], .inr (.inr blocked)⟩))
  resumable := h.resumable
  owners := h.owners_putTask task_row revises.runId
  rows := h.rows_putDispatch row hactive fun hstill => by simp [failed, DispatchStatus.isActive] at hstill

theorem release (h : Walk R A s L) {old new : DispatchRow} {task task' : TaskRecord}
    (hl : A L (.release new.id)) (row : L.dispatches new.id = some old)
    (task_id : new.taskId = old.taskId) (hactive : old.status.isActive)
    (failed : new.status = .failed) (task_row : L.tasks task'.id = some task)
    (owner : task'.id = old.taskId)
    (reset : task.status = .dispatched ∧ task'.status = .ready ∧ task'.Revises task ∨
      task.status ≠ .dispatched ∧ task' = task) :
    Walk R A s ((L.putDispatch new).putTask task') where
  chain := h.chain.snoc hl (.release row task_id hactive failed task_row owner reset)
  resumable := h.resumable
  owners := h.owners_putTask task_row (by
    rcases reset with ⟨_, _, hrev⟩ | ⟨_, rfl⟩
    · exact hrev.runId
    · rfl)
  rows := h.rows_putDispatch row hactive fun hstill => by simp [failed, DispatchStatus.isActive] at hstill

end Walk

section Liveness

theorem Store.mem_staleDispatches {runId agentId : Uuid} {cutoff : Int} {row : DispatchRow}
    (h : (agentId, row) ∈ s.staleDispatches runId cutoff) :
    s.ledger.dispatches row.id = some row ∧ row.status.isActive ∧
      (∃ task, s.ledger.tasks row.taskId = some task) ∧
      ∃ agent, s.ledger.agents agentId = some agent := by
  simp only [Store.staleDispatches, List.mem_map, mem_orderBy, List.mem_filterMap] at h
  obtain ⟨⟨agent, d⟩, ⟨d', hmem, hd⟩, heq⟩ := h
  obtain ⟨rfl, rfl⟩ := Prod.mk.inj heq
  split at hd
  · rename_i hstatus
    obtain ⟨found, hfound, hsome⟩ := Option.bind_eq_some_iff.1 hd
    split at hsome
    · cases hsome
      obtain ⟨id, _, hagent⟩ := Option.bind_eq_some_iff.1 hfound
      obtain ⟨task, htask, _⟩ := Option.map_eq_some_iff.1 (Store.inRun_iff.1 hstatus.2)
      refine ⟨Store.mem_rows_dispatches.1 hmem, ?_, ⟨task, htask⟩, agent, ?_⟩
      · rcases hstatus.1 with h | h | h <;> rw [h] <;> rfl
      · exact Table.find_of_mem (Table.mem_of_find hagent)
    · cases hsome
  · cases hd

theorem Store.nodup_staleDispatches (s : Store) (runId : Uuid) (cutoff : Int) :
    ((s.staleDispatches runId cutoff).map fun p => p.2.id).Nodup := by
  rw [Store.staleDispatches, List.map_map]
  refine ((perm_orderBy _ _).map _).nodup_iff.2 ?_
  rw [List.Nodup, List.pairwise_map, List.pairwise_filterMap]
  have hkeys := s.dispatches.nodup
  rw [List.Nodup, List.pairwise_map] at hkeys
  have hsnd : ∀ {d : DispatchRow} {b : AgentInstanceRecord × DispatchRow} {p : Prop} [Decidable p]
      {o : Option AgentInstanceRecord}, (if p then o.bind fun a =>
        if a.lastHeartbeatAt.getD 0 < cutoff then some (a, d) else none else none) = some b →
      b.2 = d := by
    intro d b p _ o h
    split at h
    · obtain ⟨a, _, ha⟩ := Option.bind_eq_some_iff.1 h
      split at ha
      · cases ha; rfl
      · cases ha
    · cases h
  refine hkeys.imp ?_
  intro d e hne b hb b' hb'
  simpa only [Function.comp, hsnd hb, hsnd hb'] using hne

theorem reconcileVerdict_cases (observation : Option AdapterObservationStatus) (resumable : Bool) :
    (reconcileVerdict observation resumable).2.2.2 = true ∧
        (reconcileVerdict observation resumable).2.1 = .failed ∨
      (reconcileVerdict observation resumable).2.2.2 = false ∧
        ((reconcileVerdict observation resumable).2.1 = .running ∧ observation = some .running ∨
          (reconcileVerdict observation resumable).2.1 = .waiting) := by
  rcases observation with _ | (_ | _ | _ | _ | _) <;> cases resumable <;> simp [reconcileVerdict]

/-- A round over `(agentId, stale)`, which no earlier round was about. -/
theorem reconcileStaleDispatch_round {request : ReconcileLivenessRequest} {agentId : Uuid}
    {stale : DispatchRow} {s' : Store} (fresh : s.operations.find operationId = none)
    (hrun : s.RunAt request.runId request.expectedRunRevision) (observed : s.Observed request)
    (hmem : (agentId, stale) ∈ s.staleDispatches request.runId (livenessCutoff request))
    (w : Walk (fun _ _ => True) (Permits s ⟨operationId, env, .reconcileLiveness request⟩) s s'.ledger)
    (hruns : s'.ledger.runs = s.ledger.runs)
    (row : s'.ledger.dispatches stale.id = some stale) :
    (reconcileStaleDispatch env request (agentId, stale)).wlp (fun _ s'' =>
      Walk (fun _ _ => True) (Permits s ⟨operationId, env, .reconcileLiveness request⟩) s s''.ledger ∧
        s''.ledger.runs = s.ledger.runs ∧
        ∀ d, d ≠ stale.id → s''.ledger.dispatches d = s'.ledger.dispatches d) s' := by
  obtain ⟨row₀, hactive, ⟨task₀, htask₀⟩, agent₀, hagent₀⟩ := Store.mem_staleDispatches hmem
  simp only [reconcileStaleDispatch, Tx.wlp_bind, wlp_readAgent, Tx.wlp_require, Tx.wlp_ite,
    Tx.wlp_pure]
  intro agent hagent _ _
  have hres : agent.read.resumable = agent₀.resumable := by
    have h := w.resumable agentId
    rw [hagent, hagent₀] at h
    exact Option.some.inj h
  refine wlp_updateAgents (by intro a; rfl) fun s₁ agents h₁ hagents => ?_
  have w₁ := w.agents (by trivial) hagents
  rw [← h₁] at w₁
  have row₁ : s₁.ledger.dispatches stale.id = some stale := by rw [h₁]; exact row
  have hruns₁ : s₁.ledger.runs = s.ledger.runs := by rw [h₁]; exact hruns
  have hsame₁ : s₁.ledger.dispatches = s'.ledger.dispatches := by rw [h₁]
  refine wlp_updateDispatch row₁ fun s₂ new hnew h₂ => ?_
  have hid : new.id = stale.id := by rw [hnew]
  have hother : ∀ d, d ≠ stale.id → s₂.ledger.dispatches d = s'.ledger.dispatches d := by
    intro d hd
    rw [h₂, Ledger.putDispatch_dispatches, hid, Function.update_of_ne hd, hsame₁]
  rcases reconcileVerdict_cases ((observationOf request agentId).map AgentObservation.status)
    agent.read.resumable with ⟨hblock, hstatus⟩ | ⟨hblock, hstatus⟩
  · refine ⟨fun _ => ?_, fun h => absurd hblock h⟩
    obtain ⟨task, htask, _⟩ : ∃ task, s₁.ledger.tasks stale.taskId = some task ∧ True := by
      have h := w₁.owners stale.taskId
      rw [htask₀, Option.map_some] at h
      obtain ⟨task, htask, _⟩ := Option.map_eq_some_iff.1 h
      exact ⟨task, htask, trivial⟩
    have hid₁ := Store.task_id htask
    have htask₂ : s₂.ledger.tasks stale.taskId = some task := by rw [h₂]; exact htask
    refine wlp_setTaskStatus htask₂ fun s₃ task' revises hblocked h₃ => ?_
    have howner : task'.id = stale.taskId := revises.id.trans hid₁
    have h₃' : s₃.ledger = (s₁.ledger.putDispatch new).putTask task' := by rw [h₃, h₂]
    refine ⟨?_, by rw [h₃', ← hruns₁]; rfl, fun d hd => by rw [h₃]; exact hother d hd⟩
    rw [h₃']
    refine w₁.block ?_ (hid ▸ row₁) (by rw [hnew]) hactive (by rw [hnew]; exact hstatus)
      (howner ▸ htask) howner revises hblocked
    exact ⟨stale, hid ▸ row₀, hactive, howner.symm, by simp, fresh, hrun, observed, agentId, agent₀, hmem,
      hagent₀, hres ▸ hblock⟩
  · refine ⟨fun h => absurd h (by simp [hblock]), fun _ => ?_⟩
    have hstill : new.status = .running ∨ new.status = .waiting := by
      rw [hnew]
      exact hstatus.imp_left And.left
    refine ⟨?_, by rw [h₂, ← hruns₁]; rfl, hother⟩
    rw [h₂]
    refine w₁.advance ?_ (hid ▸ row₁) (by rw [hnew]) hactive hstill fun _ _ => trivial
    intro hrunning
    refine ⟨fresh, hrun, observed, agentId, stale, hmem, hid.symm, ?_⟩
    rcases hstatus with ⟨_, h⟩ | h
    · exact h
    · rw [hnew] at hrunning
      rw [h] at hrunning
      cases hrunning

def AgentInstanceRecord.process (agent : AgentInstanceRecord) : Option String × Nat :=
  (agent.runtimeIdentity, agent.generation)

theorem reconcileStaleDispatch_observed {request : ReconcileLivenessRequest} {agentId : Uuid}
    {stale : DispatchRow} {s' : Store}
    (same : ∀ i, (s'.agents.find i).map AgentInstanceRecord.process =
      (s.agents.find i).map AgentInstanceRecord.process) :
    (reconcileStaleDispatch env request (agentId, stale)).wlp (fun _ s'' =>
      (∀ i, (s''.agents.find i).map AgentInstanceRecord.process =
        (s.agents.find i).map AgentInstanceRecord.process) ∧
      ∀ agent, s.ledger.agents agentId = some agent → ∀ o, observationOf request agentId = some o →
        (∀ runtimeIdentity, o.runtimeIdentity = some runtimeIdentity →
          agent.runtimeIdentity = some runtimeIdentity) ∧
        ∀ generation, o.generation = some generation → generation = agent.generation) s' := by
  simp only [reconcileStaleDispatch, updateAgent, updateAgents, updateDispatch, updateDispatches,
    setTaskStatus, updateTask, updateTasks, Tx.wlp_bind, wlp_readAgent, Tx.wlp_require, Tx.wlp_write,
    Tx.wlp_ite, Tx.wlp_pure]
  intro agent hagent hidentity hgeneration
  have observed : ∀ agent', s.ledger.agents agentId = some agent' → ∀ o,
      observationOf request agentId = some o →
      (∀ runtimeIdentity, o.runtimeIdentity = some runtimeIdentity →
        agent'.runtimeIdentity = some runtimeIdentity) ∧
      ∀ generation, o.generation = some generation → generation = agent'.generation := by
    intro agent' hagent' o ho
    have hprocess : (some agent).map AgentInstanceRecord.process =
        (some agent').map AgentInstanceRecord.process := hagent ▸ hagent' ▸ same agentId
    obtain ⟨hruntime, hgen⟩ := Prod.mk.inj (Option.some.inj hprocess)
    rw [← hruntime, ← hgen]
    exact ⟨hidentity o ho, hgeneration o ho⟩
  refine ⟨fun _ => ⟨fun i => ?_, observed⟩, fun _ => ⟨fun i => ?_, observed⟩⟩
  all_goals
    rw [Table.map_find_update _ (by intro a; rfl)]
    exact same i

theorem reconcileLiveness_observed {request : ReconcileLivenessRequest} :
    (reconcileLiveness platform env operationId request).wlp
      (fun _ _ => s.operations.find operationId = none → s.Observed request) s := by
  refine wlp_mutate_cases (fun recorded h _ hfresh => by simp [h] at hfresh) fun fresh => ?_
  simp only [Tx.wlp_bind, wlp_readRun, wlp_requireRunRevision, Tx.wlp_gets, Tx.wlp_ite, Tx.wlp_pure]
  intro run row hid hrev
  rw [hid]
  refine Tx.wlp_mono (Tx.wlp_traverse (I := fun pre _ s' =>
    (∀ i, (s'.agents.find i).map AgentInstanceRecord.process =
      (s.agents.find i).map AgentInstanceRecord.process) ∧
    ∀ pair ∈ pre, ∀ agent, s.ledger.agents pair.1 = some agent →
      ∀ o, observationOf request pair.1 = some o →
        (∀ runtimeIdentity, o.runtimeIdentity = some runtimeIdentity →
          agent.runtimeIdentity = some runtimeIdentity) ∧
        ∀ generation, o.generation = some generation → generation = agent.generation)
    ⟨fun _ => rfl, by simp⟩ ?_) ?_
  · rintro pre ⟨agentId, stale⟩ post _ _ s' ⟨same, observed⟩
    refine Tx.wlp_mono (reconcileStaleDispatch_observed same) fun _ s'' h => ⟨h.1, ?_⟩
    intro pair hpair
    rcases List.mem_append.1 hpair with hpair | hpair
    · exact observed pair hpair
    · rw [List.mem_singleton.1 hpair]
      exact h.2
  · rintro actions s₁ ⟨-, observed⟩
    have done : s.Observed request := fun agentId row hmem => observed (agentId, row) hmem
    exact ⟨fun _ => Tx.wlp_of_forall fun _ _ => Tx.wlp_of_forall fun _ _ _ _ _ => done, fun _ _ _ _ => done⟩

theorem reconcileLiveness_outcome {request : ReconcileLivenessRequest} :
    (reconcileLiveness platform env operationId request).wlp
      (fun _ s' => Outcome s ⟨operationId, env, .reconcileLiveness request⟩ s'.ledger) s := by
  -- the call succeeds as a whole or not at all, so every observation may be taken as checked
  suffices h : (s.operations.find operationId = none → s.Observed request) →
      (reconcileLiveness platform env operationId request).wlp
        (fun _ s' => Outcome s ⟨operationId, env, .reconcileLiveness request⟩ s'.ledger) s from
    fun response s' hr => h (reconcileLiveness_observed response s' hr) response s' hr
  intro observed
  refine wlp_mutate (.refl s _) fun fresh => ?_
  simp only [Tx.wlp_bind, wlp_readRun, wlp_requireRunRevision, Tx.wlp_gets, Tx.wlp_ite, Tx.wlp_pure]
  intro run row hid hrev
  have hrun : s.RunAt request.runId request.expectedRunRevision := ⟨run, hid ▸ row, hrev⟩
  rw [hid]
  refine Tx.wlp_mono (Tx.wlp_traverse (I := fun pre actions s' =>
    Walk (fun _ _ => True) (Permits s ⟨operationId, env, .reconcileLiveness request⟩) s s'.ledger ∧
      s'.ledger.runs = s.ledger.runs ∧
      (∀ d, d ∉ (pre.map fun p => p.2.id) → s'.ledger.dispatches d = s.ledger.dispatches d) ∧
      (actions = [] → s'.ledger = s.ledger)) ?_ ?_) ?_
  · exact ⟨.refl fun _ _ => trivial, rfl, fun _ _ => rfl, fun _ => rfl⟩
  · rintro pre ⟨agentId, stale⟩ post hsplit actions s' ⟨w, hruns, hsame, -⟩
    have hmem : (agentId, stale) ∈ s.staleDispatches request.runId (livenessCutoff request) := by
      simp [hsplit]
    have hnodup := s.nodup_staleDispatches request.runId (livenessCutoff request)
    rw [hsplit, List.map_append, List.map_cons] at hnodup
    have hnew : stale.id ∉ pre.map fun p => p.2.id := fun hp =>
      List.disjoint_of_nodup_append hnodup hp List.mem_cons_self
    have row' : s'.ledger.dispatches stale.id = some stale :=
      (hsame _ hnew).trans (Store.mem_staleDispatches hmem).1
    refine Tx.wlp_mono (reconcileStaleDispatch_round fresh hrun (observed fresh) hmem w hruns row') ?_
    rintro action s'' ⟨w', hruns', hsame'⟩
    refine ⟨w', hruns', fun d hd => ?_, by simp⟩
    rw [List.map_append, List.mem_append, not_or] at hd
    rw [hsame' d (by simpa using hd.2), hsame d hd.1]
  · rintro actions s₁ ⟨w, hruns, -, hsame⟩
    refine ⟨fun hactions => ?_, fun hnone => ?_⟩
    · have row₁ : s₁.ledger.runs run.id = some run := hruns ▸ row
      refine wlp_bumpRunRevision row₁ fun s₂ h₂ => wlp_insertEvent fun s₃ h₃ => ?_
      rw [h₃]
      refine ⟨w.chain.step h₂ (by trivial) (.bumpRun row₁ env.now), ?_⟩
      rintro r e ⟨rfl, rfl⟩
      exact .inr (fence_of_put row hid hrev h₂ rfl (Nat.lt_succ_self _))
    · rw [not_not] at hnone
      rw [hsame hnone]
      exact .refl s _

end Liveness

section Restart

variable {R : DispatchRow → DispatchRow → Prop} {A : Ledger → Label → Prop}

theorem Walk.putRun {L L' : Ledger} {run : RunRecord} (w : Walk R A s L)
    (c : Chain Move A s.ledger L') (h : L' = L.putRun run) : Walk R A s L' := by
  subst h
  exact ⟨c, w.resumable, w.owners, w.rows⟩

theorem Walk.bumpRefresh {s' : Store} {run : RunRecord} {Q : RunRecord → Store → Prop}
    (w : Walk R A s s'.ledger) (row : s'.ledger.runs run.id = some run)
    (bump : ∀ L runId, A L (.bumpRun runId))
    (refresh : ∀ L runId old new, old ≠ .cancelled → A L (.setRun runId old new))
    (k : ∀ run' s'', Walk R A s s''.ledger → Q run' s'') :
    (bumpRunRevision env run).wlp (fun run => (refreshTerminalRunStatus env run).wlp Q) s' := by
  refine wlp_bumpRunRevision row fun s₁ h₁ => ?_
  have c₁ := w.chain.step h₁ (bump _ _) (.bumpRun row env.now)
  refine wlp_refresh_chain c₁ (by simp [h₁]) refresh fun run' s₂ c₂ _ _ h₂ => ?_
  exact k run' s₂ ((w.putRun c₁ h₁).putRun c₂ h₂)

theorem Store.mem_activeDispatches {runId : Uuid} {row : DispatchRow}
    (h : row ∈ s.activeDispatches runId) : s.ledger.dispatches row.id = some row ∧
      row.status.isActive ∧ (s.ledger.tasks row.taskId).map TaskRecord.runId = some runId := by
  simp only [Store.activeDispatches, mem_orderBy, List.mem_filter, Bool.and_eq_true] at h
  exact ⟨Store.mem_rows_dispatches.1 h.1, h.2.1, Store.inRun_iff.1 h.2.2⟩

theorem Store.nodup_activeDispatches (s : Store) (runId : Uuid) :
    ((s.activeDispatches runId).map DispatchRow.id).Nodup :=
  ((perm_orderBy _ _).map _).nodup_iff.2 (s.dispatches.nodup_keys_filter _)

theorem activeDispatches_loop {β : Type} {f : DispatchRow → CoordinatorResult β} {s' : Store}
    {runId : Uuid} {Q : List β → Store → Prop} (w : Walk R A s s'.ledger)
    (round : ∀ row s₁, row.status.isActive → s₁.ledger.dispatches row.id = some row →
      (s.ledger.tasks row.taskId).map TaskRecord.runId = some runId → Walk R A s s₁.ledger →
      (f row).wlp (fun _ s₂ => Walk R A s s₂.ledger ∧
        ∀ d, d ≠ row.id → s₂.ledger.dispatches d = s₁.ledger.dispatches d) s₁)
    (k : ∀ as s'', Walk R A s s''.ledger → Q as s'') :
    (Tx.traverse f (s'.activeDispatches runId)).wlp Q s' := by
  refine Tx.wlp_mono (Tx.wlp_traverse (I := fun pre _ s₁ => Walk R A s s₁.ledger ∧
    ∀ d, d ∉ pre.map DispatchRow.id → s₁.ledger.dispatches d = s'.ledger.dispatches d) ?_ ?_) ?_
  · exact ⟨w, fun _ _ => rfl⟩
  · rintro pre row post hsplit as s₁ ⟨w₁, hsame⟩
    have hmem : row ∈ s'.activeDispatches runId := by simp [hsplit]
    have hnodup := s'.nodup_activeDispatches runId
    rw [hsplit, List.map_append, List.map_cons] at hnodup
    have hnew : row.id ∉ pre.map DispatchRow.id := fun hp =>
      List.disjoint_of_nodup_append hnodup hp List.mem_cons_self
    obtain ⟨found, hactive, hrun⟩ := Store.mem_activeDispatches hmem
    rw [w.owners] at hrun
    refine Tx.wlp_mono (round row s₁ hactive ((hsame _ hnew).trans found) hrun w₁) ?_
    rintro a s₂ ⟨w₂, hsame₂⟩
    refine ⟨w₂, fun d hd => ?_⟩
    rw [List.map_append, List.mem_append, not_or] at hd
    rw [hsame₂ d (by simpa using hd.2), hsame d hd.1]
  · rintro as s'' ⟨w'', -⟩
    exact k as s'' w''

theorem wlp_resetTask {taskId : Uuid} {observedAt : Nat} {task : TaskRecord}
    {Q : Unit → Store → Prop} (row : s.ledger.tasks taskId = some task)
    (k : ∀ s' task', task'.id = taskId →
      (task.status = .dispatched ∧ task'.status = .ready ∧ task'.Revises task ∨
        task.status ≠ .dispatched ∧ task' = task) →
      s'.ledger = s.ledger.putTask task' → Q () s') : (resetTask taskId observedAt).wlp Q s := by
  refine wlp_updateTasks fun s' h => ?_
  have hid := Store.task_id row
  rw [modifyAll_eq_update row fun i b hi hb => by simp [Store.task_id hb, hi]] at h
  by_cases hd : task.status = .dispatched
  · simp only [hid, hd, decide_true, Bool.and_self, if_true] at h
    refine k s'
      { task with status := .ready, revision := task.revision + 1, updatedAt := stored observedAt }
      hid (.inl ⟨hd, rfl, ⟨rfl, rfl, rfl, rfl, Nat.lt_succ_self _⟩⟩) (h.trans ?_)
    simp only [Ledger.putTask, hid]
  · simp only [hid, hd, decide_true, decide_false, Bool.and_false, Bool.false_eq_true, if_false] at h
    refine k s' task hid (.inr ⟨hd, rfl⟩) (h.trans ?_)
    simp only [Ledger.putTask, hid]

theorem Walk.task {L : Ledger} {taskId runId : Uuid} (w : Walk R A s L)
    (h : (s.ledger.tasks taskId).map TaskRecord.runId = some runId) :
    ∃ task, L.tasks taskId = some task := by
  rw [← w.owners] at h
  obtain ⟨task, htask, _⟩ := Option.map_eq_some_iff.1 h
  exact ⟨task, htask⟩

theorem Walk.expire {L L' : Ledger} {gates : Uuid → Option DecisionGateRecord} (w : Walk R A s L)
    (hl : A L .expireGates) (hL : L' = { L with gates })
    (absent : ∀ i, gates i = none ↔ L.gates i = none)
    (expired : ∀ i new, gates i = some new → L.gates i = some new ∨
      ∃ old, L.gates i = some old ∧ new.Rewrites old ∧ old.status = .pending ∧
        new.status = .timeout ∧ new.resolution = old.resolution) : Walk R A s L' := by
  subst hL
  exact w.aside hl (.expireGates gates absent expired) rfl rfl rfl

theorem expiredGate_pending {runId : Uuid} {now : Nat} {gate : DecisionGateRecord}
    (h : expiredGate runId now gate) : gate.status = .pending := by
  simp only [expiredGate, Bool.and_eq_true, decide_eq_true_eq] at h
  exact h.1.2

theorem expireGates_loop {s' : Store} {runId : Uuid} {now : Nat} {Q : List Uuid → Store → Prop}
    (w : Walk R A s s'.ledger) (allowed : ∀ L, A L .expireGates)
    (k : ∀ as s'', Walk R A s s''.ledger → Q as s'') :
    (Tx.traverse (expireGate now)
      ((orderBy gateOrder (s'.gates.rows.filter (expiredGate runId now))).map
        DecisionGateRecord.id)).wlp Q s' := by
  refine Tx.wlp_mono (Tx.wlp_traverse (I := fun pre _ s₁ => Walk R A s s₁.ledger ∧
    ∀ i, i ∉ pre → s₁.ledger.gates i = s'.ledger.gates i) ?_ ?_) ?_
  · exact ⟨w, fun _ _ => rfl⟩
  · rintro pre i post hsplit as s₁ ⟨w₁, hsame⟩
    have hnodup : ((orderBy gateOrder (s'.gates.rows.filter (expiredGate runId now))).map
        DecisionGateRecord.id).Nodup :=
      ((perm_orderBy _ _).map _).nodup_iff.2 (s'.gates.nodup_keys_filter _)
    have hmem : i ∈ (orderBy gateOrder (s'.gates.rows.filter (expiredGate runId now))).map
        DecisionGateRecord.id := by simp [hsplit]
    rw [hsplit] at hnodup
    have hnew : i ∉ pre := fun hp => List.disjoint_of_nodup_append hnodup hp List.mem_cons_self
    obtain ⟨gate, hgate, rfl⟩ := List.mem_map.1 hmem
    rw [mem_orderBy, List.mem_filter] at hgate
    have row : s₁.ledger.gates gate.id = some gate :=
      (hsame _ hnew).trans (Store.mem_rows_gates.1 hgate.1)
    simp only [expireGate, Tx.wlp_bind, Tx.wlp_pure]
    refine wlp_updateGate row fun s₂ h₂ => ⟨?_, fun j hj => ?_⟩
    · refine w₁.expire (allowed _) h₂ (fun j => ?_) fun j new hj => ?_
      · by_cases h : j = gate.id
        · subst h; simp [row]
        · simp [h]
      · rcases update_eq_some.1 hj with ⟨rfl, rfl⟩ | ⟨_, hj⟩
        · exact .inr ⟨gate, row, ⟨rfl, rfl, rfl, rfl⟩, expiredGate_pending hgate.2, rfl, rfl⟩
        · exact .inl hj
    · rw [List.mem_append, not_or, List.mem_singleton] at hj
      rw [h₂, Ledger.putGate_gates, Function.update_of_ne hj.2, hsame j hj.1]
  · rintro as s'' ⟨w'', -⟩
    exact k as s'' w''

end Restart

section AfterRestart

def SameWorker (old row : DispatchRow) : Prop :=
  old.status.isActive ∧ old.taskId = row.taskId ∧ old.agentInstanceId = row.agentInstanceId

theorem Store.interrupted_of_owner {taskId runId : Uuid} {old : DispatchRow}
    (h : (s.ledger.tasks taskId).map TaskRecord.runId = some runId)
    (hrun : runId ∈ s.interruptedRuns) (htask : old.taskId = taskId) : s.Interrupted old := by
  obtain ⟨task, hrow, rfl⟩ := Option.map_eq_some_iff.1 h
  exact ⟨task, htask ▸ hrow, hrun⟩

theorem restartDispatch_round {request : RestartReconciliationRequest} {row : DispatchRow}
    {runId : Uuid} {s₁ : Store} (fresh : s.operations.find operationId = none)
    (hrun : runId ∈ s.interruptedRuns) (hactive : row.status.isActive)
    (found : s₁.ledger.dispatches row.id = some row)
    (owner : (s.ledger.tasks row.taskId).map TaskRecord.runId = some runId)
    (w : Walk SameWorker (Permits s ⟨operationId, env, .reconcileAfterRestart request⟩) s s₁.ledger) :
    (restartDispatch env request.nowMillis row).wlp (fun _ s₂ =>
      Walk SameWorker (Permits s ⟨operationId, env, .reconcileAfterRestart request⟩) s s₂.ledger ∧
        ∀ d, d ≠ row.id → s₂.ledger.dispatches d = s₁.ledger.dispatches d) s₁ := by
  simp only [restartDispatch, Tx.wlp_bind, wlp_readDispatch]
  intro row' found' hid
  obtain rfl : row' = row := by
    rw [hid, found] at found'
    exact (Option.some.inj found').symm
  obtain ⟨task, htask⟩ := w.task owner
  obtain ⟨first, hfirst, hfirstActive, hfirstTask, hfirstAgent⟩ := w.rows _ _ found hactive
  split
  · simp only [Tx.wlp_bind, Tx.wlp_pure]
    refine wlp_updateDispatch found fun s₂ new hnew h₂ => ?_
    have htask₂ : s₂.ledger.tasks row'.taskId = some task := by rw [h₂]; exact htask
    refine wlp_resetTask htask₂ fun s₃ task' hid' hreset h₃ => ?_
    have hnewid : new.id = row'.id := by rw [hnew]
    have h₃' : s₃.ledger = (s₁.ledger.putDispatch new).putTask task' := by rw [h₃, h₂]
    refine ⟨?_, fun d hd => ?_⟩
    · rw [h₃']
      exact w.release (by trivial) (hnewid ▸ found) (by rw [hnew]) hactive (by rw [hnew])
        (hid' ▸ htask) hid' hreset
    · rw [h₃', Ledger.putTask_dispatches, Ledger.putDispatch_dispatches, hnewid,
        Function.update_of_ne hd]
  · rename_i agentId hagentId
    have hagentId : row'.agentInstanceId = some agentId := hagentId
    simp only [Tx.wlp_bind, wlp_readAgent, Tx.wlp_ite, Tx.wlp_pure]
    intro agent hagent
    refine ⟨fun hresumable => ?_, fun hlost => ?_⟩
    · refine wlp_updateAgents (by intro a; rfl) fun s₂ agents h₂ hagents => ?_
      have w₂ := w.agents (by trivial) hagents
      rw [← h₂] at w₂
      have found₂ : s₂.ledger.dispatches row'.id = some row' := by rw [h₂]; exact found
      refine wlp_updateDispatch found₂ fun s₃ new hnew h₃ => ?_
      have hnewid : new.id = row'.id := by rw [hnew]
      have hwaiting : new.status = .waiting := by rw [hnew]
      refine ⟨?_, fun d hd => ?_⟩
      · rw [h₃]
        refine w₂.advance ?_ (hnewid ▸ found₂) (by rw [hnew]) hactive (.inr hwaiting) ?_
        · intro hrunning
          rw [hwaiting] at hrunning
          cases hrunning
        · rintro old ⟨h, htask, hagent⟩
          exact ⟨h, htask.trans (by rw [hnew]), hagent.trans (by rw [hnew])⟩
      · rw [h₃, Ledger.putDispatch_dispatches, hnewid, Function.update_of_ne hd, h₂]
    · refine wlp_updateAgents (by intro a; rfl) fun s₂ agents h₂ hagents => ?_
      have w₂ := w.agents (by trivial) hagents
      rw [← h₂] at w₂
      have found₂ : s₂.ledger.dispatches row'.id = some row' := by rw [h₂]; exact found
      refine wlp_updateDispatch found₂ fun s₃ new hnew h₃ => ?_
      have hnewid : new.id = row'.id := by rw [hnew]
      have htask₂ : s₂.ledger.tasks row'.taskId = some task := by rw [h₂]; exact htask
      have htask₃ : s₃.ledger.tasks row'.taskId = some task := by rw [h₃]; exact htask₂
      refine wlp_setTaskStatus htask₃ fun s₄ task' revises hblocked h₄ => ?_
      have howner : task'.id = row'.taskId := revises.id.trans (Store.task_id htask)
      have h₄' : s₄.ledger = (s₂.ledger.putDispatch new).putTask task' := by rw [h₄, h₃]
      refine ⟨?_, fun d hd => ?_⟩
      · rw [h₄']
        refine w₂.block ?_ (hnewid ▸ found₂) (by rw [hnew]) hactive (by rw [hnew])
          (howner ▸ htask₂) howner revises hblocked
        have hres := w.resumable agentId
        rw [hagent, Option.map_some] at hres
        obtain ⟨agent₀, hagent₀, hres₀⟩ := Option.map_eq_some_iff.1 hres.symm
        refine ⟨first, hnewid ▸ hfirst, hfirstActive, hfirstTask.trans howner.symm, by simp, fresh,
          Store.interrupted_of_owner owner hrun hfirstTask, agentId, agent₀, hfirstAgent.trans hagentId, hagent₀, ?_⟩
        rw [hres₀]
        exact Bool.eq_false_iff.2 hlost
      · rw [h₄', Ledger.putTask_dispatches, Ledger.putDispatch_dispatches, hnewid,
          Function.update_of_ne hd, h₂]

theorem restartRun_round {request : RestartReconciliationRequest} {runId : Uuid} {s' : Store}
    {result : RestartReconciliationResult} (fresh : s.operations.find operationId = none)
    (hrun : runId ∈ s.interruptedRuns)
    (w : Walk SameWorker (Permits s ⟨operationId, env, .reconcileAfterRestart request⟩) s s'.ledger) :
    (restartRun env operationId request.nowMillis result runId).wlp (fun _ s'' =>
      Walk SameWorker (Permits s ⟨operationId, env, .reconcileAfterRestart request⟩) s s''.ledger)
      s' := by
  simp only [restartRun, Tx.wlp_bind, Tx.wlp_gets, wlp_readRun, Tx.wlp_ite, Tx.wlp_pure]
  refine activeDispatches_loop w (fun row s₁ hactive found owner w₁ =>
    restartDispatch_round fresh hrun hactive found owner w₁) fun outcomes s₁ w₁ => ?_
  refine expireGates_loop w₁ (fun _ => by trivial) fun timedOut s₂ w₂ => ?_
  refine ⟨fun _ => ?_, fun _ => w₂⟩
  intro run row _
  refine w₂.bumpRefresh row (fun _ _ => by trivial) (fun _ _ _ _ hold h => absurd h hold)
    fun run' s₃ w₃ => wlp_insertEvent fun s₄ h₄ => ?_
  rw [h₄]
  exact w₃

theorem reconcileAfterRestart_outcome {request : RestartReconciliationRequest} :
    (reconcileAfterRestart platform env operationId request).wlp
      (fun _ s' => Outcome s ⟨operationId, env, .reconcileAfterRestart request⟩ s'.ledger) s := by
  refine wlp_mutate (.refl s _) fun fresh => ?_
  simp only [Tx.wlp_bind, Tx.wlp_gets, Tx.wlp_pure]
  refine Tx.wlp_mono (Tx.wlp_fold (I := fun _ s' =>
    Walk SameWorker (Permits s ⟨operationId, env, .reconcileAfterRestart request⟩) s s'.ledger) ?_
    fun runId hrun result s' w => restartRun_round fresh hrun w) ?_
  · exact .refl fun row hactive => ⟨hactive, rfl, rfl⟩
  · exact fun _ s' w => ⟨w.chain, fun _ _ h => h.elim⟩

end AfterRestart

section DaemonRestart

theorem reconcileRestartedDispatch_round {observedAt : Nat} {row : DispatchRow} {runId : Uuid}
    {s₁ : Store} (hrun : runId ∈ s.interruptedRuns) (hactive : row.status.isActive)
    (found : s₁.ledger.dispatches row.id = some row)
    (owner : (s.ledger.tasks row.taskId).map TaskRecord.runId = some runId)
    (w : Walk Eq (Permits s ⟨operationId, env, .reconcileDaemonRestart observedAt⟩) s s₁.ledger) :
    (reconcileRestartedDispatch env observedAt row).wlp (fun _ s₂ =>
      Walk Eq (Permits s ⟨operationId, env, .reconcileDaemonRestart observedAt⟩) s s₂.ledger ∧
        ∀ d, d ≠ row.id → s₂.ledger.dispatches d = s₁.ledger.dispatches d) s₁ := by
  simp only [reconcileRestartedDispatch, Tx.wlp_bind, wlp_readDispatch, Tx.wlp_ite, Tx.wlp_pure]
  intro row' found' hid
  obtain rfl : row' = row := by
    rw [hid, found] at found'
    exact (Option.some.inj found').symm
  obtain ⟨task, htask⟩ := w.task owner
  obtain ⟨first, hfirst, rfl⟩ := w.rows _ _ found hactive
  refine ⟨fun _ => ⟨w, fun _ _ => trivial⟩, fun _ => ⟨fun _ => ?_, fun hpending => ?_⟩⟩
  · refine wlp_updateDispatch found fun s₂ new hnew h₂ => ?_
    have hnewid : new.id = first.id := by rw [hnew]
    have htask₂ : s₂.ledger.tasks first.taskId = some task := by rw [h₂]; exact htask
    refine wlp_resetTask htask₂ fun s₃ task' hid' hreset h₃ => ?_
    have h₃' : s₃.ledger = (s₁.ledger.putDispatch new).putTask task' := by rw [h₃, h₂]
    refine ⟨?_, fun d hd => ?_⟩
    · rw [h₃']
      exact w.release (by trivial) (hnewid ▸ found) (by rw [hnew]) hactive (by rw [hnew])
        (hid' ▸ htask) hid' hreset
    · rw [h₃', Ledger.putTask_dispatches, Ledger.putDispatch_dispatches, hnewid,
        Function.update_of_ne hd]
  · have hpending : first.status ≠ .pending := hpending
    refine wlp_updateDispatch found fun s₂ new hnew h₂ => ?_
    have hnewid : new.id = first.id := by rw [hnew]
    have htask₂ : s₂.ledger.tasks first.taskId = some task := by rw [h₂]; exact htask
    refine wlp_setTaskStatus htask₂ fun s₃ task' revises hblocked h₃ => ?_
    have howner : task'.id = first.taskId := revises.id.trans (Store.task_id htask)
    have h₃' : s₃.ledger = (s₁.ledger.putDispatch new).putTask task' := by rw [h₃, h₂]
    refine wlp_updateAgents (by intro a; rfl) fun s₄ agents h₄ hagents => ⟨?_, fun d hd => ?_⟩
    · rw [h₃'] at hagents h₄
      rw [h₄]
      refine Walk.agents (w.block ?_ (hnewid ▸ found) (by rw [hnew]) hactive (by rw [hnew])
        (howner ▸ htask) howner revises hblocked) (by trivial) hagents
      exact ⟨first, hnewid ▸ hfirst, hactive, howner.symm, by simp, hpending,
        Store.interrupted_of_owner owner hrun rfl⟩
    · rw [h₄, h₃']
      change ((s₁.ledger.putDispatch new).putTask task').dispatches d = _
      rw [Ledger.putTask_dispatches, Ledger.putDispatch_dispatches, hnewid, Function.update_of_ne hd]

theorem reconcileRestartedRun_round {observedAt : Nat} {runId : Uuid} {s' : Store}
    {reconciled : List Uuid} (hrun : runId ∈ s.interruptedRuns)
    (w : Walk Eq (Permits s ⟨operationId, env, .reconcileDaemonRestart observedAt⟩) s s'.ledger) :
    (reconcileRestartedRun env operationId observedAt reconciled runId).wlp (fun _ s'' =>
      Walk Eq (Permits s ⟨operationId, env, .reconcileDaemonRestart observedAt⟩) s s''.ledger)
      s' := by
  simp only [reconcileRestartedRun, Tx.wlp_bind, Tx.wlp_gets, wlp_readRun, Tx.wlp_ite, Tx.wlp_pure]
  refine activeDispatches_loop w (fun row s₁ hactive found owner w₁ =>
    reconcileRestartedDispatch_round hrun hactive found owner w₁) fun changes s₁ w₁ => ?_
  refine wlp_updateGates fun s₂ h₂ => ?_
  have w₂ := w₁.expire (by trivial) h₂ (fun i => modifyAll_eq_none) fun i new hi => by
    obtain ⟨old, hold, hnew⟩ := modifyAll_eq_some.1 hi
    split at hnew
    · rename_i hexpired
      subst hnew
      exact .inr ⟨old, hold, ⟨rfl, rfl, rfl, rfl⟩, expiredGate_pending hexpired, rfl, rfl⟩
    · exact .inl (hnew ▸ hold)
  refine ⟨fun _ => ?_, fun _ => w₂⟩
  intro run row _
  refine w₂.bumpRefresh row (fun _ _ => by trivial) (fun _ _ _ _ hold h => absurd h hold)
    fun run' s₃ w₃ => wlp_insertEvent fun s₄ h₄ => ?_
  rw [h₄]
  exact w₃

theorem reconcileDaemonRestart_outcome {observedAt : Nat} :
    (reconcileDaemonRestart env operationId observedAt).wlp
      (fun _ s' => Outcome s ⟨operationId, env, .reconcileDaemonRestart observedAt⟩ s'.ledger) s := by
  simp only [reconcileDaemonRestart, Tx.wlp_atomically, Tx.wlp_bind, Tx.wlp_gets, Tx.wlp_pure]
  refine Tx.wlp_mono (Tx.wlp_fold (I := fun _ s' =>
    Walk Eq (Permits s ⟨operationId, env, .reconcileDaemonRestart observedAt⟩) s s'.ledger) ?_
    fun runId hrun result s' w => reconcileRestartedRun_round hrun w) ?_
  · exact .refl fun row _ => rfl
  · exact fun _ s' w => ⟨w.chain, fun _ _ h => h.elim⟩

end DaemonRestart

section PaneExit

theorem recordPaneExit_outcome {paneId : Uuid} {exitCode : Option Int} {observedAt : Nat} :
    (recordPaneExit env operationId paneId exitCode observedAt).wlp
      (fun _ s' => Outcome s ⟨operationId, env, .recordPaneExit paneId exitCode observedAt⟩ s'.ledger)
      s := by
  simp only [recordPaneExit, Tx.wlp_atomically, Tx.wlp_bind, Tx.wlp_gets]
  split
  · simp only [Tx.wlp_pure]
    exact .refl s _
  · rename_i dispatchId hpane
    simp only [Tx.wlp_bind, wlp_readDispatch, wlp_readTask, Tx.wlp_ite, Tx.wlp_pure,
      failExitedDispatch, wlp_readRun]
    rintro row found rfl
    refine wlp_updateResource fun s₁ h₁ => ?_
    have found₁ : s₁.ledger.dispatches row.id = some row := by rw [h₁]; exact found
    refine wlp_updateDispatch found₁ fun s₂ cleared hcleared h₂ => ?_
    have hid : cleared.id = row.id := by rw [hcleared]
    have hstatus : cleared.status = row.status := by rw [hcleared]
    have htaskId : cleared.taskId = row.taskId := by rw [hcleared]
    refine wlp_updateAgents (by intro a; rfl) fun s₃ agents h₃ hagents => ?_
    have c₂ : Chain Move (Permits s ⟨operationId, env, .recordPaneExit paneId exitCode observedAt⟩)
        s.ledger s₂.ledger :=
      .step (by rw [h₁]; exact .refl) h₂ (by trivial)
        (.reviseDispatch (hid ▸ found₁) htaskId hstatus)
    have c₃ := c₂.step h₃ (by trivial) (.reviseAgents agents hagents)
    have found₃ : s₃.ledger.dispatches row.id = some cleared := by
      rw [h₃, h₂, ← hid]
      exact Function.update_self _ _ _
    intro task htask howner
    refine ⟨fun hfail => ?_, fun _ _ _ _ => ⟨c₃, fun _ _ h => h.elim⟩⟩
    have hactive : row.status.isActive := hfail.1
    have howner : task.id = row.taskId := howner
    refine wlp_updateDispatch found₃ fun s₄ failed hfailed h₄ => ?_
    have hid₄ : failed.id = row.id := by rw [hfailed, ← hid]
    have htask₄ : s₄.ledger.tasks task.id = some task := by rw [h₄]; exact htask
    refine wlp_setTaskStatus htask₄ fun s₅ task' revises hblocked h₅ => ?_
    have c₅ := c₃.step (h₅.trans (by rw [h₄])) (by
        exact ⟨row, hid₄ ▸ found, hactive, howner.symm.trans revises.id.symm, by simp [hfailed],
          hpane, by simpa [Store.dispatchRecord, Option.bind_map, Function.comp_def] using hfail.2⟩)
      (.finish (hid₄ ▸ found₃) (by rw [hfailed]) (by rw [hstatus]; exact hactive)
        (by rw [hfailed]; rfl) (revises.id ▸ htask)
        ((revises.id.trans howner).trans htaskId.symm) revises
        (.inr ⟨by rw [hfailed]; simp, .inr (.inr hblocked)⟩))
    refine wlp_updateAgents (by intro a; rfl) fun s₆ agents' h₆ hagents' => ?_
    have c₆ := c₅.step h₆ (by trivial) (.reviseAgents agents' hagents')
    intro run hrun _
    refine wlp_bumpRunRevision hrun fun s₇ h₇ => ?_
    have c₇ := c₆.step h₇ (by trivial) (.bumpRun hrun env.now)
    refine wlp_refresh_chain c₇ (by simp [h₇]) (fun _ _ _ _ hold h => absurd h hold)
      fun run' s₈ c₈ _ _ _ => wlp_insertEvent fun s₉ h₉ => ?_
    intro _ _ _
    rw [h₉]
    exact ⟨c₈, fun _ _ h => h.elim⟩

end PaneExit

end VibeLink.Coordinator
