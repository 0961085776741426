import VibeLink.Coordinator.Refinement

namespace VibeLink.Coordinator

open VibeLink.Relational

variable {platform : Platform} {env : Env} {operationId : Uuid} {s : Store}

theorem createRun_outcome {request : CreateRunRequest} :
    (createRun platform env operationId request).wlp
      (fun _ s' => Outcome s ⟨operationId, env, .createRun request⟩ s'.ledger) s := by
  simp only [createRun, Tx.wlp_bind, Tx.wlp_require, Tx.wlp_ofExcept]
  intro _ goal _ _
  refine wlp_mutate (.refl s _) fun _ => ?_
  simp only [Tx.wlp_bind, Tx.wlp_pure]
  refine wlp_insertRun fun fresh s₁ h₁ => wlp_insertEvent fun s₂ h₂ => ?_
  rw [h₂, h₁]
  exact ⟨.single (by trivial) (.openRun fresh rfl), fun _ _ h => h.elim⟩

theorem startRun_outcome {request : RunRevisionRequest} :
    (startRun platform env operationId request).wlp
      (fun _ s' => Outcome s ⟨operationId, env, .startRun request⟩ s'.ledger) s := by
  refine wlp_mutate (.refl s _) fun _ => ?_
  simp only [Tx.wlp_bind, wlp_readRun, wlp_requireRunRevision, Tx.wlp_require, Tx.wlp_pure]
  intro run row hid hrev hstatus
  refine wlp_updateRunStatus row fun s₁ h₁ => wlp_insertEvent fun s₂ h₂ => ?_
  rw [h₂, h₁]
  refine ⟨.single ?_ (.setRun row (by decide) env.now), ?_⟩
  · intro hold
    simp [hold] at hstatus
  · rintro r e ⟨rfl, rfl⟩
    exact .inl ⟨rfl, rfl, rfl⟩

theorem requireDependencies {runId : Uuid} {dependencies : List Uuid}
    {Q : List Unit → Store → Prop}
    (k : (∀ d ∈ dependencies, ∃ t, s.ledger.tasks d = some t ∧ t.runId = runId) → ∀ as, Q as s) :
    (Tx.traverse (requireDependency runId) dependencies).wlp Q s := by
  refine Tx.wlp_mono (Tx.wlp_traverse (I := fun pre _ s' =>
    s' = s ∧ ∀ d ∈ pre, ∃ t, s.ledger.tasks d = some t ∧ t.runId = runId) (by simp) ?_) ?_
  · rintro pre d post _ as s' ⟨rfl, hpre⟩
    simp only [requireDependency, Tx.wlp_bind, wlp_readTask, Tx.wlp_require]
    rintro task row rfl hrun
    refine ⟨trivial, fun d hd => ?_⟩
    rcases List.mem_append.1 hd with hd | hd
    · exact hpre d hd
    · exact ⟨task, List.mem_singleton.1 hd ▸ row, hrun⟩
  · rintro as s' ⟨rfl, hall⟩
    exact k hall as

theorem createTask_outcome {request : CreateTaskRequest} :
    (createTask platform env operationId request).wlp
      (fun _ s' => Outcome s ⟨operationId, env, .createTask request⟩ s'.ledger) s := by
  simp only [createTask, Tx.wlp_bind, Tx.wlp_ofExcept]
  intro title _
  refine wlp_mutate (.refl s _) fun _ => ?_
  simp only [Tx.wlp_bind, wlp_readRun, wlp_requireRunRevision, Tx.wlp_require, Tx.wlp_gets,
    Tx.wlp_pure]
  intro run row hid hrev _
  refine requireDependencies fun hdeps _ => wlp_insertTask fun fresh s₁ h₁ => ?_
  have row₁ : s₁.ledger.runs run.id = some run := h₁ ▸ row
  refine wlp_bumpRunRevision row₁ fun s₂ h₂ => wlp_insertEvent fun s₃ h₃ => ?_
  rw [h₃]
  refine ⟨.step (.step .refl h₁ ?_ (.addTask fresh ?_ rfl hdeps ?_)) h₂ ?_ (.bumpRun row₁ env.now),
    ?_⟩
  · trivial
  · simp [row]
  · intro i t ht hrun
    exact s.position_lt_nextPosition ht hrun
  · trivial
  · rintro r e ⟨rfl, rfl⟩
    exact .inr (fence_of_put row hid hrev h₂ rfl (Nat.lt_succ_self _))

def Schedules : Label → Prop
  | .promote _ | .block _ | .dispatch _ _ | .bumpRun _ => True
  | .setRun _ old _ => old ≠ .cancelled
  | _ => False

/-- Scheduling so far: of the tasks only those named in `pre` have changed. -/
structure Scheduled (s : Store) (pre : List Uuid) (L : Ledger) : Prop where
  chain : Chain Move (fun _ => Schedules) s.ledger L
  runs : L.runs = s.ledger.runs
  gates : L.gates = s.ledger.gates
  claims : L.claims = s.ledger.claims
  launches : L.launches = s.ledger.launches
  untouched : ∀ t, t ∉ pre → L.tasks t = s.ledger.tasks t
  places : ∀ t, (L.tasks t).map TaskRecord.place = (s.ledger.tasks t).map TaskRecord.place

theorem Scheduled.refl (s : Store) : Scheduled s [] s.ledger :=
  ⟨.refl, rfl, rfl, rfl, rfl, fun _ _ => rfl, fun _ => rfl⟩

theorem Scheduled.skip {pre : List Uuid} {L : Ledger} (h : Scheduled s pre L) (t : Uuid) :
    Scheduled s (pre ++ [t]) L :=
  { h with untouched := fun u hu => h.untouched u fun hm => hu (List.mem_append_left _ hm) }

theorem Scheduled.put {pre : List Uuid} {L L' : Ledger} {old new : TaskRecord} {l : Label}
    (h : Scheduled s pre L) (row : L.tasks new.id = some old) (revises : new.Revises old)
    (hl : Schedules l) (hm : Move l L L') (htasks : L'.tasks = (L.putTask new).tasks)
    (hruns : L'.runs = L.runs) (hgates : L'.gates = L.gates) (hclaims : L'.claims = L.claims)
    (hlaunches : L'.launches = L.launches) : Scheduled s (pre ++ [new.id]) L' where
  chain := h.chain.snoc hl hm
  runs := hruns.trans h.runs
  gates := hgates.trans h.gates
  claims := hclaims.trans h.claims
  launches := hlaunches.trans h.launches
  untouched t ht := by
    rw [List.mem_append, not_or, List.mem_singleton] at ht
    rw [htasks, Ledger.putTask_tasks, Function.update_of_ne ht.2, h.untouched t ht.1]
  places t := by
    rw [← h.places t, htasks, Ledger.putTask_tasks]
    by_cases ht : t = new.id
    · subst ht
      simp [row, TaskRecord.place, revises.runId, revises.position]
    · rw [Function.update_of_ne ht]

theorem Scheduled.owners {pre : List Uuid} {L : Ledger} (h : Scheduled s pre L) (t : Uuid) :
    (L.tasks t).map TaskRecord.runId = (s.ledger.tasks t).map TaskRecord.runId := by
  have hplace := congrArg (Option.map Prod.fst) (h.places t)
  rwa [Option.map_map, Option.map_map] at hplace

theorem settle_loop {runId : Uuid} {Q : List (Uuid × Readiness) → Store → Prop}
    (k : ∀ settled s', Scheduled s ((s.tasksWithStatus runId .pending).map TaskRecord.id) s'.ledger →
      s'.ledger.dispatches = s.ledger.dispatches →
      ((∀ r ∈ settled, r.2 = .unchanged) → s'.ledger = s.ledger) → Q settled s') :
    (Tx.traverse (settlePendingTask env) ((s.tasksWithStatus runId .pending).map TaskRecord.id)).wlp
      Q s := by
  refine Tx.wlp_mono (Tx.wlp_traverse (I := fun pre settled s' => Scheduled s pre s'.ledger ∧
    s'.ledger.dispatches = s.ledger.dispatches ∧
    ((∀ r ∈ settled, r.2 = .unchanged) → s'.ledger = s.ledger)) ?_ ?_) ?_
  · exact ⟨.refl s, rfl, fun _ => rfl⟩
  · rintro pre t post hsplit settled s' ⟨h, hd, hsame⟩
    -- the task is still the pending row that the query saw: no earlier round was about it
    have hnodup := s.nodup_tasksWithStatus runId .pending
    have hmem : t ∈ (s.tasksWithStatus runId .pending).map TaskRecord.id := by simp [hsplit]
    rw [hsplit] at hnodup
    have hpre : t ∉ pre := fun hp =>
      List.disjoint_of_nodup_append hnodup hp List.mem_cons_self
    obtain ⟨task, htask, rfl⟩ := List.mem_map.1 hmem
    obtain ⟨row, _, hpending⟩ := Store.mem_tasksWithStatus.1 htask
    rw [← h.untouched _ hpre] at row
    simp only [settlePendingTask, Tx.wlp_bind, Tx.wlp_gets, Tx.wlp_ite, Tx.wlp_pure]
    refine ⟨fun _ => ?_, fun _ => ⟨fun hmet => ?_, fun _ => ⟨h.skip _, hd, ?_⟩⟩⟩
    · refine wlp_setTaskStatus row fun s₁ new hnew hstatus h₁ => ?_
      rw [h₁, ← hnew.id]
      rw [← hnew.id] at row
      refine ⟨h.put row hnew (by trivial) (.block row hnew hpending hstatus) rfl rfl rfl rfl rfl, hd,
        fun hall => ?_⟩
      simpa using hall (new.id, .blocked) (by simp)
    · refine wlp_setTaskStatus row fun s₁ new hnew hstatus h₁ => ?_
      have hmet := s'.dependenciesMet row hmet
      rw [h₁, ← hnew.id]
      rw [← hnew.id] at row
      refine ⟨h.put row hnew (by trivial) (.promote row hnew hpending hstatus hmet) rfl rfl rfl rfl
        rfl, hd, fun hall => ?_⟩
      simpa using hall (new.id, .ready) (by simp)
    · exact fun hall => hsame fun r hr => hall r (List.mem_append_left _ hr)
  · rintro settled s' ⟨h, hd, hsame⟩
    exact k settled s' h hd hsame

/-- The dispatches made so far, one for each task of `pre`. -/
structure Dispatched (s : Store) (runId : Uuid) (pre : List Uuid) (made : List DispatchRecord)
    (L : Ledger) : Prop extends Scheduled s pre L where
  count : L.ActiveBelow runId (s.activeCount runId + pre.length + 1)
  kept : ∀ d row, s.ledger.dispatches d = some row → L.dispatches d = some row
  idle : made = [] → L.dispatches = s.ledger.dispatches
  tasks : made.map (fun d => d.taskId) = pre
  rows : ∀ d ∈ made, L.dispatches d.id = some d.toDispatchRow ∧ s.ledger.dispatches d.id = none
  ids : (made.map fun d => d.id).Nodup

theorem Dispatched.refl (s : Store) (runId : Uuid) : Dispatched s runId [] [] s.ledger where
  toScheduled := .refl s
  count := fun _ hds => Nat.lt_succ_of_le (Store.card_le_activeCount hds)
  kept _ _ h := h
  idle _ := rfl
  tasks := rfl
  rows := by simp
  ids := List.nodup_nil

theorem Ledger.activeBelow_putDispatch {L L' : Ledger} {runId : Uuid} {n : Nat} {row : DispatchRow}
    (h : L.ActiveBelow runId n) (hd : L'.dispatches = (L.putDispatch row).dispatches)
    (ho : ∀ t, (L'.tasks t).map TaskRecord.runId = (L.tasks t).map TaskRecord.runId) :
    L'.ActiveBelow runId (n + 1) := by
  intro ds hds
  have hold : ∀ d ∈ ds.erase row.id, L.ActiveIn runId d := by
    intro d hmem
    obtain ⟨hne, hmem⟩ := Finset.mem_erase.1 hmem
    refine (Ledger.activeIn_congr ?_ ho).1 (hds d hmem)
    rw [hd, Ledger.putDispatch_dispatches, Function.update_of_ne hne]
  have hcard := h _ hold
  have := Finset.pred_card_le_card_erase (s := ds) (a := row.id)
  omega

theorem Dispatched.add {run : RunRecord} {task task' : TaskRecord} {pre : List Uuid}
    {made : List DispatchRecord} {L : Ledger} {d : DispatchRecord}
    (h : Dispatched s run.id pre made L) (run_row : s.ledger.runs run.id = some run)
    (live : run.status = .running ∨ run.status = .waiting)
    (room : s.activeCount run.id + pre.length < run.policy.maxConcurrent.toNat)
    (row : L.tasks task'.id = some task) (run_id : task.runId = run.id)
    (revises : task'.Revises task) (ready : task.status = .ready)
    (dispatched : task'.status = .dispatched) (fresh : L.dispatches d.id = none)
    (task_id : d.taskId = task'.id) (pending : d.status = .pending) :
    Dispatched s run.id (pre ++ [task'.id]) (made ++ [d])
      ((L.putDispatch d.toDispatchRow).putTask task') := by
  have hroom : L.ActiveBelow run.id run.policy.maxConcurrent.toNat :=
    fun ds hds => (h.count ds hds).trans_le room
  have hput : Scheduled s (pre ++ [task'.id]) ((L.putDispatch d.toDispatchRow).putTask task') :=
    h.put row revises (by trivial) (.dispatch (h.runs ▸ run_row) live row run_id revises ready
      dispatched fresh task_id pending hroom) rfl rfl rfl rfl rfl
  have hother : ∀ i, L.dispatches i ≠ none →
      ((L.putDispatch d.toDispatchRow).putTask task').dispatches i = L.dispatches i := by
    intro i hi
    refine Function.update_of_ne ?_ _ _
    rintro rfl
    exact hi fresh
  refine
    { toScheduled := hput, count := ?_, kept := ?_, idle := by simp, tasks := ?_, rows := ?_
      ids := ?_ }
  · rw [List.length_append]
    refine Ledger.activeBelow_putDispatch h.count rfl fun t => ?_
    rw [hput.owners, h.owners]
  · intro i old hold
    have hkept := h.kept i old hold
    rw [hother i (by simp [hkept]), hkept]
  · simp [h.tasks, task_id]
  · intro e he
    rcases List.mem_append.1 he with he | he
    · obtain ⟨hold, hnone⟩ := h.rows e he
      rw [hother e.id (by simp [hold])]
      exact ⟨hold, hnone⟩
    · obtain rfl := List.mem_singleton.1 he
      refine ⟨Function.update_self _ _ _, ?_⟩
      by_contra hsome
      obtain ⟨old, hold⟩ := Option.ne_none_iff_exists'.1 hsome
      simp [h.kept _ old hold] at fresh
  · rw [List.map_append, List.nodup_append]
    refine ⟨h.ids, List.nodup_singleton _, ?_⟩
    intro i hi j hj hij
    obtain ⟨e, he, rfl⟩ := List.mem_map.1 hi
    simp only [List.map_cons, List.map_nil, List.mem_singleton] at hj
    have hold := (h.rows e he).1
    simp [hij, hj, fresh] at hold

theorem dispatchReadyTask_round {run : RunRecord} {task : TaskRecord} {index : Nat} {pre : List Uuid}
    {made : List DispatchRecord} {s' : Store} (run_row : s.ledger.runs run.id = some run)
    (live : run.status = .running ∨ run.status = .waiting)
    (row : s.ledger.tasks task.id = some task) (run_id : task.runId = run.id)
    (ready : task.status = .ready) (new : task.id ∉ pre)
    (room : s.activeCount run.id + pre.length < run.policy.maxConcurrent.toNat)
    (h : Dispatched s run.id pre made s'.ledger) :
    (dispatchReadyTask env operationId run.id (task.id, index)).wlp (fun d s'' =>
      Dispatched s run.id (pre ++ [task.id]) (made ++ [d]) s''.ledger) s' := by
  simp only [dispatchReadyTask, Tx.wlp_bind, Tx.wlp_gets]
  refine wlp_insertDispatch fun fresh s₁ h₁ => ?_
  have row₁ : s₁.ledger.tasks task.id = some task := by
    rw [h₁, Ledger.putDispatch_tasks, h.untouched _ new, row]
  refine wlp_setTaskStatus row₁ fun s₂ task' revises dispatched h₂ => ?_
  refine wlp_insertEvent fun s₃ h₃ => ?_
  simp only [wlp_readDispatch]
  intro d hd hid
  rw [h₃, h₂, h₁] at hd ⊢
  simp only [hid, Ledger.putTask_dispatches, Ledger.putDispatch_dispatches, Function.update_self,
    Option.some.injEq] at hd
  rw [hd, ← revises.id]
  refine h.add (d := s₃.dispatchRecord d) run_row live room ?_ run_id revises ready dispatched ?_ ?_ ?_
  · rw [revises.id, h.untouched _ new, row]
  · rw [hd] at fresh
    exact fresh
  · rw [revises.id]
    exact (congrArg DispatchRow.taskId hd).symm
  · exact (congrArg DispatchRow.status hd).symm

/-- The tasks that one pass dispatches: ready ones, as many as the policy has room for. -/
def Store.scheduled (s : Store) (run : RunRecord) : List TaskRecord :=
  (s.tasksWithStatus run.id .ready).take
    (run.policy.maxConcurrent.toNat - s.activeCount run.id % UInt32.size)

theorem Store.nodup_scheduled (s : Store) (run : RunRecord) :
    ((s.scheduled run).map TaskRecord.id).Nodup :=
  (s.nodup_tasksWithStatus run.id .ready).sublist ((List.take_sublist _ _).map _)

theorem Store.mem_scheduled {run : RunRecord} {task : TaskRecord} (h : task ∈ s.scheduled run) :
    s.ledger.tasks task.id = some task ∧ task.runId = run.id ∧ task.status = .ready :=
  Store.mem_tasksWithStatus.1 (List.mem_of_mem_take h)

theorem Store.length_scheduled {run : RunRecord}
    (policy : s.ledger.ActiveBelow run.id (run.policy.maxConcurrent.toNat + 1)) :
    s.activeCount run.id + (s.scheduled run).length ≤ run.policy.maxConcurrent.toNat := by
  have hcount := Store.activeCount_lt policy
  have hbound : run.policy.maxConcurrent.toNat < UInt32.size := run.policy.maxConcurrent.toNat_lt
  have hlen : (s.scheduled run).length ≤
      run.policy.maxConcurrent.toNat - s.activeCount run.id % UInt32.size := List.length_take_le _ _
  rw [Nat.mod_eq_of_lt (by omega)] at hlen
  omega

theorem dispatch_loop {run : RunRecord} {Q : List DispatchRecord → Store → Prop}
    (run_row : s.ledger.runs run.id = some run)
    (live : run.status = .running ∨ run.status = .waiting)
    (policy : s.ledger.ActiveBelow run.id (run.policy.maxConcurrent.toNat + 1))
    (k : ∀ made s', Dispatched s run.id ((s.scheduled run).map TaskRecord.id) made s'.ledger →
      Q made s') :
    (Tx.traverse (dispatchReadyTask env operationId run.id)
      ((s.scheduled run).map TaskRecord.id).zipIdx).wlp Q s := by
  refine Tx.wlp_mono (Tx.wlp_traverse (I := fun pre made s' =>
    Dispatched s run.id (pre.map Prod.fst) made s'.ledger) ?_ ?_) ?_
  · exact .refl s run.id
  · rintro pre ⟨t, index⟩ post hsplit made s' h
    have hids := congrArg (List.map Prod.fst) hsplit
    rw [List.zipIdx_map_fst, List.map_append, List.map_cons] at hids
    have hmem : t ∈ (s.scheduled run).map TaskRecord.id := by simp [hids]
    have hnodup := s.nodup_scheduled run
    rw [hids] at hnodup
    have hlen := congrArg List.length hids
    simp only [List.length_map, List.length_append, List.length_cons] at hlen
    obtain ⟨task, htask, rfl⟩ := List.mem_map.1 hmem
    obtain ⟨row, run_id, ready⟩ := Store.mem_scheduled htask
    have hroom := Store.length_scheduled policy
    rw [List.map_append]
    refine dispatchReadyTask_round run_row live row run_id ready ?_ ?_ h
    · exact fun hp => List.disjoint_of_nodup_append hnodup hp List.mem_cons_self
    · simp only [List.length_map]
      omega
  · intro made s' h
    rw [List.zipIdx_map_fst] at h
    exact k made s' h

/-- What scheduling does to the ledger, and the plan it answers with. -/
structure Planned (s : Store) (runId : Uuid) (expected : Nat) (plan : ScheduleResult) (L : Ledger) :
    Prop where
  chain : Chain Move (fun _ => Schedules) s.ledger L
  claims : L.claims = s.ledger.claims
  launches : L.launches = s.ledger.launches
  fence : s.ledger.SamePlan L ∨
    s.RunAt runId expected ∧ ∃ run, L.runs runId = some run ∧ expected < run.revision
  rows : ∀ d ∈ plan.dispatches, L.dispatches d.id = some d.toDispatchRow ∧
    s.ledger.dispatches d.id = none
  ids : (plan.dispatches.map fun d => d.id).Nodup
  tasks : ∃ ready : List TaskRecord, plan.dispatches.map (fun d => d.taskId) = ready.map TaskRecord.id ∧
    ready.Pairwise (fun a b => Store.taskOrder a b) ∧ (ready.map TaskRecord.id).Nodup ∧
    ∀ t ∈ ready, t.runId = runId ∧ (L.tasks t.id).map TaskRecord.place = some t.place

/-- A pass with its run rewritten: `L` is where the pass began, `s₂` where its loops ended. -/
theorem wlp_closePass {s₁ s₂ : Store} {run run₁ : RunRecord} {L : Ledger} {unmoved : Prop}
    {Q : RunRecord → Store → Prop}
    (k : ∀ run' s' runs, Chain Move (fun _ => Schedules) L s'.ledger →
      s'.ledger = { s₂.ledger with runs } → runs run.id = some run' →
      unmoved ∨ run.revision < run'.revision → Q run' s')
    (c : Chain Move (fun _ => Schedules) L s₁.ledger) (h : s₁.ledger = s₂.ledger.putRun run₁)
    (hid : run₁.id = run.id) (hrev : unmoved ∨ run.revision < run₁.revision) :
    (refreshTerminalRunStatus env run₁).wlp Q s₁ := by
  refine wlp_refresh_chain c (by simp [h]) (fun _ _ _ _ h => h) fun run' s' c' hid' hrev' h' => ?_
  refine k run' s' _ c' (h'.trans (by rw [h]; rfl)) ?_ (hrev.imp_right fun h => h.trans_le hrev')
  rw [hid', hid, Function.update_self]

theorem settled_unchanged {settled : List (Uuid × Readiness)}
    (hready : (settled.filter fun r => decide (r.2 = .ready)).map Prod.fst = [])
    (hblocked : (settled.filter fun r => decide (r.2 = .blocked)).map Prod.fst = []) :
    ∀ r ∈ settled, r.2 = .unchanged := by
  intro r hr
  simp only [List.map_eq_nil_iff, List.filter_eq_nil_iff, decide_eq_true_eq] at hready hblocked
  cases h : r.2 with
  | ready => exact absurd h (hready r hr)
  | blocked => exact absurd h (hblocked r hr)
  | unchanged => rfl

theorem Store.pairwise_tasksWithStatus (s : Store) (runId : Uuid) (status : OrchestrationTaskStatus) :
    (s.tasksWithStatus runId status).Pairwise (fun a b => Store.taskOrder a b) := by
  refine pairwise_orderBy ?_ ?_ _
  · intro a b
    simp only [Store.taskOrder, Bool.or_eq_true, Bool.and_eq_true, decide_eq_true_eq]
    rcases Nat.lt_trichotomy a.position b.position with h | h | h
    · exact .inl (.inl h)
    · rcases String.le_total a.id b.id with hid | hid
      · exact .inl (.inr ⟨h, hid⟩)
      · exact .inr (.inr ⟨h.symm, hid⟩)
    · exact .inr (.inl h)
  · intro a b c
    simp only [Store.taskOrder, Bool.or_eq_true, Bool.and_eq_true, decide_eq_true_eq]
    rintro (hab | ⟨hab, iab⟩) (hbc | ⟨hbc, ibc⟩)
    · exact .inl (hab.trans hbc)
    · exact .inl (hbc ▸ hab)
    · exact .inl (hab ▸ hbc)
    · exact .inr ⟨hab.trans hbc, String.le_trans iab ibc⟩

theorem scheduleReadyTransaction_planned {runId : Uuid} {expected : Nat}
    {Q : ScheduleResult → Store → Prop} (policy : s.ledger.WithinPolicy)
    (k : ∀ plan s', Planned s runId expected plan s'.ledger → Q plan s') :
    (scheduleReadyTransaction env operationId runId expected).wlp Q s := by
  simp only [scheduleReadyTransaction, Tx.wlp_bind, wlp_readRun, wlp_requireRunRevision,
    Tx.wlp_require, Tx.wlp_gets, Tx.wlp_ite, Tx.wlp_pure]
  intro run row hid hrev live
  refine settle_loop fun settled s₁ h₁ hd₁ hsame => ?_
  have row₁ : s₁.ledger.runs run.id = some run := h₁.runs ▸ row
  have policy₁ : s₁.ledger.ActiveBelow run.id (run.policy.maxConcurrent.toNat + 1) :=
    fun ds hds => policy _ _ row ds fun d hd =>
      (Ledger.activeIn_congr (congrFun hd₁ d) h₁.owners).1 (hds d hd)
  refine dispatch_loop row₁ live policy₁ fun made s₂ h₂ => ?_
  have row₂ : s₂.ledger.runs run.id = some run := h₂.runs ▸ row₁
  have c₂ := h₁.chain.trans h₂.chain
  subst hid hrev
  -- the plan stands for every way in which the pass may rewrite its run
  have planned : ∀ run' s₃ runs, Chain Move (fun _ => Schedules) s.ledger s₃.ledger →
      s₃.ledger = { s₂.ledger with runs } → runs run.id = some run' →
      ((∀ r ∈ settled, r.2 = .unchanged) ∧ made = []) ∨ run.revision < run'.revision →
      Q { run := run', dispatches := made
          newlyReadyTaskIds := (settled.filter fun r => decide (r.2 = .ready)).map Prod.fst
          newlyBlockedTaskIds := (settled.filter fun r => decide (r.2 = .blocked)).map Prod.fst }
        s₃ := by
    intro run' s₃ runs c₃ h₃ hrun hrev
    refine k _ s₃
      { chain := c₃
        claims := by rw [h₃]; exact h₂.claims.trans h₁.claims
        launches := by rw [h₃]; exact h₂.launches.trans h₁.launches
        fence := hrev.imp ?_ fun hlt => ⟨⟨run, row, rfl⟩, run', by rw [h₃]; exact hrun, hlt⟩
        rows := fun d hd => by rw [h₃, ← hd₁]; exact h₂.rows d hd
        ids := h₂.ids
        tasks := ⟨s₁.scheduled run, h₂.tasks,
          (s₁.pairwise_tasksWithStatus run.id .ready).sublist (List.take_sublist _ _),
          s₁.nodup_scheduled run, fun t ht => ?_⟩ }
    · rintro ⟨hsettled, hmade⟩
      have hnone : (s₁.scheduled run).map TaskRecord.id = [] := by
        rw [← h₂.tasks, hmade, List.map_nil]
      have htasks : s₂.ledger.tasks = s₁.ledger.tasks :=
        funext fun t => h₂.untouched t (by simp [hnone])
      rw [h₃]
      refine ⟨htasks.trans ?_, (h₂.idle hmade).trans hd₁, h₂.gates.trans h₁.gates⟩
      rw [hsame hsettled]
    · obtain ⟨htask, hrun, _⟩ := Store.mem_scheduled ht
      rw [h₃]
      exact ⟨hrun, (h₂.places t.id).trans (by rw [htask, Option.map_some])⟩
  have notCancelled : run.status ≠ .cancelled := by
    rcases live with h | h <;> simp [h]
  refine ⟨fun _ => ?_, fun _ => ⟨fun _ => ?_, fun hnone => ?_⟩⟩
  · refine wlp_updateRunStatus row₂ fun s₃ h₃ =>
      wlp_closePass planned ?_ h₃ rfl (.inr (Nat.lt_succ_self _))
    exact c₂.step h₃ (by exact notCancelled) (.setRun row₂ (by decide) env.now)
  · refine wlp_bumpRunRevision row₂ fun s₃ h₃ =>
      wlp_closePass planned ?_ h₃ rfl (.inr (Nat.lt_succ_self _))
    exact c₂.step h₃ (by trivial) (.bumpRun row₂ env.now)
  · simp only [not_or, not_not] at hnone
    exact wlp_closePass planned c₂ (Ledger.putRun_self row₂).symm rfl
      (.inl ⟨settled_unchanged hnone.1 hnone.2.1, hnone.2.2⟩)

theorem Schedules.permits {call : Call} {L : Ledger} {l : Label}
    (hop : (∃ request, call.op = .scheduleReady request) ∨
      ∃ request, call.op = .prepareDispatchLaunch request) (h : Schedules l) : Permits s call L l := by
  cases l with
  | dispatch => exact hop
  | setRun runId old new => exact fun hold => absurd hold h
  | promote | block | bumpRun => trivial
  | _ => exact h.elim

theorem scheduleReady_outcome {request : ScheduleRequest} (policy : s.ledger.WithinPolicy) :
    (scheduleReady platform env operationId request).wlp
      (fun _ s' => Outcome s ⟨operationId, env, .scheduleReady request⟩ s'.ledger) s := by
  refine wlp_mutate (.refl s _) fun _ => ?_
  simp only [Tx.wlp_bind, Tx.wlp_pure]
  refine scheduleReadyTransaction_planned policy fun plan s' h => ?_
  refine ⟨h.chain.mono fun _ _ => Schedules.permits (.inl ⟨request, rfl⟩), ?_⟩
  rintro r e ⟨rfl, rfl⟩
  exact h.fence

end VibeLink.Coordinator
