import VibeLink.Coordinator.Ledger

/-! What each read and each write of the store means in its ledger. -/

namespace VibeLink.Coordinator

open VibeLink.Relational

def Store.ledger (s : Store) : Ledger where
  runs := s.runs.find
  tasks := s.tasks.find
  dispatches := s.dispatches.find
  agents := s.agents.find
  gates := s.gates.find
  launches := s.launchOperations.find
  claims := s.launchClaims.find

@[simp] theorem Store.ledger_empty : Store.empty.ledger = Ledger.empty := rfl

section Keys

variable {s : Store} {i : Uuid}

theorem Store.run_id {run : RunRecord} (h : s.ledger.runs i = some run) : run.id = i :=
  Table.key_of_find h

theorem Store.task_id {task : TaskRecord} (h : s.ledger.tasks i = some task) : task.id = i :=
  Table.key_of_find h

theorem Store.dispatch_id {row : DispatchRow} (h : s.ledger.dispatches i = some row) : row.id = i :=
  Table.key_of_find h

theorem Store.gate_id {gate : DecisionGateRecord} (h : s.ledger.gates i = some gate) : gate.id = i :=
  Table.key_of_find h

theorem Store.launch_id {launch : LaunchOperationRow} (h : s.ledger.launches i = some launch) :
    launch.operationId = i := Table.key_of_find h

end Keys

theorem Ledger.putRun_self {L : Ledger} {run : RunRecord} (h : L.runs run.id = some run) :
    L.putRun run = L := by
  simp only [Ledger.putRun, ← h, Function.update_eq_self]

section Counts

variable {s : Store} {runId dispatchId : Uuid}

theorem Store.mem_rows_dispatches {row : DispatchRow} :
    row ∈ s.dispatches.rows ↔ s.ledger.dispatches row.id = some row :=
  ⟨Table.find_of_mem, Table.mem_of_find⟩

theorem Store.mem_rows_tasks {task : TaskRecord} :
    task ∈ s.tasks.rows ↔ s.ledger.tasks task.id = some task :=
  ⟨Table.find_of_mem, Table.mem_of_find⟩

theorem Store.mem_rows_gates {gate : DecisionGateRecord} :
    gate ∈ s.gates.rows ↔ s.ledger.gates gate.id = some gate :=
  ⟨Table.find_of_mem, Table.mem_of_find⟩

theorem Store.inRun_iff {row : DispatchRow} :
    s.inRun runId row ↔ (s.ledger.tasks row.taskId).map TaskRecord.runId = some runId := by
  simp only [Store.inRun, Store.taskRun]
  exact decide_eq_true_iff

theorem Store.pendingGateCount_eq_zero :
    s.pendingGateCount dispatchId = 0 ↔ ¬s.ledger.GatePending dispatchId := by
  simp only [Store.pendingGateCount, List.countP_eq_zero, Ledger.GatePending]
  constructor
  · rintro h ⟨i, gate, hgate, hd, hp⟩
    have := h gate (Table.mem_of_find hgate)
    simp [hd, hp] at this
  · intro h gate hmem hgate
    simp only [Bool.and_eq_true, decide_eq_true_eq] at hgate
    exact h ⟨gate.id, gate, Store.mem_rows_gates.1 hmem, hgate.1, hgate.2⟩

theorem Store.activeIn_of_row {row : DispatchRow} (hmem : row ∈ s.dispatches.rows)
    (hactive : row.status.isActive) (hrun : s.inRun runId row) : s.ledger.ActiveIn runId row.id :=
  ⟨row, Store.mem_rows_dispatches.1 hmem, hactive, Store.inRun_iff.1 hrun⟩

theorem Ledger.activeIn_congr {L L' : Ledger} {d : Uuid} (hd : L'.dispatches d = L.dispatches d)
    (ho : ∀ t, (L'.tasks t).map TaskRecord.runId = (L.tasks t).map TaskRecord.runId) :
    L'.ActiveIn runId d ↔ L.ActiveIn runId d := by
  simp only [Ledger.ActiveIn, hd, ho]

theorem Store.card_le_activeCount {ds : Finset Uuid} (h : ∀ d ∈ ds, s.ledger.ActiveIn runId d) :
    ds.card ≤ s.activeCount runId := by
  refine Table.card_le_countP fun d hd => ?_
  obtain ⟨row, hrow, hactive, hrun⟩ := h d hd
  exact ⟨row, hrow, by simp [hactive, Store.inRun_iff.2 hrun]⟩

theorem Store.exists_card_eq_activeCount (s : Store) (runId : Uuid) :
    ∃ ds : Finset Uuid, (∀ d ∈ ds, s.ledger.ActiveIn runId d) ∧ ds.card = s.activeCount runId := by
  refine ⟨_, fun d hd => ?_, (Table.countP_eq_card s.dispatches _).symm⟩
  simp only [List.mem_toFinset, List.mem_map, List.mem_filter, Bool.and_eq_true] at hd
  obtain ⟨row, ⟨hmem, hactive, hrun⟩, rfl⟩ := hd
  exact Store.activeIn_of_row hmem hactive hrun

theorem Store.activeCount_lt {n : Nat} (h : s.ledger.ActiveBelow runId n) :
    s.activeCount runId < n := by
  obtain ⟨ds, hds, hcard⟩ := s.exists_card_eq_activeCount runId
  exact hcard ▸ h ds hds

theorem Store.dependenciesMet {task : TaskRecord} (row : s.ledger.tasks task.id = some task)
    (h : (s.dependencyStatuses task.id).all (fun status => decide (status = .completed)) = true) :
    s.ledger.DependenciesMet task := by
  intro d hd dependency hdep
  have row : s.tasks.find task.id = some task := row
  simp only [Store.dependencyStatuses, row, List.all_map, List.all_eq_true, mem_orderBy,
    List.mem_filterMap] at h
  simpa using h dependency ⟨d, hd, hdep⟩

theorem le_foldl_max {n init : Nat} {ns : List Nat} (h : n ≤ init ∨ n ∈ ns) :
    n ≤ ns.foldl max init := by
  induction ns generalizing init with
  | nil => simpa using h
  | cons m ns ih =>
    apply ih
    rcases h with h | h
    · exact .inl (h.trans (Nat.le_max_left _ _))
    · rcases List.mem_cons.1 h with rfl | h
      · exact .inl (Nat.le_max_right _ _)
      · exact .inr h

theorem Store.position_lt_nextPosition {i : Uuid} {task : TaskRecord}
    (row : s.ledger.tasks i = some task) (hrun : task.runId = runId) :
    task.position < s.nextPosition runId := by
  refine le_foldl_max (.inr (List.mem_map.2 ⟨task, ?_, rfl⟩))
  simp [Table.mem_of_find row, hrun]

theorem Store.mem_tasksWithStatus {task : TaskRecord} {status : OrchestrationTaskStatus} :
    task ∈ s.tasksWithStatus runId status ↔
      s.ledger.tasks task.id = some task ∧ task.runId = runId ∧ task.status = status := by
  simp [Store.tasksWithStatus, Store.mem_rows_tasks]

theorem Store.nodup_tasksWithStatus (s : Store) (runId : Uuid) (status : OrchestrationTaskStatus) :
    ((s.tasksWithStatus runId status).map TaskRecord.id).Nodup :=
  ((perm_orderBy _ _).map _).nodup_iff.2 (s.tasks.nodup_keys_filter _)

end Counts

section Reads

variable {s : Store} {id : Uuid}

@[simp] theorem wlp_readRun {Q : RunRecord → Store → Prop} :
    (readRun id).wlp Q = fun s => ∀ run, s.ledger.runs run.id = some run → run.id = id → Q run s := by
  funext s
  simp only [readRun, Tx.wlp_expect]
  apply propext
  constructor
  · rintro h run hrun rfl; exact h run hrun
  · intro h run hrun
    have hid := Store.run_id hrun
    exact h run (hid ▸ hrun) hid

@[simp] theorem wlp_readTask {Q : TaskRecord → Store → Prop} :
    (readTask id).wlp Q =
      fun s => ∀ task, s.ledger.tasks task.id = some task → task.id = id → Q task s := by
  funext s
  simp only [readTask, Tx.wlp_expect]
  apply propext
  constructor
  · rintro h task htask rfl; exact h task htask
  · intro h task htask
    have hid := Store.task_id htask
    exact h task (hid ▸ htask) hid

@[simp] theorem wlp_readDispatch {Q : DispatchRecord → Store → Prop} :
    (readDispatch id).wlp Q = fun s => ∀ row, s.ledger.dispatches row.id = some row → row.id = id →
      Q (s.dispatchRecord row) s := by
  funext s
  simp only [readDispatch, Tx.wlp_expect]
  apply propext
  constructor
  · rintro h row hrow rfl
    exact h _ (Option.map_eq_some_iff.2 ⟨row, hrow, rfl⟩)
  · intro h record hrecord
    obtain ⟨row, hrow, rfl⟩ := Option.map_eq_some_iff.1 hrecord
    have hid := Store.dispatch_id hrow
    exact h row (hid ▸ hrow) hid

@[simp] theorem wlp_readAgent {Q : AgentInstanceRecord → Store → Prop} :
    (readAgent id).wlp Q =
      fun s => ∀ agent, s.ledger.agents id = some agent → Q agent.read s := by
  funext s
  simp only [readAgent, Tx.wlp_expect]
  apply propext
  constructor
  · intro h agent hagent
    exact h _ (Option.map_eq_some_iff.2 ⟨agent, hagent, rfl⟩)
  · intro h record hrecord
    obtain ⟨agent, hagent, rfl⟩ := Option.map_eq_some_iff.1 hrecord
    exact h agent hagent

@[simp] theorem wlp_readGate {Q : DecisionGateRecord → Store → Prop} :
    (readGate id).wlp Q =
      fun s => ∀ gate, s.ledger.gates gate.id = some gate → gate.id = id → Q gate.read s := by
  funext s
  simp only [readGate, Tx.wlp_expect]
  apply propext
  constructor
  · rintro h gate hgate rfl
    exact h _ (Option.map_eq_some_iff.2 ⟨gate, hgate, rfl⟩)
  · intro h record hrecord
    obtain ⟨gate, hgate, rfl⟩ := Option.map_eq_some_iff.1 hrecord
    have hid := Store.gate_id hgate
    exact h gate (hid ▸ hgate) hid

@[simp] theorem wlp_requireRunRevision {run : RunRecord} {expected : Nat} {Q : Unit → Store → Prop} :
    (requireRunRevision run expected).wlp Q = fun s => run.revision = expected → Q () s := by
  simp [requireRunRevision]

@[simp] theorem wlp_requireTaskRevision {task : TaskRecord} {expected : Nat}
    {Q : Unit → Store → Prop} :
    (requireTaskRevision task expected).wlp Q = fun s => task.revision = expected → Q () s := by
  simp [requireTaskRevision]

theorem trim_ne_of_required {value field text : String} (h : required value field = .ok text) :
    trim value ≠ "" := by
  intro hempty
  simp [required, hempty] at h

theorem readOnly_readDispatch : (readDispatch id).ReadOnly := Tx.readOnly_expect _ _

theorem readOnly_readTask : (readTask id).ReadOnly := Tx.readOnly_expect _ _

theorem readOnly_readOptional {α : Type} {read : Uuid → CoordinatorResult α}
    (h : ∀ i, (read i).ReadOnly) : ∀ id, (readOptional read id).ReadOnly
  | none => Tx.readOnly_pure _
  | some i => (h i).bind fun _ => Tx.readOnly_pure _

end Reads

section Writes

variable {s : Store} {Q : Unit → Store → Prop}

theorem wlp_updateRun {runId : Uuid} {f : RunRecord → RunRecord} {hf} {run : RunRecord}
    (row : s.ledger.runs runId = some run)
    (k : ∀ s', s'.ledger = s.ledger.putRun (f run) → Q () s') : (updateRun runId f hf).wlp Q s := by
  simp only [updateRun, Tx.wlp_write]
  apply k
  simp only [Store.ledger, Ledger.putRun, hf, Store.run_id row]
  rw [Table.find_update_some row]

theorem wlp_updateTasks {p : TaskRecord → Bool} {f : TaskRecord → TaskRecord} {hf}
    (k : ∀ s', s'.ledger =
      { s.ledger with tasks := modifyAll s.ledger.tasks fun t => if p t then f t else t } → Q () s') :
    (updateTasks p f hf).wlp Q s := by
  simp only [updateTasks, Tx.wlp_write]
  apply k
  simp only [Store.ledger, Table.find_update]

theorem wlp_updateTask {taskId : Uuid} {f : TaskRecord → TaskRecord} {hf} {task : TaskRecord}
    (row : s.ledger.tasks taskId = some task)
    (k : ∀ s', s'.ledger = s.ledger.putTask (f task) → Q () s') :
    (updateTask taskId f hf).wlp Q s := by
  simp only [updateTask, updateTasks, Tx.wlp_write]
  apply k
  simp only [Store.ledger, Ledger.putTask, hf, Store.task_id row]
  rw [Table.find_update_some row]

theorem wlp_updateDispatches {p : Store → DispatchRow → Bool} {f : DispatchRow → DispatchRow} {hf}
    (k : ∀ s', s'.ledger =
      { s.ledger with
        dispatches := modifyAll s.ledger.dispatches fun d => if p s d then f d else d } → Q () s') :
    (updateDispatches p f hf).wlp Q s := by
  simp only [updateDispatches, Tx.wlp_write]
  apply k
  simp only [Store.ledger, Table.find_update]

theorem wlp_updateDispatch {dispatchId : Uuid} {f : DispatchRow → DispatchRow} {hf}
    {row : DispatchRow} (h : s.ledger.dispatches dispatchId = some row)
    (k : ∀ s' new, new = f row → s'.ledger = s.ledger.putDispatch new → Q () s') :
    (updateDispatch dispatchId f hf).wlp Q s := by
  simp only [updateDispatch, updateDispatches, Tx.wlp_write]
  apply k _ (f row) rfl
  simp only [Store.ledger, Ledger.putDispatch, hf, Store.dispatch_id h]
  rw [Table.find_update_some h]

theorem wlp_updateAgents {p : Store → AgentInstanceRecord → Bool}
    {f : AgentInstanceRecord → AgentInstanceRecord} {hf}
    (resumable : ∀ a, (f a).resumable = a.resumable)
    (k : ∀ s' agents, s'.ledger = { s.ledger with agents } →
      (∀ i, (agents i).map AgentInstanceRecord.resumable =
        (s.ledger.agents i).map AgentInstanceRecord.resumable) → Q () s') :
    (updateAgents p f hf).wlp Q s := by
  simp only [updateAgents, Tx.wlp_write]
  exact k _ _ rfl (Table.map_find_update hf resumable)

theorem wlp_updateGates {p : DecisionGateRecord → Bool} {f : DecisionGateRecord → DecisionGateRecord}
    {hf}
    (k : ∀ s', s'.ledger =
      { s.ledger with gates := modifyAll s.ledger.gates fun g => if p g then f g else g } → Q () s') :
    (updateGates p f hf).wlp Q s := by
  simp only [updateGates, Tx.wlp_write]
  apply k
  simp only [Store.ledger, Table.find_update]

theorem wlp_updateGate {gateId : Uuid} {f : DecisionGateRecord → DecisionGateRecord} {hf}
    {gate : DecisionGateRecord} (row : s.ledger.gates gateId = some gate)
    (k : ∀ s', s'.ledger = s.ledger.putGate (f gate) → Q () s') :
    (updateGate gateId f hf).wlp Q s := by
  simp only [updateGate, updateGates, Tx.wlp_write]
  apply k
  simp only [Store.ledger, Ledger.putGate, hf, Store.gate_id row]
  rw [Table.find_update_some row]

theorem wlp_updateResource {dispatchId : Uuid} {f : ResourceRow → ResourceRow} {hf}
    (k : ∀ s', s'.ledger = s.ledger → Q () s') : (updateResource dispatchId f hf).wlp Q s := by
  simp only [updateResource, Tx.wlp_write]
  exact k _ rfl

theorem wlp_insertRun {run : RunRecord}
    (k : s.ledger.runs run.id = none → ∀ s', s'.ledger = s.ledger.putRun run → Q () s') :
    (insertRun run).wlp Q s := by
  simp only [insertRun, Tx.wlp_tryWrite, Option.map_eq_some_iff]
  rintro _ ⟨runs, h, rfl⟩
  refine k (Table.insert?_eq_some.1 h).1 _ ?_
  simp only [Store.ledger, Ledger.putRun, Table.find_insert h]

theorem wlp_insertTask {task : TaskRecord}
    (k : s.ledger.tasks task.id = none → ∀ s', s'.ledger = s.ledger.putTask task → Q () s') :
    (insertTask task).wlp Q s := by
  simp only [insertTask, Tx.wlp_tryWrite, Option.map_eq_some_iff]
  rintro _ ⟨tasks, h, rfl⟩
  refine k (Table.insert?_eq_some.1 h).1 _ ?_
  simp only [Store.ledger, Ledger.putTask, Table.find_insert h]

theorem wlp_insertDispatch {row : DispatchRow}
    (k : s.ledger.dispatches row.id = none → ∀ s', s'.ledger = s.ledger.putDispatch row → Q () s') :
    (insertDispatch row).wlp Q s := by
  simp only [insertDispatch, Tx.wlp_tryWrite, Option.map_eq_some_iff]
  rintro _ ⟨dispatches, h, rfl⟩
  refine k (Table.insert?_eq_some.1 h).1 _ ?_
  simp only [Store.ledger, Ledger.putDispatch, Table.find_insert h]

theorem wlp_insertAgent {agent : AgentInstanceRecord}
    (k : s.ledger.agents agent.id = none → ∀ s', s'.ledger = s.ledger.putAgent agent → Q () s') :
    (insertAgent agent).wlp Q s := by
  simp only [insertAgent, Tx.wlp_tryWrite, Option.map_eq_some_iff]
  rintro _ ⟨agents, h, rfl⟩
  refine k (Table.insert?_eq_some.1 h).1 _ ?_
  simp only [Store.ledger, Ledger.putAgent, Table.find_insert h]

theorem wlp_insertEvent {env : Env} {operationId : Uuid} {runId : Option Uuid} {eventType : String}
    {entityId : Option Uuid} {payload : Json} (k : ∀ s', s'.ledger = s.ledger → Q () s') :
    (insertEvent env operationId runId eventType entityId payload).wlp Q s := by
  simp only [insertEvent, Tx.wlp_write]
  exact k _ rfl

theorem wlp_insertMessage {env : Env} {messageId runId : Uuid} {taskId dispatchId parentId : Option Uuid}
    {senderKind : String} {messageType : MessageType} {payload : Json}
    {Q : MessageRecord → Store → Prop} (k : ∀ message s', s'.ledger = s.ledger → Q message s') :
    (insertMessage env messageId runId taskId dispatchId parentId senderKind messageType payload).wlp
      Q s := by
  simp only [insertMessage, readMessage, Tx.wlp_bind, Tx.wlp_tryWrite, Tx.wlp_expect,
    Option.map_eq_some_iff]
  rintro _ ⟨messages, _, rfl⟩ message _
  exact k message _ rfl

theorem wlp_createGateRecord {env : Env} {gateId runId : Uuid} {taskId dispatchId : Option Uuid}
    {gateType prompt : String} {options : List String} {expiresAt : Option Nat}
    {Q : DecisionGateRecord → Store → Prop}
    (k : s.ledger.gates gateId = none → ∀ gate s', gate.id = gateId → gate.runId = runId →
      gate.dispatchId = dispatchId → gate.gateType = gateType → gate.status = .pending →
      gate.resolution = none → s'.ledger = s.ledger.putGate gate → Q gate.read s') :
    (createGateRecord env gateId runId taskId dispatchId gateType prompt options expiresAt).wlp Q
      s := by
  simp only [createGateRecord, Tx.wlp_bind, Tx.wlp_tryWrite, wlp_readGate, Option.map_eq_some_iff]
  rintro _ ⟨gates, h, rfl⟩ gate hgate hid
  have hself := Table.find_insert_self h
  have hgate : gates.find gateId = some gate := hid ▸ hgate
  obtain rfl := Option.some.inj (hgate.symm.trans hself)
  refine k (Table.insert?_eq_some.1 h).1 _ _ rfl rfl rfl rfl rfl rfl ?_
  simp only [Store.ledger, Ledger.putGate, Table.find_insert h]

theorem wlp_bumpRunRevision {env : Env} {run : RunRecord} {Q : RunRecord → Store → Prop}
    (row : s.ledger.runs run.id = some run)
    (k : ∀ s', s'.ledger =
        s.ledger.putRun { run with revision := run.revision + 1, updatedAt := env.now } →
      Q { run with revision := run.revision + 1, updatedAt := env.now } s') :
    (bumpRunRevision env run).wlp Q s := by
  simp only [bumpRunRevision, Tx.wlp_bind, Tx.wlp_pure]
  exact wlp_updateRun row k

theorem wlp_updateRunStatus {env : Env} {run : RunRecord} {status : RunStatus}
    {Q : RunRecord → Store → Prop} (row : s.ledger.runs run.id = some run)
    (k : ∀ s', s'.ledger =
        s.ledger.putRun { run with status, revision := run.revision + 1, updatedAt := env.now } →
      Q { run with status, revision := run.revision + 1, updatedAt := env.now } s') :
    (updateRunStatus env run status).wlp Q s := by
  simp only [updateRunStatus, Tx.wlp_bind, Tx.wlp_pure]
  exact wlp_updateRun row k

theorem wlp_refreshTerminalRunStatus {env : Env} {run : RunRecord} {Q : RunRecord → Store → Prop}
    (row : s.ledger.runs run.id = some run) (same : Q run s)
    (moved : run.status ≠ .cancelled → ∀ status, status ≠ .cancelled → ∀ s', s'.ledger =
        s.ledger.putRun { run with status, revision := run.revision + 1, updatedAt := env.now } →
      Q { run with status, revision := run.revision + 1, updatedAt := env.now } s') :
    (refreshTerminalRunStatus env run).wlp Q s := by
  unfold refreshTerminalRunStatus
  by_cases hc : run.status = .cancelled
  · simpa [hc] using same
  · simp only [hc, if_false, Tx.wlp_bind, Tx.wlp_gets, Tx.wlp_ite, Tx.wlp_pure]
    refine ⟨fun _ => wlp_updateRunStatus row (moved hc _ ?_), fun _ => same⟩
    repeat' split
    all_goals first | decide | exact hc

theorem wlp_bumpTaskRevision {env : Env} {task : TaskRecord} {Q : TaskRecord → Store → Prop}
    (row : s.ledger.tasks task.id = some task)
    (k : ∀ s' new, new.Revises task → new.status = task.status → s'.ledger = s.ledger.putTask new →
      Q new s') : (bumpTaskRevision env task).wlp Q s := by
  simp only [bumpTaskRevision, Tx.wlp_bind, Tx.wlp_pure]
  refine wlp_updateTask row fun s' h => k s' _ ?_ rfl h
  exact ⟨rfl, rfl, rfl, rfl, Nat.lt_succ_self _⟩

theorem wlp_setTaskStatus {env : Env} {taskId : Uuid} {status : OrchestrationTaskStatus}
    {result : Option Json} {task : TaskRecord} (row : s.ledger.tasks taskId = some task)
    (k : ∀ s' new, new.Revises task → new.status = status → s'.ledger = s.ledger.putTask new →
      Q () s') : (setTaskStatus env taskId status result).wlp Q s := by
  refine wlp_updateTask row fun s' h => k s' _ ?_ ?_ h
  · exact ⟨rfl, rfl, rfl, rfl, Nat.lt_succ_self _⟩
  · rfl

end Writes

section Envelope

variable {platform : Platform} {env : Env} {operationId : Uuid} {request : Op}
  {mutation : CoordinatorResult Response} {s : Store}

theorem wlp_mutate_cases {Q : Response → Store → Prop}
    (replay : ∀ recorded, s.operations.find operationId = some recorded →
      recorded.requestHash = platform.requestHash request → Q recorded.response s)
    (body : s.operations.find operationId = none → mutation.wlp (fun response s' => ∀ operations,
      s'.operations.insert? ⟨operationId, platform.requestHash request, response.throughJson, env.now⟩
        = some operations → Q response { s' with operations }) s) :
    (mutate platform env operationId request mutation).wlp Q s := by
  simp only [mutate, Tx.wlp_bind, Tx.wlp_gets]
  split
  · rename_i recorded h
    simpa using replay recorded h
  · rename_i h
    simp only [Tx.wlp_atomically, Tx.wlp_bind, Tx.wlp_tryWrite, Tx.wlp_pure, Option.map_eq_some_iff]
    refine Tx.wlp_mono (body h) ?_
    rintro response s' hQ _ ⟨operations, hins, rfl⟩
    exact hQ operations hins

theorem wlp_mutate {P : Ledger → Prop} (replay : P s.ledger)
    (body : s.operations.find operationId = none → mutation.wlp (fun _ s' => P s'.ledger) s) :
    (mutate platform env operationId request mutation).wlp (fun _ s' => P s'.ledger) s :=
  wlp_mutate_cases (fun _ _ _ => replay) fun h => Tx.wlp_mono (body h) fun _ _ hP _ _ => hP

end Envelope

end VibeLink.Coordinator
