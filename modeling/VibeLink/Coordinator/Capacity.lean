import VibeLink.Coordinator.Simulation
import VibeLink.Coordinator.Turns

/-! Every task stands in a run and every dispatch in a task, and no run has more active
dispatches than its policy allows. -/

namespace VibeLink.Coordinator

open VibeLink.Relational

/-- Foreign keys: the run of a task and the task of a dispatch exist. -/
structure Ledger.Grounded (L : Ledger) : Prop where
  task_run : ∀ {i task}, L.tasks i = some task → (L.runs task.runId).isSome
  dispatch_task : ∀ {d row}, L.dispatches d = some row → (L.tasks row.taskId).isSome

structure Ledger.Sound (L : Ledger) : Prop extends L.Grounded where
  policy : L.WithinPolicy

namespace Move

variable {L L' : Ledger} {l : Label}

theorem run_isSome (h : Move l L L') {i : Uuid} (some : (L.runs i).isSome) : (L'.runs i).isSome := by
  cases h.run_step i with
  | same same => rwa [same]
  | opened _ row => rw [row]; rfl
  | revised _ row => rw [row]; rfl

theorem run_policy (h : Move l L L') {i : Uuid} {old new : RunRecord} (row : L.runs i = some old)
    (row' : L'.runs i = some new) : new.policy = old.policy := by
  cases h.run_step i with
  | same same =>
    rw [same, row, Option.some.injEq] at row'
    rw [row']
  | opened fresh => rw [row] at fresh; cases fresh
  | revised was now _ _ policy =>
    rw [row, Option.some.injEq] at was
    rw [row', Option.some.injEq] at now
    rw [now, was, policy]

theorem owner_eq (h : Move l L L') {i : Uuid} (some : (L.tasks i).isSome) :
    (L'.tasks i).map TaskRecord.runId = (L.tasks i).map TaskRecord.runId := by
  cases h.task_step i with
  | same same => rw [same]
  | added fresh => simp [fresh] at some
  | revised row row' revises => simp [row, row', revises.runId]

theorem task_isSome (h : Move l L L') {i : Uuid} (some : (L.tasks i).isSome) : (L'.tasks i).isSome := by
  rw [← Option.isSome_map, h.owner_eq some, Option.isSome_map]
  exact some

theorem grounded (h : Move l L L') (g : L.Grounded) : L'.Grounded where
  task_run {i task} row := by
    cases h.task_step i with
    | same same => exact h.run_isSome (g.task_run (same ▸ row))
    | added _ row' _ run =>
      rw [row, Option.some.injEq] at row'
      exact h.run_isSome (row' ▸ run)
    | revised was now revises =>
      rw [row, Option.some.injEq] at now
      rw [now, revises.runId]
      exact h.run_isSome (g.task_run was)
  dispatch_task {d row} found := by
    cases h.dispatch_step d with
    | same same => exact h.task_isSome (g.dispatch_task (same ▸ found))
    | created _ row' _ _ _ task_row' =>
      rw [found, Option.some.injEq] at row'
      rw [row', task_row']
      rfl
    | revised was now task_id =>
      rw [found, Option.some.injEq] at now
      rw [now, task_id]
      exact h.task_isSome (g.dispatch_task was)

theorem activeIn (h : Move l L L') (g : L.Grounded) {runId d : Uuid} (active : L'.ActiveIn runId d) :
    L.ActiveIn runId d ∨ ∃ run taskId, L.runs runId = some run ∧
      (run.status = .running ∨ run.status = .waiting) ∧
      L.ActiveBelow runId run.policy.maxConcurrent.toNat ∧ l = .dispatch taskId d := by
  obtain ⟨row, found, hactive, owner⟩ := active
  cases h.dispatch_step d with
  | same same =>
    rw [same] at found
    rw [h.owner_eq (g.dispatch_task found)] at owner
    exact .inl ⟨row, found, hactive, owner⟩
  | @created row' run _ _ _ found' _ _ task_row _ _ _ run_row run_id live capacity label =>
    rw [found, Option.some.injEq] at found'
    subst found'
    rw [h.owner_eq (by rw [task_row]; rfl), task_row, Option.map_some, run_id,
      Option.some.injEq] at owner
    subst owner
    exact .inr ⟨run, _, run_row, live, capacity, label⟩
  | revised was now task_id turn =>
    rw [found, Option.some.injEq] at now
    subst now
    rw [task_id, h.owner_eq (g.dispatch_task was)] at owner
    exact .inl ⟨_, was, turn.active hactive, owner⟩

theorem withinPolicy (h : Move l L L') (g : L.Grounded) (policy : L.WithinPolicy) :
    L'.WithinPolicy := by
  intro runId new row' ds hds
  by_cases hall : ∀ d ∈ ds, L.ActiveIn runId d
  · cases hrow : L.runs runId with
    | none =>
      -- no task stands in a run that does not exist, so nothing is active in it
      have hempty : ds = ∅ := by
        refine Finset.eq_empty_of_forall_notMem fun d hd => ?_
        obtain ⟨row, found, _, owner⟩ := hall d hd
        obtain ⟨task, htask, rfl⟩ := Option.map_eq_some_iff.1 owner
        have := g.task_run htask
        simp [hrow] at this
      simp [hempty]
    | some old =>
      rw [h.run_policy hrow row']
      exact policy runId old hrow ds hall
  · -- one dispatch is new, and the others left room for it
    push Not at hall
    obtain ⟨d, hd, hnew⟩ := hall
    obtain ⟨old, taskId, row, _, capacity, label⟩ := (h.activeIn g (hds d hd)).resolve_left hnew
    have hothers : ∀ e ∈ ds.erase d, L.ActiveIn runId e := by
      intro e he
      obtain ⟨hne, hmem⟩ := Finset.mem_erase.1 he
      refine (h.activeIn g (hds e hmem)).resolve_right ?_
      rintro ⟨_, taskId', _, _, _, label'⟩
      rw [label] at label'
      cases label'
      exact hne rfl
    have hlt := capacity _ hothers
    rw [h.run_policy row row', ← Finset.card_erase_add_one hd]
    exact Nat.succ_lt_succ hlt

end Move

theorem Ledger.sound_empty : Ledger.empty.Sound where
  task_run := by rintro _ _ ⟨⟩
  dispatch_task := by rintro _ _ ⟨⟩
  policy := by rintro _ _ ⟨⟩

theorem Move.sound {L L' : Ledger} {l : Label} (h : Move l L L') (sound : L.Sound) : L'.Sound :=
  ⟨h.grounded sound.toGrounded, h.withinPolicy sound.toGrounded sound.policy⟩

variable {platform : Platform}

theorem next_sound {s : Store} {call : Call} (h : s.ledger.Sound) :
    (next platform s call).ledger.Sound :=
  (next_outcome platform h.policy call).chain.preserves (fun _ _ _ _ move => move.sound) h

theorem run_sound (platform : Platform) (calls : List Call) : (run platform calls).ledger.Sound :=
  run_invariant (I := fun s : Store => s.ledger.Sound) (fun _ _ h _ => next_sound h) Ledger.sound_empty
    (throughout_of_forall (fun _ _ _ => trivial) _)

/-- The cap holds at every moment of every run of the coordinator. -/
theorem activeCount_le_maxConcurrent (platform : Platform) (calls : List Call) :
    ∀ record ∈ (run platform calls).runs.rows,
      (run platform calls).activeCount record.id ≤ record.policy.maxConcurrent.toNat := by
  intro record hmem
  have row : (run platform calls).ledger.runs record.id = some record := Table.find_of_mem hmem
  exact Nat.lt_succ_iff.1 (Store.activeCount_lt ((run_sound platform calls).policy _ _ row))

def scheduledRun : List Call :=
  [.plain "run" (.createRun ⟨"session", "goal", ⟨2⟩⟩),
    .plain "task" (.createTask ⟨"run-0", "title", "description", [], 0⟩),
    .plain "start" (.startRun ⟨"run-0", 1⟩),
    .plain "schedule" (.scheduleReady ⟨"run-0", 2⟩)]

theorem activeCount_scheduledRun : ∃ record ∈ (run .plain scheduledRun).runs.rows,
    (run .plain scheduledRun).activeCount record.id = 1 ∧
      (run .plain scheduledRun).activeCount record.id ≤ record.policy.maxConcurrent.toNat := by
  have hmem := List.head_mem (l := (run .plain scheduledRun).runs.rows) (by decide +kernel)
  exact ⟨_, hmem, by decide +kernel, activeCount_le_maxConcurrent .plain scheduledRun _ hmem⟩

def cancelTask : Call :=
  .plain "cancel" (.updateTask ⟨"run-0", "task-0", 3, 2, ⟨none, none, some .cancelled, none⟩⟩)

end VibeLink.Coordinator

/-! A dispatch with a pending gate waits: which operations may let it go on. -/

namespace VibeLink.Coordinator

open VibeLink.Relational

variable {platform : Platform} {L L' : Ledger} {l : Label} {s : Store} {call : Call}

/-- Between the two ledgers the dispatch starts to run or completes. -/
def Proceeds (L L' : Ledger) (d : Uuid) : Prop :=
  ∃ old new, L.dispatches d = some old ∧ L'.dispatches d = some new ∧ new.status ≠ old.status ∧
    (new.status = .running ∨ new.status = .completed)

/-- A report that a dispatch runs or is done, while a gate of it is pending. -/
def IgnoresGate (s : Store) (call : Call) : Prop :=
  ∃ d row, s.ledger.GatePending d ∧ s.ledger.dispatches d = some row ∧
    (row.status ≠ .running ∧ Announces s call d ∨
      row.status.isActive ∧ Reports s call row .completed)

/-- The operations that look at the gates before they resume a dispatch. -/
def Call.Resumes (call : Call) : Prop :=
  (∃ request, call.op = .heartbeat request) ∨ ∃ request, call.op = .resolveGate request

theorem Move.gatePending (h : Move l L L') {d : Uuid} (pending : L'.GatePending d) :
    L.GatePending d ∨ ∃ runId old, l = .openGate runId old (some d) := by
  obtain ⟨i, gate, row, about, hpending⟩ := pending
  cases h.gate_step i with
  | same same => exact .inl ⟨i, gate, same ▸ row, about, hpending⟩
  | opened _ row' _ _ _ _ label =>
    rw [row, Option.some.injEq] at row'
    subst row'
    exact .inr ⟨_, _, about ▸ label⟩
  | revised _ row' _ turn =>
    rw [row, Option.some.injEq] at row'
    exact absurd (row' ▸ hpending) turn.closed

theorem not_resumes_of_opensGate {runId : Uuid} (opens : OpensGate s call runId) : ¬call.Resumes := by
  rintro (⟨_, hop⟩ | ⟨_, hop⟩) <;> simp [OpensGate, hop] at opens

/-- What the call has done so far does not let the dispatch go on, or the call has seen that no
gate of it is pending. -/
def Held (s : Store) (call : Call) (d : Uuid) (L : Ledger) : Prop :=
  ¬Proceeds s.ledger L d ∨ call.Resumes ∧ ¬L.GatePending d

theorem Move.held (h : Move l L L') (permitted : Permits s call L l) {d : Uuid}
    (pending : s.ledger.GatePending d) (heeds : ¬IgnoresGate s call) (held : Held s call d L) :
    Held s call d L' := by
  rcases held with waits | ⟨resumes, settled⟩
  · by_cases resumed : l = .resume d
    · subst resumed
      cases h.dispatch_step d with
      | same same =>
        exact .inl fun ⟨old, new, found, found', rest⟩ =>
          waits ⟨old, new, found, same ▸ found', rest⟩
      | created _ _ _ _ _ _ _ _ _ _ _ _ label => cases label
      | revised was now task_id turn =>
        cases turn with
        | resume _ _ settled =>
          refine .inr ⟨permitted, fun hpending => ?_⟩
          exact (h.gatePending hpending).elim settled (by rintro ⟨_, _, ⟨⟩⟩)
    · refine .inl ?_
      rintro ⟨first, last, found, found', changed, hlast⟩
      cases h.dispatch_step d with
      | same same => exact waits ⟨first, last, found, same ▸ found', changed, hlast⟩
      | created _ row' started =>
        rw [found', Option.some.injEq] at row'
        simp [row', started] at hlast
      | revised was now _ turn =>
        rw [found', Option.some.injEq] at now
        subst now
        cases turn with
        | revise same => exact waits ⟨first, _, found, was, same ▸ changed, same ▸ hlast⟩
        | advance _ still =>
          rcases hlast with running | completed
          · exact heeds ⟨d, first, pending, found, .inl ⟨running ▸ changed.symm, permitted running⟩⟩
          · simp [completed, DispatchStatus.isActive] at still
        | resume => exact resumed rfl
        | finish _ final =>
          rcases hlast with running | completed
          · simp [running, DispatchStatus.isActive] at final
          · obtain ⟨row, row_found, active, _, reports⟩ := permitted
            rw [completed] at reports
            exact heeds ⟨d, row, pending, row_found, .inr ⟨active, reports⟩⟩
        | release _ failed => simp [failed] at hlast
        | cancel _ _ cancelled => simp [cancelled] at hlast
  · refine .inr ⟨resumes, fun hpending => ?_⟩
    rcases h.gatePending hpending with hpending | ⟨runId, old, rfl⟩
    · exact settled hpending
    · exact not_resumes_of_opensGate permitted.2 resumes

theorem next_held (sound : s.ledger.Sound) {d : Uuid} (pending : s.ledger.GatePending d)
    (heeds : ¬IgnoresGate s call) : Held s call d (next platform s call).ledger := by
  refine (next_outcome platform sound.policy call).chain.preserves
    (fun _ _ _ permitted move held => move.held permitted pending heeds held) (.inl ?_)
  rintro ⟨old, new, found, found', changed, _⟩
  rw [found, Option.some.injEq] at found'
  exact changed (by rw [found'])

/-- While a gate of it stays pending, no call of a run lets a dispatch go on, if the reports of
its worker heed the gates. -/
theorem gated_dispatch_waits (platform : Platform) (before after : List Call) (call : Call) (d : Uuid)
    (heeds : EveryCall platform (fun s call => ¬IgnoresGate s call) (before ++ call :: after))
    (pending : (run platform before).ledger.GatePending d)
    (pending' : (run platform (before ++ [call])).ledger.GatePending d) :
    ¬Proceeds (run platform before).ledger (run platform (before ++ [call])).ledger d := by
  obtain ⟨_, heeded, _⟩ := throughout_append.1 heeds
  rw [run_snoc] at pending' ⊢
  exact (next_held (run_sound platform before) pending heeded).resolve_right fun h => h.2 pending'

/-- The dispatch of `scheduledRun` with an agent bound to it and a gate to wait for. -/
def gatedRun : List Call :=
  scheduledRun ++
    [.plain "agent" (.registerAgent ⟨.ptyCli, none, "workspace", none, true⟩),
      .plain "bind" (.bindDispatch ⟨"schedule-0", 2, "agent-0", "runtime", none, 1, none⟩),
      .plain "gate" (.createGate ⟨"run-0", none, some "schedule-0", "review", "Go on?", [], none, 3⟩)]

def boundIdentity : LifecycleIdentity := ⟨"task-0", "schedule-0", "agent-0", none, 1⟩

theorem gatePending_of_gate {L : Ledger} {i d : Uuid}
    (h : ∃ gate ∈ L.gates i, gate.dispatchId = some d ∧ gate.status = .pending) : L.GatePending d := by
  obtain ⟨gate, row, about, pending⟩ := h
  exact ⟨i, gate, row, about, pending⟩

theorem gated_dispatch_heartbeat :
    ¬Proceeds (run .plain gatedRun).ledger
      (run .plain (gatedRun ++ [.plain "beat" (.heartbeat ⟨boundIdentity, 1⟩)])).ledger "schedule-0" := by
  refine gated_dispatch_waits .plain gatedRun [] _ "schedule-0"
    (throughout_of_forall (fun call hcall s => ?_) _)
    (gatePending_of_gate (i := "gate-0") (by decide +kernel))
    (gatePending_of_gate (i := "gate-0") (by decide +kernel))
  rintro ⟨d, row, _, _, h⟩
  simp only [gatedRun, scheduledRun, List.cons_append, List.nil_append, List.mem_cons,
    List.not_mem_nil, or_false] at hcall
  rcases hcall with rfl | rfl | rfl | rfl | rfl | rfl | rfl | rfl <;>
    exact h.elim And.right And.right

theorem gated_dispatch_announced :
    (run .plain gatedRun).ledger.GatePending "schedule-0" ∧
      (run .plain (gatedRun ++ [.plain "go" (.markDispatchRunning boundIdentity 1)])).ledger.GatePending
        "schedule-0" ∧
      Proceeds (run .plain gatedRun).ledger
        (run .plain (gatedRun ++ [.plain "go" (.markDispatchRunning boundIdentity 1)])).ledger
        "schedule-0" := by
  refine ⟨gatePending_of_gate (i := "gate-0") (by decide +kernel),
    gatePending_of_gate (i := "gate-0") (by decide +kernel), ?_⟩
  obtain ⟨old, found, new, found', h⟩ : ∃ old ∈ (run .plain gatedRun).ledger.dispatches "schedule-0",
      ∃ new ∈ (run .plain (gatedRun ++ [.plain "go" (.markDispatchRunning boundIdentity 1)])
        ).ledger.dispatches "schedule-0", new.status ≠ old.status ∧
          (new.status = .running ∨ new.status = .completed) := by decide +kernel
  exact ⟨old, new, found, found', h⟩

end VibeLink.Coordinator
