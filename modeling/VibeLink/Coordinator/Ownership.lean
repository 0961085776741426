import VibeLink.Coordinator.Capacity
import VibeLink.Coordinator.Cancellation

/-! A task and its dispatches: at most one of them is active, and then the task is dispatched. -/

namespace VibeLink.Coordinator

open VibeLink.Relational

structure Ledger.Linked (L : Ledger) : Prop where
  unique : ∀ {d d' row row'}, L.dispatches d = some row → L.dispatches d' = some row' →
    row.status.isActive → row'.status.isActive → row.taskId = row'.taskId → d = d'
  dispatched : ∀ {d row}, L.dispatches d = some row → row.status.isActive →
    (L.tasks row.taskId).map TaskRecord.status = some .dispatched

theorem Ledger.linked_empty : Ledger.empty.Linked where
  unique := by rintro _ _ _ _ ⟨⟩
  dispatched := by rintro _ _ ⟨⟩

namespace Move

variable {L L' : Ledger} {l : Label}

theorem active_row (h : Move l L L') {d : Uuid} {row' : DispatchRow}
    (found' : L'.dispatches d = some row') (active : row'.status.isActive) :
    (∃ row, L.dispatches d = some row ∧ row.status.isActive ∧ row'.taskId = row.taskId) ∨
      l = .dispatch row'.taskId d ∧
        (L.tasks row'.taskId).map TaskRecord.status = some .ready ∧
        (L'.tasks row'.taskId).map TaskRecord.status = some .dispatched := by
  cases h.dispatch_step d with
  | same same => exact .inl ⟨row', same ▸ found', active, rfl⟩
  | created _ found _ _ task_row task_row' ready dispatched _ _ _ _ label =>
    rw [found', Option.some.injEq] at found
    subst found
    exact .inr ⟨label, by rw [task_row, Option.map_some, ready],
      by rw [task_row', Option.map_some, dispatched]⟩
  | revised row found task_id turn =>
    rw [found', Option.some.injEq] at found
    subst found
    exact .inl ⟨_, row, turn.active active, task_id⟩

theorem dispatched_task (h : Move l L L') {i : Uuid}
    (status : (L.tasks i).map TaskRecord.status = some .dispatched) :
    (L'.tasks i).map TaskRecord.status = some .dispatched ∨
      (∃ d row row', L.dispatches d = some row ∧ row.taskId = i ∧ row.status.isActive ∧
        L'.dispatches d = some row' ∧ row'.status.isActive = false) ∨
      (∃ runId, l = .cancelRun runId ∧ (L.tasks i).map TaskRecord.runId = some runId) ∨
      l = .editTask i .dispatched .cancelled := by
  cases h.task_step i with
  | same same => exact .inl (same ▸ status)
  | added fresh => simp [fresh] at status
  | @revised old new row row' _ turn =>
    have hold : old.status = .dispatched := by simpa [row] using status
    cases turn with
    | revise same => exact .inl (by simp [row', same, hold])
    | edit allowed =>
      rw [hold] at allowed ⊢
      cases hnew : new.status with
      | dispatched => exact .inl (by simp [row', hnew])
      | cancelled => exact .inr (.inr (.inr rfl))
      | _ => simp [hnew, manualTransitionAllowed] at allowed
    | promote pending => simp [hold] at pending
    | block pending => simp [hold] at pending
    | retry stopped => simp [hold] at stopped
    | dispatch ready => simp [hold] at ready
    | finish found task_id active found' final =>
      exact .inr (.inl ⟨_, _, _, found, task_id, active, found', final⟩)
    | release found task_id active found' final =>
      exact .inr (.inl ⟨_, _, _, found, task_id, active, found', final⟩)
    | cancel => exact .inr (.inr (.inl ⟨_, rfl, by simp [row]⟩))

theorem linked (h : Move l L L') (linked : L.Linked)
    (kept : ∀ d row, L.dispatches d = some row → row.status.isActive →
      l ≠ .editTask row.taskId .dispatched .cancelled) : L'.Linked where
  unique {d d' row row'} found found' active active' same := by
    rcases h.active_row found active with ⟨old, was, wasActive, task_id⟩ | ⟨label, ready, _⟩ <;>
      rcases h.active_row found' active' with ⟨old', was', wasActive', task_id'⟩ | ⟨label', ready', _⟩
    · exact linked.unique was was' wasActive wasActive' (task_id ▸ task_id' ▸ same)
    · rw [← same, task_id, linked.dispatched was wasActive] at ready'
      cases ready'
    · rw [same, task_id', linked.dispatched was' wasActive'] at ready
      cases ready
    · exact (Label.dispatch.inj (label.symm.trans label')).2
  dispatched {d row} found active := by
    rcases h.active_row found active with ⟨old, was, wasActive, task_id⟩ | ⟨_, _, dispatched⟩
    · rw [task_id]
      rcases h.dispatched_task (linked.dispatched was wasActive) with
        status | ⟨d', other, other', was', same, wasActive', found', final⟩ | ⟨runId, rfl, owner⟩ | label
      · exact status
      · obtain rfl := linked.unique was was' wasActive wasActive' same.symm
        rw [found, Option.some.injEq] at found'
        rw [found', final] at active
        cases active
      · rw [← task_id] at owner
        have some := Option.isSome_map.symm.trans (congrArg Option.isSome owner)
        exact absurd ⟨row, found, active, (h.owner_eq some).trans owner⟩ (h.cancelled_dispatch d)
      · exact absurd label (kept d old was wasActive)
    · exact dispatched

end Move

/-- An `update_task` that cancels a task while a dispatch of it is active. -/
def CancelsUnderDispatch (s : Store) (call : Call) : Prop :=
  ∃ d row, s.ledger.dispatches d = some row ∧ row.status.isActive ∧ Edits s call row.taskId .cancelled

variable {platform : Platform}

theorem next_linked {s : Store} {call : Call} (sound : s.ledger.Sound) (linked : s.ledger.Linked)
    (kept : ¬CancelsUnderDispatch s call) : (next platform s call).ledger.Linked := by
  refine (next_outcome platform sound.policy call).chain.preserves ?_ linked
  intro l L L' permitted move linked
  refine move.linked linked fun d row found active label => kept ?_
  subst label
  obtain ⟨rfl, edits⟩ := permitted
  exact ⟨d, row, found, active, edits⟩

/-- The link holds at every moment of a run in which no task is cancelled under a dispatch. -/
theorem run_linked (platform : Platform) (calls : List Call)
    (kept : EveryCall platform (fun s call => ¬CancelsUnderDispatch s call) calls) :
    (run platform calls).ledger.Linked :=
  (run_invariant (I := fun s : Store => s.ledger.Sound ∧ s.ledger.Linked) (s := .empty)
    (fun _ _ h hkept => ⟨next_sound h.1, next_linked h.1 h.2 hkept⟩)
    ⟨Ledger.sound_empty, Ledger.linked_empty⟩ kept).2

theorem linked_scheduledRun : (run .plain scheduledRun).ledger.Linked := by
  refine run_linked .plain scheduledRun (throughout_of_forall (fun call hcall s => ?_) _)
  rintro ⟨_, _, _, _, request, _, hop, _⟩
  simp only [scheduledRun, List.mem_cons, List.not_mem_nil, or_false] at hcall
  rcases hcall with rfl | rfl | rfl | rfl <;> cases hop

/-- Retried and scheduled once more, the task has two active dispatches. -/
def dispatchedTwice : List Call :=
  scheduledRun ++ [cancelTask, .plain "retry" (.retryTask ⟨"run-0", "task-0", 4, 3⟩),
    .plain "reschedule" (.scheduleReady ⟨"run-0", 5⟩)]

theorem not_linked_cancelTask : ¬(run .plain (scheduledRun ++ [cancelTask])).ledger.Linked ∧
    ¬(run .plain dispatchedTwice).ledger.Linked := by
  constructor
  · obtain ⟨row, found, active, status⟩ : ∃ row ∈ (run .plain (scheduledRun ++ [cancelTask])).ledger.dispatches
        "schedule-0", row.status.isActive ∧
        ((run .plain (scheduledRun ++ [cancelTask])).ledger.tasks row.taskId).map TaskRecord.status ≠
          some .dispatched := by decide +kernel
    exact fun linked => status (linked.dispatched found active)
  · obtain ⟨row, found, row', found', active, active', same, hne⟩ :
        ∃ row ∈ (run .plain dispatchedTwice).ledger.dispatches "schedule-0",
        ∃ row' ∈ (run .plain dispatchedTwice).ledger.dispatches "reschedule-0",
          row.status.isActive ∧ row'.status.isActive ∧ row.taskId = row'.taskId ∧
            "schedule-0" ≠ "reschedule-0" := by decide +kernel
    exact fun linked => hne (linked.unique found found' active active' same)

end VibeLink.Coordinator

/-! Optimistic concurrency: revisions only grow, and of the operations that expect one run
revision at most one gets to change the plan. -/

namespace VibeLink.Coordinator

open VibeLink.Relational

variable {platform : Platform} {L L' : Ledger} {l : Label} {s : Store}

theorem Move.run_grows (h : Move l L L') {i : Uuid} {old : RunRecord} (row : L.runs i = some old) :
    ∃ new, L'.runs i = some new ∧ old.revision ≤ new.revision := by
  cases h.run_step i with
  | same same => exact ⟨old, same ▸ row, le_rfl⟩
  | opened fresh => rw [row] at fresh; cases fresh
  | revised was now _ _ _ grows =>
    rw [row, Option.some.injEq] at was
    exact ⟨_, now, was ▸ grows.le⟩

theorem Move.task_grows (h : Move l L L') {i : Uuid} {old : TaskRecord} (row : L.tasks i = some old) :
    ∃ new, L'.tasks i = some new ∧ (new = old ∨ old.revision < new.revision) := by
  cases h.task_step i with
  | same same => exact ⟨old, same ▸ row, .inl rfl⟩
  | added fresh => rw [row] at fresh; cases fresh
  | revised was now revises =>
    rw [row, Option.some.injEq] at was
    exact ⟨_, now, .inr (was ▸ revises.revision)⟩

theorem next_run_grows (sound : s.ledger.Sound) (call : Call) {i : Uuid} {n : Nat}
    (h : ∃ run, s.ledger.runs i = some run ∧ n ≤ run.revision) :
    ∃ run, (next platform s call).ledger.runs i = some run ∧ n ≤ run.revision := by
  refine (next_outcome platform sound.policy call).chain.preserves
    (I := fun L => ∃ run, L.runs i = some run ∧ n ≤ run.revision) ?_ h
  rintro _ _ _ _ move ⟨old, row, hle⟩
  obtain ⟨new, row', grows⟩ := move.run_grows row
  exact ⟨new, row', hle.trans grows⟩

theorem next_task_grows (sound : s.ledger.Sound) (call : Call) {i : Uuid} {old : TaskRecord}
    (row : s.ledger.tasks i = some old) :
    ∃ new, (next platform s call).ledger.tasks i = some new ∧
      (new = old ∨ old.revision < new.revision) := by
  refine (next_outcome platform sound.policy call).chain.preserves
    (I := fun L => ∃ new, L.tasks i = some new ∧ (new = old ∨ old.revision < new.revision)) ?_
    ⟨old, row, .inl rfl⟩
  rintro _ _ _ _ move ⟨mid, row', hmid⟩
  obtain ⟨new, row'', hnew⟩ := move.task_grows row'
  refine ⟨new, row'', ?_⟩
  rcases hmid with rfl | hmid
  · exact hnew
  · rcases hnew with rfl | hnew
    · exact .inr hmid
    · exact .inr (hmid.trans hnew)

theorem run_grows (platform : Platform) (before after : List Call) {i : Uuid} {n : Nat}
    (h : ∃ run', (run platform before).ledger.runs i = some run' ∧ n ≤ run'.revision) :
    ∃ run', (run platform (before ++ after)).ledger.runs i = some run' ∧ n ≤ run'.revision := by
  rw [run_append]
  exact (run_invariant (P := fun _ _ => True) (I := fun s : Store => s.ledger.Sound ∧
      ∃ run', s.ledger.runs i = some run' ∧ n ≤ run'.revision)
    (fun _ call hs _ => ⟨next_sound hs.1, next_run_grows hs.1 call hs.2⟩)
    ⟨run_sound platform before, h⟩ (throughout_of_forall (fun _ _ _ => trivial) _)).2

theorem next_fenced (sound : s.ledger.Sound) {call : Call} {runId : Uuid} {expected : Nat}
    (expects : Expects s call runId expected)
    (changed : ¬s.ledger.SamePlan (next platform s call).ledger) :
    s.RunAt runId expected ∧
      ∃ run, (next platform s call).ledger.runs runId = some run ∧ expected + 1 ≤ run.revision :=
  ((next_outcome platform sound.policy call).fence runId expected expects).resolve_left changed

def openedRun : List Call := [.plain "run" (.createRun ⟨"session", "goal", ⟨2⟩⟩)]

def addTask (operationId : Uuid) : Call :=
  .plain operationId (.createTask ⟨"run-0", "title", "description", [], 0⟩)

end VibeLink.Coordinator
