import VibeLink.Coordinator.Ownership

/-! The plan of a run: dependencies point to earlier tasks of the run, and a task is dispatched
once they are completed. -/

namespace VibeLink.Coordinator

open VibeLink.Relational

/-- Each dependency is an earlier task of the same run, and no two tasks stand in one place. -/
structure Ledger.Located (L : Ledger) : Prop where
  dependency : ∀ {i task}, L.tasks i = some task → ∀ d ∈ task.dependencies,
    ∃ t, L.tasks d = some t ∧ t.runId = task.runId ∧ t.position < task.position
  place : ∀ {i j task task'}, L.tasks i = some task → L.tasks j = some task' →
    task.place = task'.place → i = j

def Ledger.Ordered (L : Ledger) : Prop :=
  ∀ i task, L.tasks i = some task → task.status = .ready ∨ task.status = .dispatched →
    L.DependenciesMet task

theorem Ledger.located_empty : Ledger.empty.Located where
  dependency := by rintro _ _ ⟨⟩
  place := by rintro _ _ _ _ ⟨⟩

theorem Ledger.ordered_empty : Ledger.empty.Ordered := by rintro _ _ ⟨⟩

namespace Move

variable {L L' : Ledger} {l : Label}

theorem task_place (h : Move l L L') {i : Uuid} {old : TaskRecord} (row : L.tasks i = some old) :
    ∃ new, L'.tasks i = some new ∧ new.place = old.place ∧ new.dependencies = old.dependencies := by
  cases h.task_step i with
  | same same => exact ⟨old, same ▸ row, rfl, rfl⟩
  | added fresh => rw [row] at fresh; cases fresh
  | revised was now revises =>
    rw [row, Option.some.injEq] at was
    subst was
    exact ⟨_, now, by rw [TaskRecord.place, revises.runId, revises.position]; rfl,
      revises.dependencies⟩

theorem task_origin (h : Move l L L') {i : Uuid} {new : TaskRecord} (row : L'.tasks i = some new) :
    (∃ old, L.tasks i = some old ∧ new.place = old.place ∧ new.dependencies = old.dependencies) ∨
      (∀ d ∈ new.dependencies, ∃ t, L.tasks d = some t ∧ t.runId = new.runId) ∧
        (∀ j t, L.tasks j = some t → t.runId = new.runId → t.position < new.position) ∧
        l = .addTask i := by
  cases h.task_step i with
  | same same => exact .inl ⟨new, same ▸ row, rfl, rfl⟩
  | added _ row' _ _ _ dependencies last label =>
    rw [row, Option.some.injEq] at row'
    subst row'
    exact .inr ⟨dependencies, last, label⟩
  | revised was now revises =>
    rw [row, Option.some.injEq] at now
    subst now
    exact .inl ⟨_, was, by rw [TaskRecord.place, revises.runId, revises.position]; rfl,
      revises.dependencies⟩

theorem located (h : Move l L L') (located : L.Located) : L'.Located where
  dependency {i new} row d hd := by
    have earlier : ∃ t, L.tasks d = some t ∧ t.runId = new.runId ∧ t.position < new.position := by
      rcases h.task_origin row with ⟨old, was, place, same⟩ | ⟨dependencies, last, _⟩
      · obtain ⟨hrun, hposition⟩ := Prod.mk.inj place
        rw [hrun, hposition]
        exact located.dependency was d (same ▸ hd)
      · obtain ⟨t, found, hrun⟩ := dependencies d hd
        exact ⟨t, found, hrun, last d t found hrun⟩
    obtain ⟨t, found, hrun, hlt⟩ := earlier
    obtain ⟨t', found', place, _⟩ := h.task_place found
    obtain ⟨hrun', hposition'⟩ := Prod.mk.inj place
    exact ⟨t', found', hrun'.trans hrun, hposition' ▸ hlt⟩
  place {i j new new'} row row' same := by
    rcases h.task_origin row with ⟨old, was, place, _⟩ | ⟨_, last, label⟩ <;>
      rcases h.task_origin row' with ⟨old', was', place', _⟩ | ⟨_, last', label'⟩
    · exact located.place was was' (place ▸ place' ▸ same)
    · obtain ⟨hrun, hposition⟩ := Prod.mk.inj (place ▸ same)
      exact absurd hposition (last' i old was hrun).ne
    · obtain ⟨hrun, hposition⟩ := Prod.mk.inj (place' ▸ same)
      exact absurd hposition.symm (last j old' was' hrun.symm).ne
    · exact Label.addTask.inj (label.symm.trans label')

theorem completed_task (h : Move l L L') (linked : L.Linked) {i : Uuid}
    (status : (L.tasks i).map TaskRecord.status = some .completed) :
    (L'.tasks i).map TaskRecord.status = some .completed ∨ l = .editTask i .completed .cancelled := by
  cases h.task_step i with
  | same same => exact .inl (same ▸ status)
  | added fresh => simp [fresh] at status
  | @revised old new row row' _ turn =>
    have hold : old.status = .completed := by simpa [row] using status
    cases turn with
    | revise same => exact .inl (by simp [row', same, hold])
    | edit allowed =>
      rw [hold] at allowed ⊢
      cases hnew : new.status with
      | completed => exact .inl (by simp [row', hnew])
      | cancelled => exact .inr rfl
      | _ => simp [hnew, manualTransitionAllowed] at allowed
    | promote pending => simp [hold] at pending
    | block pending => simp [hold] at pending
    | retry stopped => simp [hold] at stopped
    | dispatch ready => simp [hold] at ready
    | finish found task_id active =>
      have dispatched := linked.dispatched found active
      rw [task_id, status] at dispatched
      cases dispatched
    | release _ _ _ _ _ dispatched => simp [hold] at dispatched
    | cancel unfinished => simp [hold, OrchestrationTaskStatus.isOpen] at unfinished

theorem met_of_ready (h : Move l L L') (linked : L.Linked) (ordered : L.Ordered) {i : Uuid}
    {new : TaskRecord} (row' : L'.tasks i = some new)
    (status : new.status = .ready ∨ new.status = .dispatched)
    (looked : ∀ old, L.tasks i = some old → manualTransitionAllowed old.status .ready →
      l = .editTask i old.status .ready → L.DependenciesMet old) :
    ∃ old, L.tasks i = some old ∧ new.dependencies = old.dependencies ∧ L.DependenciesMet old := by
  cases h.task_step i with
  | same same => exact ⟨new, same ▸ row', rfl, ordered i new (same ▸ row') status⟩
  | added _ row _ _ pending =>
    rw [row', Option.some.injEq] at row
    subst row
    simp [pending] at status
  | @revised old _ row now revises turn =>
    rw [row', Option.some.injEq] at now
    subst now
    refine ⟨old, row, revises.dependencies, ?_⟩
    cases turn with
    | revise same => exact ordered i old row (same ▸ status)
    | edit allowed =>
      rcases status with ready | dispatched
      · rw [ready] at allowed
        exact looked old row allowed (by rw [ready])
      · rw [dispatched] at allowed
        cases hold : old.status with
        | dispatched => exact ordered i old row (.inr hold)
        | _ => simp [hold, manualTransitionAllowed] at allowed
    | promote _ _ met => exact met
    | block _ blocked => simp [blocked] at status
    | retry _ next =>
      rcases next with pending | ⟨_, met⟩
      · simp [pending] at status
      · exact met
    | dispatch ready => exact ordered i old row (.inl ready)
    | finish found task_id active =>
      have dispatched := linked.dispatched found active
      rw [task_id, row, Option.map_some, Option.some.injEq] at dispatched
      exact ordered i old row (.inr dispatched)
    | release _ _ _ _ _ dispatched => exact ordered i old row (.inr dispatched)
    | cancel _ cancelled => simp [cancelled] at status

theorem ordered (h : Move l L L') (located : L.Located) (linked : L.Linked) (ordered : L.Ordered)
    (looked : ∀ i old, L.tasks i = some old → manualTransitionAllowed old.status .ready →
      l = .editTask i old.status .ready → L.DependenciesMet old)
    (kept : ∀ i old, L.tasks i = some old → old.status = .completed →
      l ≠ .editTask i .completed .cancelled) : L'.Ordered := by
  intro i new row' status d hd dependency found
  obtain ⟨old, row, same, met⟩ := h.met_of_ready linked ordered row' status (looked i)
  obtain ⟨t, ht, _⟩ := located.dependency row d (same ▸ hd)
  have done := met d (same ▸ hd) t ht
  have completed : (L.tasks d).map TaskRecord.status = some .completed := by
    rw [ht, Option.map_some, done]
  have still := (h.completed_task linked completed).resolve_right (kept d t ht done)
  rwa [found, Option.map_some, Option.some.injEq] at still

theorem completed_iff (h : Move l L L') {i : Uuid} (unedited : ∀ old new, l ≠ .editTask i old new)
    (silent : ∀ d new, l ≠ .finish d new i) :
    (L'.tasks i).map TaskRecord.status = some .completed ↔
      (L.tasks i).map TaskRecord.status = some .completed := by
  cases h.task_step i with
  | same same => rw [same]
  | added fresh row _ _ pending => simp [fresh, row, pending]
  | revised row row' _ turn =>
    rw [row, row', Option.map_some, Option.map_some, Option.some.injEq, Option.some.injEq]
    cases turn with
    | revise same => rw [same]
    | edit => exact absurd rfl (unedited _ _)
    | promote pending ready => simp [pending, ready]
    | block pending blocked => simp [pending, blocked]
    | retry stopped next =>
      rcases stopped with h | h | h <;> rcases next with h' | ⟨h', _⟩ <;> simp [h, h']
    | dispatch ready dispatched => simp [ready, dispatched]
    | finish => exact absurd rfl (silent _ _)
    | release _ _ _ _ _ dispatched ready => simp [dispatched, ready]
    | cancel unfinished cancelled =>
      rw [cancelled]
      refine ⟨by simp, fun completed => ?_⟩
      rw [completed] at unfinished
      cases unfinished

end Move

/-- An `update_task` that calls a task ready before its time, or takes back a completed one. -/
def OverridesOrder (s : Store) (call : Call) : Prop :=
  ∃ taskId task, s.ledger.tasks taskId = some task ∧
    (manualTransitionAllowed task.status .ready ∧ ¬s.ledger.DependenciesMet task ∧
        Edits s call taskId .ready ∨
      task.status = .completed ∧ Edits s call taskId .cancelled)

/-- The call leaves the order of the plan to the coordinator. -/
def KeepsOrder (s : Store) (call : Call) : Prop :=
  ¬CancelsUnderDispatch s call ∧ ¬OverridesOrder s call

/-- What keeps a plan in order, from one call to the next. -/
structure Ledger.Planned (L : Ledger) : Prop where
  located : L.Located
  linked : L.Linked
  ordered : L.Ordered

variable {platform : Platform} {L L' : Ledger} {l : Label} {s : Store} {call : Call}

theorem Move.planned (h : Move l L L') (permitted : Permits s call L l) (keeps : KeepsOrder s call)
    (planned : L.Planned) : L'.Planned where
  located := h.located planned.located
  linked := h.linked planned.linked fun d row found active label => by
    subst label
    obtain ⟨rfl, edits⟩ := permitted
    exact keeps.1 ⟨d, row, found, active, edits⟩
  ordered := by
    refine h.ordered planned.located planned.linked planned.ordered ?_ ?_
    · rintro i old row allowed rfl
      obtain ⟨rfl, edits⟩ := permitted
      by_contra unmet
      exact keeps.2 ⟨i, old, row, .inl ⟨allowed, unmet, edits⟩⟩
    · rintro i old row done rfl
      obtain ⟨rfl, edits⟩ := permitted
      exact keeps.2 ⟨i, old, row, .inr ⟨done, edits⟩⟩

theorem Ledger.planned_empty : Ledger.empty.Planned :=
  ⟨located_empty, linked_empty, ordered_empty⟩

theorem next_planned (sound : s.ledger.Sound) (keeps : KeepsOrder s call)
    (planned : s.ledger.Planned) : (next platform s call).ledger.Planned :=
  (next_outcome platform sound.policy call).chain.preserves
    (fun _ _ _ permitted move h => move.planned permitted keeps h) planned

theorem run_planned (platform : Platform) (calls : List Call)
    (keeps : EveryCall platform KeepsOrder calls) : (run platform calls).ledger.Planned :=
  (run_invariant (I := fun s : Store => s.ledger.Sound ∧ s.ledger.Planned) (s := .empty)
    (fun _ _ h hcall => ⟨next_sound h.1, next_planned h.1 hcall h.2⟩)
    ⟨Ledger.sound_empty, Ledger.planned_empty⟩ keeps).2

/-- The call schedules: `schedule_ready`, alone or as a part of `prepare_dispatch_launch`. -/
def Call.Schedules (call : Call) : Prop :=
  (∃ request, call.op = .scheduleReady request) ∨ ∃ request, call.op = .prepareDispatchLaunch request

/-- A scheduling call has a reason for each dispatch that it adds to those of `s`. -/
structure Justified (s : Store) (L : Ledger) : Prop where
  completed : ∀ i, (L.tasks i).map TaskRecord.status = some .completed ↔
    (s.ledger.tasks i).map TaskRecord.status = some .completed
  met : ∀ d row, s.ledger.dispatches d = none → L.dispatches d = some row →
    ∃ task, L.tasks row.taskId = some task ∧ ∀ dependency ∈ task.dependencies,
      (s.ledger.tasks dependency).map TaskRecord.status = some .completed

theorem Move.justified (h : Move l L L') (permitted : Permits s call L l) (schedules : call.Schedules)
    (planned : L.Planned) (justified : Justified s L) : Justified s L' where
  completed i := by
    refine (h.completed_iff ?_ ?_).trans (justified.completed i)
    · rintro old new rfl
      obtain ⟨_, _, _, hop, _⟩ := permitted
      rcases schedules with ⟨_, hop'⟩ | ⟨_, hop'⟩ <;> simp [hop] at hop'
    · rintro d new rfl
      obtain ⟨row, _, _, _, reports⟩ := permitted
      rcases schedules with ⟨_, hop⟩ | ⟨_, hop⟩ <;> simp [Reports, hop] at reports
  met d row fresh found := by
    -- the dependencies of the task are those that it had when the dispatch was created
    suffices earlier : ∃ old, L.tasks row.taskId = some old ∧ ∀ dependency ∈ old.dependencies,
        (s.ledger.tasks dependency).map TaskRecord.status = some .completed by
      obtain ⟨old, task_row, met⟩ := earlier
      obtain ⟨new, task_row', _, same⟩ := h.task_place task_row
      exact ⟨new, task_row', same ▸ met⟩
    cases h.dispatch_step d with
    | same same => exact justified.met d row fresh (same ▸ found)
    | @created _ _ old _ _ found' _ _ task_row _ ready =>
      rw [found, Option.some.injEq] at found'
      subst found'
      refine ⟨old, task_row, fun dependency hd => ?_⟩
      obtain ⟨t, ht, _⟩ := planned.located.dependency task_row dependency hd
      rw [← justified.completed, ht, Option.map_some,
        planned.ordered _ old task_row (.inl ready) dependency hd t ht]
    | revised was now task_id =>
      rw [found, Option.some.injEq] at now
      rw [now, task_id]
      exact justified.met d _ fresh was

theorem next_justified (sound : s.ledger.Sound) (planned : s.ledger.Planned)
    (keeps : KeepsOrder s call) (schedules : call.Schedules) :
    Justified s (next platform s call).ledger := by
  refine ((next_outcome platform sound.policy call).chain.preserves
    (I := fun L => L.Planned ∧ Justified s L) ?_ ⟨planned, ?_⟩).2
  · exact fun _ _ _ permitted move h =>
      ⟨move.planned permitted keeps h.1, move.justified permitted schedules h.1 h.2⟩
  · exact ⟨fun _ => Iff.rfl, fun d row fresh found => by rw [fresh] at found; cases found⟩

theorem next_dispatches_none (sound : s.ledger.Sound) (idle : ¬call.Schedules) {d : Uuid}
    (fresh : s.ledger.dispatches d = none) : (next platform s call).ledger.dispatches d = none := by
  refine (next_outcome platform sound.policy call).chain.preserves
    (I := fun L => L.dispatches d = none) ?_ fresh
  intro l L L' permitted move fresh
  cases move.dispatch_step d with
  | same same => rwa [same]
  | created _ _ _ _ _ _ _ _ _ _ _ _ label =>
    subst label
    exact absurd permitted idle
  | revised was => rw [fresh] at was; cases was

theorem run_located (platform : Platform) (calls : List Call) :
    (run platform calls).ledger.Located :=
  (run_invariant (P := fun _ _ => True) (I := fun s : Store => s.ledger.Sound ∧ s.ledger.Located)
    (s := .empty) (fun _ call h _ => ⟨next_sound h.1, (next_outcome platform h.1.policy call).chain.preserves
      (fun _ _ _ _ move => move.located) h.2⟩)
    ⟨Ledger.sound_empty, Ledger.located_empty⟩ (throughout_of_forall (fun _ _ _ => trivial) _)).2

/-- Whoever creates a dispatch finds the dependencies of its task completed and leaves them so,
as long as no edit overrides the order.  A dependency is always an earlier task of the run. -/
theorem dispatch_follows_dependencies (platform : Platform) :
    (∀ calls call d row, EveryCall platform KeepsOrder (calls ++ [call]) →
      (run platform calls).ledger.dispatches d = none →
      (run platform (calls ++ [call])).ledger.dispatches d = some row →
      ∃ task, (run platform (calls ++ [call])).ledger.tasks row.taskId = some task ∧
        ∀ dependency ∈ task.dependencies,
          ((run platform calls).ledger.tasks dependency).map TaskRecord.status = some .completed ∧
            ((run platform (calls ++ [call])).ledger.tasks dependency).map TaskRecord.status =
              some .completed) ∧
    ∀ calls i task, (run platform calls).ledger.tasks i = some task →
      ∀ dependency ∈ task.dependencies,
        ∃ t, (run platform calls).ledger.tasks dependency = some t ∧ t.runId = task.runId ∧
          t.position < task.position := by
  refine ⟨fun calls call d row keeps fresh found => ?_,
    fun calls i task => (run_located platform calls).dependency⟩
  obtain ⟨before, last, _⟩ := throughout_append.1 keeps
  have sound := run_sound platform calls
  rw [run_snoc] at found ⊢
  by_cases schedules : call.Schedules
  · have justified : Justified (run platform calls) (next platform _ call).ledger :=
      next_justified sound (run_planned platform calls before) last schedules
    obtain ⟨task, task_row, met⟩ := justified.met d row fresh found
    exact ⟨task, task_row, fun dependency hd =>
      ⟨met dependency hd, (justified.completed dependency).2 (met dependency hd)⟩⟩
  · rw [next_dispatches_none sound schedules fresh] at found
    cases found

/-- Two tasks, the second after the first, which is dispatched and done. -/
def firstDone : List Call :=
  [.plain "run" (.createRun ⟨"session", "goal", ⟨2⟩⟩),
    .plain "first" (.createTask ⟨"run-0", "first", "description", [], 0⟩),
    .plain "second" (.createTask ⟨"run-0", "second", "description", ["first-0"], 1⟩),
    .plain "start" (.startRun ⟨"run-0", 2⟩),
    .plain "schedule" (.scheduleReady ⟨"run-0", 3⟩),
    .plain "agent" (.registerAgent ⟨.ptyCli, none, "workspace", none, true⟩),
    .plain "bind" (.bindDispatch ⟨"schedule-0", 2, "agent-0", "runtime", none, 1, none⟩),
    .plain "running" (.markDispatchRunning ⟨"first-0", "schedule-0", "agent-0", none, 1⟩ 1),
    .plain "done" (.workerDone ⟨⟨"first-0", "schedule-0", "agent-0", none, 1⟩, 4, [], [], none, none,
      .null⟩)]

def reschedule : Call := .plain "reschedule" (.scheduleReady ⟨"run-0", 5⟩)

theorem second_follows_first : ∃ row ∈ (run .plain (firstDone ++ [reschedule])).ledger.dispatches
      "reschedule-0", ∃ task, row.taskId = "second-0" ∧
    (run .plain (firstDone ++ [reschedule])).ledger.tasks row.taskId = some task ∧
      ∀ dependency ∈ task.dependencies,
        ((run .plain firstDone).ledger.tasks dependency).map TaskRecord.status = some .completed ∧
          ((run .plain (firstDone ++ [reschedule])).ledger.tasks dependency).map TaskRecord.status =
            some .completed := by
  obtain ⟨row, found, owner⟩ : ∃ row ∈ (run .plain (firstDone ++ [reschedule])).ledger.dispatches
      "reschedule-0", row.taskId = "second-0" := by decide +kernel
  have keeps : EveryCall .plain KeepsOrder (firstDone ++ [reschedule]) := by
    refine throughout_of_forall (fun call hcall s => ?_) _
    have unedited : ∀ taskId new, ¬Edits s call taskId new := by
      rintro taskId new ⟨_, _, hop, _⟩
      simp only [firstDone, reschedule, List.cons_append, List.nil_append, List.mem_cons,
        List.not_mem_nil, or_false] at hcall
      rcases hcall with rfl | rfl | rfl | rfl | rfl | rfl | rfl | rfl | rfl | rfl <;> cases hop
    exact ⟨fun ⟨_, _, _, _, edits⟩ => unedited _ _ edits,
      fun ⟨_, _, _, h⟩ => h.elim (fun h => unedited _ _ h.2.2) fun h => unedited _ _ h.2⟩
  obtain ⟨task, task_row, met⟩ := (dispatch_follows_dependencies .plain).1 firstDone reschedule
    "reschedule-0" row keeps (by decide +kernel) found
  exact ⟨row, found, task, owner, task_row, met⟩

/-- Somebody calls the second task ready before the first one is done. -/
def calledReady : List Call :=
  firstDone.take 4 ++
    [.plain "edit" (.updateTask ⟨"run-0", "second-0", 3, 0, ⟨none, none, some .ready, none⟩⟩)]

theorem second_overtakes_first :
    ∃ row ∈ (run .plain (calledReady ++ [.plain "schedule" (.scheduleReady ⟨"run-0", 4⟩)])
        ).ledger.dispatches "schedule-1",
      (run .plain calledReady).ledger.dispatches "schedule-1" = none ∧
        ∃ task ∈ (run .plain (calledReady ++ [.plain "schedule" (.scheduleReady ⟨"run-0", 4⟩)])
            ).ledger.tasks row.taskId, ∃ dependency ∈ task.dependencies,
          ((run .plain (calledReady ++ [.plain "schedule" (.scheduleReady ⟨"run-0", 4⟩)])
            ).ledger.tasks dependency).map TaskRecord.status ≠ some .completed := by
  have absent : ((run .plain calledReady).ledger.dispatches "schedule-1").isNone := by decide +kernel
  obtain ⟨row, found, h⟩ : ∃ row ∈ (run .plain (calledReady ++
      [.plain "schedule" (.scheduleReady ⟨"run-0", 4⟩)])).ledger.dispatches "schedule-1",
        ∃ task ∈ (run .plain (calledReady ++ [.plain "schedule" (.scheduleReady ⟨"run-0", 4⟩)])
            ).ledger.tasks row.taskId, ∃ dependency ∈ task.dependencies,
          ((run .plain (calledReady ++ [.plain "schedule" (.scheduleReady ⟨"run-0", 4⟩)])
            ).ledger.tasks dependency).map TaskRecord.status ≠ some .completed := by decide +kernel
  exact ⟨row, found, Option.isNone_iff_eq_none.1 absent, h⟩

end VibeLink.Coordinator
