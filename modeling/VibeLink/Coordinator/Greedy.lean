import VibeLink.Coordinator.Dependencies

/-! A pass of the scheduler goes as far as it can: a task waits for its dependencies or for room, and for nothing else. -/

namespace VibeLink.Coordinator

open VibeLink.Relational

variable {env : Env} {operationId runId : Uuid} {s s' : Store} {L L' : Ledger}

/-- Not all dependencies are completed, and none of them has failed. -/
structure Ledger.Awaits (L : Ledger) (task : TaskRecord) : Prop where
  unmet : ¬L.DependenciesMet task
  hopeful : ∀ d ∈ task.dependencies, ∀ t, L.tasks d = some t →
    ¬(t.status = .failed ∨ t.status = .blocked ∨ t.status = .cancelled)

def Ledger.DecidedAt (L : Ledger) (i : Uuid) : Prop :=
  ∀ task, L.tasks i = some task → task.status = .pending → L.Awaits task

/-- What a pass leaves of a run that has room for so many dispatches, with the dispatches that it has made. -/
structure Exhausts (runId : Uuid) (maxConcurrent : Nat) (made : List DispatchRecord) (L : Ledger) : Prop where
  decided : ∀ i task, L.tasks i = some task → task.runId = runId → task.status = .pending → L.Awaits task
  filled : ∀ i task, L.tasks i = some task → task.runId = runId → task.status = .ready →
    ¬L.ActiveBelow runId maxConcurrent
  earliest : ∀ d ∈ made, ∃ first, L.tasks d.taskId = some first ∧ ∀ i task, L.tasks i = some task →
    task.runId = runId → task.status = .ready → first.position < task.position

theorem Store.awaits {task : TaskRecord} (row : s.ledger.tasks task.id = some task)
    (hopeful : ¬(s.dependencyStatuses task.id).any (fun status =>
      decide (status = .failed ∨ status = .blocked ∨ status = .cancelled)) = true)
    (unmet : ¬(s.dependencyStatuses task.id).all (fun status => decide (status = .completed)) = true) :
    s.ledger.Awaits task := by
  have row : s.tasks.find task.id = some task := row
  simp only [Store.dependencyStatuses, row, List.any_map, List.all_map, List.any_eq_true, List.all_eq_true, mem_orderBy,
    List.mem_filterMap, Function.comp_apply, decide_eq_true_eq] at hopeful unmet
  refine ⟨fun met => unmet ?_, fun d member t found bad => hopeful ⟨t, ⟨d, member, found⟩, bad⟩⟩
  rintro t ⟨d, member, found⟩
  exact met d member t found

namespace Ledger.Awaits

variable {task : TaskRecord}

theorem congr (h : L.Awaits task) (same : ∀ d ∈ task.dependencies, L'.tasks d = L.tasks d) : L'.Awaits task where
  unmet met := h.unmet fun d member t found => met d member t ((same d member).trans found)
  hopeful d member t found := h.hopeful d member t ((same d member) ▸ found)

end Ledger.Awaits

/-- A task that stands no later than another one does not depend on it. -/
theorem Ledger.Located.not_dependency (located : L.Located) {i : Uuid} {task later : TaskRecord}
    (row : L.tasks i = some task) (row' : L.tasks later.id = some later) (order : task.position ≤ later.position) :
    later.id ∉ task.dependencies := by
  intro member
  obtain ⟨t, found, _, earlier⟩ := located.dependency row _ member
  cases row'.symm.trans found
  exact Nat.not_lt.2 order earlier

theorem Scheduled.located {pre : List Uuid} (h : Scheduled s pre L) (located : s.ledger.Located) : L.Located :=
  h.chain.preserves (fun _ _ _ _ move => move.located) located

/-- What has been decided of earlier tasks is not touched when a later one is settled. -/
theorem Scheduled.keeps_decided {before : List TaskRecord} {task new : TaskRecord} (located : L.Located)
    (h : Scheduled s (before.map TaskRecord.id) L) (rows : ∀ u ∈ before, s.ledger.tasks u.id = some u)
    (order : ∀ u ∈ before, u.position ≤ task.position) (apart : task.id ∉ before.map TaskRecord.id)
    (row : L.tasks task.id = some task) (same : new.id = task.id)
    (decided : ∀ i ∈ before.map TaskRecord.id, L.DecidedAt i) :
    ∀ i ∈ before.map TaskRecord.id, (L.putTask new).DecidedAt i := by
  intro i among old found pending
  have ne : i ≠ new.id := fun here => apart (same ▸ here ▸ among)
  rw [Ledger.putTask_tasks, Function.update_of_ne ne] at found
  obtain ⟨u, member, rfl⟩ := List.mem_map.1 among
  have place := h.places u.id
  rw [found, rows u member] at place
  have position : old.position = u.position := congrArg Prod.snd (Option.some.inj place)
  refine (decided _ among old found pending).congr fun d dependency => ?_
  rw [Ledger.putTask_tasks, Function.update_of_ne]
  rintro rfl
  exact located.not_dependency found row (position ▸ order u member) (same ▸ dependency)

/-- The loop over the pending tasks so far: it has decided of those in `pre`. -/
structure Settling (s : Store) (pre : List Uuid) (L : Ledger) : Prop extends Scheduled s pre L where
  dispatches : L.dispatches = s.ledger.dispatches
  decided : ∀ i ∈ pre, L.DecidedAt i

theorem Store.position_le_of_taskOrder {a b : TaskRecord} (order : Store.taskOrder a b) : a.position ≤ b.position := by
  simp only [Store.taskOrder, Bool.or_eq_true, Bool.and_eq_true, decide_eq_true_eq] at order
  exact order.elim Nat.le_of_lt fun same => Nat.le_of_eq same.1

theorem settlePendingTask_decides {before : List TaskRecord} {task : TaskRecord} (located : s.ledger.Located)
    (rows : ∀ u ∈ before, s.ledger.tasks u.id = some u) (order : ∀ u ∈ before, u.position ≤ task.position)
    (apart : task.id ∉ before.map TaskRecord.id) (found : s.ledger.tasks task.id = some task)
    (pending : task.status = .pending) (h : Settling s (before.map TaskRecord.id) s'.ledger) :
    (settlePendingTask env task.id).wlp (fun _ s'' =>
      Settling s (before.map TaskRecord.id ++ [task.id]) s''.ledger) s' := by
  have row : s'.ledger.tasks task.id = some task := (h.untouched _ apart).trans found
  have settles {new : TaskRecord} (revises : new.Revises task) (done : new.status ≠ .pending) :
      ∀ i ∈ before.map TaskRecord.id ++ [new.id], (s'.ledger.putTask new).DecidedAt i := by
    intro i among
    cases List.mem_append.1 among with
    | inl among =>
      exact h.keeps_decided (h.toScheduled.located located) rows order apart row revises.id h.decided i among
    | inr here =>
      intro found is still
      rw [List.mem_singleton.1 here, Ledger.putTask_tasks, Function.update_self] at is
      cases is
      exact absurd still done
  simp only [settlePendingTask, Tx.wlp_bind, Tx.wlp_gets, Tx.wlp_ite, Tx.wlp_pure]
  refine ⟨fun _ => ?_, fun hopeful => ⟨fun met => ?_, fun unmet => ⟨h.skip _, h.dispatches, fun i among => ?_⟩⟩⟩
  · refine wlp_setTaskStatus row fun s₁ new revises blocked h₁ => ?_
    have row := revises.id ▸ row
    rw [h₁, ← revises.id]
    exact ⟨h.put row revises (by trivial) (.block row revises pending blocked) rfl rfl rfl rfl rfl, h.dispatches,
      settles revises (by simp [blocked])⟩
  · refine wlp_setTaskStatus row fun s₁ new revises ready h₁ => ?_
    have met := s'.dependenciesMet row met
    have row := revises.id ▸ row
    rw [h₁, ← revises.id]
    exact ⟨h.put row revises (by trivial) (.promote row revises pending ready met) rfl rfl rfl rfl rfl, h.dispatches,
      settles revises (by simp [ready])⟩
  · cases List.mem_append.1 among with
    | inl among => exact h.decided i among
    | inr here =>
      intro found is _
      cases row.symm.trans (List.mem_singleton.1 here ▸ is)
      exact s'.awaits row hopeful unmet

theorem settle_decides (located : s.ledger.Located) {Q : List (Uuid × Readiness) → Store → Prop}
    (k : ∀ settled s', Scheduled s ((s.tasksWithStatus runId .pending).map TaskRecord.id) s'.ledger →
      s'.ledger.dispatches = s.ledger.dispatches → (∀ i task, s'.ledger.tasks i = some task → task.runId = runId →
        task.status = .pending → s'.ledger.Awaits task) → Q settled s') :
    (Tx.traverse (settlePendingTask env) ((s.tasksWithStatus runId .pending).map TaskRecord.id)).wlp Q s := by
  refine Tx.wlp_mono (Tx.wlp_traverse (I := fun pre _ s' => Settling s pre s'.ledger) ?_ ?_) ?_
  · exact ⟨.refl s, rfl, fun _ member => absurd member List.not_mem_nil⟩
  · intro pre t post hsplit settled s' h
    obtain ⟨before, behind, split, rfl, tail⟩ := List.map_eq_append_iff.1 hsplit
    obtain ⟨task, rest, rfl, rfl, rfl⟩ := List.map_eq_cons_iff.1 tail
    have sorted := s.pairwise_tasksWithStatus runId .pending
    have distinct := s.nodup_tasksWithStatus runId .pending
    have rows (u : TaskRecord) (member : u ∈ before ++ task :: rest) :
        s.ledger.tasks u.id = some u ∧ u.runId = runId ∧ u.status = .pending :=
      Store.mem_tasksWithStatus.1 (split ▸ member)
    rw [split] at sorted distinct
    rw [List.map_append, List.map_cons] at distinct
    obtain ⟨found, _, pending⟩ := rows task (List.mem_append_right _ List.mem_cons_self)
    refine settlePendingTask_decides located (fun u member => (rows u (List.mem_append_left _ member)).1)
      (fun u member => ?_) (fun among => ?_) found pending h
    · exact Store.position_le_of_taskOrder ((List.pairwise_append.1 sorted).2.2 u member task List.mem_cons_self)
    · exact List.disjoint_of_nodup_append distinct among List.mem_cons_self
  · intro settled s' h
    refine k settled s' h.toScheduled h.dispatches fun i task row owner pending => ?_
    refine h.decided i ?_ task row pending
    by_contra outside
    have old := (h.untouched i outside).symm.trans row
    refine outside (List.mem_map.2 ⟨task, Store.mem_tasksWithStatus.2 ⟨?_, owner, pending⟩, Store.task_id old⟩)
    rw [Store.task_id old, old]

/-- The dispatches that a pass has added are pending, and their tasks are dispatched. -/
def Opened (s : Store) (L : Ledger) : Prop :=
  ∀ d row, s.ledger.dispatches d = none → L.dispatches d = some row →
    row.status = .pending ∧ (L.tasks row.taskId).map TaskRecord.status = some .dispatched

theorem Move.opened {l : Label} (h : Move l L L') (schedules : Schedules l) (opened : Opened s L) : Opened s L' := by
  have retains {old new : TaskRecord} (row : L.tasks new.id = some old) (other : old.status ≠ .dispatched) {d : Uuid}
      {was : DispatchRow} (fresh : s.ledger.dispatches d = none) (found : L.dispatches d = some was) :
      was.status = .pending ∧ ((L.putTask new).tasks was.taskId).map TaskRecord.status = some .dispatched := by
    obtain ⟨pending, dispatched⟩ := opened d was fresh found
    rw [Ledger.putTask_tasks, Function.update_of_ne]
    · exact ⟨pending, dispatched⟩
    · intro here
      rw [here, row] at dispatched
      exact other (Option.some.inj dispatched)
  cases h with
  | bumpRun | setRun => exact opened
  | promote row _ pending => exact fun _ _ => retains row (by simp [pending])
  | block row _ pending => exact fun _ _ => retains row (by simp [pending])
  | @dispatch _ _ _ new added _ _ row _ _ ready dispatched _ owner pending =>
    intro d was fresh found
    rw [Ledger.putTask_dispatches, Ledger.putDispatch_dispatches] at found
    by_cases here : d = added.id
    · rw [here, Function.update_self] at found
      cases found
      refine ⟨pending, ?_⟩
      rw [Ledger.putTask_tasks, owner, Function.update_self, Option.map_some, dispatched]
    · rw [Function.update_of_ne here] at found
      exact retains row (by simp [ready]) fresh found
  | _ => exact schedules.elim

/-- The dispatch loop of a pass is over. -/
abbrev Passed (s : Store) (run : RunRecord) (made : List DispatchRecord) (L : Ledger) : Prop :=
  Dispatched s run.id ((s.scheduled run).map TaskRecord.id) made L

namespace Passed

variable {run : RunRecord} {made : List DispatchRecord}

theorem opened (h : Passed s run made L) : Opened s L := by
  refine h.chain.preserves (fun _ _ _ schedules move => move.opened schedules) fun d row fresh found => ?_
  cases fresh.symm.trans found

theorem turned (h : Passed s run made L) {i : Uuid} (among : i ∈ (s.scheduled run).map TaskRecord.id) :
    (L.tasks i).map TaskRecord.status = some .dispatched := by
  rw [← h.tasks] at among
  obtain ⟨d, member, rfl⟩ := List.mem_map.1 among
  exact (h.opened _ _ (h.rows d member).2 (h.rows d member).1).2

/-- What is not dispatched has not been touched. -/
theorem untouched_of_status (h : Passed s run made L) {i : Uuid} {task : TaskRecord} (row : L.tasks i = some task)
    (other : task.status ≠ .dispatched) :
    i ∉ (s.scheduled run).map TaskRecord.id ∧ s.ledger.tasks i = some task := by
  have outside : i ∉ (s.scheduled run).map TaskRecord.id := fun among => by
    have := h.turned among
    rw [row] at this
    exact other (Option.some.inj this)
  exact ⟨outside, (h.untouched i outside).symm.trans row⟩

theorem awaits (h : Passed s run made L) {task : TaskRecord} (awaits : s.ledger.Awaits task) : L.Awaits task where
  unmet met := by
    refine awaits.unmet fun d member t found => ?_
    by_cases among : d ∈ (s.scheduled run).map TaskRecord.id
    · have turned := h.turned among
      obtain ⟨new, row, dispatched⟩ := Option.map_eq_some_iff.1 turned
      cases dispatched.symm.trans (met d member new row)
    · exact met d member t ((h.untouched d among).trans found)
  hopeful d member t found bad := by
    refine awaits.hopeful d member t (h.untouched_of_status found ?_).2 bad
    rintro dispatched
    simp [dispatched] at bad

/-- A ready task that is left over is behind all those that are dispatched, and there are as many as there is room. -/
theorem leftover (h : Passed s run made L)
    (policy : s.ledger.ActiveBelow run.id (run.policy.maxConcurrent.toNat + 1)) {i : Uuid} {task : TaskRecord}
    (row : L.tasks i = some task) (owner : task.runId = run.id) (ready : task.status = .ready) :
    (∀ first ∈ s.scheduled run, first.position ≤ task.position) ∧
      s.activeCount run.id + (s.scheduled run).length = run.policy.maxConcurrent.toNat := by
  obtain ⟨outside, old⟩ := h.untouched_of_status row (by simp [ready])
  have id := Store.task_id old
  have listed : task ∈ s.tasksWithStatus run.id .ready := Store.mem_tasksWithStatus.2 ⟨id ▸ old, owner, ready⟩
  have sorted := s.pairwise_tasksWithStatus run.id .ready
  have room := s.activeCount_lt policy
  have scheduled : s.scheduled run = (s.tasksWithStatus run.id .ready).take
      (run.policy.maxConcurrent.toNat - s.activeCount run.id) := by
    rw [Store.scheduled, Nat.mod_eq_of_lt (Nat.lt_of_lt_of_le room run.policy.maxConcurrent.toNat_lt)]
  rw [scheduled] at outside ⊢
  generalize s.tasksWithStatus run.id .ready = tasks at *
  have dropped : task ∈ tasks.drop (run.policy.maxConcurrent.toNat - s.activeCount run.id) := by
    rw [← List.take_append_drop (run.policy.maxConcurrent.toNat - s.activeCount run.id) tasks] at listed
    exact (List.mem_append.1 listed).resolve_left fun taken => outside (List.mem_map.2 ⟨task, taken, id⟩)
  refine ⟨fun first taken => ?_, ?_⟩
  · rw [← List.take_append_drop (run.policy.maxConcurrent.toNat - s.activeCount run.id) tasks] at sorted
    exact Store.position_le_of_taskOrder ((List.pairwise_append.1 sorted).2.2 first taken task dropped)
  · have more := List.length_pos_of_mem dropped
    rw [List.length_drop] at more
    rw [List.length_take]
    omega

theorem exhausts (h : Passed s run made L) (located : s.ledger.Located)
    (policy : s.ledger.ActiveBelow run.id (run.policy.maxConcurrent.toNat + 1))
    (decided : ∀ i task, s.ledger.tasks i = some task → task.runId = run.id → task.status = .pending →
      s.ledger.Awaits task) : Exhausts run.id run.policy.maxConcurrent.toNat made L where
  decided i task row owner pending :=
    h.awaits (decided i task (h.untouched_of_status row (by simp [pending])).2 owner pending)
  filled i task row owner ready below := by
    obtain ⟨ds, active, card⟩ := s.exists_card_eq_activeCount run.id
    have length : made.length = (s.scheduled run).length := by
      rw [← List.length_map fun d : DispatchRecord => d.taskId, h.tasks, List.length_map]
    have apart : Disjoint ds (made.map fun d => d.id).toFinset := by
      refine Finset.disjoint_left.2 fun d old new => ?_
      obtain ⟨record, member, rfl⟩ := List.mem_map.1 (List.mem_toFinset.1 new)
      obtain ⟨_, found, _⟩ := active _ old
      cases (h.rows record member).2.symm.trans found
    have full := below (ds ∪ (made.map fun d => d.id).toFinset) fun d among => ?_
    · rw [Finset.card_union_of_disjoint apart, List.toFinset_card_of_nodup h.ids, List.length_map, card, length,
        (h.leftover policy row owner ready).2] at full
      exact Nat.lt_irrefl _ full
    · cases Finset.mem_union.1 among with
      | inl old =>
        obtain ⟨row, found, rest⟩ := active d old
        exact (Ledger.activeIn_congr ((h.kept d row found).trans found.symm) h.owners).2 ⟨row, found, rest⟩
      | inr new =>
        obtain ⟨record, member, rfl⟩ := List.mem_map.1 (List.mem_toFinset.1 new)
        obtain ⟨found, fresh⟩ := h.rows record member
        refine ⟨_, found, by rw [(h.opened _ _ fresh found).1]; rfl, ?_⟩
        have among : record.taskId ∈ (s.scheduled run).map TaskRecord.id := h.tasks ▸ List.mem_map_of_mem member
        obtain ⟨task, listed, same⟩ := List.mem_map.1 among
        obtain ⟨row, owner, _⟩ := Store.mem_scheduled listed
        rw [h.owners, ← same, row, Option.map_some, owner]
  earliest d member := by
    have among : d.taskId ∈ (s.scheduled run).map TaskRecord.id := h.tasks ▸ List.mem_map_of_mem member
    obtain ⟨first, listed, same⟩ := List.mem_map.1 among
    obtain ⟨row, owner, _⟩ := Store.mem_scheduled listed
    have place := h.places first.id
    rw [row] at place
    obtain ⟨new, now, place⟩ := Option.map_eq_some_iff.1 place
    refine ⟨new, same ▸ now, fun i task is owned ready => ?_⟩
    have position : new.position = first.position := congrArg Prod.snd place
    rw [position]
    refine Nat.lt_of_le_of_ne ((h.leftover policy is owned ready).1 first listed) fun level => ?_
    obtain ⟨outside, old⟩ := h.untouched_of_status is (by simp [ready])
    have here := located.place old row (Prod.ext (owned.trans owner.symm) level.symm)
    exact outside (here ▸ List.mem_map_of_mem listed)

end Passed

/-- Only the run is written when the loops are over. -/
theorem Exhausts.of_runs {runId : Uuid} {maxConcurrent : Nat} {made : List DispatchRecord} {run : RunRecord}
    (h : Exhausts runId maxConcurrent made L) : Exhausts runId maxConcurrent made (L.putRun run) :=
  ⟨fun i task row owner pending => (h.decided i task row owner pending).congr fun _ _ => rfl, h.filled, h.earliest⟩

theorem wlp_refresh_exhausts {run : RunRecord} {maxConcurrent : Nat} {made : List DispatchRecord}
    {Q : RunRecord → Store → Prop} (h : Exhausts runId maxConcurrent made s.ledger)
    (row : s.ledger.runs run.id = some run)
    (k : ∀ run s', Exhausts runId maxConcurrent made s'.ledger → Q run s') : (refreshTerminalRunStatus env run).wlp Q s :=
  wlp_refreshTerminalRunStatus row (k _ _ h) fun _ _ _ _ same => k _ _ (same ▸ h.of_runs)

theorem scheduleReadyTransaction_exhausts {expected : Nat} (located : s.ledger.Located) (policy : s.ledger.WithinPolicy) :
    (scheduleReadyTransaction env operationId runId expected).wlp (fun plan s' => ∀ run, s.ledger.runs runId = some run →
      Exhausts runId run.policy.maxConcurrent.toNat plan.dispatches s'.ledger) s := by
  simp only [scheduleReadyTransaction, Tx.wlp_bind, wlp_readRun, wlp_requireRunRevision, Tx.wlp_require, Tx.wlp_gets,
    Tx.wlp_ite, Tx.wlp_pure]
  intro run row hid _ live
  subst hid
  refine settle_decides located fun settled s₁ h₁ same decided => ?_
  have row₁ : s₁.ledger.runs run.id = some run := h₁.runs ▸ row
  have policy₁ : s₁.ledger.ActiveBelow run.id (run.policy.maxConcurrent.toNat + 1) :=
    fun ds active => policy _ _ row ds fun d member =>
      (Ledger.activeIn_congr (congrFun same d) h₁.owners).1 (active d member)
  refine dispatch_loop row₁ live policy₁ fun made s₂ h₂ => ?_
  have row₂ : s₂.ledger.runs run.id = some run := h₂.runs ▸ row₁
  have exhausts := Passed.exhausts h₂ (h₁.located located) policy₁ decided
  have closed (run' : RunRecord) (s₃ : Store) (h : Exhausts run.id run.policy.maxConcurrent.toNat made s₃.ledger) :
      ∀ found, s.ledger.runs run.id = some found →
        Exhausts run.id found.policy.maxConcurrent.toNat made s₃.ledger := by
    intro found is
    cases row.symm.trans is
    exact h
  refine ⟨fun _ => ?_, fun _ => ⟨fun _ => ?_, fun _ => ?_⟩⟩
  · refine wlp_updateRunStatus row₂ fun s₃ h₃ => wlp_refresh_exhausts (h₃ ▸ exhausts.of_runs) ?_ closed
    rw [h₃, Ledger.putRun_runs, Function.update_self]
  · refine wlp_bumpRunRevision row₂ fun s₃ h₃ => wlp_refresh_exhausts (h₃ ▸ exhausts.of_runs) ?_ closed
    rw [h₃, Ledger.putRun_runs, Function.update_self]
  · exact wlp_refresh_exhausts exhausts row₂ closed

/-- After any calls, `schedule_ready` leaves a task waiting only for its dependencies or for room. -/
theorem schedule_exhausts (platform : Platform) (calls : List Call) (env : Env) (operationId : Uuid)
    {request : ScheduleRequest} {plan : ScheduleResult} {s' : Store}
    (new : (run platform calls).operations.find operationId = none)
    (scheduled : scheduleReady platform env operationId request (run platform calls) = (.ok (.schedule plan), s')) :
    ∀ record, (run platform calls).ledger.runs request.runId = some record →
      Exhausts request.runId record.policy.maxConcurrent.toNat plan.dispatches s'.ledger := by
  have located := run_located platform calls
  have policy := (run_sound platform calls).policy
  generalize run platform calls = s at *
  have body : (scheduleReady platform env operationId request).wlp (fun response s' => ∀ plan, response = .schedule plan →
      ∀ record, s.ledger.runs request.runId = some record →
        Exhausts request.runId record.policy.maxConcurrent.toNat plan.dispatches s'.ledger) s := by
    refine wlp_mutate_cases (fun recorded found => ?_) fun _ => ?_
    · cases new.symm.trans found
    · simp only [Tx.wlp_bind, Tx.wlp_pure]
      refine Tx.wlp_mono (scheduleReadyTransaction_exhausts located policy) fun plan s' h _ _ plan' same => ?_
      cases same
      exact h
  exact body _ _ scheduled plan rfl

/-- The first of two tasks is dispatched, and the second one waits for it. -/
theorem first_scheduled : ∃ plan s', scheduleReady .plain ⟨1, fun i => s!"pass-{i}"⟩ "pass" ⟨"run-0", 3⟩
      (run .plain (firstDone.take 4)) = (.ok (.schedule plan), s') ∧
    ∀ record, (run .plain (firstDone.take 4)).ledger.runs "run-0" = some record →
      Exhausts "run-0" record.policy.maxConcurrent.toNat plan.dispatches s'.ledger := by
  obtain ⟨plan, s', scheduled⟩ : ∃ plan s', scheduleReady .plain ⟨1, fun i => s!"pass-{i}"⟩ "pass" ⟨"run-0", 3⟩
      (run .plain (firstDone.take 4)) = (.ok (.schedule plan), s') := ⟨_, _, rfl⟩
  exact ⟨plan, s', scheduled, schedule_exhausts .plain (firstDone.take 4) _ "pass" (by decide +kernel) scheduled⟩

end VibeLink.Coordinator
