import VibeLink.Coordinator.Ledger

/-! What one move of the ledger does to one of its rows. -/

namespace VibeLink.Coordinator

open VibeLink.Relational

inductive RunTurn (i : Uuid) (old new : RunRecord) : Label → Prop where
  | bump (same : new.status = old.status) : RunTurn i old new (.bumpRun i)
  | set (open_ : new.status ≠ .cancelled) : RunTurn i old new (.setRun i old.status new.status)
  | cancel (cancelled : new.status = .cancelled) : RunTurn i old new (.cancelRun i)

inductive RunStep (L L' : Ledger) (l : Label) (i : Uuid) : Prop where
  | same (h : L'.runs i = L.runs i)
  | opened {run : RunRecord} (fresh : L.runs i = none) (row : L'.runs i = some run) (id : run.id = i)
      (status : run.status = .queued)
  | revised {old new : RunRecord} (row : L.runs i = some old) (row' : L'.runs i = some new)
      (id : old.id = i) (id' : new.id = i) (policy : new.policy = old.policy)
      (revision : old.revision < new.revision) (turn : RunTurn i old new l)

inductive TaskTurn (L L' : Ledger) (i : Uuid) (old new : TaskRecord) : Label → Prop where
  | revise (same : new.status = old.status) : TaskTurn L L' i old new (.reviseTask i)
  | edit (allowed : manualTransitionAllowed old.status new.status) :
      TaskTurn L L' i old new (.editTask i old.status new.status)
  | promote (pending : old.status = .pending) (ready : new.status = .ready)
      (met : L.DependenciesMet old) : TaskTurn L L' i old new (.promote i)
  | block (pending : old.status = .pending) (blocked : new.status = .blocked) :
      TaskTurn L L' i old new (.block i)
  | retry (stopped : old.status = .failed ∨ old.status = .blocked ∨ old.status = .cancelled)
      (next : new.status = .pending ∨ new.status = .ready ∧ L.DependenciesMet old) :
      TaskTurn L L' i old new (.retry i)
  | dispatch {d : Uuid} (ready : old.status = .ready) (dispatched : new.status = .dispatched) :
      TaskTurn L L' i old new (.dispatch i d)
  | finish {row row' : DispatchRow} {d : Uuid} (found : L.dispatches d = some row)
      (task_id : row.taskId = i) (active : row.status.isActive)
      (found' : L'.dispatches d = some row') (final : row'.status.isActive = false)
      (report : new.status = .completed ∧ row'.status = .completed ∨ row'.status ≠ .completed ∧
        (new.status = .ready ∨ new.status = .failed ∨ new.status = .blocked)) :
      TaskTurn L L' i old new (.finish d row'.status i)
  | release {row row' : DispatchRow} {d : Uuid} (found : L.dispatches d = some row)
      (task_id : row.taskId = i) (active : row.status.isActive)
      (found' : L'.dispatches d = some row') (final : row'.status.isActive = false)
      (dispatched : old.status = .dispatched) (ready : new.status = .ready) :
      TaskTurn L L' i old new (.release d)
  | cancel (unfinished : old.status.isOpen) (cancelled : new.status = .cancelled) :
      TaskTurn L L' i old new (.cancelRun old.runId)

inductive TaskStep (L L' : Ledger) (l : Label) (i : Uuid) : Prop where
  | same (h : L'.tasks i = L.tasks i)
  | added {task : TaskRecord} (fresh : L.tasks i = none) (row : L'.tasks i = some task)
      (id : task.id = i) (run : (L.runs task.runId).isSome) (status : task.status = .pending)
      (dependencies : ∀ d ∈ task.dependencies, ∃ t, L.tasks d = some t ∧ t.runId = task.runId)
      (last : ∀ j t, L.tasks j = some t → t.runId = task.runId → t.position < task.position)
      (label : l = .addTask i)
  | revised {old new : TaskRecord} (row : L.tasks i = some old) (row' : L'.tasks i = some new)
      (revises : new.Revises old) (turn : TaskTurn L L' i old new l)

inductive DispatchTurn (L : Ledger) (d : Uuid) (old new : DispatchRow) : Label → Prop where
  | revise (same : new.status = old.status) : DispatchTurn L d old new (.reviseDispatch d)
  | advance (active : old.status.isActive) (still : new.status.isActive)
      (bound : new.status ≠ .pending) (first : new.status = .dispatched → old.status = .pending) :
      DispatchTurn L d old new (.advance d new.status)
  | resume (waiting : old.status = .waiting) (running : new.status = .running)
      (settled : ¬L.GatePending d) : DispatchTurn L d old new (.resume d)
  | finish (active : old.status.isActive) (final : new.status.isActive = false) :
      DispatchTurn L d old new (.finish d new.status old.taskId)
  | release (active : old.status.isActive) (failed : new.status = .failed) :
      DispatchTurn L d old new (.release d)
  | cancel {runId : Uuid} (owner : (L.tasks old.taskId).map TaskRecord.runId = some runId)
      (active : old.status.isActive) (cancelled : new.status = .cancelled) :
      DispatchTurn L d old new (.cancelRun runId)

theorem DispatchTurn.active {L : Ledger} {d : Uuid} {old new : DispatchRow} {l : Label}
    (turn : DispatchTurn L d old new l) (active : new.status.isActive) : old.status.isActive := by
  cases turn with
  | revise same => rwa [← same]
  | advance was => exact was
  | resume waiting => rw [waiting]; rfl
  | finish was => exact was
  | release was => exact was
  | cancel _ was => exact was

inductive DispatchStep (L L' : Ledger) (l : Label) (d : Uuid) : Prop where
  | same (h : L'.dispatches d = L.dispatches d)
  | created {row : DispatchRow} {run : RunRecord} {old new : TaskRecord} (fresh : L.dispatches d = none)
      (row' : L'.dispatches d = some row) (pending : row.status = .pending) (id : row.id = d)
      (task_row : L.tasks row.taskId = some old) (task_row' : L'.tasks row.taskId = some new)
      (ready : old.status = .ready) (dispatched : new.status = .dispatched)
      (run_row : L.runs run.id = some run) (run_id : old.runId = run.id)
      (live : run.status = .running ∨ run.status = .waiting)
      (capacity : L.ActiveBelow run.id run.policy.maxConcurrent.toNat)
      (label : l = .dispatch row.taskId d)
  | revised {old new : DispatchRow} (row : L.dispatches d = some old)
      (row' : L'.dispatches d = some new) (task_id : new.taskId = old.taskId)
      (turn : DispatchTurn L d old new l)

inductive GateTurn (i : Uuid) (old new : DecisionGateRecord) : Label → Prop where
  | resolve {resolution : Json} (pending : old.status = .pending) (resolved : new.status = .resolved)
      (decided : new.resolution = some resolution) : GateTurn i old new (.resolve i resolution)
  | apply (resolved : old.status = .resolved) (still : new.status = .resolved)
      (approval : approved old.resolution) (kept : approved new.resolution) :
      GateTurn i old new (.apply i)
  | expire (pending : old.status = .pending) (closed : new.status = .timeout)
      (same : new.resolution = old.resolution) : GateTurn i old new .expireGates
  | cancel (pending : old.status = .pending) (closed : new.status = .cancelled)
      (same : new.resolution = old.resolution) : GateTurn i old new (.cancelRun old.runId)

theorem GateTurn.closed {i : Uuid} {old new : DecisionGateRecord} {l : Label}
    (turn : GateTurn i old new l) : new.status ≠ .pending := by
  cases turn <;> simp [*]

inductive GateStep (L L' : Ledger) (l : Label) (i : Uuid) : Prop where
  | same (h : L'.gates i = L.gates i)
  | opened {gate : DecisionGateRecord} {run : RunRecord} (fresh : L.gates i = none)
      (row : L'.gates i = some gate) (id : gate.id = i) (run_row : L.runs gate.runId = some run)
      (pending : gate.status = .pending) (unresolved : gate.resolution = none)
      (label : l = .openGate gate.runId run.status gate.dispatchId)
  | revised {old new : DecisionGateRecord} (row : L.gates i = some old) (row' : L'.gates i = some new)
      (rewrites : new.Rewrites old) (turn : GateTurn i old new l)

namespace Move

variable {L L' : Ledger} {l : Label}

theorem run_step (h : Move l L L') (i : Uuid) : RunStep L L' l i := by
  have put {old new : RunRecord} (runs : L'.runs = Function.update L.runs new.id (some new))
      (row : L.runs old.id = some old) (id : new.id = old.id) (policy : new.policy = old.policy)
      (revision : old.revision < new.revision) (turn : RunTurn old.id old new l) :
      RunStep L L' l i := by
    by_cases hi : i = old.id
    · subst hi
      exact .revised row (by rw [runs, id, Function.update_self]) rfl id policy revision turn
    · exact .same (by rw [runs, id, Function.update_of_ne hi])
  cases h with
  | @openRun _ run fresh status =>
    by_cases hi : i = run.id
    · subst hi
      exact .opened fresh (by simp) rfl status
    · exact .same (by simp [hi])
  | bumpRun row => exact put rfl row rfl rfl (Nat.lt_succ_self _) (.bump rfl)
  | setRun row open_ => exact put rfl row rfl rfl (Nat.lt_succ_self _) (.set open_)
  | @cancelRun _ run row now =>
    by_cases hi : i = run.id
    · subst hi
      exact .revised row (Function.update_self ..) rfl rfl rfl (Nat.lt_succ_self _) (.cancel rfl)
    · exact .same (Function.update_of_ne hi ..)
  | _ => exact .same rfl

theorem task_step (h : Move l L L') (i : Uuid) : TaskStep L L' l i := by
  have put {old new : TaskRecord} (tasks : L'.tasks = Function.update L.tasks new.id (some new))
      (row : L.tasks new.id = some old) (revises : new.Revises old)
      (turn : TaskTurn L L' new.id old new l) : TaskStep L L' l i := by
    by_cases hi : i = new.id
    · subst hi
      exact .revised row (by rw [tasks, Function.update_self]) revises turn
    · exact .same (by rw [tasks, Function.update_of_ne hi])
  cases h with
  | @addTask _ task fresh run status dependencies last =>
    by_cases hi : i = task.id
    · subst hi
      exact .added fresh (by simp) rfl run status dependencies last rfl
    · exact .same (by simp [hi])
  | reviseTask row revises status => exact put rfl row revises (.revise status)
  | editTask row revises allowed => exact put rfl row revises (.edit allowed)
  | promote row revises pending ready met => exact put rfl row revises (.promote pending ready met)
  | block row revises pending blocked => exact put rfl row revises (.block pending blocked)
  | retry row revises stopped next => exact put rfl row revises (.retry stopped next)
  | dispatch _ _ row _ revises ready dispatched => exact put rfl row revises (.dispatch ready dispatched)
  | @finish _ old new task task' row task_id active final task_row owner revises report =>
    exact put rfl task_row revises (.finish row owner.symm active (by simp) final report)
  | @release _ old new task task' row task_id active failed task_row owner reset =>
    have final : new.status.isActive = false := by rw [failed]; rfl
    rcases reset with ⟨dispatched, ready, revises⟩ | ⟨_, rfl⟩
    · exact put rfl task_row revises (.release row owner.symm active (by simp) final dispatched ready)
    · refine .same ?_
      change Function.update L.tasks task'.id (some task') i = L.tasks i
      rw [← task_row, Function.update_eq_self]
  | @cancelRun _ run row now =>
    cases ht : L.tasks i with
    | none => exact .same (by simp [Ledger.cancelRun, modifyAll, ht])
    | some task =>
      by_cases hc : task.runId = run.id ∧ task.status.isOpen
      · have row' : (L.cancelRun run now).tasks i =
            some { task with status := .cancelled, revision := task.revision + 1, updatedAt := now } := by
          simp only [Ledger.cancelRun, modifyAll, ht, Option.map_some, if_pos hc]
        rw [← hc.1]
        exact .revised ht row' ⟨rfl, rfl, rfl, rfl, Nat.lt_succ_self _⟩ (.cancel hc.2 rfl)
      · exact .same (by simp [Ledger.cancelRun, modifyAll, ht, hc])
  | _ => exact .same rfl

theorem dispatch_step (h : Move l L L') (d : Uuid) : DispatchStep L L' l d := by
  have put {old new : DispatchRow}
      (dispatches : L'.dispatches = Function.update L.dispatches new.id (some new))
      (row : L.dispatches new.id = some old) (task_id : new.taskId = old.taskId)
      (turn : DispatchTurn L new.id old new l) : DispatchStep L L' l d := by
    by_cases hd : d = new.id
    · subst hd
      exact .revised row (by rw [dispatches, Function.update_self]) task_id turn
    · exact .same (by rw [dispatches, Function.update_of_ne hd])
  cases h with
  | @dispatch _ run old new row run_row live task_row run_id revises ready dispatched fresh task_id
      pending capacity =>
    by_cases hd : d = row.id
    · subst hd
      rw [← task_id]
      exact .created fresh (by simp) pending rfl (task_id ▸ task_row) (by simp [task_id]) ready
        dispatched run_row run_id live capacity rfl
    · exact .same (by simp [hd])
  | reviseDispatch row task_id status => exact put rfl row task_id (.revise status)
  | advance row task_id active still bound first =>
    exact put rfl row task_id (.advance active still bound first)
  | resume row task_id waiting running settled =>
    exact put rfl row task_id (.resume waiting running settled)
  | finish row task_id active final _ owner =>
    exact put rfl row task_id (owner ▸ .finish active final)
  | release row task_id active failed => exact put rfl row task_id (.release active failed)
  | @cancelRun _ run row now =>
    cases hd : L.dispatches d with
    | none => exact .same (by simp [Ledger.cancelRun, modifyAll, hd])
    | some dispatch =>
      by_cases hc : (L.tasks dispatch.taskId).map TaskRecord.runId = some run.id ∧
          dispatch.status.isActive
      · have row' : (L.cancelRun run now).dispatches d =
            some { dispatch with status := .cancelled, updatedAt := now } := by
          simp only [Ledger.cancelRun, modifyAll, hd, Option.map_some, if_pos hc]
        exact .revised hd row' rfl (.cancel hc.1 hc.2 rfl)
      · exact .same (by simp only [Ledger.cancelRun, modifyAll, hd, Option.map_some, if_neg hc])
  | _ => exact .same rfl

theorem gate_step (h : Move l L L') (i : Uuid) : GateStep L L' l i := by
  have put {old new : DecisionGateRecord}
      (gates : L'.gates = Function.update L.gates new.id (some new))
      (row : L.gates new.id = some old) (rewrites : new.Rewrites old)
      (turn : GateTurn new.id old new l) : GateStep L L' l i := by
    by_cases hi : i = new.id
    · subst hi
      exact .revised row (by rw [gates, Function.update_self]) rewrites turn
    · exact .same (by rw [gates, Function.update_of_ne hi])
  cases h with
  | @openGate _ run gate fresh run_row run_id pending unresolved =>
    by_cases hi : i = gate.id
    · subst hi
      rw [← run_id] at run_row ⊢
      exact .opened fresh (by simp) rfl run_row pending unresolved rfl
    · exact .same (by simp [hi])
  | resolve row rewrites pending resolved decided =>
    exact put rfl row rewrites (.resolve pending resolved decided)
  | apply row rewrites resolved still approval kept =>
    exact put rfl row rewrites (.apply resolved still approval kept)
  | expireGates gates absent expired =>
    cases hg : gates i with
    | none => exact .same (by simp only [hg, (absent i).1 hg])
    | some new =>
      rcases expired i new hg with row | ⟨old, row, rewrites, pending, closed, same⟩
      · exact .same (by simp only [hg, row])
      · exact .revised row hg rewrites (.expire pending closed same)
  | @cancelRun _ run row now =>
    cases hg : L.gates i with
    | none => exact .same (by simp [Ledger.cancelRun, modifyAll, hg])
    | some gate =>
      by_cases hc : gate.runId = run.id ∧ gate.status = .pending
      · have row' : (L.cancelRun run now).gates i =
            some { gate with status := .cancelled, updatedAt := now } := by
          simp only [Ledger.cancelRun, modifyAll, hg, Option.map_some, if_pos hc]
        rw [← hc.1]
        exact .revised hg row' ⟨rfl, rfl, rfl, rfl⟩ (.cancel hc.2 rfl rfl)
      · exact .same (by simp [Ledger.cancelRun, modifyAll, hg, hc])
  | _ => exact .same rfl

theorem cancelled_dispatch {runId : Uuid} (h : Move (.cancelRun runId) L L') (d : Uuid) :
    ¬L'.ActiveIn runId d := by
  cases h with
  | @cancelRun _ run _ now =>
    rintro ⟨row, found, active, owner⟩
    obtain ⟨old, _, rfl⟩ := modifyAll_eq_some.1 found
    have hruns (t : Uuid) : ((L.cancelRun run now).tasks t).map TaskRecord.runId =
        (L.tasks t).map TaskRecord.runId := by
      apply map_modifyAll
      intro task
      split <;> rfl
    rw [hruns] at owner
    by_cases hc : (L.tasks old.taskId).map TaskRecord.runId = some run.id ∧ old.status.isActive
    · rw [if_pos hc] at active
      cases active
    · rw [if_neg hc] at active owner
      exact hc ⟨owner, active⟩

theorem cancelled_gate {runId i : Uuid} {gate : DecisionGateRecord}
    (h : Move (.cancelRun runId) L L') (row : L'.gates i = some gate)
    (pending : gate.status = .pending) : gate.runId ≠ runId := by
  cases h with
  | @cancelRun _ run _ now =>
    intro owner
    obtain ⟨old, _, rfl⟩ := modifyAll_eq_some.1 row
    by_cases hc : old.runId = run.id ∧ old.status = .pending
    · rw [if_pos hc] at pending
      cases pending
    · rw [if_neg hc] at pending owner
      exact hc ⟨owner, pending⟩

end Move

end VibeLink.Coordinator
