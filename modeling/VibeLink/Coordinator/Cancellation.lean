import VibeLink.Coordinator.Capacity

/-! What is cancelled stays cancelled: tasks until a report or a retry, runs until they are
reopened. -/

namespace VibeLink.Coordinator

open VibeLink.Relational

variable {platform : Platform} {L L' : Ledger} {l : Label} {s : Store} {call : Call}

section Tasks

def ReportsOn (s : Store) (call : Call) (taskId : Uuid) : Prop :=
  ∃ d row new, s.ledger.dispatches d = some row ∧ row.status.isActive ∧ row.taskId = taskId ∧
    Reports s call row new

def Retries (call : Call) (taskId : Uuid) : Prop :=
  ∃ request, call.op = .retryTask request ∧ request.taskId = taskId

theorem Move.cancelled_task (h : Move l L L') {i : Uuid}
    (status : (L.tasks i).map TaskRecord.status = some .cancelled) :
    (L'.tasks i).map TaskRecord.status = some .cancelled ∨ l = .retry i ∨
      ∃ d new, l = .finish d new i := by
  cases h.task_step i with
  | same same => exact .inl (same ▸ status)
  | added fresh => simp [fresh] at status
  | @revised old new row row' _ turn =>
    have hold : old.status = .cancelled := by simpa [row] using status
    cases turn with
    | revise same => exact .inl (by simp [row', same, hold])
    | edit allowed =>
      rw [hold] at allowed
      cases hnew : new.status with
      | cancelled => exact .inl (by simp [row', hnew])
      | _ => simp [hnew, manualTransitionAllowed] at allowed
    | promote pending => simp [hold] at pending
    | block pending => simp [hold] at pending
    | retry => exact .inr (.inl rfl)
    | dispatch ready => simp [hold] at ready
    | finish => exact .inr (.inr ⟨_, _, rfl⟩)
    | release _ _ _ _ _ dispatched => simp [hold] at dispatched
    | cancel _ cancelled => exact .inl (by simp [row', cancelled])

theorem next_cancelled_task (sound : s.ledger.Sound) {taskId : Uuid}
    (silent : ¬ReportsOn s call taskId) (noRetry : ¬Retries call taskId)
    (status : (s.ledger.tasks taskId).map TaskRecord.status = some .cancelled) :
    ((next platform s call).ledger.tasks taskId).map TaskRecord.status = some .cancelled := by
  refine (next_outcome platform sound.policy call).chain.preserves
    (I := fun L => (L.tasks taskId).map TaskRecord.status = some .cancelled) ?_ status
  intro l L L' permitted move status
  rcases move.cancelled_task status with status | rfl | ⟨d, new, rfl⟩
  · exact status
  · exact absurd permitted noRetry
  · obtain ⟨row, found, active, task_id, reports⟩ := permitted
    exact absurd ⟨d, row, new, found, active, task_id, reports⟩ silent

/-- A cancelled task stays cancelled for as long as nobody retries it and nothing reports on a
dispatch of it that is still active. -/
theorem cancelled_task_stays (platform : Platform) (before after : List Call) (taskId : Uuid)
    (status : ((run platform before).ledger.tasks taskId).map TaskRecord.status = some .cancelled)
    (h : Throughout (next platform) (fun s call => ¬Retries call taskId ∧ ¬ReportsOn s call taskId)
      (run platform before) after) :
    ((run platform (before ++ after)).ledger.tasks taskId).map TaskRecord.status =
      some .cancelled := by
  rw [run_append]
  exact (run_invariant (I := fun s : Store => s.ledger.Sound ∧
      (s.ledger.tasks taskId).map TaskRecord.status = some .cancelled)
    (fun _ _ hs hcall => ⟨next_sound hs.1, next_cancelled_task hs.1 hcall.2 hcall.1 hs.2⟩)
    ⟨run_sound platform before, status⟩ h).2

theorem cancelled_task_rescheduled :
    ((run .plain ((scheduledRun ++ [cancelTask]) ++
      [.plain "reschedule" (.scheduleReady ⟨"run-0", 4⟩)])).ledger.tasks "task-0").map
        TaskRecord.status = some .cancelled := by
  refine cancelled_task_stays .plain (scheduledRun ++ [cancelTask]) _ "task-0" (by decide +kernel)
    (throughout_of_forall (fun call hcall s => ?_) _)
  rw [List.mem_singleton.1 hcall]
  exact ⟨by rintro ⟨_, ⟨⟩, _⟩, by rintro ⟨_, _, _, _, _, _, ⟨⟩⟩⟩

def lateFailure : Call := .plain "fail" (.recordLaunchFailure ⟨"schedule-0", 3, "exec"⟩)

theorem cancelled_task_revived :
    ((run .plain (scheduledRun ++ [cancelTask])).ledger.tasks "task-0").map TaskRecord.status =
        some .cancelled ∧ ¬Retries lateFailure "task-0" ∧
      ((run .plain (scheduledRun ++ [cancelTask, lateFailure])).ledger.tasks "task-0").map
        TaskRecord.status = some .ready := by
  refine ⟨by decide +kernel, ?_, by decide +kernel⟩
  rintro ⟨_, ⟨⟩, _⟩

end Tasks

section Runs

def Ledger.Quiet (L : Ledger) : Prop :=
  ∀ runId, (L.runs runId).map RunRecord.status = some .cancelled →
    (∀ d, ¬L.ActiveIn runId d) ∧
      ∀ i gate, L.gates i = some gate → gate.runId = runId → gate.status ≠ .pending

/-- An accepted `create_gate`, `mark_merge_applied` or `accept_run` on a cancelled run. -/
def ReopensCancelled (s : Store) (call : Call) : Prop :=
  ∃ runId, (s.ledger.runs runId).map RunRecord.status = some .cancelled ∧ Reopens s call runId ∧
    ((∃ request, call.op = .createGate request) ∨ (∃ request, call.op = .markMergeApplied request) ∨
      ∃ request, call.op = .acceptRun request)

def RetriesIn (call : Call) (runId : Uuid) : Prop :=
  ∃ request, call.op = .retryTask request ∧ request.runId = runId

theorem retriesIn_of_reopens {runId : Uuid} (quiet : s.ledger.Quiet)
    (barred : ¬ReopensCancelled s call)
    (status : (s.ledger.runs runId).map RunRecord.status = some .cancelled)
    (reopens : Reopens s call runId) : RetriesIn call runId := by
  obtain ⟨inactive, settled⟩ := quiet runId status
  obtain ⟨operationId, env, op⟩ := call
  cases op with
  | createGate request => exact absurd ⟨runId, status, reopens, .inl ⟨request, rfl⟩⟩ barred
  | markMergeApplied request =>
    exact absurd ⟨runId, status, reopens, .inr (.inl ⟨request, rfl⟩)⟩ barred
  | acceptRun request => exact absurd ⟨runId, status, reopens, .inr (.inr ⟨request, rfl⟩)⟩ barred
  | workerDone =>
    obtain ⟨d, active⟩ := reopens.resolve_right id
    exact absurd active (inactive d)
  | resolveGate =>
    obtain ⟨i, gate, row, owner, pending⟩ := reopens.resolve_left id
    exact absurd pending (settled i gate row owner)
  | retryTask request => exact ⟨request, rfl, reopens.resolve_left id⟩
  | _ => exact (reopens.elim id id).elim

theorem Move.cancelled_run (h : Move l L L') {runId : Uuid}
    (status : (L'.runs runId).map RunRecord.status = some .cancelled) :
    (L.runs runId).map RunRecord.status = some .cancelled ∨ l = .cancelRun runId := by
  cases h.run_step runId with
  | same same => exact .inl (same ▸ status)
  | opened _ row _ queued => simp [row, queued] at status
  | revised row row' _ _ _ _ turn =>
    rw [row', Option.map_some, Option.some.injEq] at status
    cases turn with
    | bump same => exact .inl (by rw [row, Option.map_some, ← same, status])
    | set open_ => exact absurd status open_
    | cancel => exact .inr rfl

theorem Move.quiet (h : Move l L L') (g : L.Grounded) (quiet : L.Quiet)
    (closed : ∀ runId old dispatchId, l = .openGate runId old dispatchId →
      (L.runs runId).map RunRecord.status ≠ some .cancelled) : L'.Quiet := by
  intro runId status
  rcases h.cancelled_run status with was | rfl
  · obtain ⟨inactive, settled⟩ := quiet runId was
    refine ⟨fun d active => ?_, fun i gate row owner pending => ?_⟩
    · rcases h.activeIn g active with active | ⟨run, _, row, live, _, _⟩
      · exact inactive d active
      · rw [row, Option.map_some, Option.some.injEq] at was
        simp [was] at live
    · cases h.gate_step i with
      | same same => exact settled i gate (same ▸ row) owner pending
      | opened _ row' _ _ _ _ label =>
        rw [row, Option.some.injEq] at row'
        subst row' owner
        exact closed _ _ _ label was
      | revised _ row' _ turn =>
        rw [row, Option.some.injEq] at row'
        exact turn.closed (row' ▸ pending)
  · exact ⟨h.cancelled_dispatch, fun i gate row owner pending => h.cancelled_gate row pending owner⟩

theorem Ledger.quiet_empty : Ledger.empty.Quiet := by rintro _ ⟨⟩

theorem next_quiet (sound : s.ledger.Sound) (quiet : s.ledger.Quiet)
    (barred : ¬ReopensCancelled s call) : (next platform s call).ledger.Quiet := by
  refine ((next_outcome platform sound.policy call).chain.preserves
    (I := fun L => L.Grounded ∧ L.Quiet) ?_ ⟨sound.toGrounded, quiet⟩).2
  rintro l L L' permitted move ⟨g, q⟩
  refine ⟨move.grounded g, move.quiet g q ?_⟩
  rintro runId old dispatchId rfl status
  obtain ⟨hruns, opens⟩ := permitted
  rw [hruns] at status
  obtain ⟨request, hop, _⟩ := retriesIn_of_reopens quiet barred status (.inl opens)
  rw [OpensGate, hop] at opens
  exact opens

theorem next_cancelled_run (sound : s.ledger.Sound) (quiet : s.ledger.Quiet) {runId : Uuid}
    (barred : ¬ReopensCancelled s call) (noRetry : ¬RetriesIn call runId)
    (status : (s.ledger.runs runId).map RunRecord.status = some .cancelled) :
    ((next platform s call).ledger.runs runId).map RunRecord.status = some .cancelled := by
  refine (next_outcome platform sound.policy call).chain.preserves
    (I := fun L => (L.runs runId).map RunRecord.status = some .cancelled) ?_ status
  intro l L L' permitted move status'
  cases move.run_step runId with
  | same same => rwa [same]
  | opened fresh => simp [fresh] at status'
  | revised row row' _ _ _ _ turn =>
    rw [row, Option.map_some, Option.some.injEq] at status'
    rw [row', Option.map_some]
    cases turn with
    | bump same => rw [same, status']
    | set =>
      obtain ⟨_, reopens⟩ := permitted status'
      exact absurd (retriesIn_of_reopens quiet barred status reopens) noRetry
    | cancel cancelled => rw [cancelled]

theorem run_quiet (platform : Platform) (calls : List Call)
    (barred : EveryCall platform (fun s call => ¬ReopensCancelled s call) calls) :
    (run platform calls).ledger.Quiet :=
  (run_invariant (I := fun s : Store => s.ledger.Sound ∧ s.ledger.Quiet) (s := .empty)
    (fun _ _ h hcall => ⟨next_sound h.1, next_quiet h.1 h.2 hcall⟩)
    ⟨Ledger.sound_empty, Ledger.quiet_empty⟩ barred).2

/-- A cancelled run stays cancelled until a retry, if `create_gate`, `mark_merge_applied` and
`accept_run` leave cancelled runs alone. -/
theorem cancelled_run_stays (platform : Platform) (before after : List Call) (runId : Uuid)
    (barred : EveryCall platform (fun s call => ¬ReopensCancelled s call) before)
    (status : ((run platform before).ledger.runs runId).map RunRecord.status = some .cancelled)
    (h : Throughout (next platform)
      (fun s call => ¬RetriesIn call runId ∧ ¬ReopensCancelled s call) (run platform before) after) :
    ((run platform (before ++ after)).ledger.runs runId).map RunRecord.status =
      some .cancelled := by
  rw [run_append]
  exact (run_invariant (I := fun s : Store => s.ledger.Sound ∧ s.ledger.Quiet ∧
      (s.ledger.runs runId).map RunRecord.status = some .cancelled)
    (fun _ _ hs hcall => ⟨next_sound hs.1, next_quiet hs.1 hs.2.1 hcall.2,
      next_cancelled_run hs.1 hs.2.1 hcall.2 hcall.1 hs.2.2⟩)
    ⟨run_sound platform before, run_quiet platform before barred, status⟩ h).2.2

def cancelledRun : List Call := scheduledRun ++ [.plain "stop" (.cancelRun ⟨"run-0", 3⟩)]

theorem cancelled_run_after_failure :
    ((run .plain (cancelledRun ++ [.plain "fail" (.recordLaunchFailure ⟨"schedule-0", 3, "exec"⟩)])
      ).ledger.runs "run-0").map RunRecord.status = some .cancelled := by
  refine cancelled_run_stays .plain cancelledRun _ "run-0"
    (throughout_of_forall (fun call hcall s => ?_) _) (by decide +kernel)
    (throughout_of_forall (fun call hcall s => ⟨?_, ?_⟩) _)
  · rintro ⟨_, _, _, hop⟩
    simp only [cancelledRun, scheduledRun, List.cons_append, List.nil_append, List.mem_cons,
      List.not_mem_nil, or_false] at hcall
    rcases hcall with rfl | rfl | rfl | rfl | rfl <;> rcases hop with ⟨_, ⟨⟩⟩ | ⟨_, ⟨⟩⟩ | ⟨_, ⟨⟩⟩
  · rw [List.mem_singleton.1 hcall]
    rintro ⟨_, ⟨⟩, _⟩
  · rw [List.mem_singleton.1 hcall]
    rintro ⟨_, _, _, ⟨_, ⟨⟩⟩ | ⟨_, ⟨⟩⟩ | ⟨_, ⟨⟩⟩⟩

def lateGate : Call := .plain "gate" (.createGate ⟨"run-0", none, none, "review", "Go on?", [], none, 4⟩)

theorem cancelled_run_reopened :
    ((run .plain cancelledRun).ledger.runs "run-0").map RunRecord.status = some .cancelled ∧
      ¬RetriesIn lateGate "run-0" ∧
      ((run .plain (cancelledRun ++ [lateGate])).ledger.runs "run-0").map RunRecord.status =
        some .waiting := by
  refine ⟨by decide +kernel, ?_, by decide +kernel⟩
  rintro ⟨_, ⟨⟩, _⟩

end Runs

end VibeLink.Coordinator
