import VibeLink.Coordinator.Frames
import VibeLink.Coordinator.Simulation

/-! Every recorded operation goes back to the call that made it, and is replayed for no other
request. -/

namespace VibeLink.Coordinator

open VibeLink.Relational Tx

variable {platform : Platform} {env : Env} {operationId : Uuid} {s s' : Store} {request : Op}
  {mutation : CoordinatorResult Response} {recorded : OperationRow}

section Mutate

theorem mutate_replayed (found : s.operations.find operationId = some recorded)
    (same : recorded.requestHash = platform.requestHash request) :
    mutate platform env operationId request mutation s = (.ok recorded.response, s) := by
  simp [mutate, Bind.bind, gets, found, require, same, Pure.pure]

theorem mutate_conflict (found : s.operations.find operationId = some recorded)
    (other : recorded.requestHash ≠ platform.requestHash request) :
    mutate platform env operationId request mutation s =
      (.error (.conflict "operation id was already used for a different request"), s) := by
  simp [mutate, Bind.bind, gets, found, require, other]

theorem mutate_failed {e : CoordinatorError} (fresh : s.operations.find operationId = none)
    (failed : mutation s = (.error e, s')) :
    mutate platform env operationId request mutation s = (.error e, s) := by
  simp [mutate, Bind.bind, gets, fresh, Tx.atomically, failed]

theorem mutate_operations [keeps : Keeps Store.operations mutation] (i : Uuid) :
    (mutate platform env operationId request mutation).wlp
      (fun response s' => s'.operations.find i = s.operations.find i ∨
        i = operationId ∧ s'.operations.find i =
          some ⟨operationId, platform.requestHash request, response.throughJson, env.now⟩) s := by
  simp only [mutate, wlp_bind, wlp_gets]
  split
  · exact (ReadOnly.bind (readOnly_require _ _) fun _ => readOnly_pure _).wlp fun _ => .inl rfl
  · simp only [wlp_atomically, wlp_bind, wlp_tryWrite, wlp_pure, Option.map_eq_some_iff]
    refine wlp_mono (wlp_keeps (g := Store.operations)) fun response s₁ kept => ?_
    rintro _ ⟨operations, inserted, rfl⟩
    rw [Table.find_insert inserted, kept]
    by_cases hi : i = operationId
    · subst hi
      exact .inr ⟨rfl, Function.update_self ..⟩
    · exact .inl (Function.update_of_ne hi ..)

end Mutate

section Handling

/-- How the service handles a request: it refuses it before any transaction, runs it under
the envelope, or lets it write without a record. -/
inductive Handling (platform : Platform) (op : Op) (f : Uuid → Env → CoordinatorResult Response) :
    Prop where
  | refused (e : CoordinatorError) (h : ∀ operationId env s, f operationId env s = (.error e, s))
  | mutation (body : Uuid → Env → CoordinatorResult Response)
      (keeps : ∀ operationId env, Keeps Store.operations (body operationId env))
      (h : ∀ operationId env, f operationId env = mutate platform env operationId op (body operationId env))
  | direct (keeps : ∀ operationId env, Keeps Store.operations (f operationId env))

variable {op : Op} {α : Type}

theorem Handling.ofExcept (x : Except CoordinatorError α)
    {f : α → Uuid → Env → CoordinatorResult Response} (h : ∀ a, Handling platform op (f a)) :
    Handling platform op fun operationId env => Tx.ofExcept x >>= fun a => f a operationId env := by
  cases x with
  | error e => exact .refused e fun _ _ _ => rfl
  | ok a => exact h a

theorem Handling.require {p : Prop} [Decidable p] {e : CoordinatorError}
    {f : Uuid → Env → CoordinatorResult Response} (h : Handling platform op f) :
    Handling platform op fun operationId env => Tx.require p e >>= fun _ => f operationId env := by
  by_cases hp : p
  · simpa only [Tx.require, hp, Bind.bind, if_true] using h
  · refine .refused e fun _ _ _ => ?_
    simp only [Tx.require, hp, Bind.bind, if_false]

set_option synthInstance.maxSize 100000

theorem perform_handling (platform : Platform) (op : Op) :
    Handling platform op fun operationId env => perform platform ⟨operationId, env, op⟩ := by
  cases op with
  | createRun request =>
    refine .require (.ofExcept _ fun goal => .require ?_)
    refine .mutation _ (fun operationId env => ?_) fun _ _ => rfl
    infer_instance
  | createGate request =>
    refine .ofExcept _ fun gateType => .ofExcept _ fun prompt => ?_
    refine .mutation _ (fun operationId env => ?_) fun _ _ => rfl
    infer_instance
  | postMessage request =>
    refine .require (.ofExcept _ fun senderKind => ?_)
    refine .mutation _ (fun operationId env => ?_) fun _ _ => rfl
    infer_instance
  | createTask request | markMergeApplied request | acknowledgeEvents request
    | recordLaunchFailure request | registerAgent request | recordUnboundAgentLaunchFailure request
    | bindDispatch request =>
    refine .ofExcept _ fun text => ?_
    refine .mutation _ (fun operationId env => ?_) fun _ _ => rfl
    infer_instance
  | prepareDispatchLaunch request =>
    exact .direct fun operationId env =>
      inferInstanceAs (Keeps _ (prepareDispatchLaunch platform env operationId request))
  | completeDispatchLaunch request result =>
    exact .direct fun operationId env =>
      inferInstanceAs (Keeps _ (completeDispatchLaunch platform env operationId request result))
  | recordPaneExit paneId exitCode observedAt =>
    exact .direct fun operationId env =>
      inferInstanceAs (Keeps _ (recordPaneExit env operationId paneId exitCode observedAt))
  | reserveDispatchResources | updateDispatchWorktree | recordDispatchAgentResource
    | recordDispatchPaneResource | markDispatchResourceDisposition | reconcileDaemonRestart =>
    exact .direct fun operationId env => Respects.keeps Respects.atomically
  | updateTask request =>
    refine .mutation _ (fun operationId env => ?_) fun _ _ => rfl
    unfold updateTaskBody; dsimp only; infer_instance
  | _ =>
    refine .mutation _ (fun operationId env => ?_) fun _ _ => rfl
    infer_instance

end Handling

section History

/-- The call of a run that left a record, and the answer that it recorded. -/
structure RecordedBy (platform : Platform) (calls : List Call) (recorded : OperationRow)
    (first : Call) : Prop where
  operationId : first.operationId = recorded.operationId
  requestHash : platform.requestHash first.op = recorded.requestHash
  answered : ∃ before after response, calls = before ++ first :: after ∧
    perform platform first (run platform before) = (.ok response, run platform (before ++ [first])) ∧
    recorded.response = response.throughJson

variable {calls : List Call} {call first : Call}

theorem RecordedBy.mem (h : RecordedBy platform calls recorded first) : first ∈ calls := by
  obtain ⟨before, after, _, rfl, _⟩ := h.answered
  simp

theorem RecordedBy.snoc (h : RecordedBy platform calls recorded first) (call : Call) :
    RecordedBy platform (calls ++ [call]) recorded first where
  operationId := h.operationId
  requestHash := h.requestHash
  answered := by
    obtain ⟨before, after, response, rfl, hp⟩ := h.answered
    exact ⟨before, after ++ [call], response, by simp, hp⟩

theorem next_operations (platform : Platform) (s : Store) (call : Call) (i : Uuid) :
    (next platform s call).operations.find i = s.operations.find i ∨
      ∃ response, perform platform call s = (.ok response, next platform s call) ∧
        (next platform s call).operations.find i = some
          ⟨call.operationId, platform.requestHash call.op, response.throughJson, call.env.now⟩ := by
  rcases hp : perform platform call s with ⟨_ | response, s'⟩
  · rw [next, hp, perform_settled platform call s _ s' hp]
    exact .inl rfl
  · have hn : next platform s call = s' := by rw [next, hp]
    rw [hn]
    cases perform_handling platform call.op with
    | refused e h => cases hp.symm.trans (h call.operationId call.env s)
    | mutation body keeps h =>
      rw [h call.operationId call.env] at hp
      have := keeps call.operationId call.env
      rcases mutate_operations i response s' hp with same | ⟨-, found⟩
      · exact .inl same
      · exact .inr ⟨response, rfl, found⟩
    | direct keeps =>
      have kept := (keeps call.operationId call.env).keeps s
      rw [hp] at kept
      exact .inl (by rw [kept])

theorem run_recorded (platform : Platform) (calls : List Call) (i : Uuid) (recorded : OperationRow)
    (found : (run platform calls).operations.find i = some recorded) :
    ∃ first, RecordedBy platform calls recorded first := by
  induction calls using List.reverseRecOn with
  | nil => cases found
  | append_singleton calls call ih =>
    rw [run_snoc] at found
    rcases next_operations platform (run platform calls) call i with same | ⟨response, hp, row⟩
    · obtain ⟨first, h⟩ := ih (same ▸ found)
      exact ⟨first, h.snoc call⟩
    · rw [found, Option.some.injEq] at row
      subst row
      refine ⟨call, rfl, rfl, calls, [], response, rfl, ?_, rfl⟩
      rwa [run_snoc]

/-- A mutation under a recorded id replays the answer of an equal request and refuses any
other; a mutation that fails leaves the store as it was. -/
theorem mutation_replays {body : CoordinatorResult Response}
    (routed : perform platform call =
      mutate platform call.env call.operationId call.op body)
    (apart : ∀ first ∈ calls, platform.requestHash first.op = platform.requestHash call.op →
      first.op = call.op) :
    (∀ recorded, (run platform calls).operations.find call.operationId = some recorded →
      ∃ first, RecordedBy platform calls recorded first ∧
        (first.op = call.op →
          perform platform call (run platform calls) = (.ok recorded.response, run platform calls)) ∧
        (first.op ≠ call.op → perform platform call (run platform calls) =
          (.error (.conflict "operation id was already used for a different request"),
            run platform calls))) ∧
    (∀ e s', (run platform calls).operations.find call.operationId = none →
      body (run platform calls) = (.error e, s') →
      perform platform call (run platform calls) = (.error e, run platform calls)) ∧
    ∀ e s', perform platform call (run platform calls) = (.error e, s') → s' = run platform calls := by
  refine ⟨fun recorded found => ?_, fun e s' fresh failed => ?_, perform_settled platform call _⟩
  · obtain ⟨first, h⟩ := run_recorded platform calls _ recorded found
    refine ⟨first, h, fun same => ?_, fun other => ?_⟩
    · rw [routed]
      exact mutate_replayed found (by rw [← h.requestHash, same])
    · rw [routed]
      refine mutate_conflict found fun hash => other (apart first h.mem ?_)
      rw [h.requestHash, hash]
  · rw [routed]
    exact mutate_failed fresh failed

def startedRun : List Call :=
  [.plain "run" (.createRun ⟨"session", "goal", ⟨2⟩⟩), .plain "start" (.startRun ⟨"run-0", 0⟩)]

theorem start_is_not_cancel :
    perform .plain (.plain "start" (.cancelRun ⟨"run-0", 1⟩)) (run .plain startedRun) =
      (.error (.conflict "operation id was already used for a different request"),
        run .plain startedRun) := by
  have apart : ∀ first ∈ startedRun, Platform.plain.requestHash first.op = "cancel run-0" →
      first.op = .cancelRun ⟨"run-0", 1⟩ := by
    simp only [startedRun, List.forall_mem_cons]
    exact ⟨fun h => absurd h (by decide), fun h => absurd h (by decide), by simp⟩
  obtain ⟨recorded, found⟩ := Option.isSome_iff_exists.1
    (show ((run .plain startedRun).operations.find "start").isSome by decide +kernel)
  have routed : perform .plain (.plain "start" (.cancelRun ⟨"run-0", 1⟩)) = mutate .plain _ _ _ _ := rfl
  obtain ⟨first, made, -, conflict⟩ := (mutation_replays routed apart).1 recorded found
  refine conflict fun same => ?_
  have member := made.mem
  simp only [startedRun, List.mem_cons, List.not_mem_nil, or_false] at member
  rcases member with rfl | rfl <;> cases same

end History

end VibeLink.Coordinator
