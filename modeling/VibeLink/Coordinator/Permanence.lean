import VibeLink.Coordinator.Launching

/-! The ledger forgets nothing: every row stays, and what has been decided about it stays decided. -/

namespace VibeLink.Relational

/-- Every row is still there, and has become nothing that its old state rules out. -/
def Lasting {ι α : Type} (keeps : α → α → Prop) (rows rows' : ι → Option α) : Prop :=
  ∀ i old, rows i = some old → ∃ new, rows' i = some new ∧ keeps old new

namespace Lasting

variable {ι α : Type} {keeps : α → α → Prop} {rows rows' rows'' : ι → Option α}

theorem refl (same : ∀ a, keeps a a) (rows : ι → Option α) : Lasting keeps rows rows :=
  fun _ old row => ⟨old, row, same old⟩

theorem trans (twice : ∀ a b c, keeps a b → keeps b c → keeps a c) (first : Lasting keeps rows rows')
    (second : Lasting keeps rows' rows'') : Lasting keeps rows rows'' := by
  intro i old row
  obtain ⟨middle, row', kept⟩ := first i old row
  obtain ⟨new, row'', kept'⟩ := second i middle row'
  exact ⟨new, row'', twice old middle new kept kept'⟩

end Lasting

end VibeLink.Relational

namespace VibeLink.Coordinator

open VibeLink.Relational

structure RunRecord.Becomes (old new : RunRecord) : Prop where
  policy : new.policy = old.policy
  revision : new = old ∨ old.revision < new.revision

def TaskRecord.Becomes (old new : TaskRecord) : Prop := new = old ∨ new.Revises old

structure DispatchRow.Becomes (old new : DispatchRow) : Prop where
  taskId : new.taskId = old.taskId
  final : old.status.isActive = false → new.status = old.status

structure DecisionGateRecord.Becomes (old new : DecisionGateRecord) : Prop extends new.Rewrites old where
  closed : old.status ≠ .pending → new.status = old.status
  approval : old.status ≠ .pending → approved old.resolution → approved new.resolution

theorem TaskRecord.Revises.trans {new middle old : TaskRecord} (second : new.Revises middle)
    (first : middle.Revises old) : new.Revises old :=
  ⟨second.id.trans first.id, second.runId.trans first.runId, second.position.trans first.position,
    second.dependencies.trans first.dependencies, first.revision.trans second.revision⟩

theorem DispatchTurn.final {L : Ledger} {d : Uuid} {old new : DispatchRow} {l : Label}
    (turn : DispatchTurn L d old new l) (final : old.status.isActive = false) : new.status = old.status := by
  cases turn with
  | revise same => exact same
  | resume waiting =>
    rw [waiting] at final
    cases final
  | advance active | finish active | release active | cancel _ active => cases final.symm.trans active

theorem GateTurn.becomes {i : Uuid} {old new : DecisionGateRecord} {l : Label} (turn : GateTurn i old new l)
    (rewrites : new.Rewrites old) : old.Becomes new := by
  cases turn with
  | apply resolved still _ kept => exact ⟨rewrites, fun _ => still.trans resolved.symm, fun _ _ => kept⟩
  | resolve pending | expire pending | cancel pending =>
    exact ⟨rewrites, (absurd pending ·), (absurd pending ·)⟩

structure Ledger.Remembers (L L' : Ledger) : Prop extends L.Kept L' where
  runs : Lasting RunRecord.Becomes L.runs L'.runs
  tasks : Lasting TaskRecord.Becomes L.tasks L'.tasks
  dispatches : Lasting DispatchRow.Becomes L.dispatches L'.dispatches
  gates : Lasting DecisionGateRecord.Becomes L.gates L'.gates

namespace Ledger

variable {L L' L'' : Ledger}

theorem Remembers.refl (L : Ledger) : L.Remembers L where
  toKept := .refl L
  runs := .refl (fun _ => ⟨rfl, .inl rfl⟩) L.runs
  tasks := .refl (fun _ => .inl rfl) L.tasks
  dispatches := .refl (fun _ => ⟨rfl, fun _ => rfl⟩) L.dispatches
  gates := .refl (fun _ => ⟨⟨rfl, rfl, rfl, rfl⟩, fun _ => rfl, fun _ => id⟩) L.gates

theorem Remembers.trans (h : L.Remembers L') (h' : L'.Remembers L'') : L.Remembers L'' where
  toKept := h.toKept.trans h'.toKept
  runs := by
    refine h.runs.trans (fun old middle new first second => ⟨second.policy.trans first.policy, ?_⟩) h'.runs
    rcases second.revision with rfl | grows'
    · exact first.revision
    · rcases first.revision with rfl | grows
      · exact .inr grows'
      · exact .inr (grows.trans grows')
  tasks := by
    refine h.tasks.trans (fun old middle new first second => ?_) h'.tasks
    rcases second with rfl | second
    · exact first
    · rcases first with rfl | first
      · exact .inr second
      · exact .inr (second.trans first)
  dispatches := by
    refine h.dispatches.trans (fun old middle new first second => ?_) h'.dispatches
    refine ⟨second.taskId.trans first.taskId, fun final => ?_⟩
    have same := first.final final
    exact (second.final (same ▸ final)).trans same
  gates := by
    refine h.gates.trans (fun old middle new first second => ?_) h'.gates
    have still (closed : old.status ≠ .pending) : middle.status ≠ .pending := first.closed closed ▸ closed
    exact ⟨⟨second.id.trans first.id, second.runId.trans first.runId, second.dispatchId.trans first.dispatchId,
        second.gateType.trans first.gateType⟩,
      fun closed => (second.closed (still closed)).trans (first.closed closed),
      fun closed approval => second.approval (still closed) (first.approval closed approval)⟩

end Ledger

namespace Move

variable {L L' : Ledger} {l : Label}

theorem remembers (h : Move l L L') : L.Remembers L' where
  toKept := h.kept
  runs i old row := by
    cases h.run_step i with
    | same same => exact ⟨old, same ▸ row, rfl, .inl rfl⟩
    | opened fresh => cases fresh.symm.trans row
    | revised was now _ _ policy revision =>
      cases was.symm.trans row
      exact ⟨_, now, policy, .inr revision⟩
  tasks i old row := by
    cases h.task_step i with
    | same same => exact ⟨old, same ▸ row, .inl rfl⟩
    | added fresh => cases fresh.symm.trans row
    | revised was now revises =>
      cases was.symm.trans row
      exact ⟨_, now, .inr revises⟩
  dispatches i old row := by
    cases h.dispatch_step i with
    | same same => exact ⟨old, same ▸ row, rfl, fun _ => rfl⟩
    | created fresh => cases fresh.symm.trans row
    | revised was now taskId turn =>
      cases was.symm.trans row
      exact ⟨_, now, taskId, turn.final⟩
  gates i old row := by
    cases h.gate_step i with
    | same same => exact ⟨old, same ▸ row, ⟨rfl, rfl, rfl, rfl⟩, fun _ => rfl, fun _ => id⟩
    | opened fresh => cases fresh.symm.trans row
    | revised was now rewrites turn =>
      cases was.symm.trans row
      exact ⟨_, now, turn.becomes rewrites⟩

end Move

end VibeLink.Coordinator
