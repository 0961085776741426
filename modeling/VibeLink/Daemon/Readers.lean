import VibeLink.Daemon.Geometry

/-! Generations are handed out in order, and the reader of a process touches no other pane than that of
the process. -/

namespace VibeLink.Daemon

open VibeLink.Relational Tx

variable {s s' : DaemonState} {call : Call} {env : Env} {sessionId paneId i j : Uuid} {generation : Nat}

section Generations

def spawned (s : DaemonState) (call : Call) : Option Nat :=
  match call.op, (perform call s).1 with
  | .insertPane sessionId pane, .ok _ => ((next s call).pane sessionId pane.id).map Pane.outputGeneration
  | _, _ => none

/-- The generations that calls hand out, in order. -/
def handedOut (s : DaemonState) : List Call → List Nat
  | [] => []
  | call :: calls => (spawned s call).toList ++ handedOut (next s call) calls

theorem le_nextPaneGeneration : s.nextPaneGeneration ≤ (next s call).nextPaneGeneration := by
  refine (next_moves s call).preserves (I := fun b => s.nextPaneGeneration ≤ b.nextGeneration) ?_ le_rfl
  rintro m b _ permitted rfl le
  cases permitted with
  | spawn _ => exact le.trans (Nat.le_succ _)
  | drop _ => exact le
  | output _ _ => exact le
  | resize _ => exact le
  | claim _ _ _ _ _ _ => exact le
  | update _ _ _ _ _ => exact le
  | renew _ _ _ _ _ _ _ _ => exact le
  | finish _ _ _ =>
    simp only [Board.move, Board.nextGeneration_release]
    split <;> exact le

theorem insertPaneOrRecover_spec {pane : Pane} :
    (insertPaneOrRecover sessionId pane).wp
      (fun _ s' => (s'.pane sessionId pane.id).map Pane.outputGeneration = some s.nextPaneGeneration ∧
        s'.nextPaneGeneration = s.nextPaneGeneration + 1)
      (fun _ s' => s' = s) s := by
  simp only [insertPaneOrRecover, takePaneGeneration, wp_bind, wp_reads, wp_gets, wp_write, wp_pure,
    DaemonState.session_eq_ok]
  refine ⟨fun session found => ⟨?_, rfl⟩, fun _ _ => trivial⟩
  rw [DaemonState.pane_countPanes, DaemonState.pane_putPane, if_pos ⟨rfl, rfl⟩, found]
  rfl

theorem spawned_eq_some (h : spawned s call = some generation) :
    generation = s.nextPaneGeneration ∧ (next s call).nextPaneGeneration = generation + 1 := by
  obtain ⟨env, op⟩ := call
  cases op with
  | insertPane sessionId pane =>
    have spec : (perform ⟨env, .insertPane sessionId pane⟩).wp
        (fun _ s' => (s'.pane sessionId pane.id).map Pane.outputGeneration = some s.nextPaneGeneration ∧
          s'.nextPaneGeneration = s.nextPaneGeneration + 1) (fun _ _ => True) s := by
      simp only [perform, quietly, wp_bind, wp_pure]
      exact wp_mono insertPaneOrRecover_spec (fun _ _ h => h) fun _ _ _ => trivial
    simp only [spawned] at h
    split at h
    · rename_i op performed
      cases op
      obtain ⟨same, next_⟩ := (wp_iff_forall.1 spec).1 _ _ (Prod.ext performed rfl)
      cases h.symm.trans same
      exact ⟨rfl, next_⟩
    · cases h
  | _ => cases h

theorem le_of_mem_handedOut {calls : List Call} (h : generation ∈ handedOut s calls) :
    s.nextPaneGeneration ≤ generation := by
  induction calls generalizing s with
  | nil => cases h
  | cons call calls ih =>
    rw [handedOut, List.mem_append, Option.mem_toList] at h
    obtain h | h := h
    · exact (spawned_eq_some h).1.ge
    · exact le_nextPaneGeneration.trans (ih h)

theorem pairwise_handedOut (s : DaemonState) (calls : List Call) :
    (handedOut s calls).Pairwise (· < ·) := by
  induction calls generalizing s with
  | nil => exact .nil
  | cons call calls ih =>
    rw [handedOut, List.pairwise_append]
    refine ⟨?_, ih _, fun first here later there => ?_⟩
    · cases spawned s call <;> simp
    · rw [Option.mem_toList] at here
      rw [← Nat.succ_le_iff, Nat.succ_eq_add_one, ← (spawned_eq_some here).2]
      exact le_of_mem_handedOut there

end Generations

section Readers

def Op.reader : Op → Option Nat
  | .recordOutput _ generation _ _ | .markExited _ generation => some generation
  | _ => none

def Spares (generation : Nat) (s s' : DaemonState) : Prop :=
  ∀ i j pane, s.pane i j = some pane → pane.outputGeneration ≠ generation → s'.pane i j = some pane

theorem pane_removePane : (s.removePane sessionId paneId).pane i j =
    if i = sessionId ∧ j = paneId then none else s.pane i j := by
  rw [DaemonState.removePane]
  split
  · rename_i missing
    split
    · rename_i here
      rw [here.1, DaemonState.pane, Option.isNone_iff_eq_none.1 missing]
      rfl
    · rfl
  · show ((s.dropPane sessionId paneId).countPanes sessionId).pane i j = _
    rw [DaemonState.pane_countPanes, DaemonState.pane_dropPane]

theorem recordOutput_spares {bytes : Bytes} {captureSnapshot : Bool} :
    Respects (Spares generation)
      (recordOutputAndPushForGeneration env paneId generation bytes captureSnapshot) :=
  respects_of_wp fun s => by
    simp only [recordOutputAndPushForGeneration, wp_bind, wp_gets, wp_ite, wp_pure]
    refine ⟨fun _ _ _ _ here _ => here, fun current => ?_⟩
    obtain ⟨sessionId, read, found, at_, rfl⟩ :=
      DaemonState.paneOutputGeneration_eq_some.1 (not_not.1 current)
    rw [DaemonState.paneAnyMut_eq found at_]
    simp only [Except.toOption, wp_bind, wp_gets, wp_write, wp_pure]
    have same : (read.recordOutput bytes env.now).2.id = paneId := (DaemonState.pane_id at_ : read.id = paneId)
    intro i j pane here other
    rw [DaemonState.pane_putPane, same, if_neg, here]
    rintro ⟨rfl, rfl⟩
    cases here.symm.trans at_
    exact other rfl

theorem finishRemotePaneLease_pane {kind : RemotePaneLeaseEventKind} {reason : RemotePaneLeaseEventReason}
    {explicitRelease : Bool} :
    (finishRemotePaneLease env paneId kind reason false explicitRelease).wp
      (fun _ s' => s'.pane = s.pane) (fun _ _ => False) s := by
  simp only [finishRemotePaneLease, wp_bind, wp_gets]
  split
  · rfl
  · simp only [takePaneLeaseRevision, wp_bind, wp_write, wp_gets, wp_pure, wp_ite]
    exact ⟨fun h => absurd h Bool.false_ne_true, fun _ => rfl⟩

theorem markExited_spares : Respects (Spares generation) (markExitedForGeneration env paneId generation) :=
  respects_of_wp fun s => by
    simp only [markExitedForGeneration, wp_bind, wp_gets, wp_ite, wp_pure]
    refine ⟨fun _ _ _ _ here _ => here, fun current => ?_⟩
    obtain ⟨sessionId, read, found, at_, rfl⟩ :=
      DaemonState.paneOutputGeneration_eq_some.1 (not_not.1 current)
    rw [show (some <$> markExited env paneId : DaemonResult (Option PaneExitEffect)) =
      markExited env paneId >>= fun effect => pure (some effect) from rfl, wp_bind]
    simp only [markExited, wp_bind, wp_gets, wp_write, wp_pure, cleanupRemotePaneLeaseOnExit, found]
    refine wp_mono finishRemotePaneLease_pane ?_ fun _ _ => False.elim
    intro _ s₁ same i j pane here other
    rw [pane_removePane, same, if_neg, here]
    rintro ⟨rfl, rfl⟩
    cases here.symm.trans at_
    exact other rfl

theorem next_spares (reader : call.op.reader = some generation) : Spares generation s (next s call) := by
  obtain ⟨env, op⟩ := call
  cases op with
  | recordOutput paneId generation bytes captureSnapshot =>
    cases reader
    apply wp_snd.1
    simp only [perform, wp_bind, wp_pure]
    exact wp_snd.2 (recordOutput_spares.respects s)
  | markExited paneId generation =>
    cases reader
    apply wp_snd.1
    simp only [perform, wp_bind, wp_pure]
    exact wp_snd.2 (markExited_spares.respects s)
  | _ => cases reader

/-- In every run generations increase, and a reader touches panes of its own generation alone. -/
theorem readers_keep_to_their_generation (calls : List Call) :
    (handedOut .new calls).Pairwise (· < ·) ∧ ∀ call generation, call.op.reader = some generation →
      ∀ sessionId paneId pane, (run calls).pane sessionId paneId = some pane →
        pane.outputGeneration ≠ generation → (next (run calls) call).pane sessionId paneId = some pane :=
  ⟨pairwise_handedOut .new calls, fun _ _ reader => next_spares reader⟩

end Readers

end VibeLink.Daemon
