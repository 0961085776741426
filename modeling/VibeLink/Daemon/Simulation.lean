import VibeLink.Daemon.Moves

/-! Every call of the daemon, whatever becomes of it, is some moves on its board. -/

namespace VibeLink.Daemon

open VibeLink.Relational Tx

variable {call : Call} {s s' : DaemonState} {sessionId paneId : Uuid}

section Sizes

variable {env : Env} {cols rows : UInt16} {pty : Except String Unit} {lease : RemotePaneLease}

/-- The pane is there, and has the size already or is given it by its terminal. -/
def Board.Takes (b : Board) (sessionId paneId : Uuid) (cols rows : UInt16) (pty : Except String Unit) : Prop :=
  ∃ slot, b.panes sessionId paneId = some slot ∧
    ((slot.cols = max cols 1 ∧ slot.rows = max rows 1) ∨ pty = .ok ())

theorem resizePaneUnchecked_spec :
    (resizePaneUnchecked env sessionId paneId cols rows pty).wp
      (fun _ s' => (board s).Takes sessionId paneId cols rows pty ∧
        board s' = (board s).setSize sessionId paneId (max cols 1) (max rows 1))
      (fun _ s' => ¬(board s).Takes sessionId paneId cols rows pty ∧ s' = s) s := by
  simp only [resizePaneUnchecked, wp_bind, wp_reads, wp_ite, wp_pure, wp_ofExcept, wp_write, wp_gets,
    DaemonState.paneInSessionMut_eq_ok]
  constructor
  · intro pane here
    have slot := board_panes_of_pane here
    constructor
    · intro fits
      exact ⟨⟨_, slot, .inl fits⟩, (Board.setSize_self slot fits.1 fits.2).symm⟩
    · intro misfit
      rw [Pane.resize, if_neg misfit]
      cases pty with
      | error e =>
        simp only [Except.map, reduceCtorEq, false_implies, implies_true, true_and, and_true]
        rintro _ _ ⟨other, found, fits | ok⟩
        · rw [slot] at found
          cases found
          exact misfit fits
        · cases ok
      | ok _ =>
        simp only [Except.map, reduceCtorEq, false_implies, implies_true, and_true, Except.ok.injEq]
        rintro _ rfl
        refine ⟨⟨_, slot, .inr rfl⟩, ?_⟩
        apply board_putPane (pane.setSize _ _ (max_one_pos cols) (max_one_pos rows)) here <;> rfl
  · intro e missing
    refine ⟨?_, trivial⟩
    rintro ⟨slot, found, _⟩
    rw [board_panes, Option.map_eq_some_iff] at found
    obtain ⟨pane, here, _⟩ := found
    rw [DaemonState.paneInSessionMut_eq_ok.2 here] at missing
    cases missing

theorem resizeForLease_spec :
    (resizeForLease env lease cols rows pty).wp
      (fun _ s' => (board s).Takes lease.sessionId lease.paneId cols rows pty ∧
        board s' = (board s).setSize lease.sessionId lease.paneId (max cols 1) (max rows 1))
      (fun _ s' => ¬(board s).Takes lease.sessionId lease.paneId cols rows pty ∧ s' = s) s := by
  simp only [resizeForLease, wp_bind, wp_pure]
  exact resizePaneUnchecked_spec

end Sizes

section Endings

variable {env : Env} {lease : RemotePaneLease} {kind : RemotePaneLeaseEventKind}
  {reason : RemotePaneLeaseEventReason} {restore explicitRelease : Bool}

theorem Board.takes_iff_restores {b : Board} (leased : b.Leased lease) :
    b.Takes lease.sessionId lease.paneId lease.originalCols lease.originalRows (env.restores lease.paneId) ↔
      b.Restores env lease := by
  obtain ⟨slot, found, generation⟩ := leased
  simp only [Takes, Restores, Restored, max_one_of_pos lease.originalCols_pos,
    max_one_of_pos lease.originalRows_pos]
  constructor
  · rintro ⟨other, found', fits | ok⟩
    · exact ⟨⟨slot, found, generation⟩, .inl ⟨other, found', fits⟩⟩
    · exact ⟨⟨slot, found, generation⟩, .inr ok⟩
  · rintro ⟨-, ⟨other, found', fits⟩ | ok⟩
    · exact ⟨other, found', .inl fits⟩
    · exact ⟨slot, found, .inr ok⟩

theorem restoreRemotePaneLease_spec :
    (restoreRemotePaneLease env lease).wp
      (fun _ s' => ∃ restored : Bool, (restored = true ↔ (board s).Restores env lease) ∧
        board s' = if restored then (board s).setSize lease.sessionId lease.paneId lease.originalCols
          lease.originalRows else board s)
      (fun _ _ => False) s := by
  have leased {generation : Option Nat}
      (current : (s.pane lease.sessionId lease.paneId).map Pane.outputGeneration = generation) :
      (board s).Leased lease ↔ generation = some lease.paneGeneration := by
    simp only [Board.Leased, board_panes, ← current, Option.map_eq_some_iff]
    constructor
    · rintro ⟨_, ⟨pane, here, rfl⟩, generation⟩
      exact ⟨pane, here, generation⟩
    · rintro ⟨pane, here, generation⟩
      exact ⟨_, ⟨pane, here, rfl⟩, generation⟩
  simp only [restoreRemotePaneLease, wp_bind, wp_gets, wp_ite, wp_pure, wp_attempt]
  refine ⟨fun missing => ⟨false, ?_, rfl⟩, fun _ => ⟨fun mismatch => ⟨false, ?_, rfl⟩, fun same => ?_⟩⟩
  · simp [Board.Restores, leased missing]
  · simp [Board.Restores, leased rfl, mismatch]
  · have leased := (leased rfl).2 (not_not.1 same)
    refine wp_mono resizeForLease_spec ?_ ?_
    · rintro _ s' ⟨takes, moved⟩
      rw [max_one_of_pos lease.originalCols_pos, max_one_of_pos lease.originalRows_pos] at moved
      exact ⟨true, by simp [← Board.takes_iff_restores leased, takes], moved⟩
    · rintro _ s' ⟨refused, rfl⟩
      exact ⟨false, by simp [← Board.takes_iff_restores leased, refused], rfl⟩

/-- What the end of a lease hands to the caller: one event, about that lease. -/
def Ended (lease : RemotePaneLease) (kind : RemotePaneLeaseEventKind)
    (reason : RemotePaneLeaseEventReason) (transition : PaneLeaseTransition) : Prop :=
  ∃ revision restoration resize, transition.effects =
    [⟨some (leaseEvent { lease with revision } kind reason (some restoration)), resize⟩]

theorem board_erase : board { s with
    paneLeases := s.paneLeases.erase paneId
    nextPaneLeaseRevision := s.nextPaneLeaseRevision + 1 } = (board s).release paneId := by
  simp only [board, Board.release, Table.find_erase]
  rfl

theorem finishRemotePaneLease_spec :
    (finishRemotePaneLease env paneId kind reason restore explicitRelease).wp
      (fun finished s' =>
        (∀ lease, (board s).leases paneId = some lease → ∃ transition restored,
          finished = some transition ∧ Ended lease kind reason transition ∧
          (restored = true ↔ restore = true ∧ (board s).Restores env lease) ∧
          board s' = (board s).move (.finish lease restored)) ∧
        ((board s).leases paneId = none → finished = none ∧ s' = s))
      (fun _ _ => False) s := by
  simp only [finishRemotePaneLease, wp_bind, wp_gets]
  cases held : s.paneLeases.find paneId with
  | none =>
    refine ⟨fun lease h => ?_, fun _ => ⟨rfl, rfl⟩⟩
    cases held.symm.trans h
  | some lease =>
    have at_ : lease.paneId = paneId := Table.key_of_find held
    simp only [takePaneLeaseRevision, wp_bind, wp_write, wp_gets, wp_pure, wp_ite]
    constructor
    · intro restores
      refine wp_mono restoreRemotePaneLease_spec ?_ fun _ _ h => h
      rintro ⟨status, resize⟩ s' ⟨restored, iff, moved⟩
      refine ⟨fun other h => ?_, fun h => ?_⟩
      · cases held.symm.trans h
        refine ⟨_, restored, rfl, ⟨_, _, _, rfl⟩, ?_, ?_⟩
        · rw [iff, board_erase]
          exact (and_iff_right restores).symm
        · rw [moved, board_erase, Board.move, at_]
          split <;> rfl
      · cases held.symm.trans h
    · intro keeps
      refine ⟨fun other h => ?_, fun h => ?_⟩
      · cases held.symm.trans h
        refine ⟨_, false, rfl, ⟨_, _, _, rfl⟩, by simp [keeps], ?_⟩
        rw [board_erase, Board.move, at_]
        rfl
      · cases held.symm.trans h

end Endings

section Claims

variable {env : Env} {lease : RemotePaneLease} {kind : RemotePaneLeaseEventKind}
  {reason : RemotePaneLeaseEventReason} {request : RemotePaneLeaseClaimRequest}

/-- The target of the lease is the size of its pane, or its terminal takes it. -/
def Board.Grants (b : Board) (env : Env) (lease : RemotePaneLease) : Prop :=
  b.Takes lease.sessionId lease.paneId lease.targetCols lease.targetRows env.resizes

theorem grantLease_spec :
    (grantLease env lease kind reason).wp
      (fun effect s' => (board s).Grants env lease ∧ effect.event = some (leaseEvent lease kind reason none) ∧
        board s' = ((board s).setSize lease.sessionId lease.paneId (max lease.targetCols 1)
          (max lease.targetRows 1)).hold lease)
      (fun _ s' => ¬(board s).Grants env lease ∧ s' = s) s := by
  simp only [grantLease, wp_bind, wp_write, wp_pure]
  refine wp_mono resizeForLease_spec ?_ fun _ _ h => h
  rintro _ s₁ ⟨takes, moved⟩
  refine ⟨takes, trivial, ?_⟩
  rw [← moved]
  simp only [board, Board.hold, Table.find_put]
  rfl

def ExpiredFirst (env : Env) (paneId : Uuid) (s : DaemonState) (expired : Option PaneLeaseTransition)
    (s' : DaemonState) : Prop :=
  (∃ lease transition restored, (board s).leases paneId = some lease ∧ lease.expiresAt ≤ env.now ∧
    expired = some transition ∧ Ended lease .lost .expired transition ∧
    (restored = true ↔ (board s).Restores env lease) ∧
    board s' = (board s).move (.finish lease restored)) ∨
  (expired = none ∧ s' = s ∧ ∀ lease, (board s).leases paneId = some lease → env.now < lease.expiresAt)

theorem validateRemoteGeometry_pos {cols rows : UInt16} (h : validateRemoteGeometry cols rows = .ok ()) :
    0 < cols ∧ 0 < rows := by
  simp only [validateRemoteGeometry] at h
  split at h
  · cases h
  · split at h
    · cases h
    · rename_i hcols hrows
      rw [not_not] at hcols hrows
      exact ⟨UInt16.lt_of_lt_of_le (show 0 < 20 by decide) hcols.1,
        UInt16.lt_of_lt_of_le (show 0 < 5 by decide) hrows.1⟩

theorem expireHeldLease_spec :
    (expireHeldLease env paneId).wp
      (fun expired s' => ExpiredFirst env paneId s expired s') (fun _ _ => False) s := by
  simp only [expireHeldLease, wp_bind, wp_gets, wp_ite, wp_pure]
  constructor
  · intro hasExpired
    obtain ⟨lease, held, late⟩ := (Option.any_eq_true _ _).1 hasExpired
    refine wp_mono finishRemotePaneLease_spec ?_ fun _ _ h => h
    rintro _ s' ⟨ended, _⟩
    obtain ⟨transition, restored, finished, event, iff, moved⟩ := ended lease held
    rw [and_iff_right rfl] at iff
    exact .inl ⟨lease, transition, restored, held, of_decide_eq_true late, finished, event, iff, moved⟩
  · intro current
    refine .inr ⟨rfl, rfl, fun lease held => ?_⟩
    by_contra late
    exact current ((Option.any_eq_true _ _).2 ⟨lease, held, decide_eq_true (not_lt.1 late)⟩)

theorem ExpiredFirst.isSome {expired : Option PaneLeaseTransition} (h : ExpiredFirst env paneId s expired s')
    (i j : Uuid) : ((board s').panes i j).isSome = ((board s).panes i j).isSome := by
  obtain ⟨lease, _, restored, _, _, _, _, _, moved⟩ | ⟨_, rfl, _⟩ := h
  · rw [moved]
    cases restored with
    | false => rfl
    | true =>
      simp only [Board.move, if_true, Board.panes_release, Board.setSize, Board.edit]
      split <;> simp
  · rfl

theorem ExpiredFirst.of_held {expired : Option PaneLeaseTransition} {current : RemotePaneLease}
    (h : ExpiredFirst env paneId s expired s') (held : (board s').leases paneId = some current) :
    expired = none ∧ s' = s ∧ env.now < current.expiresAt := by
  obtain ⟨lease, _, restored, found, _, _, _, _, moved⟩ | ⟨none_, rfl, later⟩ := h
  · have at_ : lease.paneId = paneId := Table.key_of_find found
    rw [moved, Board.move, Board.leases_release, at_, Function.update_self] at held
    cases held
  · exact ⟨none_, rfl, later current held⟩

def PaneLeaseTransition.Refused (transition : PaneLeaseTransition) : Prop :=
  (∃ lease, transition = busyTransition lease) ∨ ∃ lease reason, transition = staleTransition lease reason

theorem PaneLeaseTransition.Refused.effects {transition : PaneLeaseTransition} (h : transition.Refused) :
    transition.effects = [] := by
  obtain ⟨_, rfl⟩ | ⟨_, _, rfl⟩ := h <;> rfl

theorem PaneLeaseTransition.Refused.ne_updated {transition : PaneLeaseTransition} (h : transition.Refused) :
    transition.result ≠ .updated lease := by
  obtain ⟨_, rfl⟩ | ⟨_, _, rfl⟩ := h <;> exact nofun

theorem PaneLeaseTransition.Refused.ne_renewed {transition : PaneLeaseTransition} (h : transition.Refused) :
    transition.result ≠ .renewed lease := by
  obtain ⟨_, rfl⟩ | ⟨_, _, rfl⟩ := h <;> exact nofun

theorem claimRefusal_refused {current : RemotePaneLease} {paneGeneration : Nat} {refusal : PaneLeaseTransition}
    (h : claimRefusal current request paneGeneration = some refusal) : refusal.Refused := by
  simp only [claimRefusal] at h
  split_ifs at h <;> cases h
  · exact .inl ⟨_, rfl⟩
  all_goals exact .inr ⟨_, _, rfl⟩

theorem claimRefusal_eq_none {current : RemotePaneLease} {paneGeneration : Nat}
    (h : claimRefusal current request paneGeneration = none) : current.sessionId = request.sessionId ∧
      current.paneGeneration = paneGeneration := by
  simp only [claimRefusal] at h
  split_ifs at h
  rename_i session generation _ _
  exact ⟨not_not.1 session, not_not.1 generation⟩

/-- The request asks for a size that remote panes may have, on a pane that is in its workspace. -/
def Admissible (s : DaemonState) (request : RemotePaneLeaseClaimRequest) : Prop :=
  validateRemoteGeometry request.cols request.rows = .ok () ∧
    (s.pane request.sessionId request.paneId).isSome

/-- The lease that a claim or an update writes, and what it hands to the caller about that. -/
def Granted (env : Env) (request : RemotePaneLeaseClaimRequest) (b : Board)
    (result : RemotePaneLeaseResult) (effect : PaneLeaseEffect) (b' : Board) : Prop :=
  ∃ lease m kind reason,
    (m = .claim lease ∧ result = .claimed lease ∧ kind = .claimed ∨
      m = .update lease ∧ result = .updated lease ∧ kind = .updated) ∧
    lease.paneId = request.paneId ∧ effect.event = some (leaseEvent lease kind reason none) ∧
    (∀ start, Permitted ⟨env, .claimOrUpdateLease request⟩ start b m) ∧ b' = b.move m

theorem claimOrUpdate_spec :
    (claimOrUpdateRemotePaneLease env request).wp
      (fun transition s' => Admissible s request ∧ ∃ expired s₁, ExpiredFirst env request.paneId s expired s₁ ∧
        ((expired = none ∧ transition.Refused ∧ s' = s₁) ∨
          (board s₁).Takes request.sessionId request.paneId request.cols request.rows env.resizes ∧
          ∃ effect, Granted env request (board s₁) transition.result effect (board s') ∧
            transition.effects = (expired.map PaneLeaseTransition.effects).getD [] ++ [effect]))
      (fun _ s' => (¬Admissible s request ∧ s' = s) ∨
        Admissible s request ∧ ∃ expired s₁, ExpiredFirst env request.paneId s expired s₁ ∧
          ¬(board s₁).Takes request.sessionId request.paneId request.cols request.rows env.resizes ∧
          board s' = board s₁) s := by
  simp only [claimOrUpdateRemotePaneLease, wp_bind, wp_ofExcept, wp_reads, wp_gets,
    DaemonState.paneInSession_eq_ok]
  refine ⟨fun _ valid => ⟨fun pane here => ?_, fun e missing => ?_⟩, fun e invalid => ?_⟩
  · have admissible : Admissible s request := ⟨valid, by rw [here]; rfl⟩
    obtain ⟨cols_pos, rows_pos⟩ := validateRemoteGeometry_pos valid
    refine wp_mono expireHeldLease_spec ?_ fun _ _ => False.elim
    intro expired s₁ first
    refine ⟨fun pane here => ?_, fun e missing => ?_⟩
    · have leased := board_panes_of_pane here
      cases held : s₁.paneLeases.find request.paneId with
      | some current =>
        obtain ⟨none_, same, later⟩ := first.of_held held
        dsimp only
        cases refused : claimRefusal current request pane.outputGeneration with
        | some refusal =>
          exact ⟨admissible, expired, s₁, first, .inl ⟨none_, claimRefusal_refused refused, rfl⟩⟩
        | none =>
          obtain ⟨session, generation⟩ := claimRefusal_eq_none refused
          have at_ : current.paneId = request.paneId := Table.key_of_find held
          simp only [takePaneLeaseRevision, wp_bind, wp_gets, wp_write, wp_pure]
          refine wp_mono grantLease_spec ?_ ?_
          · rintro effect s' ⟨grants, event, moved⟩
            rw [Board.Grants, updatedLease, session, at_] at grants
            refine ⟨admissible, expired, s₁, first, .inr ⟨grants, effect, ?_, rfl⟩⟩
            refine ⟨updatedLease env current request s₁.nextPaneLeaseRevision, .update _, _, _,
              .inr ⟨rfl, rfl, rfl⟩, at_, event, fun start => ?_, ?_⟩
            · have leased : (board s₁).Leased current := by
                rw [← session, ← at_] at leased
                exact ⟨_, leased, generation.symm⟩
              rw [← at_] at held
              exact .update rfl held later ⟨rfl, rfl, rfl, rfl, rfl, rfl, rfl, rfl⟩ leased
            · rw [moved, updatedLease, max_one_of_pos cols_pos, max_one_of_pos rows_pos]
              rfl
          · rintro _ s' ⟨refused, rfl⟩
            rw [Board.Grants, updatedLease, session, at_] at refused
            exact .inr ⟨admissible, expired, s₁, first, refused, rfl⟩
      | none =>
        dsimp only
        simp only [takePaneLeaseRevision, wp_bind, wp_gets, wp_write, wp_pure]
        refine wp_mono grantLease_spec ?_ ?_
        · rintro effect s' ⟨grants, event, moved⟩
          refine ⟨admissible, expired, s₁, first, .inr ⟨grants, effect, ?_, rfl⟩⟩
          refine ⟨_, .claim _, _, _, .inl ⟨rfl, rfl, rfl⟩, rfl, event, fun start => ?_, ?_⟩
          · exact .claim rfl rfl held rfl ⟨_, leased, rfl⟩ ⟨_, leased, rfl, rfl⟩
          · rw [moved, claimedLease, max_one_of_pos cols_pos, max_one_of_pos rows_pos]
            rfl
        · rintro _ s' ⟨refused, rfl⟩
          exact .inr ⟨admissible, expired, s₁, first, refused, rfl⟩
    · have exists_ := first.isSome request.sessionId request.paneId
      rw [board_panes, board_panes, here] at exists_
      obtain ⟨pane, here⟩ := Option.isSome_iff_exists.1 (Option.isSome_map ▸ exists_)
      rw [DaemonState.paneInSession_eq_ok.2 here] at missing
      cases missing
  · refine .inl ⟨?_, trivial⟩
    rintro ⟨_, exists_⟩
    obtain ⟨pane, here⟩ := Option.isSome_iff_exists.1 exists_
    rw [DaemonState.paneInSession_eq_ok.2 here] at missing
    cases missing
  · refine .inl ⟨?_, trivial⟩
    rintro ⟨valid, _⟩
    rw [valid] at invalid
    cases invalid

end Claims

section Calls

variable {restore : Bool}

theorem finish_within (paneId : Uuid) (kind : RemotePaneLeaseEventKind) (reason : RemotePaneLeaseEventReason)
    (explicitRelease : Bool) (ends : call.op.ending = some restore) :
    Respects (Within call) (finishRemotePaneLease call.env paneId kind reason restore explicitRelease) :=
  respects_of_wp fun s => by
    refine wp_mono finishRemotePaneLease_spec ?_ fun _ _ => False.elim
    rintro finished s' ⟨ended, nothing⟩
    cases held : (board s).leases paneId with
    | none =>
      rw [(nothing held).2]
      exact .rfl
    | some lease =>
      obtain ⟨_, restored, _, _, iff, moved⟩ := ended lease held
      rw [← (Table.key_of_find held : lease.paneId = paneId)] at held
      exact .of_move (fun _ => .finish ends held iff) moved

theorem finishes_within (reason : RemotePaneLeaseEventReason) (ends : call.op.ending = some restore)
    (paneIds : List Uuid) :
    Respects (Within call) (finishRemotePaneLeases call.env reason restore paneIds) := by
  have round (paneId : Uuid) := finish_within paneId .lost reason false ends
  rw [finishRemotePaneLeases]
  infer_instance

theorem ExpiredFirst.within {expired : Option PaneLeaseTransition} (ends : call.op.ending = some true)
    (h : ExpiredFirst call.env paneId s expired s') : Within call s s' := by
  obtain ⟨lease, _, restored, held, _, _, _, iff, moved⟩ | ⟨_, rfl, _⟩ := h
  · rw [← (Table.key_of_find held : lease.paneId = paneId)] at held
    exact .of_move (fun _ => .finish ends held (iff.trans (and_iff_right rfl).symm)) moved
  · exact .rfl

theorem claim_within {env : Env} {request : RemotePaneLeaseClaimRequest} :
    Respects (Within ⟨env, .claimOrUpdateLease request⟩) (claimOrUpdateRemotePaneLease env request) :=
  respects_of_wp fun s => by
    have within {expired s₁} (first : ExpiredFirst env request.paneId s expired s₁) :
        Within ⟨env, .claimOrUpdateLease request⟩ s s₁ := first.within rfl
    refine wp_mono claimOrUpdate_spec ?_ ?_
    · rintro _ s' ⟨_, expired, s₁, first, ⟨_, _, rfl⟩ | ⟨_, effect, granted, _⟩⟩
      · exact within first
      · obtain ⟨_, m, _, _, _, _, _, permitted, moved⟩ := granted
        exact (within first).trans (.of_move permitted moved)
    · rintro _ s' (⟨_, rfl⟩ | ⟨_, expired, s₁, first, _, same⟩)
      · exact .rfl
      · exact (within first).trans (.of_board same)

theorem authorized_size {env : Env} {cols rows : UInt16} {origin : PaneCommandOrigin}
    {lease : RemotePaneLease} (authorized : s.authorizePaneCommand env sessionId paneId origin = .ok ())
    (checked : s.checkRemoteResize env paneId cols rows origin = .ok ())
    (held : s.paneLeases.find paneId = some lease) (active : env.later < lease.expiresAt) :
    max cols 1 = lease.targetCols ∧ max rows 1 = lease.targetRows := by
  obtain ⟨pane, _, entitled⟩ := authorizePaneCommand_eq_ok.1 authorized
  cases origin with
  | desktop =>
    have late := DaemonState.activeLease_eq_none.1 entitled lease held
    exact absurd (active.trans_le late) (Nat.not_lt_of_le env.now_le)
  | remote ownerConnectionId deviceId leaseId revision =>
    have leased := DaemonState.activeLease_eq_some.2 ⟨held, active⟩
    simp only [DaemonState.checkRemoteResize, Bind.bind, Except.bind] at checked
    split at checked
    · cases checked
    · rename_i valid
      obtain ⟨cols_pos, rows_pos⟩ := validateRemoteGeometry_pos valid
      rw [leased] at checked
      dsimp only at checked
      split at checked
      · cases checked
      · rename_i target
        rw [not_not, Prod.mk.injEq] at target
        rw [max_one_of_pos cols_pos, max_one_of_pos rows_pos]
        exact target

theorem resize_within {cols rows : UInt16} {origin : PaneCommandOrigin} :
    Respects (Within call) (resizePaneAuthorized call.env sessionId paneId cols rows origin) :=
  respects_of_wp fun s => by
    simp only [resizePaneAuthorized, wp_bind, wp_reads]
    refine ⟨fun _ authorized => ⟨fun _ checked => ?_, fun _ _ => .rfl⟩, fun _ _ => .rfl⟩
    refine wp_mono resizePaneUnchecked_spec ?_ ?_
    · rintro _ s' ⟨_, moved⟩
      exact .of_move (fun _ => .resize fun lease held active =>
        authorized_size authorized checked held active) moved
    · rintro _ s' ⟨_, rfl⟩
      exact .rfl

theorem release_within {request : RemotePaneLeaseReleaseRequest} (ends : call.op.ending = some true) :
    Respects (Within call) (releaseRemotePaneLease call.env request) := by
  have finish := finish_within request.paneId .released .released true ends
  refine respects_of_wp fun s => ?_
  simp only [releaseRemotePaneLease, wp_bind, wp_gets]
  split
  · exact .rfl
  · split
    · exact .rfl
    · simp only [wp_bind, wp_expect]
      exact wp_of_respects (Within call) (fun _ _ h => ⟨fun _ _ => h, fun _ => h⟩) fun _ _ h => h

theorem adminReclaim_within {request : RemotePaneLeaseAdminReclaimRequest} (ends : call.op.ending = some true) :
    Respects (Within call) (adminReclaimRemotePaneLease call.env request) := by
  have finish := finish_within request.paneId .lost .adminReclaimed false ends
  rw [adminReclaimRemotePaneLease]
  infer_instance

theorem expire_within (ends : call.op.ending = some true) :
    Respects (Within call) (expireRemotePaneLeases call.env) := by
  have finishes := finishes_within .expired ends
  rw [expireRemotePaneLeases]
  infer_instance

theorem cleanupConnection_within {request : RemoteConnectionCleanupRequest} (ends : call.op.ending = some true) :
    Respects (Within call) (cleanupRemoteConnectionLeases call.env request) := by
  have finishes := finishes_within .connectionClosed ends
  rw [cleanupRemoteConnectionLeases]
  infer_instance

theorem cleanupOnExit_within (ends : call.op.ending = some false) :
    Respects (Within call) (cleanupRemotePaneLeaseOnExit call.env paneId) :=
  finish_within _ _ _ _ ends

theorem markExited_within {generation : Nat} (ends : call.op.ending = some false) :
    Respects (Within call) (markExitedForGeneration call.env paneId generation) := by
  have cleanup : Respects _ (cleanupRemotePaneLeaseOnExit _ paneId) := cleanupOnExit_within ends
  have exits : Respects (Within call) (markExited call.env paneId) := by
    rw [markExited]
    refine Respects.bind (k := fun owner => Respects.bind (k := fun _ => Respects.bind (k := fun _ =>
      Respects.bind (h := respects_write fun s => ?_))))
    cases owner with
    | some owner => exact within_removePane
    | none => exact .of_board rfl
  have exits : Respects (Within call) (some <$> markExited call.env paneId) :=
    inferInstanceAs (Respects (Within call) (markExited call.env paneId >>= fun a => pure (some a)))
  rw [markExitedForGeneration]
  infer_instance

theorem renewRemotePaneLease_spec {env : Env} {request : RemotePaneLeaseRenewRequest} :
    (renewRemotePaneLease env request).wp
      (fun transition s' => (transition.Refused ∧ s' = s) ∨
        ∃ current, s.paneLeases.find request.paneId = some current ∧ Matches request current ∧
          (board s).Leased current ∧
          (∃ lease revision, lease = renewedLease env current request revision ∧
            transition = ⟨.renewed lease, [⟨some (leaseEvent lease .updated .renewed none), none⟩]⟩ ∧
            board s' = (board s).move (.renew lease)))
      (fun _ s' => s' = s) s := by
  simp only [renewRemotePaneLease, wp_bind, wp_gets]
  cases held : s.paneLeases.find request.paneId with
  | none => exact .inl ⟨.inr ⟨_, _, rfl⟩, rfl⟩
  | some current =>
    dsimp only
    split
    · exact .inl ⟨.inr ⟨_, _, rfl⟩, rfl⟩
    · rename_i fits
      simp only [wp_bind, wp_reads, wp_ite, wp_pure, takePaneLeaseRevision, wp_gets, wp_write,
        DaemonState.paneInSession_eq_ok]
      refine ⟨fun pane here => ⟨fun _ => .inl ⟨.inr ⟨_, _, rfl⟩, trivial⟩, fun same => ?_⟩, fun _ _ => trivial⟩
      have session : current.sessionId = request.sessionId := by
        simp only [leaseRequestStaleReason] at fits
        split_ifs at fits
        rename_i session _ _
        exact not_not.1 session
      have at_ : current.paneId = request.paneId := Table.key_of_find held
      rw [← session, ← at_] at here
      refine .inr ⟨current, rfl, fits, ⟨_, board_panes_of_pane here, (not_not.1 same).symm⟩, _, _, rfl, rfl, ?_⟩
      simp only [board, Board.move, Board.hold, Table.find_put]
      rfl

theorem renew_moves {env : Env} {request : RemotePaneLeaseRenewRequest} :
    Moves ⟨env, .renewLease request⟩ (board s) (board s) (board (renewRemotePaneLease env request s).2) := by
  apply (wp_snd (I := fun s' => Moves _ (board s) (board s) (board s'))).1
  refine wp_mono renewRemotePaneLease_spec ?_ ?_
  · rintro _ s' (⟨_, rfl⟩ | ⟨current, held, fits, leased, _, revision, rfl, _, moved⟩)
    · exact .refl
    · have continues : Continues current (renewedLease env current request revision) :=
        ⟨rfl, rfl, rfl, rfl, rfl, rfl, rfl, rfl⟩
      exact .single (.renew rfl rfl held fits continues rfl rfl leased) moved
  · rintro _ _ rfl
    exact .refl

end Calls

theorem perform_within (call : Call) (other : ∀ request, call.op ≠ .renewLease request) :
    Respects (Within call) (perform call) := by
  obtain ⟨env, op⟩ := call
  cases op with
  | insertPane sessionId pane =>
    have : Respects (Within ⟨env, _⟩) (insertPaneOrRecover sessionId pane) :=
      insertPaneOrRecover_within rfl
    exact inferInstanceAs (Respects _ (quietly _))
  | recordOutput paneId generation bytes captureSnapshot =>
    have : Respects (Within ⟨env, .recordOutput paneId generation bytes captureSnapshot⟩)
        (recordOutputAndPushForGeneration env paneId generation bytes captureSnapshot) :=
      recordOutput_within rfl
    dsimp only [perform]
    infer_instance
  | markExited paneId generation =>
    have : Respects (Within ⟨env, .markExited paneId generation⟩)
        (markExitedForGeneration env paneId generation) := markExited_within rfl
    dsimp only [perform]
    infer_instance
  | resizePane sessionId paneId cols rows origin =>
    have : Respects (Within ⟨env, .resizePane sessionId paneId cols rows origin⟩)
        (resizePaneAuthorized env sessionId paneId cols rows origin) := resize_within
    dsimp only [perform]
    infer_instance
  | claimOrUpdateLease request =>
    have : Respects (Within ⟨env, .claimOrUpdateLease request⟩)
        (claimOrUpdateRemotePaneLease env request) := claim_within
    dsimp only [perform]
    infer_instance
  | releaseLease request =>
    have : Respects (Within ⟨env, .releaseLease request⟩)
        (releaseRemotePaneLease env request) := release_within rfl
    dsimp only [perform]
    infer_instance
  | adminReclaimLease request =>
    have : Respects (Within ⟨env, .adminReclaimLease request⟩)
        (adminReclaimRemotePaneLease env request) := adminReclaim_within rfl
    dsimp only [perform]
    infer_instance
  | expireLeases =>
    have : Respects (Within ⟨env, .expireLeases⟩) (expireRemotePaneLeases env) := expire_within rfl
    dsimp only [perform]
    infer_instance
  | cleanupConnectionLeases request =>
    have : Respects (Within ⟨env, .cleanupConnectionLeases request⟩)
        (cleanupRemoteConnectionLeases env request) := cleanupConnection_within rfl
    dsimp only [perform]
    infer_instance
  | cleanupLeaseOnExit paneId =>
    have : Respects (Within ⟨env, .cleanupLeaseOnExit paneId⟩)
        (cleanupRemotePaneLeaseOnExit env paneId) := cleanupOnExit_within rfl
    dsimp only [perform]
    infer_instance
  | cleanupLeasesOnExit paneIds =>
    have : Respects (Within ⟨env, .cleanupLeasesOnExit paneIds⟩)
        (cleanupRemotePaneLeasesOnExit env paneIds) :=
      finishes_within _ rfl paneIds
    dsimp only [perform]
    infer_instance
  | renewLease request => exact absurd rfl (other request)
  | _ =>
    dsimp only [perform]
    infer_instance

theorem next_moves (s : DaemonState) (call : Call) :
    Moves call (board s) (board s) (board (next s call)) := by
  by_cases renewal : ∃ request, call.op = .renewLease request
  · obtain ⟨env, op⟩ := call
    obtain ⟨request, rfl⟩ := renewal
    apply (wp_snd (I := fun s' => Moves _ (board s) (board s) (board s'))).1
    simp only [perform, wp_bind, wp_pure]
    exact wp_snd.2 renew_moves
  · have := perform_within call fun request is => renewal ⟨request, is⟩
    exact (Respects.respects (R := Within call) s) (board s)

end VibeLink.Daemon
