import VibeLink.Daemon.Issuing

/-! While a pane is leased it has the size that its lease negotiated, and nobody but the owner of the
lease writes to it or resizes it. -/

namespace VibeLink.Daemon

open VibeLink.Relational Tx

/-- A renewal of a lease that has expired, although its pane has another size by now. -/
def Revives (s : DaemonState) (call : Call) : Prop :=
  ∃ request ∈ call.op.renewal, ∃ lease ∈ s.paneLeases.find request.paneId,
    Matches request lease ∧ lease.expiresAt ≤ call.env.now ∧
      ∃ pane ∈ s.pane lease.sessionId lease.paneId, pane.outputGeneration = lease.paneGeneration ∧
        (pane.config.cols, pane.config.rows) ≠ (lease.targetCols, lease.targetRows)

instance (s : DaemonState) (call : Call) : Decidable (Revives s call) :=
  inferInstanceAs (Decidable (∃ request ∈ call.op.renewal, ∃ lease ∈ s.paneLeases.find request.paneId, _))

/-- What a lease of a pane is for, at a time when it has not expired. -/
structure Guards (s : DaemonState) (env : Env) (lease : RemotePaneLease) (pane : Pane) : Prop where
  cols : pane.config.cols = lease.targetCols
  rows : pane.config.rows = lease.targetRows
  desktopWrite : s.paneWriterAuthorized env lease.sessionId lease.paneId .desktop =
    .error "desktop pane command rejected while remote lease is active"
  desktopResize : ∀ cols rows, resizePaneAuthorized env lease.sessionId lease.paneId cols rows .desktop s =
    (.error "desktop pane command rejected while remote lease is active", s)
  remoteWrite : ∀ ownerConnectionId deviceId leaseId revision,
    s.paneWriterAuthorized env lease.sessionId lease.paneId
      (.remote ownerConnectionId deviceId leaseId revision) = .ok () →
    Presents lease lease.sessionId lease.paneId pane ownerConnectionId deviceId leaseId revision
  remoteResize : ∀ ownerConnectionId deviceId leaseId revision cols rows senders s',
    resizePaneAuthorized env lease.sessionId lease.paneId cols rows
      (.remote ownerConnectionId deviceId leaseId revision) s = (.ok senders, s') →
    Presents lease lease.sessionId lease.paneId pane ownerConnectionId deviceId leaseId revision

namespace Board

variable {b : Board} {call : Call} {start : Board} {m : Move} {lease current : RemotePaneLease} {t t' : Nat}

/-- Leases that have not expired by `t` agree with their panes on the size. -/
def Fits (t : Nat) (b : Board) : Prop :=
  ∀ p lease slot, b.leases p = some lease → t < lease.expiresAt →
    b.panes lease.sessionId p = some slot → slot.generation = lease.paneGeneration →
    slot.cols = lease.targetCols ∧ slot.rows = lease.targetRows

theorem Fits.later (fits : b.Fits t) (h : t ≤ t') : b.Fits t' :=
  fun p lease slot held active => fits p lease slot held (h.trans_lt active)

theorem Fits.granted (fits : b.Fits t) :
    ((b.setSize lease.sessionId lease.paneId lease.targetCols lease.targetRows).hold lease).Fits t := by
  intro p l slot held active found same
  obtain ⟨rfl, rfl⟩ | ⟨other, held⟩ := update_eq_some.1 held
  · obtain ⟨old, _, rfl⟩ := panes_edit_eq_some.1 found
    rw [if_pos ⟨rfl, rfl⟩]
    exact ⟨rfl, rfl⟩
  · obtain ⟨old, before, rfl⟩ := panes_edit_eq_some.1 found
    rw [if_neg fun here => other here.2] at same ⊢
    exact fits p l old held active before same

theorem Fits.move (fits : b.Fits call.env.later) (numbered : b.Numbered)
    (permitted : Permitted call start b m) (other : ∀ lease, m ≠ .renew lease) :
    (b.move m).Fits call.env.later := by
  cases permitted with
  | @spawn sessionId pane _ =>
    intro p l slot held active found same
    simp only [Board.move] at found held
    split at found
    · cases found
      exact absurd same (numbered.bounded p l held).ne'
    · exact fits p l slot held active found same
  | drop kept =>
    intro p l slot held active found same
    simp only [Board.move] at found held
    split at found
    · exact fits p l slot held active found same
    · cases found
  | @output sessionId paneId _ _ _ _ _ =>
    intro p l slot held active found same
    obtain ⟨old, before, rfl⟩ := panes_edit_eq_some.1 found
    have sizes := fits p l old held active before
    by_cases here : l.sessionId = sessionId ∧ p = paneId
    · rw [if_pos here] at same ⊢
      exact sizes same
    · rw [if_neg here] at same ⊢
      exact sizes same
  | @resize sessionId paneId cols rows target =>
    intro p l slot held active found same
    obtain ⟨old, before, rfl⟩ := panes_edit_eq_some.1 found
    by_cases here : l.sessionId = sessionId ∧ p = paneId
    · rw [if_pos here]
      exact target l (here.2 ▸ held) active
    · rw [if_neg here] at same ⊢
      exact fits p l old held active before same
  | claim _ _ _ _ _ _ => exact fits.granted
  | update _ _ _ _ _ => exact fits.granted
  | @renew _ _ lease => exact absurd rfl (other lease)
  | finish _ _ _ =>
    intro p l slot held' active found same
    obtain ⟨hp, held'⟩ := leases_finish_eq_some.1 held'
    simp only [Board.move, panes_release] at found
    split at found
    · obtain ⟨old, before, rfl⟩ := panes_edit_eq_some.1 found
      rw [if_neg fun here => hp here.2] at same ⊢
      exact fits p l old held' active before same
    · exact fits p l slot held' active found same

end Board

variable {s : DaemonState} {call : Call} {env : Env} {t : Nat} {lease : RemotePaneLease} {pane : Pane}

theorem fits_renewed (fits : (board s).Fits t) (timely : t ≤ call.env.now) (kept : ¬Revives s call)
    {request : RemotePaneLeaseRenewRequest} {current : RemotePaneLease} {slot : Slot}
    (op : call.op = .renewLease request) (held : (board s).leases request.paneId = some current)
    (named : Matches request current)
    (found : (board s).panes current.sessionId current.paneId = some slot)
    (same : slot.generation = current.paneGeneration) :
    slot.cols = current.targetCols ∧ slot.rows = current.targetRows := by
  have at_ : current.paneId = request.paneId := Table.key_of_find held
  by_cases active : call.env.now < current.expiresAt
  · rw [at_] at found
    exact fits request.paneId current slot held (timely.trans_lt active) found same
  · by_contra differ
    obtain ⟨pane, here, rfl⟩ := Option.map_eq_some_iff.1 found
    refine kept ⟨request, by rw [op]; rfl, current, held, named, not_lt.1 active, pane, here, same, ?_⟩
    rwa [ne_eq, Prod.mk.injEq]

theorem next_fits (fits : (board s).Fits t) (numbered : (board s).Numbered) (timely : t ≤ call.env.now)
    (kept : ¬Revives s call) : (board (next s call)).Fits call.env.later := by
  have later := timely.trans call.env.now_le
  have moves := next_moves s call
  refine (moves.preserves (I := fun b => b.Fits call.env.later ∧ b.Numbered) ?_ ⟨fits.later later, numbered⟩).1
  rintro m b _ permitted rfl ⟨fits', numbered'⟩
  refine ⟨?_, numbered'.move permitted⟩
  by_cases other : ∀ lease, m ≠ .renew lease
  · exact fits'.move numbered' permitted other
  · obtain ⟨lease, rfl⟩ := not_forall_not.1 other
    cases permitted with
    | renew atStart op held named continues cols rows leased =>
      subst atStart
      intro p l slot held' active found same
      obtain ⟨rfl, rfl⟩ | ⟨_, held'⟩ := update_eq_some.1 held'
      · rw [cols, rows]
        rw [continues.sessionId, continues.paneId] at found
        exact fits_renewed fits timely kept op held named found (same.trans continues.paneGeneration)
      · exact fits' p l slot held' active found same

theorem guards_of_fits (fits : (board s).Fits t) (timely : t ≤ env.now)
    (held : s.paneLeases.find lease.paneId = some lease) (active : env.now < lease.expiresAt)
    (here : s.pane lease.sessionId lease.paneId = some pane)
    (same : pane.outputGeneration = lease.paneGeneration) : Guards s env lease pane := by
  have leased := DaemonState.activeLease_eq_some.2 ⟨held, active⟩
  have desktop : s.authorizePaneCommand env lease.sessionId lease.paneId .desktop =
      .error "desktop pane command rejected while remote lease is active" := by
    rw [DaemonState.authorizePaneCommand, DaemonState.paneInSession_eq_ok.2 here, leased]
    rfl
  have shown {ownerConnectionId deviceId leaseId revision}
      (ok : s.authorizePaneCommand env lease.sessionId lease.paneId
        (.remote ownerConnectionId deviceId leaseId revision) = .ok ()) :
      Presents lease lease.sessionId lease.paneId pane ownerConnectionId deviceId leaseId revision := by
    obtain ⟨found, at_, entitled⟩ := authorizePaneCommand_eq_ok.1 ok
    rw [here] at at_
    cases at_
    rwa [leased] at entitled
  have sizes := fits _ lease _ held (timely.trans_lt active) (board_panes_of_pane here) same
  constructor
  · exact sizes.1
  · exact sizes.2
  · rw [DaemonState.paneWriterAuthorized, desktop]
    rfl
  · intro cols rows
    simp only [resizePaneAuthorized, Bind.bind, Tx.reads, desktop]
  · intro ownerConnectionId deviceId leaseId revision ok
    exact shown (authorized_of_writer ok)
  · intro ownerConnectionId deviceId leaseId revision cols rows senders s' ok
    exact shown (authorized_of_resize ok)

theorem run_fits {calls : List Call}
    (kept : Throughout Moment.next (fun m call => m.Timely call ∧ ¬Revives m.state call) .start calls) :
    (board (Moment.after calls).state).Fits (Moment.after calls).clock ∧
      (board (Moment.after calls).state).Numbered := by
  apply run_invariant (I := fun m : Moment => (board m.state).Fits m.clock ∧ (board m.state).Numbered) ?_ ?_ kept
  · rintro m call ⟨fits, numbered⟩ ⟨timely, kept⟩
    exact ⟨next_fits fits numbered timely kept, next_numbered numbered⟩
  · exact ⟨nofun, run_numbered []⟩

theorem lease_guards_pane (calls : List Call)
    (kept : Throughout Moment.next (fun m call => m.Timely call ∧ ¬Revives m.state call) .start calls)
    (env : Env) (timely : (Moment.after calls).clock ≤ env.now) (lease : RemotePaneLease) (pane : Pane)
    (held : (run calls).paneLeases.find lease.paneId = some lease) (active : env.now < lease.expiresAt)
    (here : (run calls).pane lease.sessionId lease.paneId = some pane)
    (same : pane.outputGeneration = lease.paneGeneration) : Guards (run calls) env lease pane := by
  have fits := (run_fits kept).1
  rw [Moment.state_after] at fits
  exact guards_of_fits fits timely held active here same

def claimedRun : List Call :=
  [.plain 0 "session" (.createSession "work" none),
    .plain 0 "" (.insertPane "session" (.spawn
      ⟨"pane", none, [], none, [], none, none, none, none, false, 80, 24⟩ none)),
    .plain 0 "lease" (.claimOrUpdateLease
      ⟨"connection", "device", "session", "pane", 100, 30, 1, none, none⟩)]

theorem guards_claimedRun : ∃ lease ∈ (run claimedRun).paneLeases.find "pane",
    ∃ pane ∈ (run claimedRun).pane "session" "pane",
      Guards (run claimedRun) (.plain 14999 "") lease pane := by
  have kept : Throughout Moment.next (fun m call => m.Timely call ∧ ¬Revives m.state call) .start
      claimedRun := by decide +kernel
  obtain ⟨lease, held, pane, here, session, at_, active, same⟩ :
      ∃ lease ∈ (run claimedRun).paneLeases.find "pane", ∃ pane ∈ (run claimedRun).pane "session" "pane",
        lease.sessionId = "session" ∧ lease.paneId = "pane" ∧ 14999 < lease.expiresAt ∧
          pane.outputGeneration = lease.paneGeneration := by decide +kernel
  refine ⟨lease, held, pane, here, ?_⟩
  have timely : (Moment.after claimedRun).clock ≤ (Env.plain 14999 "").now := by decide +kernel
  rw [← at_] at held
  rw [← session, ← at_] at here
  exact lease_guards_pane claimedRun kept _ timely lease pane held active here same

/-- The lease expires, the desktop takes the pane back before the sweep, and the device renews. -/
def revivedRun : List Call :=
  claimedRun ++
    [.plain 15000 "" (.resizePane "session" "pane" 120 40 .desktop),
      .plain 15001 "" (.renewLease ⟨"connection", "device", "session", "pane", "lease", 1, 2⟩)]

theorem revivedRun_misfits :
    Throughout Moment.next Moment.Timely .start revivedRun ∧
      ∃ lease ∈ (run revivedRun).paneLeases.find "pane", 15001 < lease.expiresAt ∧
        ∃ pane ∈ (run revivedRun).pane "session" "pane", pane.outputGeneration = lease.paneGeneration ∧
          (pane.config.cols, pane.config.rows) ≠ (lease.targetCols, lease.targetRows) := by
  decide +kernel

end VibeLink.Daemon
