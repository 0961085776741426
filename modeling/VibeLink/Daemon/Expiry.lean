import VibeLink.Daemon.Geometry
import VibeLink.Daemon.Issuing

/-! A lease that has expired does not come back, although only a sweep takes it away. -/

namespace VibeLink.Daemon

open VibeLink.Relational Tx

def Late (s : DaemonState) (call : Call) : Prop :=
  ∃ request ∈ call.op.renewal, ∃ lease ∈ s.paneLeases.find request.paneId,
    Matches request lease ∧ lease.expiresAt ≤ call.env.now ∧
      ∃ pane ∈ s.pane lease.sessionId lease.paneId, pane.outputGeneration = lease.paneGeneration

instance (s : DaemonState) (call : Call) : Decidable (Late s call) :=
  inferInstanceAs (Decidable (∃ request ∈ call.op.renewal, ∃ lease ∈ s.paneLeases.find request.paneId, _))

variable {s : DaemonState} {call : Call} {env : Env} {t : Nat} {lease other : RemotePaneLease}
  {since : List Call}

def Reclaimed (since : List Call) (paneId : Uuid) (lease : RemotePaneLease) : Prop :=
  ∃ call ∈ since, ∃ request, call.op = .claimOrUpdateLease request ∧ request.paneId = paneId ∧
    call.env.drawn = lease.leaseId

/-- What has become of an expired lease: it stays as it was, or it is gone. -/
structure Spent (since : List Call) (lease : RemotePaneLease) (s : DaemonState) : Prop where
  only : ∀ p other, (board s).leases p = some other → other.leaseId = lease.leaseId → other = lease
  again : ∀ other, (board s).leases lease.paneId = some other →
    other = lease ∨ Reclaimed since lease.paneId other

theorem Reclaimed.snoc {paneId : Uuid} (h : Reclaimed since paneId lease) (call : Call) :
    Reclaimed (since ++ [call]) paneId lease := by
  obtain ⟨claim, member, request⟩ := h
  exact ⟨claim, List.mem_append_left _ member, request⟩

theorem Prolongs.ne (prolongs : Prolongs call (board s) other) (expired : lease.expiresAt ≤ call.env.now)
    (kept : ¬Late s call) : other ≠ lease := by
  rintro rfl
  obtain active | ⟨request, op, held, named, leased⟩ := prolongs
  · exact active.not_ge expired
  · obtain ⟨slot, found, same⟩ := leased
    obtain ⟨pane, here, rfl⟩ := Option.map_eq_some_iff.1 found
    exact kept ⟨request, by rw [op]; rfl, other, held, named, expired, pane, here, same⟩

theorem Spent.next (spent : Spent since lease s) (expired : lease.expiresAt ≤ call.env.now)
    (kept : ¬Late s call) (fresh : call.draws ≠ some lease.leaseId) :
    Spent (since ++ [call]) lease (next s call) where
  only p other held id := by
    cases next_stems held with
    | stays before => exact spent.only p other before id
    | @prolonged current before continues prolongs =>
      have same := spent.only p current before (continues.leaseId.symm.trans id)
      exact absurd same (prolongs.ne expired kept)
    | claimed op at_ drawn =>
      refine absurd ?_ fresh
      rw [Call.draws, op, ← id, drawn]
  again other held := by
    cases next_stems held with
    | stays before => exact (spent.again other before).imp_right fun h => h.snoc call
    | @prolonged current before continues prolongs =>
      obtain same | ⟨claim, member, request, op, at_, drawn⟩ := spent.again current before
      · exact absurd same (prolongs.ne expired kept)
      · refine .inr (Reclaimed.snoc ⟨claim, member, request, op, at_, ?_⟩ call)
        rw [drawn, continues.leaseId]
    | @claimed request op at_ drawn =>
      exact .inr ⟨call, List.mem_append_right _ (List.mem_singleton_self call), request, op, at_, drawn.symm⟩

/-- What an expired lease is good for. -/
structure Lapsed (s : DaemonState) (env : Env) (since : List Call) (lease : RemotePaneLease) : Prop where
  inactive : ∀ p other, s.activeLease env.now p = some other → other.leaseId ≠ lease.leaseId
  write : ∀ sessionId paneId ownerConnectionId deviceId revision,
    s.paneWriterAuthorized env sessionId paneId
      (.remote ownerConnectionId deviceId (some lease.leaseId) revision) ≠ .ok ()
  resize : ∀ sessionId paneId cols rows ownerConnectionId deviceId revision senders s',
    resizePaneAuthorized env sessionId paneId cols rows
      (.remote ownerConnectionId deviceId (some lease.leaseId) revision) s ≠ (.ok senders, s')
  renew : ∀ request transition s' renewed, ¬Late s ⟨env, .renewLease request⟩ →
    renewRemotePaneLease env request s = (.ok transition, s') → transition.result = .renewed renewed →
    renewed.leaseId ≠ lease.leaseId
  update : ∀ request transition s' updated,
    claimOrUpdateRemotePaneLease env request s = (.ok transition, s') →
    transition.result = .updated updated → updated.leaseId ≠ lease.leaseId
  again : ∀ other, s.activeLease env.now lease.paneId = some other → Reclaimed since lease.paneId other

theorem Spent.inactive (spent : Spent since lease s) (expired : lease.expiresAt ≤ t) {p : Uuid}
    (active : s.activeLease t p = some other) : other.leaseId ≠ lease.leaseId := by
  intro id
  obtain ⟨held, later⟩ := DaemonState.activeLease_eq_some.1 active
  cases spent.only p other held id
  exact later.not_ge expired

theorem Spent.unauthorized (spent : Spent since lease s) (expired : lease.expiresAt ≤ env.now)
    {sessionId paneId ownerConnectionId : Uuid} {deviceId : String} {revision : Option Nat} :
    s.authorizePaneCommand env sessionId paneId
      (.remote ownerConnectionId deviceId (some lease.leaseId) revision) ≠ .ok () := by
  intro ok
  obtain ⟨pane, _, entitled⟩ := authorizePaneCommand_eq_ok.1 ok
  cases active : s.activeLease env.now paneId with
  | none =>
    rw [active] at entitled
    cases entitled.1
  | some other =>
    rw [active] at entitled
    exact spent.inactive expired active (Option.some.inj entitled.leaseId)

theorem Spent.not_renewed (spent : Spent since lease s) (expired : lease.expiresAt ≤ env.now)
    {request : RemotePaneLeaseRenewRequest} {transition : PaneLeaseTransition} {s' : DaemonState}
    (kept : ¬Late s ⟨env, .renewLease request⟩)
    (ok : renewRemotePaneLease env request s = (.ok transition, s'))
    (result : transition.result = .renewed other) : other.leaseId ≠ lease.leaseId := by
  intro id
  obtain ⟨refused, _⟩ | ⟨current, held, named, leased, renewed, revision, rfl, rfl, _⟩ :=
    (wp_iff_forall.1 renewRemotePaneLease_spec).1 _ _ ok
  · exact refused.ne_renewed result
  · cases result
    have prolongs : Prolongs ⟨env, .renewLease request⟩ (board s) current :=
      .inr ⟨request, rfl, held, named, leased⟩
    exact prolongs.ne expired kept (spent.only _ current held id)

theorem Spent.not_updated (spent : Spent since lease s) (expired : lease.expiresAt ≤ env.now)
    {request : RemotePaneLeaseClaimRequest} {transition : PaneLeaseTransition} {s' : DaemonState}
    (ok : claimOrUpdateRemotePaneLease env request s = (.ok transition, s'))
    (result : transition.result = .updated other) : other.leaseId ≠ lease.leaseId := by
  intro id
  obtain ⟨_, _, s₁, first, ⟨_, refused, _⟩ | ⟨_, _, granted, _⟩⟩ :=
    (wp_iff_forall.1 claimOrUpdate_spec).1 _ _ ok
  · exact refused.ne_updated result
  · obtain ⟨_, _, _, _, ⟨_, claimed, _⟩ | ⟨rfl, updated, _⟩, at_, _, permitted, _⟩ := granted
    · cases claimed.symm.trans result
    · cases updated.symm.trans result
      cases permitted (board s₁) with
      | @update _ current _ _ held active continues _ =>
        rw [at_] at held
        obtain ⟨_, rfl, _⟩ := first.of_held held
        cases spent.only _ current held (continues.leaseId.symm.trans id)
        exact active.not_ge expired

theorem Spent.lapsed (spent : Spent since lease s) (expired : lease.expiresAt ≤ env.now) :
    Lapsed s env since lease where
  inactive _ _ active := spent.inactive expired active
  write _ _ _ _ _ ok := spent.unauthorized expired (authorized_of_writer ok)
  resize _ _ _ _ _ _ _ _ _ ok := spent.unauthorized expired (authorized_of_resize ok)
  renew _ _ _ _ kept ok result := spent.not_renewed expired kept ok result
  update _ _ _ _ ok result := spent.not_updated expired ok result
  again other active := by
    obtain rfl | reclaimed := spent.again other (DaemonState.activeLease_eq_some.1 active).1
    · exact absurd rfl (spent.inactive expired active)
    · exact reclaimed

theorem Board.Issued.spent {ids : List Uuid} (issued : (board s).Issued ids)
    (held : s.paneLeases.find lease.paneId = some lease) : Spent [] lease s where
  only p other held' id := by
    cases issued.unique p lease.paneId other lease held' held id
    exact Option.some.inj (held'.symm.trans held)
  again other held' := .inl (Option.some.inj (held'.symm.trans held))

theorem run_spent {past future : List Call} (fresh : ((past ++ future).filterMap Call.draws).Nodup)
    (held : (run past).paneLeases.find lease.paneId = some lease) (expired : lease.expiresAt ≤ t)
    (kept : Throughout Moment.next (fun m call => m.Timely call ∧ ¬Late m.state call) ⟨run past, t⟩ future) :
    Spent future lease (run (past ++ future)) ∧
      lease.expiresAt ≤ (future.foldl Moment.next ⟨run past, t⟩).clock := by
  rw [List.filterMap_append, List.nodup_append] at fresh
  have issued := run_issued fresh.1
  have known := issued.known _ lease held
  have others (call : Call) (member : call ∈ future) (_ : Moment) : call.draws ≠ some lease.leaseId :=
    fun drawn => fresh.2.2 _ known _ (List.mem_filterMap.2 ⟨call, member, drawn⟩) rfl
  have kept := throughout_and.2 ⟨kept, throughout_of_forall others ⟨run past, t⟩⟩
  have spent := run_history
    (I := fun since (m : Moment) => Spent since lease m.state ∧ lease.expiresAt ≤ m.clock)
    (fun since m call => ?_) ⟨issued.spent held, expired⟩ kept
  · rwa [Moment.state_foldl, ← run_append] at spent
  · rintro ⟨spent, expired⟩ ⟨⟨timely, kept⟩, drawn⟩
    have now := expired.trans timely
    exact ⟨spent.next now kept drawn, now.trans call.env.now_le⟩

/-- Once a lease has expired it is good for nothing, in every run without a late renewal. -/
theorem expired_lease_lapsed (past future : List Call)
    (fresh : ((past ++ future).filterMap Call.draws).Nodup) (lease : RemotePaneLease)
    (held : (run past).paneLeases.find lease.paneId = some lease) (t : Nat) (expired : lease.expiresAt ≤ t)
    (kept : Throughout Moment.next (fun m call => m.Timely call ∧ ¬Late m.state call) ⟨run past, t⟩ future)
    (env : Env) (timely : (future.foldl Moment.next ⟨run past, t⟩).clock ≤ env.now) :
    Lapsed (run (past ++ future)) env future lease := by
  obtain ⟨spent, passed⟩ := run_spent fresh held expired kept
  exact spent.lapsed (passed.trans timely)

/-- Another device claims the pane before any sweep. -/
theorem lapsed_claimedRun : ∃ lease ∈ (run claimedRun).paneLeases.find "pane",
    Lapsed (run (claimedRun ++ [.plain 15001 "second" (.claimOrUpdateLease
      ⟨"other", "other", "session", "pane", 90, 30, 1, none, none⟩)])) (.plain 15002 "")
      [.plain 15001 "second" (.claimOrUpdateLease
        ⟨"other", "other", "session", "pane", 90, 30, 1, none, none⟩)] lease := by
  obtain ⟨lease, held, at_, expires⟩ : ∃ lease ∈ (run claimedRun).paneLeases.find "pane",
      lease.paneId = "pane" ∧ lease.expiresAt = 15000 := by decide +kernel
  refine ⟨lease, held, ?_⟩
  rw [← at_] at held
  exact expired_lease_lapsed claimedRun _ (by decide +kernel) lease held 15000 expires.le
    (by decide +kernel) _ (by decide +kernel)

/-- The device renews its lease when the lease has expired, and then writes to the pane. -/
def renewedRun : List Call :=
  claimedRun ++ [.plain 15000 "" (.renewLease ⟨"connection", "device", "session", "pane", "lease", 1, 2⟩)]

theorem renewedRun_writes :
    (∃ lease ∈ (run claimedRun).paneLeases.find "pane", lease.leaseId = "lease" ∧ lease.expiresAt = 15000) ∧
      Throughout Moment.next Moment.Timely ⟨run claimedRun, 15000⟩
        [.plain 15000 "" (.renewLease ⟨"connection", "device", "session", "pane", "lease", 1, 2⟩)] ∧
      (∃ lease ∈ (run renewedRun).activeLease 15001 "pane", lease.leaseId = "lease") ∧
      (run renewedRun).paneWriterAuthorized (.plain 15001 "") "session" "pane"
        (.remote "connection" "device" (some "lease") (some 2)) = .ok () := by
  decide +kernel

end VibeLink.Daemon
