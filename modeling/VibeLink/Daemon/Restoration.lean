import VibeLink.Daemon.Geometry
import VibeLink.Daemon.Issuing

/-! A lease keeps the size that its pane had at the claim, and its end gives it back. -/

namespace VibeLink.Daemon

open VibeLink.Relational Tx

variable {env : Env} {b b' b'' : Board} {p : Uuid} {lease current : RemotePaneLease}

namespace Board

/-- The boards agree on the panes of an id, and on their lease. -/
structure SameAt (p : Uuid) (b b' : Board) : Prop where
  leases : b'.leases p = b.leases p
  panes : ∀ i, b'.panes i p = b.panes i p

theorem SameAt.rfl : SameAt p b b := ⟨Eq.refl _, fun _ => Eq.refl _⟩

theorem SameAt.trans (h : SameAt p b b') (h' : SameAt p b' b'') : SameAt p b b'' :=
  ⟨h'.leases.trans h.leases, fun i => (h'.panes i).trans (h.panes i)⟩

theorem SameAt.restores (h : SameAt lease.paneId b b') : b'.Restores env lease ↔ b.Restores env lease := by
  simp only [Restores, Leased, Restored, h.panes]

theorem SameAt.finish {restored : Bool} (h : SameAt lease.paneId b b') :
    SameAt lease.paneId (b.move (.finish lease restored)) (b'.move (.finish lease restored)) := by
  constructor
  · simp only [leases_finish, Function.update_self]
  · intro i
    cases restored with
    | false => exact h.panes i
    | true =>
      simp only [move, if_true, panes_release, setSize, edit, h.panes]

theorem sameAt_finish {restored : Bool} (other : p ≠ lease.paneId) :
    SameAt p b (b.move (.finish lease restored)) := by
  constructor
  · rw [leases_finish, Function.update_of_ne other]
  · intro i
    cases restored with
    | false => exact Eq.refl _
    | true =>
      simp only [move, if_true, panes_release, setSize, edit]
      exact if_neg fun here => other here.2

/-- The lease of a pane has ended, and the pane got its size back if that could be. -/
def Closed (env : Env) (p : Uuid) (b b' : Board) : Prop :=
  ∃ lease restored, lease.paneId = p ∧ b.leases p = some lease ∧ (restored = true ↔ b.Restores env lease) ∧
    SameAt p (b.move (.finish lease restored)) b'

theorem Closed.leases (h : Closed env p b b') : b'.leases p = none := by
  obtain ⟨lease, restored, rfl, _, _, same⟩ := h
  rw [same.leases, leases_finish, Function.update_self]

theorem closed_finish {restored : Bool} (held : b.leases lease.paneId = some lease)
    (iff : restored = true ↔ b.Restores env lease) : Closed env lease.paneId b (b.move (.finish lease restored)) :=
  ⟨lease, restored, rfl, held, iff, .rfl⟩

end Board

def Closing (env : Env) (s s' : DaemonState) : Prop :=
  ∀ p, (board s).SameAt p (board s') ∨ (board s).Closed env p (board s')

variable {s s' s'' : DaemonState} {request : RemotePaneLeaseClaimRequest}

theorem Closing.rfl : Closing env s s := fun _ => .inl .rfl

theorem Closing.trans (h : Closing env s s') (h' : Closing env s' s'') : Closing env s s'' := by
  intro p
  cases h p with
  | inl same =>
    obtain same' | ⟨lease, restored, rfl, held, iff, same'⟩ := h' p
    · exact .inl (same.trans same')
    · rw [same.leases] at held
      exact .inr ⟨lease, restored, Eq.refl _, held, iff.trans same.restores, same.finish.trans same'⟩
  | inr closed =>
    obtain same' | ⟨lease, _, rfl, held, _, _⟩ := h' p
    · obtain ⟨lease, restored, at_, held, iff, same⟩ := closed
      exact .inr ⟨lease, restored, at_, held, iff, same.trans same'⟩
    · cases closed.leases.symm.trans held

instance (env : Env) : IsPreorder DaemonState (Closing env) where
  refl _ := .rfl
  trans _ _ _ h h' := h.trans h'

theorem Closing.of_finish {restored : Bool} (held : (board s).leases lease.paneId = some lease)
    (iff : restored = true ↔ (board s).Restores env lease)
    (moved : board s' = (board s).move (.finish lease restored)) : Closing env s s' := by
  intro p
  rw [moved]
  by_cases here : p = lease.paneId
  · rw [here]
    exact .inr (Board.closed_finish held iff)
  · exact .inl (Board.sameAt_finish here)

section Calls

instance (paneId : Uuid) (kind : RemotePaneLeaseEventKind) (reason : RemotePaneLeaseEventReason)
    (explicitRelease : Bool) :
    Respects (Closing env) (finishRemotePaneLease env paneId kind reason true explicitRelease) :=
  respects_of_wp fun s => by
    refine wp_mono finishRemotePaneLease_spec ?_ fun _ _ => False.elim
    rintro finished s' ⟨ended, nothing⟩
    cases held : (board s).leases paneId with
    | none =>
      rw [(nothing held).2]
      exact .rfl
    | some lease =>
      obtain ⟨_, restored, _, _, iff, moved⟩ := ended lease held
      rw [← (Table.key_of_find held : lease.paneId = paneId)] at held
      exact .of_finish held (iff.trans (and_iff_right (Eq.refl true))) moved

instance (reason : RemotePaneLeaseEventReason) (paneIds : List Uuid) :
    Respects (Closing env) (finishRemotePaneLeases env reason true paneIds) := by
  rw [finishRemotePaneLeases]
  infer_instance

instance (request : RemotePaneLeaseReleaseRequest) :
    Respects (Closing env) (releaseRemotePaneLease env request) :=
  respects_of_wp fun s => by
    simp only [releaseRemotePaneLease, wp_bind, wp_gets]
    split
    · exact .rfl
    · split
      · exact .rfl
      · simp only [wp_bind, wp_expect]
        exact wp_of_respects (Closing env) (fun _ _ h => ⟨fun _ _ => h, fun _ => h⟩) fun _ _ h => h

instance (request : RemotePaneLeaseAdminReclaimRequest) :
    Respects (Closing env) (adminReclaimRemotePaneLease env request) := by
  rw [adminReclaimRemotePaneLease]
  infer_instance

instance : Respects (Closing env) (expireRemotePaneLeases env) := by
  rw [expireRemotePaneLeases]
  infer_instance

instance (request : RemoteConnectionCleanupRequest) :
    Respects (Closing env) (cleanupRemoteConnectionLeases env request) := by
  rw [cleanupRemoteConnectionLeases]
  infer_instance

theorem ExpiredFirst.closing {paneId : Uuid} {expired : Option PaneLeaseTransition}
    (h : ExpiredFirst env paneId s expired s') : Closing env s s' := by
  obtain ⟨lease, _, restored, held, _, _, _, iff, moved⟩ | ⟨_, rfl, _⟩ := h
  · rw [← (Table.key_of_find held : lease.paneId = paneId)] at held
    exact .of_finish held iff moved
  · exact .rfl

def Records (s : DaemonState) (lease : RemotePaneLease) : Prop :=
  ∃ pane ∈ s.pane lease.sessionId lease.paneId, pane.outputGeneration = lease.paneGeneration ∧
    (pane.config.cols, pane.config.rows) = (lease.originalCols, lease.originalRows)

theorem records_of_board (leased : (board s).Leased lease) (restored : (board s).Restored lease) :
    Records s lease := by
  obtain ⟨slot, found, generation⟩ := leased
  obtain ⟨slot', found', cols, rows⟩ := restored
  cases found.symm.trans found'
  obtain ⟨pane, here, rfl⟩ := Option.map_eq_some_iff.1 found
  exact ⟨pane, here, generation, Prod.ext cols rows⟩

/-- A lease that a claim or an update has written, of the state in which it finds its pane. -/
def Writes (env : Env) (between : DaemonState) (lease : RemotePaneLease) : Prop :=
  (∃ current, (board between).leases lease.paneId = some current ∧ current.leaseId = lease.leaseId) ∨
    (board between).leases lease.paneId = none ∧ lease.leaseId = env.drawn ∧ Records between lease

def Claiming (env : Env) (request : RemotePaneLeaseClaimRequest) (s s' : DaemonState) : Prop :=
  ∃ between, Closing env s between ∧ (∀ p ≠ request.paneId, (board s).SameAt p (board between)) ∧
    (board s' = board between ∨ ∃ lease, lease.paneId = request.paneId ∧ Writes env between lease ∧
      (board s').leases = Function.update (board between).leases lease.paneId (some lease))

theorem ExpiredFirst.sameAt {paneId : Uuid} {expired : Option PaneLeaseTransition}
    (h : ExpiredFirst env paneId s expired s') (other : p ≠ paneId) : (board s).SameAt p (board s') := by
  obtain ⟨lease, _, restored, held, _, _, _, _, moved⟩ | ⟨_, rfl, _⟩ := h
  · rw [moved]
    apply Board.sameAt_finish
    rwa [(Table.key_of_find held : lease.paneId = paneId)]
  · exact .rfl

theorem claimOrUpdate_claiming : Claiming env request s (claimOrUpdateRemotePaneLease env request s).2 := by
  apply wp_snd.1
  refine wp_mono claimOrUpdate_spec ?_ ?_
  · rintro _ s' ⟨_, expired, s₁, first, ⟨_, _, rfl⟩ | ⟨_, effect, granted, _⟩⟩
    · exact ⟨s', first.closing, fun _ => first.sameAt, .inl rfl⟩
    · refine ⟨s₁, first.closing, fun _ => first.sameAt, .inr ?_⟩
      obtain ⟨lease, _, _, _, ⟨rfl, _, _⟩ | ⟨rfl, _, _⟩, at_, _, permitted, moved⟩ := granted
      · refine ⟨lease, at_, ?_, by rw [moved]; rfl⟩
        cases permitted (board s₁) with
        | claim _ _ free drawn leased restored =>
          exact .inr ⟨free, drawn, records_of_board leased restored⟩
      · refine ⟨lease, at_, ?_, by rw [moved]; rfl⟩
        cases permitted (board s₁) with
        | update _ before _ continues _ => exact .inl ⟨_, before, continues.leaseId.symm⟩
  · rintro _ s' (⟨_, rfl⟩ | ⟨_, expired, s₁, first, _, same⟩)
    · exact ⟨s', .rfl, fun _ _ => .rfl, .inl rfl⟩
    · exact ⟨s₁, first.closing, fun _ => first.sameAt, .inl same⟩

theorem next_claiming {call : Call} (op : call.op = .claimOrUpdateLease request) :
    Claiming call.env request s (next s call) := by
  obtain ⟨env, _⟩ := call
  cases op
  apply wp_snd.1
  simp only [perform, wp_bind, wp_pure]
  exact wp_snd.2 claimOrUpdate_claiming

theorem next_closing {call : Call} (ends : call.op.ending = some true)
    (other : ∀ request, call.op ≠ .claimOrUpdateLease request) : Closing call.env s (next s call) := by
  obtain ⟨env, op⟩ := call
  have closes : Respects (Closing env) (perform ⟨env, op⟩) := by
    cases op with
    | claimOrUpdateLease request => exact absurd rfl (other request)
    | releaseLease request => dsimp only [perform]; infer_instance
    | adminReclaimLease request => dsimp only [perform]; infer_instance
    | expireLeases => dsimp only [perform]; infer_instance
    | cleanupConnectionLeases request => dsimp only [perform]; infer_instance
    | _ => cases ends
  exact closes.respects s

end Calls

/-- The pane is back at the size of before the lease, or has been replaced and keeps its own. -/
structure Recovers (env : Env) (lease : RemotePaneLease) (before after : DaemonState) : Prop where
  restored : ∀ pane, before.pane lease.sessionId lease.paneId = some pane →
    pane.outputGeneration = lease.paneGeneration → env.restores lease.paneId = .ok () →
    ∃ pane' ∈ after.pane lease.sessionId lease.paneId,
      (pane'.config.cols, pane'.config.rows) = (lease.originalCols, lease.originalRows)
  spared : ∀ pane, before.pane lease.sessionId lease.paneId = some pane →
    pane.outputGeneration ≠ lease.paneGeneration →
    ∃ pane' ∈ after.pane lease.sessionId lease.paneId,
      (pane'.config.cols, pane'.config.rows) = (pane.config.cols, pane.config.rows)

theorem Recovers.of_continues (h : Recovers env current s s') (continues : Continues lease current) :
    Recovers env lease s s' := by
  obtain ⟨restored, spared⟩ := h
  rw [continues.sessionId, continues.paneId, continues.paneGeneration, continues.originalCols,
    continues.originalRows] at restored
  rw [continues.sessionId, continues.paneId, continues.paneGeneration] at spared
  exact ⟨restored, spared⟩

theorem exists_pane_of_slot {i : Uuid} {slot : Slot} (h : (board s).panes i p = some slot) :
    ∃ pane ∈ s.pane i p, (pane.config.cols, pane.config.rows) = (slot.cols, slot.rows) := by
  obtain ⟨pane, here, rfl⟩ := Option.map_eq_some_iff.1 h
  exact ⟨pane, here, rfl⟩

theorem Board.Closed.recovers (h : (board s).Closed env lease.paneId (board s'))
    (held : (board s).leases lease.paneId = some lease) : Recovers env lease s s' := by
  obtain ⟨_, restored, _, held', iff, same⟩ := h
  cases held.symm.trans held'
  constructor
  · intro pane here generation ok
    have slot := board_panes_of_pane here
    cases iff.2 ⟨⟨_, slot, generation⟩, .inr ok⟩
    have resized := same.panes lease.sessionId
    simp only [Board.move, if_true, Board.panes_release, Board.setSize, Board.edit, and_self, slot,
      Option.map_some] at resized
    exact exists_pane_of_slot resized
  · intro pane here generation
    have slot := board_panes_of_pane here
    cases restored with
    | true =>
      obtain ⟨⟨slot', found, generation'⟩, _⟩ := iff.1 rfl
      cases slot.symm.trans found
      exact absurd generation' generation
    | false => exact exists_pane_of_slot ((same.panes lease.sessionId).trans slot)

theorem Closing.recovers (h : Closing env s s') (held : (board s).leases lease.paneId = some lease)
    (gone : (board s').leases lease.paneId ≠ some lease) : Recovers env lease s s' := by
  obtain same | closed := h lease.paneId
  · exact absurd (same.leases.trans held) gone
  · exact closed.recovers held

theorem Closing.leases (h : Closing env s s') (held : (board s').leases p = some lease) :
    (board s).leases p = some lease := by
  obtain same | closed := h p
  · exact same.leases.symm.trans held
  · cases closed.leases.symm.trans held

theorem next_recovers {call : Call} (ends : call.op.ending = some true)
    (held : (board s).leases lease.paneId = some lease)
    (gone : ∀ other, (board (next s call)).leases lease.paneId = some other → other.leaseId ≠ lease.leaseId) :
    Recovers call.env lease s (next s call) ∨ ∃ request between, call.op = .claimOrUpdateLease request ∧
      Recovers call.env lease s between ∧
      ∃ follower ∈ (board (next s call)).leases lease.paneId, Records between follower := by
  by_cases claim : ∃ request, call.op = .claimOrUpdateLease request
  · obtain ⟨request, op⟩ := claim
    obtain ⟨between, closing, elsewhere, same | ⟨follower, at_, writes, leases⟩⟩ := next_claiming op (s := s)
    · left
      have closing : Closing call.env s (next s call) := fun p => same ▸ closing p
      exact closing.recovers held fun there => gone lease there rfl
    · right
      have here : lease.paneId = request.paneId := by
        by_contra other
        refine gone lease ?_ rfl
        rw [leases, at_, Function.update_of_ne other, (elsewhere _ other).leases, held]
      rw [here.trans at_.symm] at gone ⊢
      rw [leases, Function.update_self] at gone ⊢
      obtain ⟨current, before, same⟩ | ⟨free, _, records⟩ := writes
      · have before := closing.leases before
        rw [at_, ← here, held] at before
        cases before
        exact absurd same.symm (gone follower rfl)
      · refine ⟨request, between, op, closing.recovers held ?_, follower, rfl, records⟩
        rw [here, ← at_, free]
        exact nofun
  · left
    exact (next_closing ends fun request op => claim ⟨request, op⟩).recovers held
      fun there => gone lease there rfl

theorem next_records {call : Call} {ids : List Uuid} (issued : (board s).Issued ids)
    (op : call.op = .claimOrUpdateLease request)
    (held : (board (next s call)).leases request.paneId = some lease) (drawn : lease.leaseId ∉ ids) :
    ∃ found, Closing call.env s found ∧ Records found lease := by
  obtain ⟨between, closing, _, same | ⟨written, at_, writes, leases⟩⟩ := next_claiming op (s := s)
  · rw [same] at held
    exact absurd (issued.known _ lease (closing.leases held)) drawn
  · rw [leases, ← at_, Function.update_self] at held
    cases held
    obtain ⟨current, before, same⟩ | ⟨_, _, records⟩ := writes
    · exact absurd (same ▸ issued.known _ current (closing.leases before)) drawn
    · exact ⟨between, closing, records⟩

/-- Whatever has happened since its claim, a lease that ends gives the pane back the size of then; where
the end is a claim by someone else, the next lease records that size. -/
theorem lease_end_restores (past middle : List Call) (claim ending : Call)
    (request : RemotePaneLeaseClaimRequest) (lease current : RemotePaneLease)
    (fresh : ((past ++ claim :: middle).filterMap Call.draws).Nodup)
    (op : claim.op = .claimOrUpdateLease request)
    (claimed : (run (past ++ [claim])).paneLeases.find request.paneId = some lease)
    (drawn : lease.leaseId = claim.env.drawn)
    (held : (run (past ++ claim :: middle)).paneLeases.find request.paneId = some current)
    (same : current.leaseId = lease.leaseId) (ends : ending.op.ending = some true)
    (gone : ∀ other, (run (past ++ claim :: middle ++ [ending])).paneLeases.find request.paneId = some other →
      other.leaseId ≠ lease.leaseId) :
    (∃ found, Closing claim.env (run past) found ∧ Records found lease) ∧
      (Recovers ending.env lease (run (past ++ claim :: middle)) (run (past ++ claim :: middle ++ [ending])) ∨
        ∃ request' between, ending.op = .claimOrUpdateLease request' ∧
          Recovers ending.env lease (run (past ++ claim :: middle)) between ∧
          ∃ follower ∈ (run (past ++ claim :: middle ++ [ending])).paneLeases.find request.paneId,
            Records between follower) := by
  have draws : claim.draws = some lease.leaseId := by rw [Call.draws, op, drawn]
  rw [List.append_cons past claim middle] at fresh held gone ⊢
  rw [List.filterMap_append] at fresh
  obtain ⟨first, _, disjoint⟩ := List.nodup_append.1 fresh
  have issued := run_issued first
  have others (call : Call) (member : call ∈ middle) : call.draws ≠ some lease.leaseId :=
    fun again => disjoint _ (issued.known _ lease claimed) _ (List.mem_filterMap.2 ⟨call, member, again⟩) rfl
  constructor
  · rw [List.filterMap_append, List.nodup_append] at first
    rw [run_snoc] at claimed
    apply next_records (run_issued first.1) op claimed
    intro known
    exact first.2.2 _ known _ (by simp [draws]) rfl
  · have continues : Continues lease current := by
      rw [run_append] at held
      exact foldl_continues issued claimed others _ held same
    have at_ : current.paneId = request.paneId := Table.key_of_find held
    rw [run_snoc, ← at_] at gone ⊢
    rw [← at_] at held
    rw [← same] at gone
    obtain recovers | ⟨request', between, op', recovers, follower⟩ := next_recovers ends held gone
    · exact .inl (recovers.of_continues continues)
    · exact .inr ⟨request', between, op', recovers.of_continues continues, follower⟩

def keptLease : List Call :=
  [.plain 1000 "" (.claimOrUpdateLease
      ⟨"connection", "device", "session", "pane", 90, 28, 2, some "lease", some 1⟩),
    .plain 2000 "" (.renewLease ⟨"connection", "device", "session", "pane", "lease", 2, 3⟩)]

def releasedLease : Call :=
  .plain 3000 "" (.releaseLease ⟨"connection", "device", "session", "pane", "lease", 3⟩)

theorem releasedLease_recovers : ∃ lease ∈ (run claimedRun).paneLeases.find "pane",
    Recovers (.plain 3000 "") lease (run (claimedRun ++ keptLease))
      (run (claimedRun ++ keptLease ++ [releasedLease])) := by
  obtain ⟨lease, claimed, id⟩ : ∃ lease ∈ (run claimedRun).paneLeases.find "pane",
      lease.leaseId = "lease" := by decide +kernel
  obtain ⟨current, held, same⟩ : ∃ current ∈ (run (claimedRun ++ keptLease)).paneLeases.find "pane",
      current.leaseId = "lease" := by decide +kernel
  have gone : (run (claimedRun ++ keptLease ++ [releasedLease])).paneLeases.find "pane" = none := by
    decide +kernel
  refine ⟨lease, claimed, ?_⟩
  have restores := lease_end_restores (claimedRun.take 2) keptLease
    (.plain 0 "lease" (.claimOrUpdateLease ⟨"connection", "device", "session", "pane", 100, 30, 1, none, none⟩))
    releasedLease ⟨"connection", "device", "session", "pane", 100, 30, 1, none, none⟩ lease current
    (by decide +kernel) rfl claimed id held (same.trans id.symm) rfl
    (fun other there => by cases gone.symm.trans there)
  obtain recovers | ⟨_, _, op, _⟩ := restores.2
  · exact recovers
  · cases op

end VibeLink.Daemon
