import VibeLink.Daemon.Geometry
import VibeLink.Daemon.Issuing

/-! Every lease that ends is announced once: the events that come of a call balance the leases that the
daemon holds before and after it. -/

namespace VibeLink.Daemon

open VibeLink.Relational Tx

variable {env : Env} {s s' s'' : DaemonState} {call : Call} {lease current : RemotePaneLease}
  {events events' : List RemotePaneLeaseEvent} {begun begun' : List (Uuid × Uuid)} {q : Uuid → Uuid → Bool}

def RemotePaneLeaseEvent.ends (event : RemotePaneLeaseEvent) : Bool :=
  event.kind = .lost ∨ event.kind = .released

section Balance

/-- The leases whose id and owner satisfy `q`. -/
def DaemonState.holds (s : DaemonState) (q : Uuid → Uuid → Bool) : Nat :=
  s.paneLeases.rows.countP fun lease => q lease.leaseId lease.ownerConnectionId

def ended (events : List RemotePaneLeaseEvent) (q : Uuid → Uuid → Bool) : Nat :=
  events.countP fun event => event.ends && q event.leaseId event.ownerConnectionId

/-- Of leases of any kind, those that have ended and those still held are those held before and those
that have begun, by id and owner. -/
def Balanced (begun : List (Uuid × Uuid)) (s : DaemonState) (events : List RemotePaneLeaseEvent)
    (s' : DaemonState) : Prop :=
  ∀ q : Uuid → Uuid → Bool,
    ended events q + s'.holds q = s.holds q + begun.countP fun name => q name.1 name.2

theorem Balanced.of_find (same : s'.paneLeases.find = s.paneLeases.find) : Balanced [] s [] s' := by
  intro q
  simp only [ended, DaemonState.holds, List.countP_nil, (Table.perm_of_find same).countP_eq]
  exact Nat.zero_add _

theorem Balanced.append (h : Balanced begun s events s') (h' : Balanced begun' s' events' s'') :
    Balanced (begun ++ begun') s (events ++ events') s'' := by
  intro q
  have hq := h q
  have hq' := h' q
  simp only [ended, List.countP_append] at hq hq' ⊢
  omega

theorem Balanced.of_update {p : Uuid} {o : Option RemotePaneLease}
    (find : s'.paneLeases.find = Function.update s.paneLeases.find p o)
    (accounts : ∀ q : Uuid → Uuid → Bool,
      ended events q + o.toList.countP (fun lease => q lease.leaseId lease.ownerConnectionId) =
        (s.paneLeases.find p).toList.countP (fun lease => q lease.leaseId lease.ownerConnectionId) +
          begun.countP fun name => q name.1 name.2) : Balanced begun s events s' := by
  intro q
  have counts := Table.countP_of_update (fun lease => q lease.leaseId lease.ownerConnectionId) find
  have account := accounts q
  simp only [DaemonState.holds]
  omega

theorem Balanced.of_finish {restored : Bool} {kind : RemotePaneLeaseEventKind}
    {reason : RemotePaneLeaseEventReason} {transition : PaneLeaseTransition}
    (held : (board s).leases lease.paneId = some lease) (event : Ended lease kind reason transition)
    (ending : kind = .lost ∨ kind = .released)
    (moved : board s' = (board s).move (.finish lease restored)) : Balanced [] s transition.events s' := by
  obtain ⟨revision, restoration, resize, effects⟩ := event
  have held : s.paneLeases.find lease.paneId = some lease := held
  have find : s'.paneLeases.find = Function.update s.paneLeases.find lease.paneId none := by
    rw [show s'.paneLeases.find = (board s').leases from rfl, moved, Board.leases_finish]
    rfl
  apply Balanced.of_update find
  intro q
  rw [held, PaneLeaseTransition.events, effects]
  obtain rfl | rfl := ending <;>
    simp [ended, RemotePaneLeaseEvent.ends, leaseEvent,
      List.countP_singleton]

theorem Balanced.of_hold {p : Uuid} {reason : RemotePaneLeaseEventReason}
    (held : s.paneLeases.find p = some current) (continues : Continues current lease)
    (find : s'.paneLeases.find = Function.update s.paneLeases.find p (some lease)) :
    Balanced [] s [leaseEvent lease .updated reason none] s' := by
  apply Balanced.of_update find
  intro q
  rw [held]
  simp [ended, RemotePaneLeaseEvent.ends, leaseEvent,
    List.countP_singleton, continues.leaseId, continues.ownerConnectionId]

theorem Balanced.of_claim {p : Uuid} {reason : RemotePaneLeaseEventReason}
    (free : s.paneLeases.find p = none)
    (find : s'.paneLeases.find = Function.update s.paneLeases.find p (some lease)) :
    Balanced [(lease.leaseId, lease.ownerConnectionId)] s [leaseEvent lease .claimed reason none] s' := by
  apply Balanced.of_update find
  intro q
  rw [free]
  simp [ended, RemotePaneLeaseEvent.ends, leaseEvent,
    List.countP_singleton]

end Balance

section Endings

theorem finishRemotePaneLease_balanced {paneId : Uuid} {kind : RemotePaneLeaseEventKind}
    {reason : RemotePaneLeaseEventReason} {restore explicitRelease : Bool}
    (ending : kind = .lost ∨ kind = .released) :
    (finishRemotePaneLease env paneId kind reason restore explicitRelease).wp
      (fun finished s' => Balanced [] s (finished.toList.flatMap PaneLeaseTransition.events) s')
      (fun _ _ => False) s := by
  refine wp_mono finishRemotePaneLease_spec ?_ fun _ _ h => h
  rintro finished s' ⟨ended, nothing⟩
  cases held : (board s).leases paneId with
  | none =>
    obtain ⟨rfl, rfl⟩ := nothing held
    exact .of_find rfl
  | some lease =>
    obtain ⟨transition, restored, rfl, event, _, moved⟩ := ended lease held
    rw [← (Table.key_of_find held : lease.paneId = paneId)] at held
    simpa using Balanced.of_finish held event ending moved

theorem finishRemotePaneLeases_balanced {reason : RemotePaneLeaseEventReason} {restore : Bool}
    {paneIds : List Uuid} :
    (finishRemotePaneLeases env reason restore paneIds).wp
      (fun transitions s' => Balanced [] s (transitions.flatMap PaneLeaseTransition.events) s')
      (fun _ _ => False) s := by
  simp only [finishRemotePaneLeases, wp_bind, wp_pure]
  refine wp_traverse (I := fun _ finished s' =>
    Balanced [] s ((finished.filterMap id).flatMap PaneLeaseTransition.events) s') (.of_find rfl) ?_
  intro _ paneId _ _ finished s₁ balanced
  refine wp_mono (finishRemotePaneLease_balanced (.inl rfl)) ?_ fun _ _ h => h
  intro transition s₂ balanced'
  rw [List.filterMap_append, List.flatMap_append]
  refine balanced.append ?_
  cases transition <;> exact balanced'

end Endings

section Claims

variable {request : RemotePaneLeaseClaimRequest} {b : Board}

instance : Decidable (b.Leased lease) :=
  inferInstanceAs (Decidable (∃ slot ∈ b.panes lease.sessionId lease.paneId, _))

instance : Decidable (b.Restored lease) :=
  inferInstanceAs (Decidable (∃ slot ∈ b.panes lease.sessionId lease.paneId, _))

instance : Decidable (b.Restores env lease) := inferInstanceAs (Decidable (_ ∧ _))

instance {sessionId paneId : Uuid} {cols rows : UInt16} {pty : Except String Unit} :
    Decidable (b.Takes sessionId paneId cols rows pty) :=
  inferInstanceAs (Decidable (∃ slot ∈ b.panes sessionId paneId, _))

instance : Decidable (Admissible s request) := inferInstanceAs (Decidable (_ ∧ _))

def Op.claim : Op → Option RemotePaneLeaseClaimRequest
  | .claimOrUpdateLease request => some request
  | _ => none

/-- A claim that ends an expired lease of the pane, whose terminal then refuses the size that is asked
for. -/
def Drops (s : DaemonState) (call : Call) : Prop :=
  ∃ request ∈ call.op.claim, Admissible s request ∧ ∃ lease ∈ (board s).leases request.paneId,
    lease.expiresAt ≤ call.env.now ∧
      ¬((board s).move (.finish lease (decide ((board s).Restores call.env lease)))).Takes
        request.sessionId request.paneId request.cols request.rows call.env.resizes

instance : Decidable (Drops s call) :=
  inferInstanceAs (Decidable (∃ request ∈ call.op.claim, _ ∧ ∃ lease ∈ (board s).leases request.paneId, _))

theorem ExpiredFirst.balanced {paneId : Uuid} {expired : Option PaneLeaseTransition}
    (h : ExpiredFirst env paneId s expired s') :
    Balanced [] s (((expired.map PaneLeaseTransition.effects).getD []).filterMap PaneLeaseEffect.event) s' := by
  obtain ⟨lease, transition, restored, held, _, rfl, event, _, moved⟩ | ⟨rfl, rfl, _⟩ := h
  · rw [← (Table.key_of_find held : lease.paneId = paneId)] at held
    exact Balanced.of_finish held event (.inl rfl) moved
  · exact .of_find rfl

def Draws (ids : List Uuid) (begun : List (Uuid × Uuid)) : Prop := (begun.map Prod.fst).Sublist ids

theorem Granted.balanced {result : RemotePaneLeaseResult} {effect : PaneLeaseEffect}
    (h : Granted env request (board s) result effect (board s')) :
    ∃ begun, Draws [env.drawn] begun ∧ Balanced begun s ([effect].filterMap PaneLeaseEffect.event) s' := by
  obtain ⟨lease, _, _, _, ⟨rfl, _, rfl⟩ | ⟨rfl, _, rfl⟩, _, event, permitted, moved⟩ := h
  · cases permitted (board s) with
    | claim _ _ free drawn _ _ =>
      refine ⟨[(lease.leaseId, lease.ownerConnectionId)], ?_, ?_⟩
      · rw [Draws, ← drawn]
        exact .refl _
      · rw [List.filterMap_cons_some event]
        exact .of_claim free (congrArg Board.leases moved)
  · cases permitted (board s) with
    | update _ held _ continues _ =>
      refine ⟨[], List.nil_sublist _, ?_⟩
      rw [List.filterMap_cons_some event]
      exact .of_hold held continues (congrArg Board.leases moved)

theorem claimOrUpdate_balanced :
    (claimOrUpdateRemotePaneLease env request).wp
      (fun transition s' => ∃ begun, Draws [env.drawn] begun ∧ Balanced begun s transition.events s')
      (fun _ s' => ¬Drops s ⟨env, .claimOrUpdateLease request⟩ →
        s'.paneLeases.find = s.paneLeases.find) s := by
  refine wp_mono claimOrUpdate_spec ?_ ?_
  · rintro transition s' ⟨_, expired, s₁, first, ⟨rfl, refused, rfl⟩ | ⟨_, effect, granted, effects⟩⟩
    · have balanced := first.balanced
      refine ⟨[], List.nil_sublist _, ?_⟩
      rwa [PaneLeaseTransition.events, refused.effects]
    · obtain ⟨begun, draws, balanced⟩ := granted.balanced
      refine ⟨begun, draws, ?_⟩
      rw [PaneLeaseTransition.events, effects, List.filterMap_append]
      exact first.balanced.append balanced
  · rintro _ s' (⟨_, rfl⟩ | ⟨admissible, expired, s₁, first, refused, same⟩) kept
    · rfl
    · obtain ⟨lease, _, restored, held, late, _, _, iff, moved⟩ | ⟨_, rfl, _⟩ := first
      · refine absurd ⟨request, rfl, admissible, lease, held, late, ?_⟩ kept
        rw [show decide ((board s).Restores env lease) = restored by simp [← iff]]
        rwa [← moved]
      · exact congrArg Board.leases same

end Claims

section Calls

theorem reply_of_wp {R : List RemotePaneLeaseEvent → DaemonState → Prop}
    (h : (perform call).wp (fun answer s' => R answer.events s') (fun _ s' => R [] s') s) :
    R (reply s call) (next s call) := by
  simp only [wp] at h
  simp only [reply, next]
  split at h
  · rename_i performed
    rwa [performed]
  · rename_i performed
    rwa [performed]

theorem quietly_silent {α : Type} {x : DaemonResult α} :
    (quietly x).wp (fun answer _ => answer.events = []) (fun _ _ => True) s := by
  simp only [quietly, wp_bind, wp_pure]
  exact wp_of_forall (fun _ _ => rfl) fun _ _ => trivial

theorem perform_silent (call : Call) (ends : call.op.ending = none) (renews : call.op.renewal = none) :
    (perform call).wp (fun answer _ => answer.events = []) (fun _ _ => True) s := by
  obtain ⟨env, op⟩ := call
  cases op with
  | attachPane clientId sessionId paneId =>
    simp only [perform, wp_bind, wp_pure]
    exact wp_of_forall (fun _ _ => rfl) fun _ _ => trivial
  | recordOutput paneId generation bytes captureSnapshot =>
    simp only [perform, wp_bind, wp_pure]
    exact wp_of_forall (fun _ _ => rfl) fun _ _ => trivial
  | writePane sessionId paneId origin =>
    simp only [perform, wp_bind, wp_pure]
    exact wp_of_forall (fun _ _ => rfl) fun _ _ => trivial
  | leaseStatus request => rfl
  | claimOrUpdateLease request => cases ends
  | renewLease request => cases renews
  | releaseLease request => cases ends
  | adminReclaimLease request => cases ends
  | expireLeases => cases ends
  | cleanupConnectionLeases request => cases ends
  | cleanupLeaseOnExit paneId => cases ends
  | cleanupLeasesOnExit paneIds => cases ends
  | markExited paneId generation => cases ends
  | _ => exact quietly_silent

theorem next_leases (ends : call.op.ending = none) (renews : call.op.renewal = none) :
    (board (next s call)).leases = (board s).leases := by
  refine (next_moves s call).preserves (I := fun b => b.leases = (board s).leases) ?_ rfl
  rintro m b _ permitted rfl same
  cases permitted with
  | spawn _ => exact same
  | drop _ => exact same
  | output _ _ => exact same
  | resize _ => exact same
  | claim op _ _ _ _ _ =>
    rw [op] at ends
    cases ends
  | update op _ _ _ _ =>
    rw [op] at ends
    cases ends
  | renew _ op _ _ _ _ _ _ =>
    rw [op] at renews
    cases renews
  | finish op _ _ => cases ends.symm.trans op

theorem renewRemotePaneLease_balanced {request : RemotePaneLeaseRenewRequest} :
    (renewRemotePaneLease env request).wp (fun transition s' => Balanced [] s transition.events s')
      (fun _ s' => Balanced [] s [] s') s := by
  refine wp_mono renewRemotePaneLease_spec ?_ ?_
  · rintro transition s' (⟨refused, rfl⟩ | ⟨current, held, _, _, lease, revision, rfl, rfl, moved⟩)
    · rw [PaneLeaseTransition.events, refused.effects]
      exact .of_find rfl
    · rw [← (Table.key_of_find held : current.paneId = request.paneId)] at held
      exact .of_hold held ⟨rfl, rfl, rfl, rfl, rfl, rfl, rfl, rfl⟩ (congrArg Board.leases moved)
  · rintro _ _ rfl
    exact .of_find rfl

theorem expect_balanced {finished : Option PaneLeaseTransition} {e : String}
    (balanced : Balanced [] s (finished.toList.flatMap PaneLeaseTransition.events) s') :
    (Tx.expect (fun _ => finished) e : DaemonResult PaneLeaseTransition).wp
      (fun transition s' => Balanced [] s transition.events s') (fun _ s' => Balanced [] s [] s') s' := by
  rw [wp_expect]
  constructor
  · rintro transition rfl
    simpa using balanced
  · rintro rfl
    exact balanced

theorem releaseRemotePaneLease_balanced {request : RemotePaneLeaseReleaseRequest} :
    (releaseRemotePaneLease env request).wp (fun transition s' => Balanced [] s transition.events s')
      (fun _ s' => Balanced [] s [] s') s := by
  simp only [releaseRemotePaneLease, wp_bind, wp_gets]
  split
  · exact .of_find rfl
  · split
    · exact .of_find rfl
    · rw [wp_bind]
      refine wp_mono (finishRemotePaneLease_balanced (.inr rfl)) ?_ fun _ _ => False.elim
      exact fun finished s' => expect_balanced

theorem adminReclaimRemotePaneLease_balanced {request : RemotePaneLeaseAdminReclaimRequest} :
    (adminReclaimRemotePaneLease env request).wp (fun transition s' => Balanced [] s transition.events s')
      (fun _ s' => Balanced [] s [] s') s := by
  simp only [adminReclaimRemotePaneLease, wp_bind, wp_gets, wp_require]
  refine ⟨fun _ => ?_, fun _ => .of_find rfl⟩
  refine wp_mono (finishRemotePaneLease_balanced (.inl rfl)) ?_ fun _ _ => False.elim
  exact fun finished s' => expect_balanced

theorem paneLeases_removePane {sessionId paneId : Uuid} :
    (s.removePane sessionId paneId).paneLeases = s.paneLeases := by
  rw [DaemonState.removePane]
  split <;> rfl

theorem markExited_balanced {paneId : Uuid} :
    (markExited env paneId).wp
      (fun effect s' => Balanced [] s (effect.lease.toList.flatMap PaneLeaseTransition.events) s')
      (fun _ _ => False) s := by
  simp only [markExited, wp_bind, wp_gets, wp_write, wp_pure, cleanupRemotePaneLeaseOnExit]
  refine wp_mono (finishRemotePaneLease_balanced (.inl rfl)) ?_ fun _ _ h => h
  intro lease s₁ balanced
  rw [← List.append_nil (lease.toList.flatMap _)]
  refine balanced.append (.of_find ?_)
  split
  · rw [paneLeases_removePane]
  · rfl

theorem markExitedForGeneration_balanced {paneId : Uuid} {generation : Nat} :
    (markExitedForGeneration env paneId generation).wp
      (fun effect s' => Balanced [] s
        ((effect.bind PaneExitEffect.lease).toList.flatMap PaneLeaseTransition.events) s')
      (fun _ _ => False) s := by
  simp only [markExitedForGeneration, wp_bind, wp_gets, wp_ite, wp_pure]
  refine ⟨fun _ => .of_find rfl, fun _ => ?_⟩
  rw [show (some <$> markExited env paneId : DaemonResult (Option PaneExitEffect)) =
    markExited env paneId >>= fun effect => pure (some effect) from rfl, wp_bind]
  exact markExited_balanced

theorem next_balanced_of_other (other : call.op.claim = none) :
    Balanced [] s (reply s call) (next s call) := by
  apply reply_of_wp
  by_cases silent : call.op.ending = none ∧ call.op.renewal = none
  · have leases : (next s call).paneLeases.find = s.paneLeases.find := next_leases silent.1 silent.2
    obtain ⟨quiet, _⟩ := wp_iff_forall.1 (perform_silent call silent.1 silent.2 (s := s))
    rw [wp_iff_forall]
    constructor
    · intro answer s' performed
      rw [next, performed] at leases
      rw [quiet answer s' performed]
      exact .of_find leases
    · intro e s' performed
      rw [next, performed] at leases
      exact .of_find leases
  · obtain ⟨env, op⟩ := call
    cases op with
    | claimOrUpdateLease request => cases other
    | renewLease request =>
      simp only [perform, wp_bind, wp_pure, Answer.events, Answer.of, List.flatMap_singleton]
      exact renewRemotePaneLease_balanced
    | releaseLease request =>
      simp only [perform, wp_bind, wp_pure, Answer.events, Answer.of, List.flatMap_singleton]
      exact releaseRemotePaneLease_balanced
    | adminReclaimLease request =>
      simp only [perform, wp_bind, wp_pure, Answer.events, Answer.of, List.flatMap_singleton]
      exact adminReclaimRemotePaneLease_balanced
    | expireLeases =>
      simp only [perform, expireRemotePaneLeases, wp_bind, wp_gets, wp_pure, Answer.events, Answer.of]
      exact wp_mono finishRemotePaneLeases_balanced (fun _ _ h => h) fun _ _ => False.elim
    | cleanupConnectionLeases request =>
      simp only [perform, cleanupRemoteConnectionLeases, wp_bind, wp_gets, wp_pure, Answer.events, Answer.of]
      exact wp_mono finishRemotePaneLeases_balanced (fun _ _ h => h) fun _ _ => False.elim
    | cleanupLeaseOnExit paneId =>
      simp only [perform, cleanupRemotePaneLeaseOnExit, wp_bind, wp_pure, Answer.events, Answer.of]
      exact wp_mono (finishRemotePaneLease_balanced (.inl rfl)) (fun _ _ h => h) fun _ _ => False.elim
    | cleanupLeasesOnExit paneIds =>
      simp only [perform, cleanupRemotePaneLeasesOnExit, wp_bind, wp_pure, Answer.events, Answer.of]
      exact wp_mono finishRemotePaneLeases_balanced (fun _ _ h => h) fun _ _ => False.elim
    | markExited paneId generation =>
      simp only [perform, wp_bind, wp_pure, Answer.events, Answer.of]
      exact wp_mono markExitedForGeneration_balanced (fun _ _ h => h) fun _ _ => False.elim
    | _ => exact absurd ⟨rfl, rfl⟩ silent

theorem next_balanced (kept : ¬Drops s call) :
    ∃ begun, Draws call.draws.toList begun ∧ Balanced begun s (reply s call) (next s call) := by
  cases other : call.op.claim with
  | none => exact ⟨[], List.nil_sublist _, next_balanced_of_other other⟩
  | some request =>
    obtain ⟨env, op⟩ := call
    cases op with
    | claimOrUpdateLease request =>
      apply reply_of_wp (R := fun events s' => ∃ begun, Draws [env.drawn] begun ∧ Balanced begun s events s')
      simp only [perform, wp_bind, wp_pure, Answer.events, Answer.of, List.flatMap_singleton]
      refine wp_mono claimOrUpdate_balanced (fun _ _ h => h) fun _ _ same => ?_
      exact ⟨[], List.nil_sublist _, .of_find (same kept)⟩
    | _ => cases other

end Calls

section Runs

variable {past future calls : List Call}

/-- The lease events that come of calls, in order. -/
def announced (s : DaemonState) : List Call → List RemotePaneLeaseEvent
  | [] => []
  | call :: calls => reply s call ++ announced (next s call) calls

def endings (leaseId : Uuid) (events : List RemotePaneLeaseEvent) : List RemotePaneLeaseEvent :=
  events.filter fun event => event.ends && decide (event.leaseId = leaseId)

theorem announced_append : announced s (past ++ future) =
    announced s past ++ announced (past.foldl next s) future := by
  induction past generalizing s with
  | nil => rfl
  | cons call past ih => simp only [List.cons_append, announced, ih, List.foldl_cons, List.append_assoc]

theorem foldl_balanced (kept : Throughout next (fun s call => ¬Drops s call) s calls) :
    ∃ begun, Draws (calls.filterMap Call.draws) begun ∧
      Balanced begun s (announced s calls) (calls.foldl next s) := by
  induction calls generalizing s with
  | nil => exact ⟨[], List.nil_sublist _, .of_find rfl⟩
  | cons call calls ih =>
    obtain ⟨begun, draws, balanced⟩ := next_balanced kept.1
    obtain ⟨begun', draws', balanced'⟩ := ih kept.2
    refine ⟨begun ++ begun', ?_, balanced.append balanced'⟩
    rw [Draws, List.map_append, show (call :: calls).filterMap Call.draws =
      call.draws.toList ++ calls.filterMap Call.draws by cases h : call.draws <;> simp [h]]
    exact draws.append draws'

theorem countP_begun {name : Uuid × Uuid} {p : Uuid × Uuid → Bool} (once : (begun.map Prod.fst).Nodup)
    (member : name ∈ begun) (here : p name = true) (only : ∀ other, p other = true → other.1 = name.1) :
    begun.countP p = 1 := by
  have counted : begun.countP (fun other => other.1 == name.1) = 1 := by
    rw [← List.count_eq_one_of_mem once (List.mem_map_of_mem member), List.count, List.countP_map]
    rfl
  apply Nat.le_antisymm
  · rw [← counted]
    exact List.countP_mono_left fun other _ is => beq_iff_eq.2 (only other is)
  · exact List.countP_pos_iff.2 ⟨name, member, here⟩

theorem ended_add_holds (fresh : ((past ++ future).filterMap Call.draws).Nodup)
    (kept : Throughout next (fun s call => ¬Drops s call) .new (past ++ future))
    (held : (run past).paneLeases.find lease.paneId = some lease)
    (here : q lease.leaseId lease.ownerConnectionId = true)
    (only : ∀ id owner, q id owner = true → id = lease.leaseId) :
    ended (announced .new (past ++ future)) q + (run (past ++ future)).holds q = 1 := by
  obtain ⟨kept, kept'⟩ := throughout_append.1 kept
  obtain ⟨begun, draws, balanced⟩ := foldl_balanced kept
  obtain ⟨begun', draws', balanced'⟩ := foldl_balanced kept'
  have member : (lease.leaseId, lease.ownerConnectionId) ∈ begun := by
    have count := balanced fun id owner => decide (id = lease.leaseId ∧ owner = lease.ownerConnectionId)
    have positive : 0 < (run past).holds fun id owner =>
        decide (id = lease.leaseId ∧ owner = lease.ownerConnectionId) :=
      List.countP_pos_iff.2 ⟨lease, Table.mem_of_find held, by simp⟩
    have none_ : DaemonState.new.holds (fun id owner =>
        decide (id = lease.leaseId ∧ owner = lease.ownerConnectionId)) = 0 := rfl
    have positive' : 0 < begun.countP fun name =>
        decide (name.1 = lease.leaseId ∧ name.2 = lease.ownerConnectionId) := by
      rw [run] at positive
      omega
    obtain ⟨name, member, is⟩ := List.countP_pos_iff.1 positive'
    rw [decide_eq_true_eq] at is
    rwa [← is.1, ← is.2]
  have once : ((begun ++ begun').map Prod.fst).Nodup := by
    rw [List.map_append]
    rw [List.filterMap_append] at fresh
    exact fresh.sublist (draws.append draws')
  have total := (balanced.append balanced') q
  rw [← announced_append, ← List.foldl_append] at total
  rw [run, total, countP_begun once (List.mem_append_left _ member) here fun other => only other.1 other.2]
  rfl

theorem holds_eq_zero : s.holds q = 0 ↔
    ∀ p lease, s.paneLeases.find p = some lease → ¬q lease.leaseId lease.ownerConnectionId := by
  rw [DaemonState.holds, List.countP_eq_zero]
  constructor
  · intro h p lease held
    exact h lease (Table.mem_of_find held)
  · intro h lease member
    exact h lease.paneId lease (Table.find_of_mem member)

theorem length_endings (leaseId : Uuid) :
    (endings leaseId events).length = ended events fun id _ => decide (id = leaseId) := by
  rw [endings, ended, List.countP_eq_length_filter]

theorem broadcast_perm (s : DaemonState) (env : Env) (event : RemotePaneLeaseEvent) :
    (broadcastPaneLeaseEvent s env event).Perm
      (s.clients.rows.map fun client => (client.2, .remotePaneLease event)) := by
  rw [broadcastPaneLeaseEvent, DaemonState.allSenders, List.map_map]
  exact (env.perm _).map _

/-- What a run says of the end of a lease: nothing while it is held, and then one thing, to its owner as
to every client. -/
structure Announces (s : DaemonState) (lease : RemotePaneLease) (events : List RemotePaneLeaseEvent) : Prop where
  held : ∀ p other, s.paneLeases.find p = some other → other.leaseId = lease.leaseId →
    endings lease.leaseId events = []
  gone : (∀ p other, s.paneLeases.find p = some other → other.leaseId ≠ lease.leaseId) →
    ∃ event, endings lease.leaseId events = [event] ∧
      event.ownerConnectionId = lease.ownerConnectionId ∧ ∀ s env,
        (broadcastPaneLeaseEvent s env event).Perm
          (s.clients.rows.map fun client => (client.2, .remotePaneLease event))

theorem run_announces (fresh : ((past ++ future).filterMap Call.draws).Nodup)
    (kept : Throughout next (fun s call => ¬Drops s call) .new (past ++ future))
    (held : (run past).paneLeases.find lease.paneId = some lease) :
    Announces (run (past ++ future)) lease (announced .new (past ++ future)) := by
  have one := ended_add_holds (q := fun id _ => decide (id = lease.leaseId)) fresh kept held
    (decide_eq_true rfl) fun _ _ => of_decide_eq_true
  rw [← length_endings] at one
  constructor
  · intro p other found same
    have positive : 0 < (run (past ++ future)).holds fun id _ => decide (id = lease.leaseId) :=
      List.countP_pos_iff.2 ⟨other, Table.mem_of_find found, decide_eq_true same⟩
    rw [← List.length_eq_zero_iff]
    omega
  · intro gone
    have zero (q : Uuid → Uuid → Bool) (only : ∀ id owner, q id owner = true → id = lease.leaseId) :
        (run (past ++ future)).holds q = 0 := by
      rw [holds_eq_zero]
      intro p other found is
      exact gone p other found (only _ _ is)
    rw [zero _ fun _ _ => of_decide_eq_true] at one
    obtain ⟨event, alone⟩ := List.length_eq_one_iff.1 one
    refine ⟨event, alone, ?_, fun s env => broadcast_perm s env event⟩
    -- counted by owner as well, it is that event
    have only (id owner : Uuid) (is : decide (id = lease.leaseId ∧ owner = lease.ownerConnectionId) = true) :
        id = lease.leaseId := (of_decide_eq_true is).1
    have owned := ended_add_holds
      (q := fun id owner => decide (id = lease.leaseId ∧ owner = lease.ownerConnectionId)) fresh kept held
      (decide_eq_true ⟨rfl, rfl⟩) only
    rw [zero _ only] at owned
    rw [ended, Nat.add_zero] at owned
    obtain ⟨other, member, is⟩ := List.countP_pos_iff.1 (owned ▸ Nat.one_pos)
    rw [Bool.and_eq_true, decide_eq_true_eq] at is
    have listed : other ∈ endings lease.leaseId (announced .new (past ++ future)) := by
      rw [endings, List.mem_filter]
      exact ⟨member, by simp [is.1, is.2.1]⟩
    rw [alone, List.mem_singleton] at listed
    rw [← listed, is.2.2]

theorem next_leases_of_error {e : String} (claim : call.op.claim.isSome) (kept : ¬Drops s call)
    (failed : (perform call s).1 = .error e) :
    (next s call).paneLeases.find = s.paneLeases.find := by
  obtain ⟨env, op⟩ := call
  cases op with
  | claimOrUpdateLease request =>
    have spec : (perform ⟨env, .claimOrUpdateLease request⟩).wp (fun _ _ => True)
        (fun _ s' => s'.paneLeases.find = s.paneLeases.find) s := by
      simp only [perform, wp_bind, wp_pure]
      exact wp_mono claimOrUpdate_balanced (fun _ _ _ => trivial) fun _ _ same => same kept
    exact (wp_iff_forall.1 spec).2 e _ (Prod.ext failed rfl)
  | _ => cases claim

/-- In a run that drops no end of a lease, each is announced once, and a claim or an update that fails
leaves the leases as they are. -/
theorem lease_ends_announced (calls : List Call) (fresh : (calls.filterMap Call.draws).Nodup)
    (kept : Throughout next (fun s call => ¬Drops s call) .new calls) :
    (∀ past future lease, calls = past ++ future →
      (run past).paneLeases.find lease.paneId = some lease → Announces (run calls) lease (announced .new calls)) ∧
      ∀ past call future e, calls = past ++ call :: future → call.op.claim.isSome →
        (perform call (run past)).1 = .error e →
        (run (past ++ [call])).paneLeases.find = (run past).paneLeases.find := by
  constructor
  · rintro past future lease rfl held
    exact run_announces fresh kept held
  · rintro past call future e rfl claim failed
    have dropped := (throughout_append.1 kept).2.1
    rw [run_snoc]
    exact next_leases_of_error claim dropped failed

/-- Another device claims the pane after the lease has expired, and no sweep has been there. -/
def succeededRun : List Call :=
  claimedRun ++ [.plain 15001 "second" (.claimOrUpdateLease
    ⟨"other", "other", "session", "pane", 90, 30, 1, none, none⟩)]

theorem succeededRun_announces : ∃ lease ∈ (run claimedRun).paneLeases.find "pane",
    Announces (run succeededRun) lease (announced .new succeededRun) := by
  obtain ⟨lease, held, at_⟩ : ∃ lease ∈ (run claimedRun).paneLeases.find "pane",
      lease.paneId = "pane" := by decide +kernel
  refine ⟨lease, held, ?_⟩
  rw [← at_] at held
  exact (lease_ends_announced succeededRun (by decide +kernel) (by decide +kernel)).1 claimedRun _ lease rfl held

def refusedClaim : Call :=
  ⟨{ Env.plain 15001 "second" with resizes := .error "failed to resize pty" },
    .claimOrUpdateLease ⟨"other", "other", "session", "pane", 90, 30, 1, none, none⟩⟩

theorem refusedClaim_drops :
    (∃ lease ∈ (run claimedRun).paneLeases.find "pane", lease.leaseId = "lease") ∧
      (perform refusedClaim (run claimedRun)).1.isOk = false ∧
      (run (claimedRun ++ [refusedClaim])).paneLeases.find "pane" = none ∧
      endings "lease" (announced .new (claimedRun ++ [refusedClaim])) = [] := by
  decide +kernel

end Runs

end VibeLink.Daemon
