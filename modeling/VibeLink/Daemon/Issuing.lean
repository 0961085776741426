import VibeLink.Daemon.Simulation

/-! Where a lease comes from: a call leaves the leases it finds, prolongs one, ends some, or claims
one under an id of its own. -/

namespace VibeLink.Daemon

open VibeLink.Relational Tx

variable {call : Call} {s : DaemonState} {ids : List Uuid} {p : Uuid} {lease lease' current : RemotePaneLease}

def Call.draws (call : Call) : Option Uuid :=
  match call.op with
  | .claimOrUpdateLease _ => some call.env.drawn
  | _ => none

theorem Continues.rfl : Continues lease lease := by
  constructor <;> rfl

theorem Continues.trans (h : Continues current lease) (h' : Continues lease lease') :
    Continues current lease' where
  leaseId := h'.leaseId.trans h.leaseId
  ownerConnectionId := h'.ownerConnectionId.trans h.ownerConnectionId
  deviceId := h'.deviceId.trans h.deviceId
  sessionId := h'.sessionId.trans h.sessionId
  paneId := h'.paneId.trans h.paneId
  paneGeneration := h'.paneGeneration.trans h.paneGeneration
  originalCols := h'.originalCols.trans h.originalCols
  originalRows := h'.originalRows.trans h.originalRows

/-- The call may prolong the lease: in time, or by a renewal that names it as it is. -/
def Prolongs (call : Call) (start : Board) (current : RemotePaneLease) : Prop :=
  call.env.now < current.expiresAt ∨ ∃ request, call.op = .renewLease request ∧
    start.leases request.paneId = some current ∧ Matches request current ∧ start.Leased current

/-- What a lease that a call leaves was before it. -/
inductive Stems (call : Call) (start : Board) (p : Uuid) (lease : RemotePaneLease) : Prop
  | stays : start.leases p = some lease → Stems call start p lease
  | prolonged {current : RemotePaneLease} : start.leases p = some current → Continues current lease →
    Prolongs call start current → Stems call start p lease
  | claimed {request : RemotePaneLeaseClaimRequest} : call.op = .claimOrUpdateLease request → request.paneId = p →
    lease.leaseId = call.env.drawn → Stems call start p lease

theorem Stems.continues {start : Board} (stems : Stems call start p current)
    (continues : Continues current lease)
    (prolongs : start.leases p = some current → Prolongs call start current) : Stems call start p lease := by
  cases stems with
  | stays held => exact .prolonged held continues (prolongs held)
  | prolonged held before prolonged => exact .prolonged held (before.trans continues) prolonged
  | claimed op at_ drawn => exact .claimed op at_ (continues.leaseId.trans drawn)

theorem Stems.move {start b : Board} {m : Move} (permitted : Permitted call start b m)
    (keyed : ∀ p lease, start.leases p = some lease → lease.paneId = p)
    (stems : ∀ p lease, b.leases p = some lease → Stems call start p lease) (p : Uuid)
    (lease : RemotePaneLease) (held : (b.move m).leases p = some lease) : Stems call start p lease := by
  cases permitted with
  | spawn _ => exact stems p lease held
  | drop _ => exact stems p lease held
  | output _ _ => exact stems p lease held
  | resize _ => exact stems p lease held
  | claim op at_ _ drawn _ _ =>
    obtain ⟨rfl, rfl⟩ | ⟨_, held⟩ := update_eq_some.1 held
    · exact .claimed op at_.symm drawn
    · exact stems p lease held
  | update _ before active continues _ =>
    obtain ⟨rfl, rfl⟩ | ⟨_, held⟩ := update_eq_some.1 held
    · exact (stems _ _ before).continues continues fun _ => .inl active
    · exact stems p lease held
  | @renew request current lease' atStart op before named continues _ _ leased =>
    obtain ⟨rfl, rfl⟩ | ⟨_, held⟩ := update_eq_some.1 held
    · subst atStart
      rw [continues.paneId, keyed _ _ before]
      refine .prolonged before continues (.inr ⟨request, op, before, named, ?_⟩)
      obtain ⟨slot, found, same⟩ := leased
      rw [continues.sessionId, continues.paneId] at found
      exact ⟨slot, found, same.trans continues.paneGeneration⟩
    · exact stems p lease held
  | finish _ _ _ => exact stems p lease (Board.leases_finish_eq_some.1 held).2

theorem next_stems (held : (board (next s call)).leases p = some lease) :
    Stems call (board s) p lease := by
  have keyed (p : Uuid) (lease : RemotePaneLease) (held : (board s).leases p = some lease) :
      lease.paneId = p := Table.key_of_find held
  refine (next_moves s call).preserves
    (I := fun b => ∀ p lease, b.leases p = some lease → Stems call (board s) p lease) ?_ ?_ p lease held
  · rintro m b _ permitted rfl stems
    exact Stems.move permitted keyed stems
  · intro p lease held
    exact .stays held

/-- The leases have ids that have been drawn, each another. -/
structure Board.Issued (ids : List Uuid) (b : Board) : Prop where
  known : ∀ p lease, b.leases p = some lease → lease.leaseId ∈ ids
  unique : ∀ p q lease lease', b.leases p = some lease → b.leases q = some lease' →
    lease.leaseId = lease'.leaseId → p = q

theorem Stems.id (stems : Stems call (board s) p lease) :
    (∃ current, (board s).leases p = some current ∧ current.leaseId = lease.leaseId) ∨
      ∃ request, call.op = .claimOrUpdateLease request ∧ request.paneId = p ∧
        call.draws = some lease.leaseId := by
  cases stems with
  | stays held => exact .inl ⟨lease, held, rfl⟩
  | prolonged held continues _ => exact .inl ⟨_, held, continues.leaseId.symm⟩
  | claimed op at_ drawn =>
    refine .inr ⟨_, op, at_, ?_⟩
    rw [Call.draws, op, drawn]

theorem next_issued (issued : (board s).Issued ids) (fresh : ∀ id ∈ call.draws, id ∉ ids) :
    (board (next s call)).Issued (ids ++ call.draws.toList) where
  known p lease held := by
    rw [List.mem_append]
    obtain ⟨current, before, same⟩ | ⟨_, _, _, drawn⟩ := (next_stems held).id
    · exact .inl (same ▸ issued.known p current before)
    · exact .inr (by simp [drawn])
  unique p q lease lease' held held' same := by
    obtain ⟨current, before, id⟩ | ⟨request, op, at_, drawn⟩ := (next_stems held).id
    · obtain ⟨current', before', id'⟩ | ⟨_, _, _, drawn'⟩ := (next_stems held').id
      · exact issued.unique p q current current' before before' (id.trans (same.trans id'.symm))
      · refine absurd (issued.known p current before) (fresh _ ?_)
        rw [id, same]
        exact drawn'
    · obtain ⟨current', before', id'⟩ | ⟨request', op', at', _⟩ := (next_stems held').id
      · refine absurd (issued.known q current' before') (fresh _ ?_)
        rw [id', ← same]
        exact drawn
      · cases op.symm.trans op'
        exact at_.symm.trans at'

theorem run_issued {calls : List Call} (fresh : (calls.filterMap Call.draws).Nodup) :
    (board (run calls)).Issued (calls.filterMap Call.draws) := by
  induction calls using List.reverseRecOn with
  | nil => exact ⟨nofun, nofun⟩
  | append_singleton calls call ih =>
    rw [List.filterMap_append] at fresh ⊢
    have disjoint := (List.nodup_append.1 fresh).2.2
    rw [run_snoc, show [call].filterMap Call.draws = call.draws.toList by cases h : call.draws <;> simp [h]]
    apply next_issued (ih (List.nodup_append.1 fresh).1)
    intro id drawn past
    exact disjoint id past id (by simpa using drawn) rfl

theorem foldl_continues {calls : List Call} (issued : (board s).Issued ids)
    (held : (board s).leases p = some lease) (others : ∀ call ∈ calls, call.draws ≠ some lease.leaseId)
    (q : Uuid) (found : (board (calls.foldl next s)).leases q = some current)
    (same : current.leaseId = lease.leaseId) : Continues lease current := by
  refine run_invariant (P := fun _ call => call.draws ≠ some lease.leaseId)
    (I := fun s => ∀ q current, (board s).leases q = some current → current.leaseId = lease.leaseId →
      Continues lease current) ?_ ?_ (throughout_of_forall (fun call member _ => others call member) s)
    q current found same
  · intro s call continues other q current found same
    cases next_stems found with
    | stays before => exact continues q current before same
    | prolonged before continued _ =>
      exact (continues q _ before (continued.leaseId.symm.trans same)).trans continued
    | claimed op at_ drawn =>
      refine absurd ?_ other
      rw [Call.draws, op, ← same, drawn]
  · intro q current found same
    cases issued.unique p q lease current held found same.symm
    cases held.symm.trans found
    exact .rfl

end VibeLink.Daemon

/-! Generations number the processes of panes: no two of a board share one, and a lease names one that
has been handed out. -/

namespace VibeLink.Daemon

open VibeLink.Relational Tx

structure Board.Numbered (b : Board) : Prop where
  fresh : ∀ i j slot, b.panes i j = some slot → slot.generation < b.nextGeneration
  unique : ∀ i j x i' j' y, b.panes i j = some x → b.panes i' j' = some y →
    x.generation = y.generation → i = i' ∧ j = j'
  keyed : ∀ p lease, b.leases p = some lease → lease.paneId = p
  bounded : ∀ p lease, b.leases p = some lease → lease.paneGeneration < b.nextGeneration

namespace Board

variable {b b' : Board} {call : Call} {start : Board} {m : Move} {lease current : RemotePaneLease}

/-- Every slot of `b'` is one of `b`, with its generation. -/
def Keeps (b b' : Board) : Prop := ∀ i j slot', b'.panes i j = some slot' →
  ∃ slot, b.panes i j = some slot ∧ slot.generation = slot'.generation

theorem keeps_edit {sessionId paneId : Uuid} {f : Slot → Slot}
    (same : ∀ slot, (f slot).generation = slot.generation) : b.Keeps (b.edit sessionId paneId f) := by
  intro i j slot' h
  obtain ⟨slot, found, rfl⟩ := panes_edit_eq_some.1 h
  refine ⟨slot, found, ?_⟩
  split
  · exact (same slot).symm
  · rfl

theorem keeps_setSize {sessionId paneId : Uuid} {cols rows : UInt16} :
    b.Keeps (b.setSize sessionId paneId cols rows) := keeps_edit fun _ => rfl

theorem Numbered.of_keeps (numbered : b.Numbered) (keeps : b.Keeps b')
    (next : b'.nextGeneration = b.nextGeneration)
    (leases : ∀ p lease, b'.leases p = some lease →
      lease.paneId = p ∧ lease.paneGeneration < b.nextGeneration) : b'.Numbered where
  fresh i j slot' h := by
    obtain ⟨slot, found, same⟩ := keeps i j slot' h
    rw [next, ← same]
    exact numbered.fresh i j slot found
  unique i j x i' j' y hx hy same := by
    obtain ⟨x', foundx, samex⟩ := keeps i j x hx
    obtain ⟨y', foundy, samey⟩ := keeps i' j' y hy
    exact numbered.unique i j x' i' j' y' foundx foundy (by rw [samex, samey, same])
  keyed p lease h := (leases p lease h).1
  bounded p lease h := by
    rw [next]
    exact (leases p lease h).2

theorem Numbered.leases (numbered : b.Numbered) (p : Uuid) (lease : RemotePaneLease)
    (h : b.leases p = some lease) : lease.paneId = p ∧ lease.paneGeneration < b.nextGeneration :=
  ⟨numbered.keyed p lease h, numbered.bounded p lease h⟩

theorem Numbered.hold (numbered : b.Numbered) (leased : b.Leased lease) (p : Uuid) (l : RemotePaneLease)
    (h : Function.update b.leases lease.paneId (some lease) p = some l) :
    l.paneId = p ∧ l.paneGeneration < b.nextGeneration := by
  obtain ⟨rfl, rfl⟩ | ⟨_, h⟩ := update_eq_some.1 h
  · obtain ⟨slot, found, same⟩ := leased
    exact ⟨rfl, same ▸ numbered.fresh _ _ _ found⟩
  · exact numbered.leases p l h

theorem Numbered.spawn (numbered : b.Numbered) {sessionId paneId : Uuid} {cols rows : UInt16} :
    (b.move (.spawn sessionId paneId cols rows)).Numbered where
  fresh i j slot h := by
    simp only [move] at h ⊢
    split at h
    · cases h
      exact Nat.lt_succ_self _
    · exact (numbered.fresh i j slot h).trans (Nat.lt_succ_self _)
  unique i j x i' j' y hx hy same := by
    simp only [move] at hx hy
    split at hx
    · rename_i here
      split at hy
      · rename_i here'
        exact ⟨here.1.trans here'.1.symm, here.2.trans here'.2.symm⟩
      · cases hx
        exact absurd same (numbered.fresh i' j' y hy).ne'
    · split at hy
      · cases hy
        exact absurd same (numbered.fresh i j x hx).ne
      · exact numbered.unique i j x i' j' y hx hy same
  keyed p lease h := numbered.keyed p lease h
  bounded p lease h := (numbered.bounded p lease h).trans (Nat.lt_succ_self _)

theorem Numbered.move (numbered : b.Numbered) (permitted : Permitted call start b m) :
    (b.move m).Numbered := by
  cases permitted with
  | spawn _ => exact numbered.spawn
  | drop kept =>
    refine numbered.of_keeps (fun i j slot' h => ?_) rfl numbered.leases
    simp only [Board.move] at h
    split at h
    · exact ⟨slot', h, rfl⟩
    · cases h
  | output _ _ => exact numbered.of_keeps (keeps_edit fun _ => rfl) rfl numbered.leases
  | resize _ => exact numbered.of_keeps keeps_setSize rfl numbered.leases
  | claim _ _ _ _ leased _ => exact numbered.of_keeps keeps_setSize rfl (numbered.hold leased)
  | update _ _ _ _ leased => exact numbered.of_keeps keeps_setSize rfl (numbered.hold leased)
  | renew _ _ _ _ _ _ _ leased =>
    exact numbered.of_keeps (fun i j slot' h => ⟨slot', h, rfl⟩) rfl (numbered.hold leased)
  | finish _ _ _ =>
    refine numbered.of_keeps ?_ (by simp only [Board.move]; split <;> rfl) fun p l h => ?_
    · simp only [Board.move, Keeps, panes_release]
      split
      · exact keeps_setSize
      · exact fun i j slot' h => ⟨slot', h, rfl⟩
    · exact numbered.leases p l (leases_finish_eq_some.1 h).2

theorem Numbered.moves (numbered : b.Numbered) (moves : Moves call start b b') : b'.Numbered := by
  refine moves.preserves ?_ numbered
  rintro m b _ permitted rfl numbered
  exact numbered.move permitted

end Board

theorem next_numbered {s : DaemonState} {call : Call} (numbered : (board s).Numbered) :
    (board (next s call)).Numbered := numbered.moves (next_moves s call)

theorem run_numbered (calls : List Call) : (board (run calls)).Numbered := by
  induction calls using List.reverseRecOn with
  | nil => exact ⟨nofun, nofun, nofun, nofun⟩
  | append_singleton calls call ih =>
    rw [run_snoc]
    exact next_numbered ih

end VibeLink.Daemon
