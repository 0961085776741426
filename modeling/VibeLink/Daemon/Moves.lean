import VibeLink.Daemon.Service
import VibeLink.Daemon.Board

/-! What the daemon's calls do to workspaces and panes, as moves on its board. -/

namespace VibeLink.Daemon

open VibeLink.Relational Tx

def Pane.slot (pane : Pane) : Slot :=
  ⟨pane.outputGeneration, pane.outputSequence, pane.config.cols, pane.config.rows⟩

theorem Pane.recordOutput_slot (pane : Pane) (bytes : Bytes) (now : Nat) :
    (pane.recordOutput bytes now).2.slot =
      { pane.slot with sequence := saturatingAdd pane.slot.sequence 1 } := rfl

def board (s : DaemonState) : Board where
  panes := fun sessionId paneId => (s.pane sessionId paneId).map Pane.slot
  leases := s.paneLeases.find
  nextGeneration := s.nextPaneGeneration

/-- Of the calls that end leases, whether they give the panes their sizes back. -/
def Op.ending : Op → Option Bool
  | .claimOrUpdateLease _ | .releaseLease _ | .adminReclaimLease _ | .expireLeases
  | .cleanupConnectionLeases _ => some true
  | .cleanupLeaseOnExit _ | .cleanupLeasesOnExit _ | .markExited _ _ => some false
  | _ => none

/-- What an update or a renewal leaves of a lease. -/
structure Continues (current lease : RemotePaneLease) : Prop where
  leaseId : lease.leaseId = current.leaseId
  ownerConnectionId : lease.ownerConnectionId = current.ownerConnectionId
  deviceId : lease.deviceId = current.deviceId
  sessionId : lease.sessionId = current.sessionId
  paneId : lease.paneId = current.paneId
  paneGeneration : lease.paneGeneration = current.paneGeneration
  originalCols : lease.originalCols = current.originalCols
  originalRows : lease.originalRows = current.originalRows

def Matches (request : RemotePaneLeaseRenewRequest) (lease : RemotePaneLease) : Prop :=
  leaseRequestStaleReason lease request.ownerConnectionId request.deviceId request.sessionId
    request.leaseId request.revision = none

instance (request : RemotePaneLeaseRenewRequest) (lease : RemotePaneLease) :
    Decidable (Matches request lease) := inferInstanceAs (Decidable (_ = _))

/-- The pane is there, in the process that the lease was claimed for. -/
def Board.Leased (b : Board) (lease : RemotePaneLease) : Prop :=
  ∃ slot, b.panes lease.sessionId lease.paneId = some slot ∧ slot.generation = lease.paneGeneration

def Board.Restored (b : Board) (lease : RemotePaneLease) : Prop :=
  ∃ slot, b.panes lease.sessionId lease.paneId = some slot ∧ slot.cols = lease.originalCols ∧
    slot.rows = lease.originalRows

def Board.Restores (b : Board) (env : Env) (lease : RemotePaneLease) : Prop :=
  b.Leased lease ∧ (b.Restored lease ∨ env.restores lease.paneId = .ok ())

/-- The moves that a call may make, from a board where it begins on. -/
inductive Permitted (call : Call) (start b : Board) : Move → Prop
  | spawn {sessionId pane} : call.op = .insertPane sessionId pane →
    Permitted call start b (.spawn sessionId pane.id pane.config.cols pane.config.rows)
  | drop (kept) : Permitted call start b (.drop kept)
  | output {sessionId paneId slot bytes captureSnapshot} :
    call.op = .recordOutput paneId slot.generation bytes captureSnapshot →
    b.panes sessionId paneId = some slot → Permitted call start b (.output sessionId paneId)
  | resize {sessionId paneId cols rows} :
    (∀ lease, b.leases paneId = some lease → call.env.later < lease.expiresAt →
      cols = lease.targetCols ∧ rows = lease.targetRows) →
    Permitted call start b (.resize sessionId paneId cols rows)
  | claim {request lease} : call.op = .claimOrUpdateLease request → lease.paneId = request.paneId →
    b.leases lease.paneId = none → lease.leaseId = call.env.drawn → b.Leased lease → b.Restored lease →
    Permitted call start b (.claim lease)
  | update {request current lease} : call.op = .claimOrUpdateLease request →
    b.leases lease.paneId = some current → call.env.now < current.expiresAt → Continues current lease →
    b.Leased lease → Permitted call start b (.update lease)
  | renew {request current lease} : b = start → call.op = .renewLease request →
    b.leases request.paneId = some current → Matches request current → Continues current lease →
    lease.targetCols = current.targetCols → lease.targetRows = current.targetRows → b.Leased lease →
    Permitted call start b (.renew lease)
  | finish {restore lease restored} : call.op.ending = some restore →
    b.leases lease.paneId = some lease → (restored = true ↔ restore = true ∧ b.Restores call.env lease) →
    Permitted call start b (.finish lease restored)

abbrev Moves (call : Call) (start : Board) : Board → Board → Prop :=
  Chain (fun m b b' => b' = b.move m) (Permitted call start)

def Within (call : Call) (s s' : DaemonState) : Prop := ∀ start, Moves call start (board s) (board s')

variable {call : Call} {s s' s'' : DaemonState} {sessionId paneId : Uuid} {pane old : Pane}

theorem Within.rfl : Within call s s := fun _ => .refl

theorem Within.trans (h : Within call s s') (h' : Within call s' s'') : Within call s s'' :=
  fun start => (h start).trans (h' start)

instance (call : Call) : IsPreorder DaemonState (Within call) where
  refl _ := .rfl
  trans _ _ _ h h' := h.trans h'

theorem Within.of_board (h : board s' = board s) : Within call s s' := by
  intro start
  rw [h]
  exact .refl

theorem Within.of_move {m : Move} (permitted : ∀ start, Permitted call start (board s) m)
    (h : board s' = (board s).move m) : Within call s s' := by
  intro start
  exact .single (permitted start) h

section Board

theorem board_panes : (board s).panes sessionId paneId = (s.pane sessionId paneId).map Pane.slot := rfl

theorem board_panes_of_pane (h : s.pane sessionId paneId = some pane) :
    (board s).panes sessionId paneId = some pane.slot := by rw [board_panes, h, Option.map_some]

theorem board_congr (panes : ∀ i j, (s'.pane i j).map Pane.slot = (s.pane i j).map Pane.slot)
    (leases : s'.paneLeases = s.paneLeases) (next : s'.nextPaneGeneration = s.nextPaneGeneration) :
    board s' = board s := by
  simp only [board, leases, next, Board.mk.injEq, and_true]
  funext i j
  exact panes i j

theorem board_of_pane (panes : s'.pane = s.pane) (leases : s'.paneLeases = s.paneLeases)
    (next : s'.nextPaneGeneration = s.nextPaneGeneration) : board s' = board s :=
  board_congr (fun _ _ => by rw [panes]) leases next

theorem board_editSession {f : Session → Session} {hf}
    (same : ∀ session, (f session).panes = session.panes) :
    board (s.editSession sessionId f hf) = board s :=
  board_of_pane (DaemonState.pane_editSession_of_panes same) rfl rfl

/-- A write through a `&mut Pane`, as an edit of its slot. -/
theorem board_putPane (pane : Pane) (here : s.pane sessionId paneId = some old) (same : pane.id = old.id)
    {f : Slot → Slot} (slot : pane.slot = f old.slot) :
    board (s.putPane sessionId pane) = (board s).edit sessionId paneId f := by
  rw [DaemonState.pane_id here] at same
  simp only [board, Board.edit, Board.mk.injEq]
  refine ⟨?_, rfl, rfl⟩
  funext i j
  rw [DaemonState.pane_putPane, same]
  split
  · rename_i at_
    obtain ⟨rfl, rfl⟩ := at_
    obtain ⟨session, found, _⟩ := DaemonState.pane_eq_some.1 here
    rw [here, found]
    simp [slot]
  · rfl

theorem board_putPane_same (pane : Pane) (here : s.pane sessionId paneId = some old) (same : pane.id = old.id)
    (slot : pane.slot = old.slot) : board (s.putPane sessionId pane) = board s := by
  rw [board_putPane pane here same (f := id) slot]
  simp only [Board.edit]
  congr 1
  funext i j
  split
  · exact congrFun Option.map_id _
  · rfl

theorem board_drop (kept : Uuid → Uuid → Bool)
    (panes : ∀ i j, s'.pane i j = if kept i j then s.pane i j else none)
    (leases : s'.paneLeases = s.paneLeases) (next : s'.nextPaneGeneration = s.nextPaneGeneration) :
    board s' = (board s).move (.drop kept) := by
  simp only [board, Board.move, leases, next, Board.mk.injEq, and_true]
  funext i j
  rw [panes]
  split <;> rfl

end Board

section Aside

theorem aside {α : Type} {x : DaemonResult α}
    (h : ∀ s, x.wp (fun _ s' => board s' = board s) (fun _ s' => board s' = board s) s) :
    Respects (Within call) x :=
  respects_of_wp fun s => wp_mono (h s) (fun _ _ => .of_board) fun _ _ => .of_board

instance {α : Type} {x : DaemonResult α} [Respects (Within call) x] : Respects (Within call) (quietly x) :=
  inferInstanceAs (Respects (Within call) (x >>= fun _ => pure Answer.nothing))

@[simp] theorem board_clients {clients} : board { s with clients } = board s := rfl

@[simp] theorem board_paneClients {paneClients} : board { s with paneClients } = board s := rfl

@[simp] theorem board_sessionClients {sessionClients} : board { s with sessionClients } = board s := rfl

@[simp] theorem board_desktopSelection {desktopSelection} : board { s with desktopSelection } = board s := rfl

@[simp] theorem board_spawnCancellations {spawnCancellations} :
    board { s with spawnCancellations } = board s := rfl

@[simp] theorem board_revision {nextPaneLeaseRevision} :
    board { s with nextPaneLeaseRevision } = board s := rfl

variable {env : Env} {clientId : Uuid}

instance {tx} : Respects (Within call) (addClient clientId tx) := aside fun _ => rfl

instance : Respects (Within call) (removeClient clientId) := aside fun _ => rfl

instance : Respects (Within call) (attachClientToPane clientId paneId) := aside fun _ => rfl

instance : Respects (Within call) (attachClientToSession clientId sessionId) := aside fun _ => rfl

instance : Respects (Within call) (clearCleanExit sessionId) :=
  aside fun _ => board_editSession fun _ => rfl

instance {name} : Respects (Within call) (renameSession sessionId name) :=
  aside fun s => by simp [renameSession, board_editSession]

instance {folder} : Respects (Within call) (setSessionWorkspaceFolder sessionId folder) :=
  aside fun s => by simp [setSessionWorkspaceFolder, board_editSession]

instance : Respects (Within call) (wakeSession sessionId) :=
  aside fun s => by simp [wakeSession, board_editSession]

instance {layout} : Respects (Within call) (saveLayout sessionId layout) :=
  aside fun s => by simp [saveLayout, board_editSession]

instance {selection} : Respects (Within call) (setDesktopSelection env selection) :=
  aside fun s => by simp [setDesktopSelection]

instance : Respects (Within call) (detachSession clientId sessionId) :=
  aside fun s => by
    simp only [detachSession, wp_write]
    split <;> rfl

instance : Respects (Within call) (paneSpawnCancelled env sessionId paneId) :=
  aside fun s => by simp [paneSpawnCancelled, DaemonState.pruneSpawnCancellations]

instance : Respects (Within call) (subscribePane env clientId sessionId paneId) :=
  aside fun s => by simp [subscribePane, attachClientToPane]

instance : Respects (Within call) (detachPane env clientId sessionId paneId) :=
  aside fun s => by simp [detachPane]

instance : Respects (Within call) (attachPane env clientId sessionId paneId) :=
  aside fun s => by simp [attachPane, attachClientToPane]

instance : Respects (Within call) markCleanExit :=
  aside fun s => by
    simp only [markCleanExit, wp_write]
    refine board_of_pane ?_ rfl rfl
    funext i j
    simp only [DaemonState.pane, Table.find_update, modifyAll, if_true, Option.bind_map]
    rfl

/-- Writes through a `&mut Pane` that leave its slot as it is. -/
theorem aside_putPane {f : Pane → Pane} (same : ∀ pane, (f pane).id = pane.id)
    (slot : ∀ pane, (f pane).slot = pane.slot) : Respects (Within call) (do
      let pane ← .reads fun s => s.paneInSessionMut env sessionId paneId
      .write fun s => s.putPane sessionId (f pane) : DaemonResult Unit) :=
  aside fun s => by
    simp only [wp_bind, wp_reads, wp_write, DaemonState.paneInSessionMut_eq_ok]
    exact ⟨fun pane here => board_putPane_same (f pane) here (same pane) (slot pane), fun _ _ => trivial⟩

instance {title} : Respects (Within call) (setPaneTitle env sessionId paneId title) :=
  aside_putPane (fun _ => rfl) fun _ => rfl

instance {role} : Respects (Within call) (setPaneRole env sessionId paneId role) :=
  aside_putPane (fun _ => rfl) fun _ => rfl

instance {snapshot} : Respects (Within call) (rebasePaneScrollback env sessionId paneId snapshot) := by
  simp only [rebasePaneScrollback, ← DaemonState.paneInSessionMut_eq]
  exact aside_putPane (fun _ => rfl) fun _ => rfl

instance : Respects (Within call) (terminatePane sessionId paneId) :=
  aside fun s => by
    simp only [terminatePane, wp_bind, wp_reads, DaemonState.session_eq_ok]
    refine ⟨fun session found => ?_, fun _ _ => trivial⟩
    split
    · rfl
    · rename_i pane here
      exact board_putPane_same pane.kill ((DaemonState.pane_of_find found _).trans here) rfl rfl

end Aside

section Drops

variable {env : Env}

@[simp] theorem board_forgetPaneClients : board (s.forgetPaneClients paneId) = board s := rfl

@[simp] theorem board_foldl_forget (paneIds : List Uuid) :
    board (paneIds.foldl DaemonState.forgetPaneClients s) = board s := by
  induction paneIds generalizing s with
  | nil => rfl
  | cons paneId paneIds ih => exact ih

/-- The panes that stay are those of which `kept` holds. -/
theorem Within.of_drop (kept : Uuid → Uuid → Bool)
    (panes : ∀ i j, s'.pane i j = if kept i j then s.pane i j else none)
    (leases : s'.paneLeases = s.paneLeases) (next : s'.nextPaneGeneration = s.nextPaneGeneration) :
    Within call s s' := .of_move (fun _ => .drop kept) (board_drop kept panes leases next)

theorem within_forget {paneIds : List Uuid} (h : Within call s s') :
    Within call s (paneIds.foldl DaemonState.forgetPaneClients s') :=
  h.trans (.of_board (board_foldl_forget _))

theorem pane_put_session (session : Session) (empty : session.panes = .empty) (i j : Uuid) :
    ({ s with sessions := s.sessions.put session } : DaemonState).pane i j =
      if decide (i ≠ session.id) then s.pane i j else none := by
  simp only [DaemonState.pane, Table.find_put, Function.update_apply]
  by_cases hi : i = session.id <;> simp [hi, empty]

theorem within_put_session (session : Session) (empty : session.panes = .empty) :
    Within call s { s with sessions := s.sessions.put session } :=
  .of_drop (fun i _ => decide (i ≠ session.id)) (pane_put_session session empty) rfl rfl

instance {name folder} : Respects (Within call) (createSession env name folder) :=
  respects_of_wp fun s => by
    simp only [createSession, wp_bind, wp_write, wp_pure]
    exact within_put_session _ rfl

instance {info layout sleeping cleanExit} :
    Respects (Within call) (insertSession info layout sleeping cleanExit) :=
  respects_write fun _ => within_put_session _ rfl

instance : Respects (Within call) (deleteSession sessionId) :=
  respects_of_wp fun s => by
    simp only [deleteSession, wp_bind, wp_reads, wp_write, wp_pure]
    refine ⟨fun session _ => ?_, fun _ _ => .rfl⟩
    apply within_forget
    refine .of_drop (fun i _ => decide (i ≠ sessionId)) (fun i j => ?_) rfl rfl
    simp only [DaemonState.pane, Table.find_erase, Function.update_apply]
    by_cases hi : i = sessionId <;> simp [hi]

instance : Respects (Within call) (sleepSession sessionId) :=
  respects_of_wp fun s => by
    simp only [sleepSession, wp_bind, wp_reads, wp_write, wp_pure]
    refine ⟨fun session _ => ?_, fun _ _ => .rfl⟩
    apply within_forget
    refine .of_drop (fun i _ => decide (i ≠ sessionId)) (fun i j => ?_) rfl rfl
    rw [DaemonState.pane_editSession]
    by_cases hi : i = sessionId <;> simp [hi]

theorem within_dropPane : Within call s (s.dropPane sessionId paneId) :=
  .of_drop (fun i j => decide (¬(i = sessionId ∧ j = paneId))) (fun i j => by
    rw [DaemonState.pane_dropPane]
    by_cases here : i = sessionId ∧ j = paneId <;> simp [here]) rfl rfl

theorem within_foldl_drop (paneIds : List Uuid) (h : Within call s s') :
    Within call s (paneIds.foldl (fun s paneId => s.dropPane sessionId paneId) s') := by
  induction paneIds generalizing s' with
  | nil => exact h
  | cons paneId paneIds ih => exact ih (h.trans within_dropPane)

theorem within_countPanes : Within call s (s.countPanes sessionId) :=
  .of_board (board_editSession fun _ => rfl)

theorem within_removePane : Within call s (s.removePane sessionId paneId) := by
  simp only [DaemonState.removePane]
  split
  · exact .rfl
  · exact within_dropPane.trans (within_countPanes.trans (.of_board rfl))

instance : Respects (Within call) (closeSessionPanes sessionId) :=
  respects_of_wp fun s => by
    simp only [closeSessionPanes, wp_bind, wp_reads, wp_write, wp_pure]
    refine ⟨fun session _ => ?_, fun _ _ => .rfl⟩
    refine (within_foldl_drop _ (within_forget .rfl)).trans within_countPanes

instance : Respects (Within call) (closePane env sessionId paneId) :=
  respects_of_wp fun s => by
    simp only [closePane, wp_bind, wp_reads, wp_gets, wp_ite, wp_write, wp_pure]
    refine ⟨fun _ _ => ⟨fun _ => ?_, fun _ => within_removePane⟩, fun _ _ => .rfl⟩
    exact ⟨fun _ _ => .of_board rfl, fun _ _ => .rfl⟩

instance : Respects (Within call) (closePaneAny env paneId) :=
  respects_of_wp fun s => by
    simp only [closePaneAny, wp_bind, wp_gets]
    split
    · exact .of_board rfl
    · exact within_removePane

instance : Respects (Within call) (cancelPaneSpawn env sessionId paneId) :=
  respects_of_wp fun s => by
    simp only [cancelPaneSpawn, wp_bind, wp_reads, wp_write]
    refine ⟨fun _ _ => ?_, fun _ _ => .rfl⟩
    exact wp_of_respects (Within call) (fun _ _ h => Within.trans (.of_board rfl) h)
      fun _ _ h => Within.trans (.of_board rfl) h

end Drops

section Generations

theorem board_spawn (exists_ : (s.sessions.find sessionId).isSome)
    (generation : pane.outputGeneration = s.nextPaneGeneration) (sequence : pane.outputSequence = 0) :
    board ({ s with nextPaneGeneration := s.nextPaneGeneration + 1 }.putPane sessionId pane) =
      (board s).move (.spawn sessionId pane.id pane.config.cols pane.config.rows) := by
  simp only [board, Board.move, Board.mk.injEq]
  refine ⟨?_, rfl, rfl⟩
  funext i j
  rw [DaemonState.pane_putPane]
  split
  · rename_i here
    obtain ⟨rfl, rfl⟩ := here
    obtain ⟨session, found⟩ := Option.isSome_iff_exists.1 exists_
    simp [found, Pane.slot, generation, sequence]
  · rfl

theorem insertPaneOrRecover_within {call : Call} (op : call.op = .insertPane sessionId pane) :
    Respects (Within call) (insertPaneOrRecover sessionId pane) :=
  respects_of_wp fun s => by
    simp only [insertPaneOrRecover, takePaneGeneration, wp_bind, wp_reads, wp_gets, wp_write, wp_pure,
      DaemonState.session_eq_ok]
    refine ⟨fun session found => ?_, fun _ _ => .rfl⟩
    refine Within.trans (.of_move (fun _ => .spawn op) ?_) within_countPanes
    exact board_spawn (by rw [found]; rfl) rfl rfl

theorem recordOutput_within {call : Call} {env : Env} {generation : Nat} {bytes : Bytes} {captureSnapshot : Bool}
    (op : call.op = .recordOutput paneId generation bytes captureSnapshot) :
    Respects (Within call)
      (recordOutputAndPushForGeneration env paneId generation bytes captureSnapshot) :=
  respects_of_wp fun s => by
    simp only [recordOutputAndPushForGeneration, wp_bind, wp_gets, wp_ite, wp_pure]
    refine ⟨fun _ => .rfl, fun current => ?_⟩
    obtain ⟨sessionId, pane, found, here, rfl⟩ :=
      DaemonState.paneOutputGeneration_eq_some.1 (not_not.1 current)
    rw [DaemonState.paneAnyMut_eq found here]
    simp only [Except.toOption, wp_bind, wp_gets, wp_write, wp_pure]
    refine .of_move (fun _ => .output op (board_panes_of_pane here)) ?_
    exact board_putPane (pane.recordOutput bytes env.now).2 here rfl (pane.recordOutput_slot bytes env.now)

end Generations

end VibeLink.Daemon
