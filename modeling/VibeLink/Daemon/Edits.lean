import VibeLink.Daemon.Readers

/-! The writes that calls are made of, to workspaces, panes, the selection and the clients. -/

namespace VibeLink.Daemon

open VibeLink.Relational Tx

def DaemonState.Watches (s : DaemonState) (clientId paneId : Uuid) : Prop :=
  ((s.paneClients paneId).find clientId).isSome

/-- The client's own call ends its watch on the pane, or its connection. -/
def Call.leaves (call : Call) (s : DaemonState) (clientId paneId : Uuid) : Prop :=
  match call.op with
  | .addClient id _ | .removeClient id => id = clientId
  | .detachPane id _ left => id = clientId ∧ left = paneId
  | .detachSession id sessionId => id = clientId ∧ (s.pane sessionId paneId).isSome
  | _ => False

/-- A client that is connected stays so, and goes on watching. -/
structure Remains (clientId paneId : Uuid) (s s' : DaemonState) : Prop where
  connected : ∀ row, s.clients.find clientId = some row → s'.clients.find clientId = some row
  watches : s.Watches clientId paneId → s'.Watches clientId paneId

/-- Panes, workspaces and the selection stay, and no client is new. -/
structure Aside (call : Call) (s s' : DaemonState) : Prop where
  pane : s'.pane = s.pane
  sessions : ∀ i, (s'.sessions.find i).isSome = (s.sessions.find i).isSome
  selection : s'.desktopSelection = s.desktopSelection
  clients : ∀ c row, s'.clients.find c = some row → s.clients.find c = some row
  remains : ∀ c p, ¬call.leaves s c p → Remains c p s s'

def Call.empties (call : Call) : Option Uuid :=
  match call.op with
  | .sleepSession sessionId | .closeSessionPanes sessionId => some sessionId
  | .insertSession info _ _ _ => some info.id
  | .createSession _ _ => some call.env.drawn
  | _ => none

inductive Edit (call : Call) (s : DaemonState) : DaemonState → Prop
  | aside {s'} : Aside call s s' → Edit call s s'
  /-- Those who watch a pane that is nowhere. -/
  | forget {paneId} : (∀ i, s.pane i paneId = none) → Edit call s (s.forgetPaneClients paneId)
  /-- A write through a `&mut Pane`, in the process that it has. -/
  | repane {sessionId old} (pane : Pane) : s.pane sessionId pane.id = some old →
    pane.outputCursor = old.outputCursor → Edit call s (s.putPane sessionId pane)
  | record {sessionId read paneId generation bytes captureSnapshot} (now : Nat) :
    call.op = .recordOutput paneId generation bytes captureSnapshot → s.pane sessionId read.id = some read →
    Edit call s (s.putPane sessionId (read.recordOutput bytes now).2)
  | spawn {sessionId pane} : call.op = .insertPane sessionId pane → (s.sessions.find sessionId).isSome →
    Edit call s ({ s with nextPaneGeneration := s.nextPaneGeneration + 1 }.putPane sessionId
      (pane.assignOutputGeneration s.nextPaneGeneration))
  | remove {sessionId paneId} : (s.pane sessionId paneId).isSome → Edit call s (s.removePane sessionId paneId)
  | empty {sessionId s'} : call.empties = some sessionId →
    (∀ i j, s'.pane i j = if i = sessionId then none else s.pane i j) →
    (∀ i, (s.sessions.find i).isSome → (s'.sessions.find i).isSome) →
    s'.desktopSelection = s.desktopSelection → s'.clients = s.clients →
    (∀ p, s.pane sessionId p = none → s'.paneClients p = s.paneClients p) → Edit call s s'
  | delete {sessionId session} : s.sessions.find sessionId = some session → Edit call s { s with
    sessions := s.sessions.erase sessionId
    paneClients := fun p => if p ∈ session.panes.rows.map Pane.id then .empty else s.paneClients p
    sessionClients := Function.update s.sessionClients sessionId .empty
    desktopSelection :=
      if s.desktopSelection.workspaceId = some sessionId then ⟨none, none⟩ else s.desktopSelection }
  | select {env selection} : call.op = .setDesktopSelection selection →
    ¬(selection.paneId.isSome ∧ selection.workspaceId = none) → s.checkSelection env selection = .ok () →
    Edit call s { s with desktopSelection := selection }
  | join {clientId tx} : call.op = .addClient clientId tx →
    Edit call s { s with clients := s.clients.put (clientId, tx) }

def Edits (call : Call) : DaemonState → DaemonState → Prop := Relation.ReflTransGen (Edit call)

variable {call : Call} {s s' s'' : DaemonState} {env : Env} {sessionId paneId clientId : Uuid}

theorem Edits.rfl : Edits call s s := .refl

theorem Edits.trans (h : Edits call s s') (h' : Edits call s' s'') : Edits call s s'' :=
  Relation.ReflTransGen.trans h h'

theorem Edits.single (h : Edit call s s') : Edits call s s' := Relation.ReflTransGen.single h

instance (call : Call) : IsPreorder DaemonState (Edits call) where
  refl _ := .rfl
  trans _ _ _ h h' := h.trans h'

theorem Edits.preserves {I : DaemonState → Prop} (step : ∀ s s', Edit call s s' → I s → I s')
    (h : Edits call s s') (hs : I s) : I s' := by
  induction h with
  | refl => exact hs
  | tail _ edit ih => exact step _ _ edit ih

section Asides

theorem Remains.of_eq {c p : Uuid} (clients : s'.clients = s.clients) (watch : s'.paneClients p = s.paneClients p) :
    Remains c p s s' := by
  constructor
  · intro row h
    rwa [clients]
  · intro h
    rwa [DaemonState.Watches, watch]

theorem Aside.of_eq (pane : s'.pane = s.pane)
    (sessions : ∀ i, (s'.sessions.find i).isSome = (s.sessions.find i).isSome)
    (selection : s'.desktopSelection = s.desktopSelection) (clients : s'.clients = s.clients)
    (watch : s'.paneClients = s.paneClients) : Aside call s s' :=
  ⟨pane, sessions, selection, fun _ _ h => clients ▸ h, fun _ p _ => .of_eq clients (congrFun watch p)⟩

theorem Aside.rfl : Aside call s s :=
  .of_eq (Eq.refl _) (fun _ => Eq.refl _) (Eq.refl _) (Eq.refl _) (Eq.refl _)

theorem sessions_editSession {f : Session → Session} {hf} (i : Uuid) :
    ((s.editSession sessionId f hf).sessions.find i).isSome = (s.sessions.find i).isSome := by
  rw [DaemonState.find_editSession, Relational.modify]
  split
  · rw [Option.isSome_map]
  · rfl

theorem sessions_countPanes (i : Uuid) :
    ((s.countPanes sessionId).sessions.find i).isSome = (s.sessions.find i).isSome := by
  rw [DaemonState.countPanes, sessions_editSession]

theorem sessions_dropPane (i : Uuid) :
    ((s.dropPane sessionId paneId).sessions.find i).isSome = (s.sessions.find i).isSome := by
  rw [DaemonState.dropPane, sessions_editSession]

theorem sessions_removePane (i : Uuid) :
    ((s.removePane sessionId paneId).sessions.find i).isSome = (s.sessions.find i).isSome := by
  rw [DaemonState.removePane]
  split
  · rfl
  · exact (sessions_countPanes i).trans (sessions_dropPane i)

theorem aside_editSession {f : Session → Session} {hf} (same : ∀ session, (f session).panes = session.panes) :
    Aside call s (s.editSession sessionId f hf) :=
  .of_eq (DaemonState.pane_editSession_of_panes same) sessions_editSession rfl rfl rfl

theorem aside_countPanes : Aside call s (s.countPanes sessionId) := aside_editSession fun _ => rfl

theorem foldl_forgetPaneClients (s : DaemonState) (paneIds : List Uuid) :
    paneIds.foldl DaemonState.forgetPaneClients s =
      { s with paneClients := fun p => if p ∈ paneIds then .empty else s.paneClients p } := by
  induction paneIds generalizing s with
  | nil => simp
  | cons paneId paneIds ih =>
    rw [List.foldl_cons, ih]
    simp only [DaemonState.forgetPaneClients, DaemonState.mk.injEq, true_and]
    refine ⟨?_, trivial⟩
    funext p
    by_cases hp : p = paneId <;> simp [hp]

theorem edits_aside {α : Type} {x : DaemonResult α}
    (h : ∀ s, x.wp (fun _ s' => Aside call s s') (fun _ s' => Aside call s s') s) : Respects (Edits call) x :=
  respects_of_wp fun s => wp_mono (h s) (fun _ _ h => .single (.aside h)) fun _ _ h => .single (.aside h)

theorem isSome_find_erase {clients : ClientSet} {c : Uuid} (other : c ≠ clientId)
    (h : (clients.find c).isSome) : ((clients.erase clientId).find c).isSome := by
  rwa [Table.find_erase, Function.update_of_ne other]

theorem removeClient_edits (call : Call) (op : call.op = .removeClient clientId) :
    Respects (Edits call) (removeClient clientId) :=
  edits_aside fun s => by
    refine ⟨rfl, fun _ => rfl, rfl, fun c row h => ?_, fun c p stays => ?_⟩
    · rw [Table.find_erase, Function.update_apply] at h
      split at h
      · cases h
      · exact h
    · have other : c ≠ clientId := by
        rintro rfl
        apply stays
        rw [Call.leaves, op]
      constructor
      · intro row h
        rwa [Table.find_erase, Function.update_of_ne other]
      · exact isSome_find_erase other

instance : Respects (Edits call) (attachClientToPane clientId paneId) :=
  edits_aside fun s => by
    refine ⟨rfl, fun _ => rfl, rfl, fun _ _ h => h, fun c p _ => ⟨fun _ h => h, fun watches => ?_⟩⟩
    simp only [DaemonState.Watches, Function.update_apply]
    split
    · rename_i same
      rw [Table.find_put, Function.update_apply]
      split
      · rfl
      · rwa [← same]
    · exact watches

instance : Respects (Edits call) (attachClientToSession clientId sessionId) :=
  edits_aside fun _ => .of_eq rfl (fun _ => rfl) rfl rfl rfl

instance : Respects (Edits call) (clearCleanExit sessionId) :=
  edits_aside fun _ => aside_editSession fun _ => rfl

theorem edits_session {f : Session → Session} {hf} (same : ∀ session, (f session).panes = session.panes) :
    Respects (Edits call) (do
      let _ ← .reads fun s => s.session sessionId
      .write fun s => s.editSession sessionId f hf : DaemonResult Unit) :=
  edits_aside fun s => by
    simp only [wp_bind, wp_reads, wp_write]
    exact ⟨fun _ _ => aside_editSession same, fun _ _ => .rfl⟩

instance {name} : Respects (Edits call) (renameSession sessionId name) := edits_session fun _ => rfl

instance {folder} : Respects (Edits call) (setSessionWorkspaceFolder sessionId folder) :=
  edits_session fun _ => rfl

instance : Respects (Edits call) (wakeSession sessionId) := edits_session fun _ => rfl

instance {layout} : Respects (Edits call) (saveLayout sessionId layout) := edits_session fun _ => rfl

instance : Respects (Edits call) markCleanExit :=
  edits_aside fun s => by
    refine .of_eq ?_ (fun i => ?_) rfl rfl rfl
    · funext i j
      simp only [DaemonState.pane, Table.find_update, modifyAll, if_true, Option.bind_map]
      rfl
    · simp only [Table.find_update, modifyAll, Option.isSome_map]

theorem detachSession_edits (call : Call) (op : call.op = .detachSession clientId sessionId) :
    Respects (Edits call) (detachSession clientId sessionId) :=
  edits_aside fun s => by
    simp only [detachSession, wp_write]
    split
    · exact .of_eq rfl (fun _ => rfl) rfl rfl rfl
    · rename_i session found
      refine ⟨rfl, fun _ => rfl, rfl, fun _ _ h => h, fun c p stays => ⟨fun _ h => h, fun watches => ?_⟩⟩
      simp only [DaemonState.Watches]
      split
      · rename_i here
        refine isSome_find_erase ?_ watches
        rintro rfl
        apply stays
        rw [Call.leaves, op]
        exact ⟨rfl, by rwa [DaemonState.pane_of_find found]⟩
      · exact watches

instance : Respects (Edits call) (paneSpawnCancelled env sessionId paneId) :=
  edits_aside fun _ => .of_eq rfl (fun _ => rfl) rfl rfl rfl

instance : Respects (Edits call) (subscribePane env clientId sessionId paneId) := by
  rw [subscribePane]
  infer_instance

theorem detachPane_edits (call : Call) (op : call.op = .detachPane clientId sessionId paneId) :
    Respects (Edits call) (detachPane env clientId sessionId paneId) :=
  edits_aside fun s => by
    simp only [detachPane, wp_bind, wp_reads, wp_write]
    refine ⟨fun _ _ => ⟨rfl, fun _ => rfl, rfl, fun _ _ h => h, fun c p stays => ⟨fun _ h => h, ?_⟩⟩,
      fun _ _ => .rfl⟩
    intro watches
    simp only [DaemonState.Watches, Function.update_apply]
    split
    · rename_i same
      refine isSome_find_erase ?_ (same ▸ watches)
      rintro rfl
      apply stays
      rw [Call.leaves, op]
      exact ⟨rfl, same.symm⟩
    · exact watches

instance : Respects (Edits call) (attachPane env clientId sessionId paneId) := by
  rw [attachPane]
  infer_instance

theorem setDesktopSelection_edits {selection : DesktopSelection} (call : Call)
    (op : call.op = .setDesktopSelection selection) : Respects (Edits call) (setDesktopSelection env selection) :=
  respects_of_wp fun s => by
    simp only [setDesktopSelection, wp_bind, wp_require, wp_reads, wp_gets, wp_ite, wp_pure, wp_write]
    refine ⟨fun complete => ⟨fun _ checked => ⟨fun _ => .rfl, fun _ => ?_⟩, fun _ _ => .rfl⟩, fun _ => .rfl⟩
    exact .single (.select op complete checked)

end Asides

section Panes

/-- A write through a `&mut Pane` that leaves it its id and its process. -/
theorem edits_putPane {f : Pane → Pane} (id : ∀ pane, (f pane).id = pane.id)
    (cursor : ∀ pane, (f pane).outputCursor = pane.outputCursor) : Respects (Edits call) (do
      let pane ← .reads fun s => s.paneInSessionMut env sessionId paneId
      .write fun s => s.putPane sessionId (f pane) : DaemonResult Unit) :=
  respects_of_wp fun s => by
    simp only [wp_bind, wp_reads, wp_write, DaemonState.paneInSessionMut_eq_ok]
    refine ⟨fun pane here => .single (.repane (f pane) ?_ (cursor pane)), fun _ _ => .rfl⟩
    rwa [id, DaemonState.pane_id here]

instance {title} : Respects (Edits call) (setPaneTitle env sessionId paneId title) :=
  edits_putPane (fun _ => rfl) fun _ => rfl

instance {role} : Respects (Edits call) (setPaneRole env sessionId paneId role) :=
  edits_putPane (fun _ => rfl) fun _ => rfl

instance {snapshot} : Respects (Edits call) (rebasePaneScrollback env sessionId paneId snapshot) := by
  simp only [rebasePaneScrollback, ← DaemonState.paneInSessionMut_eq]
  exact edits_putPane (fun _ => rfl) fun _ => rfl

instance : Respects (Edits call) (terminatePane sessionId paneId) :=
  respects_of_wp fun s => by
    simp only [terminatePane, wp_bind, wp_reads, DaemonState.session_eq_ok]
    refine ⟨fun session found => ?_, fun _ _ => .rfl⟩
    split
    · exact .rfl
    · rename_i pane here
      have here := (DaemonState.pane_of_find found paneId).trans here
      refine .single (@Edit.repane _ _ _ pane pane.kill ?_ rfl)
      rwa [show pane.kill.id = paneId from (DaemonState.pane_id here : pane.id = paneId)]

theorem recordOutput_edits {generation bytes captureSnapshot} (call : Call)
    (op : call.op = .recordOutput paneId generation bytes captureSnapshot) : Respects (Edits call)
      (recordOutputAndPushForGeneration env paneId generation bytes captureSnapshot) :=
  respects_of_wp fun s => by
    simp only [recordOutputAndPushForGeneration, wp_bind, wp_gets, wp_ite, wp_pure]
    refine ⟨fun _ => .rfl, fun current => ?_⟩
    obtain ⟨sessionId, read, found, at_, rfl⟩ :=
      DaemonState.paneOutputGeneration_eq_some.1 (not_not.1 current)
    rw [DaemonState.paneAnyMut_eq found at_]
    simp only [Except.toOption, wp_bind, wp_gets, wp_write, wp_pure]
    refine .single (.record env.now op ?_)
    rwa [show read.id = paneId from DaemonState.pane_id at_]

theorem pane_eq_none_of_findPane (h : s.findPane env paneId = none) (i : Uuid) : s.pane i paneId = none := by
  cases here : s.pane i paneId with
  | none => rfl
  | some pane =>
    have found : (s.findPane env paneId).isSome := DaemonState.findPane_isSome here
    rw [h] at found
    cases found

instance : Respects (Edits call) (closePane env sessionId paneId) :=
  respects_of_wp fun s => by
    simp only [closePane, wp_bind, wp_reads, wp_gets, wp_ite, wp_write, wp_pure]
    refine ⟨fun _ _ => ⟨fun _ => ?_, fun there => .single (.remove (Option.isSome_iff_ne_none.2 there))⟩,
      fun _ _ => .rfl⟩
    refine ⟨fun _ elsewhere => .single (.forget (@pane_eq_none_of_findPane _ env _ ?_)), fun _ _ => .rfl⟩
    rw [DaemonState.checkNotElsewhere] at elsewhere
    split at elsewhere
    · cases elsewhere
    · assumption

instance : Respects (Edits call) (closePaneAny env paneId) :=
  respects_of_wp fun s => by
    simp only [closePaneAny, wp_bind, wp_gets]
    split
    · rename_i nowhere
      exact .single (.forget (pane_eq_none_of_findPane nowhere))
    · rename_i owner found
      obtain ⟨pane, here, _⟩ := DaemonState.findPane_eq_some found
      exact .single (.remove (by rw [here]; rfl))

instance : Respects (Edits call) (cancelPaneSpawn env sessionId paneId) := by
  have cancellation : Respects (Edits call) (Tx.write fun s : DaemonState =>
      (s.pruneSpawnCancellations env).recordCancellation env sessionId paneId : DaemonResult Unit) :=
    edits_aside fun _ => .of_eq rfl (fun _ => rfl) rfl rfl rfl
  rw [cancelPaneSpawn]
  infer_instance

instance : Respects (Edits call) (deleteSession sessionId) :=
  respects_of_wp fun s => by
    simp only [deleteSession, wp_bind, wp_reads, wp_write, wp_pure]
    simp only [DaemonState.session_eq_ok, foldl_forgetPaneClients]
    exact ⟨fun session found => .single (.delete found), fun _ _ => .rfl⟩

theorem insertPane_edits {pane : Pane} (call : Call) (op : call.op = .insertPane sessionId pane) :
    Respects (Edits call) (insertPaneOrRecover sessionId pane) :=
  respects_of_wp fun s => by
    simp only [insertPaneOrRecover, takePaneGeneration, wp_bind, wp_reads, wp_gets, wp_write, wp_pure,
      DaemonState.session_eq_ok]
    refine ⟨fun session found => ?_, fun _ _ => .rfl⟩
    exact (Edits.single (.spawn op (by rw [found]; rfl))).trans (.single (.aside aside_countPanes))

theorem addClient_edits {tx : Sender} (call : Call) (op : call.op = .addClient clientId tx) :
    Respects (Edits call) (addClient clientId tx) := respects_write fun _ => .single (.join op)

end Panes

section Emptied

theorem putSession_edits (session : Session) (none_ : session.panes = .empty)
    (empties : call.empties = some session.id) :
    Edits call s { s with sessions := s.sessions.put session } := by
  refine .single (.empty empties (fun i j => ?_) (fun i there => ?_) rfl rfl fun _ _ => rfl)
  · rw [pane_put_session session none_]
    by_cases hi : i = session.id <;> simp [hi]
  · rw [Table.find_put, Function.update_apply]
    split
    · rfl
    · exact there

theorem sleepSession_edits (call : Call) (empties : call.empties = some sessionId) :
    Respects (Edits call) (sleepSession sessionId) :=
  respects_of_wp fun s => by
    simp only [sleepSession, wp_bind, wp_reads, wp_write, wp_pure, DaemonState.session_eq_ok,
      foldl_forgetPaneClients]
    refine ⟨fun session found => ?_, fun _ _ => .rfl⟩
    refine .single (.empty empties (fun i j => ?_) (fun i there => ?_) rfl rfl fun p gone => ?_)
    · show (s.editSession sessionId fun session => { session with sleeping := true, panes := .empty }).pane i j = _
      rw [DaemonState.pane_editSession]
      by_cases hi : i = sessionId <;> simp [hi]
    · dsimp only
      rw [sessions_editSession]
      exact there
    · rw [DaemonState.pane_of_find found, Table.find_eq_none] at gone
      exact if_neg gone

theorem foldl_dropPane (s : DaemonState) (sessionId : Uuid) (paneIds : List Uuid) :
    (∀ i j, (paneIds.foldl (fun s paneId => s.dropPane sessionId paneId) s).pane i j =
      if i = sessionId ∧ j ∈ paneIds then none else s.pane i j) ∧
    (∀ i, ((paneIds.foldl (fun s paneId => s.dropPane sessionId paneId) s).sessions.find i).isSome =
      (s.sessions.find i).isSome) ∧
    (paneIds.foldl (fun s paneId => s.dropPane sessionId paneId) s).desktopSelection = s.desktopSelection ∧
    (paneIds.foldl (fun s paneId => s.dropPane sessionId paneId) s).clients = s.clients ∧
    (paneIds.foldl (fun s paneId => s.dropPane sessionId paneId) s).paneClients = s.paneClients := by
  induction paneIds generalizing s with
  | nil => simp
  | cons paneId paneIds ih =>
    obtain ⟨pane, sessions, selection, clients⟩ := ih (s.dropPane sessionId paneId)
    refine ⟨fun i j => ?_, fun i => ?_, selection, clients⟩
    · rw [List.foldl_cons, pane, DaemonState.pane_dropPane]
      by_cases hi : i = sessionId <;> by_cases hj : j = paneId <;> simp [hi, hj]
    · rw [List.foldl_cons, sessions, sessions_dropPane]

theorem closeSessionPanes_edits (call : Call) (empties : call.empties = some sessionId) :
    Respects (Edits call) (closeSessionPanes sessionId) :=
  respects_of_wp fun s => by
    simp only [closeSessionPanes, wp_bind, wp_reads, wp_write, wp_pure, DaemonState.session_eq_ok]
    refine ⟨fun session found => ?_, fun _ _ => .rfl⟩
    refine Edits.trans ?_ (.single (.aside aside_countPanes))
    rw [foldl_forgetPaneClients]
    obtain ⟨pane, sessions, selection, clients, watch⟩ := foldl_dropPane
      { s with paneClients := fun p => if p ∈ session.panes.rows.map Pane.id then .empty else s.paneClients p }
      sessionId (session.panes.rows.map Pane.id)
    refine .single (.empty empties (fun i j => ?_) (fun i there => ?_) selection clients fun p gone => ?_)
    · rw [pane]
      show (if _ then none else s.pane i j) = _
      by_cases hi : i = sessionId
      · rw [if_pos hi]
        split
        · rfl
        · rename_i gone
          rw [hi, DaemonState.pane_of_find found, Table.find_eq_none]
          exact fun member => gone ⟨hi, member⟩
      · rw [if_neg hi, if_neg fun here => hi here.1]
    · rw [sessions]
      exact there
    · rw [DaemonState.pane_of_find found, Table.find_eq_none] at gone
      rw [watch]
      exact if_neg gone

end Emptied

section Leases

instance : Respects (Edits call) takePaneLeaseRevision := by
  have revision : Respects (Edits call) (Tx.write fun s : DaemonState =>
      { s with nextPaneLeaseRevision := s.nextPaneLeaseRevision + 1 } : DaemonResult Unit) :=
    edits_aside fun _ => .of_eq rfl (fun _ => rfl) rfl rfl rfl
  rw [takePaneLeaseRevision]
  infer_instance

theorem writeLeases_edits (call : Call) (f : DaemonState → Table RemotePaneLease.paneId) : Respects (Edits call)
    (Tx.write fun s : DaemonState => { s with paneLeases := f s } : DaemonResult Unit) :=
  edits_aside fun _ => .of_eq rfl (fun _ => rfl) rfl rfl rfl

instance {cols rows pty} : Respects (Edits call) (resizePaneUnchecked env sessionId paneId cols rows pty) :=
  respects_of_wp fun s => by
    simp only [resizePaneUnchecked, wp_bind, wp_reads, wp_ite, wp_pure, wp_ofExcept, wp_write, wp_gets,
      DaemonState.paneInSessionMut_eq_ok]
    refine ⟨fun pane here => ⟨fun _ => .rfl, fun misfit => ⟨fun resized h => ?_, fun _ _ => .rfl⟩⟩,
      fun _ _ => .rfl⟩
    rw [Pane.resize, if_neg misfit] at h
    cases pty with
    | error e => cases h
    | ok _ =>
      cases h
      refine .single (@Edit.repane _ _ _ pane _ ?_ rfl)
      rwa [show (pane.setSize _ _ (max_one_pos cols) (max_one_pos rows)).id = paneId from
        (DaemonState.pane_id here : pane.id = paneId)]

instance {cols rows origin} : Respects (Edits call)
    (resizePaneAuthorized env sessionId paneId cols rows origin) := by
  rw [resizePaneAuthorized]
  infer_instance

instance {lease cols rows pty} : Respects (Edits call) (resizeForLease env lease cols rows pty) := by
  rw [resizeForLease]
  infer_instance

instance {lease} : Respects (Edits call) (restoreRemotePaneLease env lease) := by
  rw [restoreRemotePaneLease]
  infer_instance

instance {kind reason restore explicitRelease} : Respects (Edits call)
    (finishRemotePaneLease env paneId kind reason restore explicitRelease) := by
  have erase := writeLeases_edits call fun s => s.paneLeases.erase paneId
  rw [finishRemotePaneLease]
  refine Respects.bind (k := fun removed => ?_)
  cases removed with
  | none => dsimp only; infer_instance
  | some lease =>
    refine Respects.bind (k := fun _ => Respects.bind (k := fun revision => ?_))
    dsimp only
    split
    · exact Respects.bind (k := fun _ => inferInstanceAs (Respects (Edits call) (pure _)))
    · exact Respects.bind (k := fun _ => inferInstanceAs (Respects (Edits call) (pure _)))

instance {reason restore paneIds} : Respects (Edits call)
    (finishRemotePaneLeases env reason restore paneIds) := by
  rw [finishRemotePaneLeases]
  infer_instance

instance {request} : Respects (Edits call) (releaseRemotePaneLease env request) := by
  rw [releaseRemotePaneLease]
  refine Respects.bind (k := fun held => ?_)
  split
  · infer_instance
  · split <;> infer_instance

instance {request} : Respects (Edits call) (adminReclaimRemotePaneLease env request) := by
  rw [adminReclaimRemotePaneLease]
  infer_instance

instance : Respects (Edits call) (expireRemotePaneLeases env) := by
  rw [expireRemotePaneLeases]
  infer_instance

instance {request} : Respects (Edits call) (cleanupRemoteConnectionLeases env request) := by
  rw [cleanupRemoteConnectionLeases]
  infer_instance

instance : Respects (Edits call) (cleanupRemotePaneLeaseOnExit env paneId) := by
  rw [cleanupRemotePaneLeaseOnExit]
  infer_instance

instance {paneIds} : Respects (Edits call) (cleanupRemotePaneLeasesOnExit env paneIds) := by
  rw [cleanupRemotePaneLeasesOnExit]
  infer_instance

instance {lease kind reason} : Respects (Edits call) (grantLease env lease kind reason) := by
  have put := writeLeases_edits call fun s => s.paneLeases.put lease
  rw [grantLease]
  infer_instance

instance : Respects (Edits call) (expireHeldLease env paneId) := by
  rw [expireHeldLease]
  infer_instance

instance {request} : Respects (Edits call) (claimOrUpdateRemotePaneLease env request) := by
  rw [claimOrUpdateRemotePaneLease]
  refine Respects.bind (k := fun _ => Respects.bind (k := fun _ => Respects.bind (k := fun expired =>
    Respects.bind (k := fun pane => Respects.bind (k := fun held => ?_)))))
  dsimp only
  split
  · split <;> infer_instance
  · infer_instance

instance {request} : Respects (Edits call) (renewRemotePaneLease env request) := by
  rw [renewRemotePaneLease]
  refine Respects.bind (k := fun held => ?_)
  split
  · infer_instance
  · rename_i current
    split
    · infer_instance
    · have put (revision : Nat) := writeLeases_edits call fun s =>
        s.paneLeases.put (renewedLease env current request revision)
      infer_instance

instance : Respects (Edits call) (markExited env paneId) :=
  respects_of_wp fun s => by
    simp only [markExited, wp_bind, wp_gets]
    refine wp_mono (wp_and (wp_of_respects (Edits call) (fun _ _ h => h) fun _ _ h => h)
      finishRemotePaneLease_pane) ?_ fun _ _ h => h.1
    rintro _ s₁ ⟨edits, same⟩
    refine edits.trans ?_
    cases owner : s.findPane env paneId with
    | some owner =>
      obtain ⟨pane, here, _⟩ := DaemonState.findPane_eq_some owner
      exact .single (.remove (by rw [same, here]; rfl))
    | none =>
      refine .single (.forget fun i => ?_)
      rw [same]
      exact pane_eq_none_of_findPane owner i

instance {generation} : Respects (Edits call) (markExitedForGeneration env paneId generation) := by
  have exits : Respects (Edits call) (some <$> markExited env paneId) :=
    inferInstanceAs (Respects (Edits call) (markExited env paneId >>= fun effect => pure (some effect)))
  rw [markExitedForGeneration]
  infer_instance

end Leases

instance {α : Type} {x : DaemonResult α} [Respects (Edits call) x] : Respects (Edits call) (quietly x) :=
  inferInstanceAs (Respects (Edits call) (x >>= fun _ => pure Answer.nothing))

theorem perform_edits (call : Call) : Respects (Edits call) (perform call) := by
  obtain ⟨env, op⟩ := call
  cases op with
  | addClient clientId tx =>
    have joins := addClient_edits ⟨env, .addClient clientId tx⟩ rfl
    exact inferInstanceAs (Respects _ (quietly _))
  | removeClient clientId =>
    have removes := removeClient_edits ⟨env, .removeClient clientId⟩ rfl
    exact inferInstanceAs (Respects _ (quietly _))
  | detachSession clientId sessionId =>
    have detaches := detachSession_edits ⟨env, .detachSession clientId sessionId⟩ rfl
    exact inferInstanceAs (Respects _ (quietly _))
  | detachPane clientId sessionId paneId =>
    have detaches := @detachPane_edits env _ _ _ ⟨env, .detachPane clientId sessionId paneId⟩ rfl
    exact inferInstanceAs (Respects _ (quietly _))
  | recordOutput paneId generation bytes captureSnapshot =>
    have records := @recordOutput_edits env _ _ _ _
      ⟨env, .recordOutput paneId generation bytes captureSnapshot⟩ rfl
    dsimp only [perform]
    infer_instance
  | createSession name folder =>
    have creates : Respects (Edits ⟨env, .createSession name folder⟩) (createSession env name folder) :=
      respects_of_wp fun s => putSession_edits _ rfl rfl
    exact inferInstanceAs (Respects _ (quietly _))
  | insertSession info layout sleeping cleanExit =>
    have inserts : Respects (Edits ⟨env, .insertSession info layout sleeping cleanExit⟩)
        (insertSession info layout sleeping cleanExit) := respects_write fun s => putSession_edits _ rfl rfl
    exact inferInstanceAs (Respects _ (quietly _))
  | setDesktopSelection selection =>
    have selects := @setDesktopSelection_edits env _ ⟨env, .setDesktopSelection selection⟩ rfl
    exact inferInstanceAs (Respects _ (quietly _))
  | insertPane sessionId pane =>
    have inserts := insertPane_edits ⟨env, .insertPane sessionId pane⟩ rfl
    exact inferInstanceAs (Respects _ (quietly _))
  | sleepSession sessionId =>
    have sleeps := sleepSession_edits ⟨env, .sleepSession sessionId⟩ rfl
    exact inferInstanceAs (Respects _ (quietly _))
  | closeSessionPanes sessionId =>
    have closes := closeSessionPanes_edits ⟨env, .closeSessionPanes sessionId⟩ rfl
    exact inferInstanceAs (Respects _ (quietly _))
  | _ =>
    dsimp only [perform]
    infer_instance

theorem next_edits (s : DaemonState) (call : Call) : Edits call s (next s call) :=
  (perform_edits call).respects s

end VibeLink.Daemon
