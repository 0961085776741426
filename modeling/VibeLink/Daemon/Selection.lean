import VibeLink.Daemon.Edits

/-! What the desktop has selected is there, unless its workspace has been emptied under it. -/

namespace VibeLink.Daemon

open VibeLink.Relational Tx

variable {call : Call} {s s' : DaemonState} {env : Env} {sessionId paneId : Uuid}

structure Selected (s : DaemonState) : Prop where
  complete : ¬(s.desktopSelection.paneId.isSome ∧ s.desktopSelection.workspaceId = none)
  session : ∀ workspaceId ∈ s.desktopSelection.workspaceId, (s.sessions.find workspaceId).isSome
  pane : ∀ workspaceId ∈ s.desktopSelection.workspaceId, ∀ paneId ∈ s.desktopSelection.paneId,
    (s.pane workspaceId paneId).isSome

/-- The workspace of the selected pane loses its panes, and the selection stays. -/
def Forgets (s : DaemonState) (call : Call) : Prop :=
  s.desktopSelection.paneId.isSome ∧ ∃ workspaceId ∈ s.desktopSelection.workspaceId,
    call.empties = some workspaceId

instance (s : DaemonState) (call : Call) : Decidable (Forgets s call) :=
  inferInstanceAs (Decidable (_ ∧ ∃ workspaceId ∈ s.desktopSelection.workspaceId, _))

theorem Selected.of_more (selected : Selected s) (selection : s'.desktopSelection = s.desktopSelection)
    (sessions : ∀ i, (s.sessions.find i).isSome → (s'.sessions.find i).isSome)
    (panes : ∀ i j, (s.pane i j).isSome → (s'.pane i j).isSome) : Selected s' := by
  obtain ⟨complete, session, pane⟩ := selected
  rw [← selection] at complete session pane
  exact ⟨complete, fun i here => sessions i (session i here),
    fun i here j there => panes i j (pane i here j there)⟩

theorem isSome_putPane {pane : Pane} {i j : Uuid} (there : (s.pane i j).isSome) :
    ((s.putPane sessionId pane).pane i j).isSome := by
  rw [DaemonState.pane_putPane]
  split
  · obtain ⟨old, here⟩ := Option.isSome_iff_exists.1 there
    rw [Option.isSome_map]
    exact DaemonState.find_isSome_of_pane here
  · exact there

theorem selection_removePane : (s.removePane sessionId paneId).desktopSelection =
    if (s.sessions.find sessionId).isSome ∧ s.desktopSelection.workspaceId = some sessionId ∧
        s.desktopSelection.paneId = some paneId then { s.desktopSelection with paneId := none }
    else s.desktopSelection := by
  rw [DaemonState.removePane]
  cases s.sessions.find sessionId <;> simp

theorem Selected.removePane (selected : Selected s) : Selected (s.removePane sessionId paneId) := by
  have selection : (s.removePane sessionId paneId).desktopSelection = _ := selection_removePane
  by_cases hit : (s.sessions.find sessionId).isSome ∧ s.desktopSelection.workspaceId = some sessionId ∧
      s.desktopSelection.paneId = some paneId
  · rw [if_pos hit] at selection
    constructor
    · simp [selection]
    · intro i here
      rw [sessions_removePane]
      apply selected.session
      rwa [selection] at here
    · intro i _ j there
      rw [selection] at there
      cases there
  · rw [if_neg hit] at selection
    constructor
    · rw [selection]
      exact selected.complete
    · intro i here
      rw [sessions_removePane]
      apply selected.session
      rwa [selection] at here
    · intro i here j there
      rw [selection] at here there
      rw [pane_removePane, if_neg]
      · exact selected.pane i here j there
      · rintro ⟨rfl, rfl⟩
        exact hit ⟨selected.session i here, here, there⟩

theorem checkSelection_eq_ok {selection : DesktopSelection} (h : s.checkSelection env selection = .ok ()) :
    (∀ workspaceId ∈ selection.workspaceId, (s.sessions.find workspaceId).isSome) ∧
      ∀ workspaceId ∈ selection.workspaceId, ∀ paneId ∈ selection.paneId,
        (s.pane workspaceId paneId).isSome := by
  obtain ⟨workspaceId, paneId⟩ := selection
  cases workspaceId with
  | none => exact ⟨nofun, nofun⟩
  | some workspaceId =>
    simp only [DaemonState.checkSelection, Bind.bind, Except.bind] at h
    cases session : s.session workspaceId with
    | error e =>
      rw [session] at h
      cases h
    | ok session_ =>
      rw [session] at h
      have there : (s.sessions.find workspaceId).isSome := by
        rw [DaemonState.session_eq_ok.1 session]
        rfl
      refine ⟨fun _ same => Option.some.inj same ▸ there, fun _ same j member => ?_⟩
      cases same
      cases member
      dsimp only at h
      cases found : s.paneInSession env workspaceId j with
      | error e =>
        rw [found] at h
        cases h
      | ok pane =>
        rw [DaemonState.paneInSession_eq_ok.1 found]
        rfl

theorem Selected.delete (selected : Selected s) (paneClients : Uuid → ClientSet) : Selected { s with
    sessions := s.sessions.erase sessionId
    paneClients
    sessionClients := Function.update s.sessionClients sessionId .empty
    desktopSelection :=
      if s.desktopSelection.workspaceId = some sessionId then ⟨none, none⟩ else s.desktopSelection } := by
  by_cases here : s.desktopSelection.workspaceId = some sessionId
  · simp only [if_pos here]
    exact ⟨by simp, nofun, nofun⟩
  · simp only [if_neg here]
    have other (i : Uuid) (member : i ∈ s.desktopSelection.workspaceId) : i ≠ sessionId := by
      rintro rfl
      exact here member
    refine ⟨selected.complete, fun i member => ?_, fun i member j there => ?_⟩
    · rw [Table.find_erase, Function.update_of_ne (other i member)]
      exact selected.session i member
    · rw [DaemonState.pane, Table.find_erase, Function.update_of_ne (other i member)]
      exact selected.pane i member j there

theorem Selected.edit (edit : Edit call s s') (selected : Selected s) (kept : ¬Forgets s call) :
    Selected s' := by
  cases edit with
  | aside aside =>
    refine selected.of_more aside.selection (fun i there => ?_) fun i j there => ?_
    · rwa [aside.sessions]
    · rwa [aside.pane]
  | forget _ => exact selected.of_more rfl (fun _ there => there) fun _ _ there => there
  | repane pane here _ =>
    refine selected.of_more rfl (fun i there => ?_) fun i j => isSome_putPane
    rwa [DaemonState.putPane, sessions_editSession]
  | record now op here =>
    refine selected.of_more rfl (fun i there => ?_) fun i j => isSome_putPane
    rwa [DaemonState.putPane, sessions_editSession]
  | spawn op _ =>
    refine selected.of_more rfl (fun i there => ?_) fun i j => isSome_putPane
    rwa [DaemonState.putPane, sessions_editSession]
  | remove _ => exact selected.removePane
  | @empty sessionId _ empties panes sessions selection _ _ =>
    refine ⟨selection ▸ selected.complete, fun i here => ?_, fun i here j there => ?_⟩
    · rw [selection] at here
      exact sessions i (selected.session i here)
    · rw [selection] at here there
      rw [panes, if_neg]
      · exact selected.pane i here j there
      · rintro rfl
        exact kept ⟨by rw [there]; rfl, i, here, empties⟩
  | delete found => exact selected.delete _
  | select op complete checked =>
    obtain ⟨session, pane⟩ := checkSelection_eq_ok checked
    exact ⟨complete, session, pane⟩
  | join _ => exact ⟨selected.complete, selected.session, selected.pane⟩

theorem selection_edit (edit : Edit call s s') (empties : call.empties.isSome) :
    s'.desktopSelection = s.desktopSelection ∨ s'.desktopSelection.paneId = none := by
  cases edit with
  | aside aside => exact .inl aside.selection
  | forget _ => exact .inl rfl
  | repane _ _ _ => exact .inl rfl
  | record _ _ _ => exact .inl rfl
  | spawn _ _ => exact .inl rfl
  | remove _ =>
    rw [selection_removePane]
    split
    · exact .inr rfl
    · exact .inl rfl
  | empty _ _ _ selection _ _ => exact .inl selection
  | delete found =>
    dsimp only
    split
    · exact .inr rfl
    · exact .inl rfl
  | select op _ _ =>
    rw [Call.empties, op] at empties
    cases empties
  | join _ => exact .inl rfl

theorem next_selected (selected : Selected s) (kept : ¬Forgets s call) : Selected (next s call) := by
  refine ((next_edits s call).preserves (I := fun s => Selected s ∧ ¬Forgets s call) ?_ ⟨selected, kept⟩).1
  rintro s s' edit ⟨selected, kept⟩
  refine ⟨selected.edit edit kept, fun forgets => kept ?_⟩
  obtain ⟨pane, workspaceId, here, empties⟩ := forgets
  obtain same | none_ := selection_edit edit (by rw [empties]; rfl)
  · rw [same] at pane here
    exact ⟨pane, workspaceId, here, empties⟩
  · rw [none_] at pane
    cases pane

theorem selected_new : Selected .new where
  complete := by simp [DaemonState.new]
  session _ here := by cases here
  pane _ here := by cases here

/-- What the desktop has selected is there in every run, unless a call empties the workspace of the selected
pane. -/
theorem run_selected (calls : List Call)
    (kept : Throughout next (fun s call => ¬Forgets s call) .new calls) : Selected (run calls) :=
  run_invariant (I := Selected) (fun _ _ selected kept => next_selected selected kept) selected_new kept

def selectedRun : List Call :=
  claimedRun ++ [.plain 1 "" (.setDesktopSelection ⟨some "session", some "pane"⟩)]

theorem selected_selectedRun : Selected (run selectedRun) := run_selected selectedRun (by decide +kernel)

theorem emptied_selectedRun :
    (run (selectedRun ++ [.plain 2 "" (.closeSessionPanes "session")])).desktopSelection =
        ⟨some "session", some "pane"⟩ ∧
      ((run (selectedRun ++ [.plain 2 "" (.closeSessionPanes "session")])).pane "session" "pane").isNone := by
  decide +kernel

end VibeLink.Daemon
