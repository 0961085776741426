import VibeLink.Daemon.Selection

/-! Where panes are: a pane id is of one workspace, unless a pane is inserted under an id that is taken. -/

namespace VibeLink.Daemon

open VibeLink.Relational Tx

variable {call : Call} {s s' : DaemonState} {env : Env} {sessionId paneId i j : Uuid}

def Single (s : DaemonState) : Prop :=
  ∀ p i j, (s.pane i p).isSome → (s.pane j p).isSome → i = j

/-- A pane goes into the workspace under an id that a pane of another has. -/
def Duplicates (s : DaemonState) (sessionId : Uuid) (pane : Pane) : Prop :=
  (s.sessions.find sessionId).isSome ∧
    ∃ session ∈ s.sessions.rows, session.id ≠ sessionId ∧ (s.pane session.id pane.id).isSome

def Ousts (s : DaemonState) (sessionId : Uuid) (pane : Pane) : Prop :=
  ∃ old ∈ s.pane sessionId pane.id, old.alive

def Collides (s : DaemonState) (call : Call) : Prop :=
  match call.op with
  | .insertPane sessionId pane => Duplicates s sessionId pane ∨ Ousts s sessionId pane
  | _ => False

instance (s : DaemonState) (sessionId : Uuid) (pane : Pane) : Decidable (Duplicates s sessionId pane) :=
  inferInstanceAs (Decidable (_ ∧ ∃ session ∈ s.sessions.rows, _))

instance (s : DaemonState) (sessionId : Uuid) (pane : Pane) : Decidable (Ousts s sessionId pane) :=
  inferInstanceAs (Decidable (∃ old ∈ s.pane sessionId pane.id, _))

instance (s : DaemonState) (call : Call) : Decidable (Collides s call) := by
  rw [Collides]
  split <;> infer_instance

def Op.inserted : Op → Option (Uuid × Pane)
  | .insertPane sessionId pane => some (sessionId, pane)
  | _ => none

theorem Edit.pane_isSome (edit : Edit call s s') (other : call.op.inserted = none)
    (there : (s'.pane i j).isSome) : (s.pane i j).isSome := by
  cases edit with
  | aside aside => rwa [← aside.pane]
  | forget _ => exact there
  | repane pane here _ =>
    rw [DaemonState.pane_putPane] at there
    split at there
    · rename_i same
      rw [same.1, same.2, here]
      rfl
    · exact there
  | @record _ read _ _ _ _ now op here =>
    rw [DaemonState.pane_putPane] at there
    split at there
    · rename_i same
      rw [same.1, same.2, show (read.recordOutput _ now).2.id = read.id from rfl, here]
      rfl
    · exact there
  | spawn op _ =>
    rw [op] at other
    cases other
  | remove _ =>
    rw [pane_removePane] at there
    split at there
    · cases there
    · exact there
  | empty _ panes _ _ _ _ =>
    rw [panes] at there
    split at there
    · cases there
    · exact there
  | delete found =>
    rw [DaemonState.pane, Table.find_erase, Function.update_apply] at there
    split at there
    · cases there
    · exact there
  | select _ _ _ => exact there
  | join _ => exact there

theorem next_pane_isSome (other : call.op.inserted = none) (there : ((next s call).pane i j).isSome) :
    (s.pane i j).isSome :=
  (next_edits s call).preserves (I := fun s' => (s'.pane i j).isSome → (s.pane i j).isSome)
    (fun _ _ edit ih there => ih (edit.pane_isSome other there)) id there

/-- What an insertion comes to. -/
structure Inserted (s : DaemonState) (sessionId : Uuid) (pane : Pane) (s' : DaemonState) : Prop where
  session : (s.sessions.find sessionId).isSome
  pane : ∀ i j, s'.pane i j = if i = sessionId ∧ j = pane.id then
    some (pane.assignOutputGeneration s.nextPaneGeneration) else s.pane i j
  generation : s'.nextPaneGeneration = s.nextPaneGeneration + 1
  clients : s'.clients = s.clients
  watch : s'.paneClients = s.paneClients

theorem insertPaneOrRecover_inserted {pane : Pane} : (insertPaneOrRecover sessionId pane).wp
    (fun _ => Inserted s sessionId pane) (fun _ s' => s' = s) s := by
  simp only [insertPaneOrRecover, takePaneGeneration, wp_bind, wp_reads, wp_gets, wp_write, wp_pure,
    DaemonState.session_eq_ok]
  refine ⟨fun session found => ⟨by rw [found]; rfl, fun i j => ?_, rfl, rfl, rfl⟩, fun _ _ => trivial⟩
  rw [DaemonState.pane_countPanes, DaemonState.pane_putPane]
  split
  · rename_i here
    rw [here.1, found]
    exact (if_pos ⟨rfl, here.2⟩).symm
  · rename_i elsewhere
    exact (if_neg elsewhere).symm

theorem next_inserted {pane : Pane} (op : call.op = .insertPane sessionId pane) :
    next s call = s ∨ Inserted s sessionId pane (next s call) := by
  obtain ⟨env, _⟩ := call
  cases op
  have spec : (perform ⟨env, .insertPane sessionId pane⟩).wp (fun _ s' => s' = s ∨ Inserted s sessionId pane s')
      (fun _ s' => s' = s ∨ Inserted s sessionId pane s') s := by
    simp only [perform, quietly, wp_bind, wp_pure]
    exact wp_mono insertPaneOrRecover_inserted (fun _ _ => .inr) fun _ _ => .inl
  exact wp_snd.1 spec

theorem duplicates_of_pane {pane : Pane} (session : (s.sessions.find sessionId).isSome) (other : i ≠ sessionId)
    (there : (s.pane i pane.id).isSome) : Duplicates s sessionId pane := by
  obtain ⟨found, here⟩ := Option.isSome_iff_exists.1 there
  obtain ⟨row, member⟩ := Option.isSome_iff_exists.1 (DaemonState.find_isSome_of_pane here)
  have same : row.id = i := Table.key_of_find member
  exact ⟨session, row, Table.mem_of_find member, by rwa [same], by rwa [same]⟩

theorem Single.insert {pane new : Pane} (single : Single s) (apart : ¬Duplicates s sessionId pane)
    (session : (s.sessions.find sessionId).isSome)
    (panes : ∀ i j, s'.pane i j = if i = sessionId ∧ j = pane.id then some new else s.pane i j) : Single s' := by
  have alone (i : Uuid) (there : (s'.pane i pane.id).isSome) : i = sessionId := by
    by_contra other
    rw [panes, if_neg fun here => other here.1] at there
    exact apart (duplicates_of_pane session other there)
  intro p i j hi hj
  by_cases hp : p = pane.id
  · rw [hp] at hi hj
    rw [alone i hi, alone j hj]
  · rw [panes, if_neg fun here => hp here.2] at hi hj
    exact single p i j hi hj

theorem next_single (single : Single s) (apart : ¬Collides s call) : Single (next s call) := by
  cases op : call.op with
  | insertPane sessionId pane =>
    rw [Collides, op, not_or] at apart
    obtain same | inserted := next_inserted (s := s) op
    · rwa [same]
    · exact single.insert apart.1 inserted.session inserted.pane
  | _ =>
    intro p i j hi hj
    exact single p i j (next_pane_isSome (by rw [op]; rfl) hi) (next_pane_isSome (by rw [op]; rfl) hj)

theorem Single.findPane (single : Single s) (there : (s.pane i paneId).isSome) :
    s.findPane env paneId = some (i, paneId) := by
  obtain ⟨pane, here⟩ := Option.isSome_iff_exists.1 there
  obtain ⟨found, h⟩ := Option.isSome_iff_exists.1 (@DaemonState.findPane_isSome s env i paneId pane here)
  obtain ⟨pane', here', same⟩ := DaemonState.findPane_eq_some h
  have place : i = found.1 := single paneId i found.1 there (by rw [here']; rfl)
  rw [h, place, ← same]

theorem next_keeps_live {pane old : Pane} (op : call.op = .insertPane sessionId pane) (apart : ¬Collides s call)
    (here : s.pane i j = some old) (alive : old.alive) : (next s call).pane i j = some old := by
  rw [Collides, op, not_or] at apart
  obtain same | inserted := next_inserted (s := s) op
  · rwa [same]
  · rw [inserted.pane, if_neg, here]
    rintro ⟨rfl, rfl⟩
    exact apart.2 ⟨old, here, alive⟩

theorem run_single {calls : List Call} (apart : Throughout next (fun s call => ¬Collides s call) .new calls) :
    Single (run calls) :=
  run_invariant (I := Single) (fun _ _ => next_single) (by intro p i j h; cases h) apart

/-- A run whose insertions take ids that are free keeps every pane id in one workspace, where it is found by
its id alone, and no insertion ousts a pane that lives. -/
theorem panes_stay_single (calls : List Call)
    (apart : Throughout next (fun s call => ¬Collides s call) .new calls) :
    Single (run calls) ∧
      (∀ env i p, ((run calls).pane i p).isSome → (run calls).findPane env p = some (i, p)) ∧
      ∀ past call sessionId pane, past ++ [call] <+: calls → call.op = .insertPane sessionId pane →
        ∀ i j old, (run past).pane i j = some old → old.alive → (run (past ++ [call])).pane i j = some old := by
  have single := run_single apart
  refine ⟨single, fun env i p there => single.findPane there, ?_⟩
  rintro past call sessionId pane ⟨future, rfl⟩ op i j old here alive
  rw [List.append_assoc, throughout_append] at apart
  rw [run_snoc]
  exact next_keeps_live op apart.2.1 here alive

def pairedRun : List Call :=
  claimedRun ++
    [.plain 1 "other" (.createSession "play" none),
      .plain 1 "" (.insertPane "other" (.spawn
        ⟨"second", none, [], none, [], none, none, none, none, false, 80, 24⟩ none))]

theorem single_pairedRun : Single (run pairedRun) ∧
    (∀ env i p, ((run pairedRun).pane i p).isSome → (run pairedRun).findPane env p = some (i, p)) ∧
    ∀ past call sessionId pane, past ++ [call] <+: pairedRun → call.op = .insertPane sessionId pane →
      ∀ i j old, (run past).pane i j = some old → old.alive → (run (past ++ [call])).pane i j = some old :=
  panes_stay_single pairedRun (by decide +kernel)

/-- The second workspace spawns a pane under the id that a pane of the first has. -/
def twinRun : List Call :=
  claimedRun ++
    [.plain 1 "other" (.createSession "play" none),
      .plain 1 "" (.insertPane "other" (.spawn
        ⟨"pane", none, [], none, [], none, none, none, none, false, 80, 24⟩ none))]

def oustedRun : List Call :=
  claimedRun ++
    [.plain 1 "" (.insertPane "session" (.spawn
      ⟨"pane", none, [], none, [], none, none, none, none, false, 80, 24⟩ none))]

theorem twinRun_doubles :
    (((run twinRun).pane "session" "pane").isSome ∧ ((run twinRun).pane "other" "pane").isSome ∧
      (run twinRun).findPane (.plain 1 "") "pane" = some ("session", "pane")) ∧
    (∃ old ∈ (run claimedRun).pane "session" "pane", old.alive) ∧
      (run oustedRun).pane "session" "pane" ≠ (run claimedRun).pane "session" "pane" := by
  decide +kernel

end VibeLink.Daemon
