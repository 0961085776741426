import VibeLink.Daemon.Placement

/-! The daemon among its threads: a reader for each process, and what the threads have still to send when
they have given up the lock (`daemon/panes.rs`, `daemon/connection.rs`). -/

namespace VibeLink.Daemon

open VibeLink.Relational Tx

section Steps

variable {m : Traffic} {s s' : DaemonState} {env : Env} {sessionId paneId : Uuid} {generation thread : Nat}

/-- What the insertion of a pane comes to, with the client that asked for it attached. -/
structure Spawned (s : DaemonState) (sessionId : Uuid) (pane : Pane) (s' : DaemonState) : Prop where
  session : (s.sessions.find sessionId).isSome
  pane : ∀ i j, s'.pane i j = if i = sessionId ∧ j = pane.id then
    some (pane.assignOutputGeneration s.nextPaneGeneration) else s.pane i j
  generation : s'.nextPaneGeneration = s.nextPaneGeneration + 1
  clients : s'.clients = s.clients
  watches : ∀ c p, s.Watches c p → s'.Watches c p
  numbered : (board s).Numbered → (board s').Numbered

theorem Inserted.spawned {pane : Pane} (inserted : Inserted s sessionId pane s')
    (numbered : (board s).Numbered → (board s').Numbered) : Spawned s sessionId pane s' := by
  refine ⟨inserted.session, inserted.pane, inserted.generation, inserted.clients, fun c p watches => ?_, numbered⟩
  rwa [DaemonState.Watches, inserted.watch]

theorem Spawned.attach {pane : Pane} (spawned : Spawned s sessionId pane s') (clientId : Uuid) :
    Spawned s sessionId pane (next s' ⟨env, .attachClientToPane clientId pane.id⟩) := by
  refine ⟨spawned.session, spawned.pane, spawned.generation, spawned.clients, fun c p watches => ?_,
    fun numbered => next_numbered (spawned.numbered numbered)⟩
  have watches := spawned.watches c p watches
  show (((Function.update s'.paneClients pane.id _) p).find c).isSome
  rw [Function.update_apply]
  split
  · rename_i same
    rw [Table.find_put, Function.update_apply]
    split
    · rfl
    · rwa [← same]
  · exact watches

theorem snd_bind_pure {α β : Type} {x : DaemonResult α} {f : α → β} :
    ((x >>= fun a => pure (f a)) s).2 = (x s).2 := by
  simp only [Bind.bind]
  cases x s with
  | mk result s' => cases result <;> rfl

end Steps

end VibeLink.Daemon
