import VibeLink.Relational.Runs
import VibeLink.Daemon.Leases

/-! The reader threads' calls, and the daemon as a state machine whose calls each hold its lock
(`daemon/session.rs`, `daemon/panes.rs`). -/

namespace VibeLink.Daemon

open VibeLink.Relational Tx

structure PaneExitEffect where
  senders : List Sender
  lease : Option PaneLeaseTransition
  deriving DecidableEq

structure PaneOutputEffect where
  paneGeneration : Nat
  outputSequence : Nat
  senders : List Sender
  snapshot : Option Bytes
  deriving DecidableEq

section Readers

variable (env : Env)

/-- Nothing is recorded for a reader whose pane has been closed or replaced. -/
def recordOutputAndPushForGeneration (paneId : Uuid) (generation : Nat) (bytes : Bytes)
    (captureSnapshot : Bool) : DaemonResult (Option PaneOutputEffect) := do
  let current ← .gets fun s => s.paneOutputGeneration env paneId
  if current ≠ some generation then pure none
  else do
    let found ← .gets fun s => (s.paneAnyMut env paneId).toOption
    match found with
    | none => pure none
    | some (sessionId, pane) => do
      let (record, pane) := pane.recordOutput bytes env.now
      .write fun s => s.putPane sessionId pane
      let senders ← .gets fun s => s.sendersForPane env paneId
      pure (some {
        paneGeneration := generation
        outputSequence := record.sequence
        senders
        snapshot := if captureSnapshot ∨ record.reset then some pane.scrollbackSnapshot else none })

def markExited (paneId : Uuid) : DaemonResult PaneExitEffect := do
  let owner ← .gets fun s => s.findPane env paneId
  let senders ← .gets fun s => match owner with
    | some (sessionId, _) => s.sendersForPaneOrSession env sessionId paneId
    | none => s.sendersForPane env paneId
  let lease ← cleanupRemotePaneLeaseOnExit env paneId
  .write fun s => match owner with
    | some (sessionId, _) => s.removePane sessionId paneId
    | none => s.forgetPaneClients paneId
  pure ⟨senders, lease⟩

def markExitedForGeneration (paneId : Uuid) (generation : Nat) :
    DaemonResult (Option PaneExitEffect) := do
  let current ← .gets fun s => s.paneOutputGeneration env paneId
  if current ≠ some generation then pure none
  else some <$> markExited env paneId

end Readers

/-- The methods of `DaemonState` that its callers use; a pane writer is asked for by `writePane`. -/
inductive Op
  | addClient (clientId : Uuid) (tx : Sender)
  | removeClient (clientId : Uuid)
  | createSession (name : String) (workspaceFolder : Option String)
  | insertSession (info : SessionMeta) (layoutJson : Option String) (sleeping cleanExit : Bool)
  | markCleanExit
  | clearCleanExit (sessionId : Uuid)
  | setDesktopSelection (selection : DesktopSelection)
  | renameSession (sessionId : Uuid) (name : String)
  | setSessionWorkspaceFolder (sessionId : Uuid) (workspaceFolder : String)
  | deleteSession (sessionId : Uuid)
  | sleepSession (sessionId : Uuid)
  | wakeSession (sessionId : Uuid)
  | detachSession (clientId sessionId : Uuid)
  | saveLayout (sessionId : Uuid) (layoutJson : String)
  | insertPane (sessionId : Uuid) (pane : Pane)
  | cancelPaneSpawn (sessionId paneId : Uuid)
  | paneSpawnCancelled (sessionId paneId : Uuid)
  | terminatePane (sessionId paneId : Uuid)
  | closePane (sessionId paneId : Uuid)
  | closePaneAny (paneId : Uuid)
  | closeSessionPanes (sessionId : Uuid)
  | setPaneTitle (sessionId paneId : Uuid) (title : String)
  | setPaneRole (sessionId paneId : Uuid) (role : Option String)
  | rebasePaneScrollback (sessionId paneId : Uuid) (snapshot : Bytes)
  | subscribePane (clientId sessionId paneId : Uuid)
  | detachPane (clientId sessionId paneId : Uuid)
  | attachPane (clientId sessionId paneId : Uuid)
  | attachClientToPane (clientId paneId : Uuid)
  | attachClientToSession (clientId sessionId : Uuid)
  | recordOutput (paneId : Uuid) (generation : Nat) (bytes : Bytes) (captureSnapshot : Bool)
  | markExited (paneId : Uuid) (generation : Nat)
  | writePane (sessionId paneId : Uuid) (origin : PaneCommandOrigin)
  | resizePane (sessionId paneId : Uuid) (cols rows : UInt16) (origin : PaneCommandOrigin)
  | claimOrUpdateLease (request : RemotePaneLeaseClaimRequest)
  | renewLease (request : RemotePaneLeaseRenewRequest)
  | releaseLease (request : RemotePaneLeaseReleaseRequest)
  | leaseStatus (request : RemotePaneLeaseStatusRequest)
  | adminReclaimLease (request : RemotePaneLeaseAdminReclaimRequest)
  | expireLeases
  | cleanupConnectionLeases (request : RemoteConnectionCleanupRequest)
  | cleanupLeaseOnExit (paneId : Uuid)
  | cleanupLeasesOnExit (paneIds : List Uuid)

def Op.renewal : Op → Option RemotePaneLeaseRenewRequest
  | .renewLease request => some request
  | _ => none

structure Call where
  env : Env
  op : Op

/-- Terminals that take every size, and maps that keep their order. -/
def Env.plain (now : Nat) (drawn : Uuid) : Env where
  now
  later := now
  instant := now
  drawn
  order xs := xs
  resizes := .ok ()
  restores _ := .ok ()
  now_le := le_refl now
  perm _ := .refl _

def Call.plain (now : Nat) (drawn : Uuid) (op : Op) : Call := ⟨.plain now drawn, op⟩

def PaneLeaseTransition.events (transition : PaneLeaseTransition) : List RemotePaneLeaseEvent :=
  transition.effects.filterMap PaneLeaseEffect.event

/-- What a call hands to its caller to send: messages to subscribers, and lease transitions. -/
structure Answer where
  sent : List (Sender × DaemonToClient)
  transitions : List PaneLeaseTransition

namespace Answer

def nothing : Answer := ⟨[], []⟩

def of (transitions : List PaneLeaseTransition) : Answer := ⟨[], transitions⟩

/-- The lease events that the caller broadcasts, in order. -/
def events (answer : Answer) : List RemotePaneLeaseEvent :=
  answer.transitions.flatMap PaneLeaseTransition.events

end Answer

def quietly {α : Type} (x : DaemonResult α) : DaemonResult Answer := do
  let _ ← x
  pure .nothing

def perform (call : Call) : DaemonResult Answer :=
  let env := call.env
  match call.op with
  | .addClient clientId tx => quietly (addClient clientId tx)
  | .removeClient clientId => quietly (removeClient clientId)
  | .createSession name workspaceFolder => quietly (createSession env name workspaceFolder)
  | .insertSession info layoutJson sleeping cleanExit =>
    quietly (insertSession info layoutJson sleeping cleanExit)
  | .markCleanExit => quietly markCleanExit
  | .clearCleanExit sessionId => quietly (clearCleanExit sessionId)
  | .setDesktopSelection selection => quietly (setDesktopSelection env selection)
  | .renameSession sessionId name => quietly (renameSession sessionId name)
  | .setSessionWorkspaceFolder sessionId folder => quietly (setSessionWorkspaceFolder sessionId folder)
  | .deleteSession sessionId => quietly (deleteSession sessionId)
  | .sleepSession sessionId => quietly (sleepSession sessionId)
  | .wakeSession sessionId => quietly (wakeSession sessionId)
  | .detachSession clientId sessionId => quietly (detachSession clientId sessionId)
  | .saveLayout sessionId layoutJson => quietly (saveLayout sessionId layoutJson)
  | .insertPane sessionId pane => quietly (insertPaneOrRecover sessionId pane)
  | .cancelPaneSpawn sessionId paneId => quietly (cancelPaneSpawn env sessionId paneId)
  | .paneSpawnCancelled sessionId paneId => quietly (paneSpawnCancelled env sessionId paneId)
  | .terminatePane sessionId paneId => quietly (terminatePane sessionId paneId)
  | .closePane sessionId paneId => quietly (closePane env sessionId paneId)
  | .closePaneAny paneId => quietly (closePaneAny env paneId)
  | .closeSessionPanes sessionId => quietly (closeSessionPanes sessionId)
  | .setPaneTitle sessionId paneId title => quietly (setPaneTitle env sessionId paneId title)
  | .setPaneRole sessionId paneId role => quietly (setPaneRole env sessionId paneId role)
  | .rebasePaneScrollback sessionId paneId snapshot =>
    quietly (rebasePaneScrollback env sessionId paneId snapshot)
  | .subscribePane clientId sessionId paneId => quietly (subscribePane env clientId sessionId paneId)
  | .detachPane clientId sessionId paneId => quietly (detachPane env clientId sessionId paneId)
  | .attachPane clientId sessionId paneId => do
    let sent ← attachPane env clientId sessionId paneId
    pure ⟨sent, []⟩
  | .attachClientToPane clientId paneId => quietly (attachClientToPane clientId paneId)
  | .attachClientToSession clientId sessionId => quietly (attachClientToSession clientId sessionId)
  | .recordOutput paneId generation bytes captureSnapshot => do
    let effect ← recordOutputAndPushForGeneration env paneId generation bytes captureSnapshot
    pure ⟨effect.toList.flatMap fun effect => effect.senders.map fun sender =>
      (sender, .output paneId effect.paneGeneration effect.outputSequence bytes), []⟩
  | .markExited paneId generation => do
    let effect ← markExitedForGeneration env paneId generation
    pure (.of (effect.bind PaneExitEffect.lease).toList)
  | .writePane sessionId paneId origin => do
    .reads fun s => s.paneWriterAuthorized env sessionId paneId origin
    pure .nothing
  | .resizePane sessionId paneId cols rows origin =>
    quietly (resizePaneAuthorized env sessionId paneId cols rows origin)
  | .claimOrUpdateLease request => do
    let transition ← claimOrUpdateRemotePaneLease env request
    pure (.of [transition])
  | .renewLease request => do
    let transition ← renewRemotePaneLease env request
    pure (.of [transition])
  | .releaseLease request => do
    let transition ← releaseRemotePaneLease env request
    pure (.of [transition])
  | .leaseStatus _ => pure .nothing
  | .adminReclaimLease request => do
    let transition ← adminReclaimRemotePaneLease env request
    pure (.of [transition])
  | .expireLeases => do
    let transitions ← expireRemotePaneLeases env
    pure (.of transitions)
  | .cleanupConnectionLeases request => do
    let transitions ← cleanupRemoteConnectionLeases env request
    pure (.of transitions)
  | .cleanupLeaseOnExit paneId => do
    let transition ← cleanupRemotePaneLeaseOnExit env paneId
    pure (.of transition.toList)
  | .cleanupLeasesOnExit paneIds => do
    let transitions ← cleanupRemotePaneLeasesOnExit env paneIds
    pure (.of transitions)

def next (s : DaemonState) (call : Call) : DaemonState := (perform call s).2

def reply (s : DaemonState) (call : Call) : List RemotePaneLeaseEvent :=
  match (perform call s).1 with
  | .ok answer => answer.events
  | .error _ => []

def broadcastPaneLeaseEvent (s : DaemonState) (env : Env) (event : RemotePaneLeaseEvent) :
    List (Sender × DaemonToClient) :=
  (s.allSenders env).map fun sender => (sender, .remotePaneLease event)

def run (calls : List Call) : DaemonState := calls.foldl next .new

@[simp] theorem run_snoc (calls : List Call) (call : Call) :
    run (calls ++ [call]) = next (run calls) call := by simp [run]

theorem run_append (past future : List Call) : run (past ++ future) = future.foldl next (run past) :=
  List.foldl_append

/-- A state, and a time that has been reached. -/
structure Moment where
  state : DaemonState
  clock : Nat

namespace Moment

def start : Moment := ⟨.new, 0⟩

def next (m : Moment) (call : Call) : Moment := ⟨Daemon.next m.state call, call.env.later⟩

def Timely (m : Moment) (call : Call) : Prop := m.clock ≤ call.env.now

instance (m : Moment) (call : Call) : Decidable (m.Timely call) := Nat.decLe _ _

def after (calls : List Call) : Moment := calls.foldl next start

@[simp] theorem after_snoc (calls : List Call) (call : Call) :
    after (calls ++ [call]) = (after calls).next call := by simp [after]

theorem state_foldl (calls : List Call) (m : Moment) :
    (calls.foldl next m).state = calls.foldl Daemon.next m.state := by
  induction calls generalizing m with
  | nil => rfl
  | cons call calls ih => exact ih (m.next call)

theorem state_after (calls : List Call) : (after calls).state = run calls := state_foldl calls start

end Moment

end VibeLink.Daemon
