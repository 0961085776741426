import VibeLink.Daemon.State

/-! Workspaces, their panes, and the clients that watch them (`daemon/session.rs`). -/

namespace VibeLink.Daemon

open VibeLink.Relational Tx

variable (env : Env)

def addClient (clientId : Uuid) (tx : Sender) : DaemonResult Unit :=
  .write fun s => { s with clients := s.clients.put (clientId, tx) }

def removeClient (clientId : Uuid) : DaemonResult Unit :=
  .write fun s => { s with
    clients := s.clients.erase clientId
    paneClients := fun paneId => (s.paneClients paneId).erase clientId
    sessionClients := fun sessionId => (s.sessionClients sessionId).erase clientId }

def createSession (name : String) (workspaceFolder : Option String) : DaemonResult SessionMeta := do
  let info : SessionMeta := ⟨env.drawn, name, 0, (env.now / 1000 : Nat), workspaceFolder⟩
  .write fun s => { s with sessions := s.sessions.put ⟨info, none, .empty, false, false⟩ }
  pure info

def insertSession (info : SessionMeta) (layoutJson : Option String) (sleeping cleanExit : Bool) :
    DaemonResult Unit :=
  .write fun s => { s with sessions := s.sessions.put ⟨info, layoutJson, .empty, sleeping, cleanExit⟩ }

def markCleanExit : DaemonResult Unit :=
  .write fun s => { s with
    sessions := s.sessions.update (fun _ => true) fun session => { session with cleanExit := true } }

def clearCleanExit (sessionId : Uuid) : DaemonResult Unit :=
  .write fun s => s.editSession sessionId fun session => { session with cleanExit := false }

namespace DaemonState

def checkSelection (s : DaemonState) (selection : DesktopSelection) : Except String Unit :=
  match selection.workspaceId with
  | none => .ok ()
  | some workspaceId => do
    let _ ← s.session workspaceId
    match selection.paneId with
    | none => pure ()
    | some paneId => do
      let _ ← s.paneInSession env workspaceId paneId
      pure ()

end DaemonState

def setDesktopSelection (selection : DesktopSelection) : DaemonResult (List Uuid) := do
  .require (¬(selection.paneId.isSome ∧ selection.workspaceId = none))
    "desktop pane selection requires a workspace"
  let _ ← .reads fun s => s.checkSelection env selection
  let current ← .gets DaemonState.desktopSelection
  if selection = current then pure []
  else do
    .write fun s => { s with desktopSelection := selection }
    pure (current.workspaceId.toList ++
      selection.workspaceId.toList.filter fun workspaceId => current.workspaceId ≠ some workspaceId)

def renameSession (sessionId : Uuid) (name : String) : DaemonResult Unit := do
  let _ ← .reads fun s => s.session sessionId
  .write fun s => s.editSession sessionId fun session => { session with info := { session.info with name } }

def setSessionWorkspaceFolder (sessionId : Uuid) (workspaceFolder : String) : DaemonResult Unit := do
  let _ ← .reads fun s => s.session sessionId
  .write fun s => s.editSession sessionId fun session =>
    { session with info := { session.info with workspaceFolder := some workspaceFolder } }

/-- The panes are the caller's to kill, here and where else they are returned. -/
def deleteSession (sessionId : Uuid) : DaemonResult (List Pane) := do
  let session ← .reads fun s => s.session sessionId
  let paneIds := session.panes.rows.map Pane.id
  .write fun s => paneIds.foldl DaemonState.forgetPaneClients { s with
    sessions := s.sessions.erase sessionId
    sessionClients := Function.update s.sessionClients sessionId .empty
    desktopSelection :=
      if s.desktopSelection.workspaceId = some sessionId then ⟨none, none⟩ else s.desktopSelection }
  pure session.panes.rows

def sleepSession (sessionId : Uuid) : DaemonResult (List Pane) := do
  let session ← .reads fun s => s.session sessionId
  let paneIds := session.panes.rows.map Pane.id
  .write fun s => paneIds.foldl DaemonState.forgetPaneClients <| s.editSession sessionId fun session =>
    { session with sleeping := true, panes := .empty }
  pure session.panes.rows

def wakeSession (sessionId : Uuid) : DaemonResult Unit := do
  let _ ← .reads fun s => s.session sessionId
  .write fun s => s.editSession sessionId fun session => { session with sleeping := false }

def detachSession (clientId sessionId : Uuid) : DaemonResult Unit :=
  .write fun s => match s.sessions.find sessionId with
    | none => { s with sessionClients := Function.update s.sessionClients sessionId .empty }
    | some session => { s with
        paneClients := fun paneId =>
          if (session.panes.find paneId).isSome then (s.paneClients paneId).erase clientId
          else s.paneClients paneId
        sessionClients :=
          Function.update s.sessionClients sessionId ((s.sessionClients sessionId).erase clientId) }

def saveLayout (sessionId : Uuid) (layoutJson : String) : DaemonResult Unit := do
  let _ ← .reads fun s => s.session sessionId
  .write fun s => s.editSession sessionId fun session => { session with layoutJson := some layoutJson }

def takePaneGeneration : DaemonResult Nat := do
  let generation ← .gets DaemonState.nextPaneGeneration
  .write fun s => { s with nextPaneGeneration := s.nextPaneGeneration + 1 }
  pure generation

/-- A pane that is refused is handed back to the caller, who kills it. -/
def insertPaneOrRecover (sessionId : Uuid) (pane : Pane) : DaemonResult PaneMeta := do
  let _ ← .reads fun s => s.session sessionId
  let generation ← takePaneGeneration
  let pane := pane.assignOutputGeneration generation
  .write fun s => (s.putPane sessionId pane).countPanes sessionId
  pure pane.toMeta

namespace DaemonState

def checkNotElsewhere (s : DaemonState) (sessionId paneId : Uuid) : Except String Unit :=
  match s.findPane env paneId with
  | some (ownerSessionId, _) => .error s!"pane {paneId} belongs to session {ownerSessionId}, not {sessionId}"
  | none => .ok ()

/-- The pane goes, and with it those who watch it and its selection. -/
def removePane (s : DaemonState) (sessionId paneId : Uuid) : DaemonState :=
  if (s.sessions.find sessionId).isNone then s
  else { (((s.dropPane sessionId paneId).countPanes sessionId).forgetPaneClients paneId) with
    desktopSelection :=
      if s.desktopSelection.workspaceId = some sessionId ∧ s.desktopSelection.paneId = some paneId then
        { s.desktopSelection with paneId := none }
      else s.desktopSelection }

def pruneSpawnCancellations (s : DaemonState) : DaemonState :=
  { s with spawnCancellations := s.spawnCancellations.retain fun row => decide (env.instant < row.2) }

/-- `SPAWN_CANCELLATION_TTL`, in milliseconds -/
def spawnCancellationTtl : Nat := 60000

/-- `MAX_SPAWN_CANCELLATIONS` -/
def maxSpawnCancellations : Nat := 4096

/-- `min_by_key`: of several that expire first, the first to come. -/
def oldestCancellation (s : DaemonState) : Option (Uuid × Uuid) :=
  ((env.order s.spawnCancellations.rows).foldl (fun oldest row =>
    match oldest with
    | none => some row
    | some best => if row.2 < best.2 then some row else some best) none).map Prod.fst

def recordCancellation (s : DaemonState) (sessionId paneId : Uuid) : DaemonState :=
  let cancellations :=
    if maxSpawnCancellations ≤ s.spawnCancellations.rows.length then
      match s.oldestCancellation env with
      | some oldest => s.spawnCancellations.erase oldest
      | none => s.spawnCancellations
    else s.spawnCancellations
  { s with
    spawnCancellations := cancellations.put ((sessionId, paneId), env.instant + spawnCancellationTtl) }

end DaemonState

def closePane (sessionId paneId : Uuid) : DaemonResult (Option Pane) := do
  let _ ← .reads fun s => s.session sessionId
  let pane ← .gets fun s => s.pane sessionId paneId
  if pane = none then do
    .reads fun s => s.checkNotElsewhere env sessionId paneId
    .write fun s => s.forgetPaneClients paneId
    pure none
  else do
    .write fun s => s.removePane sessionId paneId
    pure pane

def closePaneAny (paneId : Uuid) : DaemonResult (Option Pane) := do
  let owner ← .gets fun s => s.findPane env paneId
  match owner with
  | none => do
    .write fun s => s.forgetPaneClients paneId
    pure none
  | some (sessionId, _) => do
    let pane ← .gets fun s => s.pane sessionId paneId
    .write fun s => s.removePane sessionId paneId
    pure pane

def closeSessionPanes (sessionId : Uuid) : DaemonResult (List Pane) := do
  let session ← .reads fun s => s.session sessionId
  let paneIds := session.panes.rows.map Pane.id
  .write fun s => paneIds.foldl DaemonState.forgetPaneClients s
  .write fun s => (paneIds.foldl (fun s paneId => s.dropPane sessionId paneId) s).countPanes sessionId
  pure session.panes.rows

def cancelPaneSpawn (sessionId paneId : Uuid) : DaemonResult (Option Pane) := do
  let _ ← .reads fun s => s.session sessionId
  .write fun s => (s.pruneSpawnCancellations env).recordCancellation env sessionId paneId
  closePane env sessionId paneId

def paneSpawnCancelled (sessionId paneId : Uuid) : DaemonResult Bool := do
  .write fun s => s.pruneSpawnCancellations env
  .gets fun s => (s.spawnCancellations.find (sessionId, paneId)).isSome

def terminatePane (sessionId paneId : Uuid) : DaemonResult Bool := do
  let session ← .reads fun s => s.session sessionId
  match session.panes.find paneId with
  | none => pure false
  | some pane => do
    .write fun s => s.putPane sessionId pane.kill
    pure true

def setPaneTitle (sessionId paneId : Uuid) (title : String) : DaemonResult Unit := do
  let pane ← .reads fun s => s.paneInSessionMut env sessionId paneId
  .write fun s => s.putPane sessionId (pane.setTitle title)

def setPaneRole (sessionId paneId : Uuid) (role : Option String) : DaemonResult Unit := do
  let pane ← .reads fun s => s.paneInSessionMut env sessionId paneId
  .write fun s => s.putPane sessionId (pane.setRole role)

def rebasePaneScrollback (sessionId paneId : Uuid) (snapshot : Bytes) : DaemonResult Unit := do
  let pane ← .reads fun s => s.paneInSession env sessionId paneId
  .write fun s => s.putPane sessionId (pane.rebaseScrollback snapshot)

def attachClientToPane (clientId paneId : Uuid) : DaemonResult Unit :=
  .write fun s => { s with
    paneClients := Function.update s.paneClients paneId ((s.paneClients paneId).put clientId) }

def attachClientToSession (clientId sessionId : Uuid) : DaemonResult Unit :=
  .write fun s => { s with
    sessionClients := Function.update s.sessionClients sessionId ((s.sessionClients sessionId).put clientId) }

def subscribePane (clientId sessionId paneId : Uuid) : DaemonResult TerminalSnapshot := do
  let pane ← .reads fun s => s.paneInSession env sessionId paneId
  attachClientToPane clientId paneId
  pure {
    sessionId, paneId
    paneGeneration := pane.outputGeneration
    outputSequence := pane.outputSequence
    cols := pane.config.cols
    rows := pane.config.rows
    alive := pane.alive
    data := stripTerminalQueries pane.scrollbackSnapshot }

def detachPane (clientId sessionId paneId : Uuid) : DaemonResult Unit := do
  let _ ← .reads fun s => s.paneInSession env sessionId paneId
  .write fun s => { s with
    paneClients := Function.update s.paneClients paneId ((s.paneClients paneId).erase clientId) }

/-- Returns what is sent to the client before the state is unlocked. -/
def attachPane (clientId sessionId paneId : Uuid) : DaemonResult (List (Sender × DaemonToClient)) := do
  let pane ← .reads fun s => s.paneInSession env sessionId paneId
  let alreadyAttached ← .gets fun s => ((s.paneClients paneId).find clientId).isSome
  let tx ← .gets fun s => (s.clients.find clientId).map Prod.snd
  let snapshot := pane.scrollbackSnapshot
  let data := stripTerminalQueries snapshot
  let replay :=
    if snapshot ≠ [] ∧ ¬alreadyAttached ∧ data ≠ [] then
      [DaemonToClient.output paneId pane.outputGeneration pane.outputSequence data]
    else []
  let exit := if pane.alive then [] else [DaemonToClient.paneExited paneId none]
  attachClientToPane clientId paneId
  pure (tx.toList.flatMap fun tx => (replay ++ exit).map fun message => (tx, message))

end VibeLink.Daemon
