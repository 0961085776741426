import VibeLink.Daemon.Workspaces

/-! Leases: for a while a pane is its remote owner's to write to and to resize
(`daemon/session.rs`). -/

namespace VibeLink.Daemon

open VibeLink.Relational Tx

structure PaneLeaseResize where
  sessionId : Uuid
  paneId : Uuid
  cols : UInt16
  rows : UInt16
  senders : List Sender
  deriving DecidableEq

structure PaneLeaseEffect where
  event : Option RemotePaneLeaseEvent
  resize : Option PaneLeaseResize
  deriving DecidableEq

structure PaneLeaseTransition where
  result : RemotePaneLeaseResult
  effects : List PaneLeaseEffect
  deriving DecidableEq

def validateRemoteGeometry (cols rows : UInt16) : Except String Unit :=
  if ¬(20 ≤ cols ∧ cols ≤ 360) then .error "remote pane columns must be between 20 and 360"
  else if ¬(5 ≤ rows ∧ rows ≤ 200) then .error "remote pane rows must be between 5 and 200"
  else .ok ()

def busyTransition (lease : RemotePaneLease) : PaneLeaseTransition := ⟨.busy lease, []⟩

def staleTransition (lease : Option RemotePaneLease) (reason : RemotePaneLeaseStaleReason) :
    PaneLeaseTransition := ⟨.stale lease reason, []⟩

def leaseRequestStaleReason (lease : RemotePaneLease) (ownerConnectionId : Uuid) (deviceId : String)
    (sessionId leaseId : Uuid) (revision : Nat) : Option RemotePaneLeaseStaleReason :=
  if lease.ownerConnectionId ≠ ownerConnectionId then some .owner
  else if lease.deviceId ≠ deviceId then some .device
  else if lease.sessionId ≠ sessionId then some .session
  else if lease.leaseId ≠ leaseId then some .leaseId
  else if lease.revision ≠ revision then some .revision
  else none

def leaseEvent (lease : RemotePaneLease) (kind : RemotePaneLeaseEventKind)
    (reason : RemotePaneLeaseEventReason) (restoration : Option RemotePaneLeaseRestoration) :
    RemotePaneLeaseEvent :=
  let leased := kind = .claimed ∨ kind = .updated
  { kind, reason
    sessionId := lease.sessionId
    paneId := lease.paneId
    leased := leased
    cols := if leased then some lease.targetCols else none
    rows := if leased then some lease.targetRows else none
    leaseId := lease.leaseId
    ownerConnectionId := lease.ownerConnectionId
    deviceId := lease.deviceId
    paneGeneration := lease.paneGeneration
    revision := lease.revision
    originalCols := lease.originalCols
    originalRows := lease.originalRows
    targetCols := lease.targetCols
    targetRows := lease.targetRows
    viewportRevision := lease.viewportRevision
    expiresAt := lease.expiresAt
    restoration }

variable (env : Env)

namespace DaemonState

variable (s : DaemonState)

/-- The lease of the pane, unless it has expired at `now`. -/
def activeLease (now : Nat) (paneId : Uuid) : Option RemotePaneLease :=
  (s.paneLeases.find paneId).filter fun lease => decide (now < lease.expiresAt)

def authorizePaneCommand (sessionId paneId : Uuid) (origin : PaneCommandOrigin) : Except String Unit := do
  let pane ← s.paneInSession env sessionId paneId
  match origin, s.activeLease env.now paneId with
  | .desktop, none => .ok ()
  | .desktop, some _ => .error "desktop pane command rejected while remote lease is active"
  | .remote _ _ none none, none => .ok ()
  | .remote _ _ _ _, none => .error "remote pane lease is stale or missing"
  | .remote ownerConnectionId deviceId leaseId revision, some lease =>
    if lease.ownerConnectionId = ownerConnectionId ∧ lease.deviceId = deviceId ∧
        some lease.leaseId = leaseId ∧ some lease.revision = revision ∧ lease.sessionId = sessionId ∧
        lease.paneId = paneId ∧ lease.paneGeneration = pane.outputGeneration then .ok ()
    else .error "remote pane command does not match the active lease"

def paneWriterAuthorized (sessionId paneId : Uuid) (origin : PaneCommandOrigin) : Except String Unit := do
  s.authorizePaneCommand env sessionId paneId origin
  let _ ← s.paneInSession env sessionId paneId
  pure ()

/-- The second reading of the clock decides here whether a lease has a say. -/
def checkRemoteResize (paneId : Uuid) (cols rows : UInt16) : PaneCommandOrigin → Except String Unit
  | .desktop => .ok ()
  | .remote _ _ _ _ => do
    validateRemoteGeometry cols rows
    match s.activeLease env.later paneId with
    | none => pure ()
    | some lease =>
      if (cols, rows) ≠ (lease.targetCols, lease.targetRows) then
        .error "remote pane resize must match the negotiated lease target"
      else .ok ()

end DaemonState

def takePaneLeaseRevision : DaemonResult Nat := do
  let revision ← .gets DaemonState.nextPaneLeaseRevision
  .write fun s => { s with nextPaneLeaseRevision := s.nextPaneLeaseRevision + 1 }
  pure revision

/-- Returns whom to tell; nobody when the size is the one the pane has. -/
def resizePaneUnchecked (sessionId paneId : Uuid) (cols rows : UInt16) (pty : Except String Unit) :
    DaemonResult (List Sender) := do
  let pane ← .reads fun s => s.paneInSessionMut env sessionId paneId
  if pane.config.cols = max cols 1 ∧ pane.config.rows = max rows 1 then pure []
  else do
    let pane ← .ofExcept (pane.resize cols rows pty)
    .write fun s => s.putPane sessionId pane
    .gets fun s => s.sendersForPaneOrSession env sessionId paneId

def resizePaneAuthorized (sessionId paneId : Uuid) (cols rows : UInt16) (origin : PaneCommandOrigin) :
    DaemonResult (List Sender) := do
  .reads fun s => s.authorizePaneCommand env sessionId paneId origin
  .reads fun s => s.checkRemoteResize env paneId cols rows origin
  resizePaneUnchecked env sessionId paneId cols rows env.resizes

def resizeForLease (lease : RemotePaneLease) (cols rows : UInt16) (pty : Except String Unit) :
    DaemonResult (Option PaneLeaseResize) := do
  let senders ← resizePaneUnchecked env lease.sessionId lease.paneId cols rows pty
  pure (if senders = [] then none else some ⟨lease.sessionId, lease.paneId, cols, rows, senders⟩)

def restoreRemotePaneLease (lease : RemotePaneLease) :
    DaemonResult (RemotePaneLeaseRestorationStatus × Option PaneLeaseResize) := do
  let currentGeneration ← .gets fun s =>
    (s.pane lease.sessionId lease.paneId).map Pane.outputGeneration
  if currentGeneration = none then pure (.paneMissing, none)
  else if currentGeneration ≠ some lease.paneGeneration then pure (.generationMismatch, none)
  else do
    let resized ← .attempt
      (resizeForLease env lease lease.originalCols lease.originalRows (env.restores lease.paneId))
    pure (match resized with
      | some resize => (.restored, resize)
      | none => (.resizeFailed, none))

/-- Ends the lease of a pane, if it has one; the pane gets its size back when it is to be restored. -/
def finishRemotePaneLease (paneId : Uuid) (kind : RemotePaneLeaseEventKind)
    (reason : RemotePaneLeaseEventReason) (restore explicitRelease : Bool) :
    DaemonResult (Option PaneLeaseTransition) := do
  let removed ← .gets fun s => s.paneLeases.find paneId
  match removed with
  | none => pure none
  | some lease => do
    .write fun s => { s with paneLeases := s.paneLeases.erase paneId }
    let revision ← takePaneLeaseRevision
    let lease := { lease with revision }
    let (status, resize) ←
      if restore then restoreRemotePaneLease env lease else pure (.paneMissing, none)
    let restoration : RemotePaneLeaseRestoration :=
      ⟨lease.sessionId, lease.paneId, lease.paneGeneration, lease.originalCols, lease.originalRows, status⟩
    let release : RemotePaneLeaseReleaseOutcome := ⟨lease, restoration⟩
    let result :=
      if explicitRelease then .released release
      else if reason = .adminReclaimed then .reclaimed release
      else .cleanup [release]
    pure (some ⟨result, [⟨some (leaseEvent lease kind reason (some restoration)), resize⟩]⟩)

/-- The target of the lease is what the request asks for; the lease is written once the terminal has
that size. -/
def grantLease (lease : RemotePaneLease) (kind : RemotePaneLeaseEventKind)
    (reason : RemotePaneLeaseEventReason) : DaemonResult PaneLeaseEffect := do
  let resize ← resizeForLease env lease lease.targetCols lease.targetRows env.resizes
  .write fun s => { s with paneLeases := s.paneLeases.put lease }
  pure ⟨some (leaseEvent lease kind reason none), resize⟩

/-- Why a request for a pane that is leased does not update the lease. -/
def claimRefusal (current : RemotePaneLease) (request : RemotePaneLeaseClaimRequest)
    (paneGeneration : Nat) : Option PaneLeaseTransition :=
  if current.ownerConnectionId ≠ request.ownerConnectionId then some (busyTransition current)
  else if current.deviceId ≠ request.deviceId then some (staleTransition (some current) .device)
  else if current.sessionId ≠ request.sessionId then some (staleTransition (some current) .session)
  else if current.paneGeneration ≠ paneGeneration then
    some (staleTransition (some current) .paneGeneration)
  else if request.leaseId ≠ some current.leaseId then some (staleTransition (some current) .leaseId)
  else if request.revision ≠ some current.revision then some (staleTransition (some current) .revision)
  else none

def expireHeldLease (paneId : Uuid) : DaemonResult (Option PaneLeaseTransition) := do
  let hasExpired ← .gets fun s =>
    (s.paneLeases.find paneId).any fun lease => decide (lease.expiresAt ≤ env.now)
  if hasExpired then finishRemotePaneLease env paneId .lost .expired true false
  else pure none

def updatedLease (current : RemotePaneLease) (request : RemotePaneLeaseClaimRequest) (revision : Nat) :
    RemotePaneLease :=
  { current with
    revision
    targetCols := request.cols
    targetRows := request.rows
    viewportRevision := request.viewportRevision
    expiresAt := saturatingAdd env.now remotePaneLeaseTtlMs }

def claimedLease (pane : Pane) (request : RemotePaneLeaseClaimRequest) (revision : Nat) :
    RemotePaneLease where
  leaseId := env.drawn
  ownerConnectionId := request.ownerConnectionId
  deviceId := request.deviceId
  sessionId := request.sessionId
  paneId := request.paneId
  paneGeneration := pane.outputGeneration
  revision
  originalCols := pane.config.cols
  originalRows := pane.config.rows
  targetCols := request.cols
  targetRows := request.rows
  viewportRevision := request.viewportRevision
  expiresAt := saturatingAdd env.now remotePaneLeaseTtlMs
  originalCols_pos := pane.cols_pos
  originalRows_pos := pane.rows_pos

def claimOrUpdateRemotePaneLease (request : RemotePaneLeaseClaimRequest) :
    DaemonResult PaneLeaseTransition := do
  .ofExcept (validateRemoteGeometry request.cols request.rows)
  let _ ← .reads fun s => s.paneInSession env request.sessionId request.paneId
  let expired ← expireHeldLease env request.paneId
  let effects := (expired.map PaneLeaseTransition.effects).getD []
  let pane ← .reads fun s => s.paneInSession env request.sessionId request.paneId
  let held ← .gets fun s => s.paneLeases.find request.paneId
  match held with
  | some current =>
    match claimRefusal current request pane.outputGeneration with
    | some refusal => pure refusal
    | none => do
      let revision ← takePaneLeaseRevision
      let lease := updatedLease env current request revision
      let effect ← grantLease env lease .updated .targetUpdated
      pure ⟨.updated lease, effects ++ [effect]⟩
  | none => do
    let revision ← takePaneLeaseRevision
    let lease := claimedLease env pane request revision
    let effect ← grantLease env lease .claimed .claimed
    pure ⟨.claimed lease, effects ++ [effect]⟩

def renewedLease (current : RemotePaneLease) (request : RemotePaneLeaseRenewRequest) (revision : Nat) :
    RemotePaneLease :=
  { current with
    revision
    viewportRevision := request.viewportRevision
    expiresAt := saturatingAdd env.now remotePaneLeaseTtlMs }

def renewRemotePaneLease (request : RemotePaneLeaseRenewRequest) : DaemonResult PaneLeaseTransition := do
  let held ← .gets fun s => s.paneLeases.find request.paneId
  match held with
  | none => pure (staleTransition none .missing)
  | some current =>
    match leaseRequestStaleReason current request.ownerConnectionId request.deviceId request.sessionId
      request.leaseId request.revision with
    | some reason => pure (staleTransition (some current) reason)
    | none => do
      let pane ← .reads fun s => s.paneInSession env request.sessionId request.paneId
      if current.paneGeneration ≠ pane.outputGeneration then
        pure (staleTransition (some current) .paneGeneration)
      else do
        let revision ← takePaneLeaseRevision
        let lease := renewedLease env current request revision
        .write fun s => { s with paneLeases := s.paneLeases.put lease }
        pure ⟨.renewed lease, [⟨some (leaseEvent lease .updated .renewed none), none⟩]⟩

def releaseRemotePaneLease (request : RemotePaneLeaseReleaseRequest) :
    DaemonResult PaneLeaseTransition := do
  let held ← .gets fun s => s.paneLeases.find request.paneId
  match held with
  | none => pure (staleTransition none .missing)
  | some current =>
    match leaseRequestStaleReason current request.ownerConnectionId request.deviceId request.sessionId
      request.leaseId request.revision with
    | some reason => pure (staleTransition (some current) reason)
    | none => do
      let finished ← finishRemotePaneLease env request.paneId .released .released true true
      .expect (fun _ => finished) "remote pane lease disappeared"

def adminReclaimRemotePaneLease (request : RemotePaneLeaseAdminReclaimRequest) :
    DaemonResult PaneLeaseTransition := do
  let held ← .gets fun s => s.paneLeases.find request.paneId
  .require (∀ lease ∈ held, lease.sessionId = request.sessionId)
    s!"pane {request.paneId} does not belong to session {request.sessionId}"
  let finished ← finishRemotePaneLease env request.paneId .lost .adminReclaimed true false
  .expect (fun _ => finished) s!"no active remote lease for pane {request.paneId}"

/-- The panes whose leases are chosen, in the order of the map. -/
def DaemonState.leasedPanes (s : DaemonState) (chosen : RemotePaneLease → Bool) : List Uuid :=
  ((env.order s.paneLeases.rows).filter chosen).map RemotePaneLease.paneId

/-- One lease after another is lost; of the panes that have one, each has its transition. -/
def finishRemotePaneLeases (reason : RemotePaneLeaseEventReason) (restore : Bool) (paneIds : List Uuid) :
    DaemonResult (List PaneLeaseTransition) := do
  let finished ← Tx.traverse (fun paneId => finishRemotePaneLease env paneId .lost reason restore false) paneIds
  pure (finished.filterMap id)

def expireRemotePaneLeases : DaemonResult (List PaneLeaseTransition) := do
  let paneIds ← .gets fun s => s.leasedPanes env fun lease => decide (lease.expiresAt ≤ env.now)
  finishRemotePaneLeases env .expired true paneIds

def cleanupRemoteConnectionLeases (request : RemoteConnectionCleanupRequest) :
    DaemonResult (List PaneLeaseTransition) := do
  let paneIds ← .gets fun s => s.leasedPanes env fun lease =>
    decide (lease.ownerConnectionId = request.ownerConnectionId)
  finishRemotePaneLeases env .connectionClosed true paneIds

def cleanupRemotePaneLeaseOnExit (paneId : Uuid) : DaemonResult (Option PaneLeaseTransition) :=
  finishRemotePaneLease env paneId .lost .paneExited false false

def cleanupRemotePaneLeasesOnExit (paneIds : List Uuid) : DaemonResult (List PaneLeaseTransition) :=
  finishRemotePaneLeases env .paneExited false paneIds

section Authority

variable {env} {s : DaemonState} {sessionId paneId : Uuid} {origin : PaneCommandOrigin} {now : Nat}

/-- The command names the lease as it is, for the pane as it is. -/
structure Presents (lease : RemotePaneLease) (sessionId paneId : Uuid) (pane : Pane)
    (ownerConnectionId : Uuid) (deviceId : String) (leaseId : Option Uuid) (revision : Option Nat) :
    Prop where
  ownerConnectionId : lease.ownerConnectionId = ownerConnectionId
  deviceId : lease.deviceId = deviceId
  leaseId : some lease.leaseId = leaseId
  revision : some lease.revision = revision
  sessionId : lease.sessionId = sessionId
  paneId : lease.paneId = paneId
  paneGeneration : lease.paneGeneration = pane.outputGeneration

/-- What a command must show of an active lease, and when there is none. -/
def Entitled (active : Option RemotePaneLease) (sessionId paneId : Uuid) (pane : Pane) :
    PaneCommandOrigin → Prop
  | .desktop => active = none
  | .remote ownerConnectionId deviceId leaseId revision => match active with
    | none => leaseId = none ∧ revision = none
    | some lease => Presents lease sessionId paneId pane ownerConnectionId deviceId leaseId revision

theorem DaemonState.activeLease_eq_some {lease : RemotePaneLease} :
    s.activeLease now paneId = some lease ↔
      s.paneLeases.find paneId = some lease ∧ now < lease.expiresAt := by
  simp only [activeLease, Option.filter_eq_some_iff, decide_eq_true_eq]

theorem DaemonState.activeLease_eq_none : s.activeLease now paneId = none ↔
    ∀ lease, s.paneLeases.find paneId = some lease → lease.expiresAt ≤ now := by
  simp only [activeLease, Option.filter_eq_none_iff, decide_eq_true_eq, not_lt]

theorem authorizePaneCommand_eq_ok : s.authorizePaneCommand env sessionId paneId origin = .ok () ↔
    ∃ pane, s.pane sessionId paneId = some pane ∧
      Entitled (s.activeLease env.now paneId) sessionId paneId pane origin := by
  have presents {lease : RemotePaneLease} {pane : Pane} {ownerConnectionId deviceId leaseId revision} :
      (lease.ownerConnectionId = ownerConnectionId ∧ lease.deviceId = deviceId ∧
        some lease.leaseId = leaseId ∧ some lease.revision = revision ∧ lease.sessionId = sessionId ∧
        lease.paneId = paneId ∧ lease.paneGeneration = pane.outputGeneration) ↔
      Presents lease sessionId paneId pane ownerConnectionId deviceId leaseId revision := by
    constructor
    · rintro ⟨h₁, h₂, h₃, h₄, h₅, h₆, h₇⟩
      exact ⟨h₁, h₂, h₃, h₄, h₅, h₆, h₇⟩
    · rintro ⟨h₁, h₂, h₃, h₄, h₅, h₆, h₇⟩
      exact ⟨h₁, h₂, h₃, h₄, h₅, h₆, h₇⟩
  simp only [DaemonState.authorizePaneCommand, Bind.bind, Except.bind]
  cases found : s.paneInSession env sessionId paneId with
  | error e =>
    simp only [reduceCtorEq, false_iff, not_exists, not_and]
    intro pane here
    rw [DaemonState.paneInSession_eq_ok.2 here] at found
    cases found
  | ok pane =>
    have here := DaemonState.paneInSession_eq_ok.1 found
    simp only [here, Option.some.injEq, exists_eq_left']
    cases origin with
    | desktop => cases s.activeLease env.now paneId <;> simp [Entitled]
    | remote ownerConnectionId deviceId leaseId revision =>
      cases s.activeLease env.now paneId with
      | none => cases leaseId <;> cases revision <;> simp [Entitled]
      | some lease =>
        simp only [Entitled, ← presents]
        split
        · rename_i shown
          simp [shown]
        · rename_i refused
          simp [refused]

theorem authorized_of_writer (ok : s.paneWriterAuthorized env sessionId paneId origin = .ok ()) :
    s.authorizePaneCommand env sessionId paneId origin = .ok () := by
  rw [DaemonState.paneWriterAuthorized] at ok
  cases authorized : s.authorizePaneCommand env sessionId paneId origin with
  | ok _ => rfl
  | error e =>
    rw [authorized] at ok
    cases ok

theorem authorized_of_resize {cols rows : UInt16} {senders : List Sender} {s' : DaemonState}
    (ok : resizePaneAuthorized env sessionId paneId cols rows origin s = (.ok senders, s')) :
    s.authorizePaneCommand env sessionId paneId origin = .ok () := by
  simp only [resizePaneAuthorized, Bind.bind, Tx.reads] at ok
  cases authorized : s.authorizePaneCommand env sessionId paneId origin with
  | ok _ => rfl
  | error e =>
    rw [authorized] at ok
    cases ok

end Authority

end VibeLink.Daemon
