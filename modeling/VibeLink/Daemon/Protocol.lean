import VibeLink.Daemon.Queries

/-! What the daemon and its clients exchange about panes and their leases (`protocol.rs`). -/

namespace VibeLink.Daemon

abbrev Uuid := String

abbrev Sender := Nat

/-- `u64::saturating_add` -/
def saturatingAdd (a b : Nat) : Nat := min (a + b) (UInt64.size - 1)

/-- `REMOTE_PANE_LEASE_TTL_MS` -/
def remotePaneLeaseTtlMs : Nat := 15000

structure PaneConfig where
  paneId : Uuid
  shell : Option String
  args : List String
  cwd : Option String
  env : List (String × String)
  title : Option String
  icon : Option String
  profileId : Option String
  role : Option String
  restoreOnStart : Bool
  cols : UInt16
  rows : UInt16
  deriving DecidableEq

structure PaneMeta where
  id : Uuid
  config : PaneConfig
  alive : Bool
  deriving DecidableEq

structure SessionMeta where
  id : Uuid
  name : String
  paneCount : Nat
  createdAt : Int
  workspaceFolder : Option String
  deriving DecidableEq

structure TerminalSnapshot where
  sessionId : Uuid
  paneId : Uuid
  paneGeneration : Nat
  outputSequence : Nat
  cols : UInt16
  rows : UInt16
  alive : Bool
  data : Bytes
  deriving DecidableEq

structure DesktopSelection where
  workspaceId : Option Uuid
  paneId : Option Uuid
  deriving DecidableEq

inductive PaneCommandOrigin
  | desktop
  | remote (ownerConnectionId : Uuid) (deviceId : String) (leaseId : Option Uuid) (revision : Option Nat)
  deriving DecidableEq

/-- The size to restore is one that a terminal had, so that it is positive. -/
structure RemotePaneLease where
  leaseId : Uuid
  ownerConnectionId : Uuid
  deviceId : String
  sessionId : Uuid
  paneId : Uuid
  paneGeneration : Nat
  revision : Nat
  originalCols : UInt16
  originalRows : UInt16
  targetCols : UInt16
  targetRows : UInt16
  viewportRevision : Nat
  expiresAt : Nat
  originalCols_pos : 0 < originalCols
  originalRows_pos : 0 < originalRows
  deriving DecidableEq

structure RemotePaneLeaseClaimRequest where
  ownerConnectionId : Uuid
  deviceId : String
  sessionId : Uuid
  paneId : Uuid
  cols : UInt16
  rows : UInt16
  viewportRevision : Nat
  leaseId : Option Uuid
  revision : Option Nat
  deriving DecidableEq

structure RemotePaneLeaseRenewRequest where
  ownerConnectionId : Uuid
  deviceId : String
  sessionId : Uuid
  paneId : Uuid
  leaseId : Uuid
  revision : Nat
  viewportRevision : Nat
  deriving DecidableEq

structure RemotePaneLeaseReleaseRequest where
  ownerConnectionId : Uuid
  deviceId : String
  sessionId : Uuid
  paneId : Uuid
  leaseId : Uuid
  revision : Nat
  deriving DecidableEq

structure RemotePaneLeaseStatusRequest where
  paneId : Uuid
  deriving DecidableEq

structure RemotePaneLeaseAdminReclaimRequest where
  sessionId : Uuid
  paneId : Uuid
  deriving DecidableEq

structure RemoteConnectionCleanupRequest where
  ownerConnectionId : Uuid
  deriving DecidableEq

inductive RemotePaneLeaseEventReason
  | claimed | targetUpdated | renewed | released | adminReclaimed | expired | connectionClosed | paneExited
  deriving DecidableEq

inductive RemotePaneLeaseRestorationStatus
  | restored | paneMissing | generationMismatch | resizeFailed
  deriving DecidableEq

structure RemotePaneLeaseRestoration where
  sessionId : Uuid
  paneId : Uuid
  paneGeneration : Nat
  cols : UInt16
  rows : UInt16
  status : RemotePaneLeaseRestorationStatus
  deriving DecidableEq

inductive RemotePaneLeaseEventKind
  | claimed | updated | released | lost
  deriving DecidableEq

structure RemotePaneLeaseEvent where
  kind : RemotePaneLeaseEventKind
  reason : RemotePaneLeaseEventReason
  sessionId : Uuid
  paneId : Uuid
  leased : Bool
  cols : Option UInt16
  rows : Option UInt16
  leaseId : Uuid
  ownerConnectionId : Uuid
  deviceId : String
  paneGeneration : Nat
  revision : Nat
  originalCols : UInt16
  originalRows : UInt16
  targetCols : UInt16
  targetRows : UInt16
  viewportRevision : Nat
  expiresAt : Nat
  restoration : Option RemotePaneLeaseRestoration
  deriving DecidableEq

structure RemotePaneLeaseReleaseOutcome where
  lease : RemotePaneLease
  restoration : RemotePaneLeaseRestoration
  deriving DecidableEq

inductive RemotePaneLeaseStaleReason
  | leaseId | revision | owner | device | session | paneGeneration | missing
  deriving DecidableEq

inductive RemotePaneLeaseResult
  | claimed (lease : RemotePaneLease)
  | updated (lease : RemotePaneLease)
  | renewed (lease : RemotePaneLease)
  | released (release : RemotePaneLeaseReleaseOutcome)
  | reclaimed (release : RemotePaneLeaseReleaseOutcome)
  | status (lease : Option RemotePaneLease)
  | cleanup (releases : List RemotePaneLeaseReleaseOutcome)
  | busy (lease : RemotePaneLease)
  | stale (lease : Option RemotePaneLease) (reason : RemotePaneLeaseStaleReason)
  deriving DecidableEq

/-- The messages of the daemon that panes and leases give rise to. -/
inductive DaemonToClient
  | output (paneId : Uuid) (paneGeneration outputSequence : Nat) (data : Bytes)
  | paneExited (paneId : Uuid) (exitCode : Option Int)
  | paneResized (sessionId paneId : Uuid) (cols rows : UInt16)
  | remotePaneLease (event : RemotePaneLeaseEvent)
  deriving DecidableEq

end VibeLink.Daemon
