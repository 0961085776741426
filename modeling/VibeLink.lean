import VibeLink.Lexing.Markers
import VibeLink.Relational.Table
import VibeLink.Relational.Pages
import VibeLink.Relational.Transaction
import VibeLink.Relational.Runs
import VibeLink.Coordinator.Json
import VibeLink.Coordinator.Records
import VibeLink.Coordinator.Requests
import VibeLink.Coordinator.Store
import VibeLink.Coordinator.Scheduling
import VibeLink.Coordinator.Lifecycle
import VibeLink.Coordinator.Gates
import VibeLink.Coordinator.Durable
import VibeLink.Coordinator.Resources
import VibeLink.Coordinator.Service
import VibeLink.Coordinator.Frames
import VibeLink.Coordinator.Ledger
import VibeLink.Coordinator.Effects
import VibeLink.Coordinator.Refinement
import VibeLink.Coordinator.Refinement.Scheduling
import VibeLink.Coordinator.Refinement.Launch
import VibeLink.Coordinator.Refinement.Lifecycle
import VibeLink.Coordinator.Refinement.Recovery
import VibeLink.Coordinator.Simulation
import VibeLink.Coordinator.Turns
import VibeLink.Coordinator.Capacity
import VibeLink.Coordinator.Ownership
import VibeLink.Coordinator.Cancellation
import VibeLink.Coordinator.Dependencies
import VibeLink.Coordinator.Cleanup
import VibeLink.Coordinator.Replay
import VibeLink.Coordinator.Launching
import VibeLink.Coordinator.Identity
import VibeLink.Coordinator.Events
import VibeLink.Coordinator.Crew
import VibeLink.Coordinator.Manning
import VibeLink.Coordinator.Stranding
import VibeLink.Daemon.Scrollback
import VibeLink.Daemon.Protocol
import VibeLink.Daemon.State
import VibeLink.Daemon.Workspaces
import VibeLink.Daemon.Leases
import VibeLink.Daemon.Service
import VibeLink.Daemon.Board
import VibeLink.Daemon.Moves
import VibeLink.Daemon.Simulation
import VibeLink.Daemon.Geometry
import VibeLink.Daemon.Issuing
import VibeLink.Daemon.Expiry
import VibeLink.Daemon.Restoration
import VibeLink.Daemon.Announcements
import VibeLink.Daemon.Readers
import VibeLink.Daemon.Edits
import VibeLink.Daemon.Selection
import VibeLink.Daemon.Placement
import VibeLink.Daemon.Traffic
import VibeLink.Daemon.Spawning
import VibeLink.Control.Idempotence
import VibeLink.Control.Writing
import VibeLink.Daemon.Clears
import VibeLink.Daemon.Modes
import VibeLink.Daemon.Chunks
import VibeLink.Daemon.Cuts
import VibeLink.Daemon.Rereading
import VibeLink.Daemon.History
import VibeLink.Daemon.Queries
import VibeLink.Daemon.Framing
import VibeLink.Daemon.Projection
import VibeLink.Terminal.ClearSequences
import VibeLink.Terminal.Agreement
import VibeLink.Terminal.Queries
import VibeLink.Relational.Maps
import VibeLink.Remote.BinaryFrames
import VibeLink.Remote.StreamQueue
import VibeLink.Remote.AckWindow
import VibeLink.Remote.OutputPump
import VibeLink.Remote.Sequences
import VibeLink.Remote.ReplayBuffer
import VibeLink.Remote.SecureTransport
import VibeLink.Remote.LayoutOrder
import VibeLink.Automation.Store
import VibeLink.Automation.Service
import VibeLink.Automation.Exclusion
import VibeLink.Relational.Outcome
import VibeLink.Automation.Schedule
import VibeLink.Automation.Clock
import VibeLink.Automation.Claims
import VibeLink.Automation.Finality
import VibeLink.Relational.Faults
import VibeLink.Storage.Files
import VibeLink.Storage.Recovery
import VibeLink.Memory.Store
import VibeLink.Memory.Appends
import VibeLink.Memory.Sharing
import VibeLink.Desktop.Requests
import VibeLink.Desktop.Returning
import VibeLink.Desktop.Generations
import VibeLink.Desktop.Websocket
import VibeLink.Editor.Upkeep
import VibeLink.Editor.Sparing
import VibeLink.Terminal.Input
import VibeLink.Terminal.Snapshots
import VibeLink.Terminal.Replays
import VibeLink.Remote.Authority
import VibeLink.Remote.Pairing
import VibeLink.Worktrees.Deletion
import VibeLink.Worktrees.Ledger
import VibeLink.Worktrees.Creation
import VibeLink.Relational.Ancestry
import VibeLink.Relational.Clocks
import VibeLink.Remote.RelayBreaker
import VibeLink.Automation.Occurrences
import VibeLink.Automation.Calendar
import VibeLink.Daemon.Retention
import VibeLink.Daemon.Stripping
import VibeLink.Coordinator.Breaker
import VibeLink.Worktrees.Lineage
import VibeLink.Worktrees.Removing
import VibeLink.Worktrees.Contention
import VibeLink.Daemon.Lifecycle
import VibeLink.Binary.Unicode
import VibeLink.Editor.TextDocuments
import VibeLink.Filesystem.Tree
import VibeLink.Filesystem.Changes
import VibeLink.Workspace.Paths
import VibeLink.Workspace.Entries
import VibeLink.Lexing.Finding
import VibeLink.Agents.Commands
import VibeLink.Lexing.Lines
import VibeLink.Lexing.Toml
import VibeLink.Agents.CodexTrust
import VibeLink.Agents.TrustRemoval
import VibeLink.Lexing.Jsonc
import VibeLink.Agents.Jsonc
import VibeLink.Binary.Base64
import VibeLink.Remote.Attachments
import VibeLink.Remote.OpaqueMetadata
import VibeLink.Terminal.TitleCoalescing
import VibeLink.Terminal.AgentActivity
import VibeLink.Workspace.Nesting
import VibeLink.Layout.PaneClose
import VibeLink.Layout.Sessions
import VibeLink.Layout.Unstack
import VibeLink.Layout.LocalSplit
import VibeLink.Automation.BoundedCapture
import VibeLink.Worktrees.Aborting
import VibeLink.Worktrees.Forest
import VibeLink.Git.StatusSummaries
import VibeLink.Git.UnifiedDiff
import VibeLink.Git.HunkActions
import VibeLink.Git.WorktreeList
import VibeLink.Layout.Tilings
import VibeLink.Relational.Arranged
import VibeLink.Layout.Drags
import VibeLink.Coordinator.Permanence
import VibeLink.Coordinator.Greedy
import VibeLink.Remote.StreamOrder
import VibeLink.Control.Audit
