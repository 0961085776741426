import VibeLink.Relational.Outcome
import VibeLink.Relational.Table
import VibeLink.Coordinator.Json
import Mathlib.Algebra.Order.Ring.Nat

/-! Automations and their runs, as the daemon stores them (`daemon/automation/types.rs`,
`daemon/automation/store.rs`). -/

namespace VibeLink.Automation

open Relational Tx
open Coordinator (Json)

abbrev Uuid := String

inductive RunStatus
  | pending | dispatching | dispatched | completed | skippedPrecheck | skippedMissed | skippedUnavailable
  | skippedNeedsInteractiveAuth | dispatchFailed | cancelled
  deriving DecidableEq

def RunStatus.text : RunStatus → String
  | .pending => "pending"
  | .dispatching => "dispatching"
  | .dispatched => "dispatched"
  | .completed => "completed"
  | .skippedPrecheck => "skipped_precheck"
  | .skippedMissed => "skipped_missed"
  | .skippedUnavailable => "skipped_unavailable"
  | .skippedNeedsInteractiveAuth => "skipped_needs_interactive_auth"
  | .dispatchFailed => "dispatch_failed"
  | .cancelled => "cancelled"

def isFinalStatus : RunStatus → Bool
  | .completed | .skippedPrecheck | .skippedMissed | .skippedUnavailable | .skippedNeedsInteractiveAuth
  | .dispatchFailed | .cancelled => true
  | _ => false

def isActiveStatus : RunStatus → Bool
  | .pending | .dispatching | .dispatched => true
  | _ => false

theorem isFinalStatus_eq (status : RunStatus) : isFinalStatus status = !isActiveStatus status := by
  cases status <;> rfl

inductive Trigger
  | scheduled | manual
  deriving DecidableEq

structure AutomationSource where
  provider : String
  sourceId : String
  deriving DecidableEq

structure AutomationRuntimeIdentity where
  pid : Nat
  processStartTime : Nat
  generation : Nat
  deriving DecidableEq

structure AutomationRunWorktree where
  worktreeId : Option String
  instanceId : Option String
  sessionId : Option String
  path : String
  branch : String
  baseRevision : String
  disposition : String
  deriving DecidableEq

structure AutomationPrecheckResult where
  ok : Bool
  command : Option String
  stdout : String
  stderr : String
  exitCode : Option Int
  timedOut : Bool
  durationMs : Nat
  truncated : Bool
  error : Option String
  deriving DecidableEq

structure AutomationOutputSnapshot where
  finalResponse : Option String
  stdout : String
  stderr : String
  truncated : Bool
  deriving DecidableEq

/-- Without the columns that only the agent and its workspace are for. -/
structure AutomationRecord where
  id : Uuid
  sessionId : String
  scheduleKind : String
  scheduleValue : String
  timezone : String
  dtstart : Option Nat
  nextRunAt : Option Nat
  lastRunAt : Option Nat
  enabled : Bool
  requiresReview : Bool
  missedRunGraceMinutes : Nat
  source : Option AutomationSource
  createdAt : Nat
  updatedAt : Nat
  deriving DecidableEq

structure AutomationRunRecord where
  id : Uuid
  automationId : Uuid
  runNumber : Nat
  trigger : Trigger
  scheduledFor : Nat
  status : RunStatus
  runtimeIdentity : Option AutomationRuntimeIdentity
  worktree : Option AutomationRunWorktree
  precheckResult : Option AutomationPrecheckResult
  outputSnapshot : Option AutomationOutputSnapshot
  usage : Option Json
  error : Option String
  startedAt : Option Nat
  finishedAt : Option Nat
  createdAt : Nat
  deriving DecidableEq

/-- A run as it was created. -/
structure Stamp where
  id : Uuid
  automationId : Uuid
  runNumber : Nat
  deriving DecidableEq

def AutomationRunRecord.stamp (run : AutomationRunRecord) : Stamp := ⟨run.id, run.automationId, run.runNumber⟩

structure Store where
  automations : Table AutomationRecord.id
  runs : Table AutomationRunRecord.id
  /-- The runs ever created for the automations that are there, in order: a ghost that no function reads. -/
  journal : List Stamp

abbrev AutomationResult (α : Type) := Tx Store String α

/-- The schedules of automations, and the checks of what users say of them. -/
structure Planner where
  nextAfter : AutomationRecord → Nat → Except String (Option Nat)
  validateSchedule : AutomationRecord → Except String Unit

/-- `i64::MAX` -/
def maxInteger : Nat := 2 ^ 63 - 1

def u64ToI64 (value : Nat) (label : String) : AutomationResult Unit :=
  require (value ≤ maxInteger) s!"{label} exceeds SQLite INTEGER range: {value}"

def optionalU64ToI64 (value : Option Nat) (label : String) : AutomationResult Unit :=
  match value with
  | none => pure ()
  | some value => u64ToI64 value label

/-- `RETAIN_FINAL_RUNS` -/
def retainFinalRuns : Nat := 100

namespace AutomationStore

def due (now : Nat) : AutomationResult (List AutomationRecord) := do
  u64ToI64 now "automation due-query time"
  gets fun s => orderBy
    (fun a b => decide (a.nextRunAt.getD 0 < b.nextRunAt.getD 0 ∨ a.nextRunAt = b.nextRunAt ∧
      (a.createdAt < b.createdAt ∨ a.createdAt = b.createdAt ∧ a.id ≤ b.id)))
    (s.automations.rows.filter fun record =>
      record.enabled ∧ ¬record.requiresReview ∧ ∃ at_ ∈ record.nextRunAt, at_ ≤ now)

def get (id : Uuid) : AutomationResult AutomationRecord :=
  expect (fun s => s.automations.find id) s!"automation not found: {id}"

def sourceWriteContext (operation : String) (record : AutomationRecord) : String :=
  match record.source with
  | some source => s!"{operation} automation {record.id} from source {source.provider}:{source.sourceId}"
  | none => s!"{operation} automation {record.id}"

/-- `UNIQUE(source_provider, source_id)`, in which nulls differ. -/
def sourceTaken (s : Store) (record : AutomationRecord) : Bool :=
  s.automations.rows.any fun other => other.id ≠ record.id ∧ other.source.isSome ∧ other.source = record.source

def checkTimes (record : AutomationRecord) : AutomationResult Unit := do
  optionalU64ToI64 record.dtstart "automation dtstart"
  optionalU64ToI64 record.nextRunAt "automation next run time"
  optionalU64ToI64 record.lastRunAt "automation last run time"

def insert (record : AutomationRecord) : AutomationResult AutomationRecord := do
  checkTimes record
  u64ToI64 record.createdAt "automation creation time"
  u64ToI64 record.updatedAt "automation update time"
  tryWrite (fun s => if sourceTaken s record then none else
    (s.automations.insert? record).map fun automations => { s with automations }) (sourceWriteContext "insert" record)
  get record.id

def update (record : AutomationRecord) : AutomationResult AutomationRecord := do
  checkTimes record
  u64ToI64 record.updatedAt "automation update time"
  tryWrite (fun s => if sourceTaken s record then none else
    some { s with automations := s.automations.update (fun row => decide (row.id = record.id)) fun row =>
      { record with id := row.id, createdAt := row.createdAt } }) (sourceWriteContext "update" record)
  get record.id

def delete (id : Uuid) : AutomationResult Unit := do
  let _ ← get id
  write fun s =>
    { automations := s.automations.erase id
      runs := s.runs.retain fun run => decide (run.automationId ≠ id)
      journal := s.journal.filter fun stamp => decide (stamp.automationId ≠ id) }

def activeRuns : AutomationResult (List AutomationRunRecord) :=
  gets fun s => orderBy
    (fun a b => decide (a.createdAt < b.createdAt ∨ a.createdAt = b.createdAt ∧ a.id ≤ b.id))
    (s.runs.rows.filter fun run => isActiveStatus run.status)

/-- `ORDER BY run_number DESC,id DESC` -/
def newer (a b : AutomationRunRecord) : Bool :=
  decide (b.runNumber < a.runNumber ∨ a.runNumber = b.runNumber ∧ b.id ≤ a.id)

def activeRun (automationId : Uuid) : AutomationResult (Option AutomationRunRecord) :=
  gets fun s => (orderBy newer (s.runs.rows.filter fun run =>
    decide (run.automationId = automationId) && isActiveStatus run.status)).head?

def getRun (id : Uuid) : AutomationResult AutomationRunRecord :=
  expect (fun s => s.runs.find id) s!"automation run not found: {id}"

def nextRunNumber (automationId : Uuid) : AutomationResult Nat := do
  let current ← gets fun s =>
    ((s.runs.rows.filter fun run => decide (run.automationId = automationId)).map AutomationRunRecord.runNumber).max?
  require (current.getD 0 < maxInteger) s!"automation run number exhausted: {automationId}"
  pure (current.getD 0 + 1)

def runAllowed (s : Store) (record : AutomationRunRecord) : Bool :=
  (s.automations.find record.automationId).isSome && s.runs.rows.all fun run =>
    decide (run.automationId = record.automationId → run.runNumber ≠ record.runNumber)

def insertRun (record : AutomationRunRecord) : AutomationResult AutomationRunRecord := do
  u64ToI64 record.runNumber "automation run number"
  u64ToI64 record.scheduledFor "automation scheduled time"
  optionalU64ToI64 record.startedAt "automation run start time"
  optionalU64ToI64 record.finishedAt "automation run finish time"
  u64ToI64 record.createdAt "automation run creation time"
  tryWrite (fun s => if runAllowed s record then
      (s.runs.insert? record).map fun runs => { s with runs, journal := s.journal ++ [record.stamp] }
    else none)
    s!"insert automation run {record.id} number {record.runNumber} for automation {record.automationId}"
  getRun record.id

def saveRunIfStatus (record : AutomationRunRecord) (expectedStatus : RunStatus) :
    AutomationResult AutomationRunRecord := do
  optionalU64ToI64 record.startedAt "automation run start time"
  optionalU64ToI64 record.finishedAt "automation run finish time"
  write fun s =>
    { s with runs := s.runs.update (fun run => decide (run.id = record.id ∧ run.status = expectedStatus)) fun run =>
      { run with
        status := record.status
        runtimeIdentity := record.runtimeIdentity
        worktree := record.worktree
        precheckResult := record.precheckResult
        outputSnapshot := record.outputSnapshot
        usage := record.usage
        error := record.error
        startedAt := record.startedAt
        finishedAt := record.finishedAt } }
  getRun record.id

def cancelRun (id : Uuid) (finishedAt : Nat) : AutomationResult AutomationRunRecord := do
  let existing ← getRun id
  require (isActiveStatus existing.status) s!"automation run is not active: {id} ({existing.status.text})"
  u64ToI64 finishedAt "automation cancellation time"
  tryWrite (fun s =>
      let active := fun run : AutomationRunRecord => decide (run.id = id ∧ isActiveStatus run.status)
      if s.runs.rows.any active then
        some { s with runs := s.runs.update active fun run =>
          { run with status := .cancelled, finishedAt := some finishedAt } }
      else none)
    s!"automation run is no longer active: {id}"
  getRun id

def finalRuns (s : Store) (automationId : Uuid) : List AutomationRunRecord :=
  orderBy
    (fun a b => decide (b.runNumber < a.runNumber ∨ a.runNumber = b.runNumber ∧
      (b.createdAt < a.createdAt ∨ a.createdAt = b.createdAt ∧ b.id ≤ a.id)))
    (s.runs.rows.filter fun run => decide (run.automationId = automationId) && isFinalStatus run.status)

def pruneFinalRuns (automationId : Uuid) : AutomationResult Unit :=
  write fun s =>
    { s with
      runs := s.runs.retain fun run =>
        decide (run.id ∉ ((finalRuns s automationId).drop retainFinalRuns).map AutomationRunRecord.id) }

def claimedRun (id : Uuid) (scheduledFor : Nat) : AutomationResult AutomationRunRecord :=
  expect (fun s => (orderBy newer (s.runs.rows.filter fun run =>
      run.automationId = id ∧ run.trigger = .scheduled ∧ run.scheduledFor = scheduledFor)).head?)
    s!"automation occurrence is no longer due: {id} at {scheduledFor}"

def claimDue (planner : Planner) (uuid : Uuid) (record : AutomationRecord) (now : Nat) :
    AutomationResult AutomationRunRecord := do
  let scheduledFor ← expect (fun _ => record.nextRunAt) s!"automation has no scheduled occurrence: {record.id}"
  require (scheduledFor ≤ now)
    s!"automation is not due: {record.id} (scheduled for {scheduledFor}, now {now})"
  let source ← get record.id
  if ¬source.enabled ∨ source.nextRunAt ≠ some scheduledFor then
    u64ToI64 scheduledFor "automation scheduled time"
    claimedRun record.id scheduledFor
  else
    let active ← activeRun source.id
    match active with
    | some active => fail s!"automation already has active run {active.id} ({active.status.text}): {source.id}"
    | none =>
      let nextRunAt ← ofExcept ((planner.nextAfter source now).mapError fun _ =>
        s!"advance automation schedule: {source.id}")
      let graceMs := min (source.missedRunGraceMinutes * 60000) (2 ^ 64 - 1)
      let latenessMs := now - scheduledFor
      let missed := decide (graceMs < latenessMs)
      let runNumber ← nextRunNumber source.id
      let run : AutomationRunRecord :=
        { id := uuid
          automationId := source.id
          runNumber
          trigger := .scheduled
          scheduledFor
          status := if missed then .skippedMissed else .pending
          runtimeIdentity := none
          worktree := none
          precheckResult := none
          outputSnapshot := none
          usage := none
          error := if missed then some (s!"Scheduled occurrence at {scheduledFor} was missed by {latenessMs} ms, " ++
            s!"beyond the configured grace period of {source.missedRunGraceMinutes} minutes") else none
          startedAt := none
          finishedAt := if missed then some now else none
          createdAt := now }
      u64ToI64 scheduledFor "automation scheduled time"
      optionalU64ToI64 nextRunAt "automation next run time"
      u64ToI64 now "automation claim time"
      tryWrite (fun s =>
          let due := fun row : AutomationRecord =>
            decide (row.id = source.id ∧ row.enabled ∧ row.nextRunAt = some scheduledFor)
          if s.automations.rows.any due then
            some { s with automations := s.automations.update due fun row =>
              { row with lastRunAt := some scheduledFor, nextRunAt, updatedAt := now } }
          else none)
        s!"automation occurrence was claimed concurrently: {source.id} at {scheduledFor}"
      let inserted ← insertRun run
      pruneFinalRuns source.id
      pure inserted

end AutomationStore

end VibeLink.Automation
