import VibeLink.Automation.Store
import VibeLink.Coordinator.Store

/-! The automation service: what users ask for, the schedule, the executions of runs, and the start of the
daemon (`daemon/automation.rs`). -/

namespace VibeLink.Automation

open Relational Tx AutomationStore
open Coordinator (Json trim)

/-- A call's clock and the ids it draws. -/
structure Env where
  now : Nat
  uuid : Nat → Uuid

structure RunnerOutcome where
  status : String
  runtimeIdentity : Option AutomationRuntimeIdentity
  outputSnapshot : Option AutomationOutputSnapshot
  usage : Option Json
  error : Option String
  startedAt : Nat
  finishedAt : Nat

structure PreparedWorkspace where
  cwd : String
  worktree : AutomationRunWorktree

structure CleanupOutcome where
  worktree : AutomationRunWorktree
  error : Option String

namespace AutomationService

section Calls

variable (planner : Planner) (env : Env)

/-- `terminate` is what comes of an attempt to end a process that an earlier daemon started. -/
def reconcileStartup (terminate : AutomationRuntimeIdentity → Except String Bool) : AutomationResult Unit :=
  atomically do
    let active ← activeRuns
    let _ ← Tx.traverse reconcile active
    pure ()
where
  reason (run : AutomationRunRecord) : Option String :=
    if run.status = .pending then
      some "VibeLink daemon restarted before Hermes dispatch began; rerun manually."
    else match run.runtimeIdentity with
    | none => some "VibeLink daemon restarted before Hermes process identity was persisted; rerun manually."
    | some identity => match terminate identity with
      | .ok true => some (s!"VibeLink daemon restarted during Hermes execution; exact process {identity.pid} " ++
          s!"generation {identity.generation} was terminated safely. Rerun manually.")
      | .ok false => some (s!"VibeLink daemon restarted and Hermes process {identity.pid} " ++
          s!"generation {identity.generation} is no longer active. Rerun manually.")
      | .error _ => none
  reconcile (run : AutomationRunRecord) : AutomationResult Unit :=
    match reason run with
    | none => pure ()
    | some reason => do
      let _ ← saveRunIfStatus
        { run with
          status := .dispatchFailed
          error := some reason
          finishedAt := some env.now
          worktree := run.worktree.map fun worktree =>
            if worktree.disposition = "live" then { worktree with disposition := "retained" } else worktree }
        run.status
      pure ()

/-- `record` is what the payload says, under the drawn id. -/
def create (record : AutomationRecord) : AutomationResult AutomationRecord := do
  ofExcept (planner.validateSchedule record)
  require (¬(record.requiresReview ∧ record.enabled)) "automation requiring review cannot be enabled"
  let nextRunAt ← if record.enabled then ofExcept (planner.nextAfter record record.createdAt) else pure none
  atomically (AutomationStore.insert { record with nextRunAt })

/-- `patch` is what the payload says of the fields; it has no say in the id. -/
def update (id : Uuid) (patch : AutomationRecord → Except String AutomationRecord) :
    AutomationResult AutomationRecord :=
  atomically do
    let existing ← AutomationStore.get id
    let updated ← ofExcept ((patch existing).map fun record => { record with id := existing.id })
    ofExcept (planner.validateSchedule updated)
    require (¬(updated.requiresReview ∧ updated.enabled)) "automation requiring review cannot be enabled"
    let scheduleChanged := existing.scheduleKind ≠ updated.scheduleKind ∨
      existing.scheduleValue ≠ updated.scheduleValue ∨ existing.timezone ≠ updated.timezone ∨
      existing.dtstart ≠ updated.dtstart
    let nextRunAt ←
      if ¬updated.enabled then pure none
      else if ¬existing.enabled ∨ scheduleChanged ∨ existing.nextRunAt = none then
        ofExcept (planner.nextAfter updated updated.updatedAt)
      else pure existing.nextRunAt
    AutomationStore.update { updated with nextRunAt }

def delete (id : Uuid) : AutomationResult Unit := atomically (AutomationStore.delete id)

/-- `selected` are the records of the jobs to import, those of `sourceId`s that are new. -/
def importJobs (selected : List AutomationRecord) : AutomationResult (List AutomationRecord) :=
  atomically do
    let imported ← Tx.traverse importJob selected
    pure imported.reduceOption
where
  importJob (record : AutomationRecord) : AutomationResult (Option AutomationRecord) := do
    let current ← gets fun s => s.automations.rows
    if current.any fun row => row.sessionId = record.sessionId ∧ row.source.isSome ∧ row.source = record.source then
      pure none
    else
      ofExcept (planner.validateSchedule record)
      let inserted ← AutomationStore.insert record
      pure (some inserted)

def trigger (automationId : Uuid) : AutomationResult AutomationRunRecord :=
  atomically do
    let automation ← AutomationStore.get automationId
    require (¬automation.requiresReview) "automation must be reviewed and saved before it can run"
    let active ← activeRun automationId
    match active with
    | some active => fail s!"automation already has active run {active.id} ({active.status.text})"
    | none =>
      let runNumber ← nextRunNumber automationId
      insertRun
        { id := env.uuid 0
          automationId
          runNumber
          trigger := .manual
          scheduledFor := env.now
          status := .pending
          runtimeIdentity := none
          worktree := none
          precheckResult := none
          outputSnapshot := none
          usage := none
          error := none
          startedAt := none
          finishedAt := none
          createdAt := env.now }

def claimDue : AutomationResult (List AutomationRunRecord) :=
  atomically do
    let records ← due env.now
    Tx.fold claim [] records.zipIdx
where
  claim (claims : List AutomationRunRecord) (record : AutomationRecord × Nat) :
      AutomationResult (List AutomationRunRecord) := do
    let outcome ← attempt (atomically (AutomationStore.claimDue planner (env.uuid record.2) record.1 env.now))
    match outcome with
    | none => pure claims
    | some run => pure (if run.status = .pending then claims ++ [run] else claims)

/-- `cancelled` is what comes of ending the process. -/
def cancel (cancelled : Except String Bool) (runId : Uuid) : AutomationResult AutomationRunRecord := do
  let _ ← ofExcept cancelled
  atomically do
    let existing ← getRun runId
    if existing.status = .cancelled then pure existing
    else
      let cancelled ← cancelRun runId env.now
      pruneFinalRuns cancelled.automationId
      pure cancelled

end Calls

end AutomationService

end VibeLink.Automation

/-! The execution of a run, one transaction after another, and the daemon around it (`daemon/automation.rs`,
`daemon/bootstrap.rs`). -/

namespace VibeLink.Automation

open Relational Tx AutomationStore
open Coordinator (Json trim)

/-- What the world outside the database answers while one transaction is prepared. -/
structure Answers where
  now : Nat
  prepared : Except String PreparedWorkspace
  precheck : AutomationPrecheckResult
  outcome : RunnerOutcome
  cleanup : CleanupOutcome

def runnerStatus (outcome : RunnerOutcome) : RunStatus :=
  if outcome.status = "completed" then .completed
  else if outcome.status = "skipped_unavailable" then .skippedUnavailable
  else if outcome.status = "skipped_needs_interactive_auth" then .skippedNeedsInteractiveAuth
  else if outcome.status = "cancelled" then .cancelled
  else .dispatchFailed

def runnerError (outcome : RunnerOutcome) : Option String :=
  if (runnerStatus outcome).text = outcome.status then outcome.error
  else some s!"automation runner returned unsupported status: {outcome.status}"

theorem isFinalStatus_runnerStatus (outcome : RunnerOutcome) : isFinalStatus (runnerStatus outcome) = true := by
  rw [runnerStatus]
  repeat' split
  all_goals rfl

def precheckFailureMessage (result : AutomationPrecheckResult) : String :=
  match result.error.filter fun value => trim value ≠ "" with
  | some error => s!"automation precheck failed: {trim error}"
  | none =>
    if trim result.stderr ≠ "" then s!"automation precheck failed: {trim result.stderr}"
    else if trim result.stdout ≠ "" then s!"automation precheck failed: {trim result.stdout}"
    else if result.timedOut then "automation precheck timed out"
    else "automation precheck failed"

def appendError (existing : Option String) (additional : String) : Option String :=
  match existing.filter fun value => trim value ≠ "" with
  | some existing => some s!"{existing}; {additional}"
  | none => some additional

/-- The arguments of `persist_terminal_outcome`, which ends a run. -/
structure TerminalCall where
  expectedStatus : RunStatus
  terminalStatus : RunStatus
  cleanup : CleanupOutcome
  precheck : Option AutomationPrecheckResult
  outcome : Option RunnerOutcome
  error : Option String
  finishedAt : Nat
  final : isFinalStatus terminalStatus = true

namespace AutomationService

def dispatch (claim : AutomationRunRecord) (automation : AutomationRecord) (now : Nat) :
    AutomationResult AutomationRunRecord :=
  atomically do
    let current ← getRun claim.id
    require (current.automationId = automation.id)
      s!"automation run {current.id} belongs to {current.automationId}, not {automation.id}"
    if current.status = .cancelled then pure current
    else
      require (current.status = .pending)
        s!"automation run cannot dispatch from status {current.status.text}: {current.id}"
      saveRunIfStatus
        { current with status := .dispatching, startedAt := some now, finishedAt := none, error := none } .pending

/-- A change to a run that is being dispatched, unless it has been cancelled. -/
def persistDispatching (what : String) (runId : Uuid) (change : AutomationRunRecord → AutomationRunRecord) :
    AutomationResult AutomationRunRecord :=
  atomically do
    let current ← getRun runId
    if current.status = .cancelled then pure current
    else
      require (current.status = .dispatching)
        s!"automation run cannot persist {what} from status {current.status.text}: {current.id}"
      saveRunIfStatus (change current) .dispatching

def persistPreparedWorktree (runId : Uuid) (prepared : PreparedWorkspace) : AutomationResult AutomationRunRecord :=
  persistDispatching "prepared workspace" runId fun current => { current with worktree := some prepared.worktree }

def persistPrecheckResult (runId : Uuid) (precheck : AutomationPrecheckResult) :
    AutomationResult AutomationRunRecord :=
  persistDispatching "precheck" runId fun current => { current with precheckResult := some precheck }

def persistDispatchedOutcome (runId : Uuid) (outcome : RunnerOutcome) (error : Option String) :
    AutomationResult AutomationRunRecord :=
  persistDispatching "dispatch" runId fun current =>
    { current with
      status := .dispatched
      runtimeIdentity := outcome.runtimeIdentity
      outputSnapshot := outcome.outputSnapshot
      usage := outcome.usage
      error
      startedAt := some (min (current.startedAt.getD outcome.startedAt) outcome.startedAt)
      finishedAt := none }

/-- The end of a turn of the loops below: `none` where the loop goes on. -/
def closeRun (current : AutomationRunRecord) (expected : RunStatus) :
    AutomationResult (Option AutomationRunRecord) := do
  let saved ← saveRunIfStatus current expected
  if isFinalStatus saved.status then pruneFinalRuns saved.automationId
  pure (if saved.status = current.status ∨ saved.status ≠ .cancelled then some saved else none)

def finishPrepareFailure (runId : Uuid) (error : String) (now : Nat) :
    AutomationResult (Option AutomationRunRecord) :=
  atomically do
    let current ← getRun runId
    if current.status ≠ .dispatching ∧ current.status ≠ .cancelled then pure (some current)
    else if current.status = .cancelled then closeRun current .cancelled
    else
      closeRun { current with status := .skippedPrecheck, error := some error, finishedAt := some now } current.status

def persistTerminalOutcome (runId : Uuid) (call : TerminalCall) : AutomationResult (Option AutomationRunRecord) :=
  atomically do
    let current ← getRun runId
    if current.status ≠ call.expectedStatus ∧ current.status ≠ .cancelled then pure (some current)
    else closeRun (close current) current.status
where
  /-- The run as the call leaves it. -/
  close (current : AutomationRunRecord) : AutomationRunRecord :=
    let cancelled := current.status = .cancelled
    let error := if cancelled then current.error else call.error
    { current with
      status := if cancelled then .cancelled else call.terminalStatus
      worktree := some call.cleanup.worktree
      precheckResult := call.precheck.or current.precheckResult
      runtimeIdentity := (call.outcome.map RunnerOutcome.runtimeIdentity).getD current.runtimeIdentity
      outputSnapshot := (call.outcome.map RunnerOutcome.outputSnapshot).getD current.outputSnapshot
      usage := (call.outcome.map RunnerOutcome.usage).getD current.usage
      startedAt := (call.outcome.map fun outcome =>
        some (min (current.startedAt.getD outcome.startedAt) outcome.startedAt)).getD current.startedAt
      finishedAt := if cancelled then current.finishedAt else some call.finishedAt
      error := (call.cleanup.error.map fun cleanupError =>
        appendError error s!"automation worktree cleanup failed: {cleanupError}").getD error }

end AutomationService

open AutomationService

/-- Where an execution stands between two transactions.  After the last one it may have to clean up once more. -/
inductive Stage
  | start
  | dispatch (automation : AutomationRecord)
  | prepare
  | prepareFailed (error : String)
  | precheck (prepared : PreparedWorkspace)
  | agent (precheck : AutomationPrecheckResult)
  | terminal (call : TerminalCall) (again : Option (AutomationPrecheckResult × RunnerOutcome))
  | done

/-- `finish_cancelled` -/
def finishCancelled (answers : Answers) (precheck : Option AutomationPrecheckResult) (outcome : Option RunnerOutcome)
    (expectedStatus : RunStatus) : Stage :=
  .terminal
    { expectedStatus
      terminalStatus := .cancelled
      cleanup := answers.cleanup
      precheck
      outcome
      error := none
      finishedAt := answers.now
      final := rfl }
    none

/-- The next transaction of `execute_with_worktree_and_runner`. -/
def advance (claim : AutomationRunRecord) (answers : Answers) : Stage → AutomationResult Stage
  | .start => do
    let automation ← AutomationStore.get claim.automationId
    require (¬automation.requiresReview) "automation must be reviewed and saved before it can run"
    pure (.dispatch automation)
  | .dispatch automation => do
    let saved ← AutomationService.dispatch claim automation answers.now
    pure (if saved.status = .dispatching then .prepare else .done)
  | .prepare => match answers.prepared with
    | .error error => pure (.prepareFailed s!"prepare automation workspace: {error}")
    | .ok prepared => do
      let saved ← persistPreparedWorktree claim.id prepared
      pure (if saved.status = .cancelled then finishCancelled answers none none .dispatching else .precheck prepared)
  | .prepareFailed error => do
    let saved ← finishPrepareFailure claim.id error answers.now
    pure (if saved.isSome then .done else .prepareFailed error)
  | .precheck _ =>
    if answers.precheck.ok then do
      let saved ← persistPrecheckResult claim.id answers.precheck
      pure (if saved.status = .cancelled then finishCancelled answers (some answers.precheck) none .dispatching
        else .agent answers.precheck)
    else pure (.terminal
      { expectedStatus := .dispatching
        terminalStatus := .skippedPrecheck
        cleanup := answers.cleanup
        precheck := some answers.precheck
        outcome := none
        error := some (precheckFailureMessage answers.precheck)
        finishedAt := answers.now
        final := rfl }
      none)
  | .agent precheck => do
    let outcome := answers.outcome
    let saved ← persistDispatchedOutcome claim.id outcome (runnerError outcome)
    pure (if saved.status = .cancelled then finishCancelled answers (some precheck) (some outcome) .dispatching
      else .terminal
        { expectedStatus := .dispatched
          terminalStatus := runnerStatus outcome
          cleanup := answers.cleanup
          precheck := some precheck
          outcome := some outcome
          error := runnerError outcome
          finishedAt := outcome.finishedAt
          final := isFinalStatus_runnerStatus outcome }
        (if runnerStatus outcome = .cancelled then none else some (precheck, outcome)))
  | .terminal call again => do
    let saved ← persistTerminalOutcome claim.id call
    pure (match saved, again with
      | none, _ => .terminal call again
      | some _, none => .done
      | some saved, some (precheck, outcome) =>
        if saved.status = .cancelled then finishCancelled answers (some precheck) (some outcome) .cancelled
        else .done)
  | .done => pure .done

structure Execution where
  claim : AutomationRunRecord
  stage : Stage

/-- The database and the executions that are under way in the daemon. -/
structure System where
  store : Store
  executions : List Execution

def System.initial : System := ⟨⟨.empty, .empty, []⟩, []⟩

inductive Op
  | create (record : AutomationRecord)
  | update (id : Uuid) (patch : AutomationRecord → Except String AutomationRecord)
  | delete (id : Uuid)
  | importJobs (selected : List AutomationRecord)
  | trigger (env : Env) (automationId : Uuid)
  | claimDue (env : Env)
  | advance (execution : Nat) (answers : Answers)
  | cancel (env : Env) (cancelled : Except String Bool) (runId : Uuid)
  | restart (env : Env) (terminate : AutomationRuntimeIdentity → Except String Bool)

/-- Executions begin with the runs that a call returns; one that fails is over. -/
def System.next (planner : Planner) (s : System) : Op → System
  | .create record => { s with store := (AutomationService.create planner record s.store).2 }
  | .update id patch => { s with store := (AutomationService.update planner id patch s.store).2 }
  | .delete id => { s with store := (AutomationService.delete id s.store).2 }
  | .importJobs selected => { s with store := (AutomationService.importJobs planner selected s.store).2 }
  | .trigger env automationId =>
    let (result, store) := AutomationService.trigger env automationId s.store
    { store, executions := s.executions ++ result.toOption.toList.map (⟨·, .start⟩) }
  | .claimDue env =>
    let (result, store) := AutomationService.claimDue planner env s.store
    { store, executions := s.executions ++ (result.toOption.getD []).map (⟨·, .start⟩) }
  | .advance i answers =>
    match s.executions[i]? with
    | none => s
    | some execution =>
      let (result, store) := VibeLink.Automation.advance execution.claim answers execution.stage s.store
      { store, executions := s.executions.set i ⟨execution.claim, result.toOption.getD .done⟩ }
  | .cancel env cancelled runId => { s with store := (AutomationService.cancel env cancelled runId s.store).2 }
  | .restart env terminate => ⟨(AutomationService.reconcileStartup env terminate s.store).2, []⟩

def System.run (planner : Planner) (ops : List Op) : System := ops.foldl (System.next planner) .initial

end VibeLink.Automation
