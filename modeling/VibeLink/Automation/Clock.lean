import VibeLink.Automation.Service
import VibeLink.Automation.Schedule

/-! The clock and the lock: a call reads the time first, and then waits for the database
(`daemon/automation.rs`, `daemon/automation/payload.rs`, `daemon/bootstrap.rs`). -/

namespace VibeLink.Automation

open Relational

/-- The fields of a payload. -/
structure AutomationPatch where
  scheduleKind : Option String := none
  scheduleValue : Option String := none
  timezone : Option String := none
  dtstart : Option (Option Nat) := none
  enabled : Option Bool := none
  requiresReview : Option Bool := none
  missedRunGraceMinutes : Option Nat := none
  source : Option (Option AutomationSource) := none

abbrev Payload := AutomationRecord → Except String AutomationPatch

def applyPatch (payload : Payload) (now : Nat) (existing : AutomationRecord) : Except String AutomationRecord := do
  let patch ← payload existing
  return { existing with
    scheduleKind := patch.scheduleKind.getD existing.scheduleKind
    scheduleValue := patch.scheduleValue.getD existing.scheduleValue
    timezone := patch.timezone.getD existing.timezone
    dtstart := patch.dtstart.getD existing.dtstart
    enabled := patch.enabled.getD existing.enabled
    requiresReview := patch.requiresReview.getD existing.requiresReview
    missedRunGraceMinutes := patch.missedRunGraceMinutes.getD existing.missedRunGraceMinutes
    source := patch.source.getD existing.source
    updatedAt := now }

inductive Call
  /-- `parse_create` -/
  | create (record : Nat → AutomationRecord)
  | update (id : Uuid) (payload : Payload)
  | delete (id : Uuid)
  | importJobs (selected : Nat → List AutomationRecord)
  | trigger (uuid : Nat → Uuid) (automationId : Uuid)
  | claimDue (uuid : Nat → Uuid)
  | advance (execution : Nat) (answers : Nat → Answers)
  | cancel (uuid : Nat → Uuid) (cancelled : Except String Bool) (runId : Uuid)
  | restart (uuid : Nat → Uuid) (terminate : AutomationRuntimeIdentity → Except String Bool)

def Call.op (now : Nat) : Call → Op
  | .create record => .create (record now)
  | .update id payload => .update id (applyPatch payload now)
  | .delete id => .delete id
  | .importJobs selected => .importJobs (selected now)
  | .trigger uuid automationId => .trigger ⟨now, uuid⟩ automationId
  | .claimDue uuid => .claimDue ⟨now, uuid⟩
  | .advance execution answers => .advance execution (answers now)
  | .cancel uuid cancelled runId => .cancel ⟨now, uuid⟩ cancelled runId
  | .restart uuid terminate => .restart ⟨now, uuid⟩ terminate

/-- An occurrence that has been claimed, and what the claim left as the next run time. -/
structure Claim where
  automationId : Uuid
  scheduledFor : Nat
  claimedAt : Nat
  nextRunAt : Option Nat
  deriving DecidableEq

def claimOf (now : Nat) (t : Store) (stamp : Stamp) : Option Claim := do
  let run ← t.runs.find stamp.id
  let automation ← t.automations.find stamp.automationId
  return ⟨run.automationId, run.scheduledFor, now, automation.nextRunAt⟩

def claimed (now : Nat) (s t : Store) : List Claim :=
  (t.journal.drop s.journal.length).filterMap (claimOf now t)

structure Timed where
  clock : Nat
  system : System
  /-- The calls that wait for the database, with the times that they have read. -/
  calls : List (Call × Nat)
  /-- The claims of the automations that are there, in order: a ghost that no step reads. -/
  claims : List Claim

inductive Event
  | tick (ms : Nat)
  | begin (call : Call)
  | perform (i : Nat)

namespace Timed

def initial : Timed := ⟨0, .initial, [], []⟩

def waiting (s : Timed) (i : Nat) : Call → List (Call × Nat)
  | .restart _ _ => []
  | _ => s.calls.eraseIdx i

variable (planner : Planner)

def perform (s : Timed) (call : Call) (now : Nat) : Timed :=
  let system := s.system.next planner (call.op now)
  let fresh := match call with
    | .claimDue _ => claimed now s.system.store system.store
    | _ => []
  { s with
    system
    claims := (s.claims ++ fresh).filter fun claim => (system.store.automations.find claim.automationId).isSome }

def next (s : Timed) : Event → Timed
  | .tick ms => { s with clock := s.clock + ms }
  | .begin call => { s with calls := s.calls ++ [(call, s.clock)] }
  | .perform i => match s.calls[i]? with
    | none => s
    | some (call, now) => perform planner { s with calls := s.waiting i call } call now

def run (events : List Event) : Timed := events.foldl (next planner) initial

end Timed

def Replans (existing updated : AutomationRecord) : Prop :=
  updated.enabled ∧ (¬existing.enabled ∨
    (existing.scheduleKind ≠ updated.scheduleKind ∨ existing.scheduleValue ≠ updated.scheduleValue ∨
      existing.timezone ≠ updated.timezone ∨ existing.dtstart ≠ updated.dtstart) ∨ existing.nextRunAt = none)

instance (existing updated : AutomationRecord) : Decidable (Replans existing updated) :=
  inferInstanceAs (Decidable (_ ∧ _))

/-- An update that computes the next run time has not read a time before the last run time. -/
def Timed.Current (s : Timed) : Event → Prop
  | .perform i => match s.calls[i]? with
    | some (.update id payload, now) =>
      ∀ existing ∈ s.system.store.automations.find id, ∀ updated ∈ (applyPatch payload now existing).toOption,
        Replans existing updated → ∀ last ∈ existing.lastRunAt, last ≤ now
    | _ => True
  | _ => True

instance (s : Timed) (event : Event) : Decidable (s.Current event) := by
  cases event with
  | perform i =>
    unfold Timed.Current
    dsimp only
    split
    · infer_instance
    · infer_instance
  | tick => exact inferInstanceAs (Decidable True)
  | begin => exact inferInstanceAs (Decidable True)

end VibeLink.Automation
