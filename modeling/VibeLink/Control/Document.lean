import VibeLink.Coordinator.Store

/-! The board of a workspace, and the commands of `control_plane.rs` on it. -/

namespace VibeLink.Control

open VibeLink.Relational
open VibeLink.Coordinator (trim)

/-- A map as it was built: its rows stand in the order in which it iterates, which is arbitrary. -/
abbrev HashMap (κ α : Type) [DecidableEq κ] := Table (Prod.fst : κ × α → κ)

namespace HashMap

variable {κ α : Type} [DecidableEq κ]

def get (m : HashMap κ α) (k : κ) : Option α := (m.find k).map Prod.snd

def insert (m : HashMap κ α) (k : κ) (a : α) : HashMap κ α := m.put (k, a)

/-- `collect`, which keeps the last of the values of one key. -/
def ofList (entries : List (κ × α)) : HashMap κ α := entries.foldl Table.put .empty

instance decidableEq [DecidableEq α] : DecidableEq (HashMap κ α) :=
  fun m m' => decidable_of_iff (m.rows = m'.rows) ⟨Table.ext, congrArg Table.rows⟩

end HashMap

inductive TaskStatus
  | pending
  | assigned
  | inProgress
  | done
  deriving DecidableEq

structure Brief where
  purpose : String
  notes : String
  updatedAt : String
  deriving DecidableEq

structure Task where
  id : String
  sessionId : String
  title : String
  description : String
  status : TaskStatus
  statusTimestamps : HashMap TaskStatus Nat
  assignedPaneId : Option String
  assignedRole : Option String
  baselineRef : Option String
  worktreePath : Option String
  commitMessage : Option String
  resultSummary : Option String
  createdAt : Nat
  updatedAt : Nat
  deriving DecidableEq

structure BoardDoc where
  revision : Nat
  tasks : HashMap String Task
  taskOrder : List String
  brief : Option Brief
  deriving DecidableEq

/-- A field is left as it is by `none`, and cleared by `some none`. -/
structure TaskPatch where
  title : Option (Option String)
  description : Option (Option String)
  status : Option TaskStatus
  assignedPaneId : Option (Option String)
  assignedRole : Option (Option String)
  baselineRef : Option (Option String)
  worktreePath : Option (Option String)
  commitMessage : Option (Option String)
  resultSummary : Option (Option String)
  deriving DecidableEq

/-- `TaskPatch::default()` -/
def TaskPatch.default : TaskPatch := ⟨none, none, none, none, none, none, none, none, none⟩

inductive ControlCommand
  | boardRead (sessionId : String)
  | boardWrite (sessionId : String) (board : BoardDoc) (expectedRevision : Nat)
  | taskCreate (sessionId title : String) (description : Option String)
  | taskUpdate (sessionId taskId : String) (patch : TaskPatch)
  | taskDelete (sessionId taskId : String)
  | taskDone (sessionId taskId : String) (commitMsg resultSummary : Option String)
  | taskNote (sessionId taskId message : String)
  | briefGet (sessionId : String)
  | briefSet (sessionId purpose notes : String)
  deriving DecidableEq

namespace ControlCommand

def sessionId : ControlCommand → String
  | .boardRead sessionId
  | .boardWrite sessionId _ _
  | .taskCreate sessionId _ _
  | .taskUpdate sessionId _ _
  | .taskDelete sessionId _
  | .taskDone sessionId _ _ _
  | .taskNote sessionId _ _
  | .briefGet sessionId
  | .briefSet sessionId _ _ => sessionId

def eventType : ControlCommand → String
  | .boardRead _ | .briefGet _ => "control.read"
  | .boardWrite _ _ _ => "work_items.replaced"
  | .taskCreate _ _ _ => "work_item.created"
  | .taskUpdate _ _ _ => "work_item.updated"
  | .taskDelete _ _ => "work_item.deleted"
  | .taskDone _ _ _ _ => "work_item.completed"
  | .taskNote _ _ _ => "work_item.noted"
  | .briefSet _ _ _ => "workspace_brief.updated"

def mutates : ControlCommand → Bool
  | .boardRead _ | .briefGet _ => false
  | _ => true

end ControlCommand

inductive ControlResponse
  | board (doc : BoardDoc)
  | task (task : Task)
  | brief (brief : Option Brief)
  | ack
  deriving DecidableEq

/-- The clocks and the random id that a call sees. -/
structure Env where
  now : Nat
  rfc3339 : String
  drawn : String

def applyOptionalString (target : Option String) : Option (Option String) → Option String
  | some value => value.bind fun value => if trim value = "" then none else some (trim value)
  | none => target

/-- `apply_task_patch`, which fails when the title would be blank. -/
def Task.applyPatch (env : Env) (task : Task) (patch : TaskPatch) : Except String Task := do
  let title ← match patch.title with
    | some title =>
      if trim (title.getD "") = "" then .error "task title is required" else .ok (trim (title.getD ""))
    | none => .ok task.title
  let moved := patch.status.filter (· ≠ task.status)
  .ok { task with
    title
    description := match patch.description with
      | some description => description.getD ""
      | none => task.description
    status := moved.getD task.status
    statusTimestamps := match moved with
      | some status => task.statusTimestamps.insert status env.now
      | none => task.statusTimestamps
    assignedPaneId := applyOptionalString task.assignedPaneId patch.assignedPaneId
    assignedRole := applyOptionalString task.assignedRole patch.assignedRole
    baselineRef := applyOptionalString task.baselineRef patch.baselineRef
    worktreePath := applyOptionalString task.worktreePath patch.worktreePath
    commitMessage := applyOptionalString task.commitMessage patch.commitMessage
    resultSummary := applyOptionalString task.resultSummary patch.resultSummary
    updatedAt := env.now }

/-- The note joins the summary, and work that is not done is in progress. -/
def Task.note (env : Env) (task : Task) (note : String) : Task :=
  { task with
    resultSummary := some ("\n".intercalate
      ((task.resultSummary.toList ++ [note]).filter (· ≠ "")))
    status := if task.status ≠ .done then .inProgress else task.status
    statusTimestamps :=
      if task.status ≠ .done then task.statusTimestamps.insert .inProgress env.now else task.statusTimestamps
    updatedAt := env.now }

/-- The tasks that the order leaves out are put last, the oldest first. -/
def BoardDoc.normalize (board : BoardDoc) : BoardDoc :=
  let kept := board.taskOrder.filter fun id => (board.tasks.get id).isSome
  let missing := ((board.tasks.rows.map Prod.snd).filter fun task => task.id ∉ kept).map Task.id
  let created := fun id => ((board.tasks.get id).map Task.createdAt).getD 0
  { board with taskOrder := kept ++ orderBy (fun a b => created a ≤ created b) missing }

end VibeLink.Control
