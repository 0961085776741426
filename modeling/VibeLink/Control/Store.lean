import VibeLink.Control.Encoding
import VibeLink.Relational.Runs

/-! The database of the control plane and what its commands do there, each in one transaction. -/

namespace VibeLink.Control

open VibeLink.Relational Tx
open VibeLink.Coordinator (Json trim)

abbrev Uuid := BitVec 128

/-- A row of `work_items`. -/
structure WorkItem where
  id : String
  sessionId : String
  position : Nat
  /-- The JSON of the task stands here as the value that it is read back as. -/
  taskJson : Task

/-- A row of `operations`. -/
structure OperationRow (Hash : Type) where
  operationId : Uuid
  requestHash : Hash
  responseJson : ControlResponse

/-- A row of `run_events`. -/
structure EventRow where
  eventType : String
  sessionId : String
  operationId : Uuid

structure Database (Hash : Type) where
  /-- Revisions are stored as `i64`. -/
  workspaceRevisions : Table (Prod.fst : String × Int → String)
  workItems : Table WorkItem.id
  workspaceBriefs : Table (Prod.fst : String × Brief → String)
  operations : Table (@OperationRow.operationId Hash)
  runEvents : List EventRow

/-- SHA-256 of the text of a JSON document, and the UUID parser. -/
structure Platform (Hash : Type) where
  digest : Json → Hash
  isUuid : String → Bool

abbrev ControlResult (Hash : Type) := Tx (Database Hash) String

/-- `as i64` -/
def asI64 (n : Nat) : Int := Int.bmod n (2 ^ 64)

/-- `u64::saturating_add` -/
def saturatingAdd (m n : Nat) : Nat := min (m + n) (2 ^ 64 - 1)

namespace Database

variable {Hash : Type} (s : Database Hash)

def empty : Database Hash := ⟨.empty, .empty, .empty, .empty, []⟩

/-- `value.max(0) as u64` -/
def currentRevision (sessionId : String) : Nat :=
  (max (((s.workspaceRevisions.find sessionId).map Prod.snd).getD 0) 0).toNat

def setRevision (sessionId : String) (revision : Nat) : Database Hash :=
  { s with workspaceRevisions := s.workspaceRevisions.put (sessionId, asI64 revision) }

def bumpRevision (sessionId : String) : Database Hash :=
  s.setRevision sessionId (saturatingAdd (s.currentRevision sessionId) 1)

def items (sessionId : String) : List WorkItem := s.workItems.rows.filter (·.sessionId = sessionId)

/-- `ORDER BY position ASC` -/
def column (sessionId : String) : List WorkItem :=
  orderBy (fun a b => a.position ≤ b.position) (s.items sessionId)

def findTask (sessionId taskId : String) : Option WorkItem :=
  (s.workItems.find taskId).filter (·.sessionId = sessionId)

def readBrief (sessionId : String) : Option Brief := (s.workspaceBriefs.find sessionId).map Prod.snd

def putBrief (sessionId : String) : Option Brief → Database Hash
  | some brief => { s with workspaceBriefs := s.workspaceBriefs.put (sessionId, brief) }
  | none => { s with workspaceBriefs := s.workspaceBriefs.erase sessionId }

def readBoard (sessionId : String) : BoardDoc :=
  let tasks := (s.column sessionId).map WorkItem.taskJson
  { revision := s.currentRevision sessionId
    tasks := .ofList (tasks.map fun task => (task.id, task))
    taskOrder := tasks.map Task.id
    brief := s.readBrief sessionId }

/-- `COALESCE(MAX(position), -1) + 1` -/
def nextPosition (sessionId : String) : Nat :=
  match ((s.items sessionId).map WorkItem.position).max? with
  | some position => position + 1
  | none => 0

def insertItem (task : Task) (position : Nat) : Option (Database Hash) :=
  (s.workItems.insert? ⟨task.id, task.sessionId, position, task⟩).map fun workItems => { s with workItems }

/-- `UPDATE … SET task_json`; the columns that repeat parts of the task are read by nobody. -/
def updateItem (task : Task) : Database Hash :=
  { s with
    workItems := s.workItems.update (fun item => item.sessionId = task.sessionId && item.id = task.id)
      (fun item => { item with taskJson := task }) }

def deleteItems (sessionId : String) : Database Hash :=
  { s with workItems := s.workItems.retain (·.sessionId ≠ sessionId) }

def deleteItem (sessionId taskId : String) : Database Hash :=
  { s with workItems := s.workItems.retain fun item => ¬(item.sessionId = sessionId ∧ item.id = taskId) }

/-- The index on session and position gives the rows in ascending order, and each takes a place that is free
by then. -/
def closeGap (sessionId : String) (position : Nat) : Database Hash :=
  { s with
    workItems := s.workItems.update (fun item => item.sessionId = sessionId && position < item.position)
      (fun item => { item with position := item.position - 1 }) }

end Database

section Transactions

variable {Hash : Type}

/-- `UNIQUE(session_id, position)` stands next to the primary key. -/
def insertTask (task : Task) (position : Nat) : ControlResult Hash Unit := do
  let items ← gets (·.items task.sessionId)
  tryWrite (·.insertItem task position) "UNIQUE constraint failed: work_items.id"
  require (∀ item ∈ items, item.position ≠ position)
    "UNIQUE constraint failed: work_items.session_id, work_items.position"

def updateTask (task : Task) : ControlResult Hash Unit := do
  let found ← gets (·.findTask task.sessionId task.id)
  write (·.updateItem task)
  require found.isSome s!"task not found: {task.id}"

def readTask (sessionId taskId : String) : ControlResult Hash Task := do
  let item ← expect (·.findTask sessionId taskId) s!"task not found: {taskId}"
  pure item.taskJson

/-- One round of the loop of `replace_board`. -/
def placeTask (sessionId : String) (board : BoardDoc) (entry : String × Nat) : ControlResult Hash Unit :=
  match board.tasks.get entry.1 with
  | some task => do
    require (task.sessionId = sessionId) "task session does not match board session"
    insertTask task entry.2
  | none => fail s!"board order references missing task: {entry.1}"

def replaceBoard (sessionId : String) (board : BoardDoc) (expectedRevision : Option Nat) :
    ControlResult Hash Unit := do
  let revision ← gets (·.currentRevision sessionId)
  require (∀ expected ∈ expectedRevision, expected = revision)
    s!"stale board revision: expected {expectedRevision.getD 0}, current {revision}"
  write (·.deleteItems sessionId)
  let _ ← Tx.traverse (placeTask sessionId board) board.taskOrder.zipIdx
  write (·.putBrief sessionId board.brief)
  write (·.setRevision sessionId (saturatingAdd revision 1))

def executeRead : ControlCommand → ControlResult Hash ControlResponse
  | .boardRead sessionId => gets fun s => .board (s.readBoard sessionId)
  | .briefGet sessionId => gets fun s => .brief (s.readBrief sessionId)
  | _ => fail "mutation command cannot execute through read path"

def createTask (env : Env) (sessionId title : String) (description : Option String) : Task where
  id := env.drawn
  sessionId
  title := trim title
  description := description.getD ""
  status := .pending
  statusTimestamps := .ofList [(.pending, env.now)]
  assignedPaneId := none
  assignedRole := none
  baselineRef := none
  worktreePath := none
  commitMessage := none
  resultSummary := none
  createdAt := env.now
  updatedAt := env.now

def executeMutation (env : Env) : ControlCommand → ControlResult Hash ControlResponse
  | .boardWrite sessionId board expectedRevision => do
    replaceBoard sessionId board.normalize (some expectedRevision)
    pure .ack
  | .taskCreate sessionId title description => do
    require (trim title ≠ "") "task title is required"
    let task := createTask env sessionId title description
    let position ← gets (·.nextPosition sessionId)
    insertTask task position
    write (·.bumpRevision sessionId)
    pure (.task task)
  | .taskUpdate sessionId taskId patch => do
    let task ← readTask sessionId taskId
    let task ← ofExcept (task.applyPatch env patch)
    updateTask task
    write (·.bumpRevision sessionId)
    pure (.task task)
  | .taskDelete sessionId taskId => do
    let item ← expect (·.findTask sessionId taskId) s!"task not found: {taskId}"
    write (·.deleteItem sessionId taskId)
    write (·.closeGap sessionId item.position)
    write (·.bumpRevision sessionId)
    pure .ack
  | .taskDone sessionId taskId commitMsg resultSummary => do
    let task ← readTask sessionId taskId
    let task ← ofExcept (task.applyPatch env { TaskPatch.default with
      status := some .done
      commitMessage := commitMsg.map some
      resultSummary := resultSummary.map some })
    updateTask task
    write (·.bumpRevision sessionId)
    pure (.task task)
  | .taskNote sessionId taskId message => do
    require (trim message ≠ "") "task note is required"
    let task ← readTask sessionId taskId
    updateTask (task.note env (trim message))
    write (·.bumpRevision sessionId)
    pure (.task (task.note env (trim message)))
  | .briefSet sessionId purpose notes => do
    let brief : Brief := ⟨trim purpose, trim notes, env.rfc3339⟩
    write (·.putBrief sessionId (some brief))
    write (·.bumpRevision sessionId)
    pure (.brief (some brief))
  | .boardRead _ | .briefGet _ => fail "read command cannot execute through mutation path"

variable [DecidableEq Hash] (platform : Platform Hash)

/-- What a mutation writes down to be known again by its operation id. -/
def recordOperation (operationId : Uuid) (command : ControlCommand) (response : ControlResponse) :
    ControlResult Hash Unit := do
  tryWrite (fun s => (s.operations.insert? ⟨operationId, platform.digest command.toJson, response⟩).map
    fun operations => { s with operations }) "UNIQUE constraint failed: operations.operation_id"
  write fun s => { s with runEvents := s.runEvents ++ [⟨command.eventType, command.sessionId, operationId⟩] }

def execute (env : Env) (operationId : Uuid) (command : ControlCommand) : ControlResult Hash ControlResponse := do
  require (platform.isUuid command.sessionId) "invalid control-plane session id"
  match ← gets (·.operations.find operationId) with
  | some operation => do
    require (operation.requestHash = platform.digest command.toJson) "operation id conflict"
    pure operation.responseJson
  | none =>
    if command.mutates then
      atomically do
        let response ← executeMutation env command
        recordOperation platform operationId command response
        pure response
    else executeRead command

end Transactions

structure Call where
  env : Env
  operationId : Uuid
  command : ControlCommand

section Runs

variable {Hash : Type} [DecidableEq Hash] (platform : Platform Hash)

def next (s : Database Hash) (call : Call) : Database Hash :=
  (execute platform call.env call.operationId call.command s).2

def run (calls : List Call) : Database Hash := calls.foldl (next platform) .empty

theorem run_snoc (calls : List Call) (call : Call) :
    run platform (calls ++ [call]) = next platform (run platform calls) call := by
  simp [run]

end Runs

end VibeLink.Control
