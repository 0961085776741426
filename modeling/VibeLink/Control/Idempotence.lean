import VibeLink.Control.Store

/-! Retried commands. -/

namespace VibeLink.Control

open VibeLink.Relational Tx
open VibeLink.Coordinator (Json)

section Operations

variable {Hash : Type}

def Database.journal (s : Database Hash) : Table (@OperationRow.operationId Hash) × List EventRow :=
  (s.operations, s.runEvents)

instance respects_write_items {f : Database Hash → Table WorkItem.id} :
    Respects (Same Database.journal) (write fun s => { s with workItems := f s } : ControlResult Hash Unit) :=
  respects_write fun _ => rfl

instance respects_write_revisions {f : Database Hash → Table (Prod.fst : String × Int → String)} :
    Respects (Same Database.journal)
      (write fun s => { s with workspaceRevisions := f s } : ControlResult Hash Unit) :=
  respects_write fun _ => rfl

instance respects_putBrief (sessionId : String) (brief : Option Brief) :
    Respects (Same Database.journal) (write (·.putBrief sessionId brief) : ControlResult Hash Unit) := by
  refine respects_write fun s => ?_
  cases brief <;> rfl

instance respects_insertTask (task : Task) (position : Nat) :
    Respects (Same Database.journal) (insertTask task position : ControlResult Hash Unit) := by
  have : Respects (Same Database.journal) (tryWrite (·.insertItem task position)
      "UNIQUE constraint failed: work_items.id" : ControlResult Hash Unit) := by
    refine respects_tryWrite fun s s' written => ?_
    obtain ⟨workItems, _, rfl⟩ := Option.map_eq_some_iff.1 written
    rfl
  dsimp only [insertTask]
  infer_instance

instance respects_updateTask (task : Task) :
    Respects (Same Database.journal) (updateTask task : ControlResult Hash Unit) := by
  dsimp only [updateTask, Database.updateItem]
  infer_instance

instance respects_readTask (sessionId taskId : String) :
    Respects (Same Database.journal) (readTask sessionId taskId : ControlResult Hash Task) := by
  dsimp only [readTask]
  infer_instance

instance respects_placeTask (sessionId : String) (board : BoardDoc) (entry : String × Nat) :
    Respects (Same Database.journal) (placeTask sessionId board entry : ControlResult Hash Unit) := by
  rw [placeTask]
  split <;> infer_instance

instance respects_replaceBoard (sessionId : String) (board : BoardDoc) (expected : Option Nat) :
    Respects (Same Database.journal) (replaceBoard sessionId board expected : ControlResult Hash Unit) := by
  dsimp only [replaceBoard, Database.deleteItems, Database.setRevision]
  infer_instance

instance respects_executeMutation (env : Env) (command : ControlCommand) :
    Respects (Same Database.journal) (executeMutation env command : ControlResult Hash ControlResponse) := by
  cases command <;>
    dsimp only [executeMutation, Database.deleteItem, Database.closeGap, Database.bumpRevision,
      Database.setRevision] <;> infer_instance

theorem readOnly_executeRead (command : ControlCommand) :
    (executeRead command : ControlResult Hash ControlResponse).ReadOnly := by
  cases command <;> first | exact readOnly_gets _ | exact readOnly_fail _

end Operations

section Executed

variable {Hash : Type} [DecidableEq Hash] {platform : Platform Hash} {s s' : Database Hash} {call : Call}

/-- What a call comes to. -/
inductive Executed (platform : Platform Hash) (s : Database Hash) (call : Call) :
    Except String ControlResponse → Database Hash → Prop
  | failed (e : String) : Executed platform s call (.error e) s
  | replayed (row : OperationRow Hash) (stored : s.operations.find call.operationId = some row)
      (same : row.requestHash = platform.digest call.command.toJson) :
      Executed platform s call (.ok row.responseJson) s
  | answered (response : ControlResponse) (fresh : s.operations.find call.operationId = none)
      (reads : call.command.mutates = false) (read : executeRead call.command s = (.ok response, s)) :
      Executed platform s call (.ok response) s
  | applied (response : ControlResponse) (mutated : Database Hash) (operations)
      (valid : platform.isUuid call.command.sessionId) (fresh : s.operations.find call.operationId = none)
      (mutates : call.command.mutates)
      (mutation : executeMutation call.env call.command s = (.ok response, mutated))
      (recorded : s.operations.insert? ⟨call.operationId, platform.digest call.command.toJson, response⟩ =
        some operations) :
      Executed platform s call (.ok response) { mutated with
        operations
        runEvents := mutated.runEvents ++
          [⟨call.command.eventType, call.command.sessionId, call.operationId⟩] }

theorem execute_applied {response : ControlResponse} {mutated : Database Hash}
    (valid : platform.isUuid call.command.sessionId) (fresh : s.operations.find call.operationId = none)
    (mutates : call.command.mutates)
    (mutation : executeMutation call.env call.command s = (.ok response, mutated)) :
    ∃ operations, s.operations.insert? ⟨call.operationId, platform.digest call.command.toJson, response⟩ =
        some operations ∧
      execute platform call.env call.operationId call.command s = (.ok response, { mutated with
        operations
        runEvents := mutated.runEvents ++
          [⟨call.command.eventType, call.command.sessionId, call.operationId⟩] }) := by
  obtain ⟨operations, recorded⟩ := @Table.exists_insert _ _ _ _ s.operations
    ⟨call.operationId, platform.digest call.command.toJson, response⟩ fresh
  refine ⟨operations, recorded, ?_⟩
  have same := (respects_executeMutation call.env call.command).respects s
  rw [mutation] at same
  rw [← show mutated.operations = s.operations from congrArg Prod.fst same] at recorded
  simp only [execute, valid, fresh, mutates, Tx.require, Tx.gets, Bind.bind, if_true, atomically, mutation,
    recordOperation, Tx.tryWrite, Tx.write, recorded, Option.map_some, Pure.pure]

theorem executed (platform : Platform Hash) (s : Database Hash) (call : Call) :
    Executed platform s call (execute platform call.env call.operationId call.command s).1
      (next platform s call) := by
  rw [next]
  cases call with
  | mk env operationId command =>
  cases valid : platform.isUuid command.sessionId with
  | false =>
    simp only [execute, valid, Tx.require, Bind.bind]
    exact .failed _
  | true =>
    cases stored : s.operations.find operationId with
    | some row =>
      by_cases same : row.requestHash = platform.digest command.toJson
      · simp only [execute, valid, stored, same, Tx.require, Tx.gets, Bind.bind, if_true, Pure.pure]
        exact .replayed row stored same
      · simp only [execute, valid, stored, same, Tx.require, Tx.gets, Bind.bind, if_true, if_false]
        exact .failed _
    | none =>
      cases mutates : command.mutates with
      | false =>
        simp only [execute, valid, stored, mutates, Tx.require, Tx.gets, Bind.bind, if_true,
          Bool.false_eq_true, if_false]
        have same := readOnly_executeRead command s
        cases read : executeRead command s with
        | mk result s₁ =>
        rw [read] at same
        cases same
        cases result with
        | error e => exact .failed e
        | ok response => exact .answered response stored mutates read
      | true =>
        cases mutation : executeMutation env command s with
        | mk result mutated =>
        cases result with
        | error e =>
          simp only [execute, valid, stored, mutates, Tx.require, Tx.gets, Bind.bind, if_true, atomically,
            mutation]
          exact .failed e
        | ok response =>
          obtain ⟨operations, recorded, answer⟩ :=
            @execute_applied _ _ _ _ ⟨env, operationId, command⟩ _ _ valid stored mutates mutation
          rw [answer]
          exact .applied response mutated operations valid stored mutates mutation recorded

theorem next_operations (platform : Platform Hash) (s : Database Hash) (call : Call) {operationId : Uuid}
    {row : OperationRow Hash} (stored : s.operations.find operationId = some row) :
    (next platform s call).operations.find operationId = some row := by
  have executed := executed platform s call
  generalize (execute platform call.env call.operationId call.command s).1 = result at executed
  generalize next platform s call = s' at executed
  cases executed with
  | applied response mutated operations valid fresh mutates mutation recorded =>
    rw [Table.find_insert recorded, Function.update_of_ne, stored]
    intro same
    rw [same] at stored
    cases fresh.symm.trans stored
  | _ => exact stored

theorem run_operations (platform : Platform Hash) {operationId : Uuid} {calls : List Call}
    (unused : ∀ call ∈ calls, call.operationId ≠ operationId) :
    (run platform calls).operations.find operationId = none := by
  induction calls using List.reverseRecOn with
  | nil => rfl
  | append_singleton calls call ih =>
    have free := ih fun call member => unused call (List.mem_append_left _ member)
    have apart := unused call (List.mem_append_right _ List.mem_cons_self)
    rw [run_snoc]
    have executed := executed platform (run platform calls) call
    generalize (execute platform call.env call.operationId call.command (run platform calls)).1 = result at executed
    generalize next platform (run platform calls) call = s' at executed
    cases executed with
    | applied response mutated operations valid fresh mutates mutation recorded =>
      rw [Table.find_insert recorded, Function.update_of_ne (Ne.symm apart), free]
    | _ => exact free

theorem foldl_operations (platform : Platform Hash) {operationId : Uuid} {row : OperationRow Hash}
    (calls : List Call) (stored : s.operations.find operationId = some row) :
    (calls.foldl (next platform) s).operations.find operationId = some row := by
  induction calls generalizing s with
  | nil => exact stored
  | cons call calls ih => exact ih (next_operations platform s call stored)

theorem operation_stored {platform : Platform Hash} {response : ControlResponse}
    (mutates : call.command.mutates)
    (succeeded : (execute platform call.env call.operationId call.command s).1 = .ok response) :
    (next platform s call).operations.find call.operationId =
      some ⟨call.operationId, platform.digest call.command.toJson, response⟩ := by
  have executed := executed platform s call
  rw [succeeded] at executed
  generalize next platform s call = s' at executed
  cases executed with
  | replayed row stored same =>
    rw [stored, ← same, ← Table.key_of_find stored]
  | answered _ _ reads _ => cases mutates.symm.trans reads
  | applied response mutated operations valid fresh mutates mutation recorded =>
    exact Table.find_insert_self recorded

theorem execute_stored {platform : Platform Hash} (env : Env) {operationId : Uuid} {command : ControlCommand}
    {row : OperationRow Hash} (valid : platform.isUuid command.sessionId)
    (stored : s.operations.find operationId = some row) :
    execute platform env operationId command s =
      (if row.requestHash = platform.digest command.toJson then .ok row.responseJson
        else .error "operation id conflict", s) := by
  by_cases same : row.requestHash = platform.digest command.toJson <;>
    simp [execute, valid, stored, same, Tx.require, Tx.gets, Bind.bind, Pure.pure]

theorem valid_of_ok {platform : Platform Hash} {response : ControlResponse}
    (succeeded : (execute platform call.env call.operationId call.command s).1 = .ok response) :
    platform.isUuid call.command.sessionId := by
  cases valid : platform.isUuid call.command.sessionId with
  | true => rfl
  | false => simp [execute, valid, Tx.require, Bind.bind] at succeeded

end Executed

section Examples

def Platform.plain : Platform Json := ⟨id, fun _ => true⟩

def workspace : String := "8c9b2a56-9f0e-4e0b-8a55-6d4f3f1d2c11"

/-- A call that draws the id `task`. -/
def Call.plain (operationId : Uuid) (command : ControlCommand) : Call := ⟨⟨1, "", "task"⟩, operationId, command⟩

def createCall : Call := .plain 1 (.taskCreate workspace "title" none)

def createdTask : Task := createTask createCall.env workspace "title" none

/-- Two tasks, in the order in which a map iterates. -/
def pairBoard : BoardDoc where
  revision := 0
  tasks := .ofList [("a", { createdTask with id := "a" }), ("b", { createdTask with id := "b" })]
  taskOrder := ["a", "b"]
  brief := none

def writeCall : Call := .plain 1 (.boardWrite workspace pairBoard 0)

def leaveCall : Call := .plain 2 (.taskUpdate workspace "task" .default)

def clearCall : Call := .plain 2 (.taskUpdate workspace "task" { TaskPatch.default with assignedPaneId := some none })

end Examples

end VibeLink.Control
