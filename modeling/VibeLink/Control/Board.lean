import VibeLink.Control.Idempotence
import VibeLink.Relational.Arranged

/-! The board of a workspace: its rows in `work_items` and the document that is read from them. -/

namespace VibeLink.Control

open VibeLink.Relational Tx
open VibeLink.Coordinator (trim)

variable {Hash : Type} {s s' : Database Hash} {sessionId i taskId : String} {task : Task} {position : Nat}

section Views

/-- What `set_revision` stores after a revision, as it is read back. -/
def bumped (revision : Nat) : Nat := (max (asI64 (saturatingAdd revision 1)) 0).toNat

theorem toNat_bmod_saturated {top : Nat} (h : 0 < top) (n : Nat) :
    (max (Int.bmod (min (n + 1) (2 * top - 1) : Nat) (2 * top)) 0).toNat = if n + 1 < top then n + 1 else 0 := by
  rw [Int.bmod_def, Int.emod_eq_of_lt (by omega) (by omega)]
  split <;> split <;> omega

theorem toNat_asI64 {top : Nat} (pos : 0 < top) (size : (2 : Nat) ^ 64 = 2 * top) (revision : Nat) :
    bumped revision = if revision + 1 < top then revision + 1 else 0 := by
  unfold bumped asI64 saturatingAdd
  rw [size]
  have wrapped := toNat_bmod_saturated pos revision
  clear size
  exact wrapped

theorem u64_eq_two_i64 : (2 : Nat) ^ 64 = 2 * 2 ^ 63 := by norm_num

theorem i64_pos : 0 < (2 : Nat) ^ 63 := by norm_num

/-- The greatest `i64` is followed by what reads as zero. -/
theorem bumped_eq (revision : Nat) : bumped revision = if revision + 1 < 2 ^ 63 then revision + 1 else 0 :=
  toNat_asI64 i64_pos u64_eq_two_i64 revision

theorem currentRevision_setRevision (revision : Nat) : (s.setRevision sessionId revision).currentRevision i =
    if i = sessionId then (max (asI64 revision) 0).toNat else s.currentRevision i := by
  have found : (s.setRevision sessionId revision).workspaceRevisions.find =
      Function.update s.workspaceRevisions.find sessionId (some (sessionId, asI64 revision)) :=
    Table.find_put _ _
  rw [Database.currentRevision, found, Function.update_apply]
  split
  · rw [Option.map_some, Option.getD_some]
  · rw [Database.currentRevision]

theorem currentRevision_bumpRevision : (s.bumpRevision sessionId).currentRevision i =
    if i = sessionId then bumped (s.currentRevision i) else s.currentRevision i := by
  rw [Database.bumpRevision, currentRevision_setRevision]
  split
  · rename_i here
    rw [here]
    rfl
  · rfl

theorem currentRevision_putBrief (brief : Option Brief) :
    (s.putBrief sessionId brief).currentRevision i = s.currentRevision i := by
  cases brief <;> rfl

theorem items_putBrief (brief : Option Brief) : (s.putBrief sessionId brief).items i = s.items i := by
  cases brief <;> rfl

theorem readBrief_putBrief (brief : Option Brief) :
    (s.putBrief sessionId brief).readBrief i = if i = sessionId then brief else s.readBrief i := by
  cases brief with
  | some brief =>
    simp only [Database.readBrief, Database.putBrief, Table.find_put, Function.update_apply]
    split <;> rfl
  | none =>
    simp only [Database.readBrief, Database.putBrief, Table.find_erase, Function.update_apply]
    split <;> rfl

theorem mem_items {item : WorkItem} : item ∈ s.items i ↔ item ∈ s.workItems.rows ∧ item.sessionId = i := by
  simp [Database.items]

theorem items_insertItem (h : s.insertItem task position = some s') : s'.items i =
    s.items i ++ if task.sessionId = i then [⟨task.id, task.sessionId, position, task⟩] else [] := by
  obtain ⟨workItems, inserted, rfl⟩ := Option.map_eq_some_iff.1 h
  simp only [Database.items, (Table.insert?_eq_some.1 inserted).2, List.filter_append, List.filter_cons,
    List.filter_nil, decide_eq_true_eq]

theorem items_map {f : WorkItem → WorkItem} (same : ∀ item, (f item).sessionId = item.sessionId)
    (rows : s'.workItems.rows = s.workItems.rows.map f) : s'.items i = (s.items i).map f := by
  rw [Database.items, rows, Database.items, List.filter_map]
  congr 2
  funext item
  simp [same]

theorem items_deleteItems : (s.deleteItems sessionId).items i = if i = sessionId then [] else s.items i := by
  simp only [Database.items, Database.deleteItems, Table.retain, List.filter_filter]
  split
  · rename_i here
    simp [here]
  · rename_i elsewhere
    congr 1
    funext item
    by_cases here : item.sessionId = i <;> simp [here, elsewhere]

theorem items_deleteItem : (s.deleteItem sessionId taskId).items i =
    (s.items i).filter fun item => ¬(item.sessionId = sessionId ∧ item.id = taskId) := by
  simp only [Database.items, Database.deleteItem, Table.retain, List.filter_filter]
  congr 1
  funext item
  exact Bool.and_comm _ _

end Views

section Mutations

theorem wlp_insertTask : (insertTask task position).wlp (fun _ s' => s.insertItem task position = some s') s := by
  simp only [insertTask, wlp_bind, wlp_gets, wlp_tryWrite, wlp_require]
  intro s' inserted _
  exact inserted

theorem wlp_updateTask : (updateTask task).wlp
    (fun _ s' => s' = s.updateItem task ∧ (s.findTask task.sessionId task.id).isSome) s := by
  simp only [updateTask, wlp_bind, wlp_gets, wlp_write, wlp_require]
  intro found
  exact ⟨trivial, found⟩

theorem wlp_readTask : (readTask sessionId taskId).wlp
    (fun task s' => s' = s ∧ ∃ item, s.findTask sessionId taskId = some item ∧ item.taskJson = task) s := by
  simp only [readTask, wlp_bind, wlp_expect, wlp_pure]
  intro item found
  exact ⟨trivial, item, found, rfl⟩

theorem findTask_eq_some {item : WorkItem} : s.findTask sessionId taskId = some item ↔
    item ∈ s.items sessionId ∧ item.id = taskId := by
  rw [Database.findTask, Option.filter_eq_some_iff, Table.find_eq_some, mem_items, decide_eq_true_eq]
  tauto

theorem applyPatch_same {env : Env} {patch : TaskPatch} {task' : Task}
    (h : task.applyPatch env patch = .ok task') : task'.id = task.id ∧ task'.sessionId = task.sessionId := by
  simp only [Task.applyPatch, Bind.bind, Except.bind] at h
  split at h
  · split at h
    · cases h
    · cases h
      exact ⟨rfl, rfl⟩
  · cases h
    exact ⟨rfl, rfl⟩

/-- The row that a place in the order of a board gets. -/
def BoardDoc.item (sessionId : String) (board : BoardDoc) (entry : String × Nat) : Option WorkItem :=
  (board.tasks.get entry.1).map fun task => ⟨task.id, sessionId, entry.2, task⟩

/-- What a replaced board comes to. -/
structure Replaced (s : Database Hash) (sessionId : String) (board : BoardDoc) (s' : Database Hash) : Prop where
  present : ∀ id ∈ board.taskOrder, ∃ task, board.tasks.get id = some task ∧ task.sessionId = sessionId
  items : s'.items sessionId = board.taskOrder.zipIdx.filterMap (board.item sessionId)
  elsewhere : ∀ i, i ≠ sessionId → s'.items i = s.items i
  brief : ∀ i, s'.readBrief i = if i = sessionId then board.brief else s.readBrief i
  revision : ∀ i, s'.currentRevision i = if i = sessionId then bumped (s.currentRevision i) else s.currentRevision i

/-- The rows of the workspace while its board is written. -/
structure Placed (s : Database Hash) (sessionId : String) (board : BoardDoc) (entries : List (String × Nat))
    (s' : Database Hash) : Prop where
  present : ∀ entry ∈ entries, ∃ task, board.tasks.get entry.1 = some task ∧ task.sessionId = sessionId
  items : s'.items sessionId = entries.filterMap (board.item sessionId)
  elsewhere : ∀ i, i ≠ sessionId → s'.items i = s.items i
  briefs : s'.workspaceBriefs = s.workspaceBriefs
  revisions : s'.workspaceRevisions = s.workspaceRevisions

theorem Placed.place {board : BoardDoc} {entries : List (String × Nat)} (placed : Placed s sessionId board entries s')
    (entry : String × Nat) : (placeTask sessionId board entry).wlp
      (fun _ s' => Placed s sessionId board (entries ++ [entry]) s') s' := by
  rw [placeTask]
  cases here : board.tasks.get entry.1 with
  | none => simp only [wlp_fail]
  | some task =>
    simp only [wlp_bind, wlp_require]
    rintro rfl
    refine wlp_mono wlp_insertTask fun _ s₂ inserted => ?_
    have items (i : String) := items_insertItem (i := i) inserted
    obtain ⟨workItems, _, rfl⟩ := Option.map_eq_some_iff.1 inserted
    refine ⟨fun other member => ?_, ?_, fun i elsewhere => ?_, placed.briefs, placed.revisions⟩
    · obtain member | rfl := List.mem_append.1 member |>.imp id List.mem_singleton.1
      · exact placed.present other member
      · exact ⟨task, here, rfl⟩
    · rw [items, if_pos rfl, placed.items, List.filterMap_append, List.filterMap_cons]
      simp [BoardDoc.item, here]
    · rw [items, if_neg (Ne.symm elsewhere), List.append_nil, placed.elsewhere i elsewhere]

theorem wlp_replaceBoard (board : BoardDoc) (expected : Option Nat) :
    (replaceBoard sessionId board expected).wlp
      (fun _ s' => (∀ revision ∈ expected, revision = s.currentRevision sessionId) ∧
        Replaced s sessionId board s') s := by
  simp only [replaceBoard, wlp_bind, wlp_gets, wlp_require, wlp_write]
  intro current
  have start : Placed s sessionId board [] (s.deleteItems sessionId) := by
    refine ⟨fun _ member => absurd member List.not_mem_nil, ?_, fun i elsewhere => ?_, rfl, rfl⟩
    · rw [items_deleteItems, if_pos rfl]
      rfl
    · rw [items_deleteItems, if_neg elsewhere]
  refine wlp_mono (wlp_traverse (I := fun pre _ s' => Placed s sessionId board pre s') start
    fun pre entry post _ _ s₁ placed => placed.place entry) fun _ s₁ placed => ?_
  refine ⟨current, ?_, ?_, fun i elsewhere => ?_, fun i => ?_, fun i => ?_⟩
  · intro id member
    obtain ⟨position, member⟩ := List.mem_iff_getElem?.1 member
    exact placed.present (id, position) (List.mem_zipIdx_iff_getElem?.2 member)
  · exact (items_putBrief _).trans placed.items
  · exact (items_putBrief _).trans (placed.elsewhere i elsewhere)
  · have briefs := @readBrief_putBrief _ s₁ sessionId i board.brief
    rwa [Database.readBrief.eq_def s₁, placed.briefs] at briefs
  · have revisions : s₁.currentRevision = s.currentRevision := by
      funext i
      rw [Database.currentRevision, placed.revisions, Database.currentRevision]
    rw [currentRevision_setRevision, currentRevision_putBrief, revisions]
    split
    · rename_i here
      rw [here, bumped]
    · rfl

end Mutations

section Columns

variable {rows : List WorkItem}

/-- The rows of a workspace: their places are `0` to `n - 1`, and each is the row of its task. -/
structure Column (sessionId : String) (rows : List WorkItem) : Prop where
  arranged : Arranged WorkItem.position rows
  coherent : ∀ item ∈ rows, item.sessionId = sessionId ∧ item.taskJson.id = item.id ∧
    item.taskJson.sessionId = sessionId

theorem Column.nil : Column sessionId [] := ⟨arranged_nil, fun _ member => absurd member List.not_mem_nil⟩

theorem Column.append (column : Column sessionId rows) (here : task.sessionId = sessionId) :
    Column sessionId (rows ++ [⟨task.id, task.sessionId, rows.length, task⟩]) := by
  refine ⟨column.arranged.append rfl, fun item member => ?_⟩
  obtain member | same := List.mem_append.1 member
  · exact column.coherent item member
  · rw [List.mem_singleton.1 same]
    exact ⟨here, rfl, here⟩

theorem Column.update (column : Column sessionId rows) (here : task.sessionId = sessionId) :
    Column sessionId (rows.map fun item =>
      if item.sessionId = task.sessionId && item.id = task.id then { item with taskJson := task } else item) := by
  refine ⟨column.arranged.map fun item _ => ?_, fun item member => ?_⟩
  · split <;> rfl
  · obtain ⟨old, here', rfl⟩ := List.mem_map.1 member
    have coherent := column.coherent old here'
    split
    · rename_i same
      rw [Bool.and_eq_true, decide_eq_true_eq, decide_eq_true_eq] at same
      exact ⟨coherent.1, same.2.symm, here⟩
    · exact coherent

theorem Column.close (column : Column sessionId rows) {item : WorkItem} (here : item ∈ rows)
    (nodup : (rows.map WorkItem.id).Nodup) :
    Column sessionId ((rows.filter fun other => ¬(other.sessionId = sessionId ∧ other.id = item.id)).map
      fun other => if other.sessionId = sessionId && item.position < other.position
        then { other with position := other.position - 1 } else other) := by
  have perm : rows.Perm (item :: rows.filter fun other => ¬(other.sessionId = sessionId ∧ other.id = item.id)) := by
    have apart : item ∉ rows.filter fun other => ¬(other.sessionId = sessionId ∧ other.id = item.id) := by
      simp [(column.coherent item here).1]
    rw [List.perm_ext_iff_of_nodup nodup.of_map (List.nodup_cons.2 ⟨apart, nodup.of_map.filter _⟩)]
    intro other
    rw [List.mem_cons, List.mem_filter, decide_eq_true_eq]
    constructor
    · intro member
      by_cases same : other.id = item.id
      · exact .inl (List.inj_on_of_nodup_map nodup member here same)
      · exact .inr ⟨member, fun both => same both.2⟩
    · rintro (rfl | ⟨member, _⟩)
      · exact here
      · exact member
  constructor
  · refine (column.arranged.perm perm.symm).close fun other member => ?_
    have sessionId := (column.coherent other (List.mem_of_mem_filter member)).1
    by_cases after : item.position < other.position <;> simp [sessionId, after]
  · intro other member
    obtain ⟨old, kept, rfl⟩ := List.mem_map.1 member
    have coherent := column.coherent old (List.mem_of_mem_filter kept)
    split <;> exact coherent

variable {board : BoardDoc}

theorem positions_placed (present : ∀ id ∈ board.taskOrder,
      ∃ task, board.tasks.get id = some task ∧ task.sessionId = sessionId) :
    (board.taskOrder.zipIdx.filterMap (board.item sessionId)).map WorkItem.position =
      List.range board.taskOrder.length := by
  have places := @map_filterMap_of_forall _ _ _ (board.item sessionId) WorkItem.position Prod.snd
    board.taskOrder.zipIdx fun entry member => by
      obtain ⟨task, here, _⟩ := present entry.1 (List.fst_mem_of_mem_zipIdx member)
      exact ⟨_, by rw [BoardDoc.item, here, Option.map_some], rfl⟩
  rw [places, List.zipIdx_map_snd, List.range_eq_range']

theorem Column.placed (present : ∀ id ∈ board.taskOrder,
      ∃ task, board.tasks.get id = some task ∧ task.sessionId = sessionId) :
    Column sessionId (board.taskOrder.zipIdx.filterMap (board.item sessionId)) := by
  have positions := positions_placed present
  constructor
  · apply arranged_of_map_eq
    rw [positions, ← congrArg List.length positions |>.trans List.length_range, List.length_map]
  · intro item member
    obtain ⟨entry, member, placed⟩ := List.mem_filterMap.1 member
    obtain ⟨task, here, sessionId⟩ := present entry.1 (List.fst_mem_of_mem_zipIdx member)
    rw [BoardDoc.item, here, Option.map_some] at placed
    cases placed
    exact ⟨rfl, rfl, sessionId⟩

end Columns

section Soundness

def Sound (s : Database Hash) : Prop := ∀ i, Column i (s.items i)

/-- What a mutation does to its workspace, and to no other. -/
structure Mutated (s : Database Hash) (sessionId : String) (s' : Database Hash) : Prop where
  column : Column sessionId (s'.items sessionId)
  items : ∀ i, i ≠ sessionId → s'.items i = s.items i
  briefs : ∀ i, i ≠ sessionId → s'.readBrief i = s.readBrief i
  revision : ∀ i, s'.currentRevision i = if i = sessionId then bumped (s.currentRevision i) else s.currentRevision i

theorem Mutated.sound (mutated : Mutated s sessionId s') (sound : Sound s) : Sound s' := by
  intro i
  by_cases here : i = sessionId
  · rw [here]
    exact mutated.column
  · rw [mutated.items i here]
    exact sound i

theorem Mutated.bump (column : Column sessionId (s'.items sessionId))
    (items : ∀ i, i ≠ sessionId → s'.items i = s.items i) (briefs : ∀ i, i ≠ sessionId → s'.readBrief i = s.readBrief i)
    (revisions : s'.workspaceRevisions = s.workspaceRevisions) : Mutated s sessionId (s'.bumpRevision sessionId) := by
  refine ⟨column, items, briefs, fun i => ?_⟩
  rw [currentRevision_bumpRevision, Database.currentRevision, revisions, Database.currentRevision]

theorem nextPosition_eq (column : Column sessionId (s.items sessionId)) :
    s.nextPosition sessionId = (s.items sessionId).length := by
  rw [Database.nextPosition, ← column.arranged.next]
  cases ((s.items sessionId).map WorkItem.position).max? <;> rfl

theorem nodup_items : ((s.items i).map WorkItem.id).Nodup := s.workItems.nodup_keys_filter _

theorem wlp_updateTask_bump {old : Task} (sound : Sound s) (read : ∃ item, s.findTask sessionId taskId = some item ∧
      item.taskJson = old) (same : task.id = old.id ∧ task.sessionId = old.sessionId) (response : ControlResponse) :
    (do
      updateTask task
      write (·.bumpRevision sessionId)
      pure response : ControlResult Hash ControlResponse).wlp (fun _ s' => Mutated s sessionId s') s := by
  obtain ⟨item, found, rfl⟩ := read
  rw [findTask_eq_some] at found
  have here : task.sessionId = sessionId := same.2.trans ((sound sessionId).coherent item found.1).2.2
  simp only [wlp_bind, wlp_write, wlp_pure]
  refine wlp_mono wlp_updateTask fun _ s' h => ?_
  obtain ⟨rfl, _⟩ := h
  have items (i : String) := @items_map _ s (s.updateItem task) i (fun item =>
    if item.sessionId = task.sessionId && item.id = task.id then { item with taskJson := task } else item)
    (fun item => by split <;> rfl) rfl
  refine Mutated.bump ?_ (fun i elsewhere => ?_) (fun i _ => rfl) rfl
  · rw [items]
    exact (sound sessionId).update here
  · rw [items]
    refine (List.map_congr_left (g := id) fun item member => if_neg ?_).trans (List.map_id _)
    rw [(mem_items.1 member).2, here]
    simp [elsewhere]

theorem executeMutation_spec (sound : Sound s) (env : Env) (command : ControlCommand) :
    (executeMutation env command).wlp (fun _ s' => Mutated s command.sessionId s') s := by
  cases command with
  | boardRead sessionId => simp only [executeMutation, wlp_fail]
  | briefGet sessionId => simp only [executeMutation, wlp_fail]
  | boardWrite sessionId board expected =>
    simp only [executeMutation, ControlCommand.sessionId, wlp_bind, wlp_pure]
    refine wlp_mono (wlp_replaceBoard _ _) fun _ s' h => ?_
    obtain ⟨_, replaced⟩ := h
    refine ⟨?_, replaced.elsewhere, fun i elsewhere => ?_, replaced.revision⟩
    · rw [replaced.items]
      exact Column.placed replaced.present
    · rw [replaced.brief, if_neg elsewhere]
  | taskCreate sessionId title description =>
    simp only [executeMutation, ControlCommand.sessionId, wlp_bind, wlp_require, wlp_gets, wlp_write, wlp_pure]
    intro _
    refine wlp_mono wlp_insertTask fun _ s' inserted => ?_
    have here : (createTask env sessionId title description).sessionId = sessionId := rfl
    have items (i : String) := items_insertItem (i := i) inserted
    obtain ⟨workItems, _, rfl⟩ := Option.map_eq_some_iff.1 inserted
    refine Mutated.bump ?_ (fun i elsewhere => ?_) (fun i _ => rfl) rfl
    · rw [items, if_pos here, nextPosition_eq (sound sessionId)]
      exact (sound sessionId).append here
    · rw [items, if_neg (here.trans_ne (Ne.symm elsewhere)), List.append_nil]
  | taskUpdate sessionId taskId patch =>
    dsimp only [executeMutation, ControlCommand.sessionId]
    rw [wlp_bind]
    refine wlp_mono wlp_readTask fun old s' h => ?_
    obtain ⟨rfl, read⟩ := h
    rw [wlp_bind, wlp_ofExcept]
    intro task patched
    exact wlp_updateTask_bump sound read (applyPatch_same patched) _
  | taskDone sessionId taskId commitMsg resultSummary =>
    dsimp only [executeMutation, ControlCommand.sessionId]
    rw [wlp_bind]
    refine wlp_mono wlp_readTask fun old s' h => ?_
    obtain ⟨rfl, read⟩ := h
    rw [wlp_bind, wlp_ofExcept]
    intro task patched
    exact wlp_updateTask_bump sound read (applyPatch_same patched) _
  | taskNote sessionId taskId message =>
    dsimp only [executeMutation, ControlCommand.sessionId]
    rw [wlp_bind, wlp_require]
    intro _
    rw [wlp_bind]
    refine wlp_mono wlp_readTask fun old s' h => ?_
    obtain ⟨rfl, read⟩ := h
    exact wlp_updateTask_bump sound read
      (show (old.note env (trim message)).id = old.id ∧ _ = old.sessionId from ⟨rfl, rfl⟩) _
  | taskDelete sessionId taskId =>
    simp only [executeMutation, ControlCommand.sessionId, wlp_bind, wlp_expect, wlp_write, wlp_pure]
    intro item found
    obtain ⟨here, rfl⟩ := findTask_eq_some.1 found
    have items (i : String) := @items_map _ (s.deleteItem sessionId item.id)
      ((s.deleteItem sessionId item.id).closeGap sessionId item.position) i (fun other =>
        if other.sessionId = sessionId && item.position < other.position
          then { other with position := other.position - 1 } else other)
      (fun other => by split <;> rfl) rfl
    refine Mutated.bump ?_ (fun i elsewhere => ?_) (fun i _ => rfl) rfl
    · rw [items, items_deleteItem]
      exact (sound sessionId).close here nodup_items
    · have kept : (s.items i).filter (fun other => ¬(other.sessionId = sessionId ∧ other.id = item.id)) =
          s.items i := by
        rw [List.filter_eq_self]
        intro other member
        simp [(mem_items.1 member).2, elsewhere]
      rw [items, items_deleteItem, kept]
      refine (List.map_congr_left (g := id) fun other member => if_neg ?_).trans (List.map_id _)
      simp [(mem_items.1 member).2, elsewhere]
  | briefSet sessionId purpose notes =>
    simp only [executeMutation, ControlCommand.sessionId, wlp_bind, wlp_write, wlp_pure]
    exact Mutated.bump (sound sessionId) (fun i _ => rfl)
      (fun i elsewhere => (readBrief_putBrief _).trans (if_neg elsewhere)) rfl

variable [DecidableEq Hash] {platform : Platform Hash}

theorem next_mutated (sound : Sound s) (call : Call) :
    ((next platform s call).items = s.items ∧ (next platform s call).readBrief = s.readBrief ∧
      (next platform s call).currentRevision = s.currentRevision) ∨
    s.operations.find call.operationId = none ∧ call.command.mutates ∧
      Mutated s call.command.sessionId (next platform s call) := by
  have executed := executed platform s call
  generalize (execute platform call.env call.operationId call.command s).1 = result at executed
  generalize next platform s call = s' at executed
  cases executed with
  | applied response mutated operations valid fresh mutates mutation recorded =>
    have spec := executeMutation_spec sound call.env call.command _ _ mutation
    exact .inr ⟨fresh, mutates, spec.column, spec.items, spec.briefs, spec.revision⟩
  | _ => exact .inl ⟨rfl, rfl, rfl⟩

theorem mutated_of_ok (sound : Sound s) {call : Call} {response : ControlResponse} (mutates : call.command.mutates)
    (fresh : s.operations.find call.operationId = none)
    (succeeded : (execute platform call.env call.operationId call.command s).1 = .ok response) :
    Mutated s call.command.sessionId (next platform s call) := by
  have executed := executed platform s call
  rw [succeeded] at executed
  generalize next platform s call = s' at executed
  cases executed with
  | replayed row stored same => cases fresh.symm.trans stored
  | answered _ _ reads _ => cases mutates.symm.trans reads
  | applied response mutated operations valid fresh mutates mutation recorded =>
    have spec := executeMutation_spec sound call.env call.command _ _ mutation
    exact ⟨spec.column, spec.items, spec.briefs, spec.revision⟩

theorem next_sound (sound : Sound s) (call : Call) : Sound (next platform s call) := by
  obtain same | mutated := next_mutated sound call
  · intro i
    rw [same.1]
    exact sound i
  · exact mutated.2.2.sound sound

theorem run_sound (calls : List Call) : Sound (run platform calls) := by
  induction calls using List.reverseRecOn with
  | nil => exact fun i => .nil
  | append_singleton calls call ih =>
    rw [run_snoc]
    exact next_sound ih call

end Soundness

end VibeLink.Control
