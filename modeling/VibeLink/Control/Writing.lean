import VibeLink.Control.Board

/-! A board that is written and read back. -/

namespace VibeLink.Control

open VibeLink.Relational Tx
open VibeLink.Coordinator (Json)

section Normalized

variable {board : BoardDoc}

def BoardDoc.column (board : BoardDoc) : List Task := board.taskOrder.filterMap board.tasks.get

/-- The board with every task under its own id, as it is read back. -/
def BoardDoc.normalized (board : BoardDoc) (revision : Nat) : BoardDoc where
  revision
  tasks := .ofList (board.normalize.column.map fun task => (task.id, task))
  taskOrder := board.normalize.column.map Task.id
  brief := board.brief

theorem find_foldl_put {κ α : Type} [DecidableEq κ] {entries : List (κ × α)} {m : HashMap κ α} {k : κ}
    {entry : κ × α} (h : (entries.foldl Table.put m).find k = some entry) :
    entry ∈ entries ∨ m.find k = some entry ∧ ∀ other ∈ entries, other.1 ≠ k := by
  induction entries generalizing m with
  | nil => exact .inr ⟨h, nofun⟩
  | cons first entries ih =>
    obtain member | ⟨found, apart⟩ := ih h
    · exact .inl (List.mem_cons_of_mem _ member)
    · rw [Table.find_put, Function.update_apply] at found
      split at found
      · cases found
        exact .inl List.mem_cons_self
      · rename_i elsewhere
        refine .inr ⟨found, fun other member => ?_⟩
        obtain rfl | member := List.mem_cons.1 member
        · exact Ne.symm elsewhere
        · exact apart other member

theorem isSome_find_foldl_put {κ α : Type} [DecidableEq κ] {entries : List (κ × α)} {m : HashMap κ α} {k : κ}
    (h : (m.find k).isSome ∨ ∃ entry ∈ entries, entry.1 = k) :
    ((entries.foldl Table.put m).find k).isSome := by
  induction entries generalizing m with
  | nil => simpa using h
  | cons first entries ih =>
    apply ih
    rw [Table.find_put, Function.update_apply]
    split
    · exact .inl rfl
    · rename_i elsewhere
      obtain found | ⟨entry, member, here⟩ := h
      · exact .inl found
      · obtain rfl | member := List.mem_cons.1 member
        · exact absurd here.symm elsewhere
        · exact .inr ⟨entry, member, here⟩

end Normalized

section Views

variable {Hash : Type} {s s' : Database Hash} {i sessionId : String} {board : BoardDoc}

theorem column_perm : (s.column i).Perm (s.items i) := perm_orderBy _ _

theorem mem_column {item : WorkItem} : item ∈ s.column i ↔ item ∈ s.items i := mem_orderBy

theorem positions_column (sound : Sound s) : (s.column i).map WorkItem.position = List.range (s.column i).length := by
  rw [column_perm.length_eq]
  exact (sound i).arranged.orderBy

theorem nodup_column : ((s.column i).map WorkItem.id).Nodup :=
  (column_perm.map _).nodup_iff.2 nodup_items

theorem taskOrder_readBoard (sound : Sound s) : (s.readBoard i).taskOrder = (s.column i).map WorkItem.id := by
  have names : ((s.column i).map WorkItem.taskJson).map Task.id = (s.column i).map WorkItem.id := by
    rw [List.map_map]
    apply List.map_congr_left
    intro item member
    exact ((sound i).coherent item (mem_column.1 member)).2.1
  exact names

theorem get_readBoard (sound : Sound s) {item : WorkItem} (member : item ∈ s.column i) :
    (s.readBoard i).tasks.get item.id = some item.taskJson := by
  have named (other : WorkItem) (there : other ∈ s.column i) : other.taskJson.id = other.id :=
    ((sound i).coherent other (mem_column.1 there)).2.1
  have some_ : ((s.readBoard i).tasks.find item.id).isSome := by
    refine isSome_find_foldl_put (.inr ⟨(item.taskJson.id, item.taskJson), ?_, named item member⟩)
    exact List.mem_map.2 ⟨item.taskJson, List.mem_map.2 ⟨item, member, rfl⟩, rfl⟩
  obtain ⟨entry, found⟩ := Option.isSome_iff_exists.1 some_
  rw [HashMap.get, found]
  obtain listed | ⟨none_, _⟩ := find_foldl_put found
  · obtain ⟨task, read, rfl⟩ := List.mem_map.1 listed
    obtain ⟨other, there, rfl⟩ := List.mem_map.1 read
    have key : (other.taskJson.id, other.taskJson).1 = item.id := Table.key_of_find found
    have same : other.id = item.id := (named other there).symm.trans key
    rw [List.inj_on_of_nodup_map nodup_column there member same]
    rfl
  · cases none_

theorem Replaced.readBoard (replaced : Replaced s sessionId board.normalize s') :
    s'.readBoard sessionId = board.normalized (bumped (s.currentRevision sessionId)) := by
  have positions := positions_placed replaced.present
  rw [← replaced.items] at positions
  have ordered : s'.column sessionId = s'.items sessionId := by
    apply orderBy_eq_self
    rw [← List.pairwise_map, positions]
    exact List.pairwise_le_range
  have tasks : (s'.column sessionId).map WorkItem.taskJson = board.normalize.column := by
    have places : (fun entry => (board.normalize.item sessionId entry).map WorkItem.taskJson) =
        board.normalize.tasks.get ∘ Prod.fst := by
      funext entry
      rw [BoardDoc.item, Option.map_map, Function.comp_apply]
      exact Option.map_id'
    rw [ordered, replaced.items, List.map_filterMap, places, ← List.filterMap_map, List.zipIdx_map_fst,
      BoardDoc.column]
  rw [Database.readBoard, tasks, replaced.brief, replaced.revision, if_pos rfl, if_pos rfl]
  rfl

end Views

section Calls

variable {Hash : Type} [DecidableEq Hash] {platform : Platform Hash} {s : Database Hash} {sessionId : String}
  {board : BoardDoc} {expected : Nat}

theorem execute_boardRead (env : Env) {operationId : Uuid} (valid : platform.isUuid sessionId)
    (fresh : s.operations.find operationId = none) : execute platform env operationId (.boardRead sessionId) s =
      (.ok (.board (s.readBoard sessionId)), s) := by
  simp [execute, ControlCommand.sessionId, ControlCommand.mutates, executeRead, valid, fresh, Tx.require, Tx.gets,
    Bind.bind]

theorem execute_boardWrite {env : Env} {operationId : Uuid} {response : ControlResponse}
    (fresh : s.operations.find operationId = none)
    (succeeded : (execute platform env operationId (.boardWrite sessionId board expected) s).1 = .ok response) :
    platform.isUuid sessionId ∧ expected = s.currentRevision sessionId ∧
      Replaced s sessionId board.normalize (next platform s ⟨env, operationId, .boardWrite sessionId board expected⟩) := by
  have executed := executed platform s ⟨env, operationId, .boardWrite sessionId board expected⟩
  rw [succeeded] at executed
  generalize next platform s ⟨env, operationId, .boardWrite sessionId board expected⟩ = s' at executed
  cases executed with
  | replayed row stored same => cases fresh.symm.trans stored
  | answered _ _ reads _ => cases reads
  | applied response mutated operations valid fresh mutates mutation recorded =>
    have spec : (executeMutation env (.boardWrite sessionId board expected)).wlp
        (fun _ s' => expected = s.currentRevision sessionId ∧ Replaced s sessionId board.normalize s') s := by
      simp only [executeMutation, wlp_bind, wlp_pure]
      exact wlp_mono (wlp_replaceBoard _ _) fun _ s' h => ⟨h.1 expected rfl, h.2⟩
    have spec := spec _ _ mutation
    exact ⟨valid, spec.1, spec.2.present, spec.2.items, spec.2.elsewhere, spec.2.brief, spec.2.revision⟩

theorem failed_same {env : Env} {operationId : Uuid} {command : ControlCommand} {e : String}
    (failed : (execute platform env operationId command s).1 = .error e) :
    (execute platform env operationId command s).2 = s := by
  have executed := executed platform s ⟨env, operationId, command⟩
  rw [failed] at executed
  rw [show (execute platform env operationId command s).2 = next platform s ⟨env, operationId, command⟩ from rfl]
  generalize next platform s ⟨env, operationId, command⟩ = s' at executed
  cases executed with
  | failed e => rfl

/-- In every state the rows of a workspace have ids of their own and stand at `0` to `n - 1`, and the document
shows them so.  A command that fails changes nothing.  A board that is written is read back normalised, at the
revision that follows if and only if there is one. -/
theorem board_reads_back (platform : Platform Hash) (calls : List Call) :
    (∀ i, (((run platform calls).column i).map WorkItem.id).Nodup ∧
      ((run platform calls).column i).map WorkItem.position = List.range ((run platform calls).column i).length ∧
      ((run platform calls).readBoard i).taskOrder = ((run platform calls).column i).map WorkItem.id ∧
      ∀ item ∈ (run platform calls).column i,
        ((run platform calls).readBoard i).tasks.get item.id = some item.taskJson) ∧
    (∀ env operationId command e,
      (execute platform env operationId command (run platform calls)).1 = .error e →
      (execute platform env operationId command (run platform calls)).2 = run platform calls) ∧
    ∀ env operationId sessionId board expected response,
      (run platform calls).operations.find operationId = none →
      (execute platform env operationId (.boardWrite sessionId board expected) (run platform calls)).1 =
        .ok response →
      ∀ env' operationId',
        (run platform (calls ++ [⟨env, operationId, .boardWrite sessionId board expected⟩])).operations.find
          operationId' = none →
        ((execute platform env' operationId' (.boardRead sessionId)
            (run platform (calls ++ [⟨env, operationId, .boardWrite sessionId board expected⟩]))).1 =
          .ok (.board (board.normalized (expected + 1))) ↔ expected + 1 < 2 ^ 63) := by
  have sound : Sound (run platform calls) := run_sound calls
  refine ⟨fun i => ?_, fun env operationId command e => failed_same, ?_⟩
  · exact ⟨nodup_column, positions_column sound, taskOrder_readBoard sound, fun item => get_readBoard sound⟩
  · intro env operationId sessionId board expected response fresh succeeded env' operationId' fresh'
    obtain ⟨valid, rfl, replaced⟩ := execute_boardWrite fresh succeeded
    rw [run_snoc] at fresh' ⊢
    rw [execute_boardRead env' valid fresh', replaced.readBoard, bumped_eq]
    constructor
    · intro same
      by_contra last
      rw [if_neg last] at same
      have revision := congrArg BoardDoc.revision (ControlResponse.board.inj (Except.ok.inj same))
      cases revision
    · intro below
      rw [if_pos below]

end Calls

section Examples

theorem writeCall_read :
    (execute Platform.plain writeCall.env writeCall.operationId (.boardWrite workspace pairBoard 1) .empty).2 =
        .empty ∧
      ((execute Platform.plain writeCall.env 2 (.boardRead workspace) (run Platform.plain ([] ++ [writeCall]))).1 =
        .ok (.board (pairBoard.normalized (0 + 1))) ↔ 0 + 1 < 2 ^ 63) :=
  ⟨(board_reads_back Platform.plain []).2.1 writeCall.env writeCall.operationId (.boardWrite workspace pairBoard 1)
      "stale board revision: expected 1, current 0" (by decide +kernel),
    (board_reads_back Platform.plain []).2.2 writeCall.env writeCall.operationId workspace pairBoard 0 .ack
      (by decide +kernel) (by decide +kernel) writeCall.env 2 (by decide +kernel)⟩

def briefRun (n : Nat) : List Call :=
  (List.range n).map fun k => .plain (BitVec.ofNat 128 k) (.briefSet workspace "" "")

theorem briefRun_succ (n : Nat) : briefRun (n + 1) =
    briefRun n ++ [.plain (BitVec.ofNat 128 n) (.briefSet workspace "" "")] := by
  rw [briefRun, List.range_succ, List.map_append]
  rfl

theorem i64_lt_u128 : (2 : Nat) ^ 63 < 2 ^ 128 := by norm_num

theorem ofNat_ne {j k : Nat} (below : j < k) (small : k < 2 ^ 128) : BitVec.ofNat 128 j ≠ BitVec.ofNat 128 k := by
  intro same
  have same := congrArg BitVec.toNat same
  rw [BitVec.toNat_ofNat, BitVec.toNat_ofNat, Nat.mod_eq_of_lt small, Nat.mod_eq_of_lt (lt_trans below small)] at same
  omega

theorem briefRun_unused {n k : Nat} (later : n ≤ k) (small : k < 2 ^ 128) :
    ∀ call ∈ briefRun n, call.operationId ≠ BitVec.ofNat 128 k := by
  intro call member
  obtain ⟨j, listed, rfl⟩ := List.mem_map.1 member
  exact ofNat_ne (lt_of_lt_of_le (List.mem_range.1 listed) later) small

theorem briefRun_free {n : Nat} (small : n < 2 ^ 128) :
    (run Platform.plain (briefRun n)).operations.find (BitVec.ofNat 128 n) = none :=
  run_operations Platform.plain (briefRun_unused (le_refl n) small)

theorem revision_briefRun {n : Nat} (below : n < 2 ^ 63) :
    (run Platform.plain (briefRun n)).currentRevision workspace = n := by
  induction n with
  | zero => rfl
  | succ n ih =>
    have free := briefRun_free (lt_trans (Nat.lt_of_succ_lt below) i64_lt_u128)
    obtain ⟨operations, _, answer⟩ := @execute_applied _ _ Platform.plain (run Platform.plain (briefRun n))
      (.plain (BitVec.ofNat 128 n) (.briefSet workspace "" "")) _ _ rfl free rfl rfl
    have mutated : Mutated (run Platform.plain (briefRun n)) workspace
        (next Platform.plain (run Platform.plain (briefRun n)) (.plain (BitVec.ofNat 128 n) (.briefSet workspace "" ""))) :=
      mutated_of_ok (run_sound (briefRun n)) rfl free (congrArg Prod.fst answer)
    rw [briefRun_succ, run_snoc, mutated.revision, if_pos rfl, ih (Nat.lt_of_succ_lt below), bumped_eq,
      if_pos below]

def blankBoard : BoardDoc := ⟨0, .empty, [], none⟩

theorem blankBoard_written {Hash : Type} (env : Env) (s : Database Hash) (sessionId : String) :
    ∃ s', executeMutation env (.boardWrite sessionId blankBoard (s.currentRevision sessionId)) s = (.ok .ack, s') := by
  have order : blankBoard.normalize.taskOrder = [] := rfl
  have current : ∀ expected ∈ some (s.currentRevision sessionId), expected = s.currentRevision sessionId := by
    simp
  simp only [executeMutation, replaceBoard, order, List.zipIdx_nil, Tx.traverse, Tx.gets, Tx.require, Tx.write,
    Bind.bind, Pure.pure, if_pos current]
  exact ⟨_, rfl⟩

def blankCall (n : Nat) : Call := .plain (BitVec.ofNat 128 n) (.boardWrite workspace blankBoard n)

theorem blankCall_replaces {n : Nat} (below : n < 2 ^ 63) :
    (execute Platform.plain (blankCall n).env (blankCall n).operationId (blankCall n).command
        (run Platform.plain (briefRun n))).1 = .ok .ack ∧
      Replaced (run Platform.plain (briefRun n)) workspace blankBoard.normalize
        (run Platform.plain (briefRun n ++ [blankCall n])) := by
  have free := briefRun_free (lt_trans below i64_lt_u128)
  obtain ⟨s', mutation⟩ := blankBoard_written (blankCall n).env (run Platform.plain (briefRun n)) workspace
  rw [revision_briefRun below] at mutation
  obtain ⟨operations, _, answer⟩ := @execute_applied _ _ Platform.plain (run Platform.plain (briefRun n))
    (blankCall n) _ _ rfl free rfl mutation
  have succeeded := congrArg Prod.fst answer
  rw [run_snoc]
  exact ⟨succeeded, (execute_boardWrite free succeeded).2.2⟩

theorem last_revision {n : Nat} (last : n + 1 = 2 ^ 63) (env : Env) :
    (execute Platform.plain (blankCall n).env (blankCall n).operationId (blankCall n).command
        (run Platform.plain (briefRun n))).1 = .ok .ack ∧
      (execute Platform.plain env (BitVec.ofNat 128 (n + 1)) (.boardRead workspace)
        (run Platform.plain (briefRun n ++ [blankCall n]))).1 = .ok (.board (blankBoard.normalized 0)) := by
  have below : n < 2 ^ 63 := last ▸ Nat.lt_succ_self n
  obtain ⟨succeeded, replaced⟩ := blankCall_replaces below
  have free : (run Platform.plain (briefRun n ++ [blankCall n])).operations.find (BitVec.ofNat 128 (n + 1)) =
      none := by
    have small : n + 1 < 2 ^ 128 := last ▸ i64_lt_u128
    apply run_operations
    intro call member
    obtain member | same := List.mem_append.1 member
    · exact briefRun_unused (Nat.le_succ n) small call member
    · rw [List.mem_singleton.1 same]
      exact ofNat_ne (Nat.lt_succ_self n) small
  refine ⟨succeeded, ?_⟩
  have read := replaced.readBoard
  rw [revision_briefRun below, bumped_eq, if_neg (by omega)] at read
  rw [execute_boardRead env rfl free, read]

theorem i64_last : 2 ^ 63 - 1 + 1 = (2 : Nat) ^ 63 := by norm_num

theorem last_revision_wraps :
    (execute Platform.plain (blankCall (2 ^ 63 - 1)).env (blankCall (2 ^ 63 - 1)).operationId
        (blankCall (2 ^ 63 - 1)).command (run Platform.plain (briefRun (2 ^ 63 - 1)))).1 = .ok .ack ∧
      (execute Platform.plain (blankCall (2 ^ 63 - 1)).env (BitVec.ofNat 128 (2 ^ 63 - 1 + 1)) (.boardRead workspace)
        (run Platform.plain (briefRun (2 ^ 63 - 1) ++ [blankCall (2 ^ 63 - 1)]))).1 =
          .ok (.board (blankBoard.normalized 0)) :=
  last_revision i64_last _

end Examples

end VibeLink.Control

/-! The revision of a workspace, against which a board is written. -/

namespace VibeLink.Control

open VibeLink.Relational

variable {Hash : Type} [DecidableEq Hash] {platform : Platform Hash} {s : Database Hash} {i sessionId : String}
  {call : Call} {calls : List Call}

def Succeeds (platform : Platform Hash) (s : Database Hash) (call : Call) : Prop :=
  ∃ response, (execute platform call.env call.operationId call.command s).1 = .ok response

/-- A mutation is not made at the greatest revision that can be stored. -/
def Below (s : Database Hash) (call : Call) : Prop :=
  call.command.mutates → s.currentRevision call.command.sessionId + 1 < 2 ^ 63

section Step

omit [DecidableEq Hash] in
theorem readBoard_congr {s s' : Database Hash} (items : s'.items i = s.items i)
    (brief : s'.readBrief i = s.readBrief i) (revision : s'.currentRevision i = s.currentRevision i) :
    s'.readBoard i = s.readBoard i := by
  simp only [Database.readBoard, Database.column, items, brief, revision]

theorem next_board (sound : Sound s) (below : Below s call) (i : String) :
    (next platform s call).readBoard i = s.readBoard i ∨
      (next platform s call).currentRevision i = s.currentRevision i + 1 := by
  obtain ⟨items, briefs, revisions⟩ | ⟨_, mutates, mutated⟩ := @next_mutated _ s _ platform sound call
  · exact .inl (readBoard_congr (congrFun items i) (congrFun briefs i) (congrFun revisions i))
  · have revision := mutated.revision i
    by_cases here : i = call.command.sessionId
    · rw [if_pos here, bumped_eq, here, if_pos (below mutates)] at revision
      rw [here]
      exact .inr revision
    · rw [if_neg here] at revision
      exact .inl (readBoard_congr (mutated.items i here) (mutated.briefs i here) revision)

theorem next_revision_le (sound : Sound s) (below : Below s call) (i : String) :
    s.currentRevision i ≤ (next platform s call).currentRevision i := by
  obtain same | succ := @next_board _ _ platform _ _ sound below i
  · exact (congrArg BoardDoc.revision same).ge
  · omega

theorem foldl_board (sound : Sound s) (below : Throughout (next platform) Below s calls) (i : String) :
    s.currentRevision i ≤ (calls.foldl (next platform) s).currentRevision i ∧
      ((calls.foldl (next platform) s).currentRevision i = s.currentRevision i →
        (calls.foldl (next platform) s).readBoard i = s.readBoard i) := by
  induction calls generalizing s with
  | nil => exact ⟨le_refl _, fun _ => rfl⟩
  | cons call calls ih =>
    have rest := ih (next_sound sound call) below.2
    have first := @next_revision_le _ _ platform _ _ sound below.1 i
    refine ⟨first.trans rest.1, fun same => ?_⟩
    rw [List.foldl_cons] at same ⊢
    obtain board | succ := @next_board _ _ platform _ _ sound below.1 i
    · rw [rest.2 (same.trans (congrArg BoardDoc.revision board).symm), board]
    · omega

end Step

section Runs

theorem run_fresh {pre post : List Call} (distinct : ((pre ++ call :: post).map Call.operationId).Nodup) :
    (run platform pre).operations.find call.operationId = none := by
  apply run_operations
  intro other member same
  rw [List.map_append, List.map_cons] at distinct
  exact (List.nodup_append.1 distinct).2.2 _ (List.mem_map_of_mem member) _ List.mem_cons_self same

theorem run_append (pre post : List Call) : run platform (pre ++ post) = post.foldl (next platform) (run platform pre) := by
  rw [run, List.foldl_append]
  rfl

theorem succeeds_boardWrite {board : BoardDoc} {expected : Nat}
    (fresh : s.operations.find call.operationId = none) (write : call.command = .boardWrite sessionId board expected)
    (succeeds : Succeeds platform s call) : expected = s.currentRevision sessionId := by
  obtain ⟨response, succeeded⟩ := succeeds
  rw [write] at succeeded
  exact (execute_boardWrite fresh succeeded).2.1

theorem revision_of_succeeds (sound : Sound s) (fresh : s.operations.find call.operationId = none)
    (below : Below s call) (mutates : call.command.mutates) (succeeds : Succeeds platform s call) (i : String) :
    (next platform s call).currentRevision i =
      if i = call.command.sessionId then s.currentRevision i + 1 else s.currentRevision i := by
  obtain ⟨response, succeeded⟩ := succeeds
  rw [(mutated_of_ok sound mutates fresh succeeded).revision]
  split
  · rename_i here
    rw [bumped_eq, here, if_pos (below mutates)]
  · rfl

/-- In a run whose calls have operation ids of their own: a mutation that succeeds takes its workspace to the next
revision; a board is written only at the revision that is expected; of the writes that expect one revision at most
one succeeds; and what a write replaces is the board that was read at the revision it expects. -/
theorem writes_swap (platform : Platform Hash) (calls : List Call) (distinct : (calls.map Call.operationId).Nodup)
    (below : Throughout (next platform) Below .empty calls) :
    (∀ pre call post, calls = pre ++ call :: post → call.command.mutates → Succeeds platform (run platform pre) call →
      ∀ i, (run platform (pre ++ [call])).currentRevision i =
        if i = call.command.sessionId then (run platform pre).currentRevision i + 1
        else (run platform pre).currentRevision i) ∧
    (∀ pre call post sessionId board expected, calls = pre ++ call :: post →
      call.command = .boardWrite sessionId board expected → Succeeds platform (run platform pre) call →
      expected = (run platform pre).currentRevision sessionId) ∧
    (∀ pre first mid second post sessionId board board' expected, calls = pre ++ first :: (mid ++ second :: post) →
      first.command = .boardWrite sessionId board expected → second.command = .boardWrite sessionId board' expected →
      Succeeds platform (run platform pre) first → ¬Succeeds platform (run platform (pre ++ first :: mid)) second) ∧
    ∀ pre read mid write post sessionId seen board, calls = pre ++ read :: (mid ++ write :: post) →
      read.command = .boardRead sessionId →
      (execute platform read.env read.operationId read.command (run platform pre)).1 = .ok (.board seen) →
      write.command = .boardWrite sessionId board seen.revision →
      Succeeds platform (run platform (pre ++ read :: mid)) write →
      (run platform (pre ++ read :: mid)).readBoard sessionId = seen := by
  have advances (pre : List Call) (call : Call) (post : List Call) (split : calls = pre ++ call :: post)
      (mutates : call.command.mutates) (succeeds : Succeeds platform (run platform pre) call) (i : String) :
      (run platform (pre ++ [call])).currentRevision i =
        if i = call.command.sessionId then (run platform pre).currentRevision i + 1
        else (run platform pre).currentRevision i := by
    rw [split] at distinct below
    rw [run_snoc]
    exact revision_of_succeeds (run_sound pre) (run_fresh distinct) (throughout_append.1 below).2.1 mutates succeeds i
  have swaps (pre : List Call) (call : Call) (post : List Call) (sessionId : String) (board : BoardDoc)
      (expected : Nat) (split : calls = pre ++ call :: post)
      (write : call.command = .boardWrite sessionId board expected)
      (succeeds : Succeeds platform (run platform pre) call) :
      expected = (run platform pre).currentRevision sessionId := by
    rw [split] at distinct
    exact succeeds_boardWrite (run_fresh distinct) write succeeds
  refine ⟨advances, swaps, ?_, ?_⟩
  · intro pre first mid second post sessionId board board' expected split write write' succeeds succeeds'
    have before := swaps pre first _ sessionId board expected split write succeeds
    have after := swaps (pre ++ first :: mid) second post sessionId board' expected
      (by rw [split, List.append_assoc, List.cons_append]) write' succeeds'
    have advanced := advances pre first _ split (by rw [write]; rfl) succeeds sessionId
    rw [if_pos (by rw [write]; rfl)] at advanced
    rw [split, List.append_cons] at below
    have between := (throughout_append.1 (throughout_append.1 below).2).1
    have later := (foldl_board (run_sound (pre ++ [first])) between sessionId).1
    rw [List.append_cons, run_append] at after
    omega
  · intro pre read mid write post sessionId seen board split reads answered writes succeeds
    have expected := swaps (pre ++ read :: mid) write post sessionId board seen.revision
      (by rw [split, List.append_assoc, List.cons_append]) writes succeeds
    rw [split, List.append_cons] at below
    rw [split] at distinct
    have valid := valid_of_ok answered
    rw [reads] at answered valid
    have answer := @execute_boardRead _ _ platform (run platform pre) sessionId read.env _ valid (run_fresh distinct)
    rw [answer] at answered
    cases answered
    have still : run platform (pre ++ [read]) = run platform pre := by
      rw [run_snoc, next, reads, answer]
    have between := (throughout_append.1 (throughout_append.1 below).2).1
    have kept := (foldl_board (run_sound (pre ++ [read])) between sessionId).2
    rw [List.append_cons, run_append] at expected ⊢
    have seen_at : ((run platform pre).readBoard sessionId).revision =
        (run platform (pre ++ [read])).currentRevision sessionId := by
      rw [still]
      rfl
    rw [kept (expected.symm.trans seen_at), still]

instance decidableBelow (s : Database Hash) (call : Call) : Decidable (Below s call) :=
  inferInstanceAs (Decidable (_ → _))

end Runs

section Examples

def swapRun : List Call :=
  [.plain 1 (.boardRead workspace), .plain 2 (.boardRead workspace), .plain 3 (.boardWrite workspace pairBoard 0),
    .plain 4 (.boardWrite workspace blankBoard 0)]

theorem swapRun_swaps : ¬Succeeds Platform.plain (run Platform.plain (swapRun.take 3))
    (.plain 4 (.boardWrite workspace blankBoard 0)) :=
  (writes_swap Platform.plain swapRun (by decide +kernel) (by decide +kernel)).2.2.1 (swapRun.take 2)
    (.plain 3 (.boardWrite workspace pairBoard 0)) [] (.plain 4 (.boardWrite workspace blankBoard 0)) [] workspace
    pairBoard blankBoard 0 rfl rfl rfl ⟨.ack, by decide +kernel⟩

theorem revision_after_last {n : Nat} (last : n + 1 = 2 ^ 63) :
    (run Platform.plain (briefRun n)).currentRevision workspace = n ∧
      (execute Platform.plain (blankCall n).env (blankCall n).operationId (blankCall n).command
        (run Platform.plain (briefRun n))).1 = .ok .ack ∧
      (run Platform.plain (briefRun n ++ [blankCall n])).currentRevision workspace = 0 := by
  have below : n < 2 ^ 63 := last ▸ Nat.lt_succ_self n
  obtain ⟨succeeded, replaced⟩ := blankCall_replaces below
  have revision := revision_briefRun below
  refine ⟨revision, succeeded, ?_⟩
  rw [replaced.revision, if_pos rfl, revision, bumped_eq, if_neg (by omega)]

/-- A board that is written at the greatest revision takes its workspace to revision zero. -/
theorem revision_falls :
    (run Platform.plain (briefRun (2 ^ 63 - 1))).currentRevision workspace = 2 ^ 63 - 1 ∧
      (execute Platform.plain (blankCall (2 ^ 63 - 1)).env (blankCall (2 ^ 63 - 1)).operationId
        (blankCall (2 ^ 63 - 1)).command (run Platform.plain (briefRun (2 ^ 63 - 1)))).1 = .ok .ack ∧
      (run Platform.plain (briefRun (2 ^ 63 - 1) ++ [blankCall (2 ^ 63 - 1)])).currentRevision workspace = 0 :=
  revision_after_last i64_last

end Examples

end VibeLink.Control
