import Mathlib
import VibeLink.Control.Document

/-! The JSON of a command, by whose digest the control plane tells commands apart. -/

namespace VibeLink.Control

open VibeLink.Relational
open VibeLink.Coordinator (Json)

def optionalField (name : String) (value : Option Json) : List (String × Json) :=
  value.toList.map fun value => (name, value)

/-- `status_text` -/
def TaskStatus.text : TaskStatus → String
  | .pending => "pending"
  | .assigned => "assigned"
  | .inProgress => "in-progress"
  | .done => "done"

def Brief.toJson (brief : Brief) : Json :=
  .obj [("purpose", .str brief.purpose), ("notes", .str brief.notes), ("updatedAt", .str brief.updatedAt)]

def Task.toJson (task : Task) : Json := .obj <|
  [("id", .str task.id),
    ("sessionId", .str task.sessionId),
    ("title", .str task.title),
    ("description", .str task.description),
    ("status", .str task.status.text),
    ("statusTimestamps", .obj (task.statusTimestamps.rows.map fun entry => (entry.1.text, .nat entry.2)))] ++
  optionalField "assignedPaneId" (task.assignedPaneId.map .str) ++
  optionalField "assignedRole" (task.assignedRole.map .str) ++
  optionalField "baselineRef" (task.baselineRef.map .str) ++
  optionalField "worktreePath" (task.worktreePath.map .str) ++
  optionalField "commitMessage" (task.commitMessage.map .str) ++
  optionalField "resultSummary" (task.resultSummary.map .str) ++
  [("createdAt", .nat task.createdAt),
    ("updatedAt", .nat task.updatedAt)]

def BoardDoc.toJson (board : BoardDoc) : Json := .obj <|
  [("revision", .nat board.revision),
    ("tasks", .obj (board.tasks.rows.map fun entry => (entry.1, entry.2.toJson))),
    ("taskOrder", .arr (board.taskOrder.map .str))] ++
  optionalField "brief" (board.brief.map Brief.toJson)

/-- The serialiser of a patch knows nothing of its two kinds of absence. -/
def patched (value : Option (Option String)) : Json := .option (.option .str) value

def TaskPatch.toJson (patch : TaskPatch) : Json := .obj
  [("title", patched patch.title),
    ("description", patched patch.description),
    ("status", .option (fun status => .str status.text) patch.status),
    ("assignedPaneId", patched patch.assignedPaneId),
    ("assignedRole", patched patch.assignedRole),
    ("baselineRef", patched patch.baselineRef),
    ("worktreePath", patched patch.worktreePath),
    ("commitMessage", patched patch.commitMessage),
    ("resultSummary", patched patch.resultSummary)]

def ControlCommand.toJson : ControlCommand → Json
  | .boardRead sessionId => .obj [("kind", .str "boardRead"), ("session_id", .str sessionId)]
  | .boardWrite sessionId board expectedRevision => .obj
    [("kind", .str "boardWrite"), ("session_id", .str sessionId), ("board", board.toJson),
      ("expected_revision", .nat expectedRevision)]
  | .taskCreate sessionId title description => .obj
    [("kind", .str "taskCreate"), ("session_id", .str sessionId), ("title", .str title),
      ("description", .option .str description)]
  | .taskUpdate sessionId taskId patch => .obj
    [("kind", .str "taskUpdate"), ("session_id", .str sessionId), ("task_id", .str taskId),
      ("patch", patch.toJson)]
  | .taskDelete sessionId taskId => .obj
    [("kind", .str "taskDelete"), ("session_id", .str sessionId), ("task_id", .str taskId)]
  | .taskDone sessionId taskId commitMsg resultSummary => .obj
    [("kind", .str "taskDone"), ("session_id", .str sessionId), ("task_id", .str taskId),
      ("commit_msg", .option .str commitMsg), ("result_summary", .option .str resultSummary)]
  | .taskNote sessionId taskId message => .obj
    [("kind", .str "taskNote"), ("session_id", .str sessionId), ("task_id", .str taskId),
      ("message", .str message)]
  | .briefGet sessionId => .obj [("kind", .str "briefGet"), ("session_id", .str sessionId)]
  | .briefSet sessionId purpose notes => .obj
    [("kind", .str "briefSet"), ("session_id", .str sessionId), ("purpose", .str purpose),
      ("notes", .str notes)]

section Values

/-- Equal as values, however the maps were built. -/
structure Task.Same (task other : Task) : Prop where
  timestamps : task.statusTimestamps.find = other.statusTimestamps.find
  rest : { task with statusTimestamps := other.statusTimestamps } = other

structure BoardDoc.Same (board other : BoardDoc) : Prop where
  tasks : ∀ id, Option.Rel Task.Same (board.tasks.get id) (other.tasks.get id)
  rest : { board with tasks := other.tasks } = other

/-- `==` -/
def ControlCommand.Same : ControlCommand → ControlCommand → Prop
  | .boardWrite sessionId board expected, .boardWrite sessionId' board' expected' =>
    sessionId = sessionId' ∧ board.Same board' ∧ expected = expected'
  | command, other => command = other

def TaskPatch.texts (patch : TaskPatch) : List (Option (Option String)) :=
  [patch.title, patch.description, patch.assignedPaneId, patch.assignedRole, patch.baselineRef,
    patch.worktreePath, patch.commitMessage, patch.resultSummary]

def BoardDoc.Canonical (board : BoardDoc) : Prop :=
  board.tasks.rows.length ≤ 1 ∧ ∀ entry ∈ board.tasks.rows, entry.2.statusTimestamps.rows.length ≤ 1

/-- The maps have one order at most, and no text of a patch is absent. -/
def ControlCommand.Canonical : ControlCommand → Prop
  | .boardWrite _ board _ => board.Canonical
  | .taskUpdate _ _ patch => ∀ text ∈ patch.texts, text.join.isSome
  | _ => True

instance decidableBoardCanonical (board : BoardDoc) : Decidable board.Canonical :=
  inferInstanceAs (Decidable (_ ∧ _))

instance decidableCommandCanonical : ∀ command : ControlCommand, Decidable command.Canonical
  | .boardWrite _ board _ => inferInstanceAs (Decidable board.Canonical)
  | .taskUpdate _ _ patch => inferInstanceAs (Decidable (∀ text ∈ patch.texts, text.join.isSome))
  | .boardRead _ | .taskCreate _ _ _ | .taskDelete _ _ | .taskDone _ _ _ _ | .taskNote _ _ _ | .briefGet _
  | .briefSet _ _ _ => inferInstanceAs (Decidable True)

end Values

section Injective

variable {fields fields' : List (String × Json)} {name other : String}

theorem nat_injective : Function.Injective Json.nat := by
  intro m n h
  exact Nat.repr_inj.1 (Json.num.inj h)

theorem TaskStatus.text_injective : Function.Injective TaskStatus.text := by
  intro a b
  cases a <;> cases b <;> simp [TaskStatus.text]

theorem patched_eq {value value' : Option (Option String)} : patched value = patched value' ↔
    value.join = value'.join := by
  cases value with
  | none => cases value' with
    | none => simp
    | some value' => cases value' <;> simp [patched, Json.option]
  | some value => cases value <;> cases value' with
    | none => simp [patched, Json.option]
    | some value' => cases value' <;> simp [patched, Json.option]

theorem lookup_append : Json.lookup name (fields ++ fields') =
    (Json.lookup name fields).or (Json.lookup name fields') := by
  induction fields with
  | nil => rfl
  | cons field fields ih =>
    simp only [List.cons_append, Json.lookup, ih]
    split <;> rfl

theorem lookup_optionalField (value : Option Json) :
    Json.lookup name (optionalField other value) = if other = name then value else none := by
  cases value with
  | none => simp [optionalField, Json.lookup]
  | some value => simp [optionalField, Json.lookup]

theorem optionalField_append {value value' : Option Json} (fresh : Json.lookup name fields = none)
    (fresh' : Json.lookup name fields' = none)
    (h : optionalField name value ++ fields = optionalField name value' ++ fields') :
    value = value' ∧ fields = fields' := by
  have same : value = value' := by
    have h := congrArg (Json.lookup name) h
    simpa [lookup_append, lookup_optionalField, fresh, fresh'] using h
  subst same
  exact ⟨rfl, List.append_cancel_left h⟩

theorem Task.toJson_injective : Function.Injective Task.toJson := by
  intro t t' h
  cases t with
  | mk id sessionId title description status timestamps pane role base worktree commit summary created updated =>
  cases t' with
  | mk id' sessionId' title' description' status' timestamps' pane' role' base' worktree' commit' summary'
      created' updated' =>
  simp only [Task.toJson, Json.obj.injEq, List.append_assoc, List.cons_append, List.nil_append,
    List.cons.injEq, Prod.mk.injEq, Json.str.injEq, true_and] at h
  obtain ⟨rfl, rfl, rfl, rfl, status, entries, h⟩ := h
  have distinct : Function.Injective fun entry : TaskStatus × Nat => (entry.1.text, Json.nat entry.2) :=
    TaskStatus.text_injective.prodMap nat_injective
  have texts : Function.Injective (Option.map Json.str) := Option.map_injective fun _ _ => Json.str.inj
  obtain ⟨pane, h⟩ := optionalField_append (by simp [lookup_append, lookup_optionalField, Json.lookup])
    (by simp [lookup_append, lookup_optionalField, Json.lookup]) h
  obtain ⟨role, h⟩ := optionalField_append (by simp [lookup_append, lookup_optionalField, Json.lookup])
    (by simp [lookup_append, lookup_optionalField, Json.lookup]) h
  obtain ⟨base, h⟩ := optionalField_append (by simp [lookup_append, lookup_optionalField, Json.lookup])
    (by simp [lookup_append, lookup_optionalField, Json.lookup]) h
  obtain ⟨worktree, h⟩ := optionalField_append (by simp [lookup_append, lookup_optionalField, Json.lookup])
    (by simp [lookup_append, lookup_optionalField, Json.lookup]) h
  obtain ⟨commit, h⟩ := optionalField_append (by simp [lookup_append, lookup_optionalField, Json.lookup])
    (by simp [lookup_append, lookup_optionalField, Json.lookup]) h
  obtain ⟨summary, h⟩ := optionalField_append (by simp [Json.lookup]) (by simp [Json.lookup]) h
  simp only [List.cons.injEq, Prod.mk.injEq, true_and, and_true] at h
  obtain ⟨created, updated⟩ := h
  cases TaskStatus.text_injective status
  cases Table.ext (List.map_injective_iff.2 distinct entries)
  cases texts pane
  cases texts role
  cases texts base
  cases texts worktree
  cases texts commit
  cases texts summary
  cases nat_injective created
  cases nat_injective updated
  rfl

theorem Brief.toJson_injective : Function.Injective Brief.toJson := by
  intro b b' h
  cases b
  cases b'
  simpa [Brief.toJson] using h

@[simp] theorem option_str {value value' : Option String} :
    Json.option .str value = Json.option .str value' ↔ value = value' := by
  cases value <;> cases value' <;> simp [Json.option]

theorem BoardDoc.toJson_injective : Function.Injective BoardDoc.toJson := by
  intro b b' h
  cases b with
  | mk revision tasks order brief =>
  cases b' with
  | mk revision' tasks' order' brief' =>
  simp only [BoardDoc.toJson, Json.obj.injEq, List.cons_append, List.nil_append, List.cons.injEq,
    Prod.mk.injEq, Json.arr.injEq, true_and] at h
  obtain ⟨revision, entries, order, h⟩ := h
  have distinct : Function.Injective fun entry : String × Task => (entry.1, entry.2.toJson) :=
    Function.injective_id.prodMap Task.toJson_injective
  obtain ⟨brief, _⟩ := @optionalField_append [] [] "brief" _ _ rfl rfl (by simpa using h)
  cases nat_injective revision
  cases Table.ext (List.map_injective_iff.2 distinct entries)
  cases List.map_injective_iff.2 (fun _ _ => Json.str.inj) order
  cases Option.map_injective Brief.toJson_injective brief
  rfl

theorem TaskPatch.toJson_eq {patch patch' : TaskPatch} : patch.toJson = patch'.toJson ↔
    patch.status = patch'.status ∧ patch.texts.map Option.join = patch'.texts.map Option.join := by
  have status (value value' : Option TaskStatus) : Json.option (fun status => .str status.text) value =
      Json.option (fun status => .str status.text) value' ↔ value = value' := by
    cases value <;> cases value' <;> simp [Json.option, TaskStatus.text_injective.eq_iff]
  simp [TaskPatch.toJson, TaskPatch.texts, patched_eq, status]
  tauto

end Injective

section Orders

variable {α κ : Type} [DecidableEq κ]

theorem find_eq_get (m : HashMap κ α) (k : κ) : m.find k = (m.get k).map fun a => (k, a) := by
  rw [HashMap.get]
  cases h : m.find k with
  | none => rfl
  | some entry =>
    cases Table.key_of_find h
    rfl

theorem rows_eq_of_find {m m' : HashMap κ α} (small : m.rows.length ≤ 1) (h : m.find = m'.find) : m = m' := by
  apply Table.ext
  have perm := Table.perm_of_find h
  cases rows : m.rows with
  | nil =>
    rw [rows] at perm
    exact perm.symm.eq_nil.symm
  | cons entry rest =>
    rw [rows, List.length_cons] at small
    cases List.length_eq_zero_iff.1 (show rest.length = 0 by omega)
    rw [rows] at perm
    exact (List.perm_singleton.1 perm.symm).symm

def HashMap.reverse (m : HashMap κ α) : HashMap κ α where
  rows := m.rows.reverse
  nodup := by
    rw [List.map_reverse]
    exact List.nodup_reverse.2 m.nodup

theorem find_reverse (m : HashMap κ α) : m.reverse.find = m.find := by
  funext k
  cases h : m.find k with
  | none =>
    rw [Table.find_eq_none] at h ⊢
    simpa [HashMap.reverse] using h
  | some entry =>
    rw [Table.find_eq_some] at h ⊢
    simpa [HashMap.reverse] using h

theorem reverse_ne (m : HashMap κ α) (large : 1 < m.rows.length) : m.reverse ≠ m := by
  intro same
  have rows : m.rows.reverse = m.rows := congrArg Table.rows same
  have ends : m.rows[0] = m.rows[m.rows.length - 1] := by
    have first := List.getElem_reverse (l := m.rows) (i := 0) (by simpa using by omega)
    simp only [rows] at first
    exact first
  have := (List.Nodup.getElem_inj_iff m.nodup.of_map).1 ends
  omega

end Orders

section Canonical

theorem Task.same_of_toJson {task : Task} (small : task.statusTimestamps.rows.length ≤ 1) {other : Task}
    (same : task.Same other) : other = task := by
  rw [← same.rest, ← rows_eq_of_find small same.timestamps]

theorem BoardDoc.Canonical.eq {board other : BoardDoc} (canonical : board.Canonical) (same : board.Same other) :
    other = board := by
  have get (id : String) : board.tasks.get id = other.tasks.get id := by
    have rel := same.tasks id
    cases here : board.tasks.get id with
    | none =>
      rw [here] at rel
      cases there : other.tasks.get id with
      | none => rfl
      | some task =>
        rw [there] at rel
        cases rel
    | some task =>
      rw [here] at rel
      cases there : other.tasks.get id with
      | none =>
        rw [there] at rel
        cases rel
      | some task' =>
        rw [there] at rel
        cases rel with
        | some same =>
          have member : (id, task) ∈ board.tasks.rows := by
            apply @Table.mem_of_find _ _ _ _ _ id
            rw [find_eq_get, here, Option.map_some]
          rw [Task.same_of_toJson (canonical.2 _ member) same]
  have find : board.tasks.find = other.tasks.find := by
    funext id
    rw [find_eq_get, find_eq_get, get]
  rw [← same.rest, ← rows_eq_of_find canonical.1 find]

theorem Task.same_refl (task : Task) : task.Same task := ⟨rfl, rfl⟩

theorem BoardDoc.same_refl (board : BoardDoc) : board.Same board := by
  refine ⟨fun id => ?_, rfl⟩
  cases board.tasks.get id with
  | none => exact .none
  | some task => exact .some (Task.same_refl task)

theorem ControlCommand.same_refl (command : ControlCommand) : command.Same command := by
  cases command with
  | boardWrite sessionId board expected => exact ⟨rfl, board.same_refl, rfl⟩
  | _ => rfl

theorem eq_of_join {texts texts' : List (Option (Option String))} (complete : ∀ text ∈ texts, text.join.isSome)
    (same : texts'.map Option.join = texts.map Option.join) : texts' = texts := by
  induction texts generalizing texts' with
  | nil => simpa using same
  | cons text texts ih =>
    cases texts' with
    | nil => simp at same
    | cons text' texts' =>
      simp only [List.map_cons, List.cons.injEq] at same
      obtain ⟨value, joined⟩ := Option.isSome_iff_exists.1 (complete text List.mem_cons_self)
      rw [ih (fun text member => complete text (List.mem_cons_of_mem _ member)) same.2]
      rw [Option.join_eq_some_iff.1 joined, Option.join_eq_some_iff.1 (same.1.trans joined)]

theorem TaskPatch.eq_of_toJson {patch patch' : TaskPatch} (complete : ∀ text ∈ patch.texts, text.join.isSome)
    (json : patch'.toJson = patch.toJson) : patch' = patch := by
  obtain ⟨status, texts⟩ := TaskPatch.toJson_eq.1 json
  have texts := eq_of_join complete texts
  cases patch
  cases patch'
  simp only [TaskPatch.texts, List.cons.injEq, and_true] at texts
  simp_all

theorem ControlCommand.Canonical.same_iff {command : ControlCommand} (canonical : command.Canonical)
    (other : ControlCommand) : command.Same other ↔ other.toJson = command.toJson := by
  constructor
  · intro same
    cases command with
    | boardWrite sessionId board expected =>
      cases other with
      | boardWrite sessionId' board' expected' =>
        obtain ⟨rfl, same, rfl⟩ := same
        rw [BoardDoc.Canonical.eq canonical same]
      | _ => cases same
    | _ =>
      cases other <;> first | cases same; rfl | cases same
  · intro json
    cases command with
    | boardWrite sessionId board expected =>
      cases other with
      | boardWrite sessionId' board' expected' =>
        simp only [toJson, Json.obj.injEq, List.cons.injEq, Prod.mk.injEq, Json.str.injEq, true_and,
          and_true] at json
        obtain ⟨rfl, board, expected⟩ := json
        cases BoardDoc.toJson_injective board
        cases nat_injective expected
        exact ⟨rfl, BoardDoc.same_refl _, rfl⟩
      | _ => simp [toJson] at json
    | taskUpdate sessionId taskId patch =>
      cases other with
      | taskUpdate sessionId' taskId' patch' =>
        simp only [toJson, Json.obj.injEq, List.cons.injEq, Prod.mk.injEq, Json.str.injEq, true_and,
          and_true] at json
        obtain ⟨rfl, rfl, patch⟩ := json
        rw [TaskPatch.eq_of_toJson canonical patch]
        exact same_refl _
      | _ => simp [toJson] at json
    | _ => cases other <;> simp [toJson] at json; simp [Same, json]

/-- The same task, its timestamps the other way round. -/
def Task.reverse (task : Task) : Task := { task with statusTimestamps := task.statusTimestamps.reverse }

theorem Task.same_reverse (task : Task) : task.Same task.reverse := ⟨(find_reverse _).symm, rfl⟩

def BoardDoc.reverse (board : BoardDoc) : BoardDoc := { board with tasks := board.tasks.reverse }

theorem BoardDoc.same_reverse (board : BoardDoc) : board.Same board.reverse := by
  refine ⟨fun id => ?_, rfl⟩
  rw [reverse, HashMap.get, HashMap.get, find_reverse]
  exact (board.same_refl).tasks id

/-- The same board, the timestamps of its tasks the other way round. -/
def BoardDoc.reverseTasks (board : BoardDoc) : BoardDoc :=
  { board with
    tasks := ⟨board.tasks.rows.map fun entry => (entry.1, entry.2.reverse), by
      rw [List.map_map]
      exact board.tasks.nodup⟩ }

theorem BoardDoc.same_reverseTasks (board : BoardDoc) : board.Same board.reverseTasks := by
  refine ⟨fun id => ?_, rfl⟩
  rw [HashMap.get]
  cases here : board.tasks.find id with
  | none =>
    have there : board.reverseTasks.tasks.find id = none := by
      rw [Table.find_eq_none] at here ⊢
      simpa [reverseTasks] using here
    rw [HashMap.get, there]
    exact .none
  | some entry =>
    have there : board.reverseTasks.tasks.find id = some (entry.1, entry.2.reverse) := by
      rw [Table.find_eq_some] at here ⊢
      exact ⟨List.mem_map.2 ⟨entry, here.1, rfl⟩, here.2⟩
    rw [HashMap.get, there]
    exact .some entry.2.same_reverse

theorem BoardDoc.exists_same {board : BoardDoc} (ambiguous : ¬board.Canonical) :
    ∃ other : BoardDoc, board.Same other ∧ other.toJson ≠ board.toJson := by
  rw [Canonical, not_and_or, not_le] at ambiguous
  obtain large | ambiguous := ambiguous
  · refine ⟨board.reverse, board.same_reverse, fun json => ?_⟩
    exact reverse_ne board.tasks large (congrArg tasks (toJson_injective json))
  · push Not at ambiguous
    obtain ⟨entry, member, large⟩ := ambiguous
    refine ⟨board.reverseTasks, board.same_reverseTasks, fun json => ?_⟩
    have rows : (board.tasks.rows.map fun entry => (entry.1, entry.2.reverse)) = board.tasks.rows :=
      congrArg (fun board : BoardDoc => board.tasks.rows) (toJson_injective json)
    have fixed : (entry.1, entry.2.reverse) = entry :=
      List.map_inj_left.1 (rows.trans (List.map_id _).symm) entry member
    exact reverse_ne _ large (congrArg (fun entry : String × Task => entry.2.statusTimestamps) fixed)

def confuse : Option (Option String) → Option (Option String)
  | none => some none
  | some none => none
  | some (some text) => some (some text)

theorem join_confuse (text : Option (Option String)) : (confuse text).join = text.join := by
  cases text with
  | none => rfl
  | some text => cases text <;> rfl

theorem isSome_of_confuse {text : Option (Option String)} (same : confuse text = text) : text.join.isSome := by
  cases text with
  | none => cases same
  | some text => cases text with
    | none => cases same
    | some text => rfl

def TaskPatch.confuse (patch : TaskPatch) : TaskPatch where
  title := Control.confuse patch.title
  description := Control.confuse patch.description
  status := patch.status
  assignedPaneId := Control.confuse patch.assignedPaneId
  assignedRole := Control.confuse patch.assignedRole
  baselineRef := Control.confuse patch.baselineRef
  worktreePath := Control.confuse patch.worktreePath
  commitMessage := Control.confuse patch.commitMessage
  resultSummary := Control.confuse patch.resultSummary

theorem TaskPatch.texts_confuse (patch : TaskPatch) : patch.confuse.texts = patch.texts.map Control.confuse := rfl

theorem TaskPatch.toJson_confuse (patch : TaskPatch) : patch.confuse.toJson = patch.toJson := by
  rw [toJson_eq, texts_confuse, List.map_map]
  exact ⟨rfl, List.map_congr_left fun text _ => join_confuse text⟩

theorem ControlCommand.exists_of_not_canonical {command : ControlCommand} (ambiguous : ¬command.Canonical) :
    ∃ other : ControlCommand, other.sessionId = command.sessionId ∧
      ¬(command.Same other ↔ other.toJson = command.toJson) := by
  cases command with
  | boardWrite sessionId board expected =>
    obtain ⟨other, same, json⟩ := BoardDoc.exists_same ambiguous
    refine ⟨.boardWrite sessionId other expected, rfl, fun equiv => json ?_⟩
    have json := equiv.1 ⟨rfl, same, rfl⟩
    simpa [toJson] using json
  | taskUpdate sessionId taskId patch =>
    refine ⟨.taskUpdate sessionId taskId patch.confuse, rfl, fun equiv => ambiguous fun text member => ?_⟩
    have same := equiv.2 (by rw [toJson, toJson, patch.toJson_confuse])
    have fixed : patch.texts.map confuse = patch.texts := by
      rw [← patch.texts_confuse]
      exact congrArg TaskPatch.texts (taskUpdate.inj same).2.2.symm
    exact isSome_of_confuse (List.map_inj_left.1 (fixed.trans (List.map_id _).symm) text member)
  | _ => exact absurd trivial ambiguous

end Canonical

end VibeLink.Control
