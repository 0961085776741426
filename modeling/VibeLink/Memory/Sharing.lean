import VibeLink.Memory.Appends

/-! A file of memory records that several processes are at work on.  A line of the file is the record on it. -/

namespace VibeLink.Memory

open Relational
open Coordinator (trim)
open Storage (Bytes Disk FileResult finish looks writeBytes)

/-- Where an operation stands between two of its steps. -/
inductive Phase
  | begun
  /-- It has come upon too many lines. -/
  | compacting (records : List MemoryRecord)
  /-- It has written the temporary file. -/
  | replacing (records : List MemoryRecord)
  /-- The file could not be replaced. -/
  | discarding
  | appending (record : MemoryRecord)
  | ended
  deriving DecidableEq

structure Process where
  call : Call
  phase : Phase
  deriving DecidableEq

/-- What an operation has said of an id. -/
inductive Event
  | added (record : MemoryRecord)
  | removed (id : String)
  deriving DecidableEq

def Event.id : Event → String
  | .added record => record.id
  | .removed id => id

structure Shared where
  file : List MemoryRecord
  temporary : Option (List MemoryRecord)
  processes : List Process
  /-- The adds and removals so far: a ghost that no step reads. -/
  log : List Event
  deriving DecidableEq

def Shared.initial : Shared := ⟨[], none, [], []⟩

/-- What the world answers to a step. -/
structure Surroundings where
  now : Nat
  /-- Whether the temporary file is old enough to be taken away. -/
  stale : Bool
  deriving DecidableEq

section Steps

variable (place : Place) (env : Surroundings)

def Call.goOn (records : List MemoryRecord) : Call → Phase
  | .add _ _ | .list | .search _ _ => .ended
  | .remove id => match records.find? fun record => record.id = trim id with
    | none => .ended
    | some record => .appending { record with deleted := true, updatedAt := env.now }
  | .pin id pinned => match records.find? fun record => record.id = trim id with
    | none => .ended
    | some record => .appending { record with pinned, updatedAt := env.now }

/-- `read_records` up to the rewriting of the file. -/
def Call.read (file : List MemoryRecord) (call : Call) : Phase :=
  if memoryCompactLines < file.length then .compacting (inOrder (live file))
  else call.goOn env (inOrder (live file))

def Call.begin (file : List MemoryRecord) (call : Call) : Phase :=
  match call with
  | .add input drawn => match input.record place drawn env.now with
    | .ok record => .appending record
    | .error _ => .ended
  | .list => call.read env file
  | .search query _ => if searchTerms query = [] then .ended else call.read env file
  | .remove id | .pin id _ => if trim id = "" then .ended else call.read env file

def Call.said (record : MemoryRecord) : Call → List Event
  | .add _ _ => [.added record]
  | .remove _ => [.removed record.id]
  | .list | .search _ _ | .pin _ _ => []

def Shared.advance (s : Shared) (call : Call) : Phase → Shared × Phase
  | .begun => (s, call.begin place env s.file)
  | .compacting records =>
    if s.temporary.isSome ∧ ¬env.stale then (s, .ended)
    else ({ s with temporary := some records }, .replacing records)
  | .replacing records => match s.temporary with
    | none => (s, .discarding)
    | some content => ({ s with file := content, temporary := none }, call.goOn env records)
  | .discarding => ({ s with temporary := none }, .ended)
  | .appending record => ({ s with file := s.file ++ [record], log := s.log ++ call.said record }, .ended)
  | .ended => (s, .ended)

end Steps

inductive Step
  | start (call : Call)
  | advance (process : Nat) (env : Surroundings)
  /-- A step of a process fails. -/
  | fail (process : Nat)
  /-- A process is cut short. -/
  | stop (process : Nat)
  deriving DecidableEq

def Phase.failed : Phase → Phase
  | .replacing _ => .discarding
  | _ => .ended

def Shared.next (place : Place) (s : Shared) : Step → Shared
  | .start call => { s with processes := s.processes ++ [⟨call, .begun⟩] }
  | .advance i env => match s.processes[i]? with
    | none => s
    | some process =>
      let (after, phase) := s.advance place env process.call process.phase
      { after with processes := s.processes.set i ⟨process.call, phase⟩ }
  | .fail i => { s with
      processes := s.processes.modify i fun process => { process with phase := process.phase.failed } }
  | .stop i => { s with processes := s.processes.modify i fun process => { process with phase := .ended } }

def Shared.run (place : Place) (steps : List Step) : Shared := steps.foldl (Shared.next place) .initial

section Claims

def MemoryRecord.entry (record : MemoryRecord) : MemoryRecord := { record with pinned := false, updatedAt := 0 }

def shown (file : List MemoryRecord) (id : String) : Option MemoryRecord := ((live file).find id).map MemoryRecord.entry

def Event.shown : Event → Option MemoryRecord
  | .added record => some record.entry
  | .removed _ => none

def latest (log : List Event) (id : String) : Option Event := (log.filter fun event => event.id = id).getLast?

/-- A record that has been added is listed, and one that has been removed is not, until something else is said of it. -/
def Shared.Kept (s : Shared) : Prop := ∀ id, ∀ event ∈ latest s.log id, Memory.shown s.file id = event.shown

def entries (file : List MemoryRecord) : List MemoryRecord := (inOrder (live file)).map MemoryRecord.entry

/-- A step that rewrites the file, or appends what it has read of it before, finds the file as it was read. -/
def Shared.Finds (s : Shared) (process : Process) : Prop :=
  match process.phase with
  | .replacing _ => ∀ content ∈ s.temporary, entries content = entries s.file
  | .appending record => process.call.said record = [] → record.entry ∈ entries s.file
  | _ => True

def Shared.Undisturbed (s : Shared) : Step → Prop
  | .advance i _ => ∀ process ∈ s.processes[i]?, s.Finds process
  | _ => True

instance (s : Shared) (process : Process) : Decidable (s.Finds process) := by
  dsimp only [Shared.Finds]
  split
  · exact inferInstance
  · exact inferInstance
  · exact inferInstance

instance (s : Shared) (step : Step) : Decidable (s.Undisturbed step) := by
  cases step with
  | advance i => exact inferInstanceAs (Decidable (∀ process ∈ s.processes[i]?, s.Finds process))
  | _ => exact inferInstanceAs (Decidable True)

end Claims

section Shown

variable {file : List MemoryRecord} {record : MemoryRecord}

theorem shown_eq (file : List MemoryRecord) (id : String) :
    shown file id = (entries file).find? fun record => record.id = id := by
  rw [shown, entries, List.find?_map, ← find_inOrder]
  rfl

theorem shown_concat (id : String) : shown (file ++ [record]) id =
    if id = record.id then if record.deleted then none else some record.entry else shown file id := by
  rw [shown, find_live_concat]
  by_cases same : id = record.id
  · rw [same, Function.update_self, if_pos rfl]
    cases record.deleted with
    | true => rfl
    | false => rfl
  · rw [Function.update_of_ne same, if_neg same, shown]

theorem shown_of_mem (member : record.entry ∈ entries file) :
    record.deleted = false ∧ shown file record.id = some record.entry := by
  obtain ⟨listed, inside, same⟩ := List.mem_map.1 member
  have found := mem_inOrder.1 inside
  have id : listed.id = record.id := (congrArg MemoryRecord.id same :)
  have deleted : listed.deleted = record.deleted := (congrArg MemoryRecord.deleted same :)
  refine ⟨deleted ▸ not_deleted_of_find found, ?_⟩
  rw [shown, ← id, found, Option.map_some, same]

theorem latest_concat (log : List Event) (event : Event) (id : String) :
    latest (log ++ [event]) id = if event.id = id then some event else latest log id := by
  rw [latest, List.filter_append, List.filter_cons]
  by_cases same : event.id = id
  · rw [if_pos (decide_eq_true same), if_pos same, List.filter_nil, List.getLast?_concat]
  · rw [if_neg (fun holds => same (of_decide_eq_true holds)), if_neg same, List.filter_nil, List.append_nil, latest]

end Shown

/-- What an operation says of a record that it appends is what the record says. -/
def Process.Proper (process : Process) : Prop :=
  ∀ record, process.phase = .appending record → ∀ event ∈ process.call.said record,
    event.id = record.id ∧ event.shown = if record.deleted then none else some record.entry

section Kept

variable {s : Shared} {place : Place} {env : Surroundings} {call : Call}

theorem proper_goOn (records : List MemoryRecord) : (⟨call, call.goOn env records⟩ : Process).Proper := by
  intro record appending event said
  cases call with
  | add => cases appending
  | list => cases appending
  | search => cases appending
  | pin => cases said
  | remove id =>
    simp only [Call.goOn] at appending
    split at appending
    · cases appending
    · cases appending
      rw [List.mem_singleton.1 said]
      exact ⟨rfl, rfl⟩

theorem proper_read (file : List MemoryRecord) : (⟨call, call.read env file⟩ : Process).Proper := by
  rw [Call.read]
  split
  · exact fun _ => Phase.noConfusion
  · exact proper_goOn _

theorem proper_begin (file : List MemoryRecord) : (⟨call, call.begin place env file⟩ : Process).Proper := by
  cases call with
  | add input drawn =>
    intro record appending event said
    simp only [Call.begin] at appending
    split at appending
    · rename_i made
      cases appending
      rw [List.mem_singleton.1 said, record_not_deleted input place drawn env.now record made]
      exact ⟨rfl, rfl⟩
    · cases appending
  | list => exact proper_read file
  | search =>
    rw [Call.begin]
    split
    · exact fun _ => Phase.noConfusion
    · exact proper_read file
  | remove =>
    rw [Call.begin]
    split
    · exact fun _ => Phase.noConfusion
    · exact proper_read file
  | pin =>
    rw [Call.begin]
    split
    · exact fun _ => Phase.noConfusion
    · exact proper_read file

theorem proper_of_ne {phase : Phase} (quiet : ∀ record, phase ≠ .appending record) :
    (⟨call, phase⟩ : Process).Proper := fun record appending => absurd appending (quiet record)

theorem proper_advance (s : Shared) (phase : Phase) : (⟨call, (s.advance place env call phase).2⟩ : Process).Proper := by
  cases phase with
  | begun =>
    simp only [Shared.advance]
    exact proper_begin s.file
  | compacting =>
    simp only [Shared.advance]
    split
    · exact proper_of_ne fun _ => Phase.noConfusion
    · exact proper_of_ne fun _ => Phase.noConfusion
  | replacing records =>
    simp only [Shared.advance]
    split
    · exact proper_of_ne fun _ => Phase.noConfusion
    · exact proper_goOn _
  | discarding =>
    simp only [Shared.advance]
    exact proper_of_ne fun _ => Phase.noConfusion
  | appending =>
    simp only [Shared.advance]
    exact proper_of_ne fun _ => Phase.noConfusion
  | ended =>
    simp only [Shared.advance]
    exact proper_of_ne fun _ => Phase.noConfusion

theorem proper_modify {processes : List Process} (i : Nat) (change : Phase → Phase)
    (quiet : ∀ phase record, change phase ≠ .appending record) (proper : ∀ process ∈ processes, process.Proper) :
    ∀ process ∈ processes.modify i (fun process => { process with phase := change process.phase }),
      process.Proper := by
  intro process member
  obtain ⟨j, there⟩ := List.mem_iff_getElem?.1 member
  rw [List.getElem?_modify] at there
  cases found : processes[j]? with
  | none =>
    rw [found] at there
    cases there
  | some before =>
    rw [found] at there
    split at there
    · cases there
      exact proper_of_ne (quiet _)
    · cases there
      exact proper before (List.mem_of_getElem? found)

theorem kept_append {record : MemoryRecord} (kept : s.Kept) (proper : (⟨call, .appending record⟩ : Process).Proper)
    (finds : call.said record = [] → record.entry ∈ entries s.file) :
    ∀ id, ∀ event ∈ latest (s.log ++ call.said record) id, shown (s.file ++ [record]) id = event.shown := by
  intro id event last
  rw [shown_concat]
  have quiet (nothing : call.said record = []) : (if id = record.id then
      if record.deleted then none else some record.entry else shown s.file id) = event.shown := by
    rw [nothing, List.append_nil] at last
    have before := kept id event last
    obtain ⟨alive, here⟩ := shown_of_mem (finds nothing)
    split
    · rename_i same
      rw [← before, same, here, alive]
      rfl
    · exact before
  have loud (said : Event) (one : call.said record = [said]) : (if id = record.id then
      if record.deleted then none else some record.entry else shown s.file id) = event.shown := by
    obtain ⟨same, shows⟩ := proper record rfl said (by rw [one]; exact List.mem_singleton_self _)
    rw [one, latest_concat, same] at last
    split
    · rename_i here
      rw [if_pos here.symm] at last
      cases last
      exact shows.symm
    · rename_i other
      rw [if_neg (fun same => other same.symm)] at last
      exact kept id event last
  cases call with
  | add => exact loud _ rfl
  | list => exact quiet rfl
  | search => exact quiet rfl
  | remove => exact loud _ rfl
  | pin => exact quiet rfl

structure Shared.Safe (s : Shared) : Prop where
  kept : s.Kept
  proper : ∀ process ∈ s.processes, process.Proper

theorem kept_advance {phase : Phase} (kept : s.Kept) (proper : (⟨call, phase⟩ : Process).Proper)
    (finds : s.Finds ⟨call, phase⟩) : (s.advance place env call phase).1.Kept := by
  cases phase with
  | begun => exact kept
  | compacting =>
    simp only [Shared.advance]
    split
    · exact kept
    · exact kept
  | replacing records =>
    simp only [Shared.advance]
    cases there : s.temporary with
    | none => exact kept
    | some content =>
      intro id event last
      have same := finds content there
      dsimp only
      rw [shown_eq, same, ← shown_eq]
      exact kept id event last
  | discarding => exact kept
  | appending record => exact kept_append kept proper finds
  | ended => exact kept

theorem kept_processes (kept : s.Kept) (processes : List Process) : Shared.Kept { s with processes } := kept

theorem Shared.Safe.next {step : Step} (safe : s.Safe) (undisturbed : s.Undisturbed step) :
    (s.next place step).Safe := by
  cases step with
  | start call =>
    refine ⟨kept_processes safe.kept _, fun process member => ?_⟩
    cases List.mem_append.1 member with
    | inl before => exact safe.proper process before
    | inr new =>
      rw [List.mem_singleton.1 new]
      exact proper_of_ne fun _ => Phase.noConfusion
  | advance i env =>
    simp only [Shared.next]
    cases found : s.processes[i]? with
    | none => exact safe
    | some process =>
      have here := List.mem_of_getElem? found
      refine ⟨kept_processes (kept_advance safe.kept (safe.proper process here) (undisturbed process found)) _, ?_⟩
      intro other member
      cases List.mem_or_eq_of_mem_set member with
      | inl before => exact safe.proper other before
      | inr new =>
        rw [new]
        exact proper_advance s process.phase
  | fail i =>
    refine ⟨kept_processes safe.kept _, proper_modify i Phase.failed (fun phase => ?_) safe.proper⟩
    cases phase with
    | replacing => exact fun _ => Phase.noConfusion
    | _ => exact fun _ => Phase.noConfusion
  | stop i => exact ⟨kept_processes safe.kept _, proper_modify i (fun _ => .ended) (fun _ _ => Phase.noConfusion) safe.proper⟩

theorem Shared.Safe.initial : Shared.initial.Safe := ⟨fun _ _ last => (nomatch last), fun _ member => (nomatch member)⟩

theorem said_stays (place : Place) (steps : List Step)
    (undisturbed : Throughout (Shared.next place) Shared.Undisturbed .initial steps) : (Shared.run place steps).Kept :=
  (run_invariant (fun _ _ => Shared.Safe.next) Shared.Safe.initial undisturbed).kept

end Kept

section Pinning

def adding (id title : String) : Call := .add
  { title
    body := "Body"
    tags := []
    refs := []
    origin := ⟨.user, none, none, none⟩
    pinned := false
    id := some id } ""

def moment (now : Nat) : Surroundings := ⟨now, false⟩

def inOrderOfTime : List Step :=
  [.start (adding "one" "First"), .advance 0 (moment 1), .advance 0 (moment 1),
    .start (.pin "one" true), .advance 1 (moment 2), .advance 1 (moment 2),
    .start (.remove "one"), .advance 2 (moment 3), .advance 2 (moment 3)]

theorem removed_note_stays_removed : shown (Shared.run ⟨.global, none⟩ inOrderOfTime).file "one" = none :=
  said_stays ⟨.global, none⟩ inOrderOfTime (by decide +kernel) "one" (.removed "one") (by decide +kernel)

/-- A pin that has read the note before it is removed brings it back. -/
theorem not_always_kept : ¬∀ (place : Place) (steps : List Step), (Shared.run place steps).Kept := by
  intro kept
  have back := kept ⟨.global, none⟩
    [.start (adding "one" "First"), .advance 0 (moment 1), .advance 0 (moment 1),
      .start (.pin "one" true), .advance 1 (moment 2),
      .start (.remove "one"), .advance 2 (moment 3), .advance 2 (moment 3),
      .advance 1 (moment 4)] "one" (.removed "one") (by decide +kernel)
  exact absurd back (by decide +kernel)

end Pinning

end VibeLink.Memory
