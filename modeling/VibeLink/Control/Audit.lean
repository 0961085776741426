import VibeLink.Control.Writing

/-! The events that the control plane records tell all that has become of its workspaces. -/

namespace VibeLink.Control

open VibeLink.Relational Tx

variable {Hash : Type} {s s' : Database Hash}

def Database.events (s : Database Hash) (sessionId : String) : List EventRow :=
  s.runEvents.filter (·.sessionId = sessionId)

/-- Each operation that is known again has its one event, and a workspace is at the revision that its events come
to.  Revisions begin anew behind the greatest `i64`. -/
structure Audited (s : Database Hash) : Prop where
  operations : s.runEvents.map EventRow.operationId = s.operations.rows.map OperationRow.operationId
  revision : ∀ i, s.currentRevision i = (s.events i).length % 2 ^ 63

/-- What the events behind those of `s` say of the boards that were there. -/
structure Told (s s' : Database Hash) (events : List EventRow) : Prop where
  appended : s'.runEvents = s.runEvents ++ events
  untouched : ∀ i, (∀ event ∈ events, event.sessionId ≠ i) → s'.readBoard i = s.readBoard i

theorem bumped_mod (n : Nat) : bumped (n % 2 ^ 63) = (n + 1) % 2 ^ 63 := by
  have small := Nat.mod_lt n i64_pos
  rw [bumped_eq, ← Nat.mod_add_mod]
  split
  · rename_i below
    exact (Nat.mod_eq_of_lt below).symm
  · rename_i last
    have last : n % 2 ^ 63 + 1 = 2 ^ 63 := Nat.le_antisymm small (Nat.not_lt.1 last)
    rw [last, Nat.mod_self]

theorem events_snoc {event : EventRow} (appended : s'.runEvents = s.runEvents ++ [event])
    (i : String) : (s'.events i).length = (s.events i).length + if i = event.sessionId then 1 else 0 := by
  rw [Database.events, appended, List.filter_append, List.length_append, Database.events]
  split
  · rename_i here
    simp [here]
  · rename_i ne
    simp [Ne.symm ne]

theorem Told.refl (s : Database Hash) : Told s s [] := ⟨(List.append_nil _).symm, fun _ _ => rfl⟩

theorem Told.trans {s'' : Database Hash} {events events' : List EventRow} (first : Told s s' events)
    (second : Told s' s'' events') : Told s s'' (events ++ events') where
  appended := by rw [second.appended, first.appended, List.append_assoc]
  untouched i none := by
    rw [second.untouched i fun event member => none event (List.mem_append_right _ member)]
    exact first.untouched i fun event member => none event (List.mem_append_left _ member)

variable [DecidableEq Hash] {platform : Platform Hash}

theorem next_audited (sound : Sound s) (audited : Audited s) (call : Call) :
    Audited (next platform s call) ∧ ∃ events, Told s (next platform s call) events := by
  have executed := executed platform s call
  generalize (execute platform call.env call.operationId call.command s).1 = result at executed
  generalize next platform s call = s' at executed
  cases executed with
  | applied response mutated operations valid fresh mutates mutation recorded =>
    have spec := executeMutation_spec sound call.env call.command _ _ mutation
    have journal := (respects_executeMutation call.env call.command).respects s
    rw [mutation] at journal
    have events : mutated.runEvents = s.runEvents := congrArg Prod.snd journal
    rw [events]
    refine ⟨⟨?_, fun i => ?_⟩, _, rfl, fun i none => ?_⟩
    · rw [List.map_append, audited.operations, (Table.insert?_eq_some.1 recorded).2, List.map_append]
      rfl
    · refine (spec.revision i).trans ?_
      rw [events_snoc (s := s) rfl, audited.revision]
      split
      · exact bumped_mod _
      · rfl
    · have elsewhere : i ≠ call.command.sessionId := fun here => none _ (List.mem_singleton_self _) here.symm
      exact readBoard_congr (spec.items i elsewhere) (spec.briefs i elsewhere)
        ((spec.revision i).trans (if_neg elsewhere))
  | _ => exact ⟨audited, [], .refl s⟩

/-- In every run, and between any two moments of it. -/
theorem run_audited (platform : Platform Hash) (before after : List Call) :
    Audited (run platform (before ++ after)) ∧
      ∃ events, Told (run platform before) (run platform (before ++ after)) events := by
  have each (calls : List Call) : Audited (run platform calls) := by
    refine (run_invariant (I := fun s => Sound s ∧ Audited s)
      (fun s call h _ => ⟨next_sound h.1 call, (next_audited h.1 h.2 call).1⟩)
      ⟨fun i => .nil, rfl, fun i => rfl⟩ (throughout_of_forall (fun _ _ _ => trivial) _)).2
  refine ⟨each _, ?_⟩
  induction after using List.reverseRecOn with
  | nil => exact ⟨[], by rw [List.append_nil]; exact .refl _⟩
  | append_singleton after call ih =>
    obtain ⟨events, told⟩ := ih
    rw [← List.append_assoc, run_snoc]
    obtain ⟨more, tells⟩ := (next_audited (run_sound _) (each (before ++ after)) call).2
    exact ⟨events ++ more, told.trans tells⟩

end VibeLink.Control
