import VibeLink.Worktrees.Calls

/-! What one statement does to the rows. -/

namespace VibeLink.Worktrees

open Relational

namespace Registry

variable {s s' : Registry} {p : WorktreeRecord → Bool} {f : WorktreeRecord → WorktreeRecord} {n : Nat}

theorem write_cases (s : Registry) (worktrees : Table WorktreeRecord.id) :
    ((s.write worktrees).1.worktrees = worktrees ∧ (s.write worktrees).2 = .ok ()) ∨
      s.write worktrees = (s, .error uniqueFailed) := by
  unfold write
  split
  · exact .inl ⟨rfl, rfl⟩
  · exact .inr rfl

theorem update_of_place {same : ∀ record, (f record).id = record.id} (kept : ∀ record, (f record).place = record.place) :
    ∃ s', s.update p f same = (s', .ok (s.count p)) ∧ s'.worktrees = s.worktrees.update p f same := by
  have places : ((s.worktrees.update p f same).rows.map WorktreeRecord.place).Nodup := by
    rw [Table.rows_update, List.map_map]
    have there : WorktreeRecord.place ∘ (fun record => if p record then f record else record) = WorktreeRecord.place := by
      funext record
      by_cases holds : p record <;> simp [holds, kept]
    rw [there]
    exact s.places
  refine ⟨⟨_, places⟩, ?_, rfl⟩
  rw [update, write, dif_pos places]

theorem update_cases {same : ∀ record, (f record).id = record.id} :
    (∃ s', s.update p f same = (s', .ok (s.count p)) ∧ s'.worktrees = s.worktrees.update p f same) ∨
      s.update p f same = (s, .error uniqueFailed) := by
  unfold update
  cases s.write_cases (s.worktrees.update p f same) with
  | inl written =>
    have pair : s.write (s.worktrees.update p f same) = ((s.write (s.worktrees.update p f same)).1, .ok ()) :=
      Prod.ext rfl written.2
    rw [pair]
    exact .inl ⟨_, rfl, written.1⟩
  | inr failed =>
    rw [failed]
    exact .inr rfl

theorem delete_eq : ∃ s', s.delete p = (s', .ok (s.count p)) ∧
    s'.worktrees = s.worktrees.retain fun record => !p record := by
  have places : ((s.worktrees.retain fun record => !p record).rows.map WorktreeRecord.place).Nodup :=
    s.places.sublist (List.filter_sublist.map _)
  refine ⟨⟨_, places⟩, ?_, rfl⟩
  rw [delete, write, dif_pos places]

theorem count_isInstance {id instanceId : String} (q : WorktreeRecord → Bool) :
    s.count (fun record => isInstance id instanceId record && q record) =
      if (s.worktrees.find id).any (fun record => record.instanceId == instanceId && q record) then 1 else 0 := by
  have counted := Table.countP_erase s.worktrees id fun record => isInstance id instanceId record && q record
  have others : (s.worktrees.erase id).rows.countP (fun record => isInstance id instanceId record && q record) = 0 := by
    rw [List.countP_eq_zero]
    intro record member
    have apart := (List.mem_filter.1 member).2
    simp only [decide_eq_true_eq] at apart
    simp [isInstance, apart]
  rw [others] at counted
  rw [count, ← counted]
  cases found : s.worktrees.find id with
  | none => rfl
  | some record =>
    have named : record.id = id := Table.key_of_find found
    simp [List.countP_singleton, isInstance, named]

theorem update_instance {id instanceId : String} {record : WorktreeRecord}
    {same : ∀ record, (f record).id = record.id} (kept : ∀ record, (f record).place = record.place)
    (found : s.worktrees.find id = some record) (right : record.instanceId = instanceId) :
    ∃ s', s.update (isInstance id instanceId) f same = (s', .ok 1) ∧
      s'.worktrees.find = Function.update s.worktrees.find id (some (f record)) := by
  obtain ⟨s', updated, rows⟩ := @update_of_place s (isInstance id instanceId) f same kept
  have counted : s.count (isInstance id instanceId) = 1 := by
    have all := @count_isInstance s id instanceId fun _ => true
    simpa [found, right] using all
  have named : record.id = id := Table.key_of_find found
  refine ⟨s', by rw [updated, counted], ?_⟩
  rw [rows, Table.find_update, modifyAll_eq_update found]
  · simp [isInstance, named, right]
  · intro other row ne there
    have key : row.id = other := Table.key_of_find there
    simp [isInstance, key, ne]

theorem update_stale {id instanceId : String} {same : ∀ record, (f record).id = record.id}
    (stale : ∀ record, s.worktrees.find id = some record → record.instanceId ≠ instanceId) (q : WorktreeRecord → Bool) :
    (s.update (fun record => isInstance id instanceId record && q record) f same).1.worktrees.find =
      s.worktrees.find := by
  obtain ⟨s', updated, rows⟩ | failed := @update_cases s (fun record => isInstance id instanceId record && q record) f same
  · rw [updated, rows, Table.find_update]
    funext other
    cases there : s.worktrees.find other with
    | none => simp [modifyAll, there]
    | some row =>
      have key : row.id = other := Table.key_of_find there
      have unmeant : isInstance id instanceId row = false := by
        by_contra meant
        simp only [isInstance, Bool.not_eq_false, Bool.and_eq_true, beq_iff_eq] at meant
        exact stale row (meant.1 ▸ key ▸ there) meant.2
      simp [modifyAll, there, unmeant]
  · rw [failed]

theorem update_row {id : String} {record : WorktreeRecord} {same : ∀ record, (f record).id = record.id}
    (found : s.worktrees.find id = some record) : (s.update p f same).1.worktrees.find id = some record ∨
      p record = true ∧ (s.update p f same).1.worktrees.find id = some (f record) := by
  obtain ⟨s', updated, rows⟩ | failed := @update_cases s p f same
  · rw [updated, rows, Table.find_update, modifyAll, found, Option.map_some]
    cases meant : p record with
    | true => exact .inr ⟨rfl, by rw [if_pos rfl]⟩
    | false => exact .inl (by rw [if_neg Bool.false_ne_true])
  · rw [failed]
    exact .inl found

theorem delete_row {id : String} {record : WorktreeRecord} (found : s.worktrees.find id = some record)
    (spared : p record = false) : (s.delete p).1.worktrees.find id = some record := by
  obtain ⟨s', deleted, rows⟩ := @delete_eq s p
  rw [deleted, rows, Table.find_retain, found, Option.filter_some, spared]
  rfl

theorem insert_cases (s : Registry) (record : WorktreeRecord) :
    (∃ s', s.insert record = (s', .ok 1) ∧ s.worktrees.find record.id = none ∧
      s'.worktrees.find = Function.update s.worktrees.find record.id (some record)) ∨
    s.insert record = (s, .error uniqueFailed) := by
  unfold insert
  cases inserted : s.worktrees.insert? record with
  | none => exact .inr rfl
  | some worktrees =>
    dsimp only
    cases s.write_cases worktrees with
    | inl written =>
      have pair : s.write worktrees = ((s.write worktrees).1, .ok ()) := Prod.ext rfl written.2
      rw [pair]
      refine .inl ⟨_, rfl, (Table.insert?_eq_some.1 inserted).1, ?_⟩
      rw [written.1, Table.find_insert inserted]
    | inr failed =>
      rw [failed]
      exact .inr rfl

theorem insert_row {id : String} {record new : WorktreeRecord} (found : s.worktrees.find id = some record) :
    (s.insert new).1.worktrees.find id = some record := by
  obtain ⟨s', inserted, fresh, there⟩ | failed := s.insert_cases new
  · rw [inserted, there, Function.update_of_ne]
    · exact found
    · rintro rfl
      exact nomatch fresh.symm.trans found
  · rw [failed]
    exact found

theorem validatedParentRecord_eq {repository : RepositoryIdentity} {nativeRows : List NativeWorktree} {path : String}
    {parent valid : WorktreeRecord} (validated : validatedParentRecord repository nativeRows path parent = .ok valid) :
    valid = parent := by
  unfold validatedParentRecord at validated
  split at validated
  · cases validated
  · split at validated
    · cases validated
    · split at validated
      · cases validated
      · cases validated
        rfl

def requested (text kept : Option String) : Option String :=
  match text with
  | some text => nonempty text
  | none => kept

theorem set_cases (s : Registry) (request : WorktreeSetRequest) (repository : RepositoryIdentity)
    (nativeRows : List NativeWorktree) :
    (∃ current parent comment reviewTarget s', s.worktrees.find request.worktreeId = some current ∧
      current.instanceId = request.expectedInstanceId ∧
      s.setParent request repository nativeRows current = .ok parent ∧
      (s.set request repository nativeRows).1 = s' ∧
      s'.worktrees.find = Function.update s.worktrees.find request.worktreeId (some { current with
        comment
        reviewTarget
        parentWorktreeId := parent.worktreeId
        parentInstanceId := parent.instanceId
        parentSessionId := parent.sessionId })) ∨
    (s.set request repository nativeRows).1 = s := by
  unfold set
  cases found : s.worktrees.find request.worktreeId with
  | none => exact .inr rfl
  | some current =>
    dsimp only
    by_cases right : current.instanceId = request.expectedInstanceId
    · rw [requireInstance, if_neg (not_not_intro right)]
      dsimp only
      cases assigned : s.setParent request repository nativeRows current with
      | error e => exact .inr rfl
      | ok parent =>
        left
        obtain ⟨s', done, rows⟩ := @update_instance s (fun record => { record with
          comment := requested request.comment record.comment
          reviewTarget := requested request.reviewTarget record.reviewTarget
          parentWorktreeId := parent.worktreeId
          parentInstanceId := parent.instanceId
          parentSessionId := parent.sessionId }) _ _ current (fun _ => rfl) (fun _ => rfl) found right
        refine ⟨current, parent, _, _, s', rfl, right, assigned, ?_, rows⟩
        dsimp only
        erw [done]
        dsimp only
        rw [if_neg (by decide), rows, Function.update_self]
    · rw [requireInstance, if_pos right]
      exact .inr rfl

theorem prepareRemoval_cases (s : Registry) (id instanceId : String) :
    (∃ record s', s.worktrees.find id = some record ∧ record.instanceId = instanceId ∧
      s.prepareRemoval id instanceId = (s', .ok { record with lifecycle := .removing }) ∧
      s'.worktrees.find = Relational.modify s.worktrees.find id fun record => { record with lifecycle := .removing }) ∨
    (s.worktrees.find id = none ∧ s.prepareRemoval id instanceId = (s, .error (notFound id))) ∨
    ∃ record, s.worktrees.find id = some record ∧ record.instanceId ≠ instanceId ∧
      s.prepareRemoval id instanceId = (s, .error "worktree instance changed") := by
  unfold prepareRemoval requireInstance
  cases found : s.worktrees.find id with
  | none => exact .inr (.inl ⟨rfl, rfl⟩)
  | some record =>
    dsimp only
    by_cases right : record.instanceId = instanceId
    · left
      obtain ⟨s', updated, rows⟩ := @update_of_place s
        (fun record => isInstance id instanceId record && !isRemoving record)
        (fun record => { record with lifecycle := .removing }) (fun _ => rfl) fun _ => rfl
      have count := @count_isInstance s id instanceId fun record => !isRemoving record
      rw [if_neg (not_not_intro right)]
      dsimp only
      rw [updated]
      refine ⟨record, s', rfl, right, ?_, ?_⟩
      · dsimp only
        rw [if_neg]
        rintro ⟨zero, active⟩
        rw [count, found, if_pos (by simp [right, isRemoving, active])] at zero
        exact nomatch zero
      · funext other
        rw [rows, Table.find_update, modifyAll, Relational.modify]
        by_cases here : other = id
        · rw [if_pos here, here, found]
          by_cases already : isRemoving record
          · have same : { record with lifecycle := .removing } = record := by
              have lifecycle : record.lifecycle = .removing := by simpa [isRemoving] using already
              rw [← lifecycle]
            simp [already, same]
          · have named : record.id = id := Table.key_of_find found
            simp [already, isInstance, named, right]
        · rw [if_neg here]
          cases there : s.worktrees.find other with
          | none => rfl
          | some row =>
            have named : row.id = other := Table.key_of_find there
            simp [isInstance, named, here]
    · right
      right
      rw [if_pos right]
      exact ⟨record, rfl, right, rfl⟩

end Registry

end VibeLink.Worktrees
