import Mathlib.Data.List.Pairwise
import VibeLink.Coordinator.Dependencies

/-! Launches: a dispatch is claimed once, a launch that is prepared again finds its claims, and
a dispatch is bound once. -/

namespace VibeLink.Coordinator

open VibeLink.Relational

namespace Ledger

def ClaimedBy (L : Ledger) (dispatchId operationId : Uuid) : Prop :=
  (L.claims dispatchId).map LaunchClaimRow.operationId = some operationId

def rank (L : Ledger) (dispatchId : Uuid) : Nat :=
  (((L.dispatches dispatchId).bind fun row => L.tasks row.taskId).map TaskRecord.position).getD 0

/-- The dispatches that an operation has claimed, in the order of their tasks. -/
structure ClaimList (L : Ledger) (operationId : Uuid) (ids : List Uuid) : Prop where
  mem : ∀ d, d ∈ ids ↔ L.ClaimedBy d operationId
  rows : ∀ d ∈ ids, ∃ row task, L.dispatches d = some row ∧ L.tasks row.taskId = some task
  order : ids.Pairwise fun d e => L.rank d < L.rank e

/-- Claims belong to launches, and each launch has the list of its claims. -/
structure Launched (L : Ledger) : Prop where
  opened : ∀ d claim, L.claims d = some claim → (L.launches claim.operationId).isSome
  listed : ∀ i, (L.launches i).isSome → ∃ ids, L.ClaimList i ids

theorem launched_empty : Ledger.empty.Launched where
  opened := by rintro _ _ ⟨⟩
  listed := by rintro _ ⟨⟩

theorem ClaimList.unique {L : Ledger} {operationId : Uuid} {ids ids' : List Uuid}
    (h : L.ClaimList operationId ids) (h' : L.ClaimList operationId ids') : ids = ids' := by
  have : Std.Irrefl fun d e => L.rank d < L.rank e := ⟨fun d => lt_irrefl _⟩
  have : Std.Asymm fun d e => L.rank d < L.rank e := ⟨fun d e => lt_asymm⟩
  exact h.order.eq_of_mem_iff h'.order fun d => (h.mem d).trans (h'.mem d).symm

/-- What is never undone: a claim, a launch with its request and its final result, and that a
dispatch is no longer pending. -/
structure Kept (L L' : Ledger) : Prop where
  claims : ∀ d claim, L.claims d = some claim → L'.claims d = some claim
  launches : ∀ i old, L.launches i = some old → ∃ new, L'.launches i = some new ∧
    new.requestHash = old.requestHash ∧ (old.result.isSome → new = old)
  bound : ∀ d row, L.dispatches d = some row → row.status ≠ .pending →
    ∃ row', L'.dispatches d = some row' ∧ row'.status ≠ .pending

theorem Kept.refl (L : Ledger) : L.Kept L where
  claims _ _ row := row
  launches _ old row := ⟨old, row, rfl, fun _ => rfl⟩
  bound _ row found bound := ⟨row, found, bound⟩

theorem Kept.trans {L L' L'' : Ledger} (h : L.Kept L') (h' : L'.Kept L'') : L.Kept L'' where
  claims d claim row := h'.claims d claim (h.claims d claim row)
  launches i old row := by
    obtain ⟨mid, found, hash, same⟩ := h.launches i old row
    obtain ⟨new, found', hash', same'⟩ := h'.launches i mid found
    exact ⟨new, found', hash'.trans hash, fun final => (same' (same final ▸ final)).trans (same final)⟩
  bound d row found bound := by
    obtain ⟨row', found', bound'⟩ := h.bound d row found bound
    exact h'.bound d row' found' bound'

end Ledger

namespace Move

variable {L L' : Ledger} {l : Label}

theorem claims_eq (h : Move l L L') (d : Uuid) :
    L'.claims d = L.claims d ∨ ∃ claim, L.claims d = none ∧ L'.claims d = some claim ∧
      l = .claim d claim.operationId := by
  cases h with
  | @claim _ new fresh =>
    by_cases hd : d = new.dispatchId
    · subst hd
      exact .inr ⟨new, fresh, Function.update_self .., rfl⟩
    · exact .inl (Function.update_of_ne hd ..)
  | _ => exact .inl rfl

theorem launch_kept (h : Move l L L') {i : Uuid} {old : LaunchOperationRow}
    (row : L.launches i = some old) : ∃ new, L'.launches i = some new ∧
      new.requestHash = old.requestHash ∧ (old.result.isSome → new = old) := by
  cases h with
  | @openLaunch _ launch fresh =>
    refine ⟨old, (Function.update_of_ne ?_ ..).trans row, rfl, fun _ => rfl⟩
    rintro rfl
    rw [row] at fresh
    cases fresh
  | @reviseLaunch _ was new found hash intent =>
    by_cases hi : i = new.operationId
    · subst hi
      rw [found, Option.some.injEq] at row
      subst row
      exact ⟨new, Function.update_self .., hash, by simp [intent]⟩
    · exact ⟨old, (Function.update_of_ne hi ..).trans row, rfl, fun _ => rfl⟩
  | _ => exact ⟨old, row, rfl, fun _ => rfl⟩

theorem dispatch_place (h : Move l L L') {d : Uuid} {row : DispatchRow} {task : TaskRecord}
    (found : L.dispatches d = some row) (task_row : L.tasks row.taskId = some task) :
    ∃ row' task', L'.dispatches d = some row' ∧ L'.tasks row'.taskId = some task' ∧
      task'.place = task.place := by
  have owner : ∃ row', L'.dispatches d = some row' ∧ row'.taskId = row.taskId := by
    cases h.dispatch_step d with
    | same same => exact ⟨row, same ▸ found, rfl⟩
    | created fresh => rw [found] at fresh; cases fresh
    | revised was now task_id =>
      rw [found, Option.some.injEq] at was
      exact ⟨_, now, was ▸ task_id⟩
  obtain ⟨row', found', same⟩ := owner
  obtain ⟨task', task_row', place, _⟩ := h.task_place task_row
  exact ⟨row', task', found', same ▸ task_row', place⟩

theorem dispatch_bound (h : Move l L L') {d : Uuid} {row : DispatchRow}
    (found : L.dispatches d = some row) (bound : row.status ≠ .pending) :
    ∃ row', L'.dispatches d = some row' ∧ row'.status ≠ .pending := by
  cases h.dispatch_step d with
  | same same => exact ⟨row, same ▸ found, bound⟩
  | created fresh => rw [found] at fresh; cases fresh
  | revised was now _ turn =>
    rw [found, Option.some.injEq] at was
    subst was
    refine ⟨_, now, fun pending => ?_⟩
    cases turn with
    | revise same => exact bound (same ▸ pending)
    | advance _ _ bound => exact bound pending
    | resume _ running => rw [pending] at running; cases running
    | finish _ final => rw [pending] at final; cases final
    | release _ failed => rw [pending] at failed; cases failed
    | cancel _ _ cancelled => rw [pending] at cancelled; cases cancelled

theorem kept (h : Move l L L') : L.Kept L' where
  claims d claim row := by
    rcases h.claims_eq d with same | ⟨_, fresh, _⟩
    · rw [same, row]
    · rw [row] at fresh
      cases fresh
  launches _ _ row := h.launch_kept row
  bound _ _ found bound := h.dispatch_bound found bound

theorem claimList (h : Move l L L') {operationId : Uuid} {ids : List Uuid}
    (other : ∀ d, l ≠ .claim d operationId) (list : L.ClaimList operationId ids) :
    L'.ClaimList operationId ids := by
  have rank : ∀ d ∈ ids, L'.rank d = L.rank d := by
    intro d hd
    obtain ⟨row, task, found, task_row⟩ := list.rows d hd
    obtain ⟨row', task', found', task_row', place⟩ := h.dispatch_place found task_row
    simp [Ledger.rank, found, found', task_row, task_row', (Prod.mk.inj place).2]
  refine ⟨fun d => (list.mem d).trans ?_, fun d hd => ?_, list.order.imp_of_mem fun hd he lt => ?_⟩
  · rcases h.claims_eq d with same | ⟨claim, fresh, row, label⟩
    · rw [Ledger.ClaimedBy, Ledger.ClaimedBy, same]
    · simp only [Ledger.ClaimedBy, fresh, row, Option.map_none, Option.map_some, reduceCtorEq,
        Option.some.injEq, false_iff]
      rintro rfl
      exact other d label
  · obtain ⟨row, task, found, task_row⟩ := list.rows d hd
    obtain ⟨row', task', found', task_row', _⟩ := h.dispatch_place found task_row
    exact ⟨row', task', found', task_row'⟩
  · rw [rank _ hd, rank _ he]
    exact lt

theorem launch_origin (h : Move l L L') {i : Uuid} (opened : (L'.launches i).isSome) :
    (L.launches i).isSome ∨ l = .openLaunch i := by
  cases h with
  | @openLaunch _ launch =>
    by_cases hi : i = launch.operationId
    · exact .inr (by rw [hi])
    · exact .inl ((congrArg Option.isSome (Function.update_of_ne hi ..)).symm.trans opened)
  | @reviseLaunch _ _ new found =>
    by_cases hi : i = new.operationId
    · exact .inl (by rw [hi, found]; rfl)
    · exact .inl ((congrArg Option.isSome (Function.update_of_ne hi ..)).symm.trans opened)
  | _ => exact .inl opened

theorem launched (h : Move l L L') (unopened : ∀ i, l ≠ .openLaunch i)
    (unclaimed : ∀ d i, l ≠ .claim d i) (launched : L.Launched) : L'.Launched where
  opened d claim row := by
    have was : L.claims d = some claim := by
      rcases h.claims_eq d with same | ⟨_, _, _, label⟩
      · rw [← same, row]
      · exact absurd label (unclaimed d _)
    obtain ⟨old, open_⟩ := Option.isSome_iff_exists.1 (launched.opened d claim was)
    obtain ⟨new, still, _⟩ := h.launch_kept open_
    rw [still]
    rfl
  listed i opened := by
    obtain ⟨ids, list⟩ := launched.listed i ((h.launch_origin opened).resolve_right (unopened i))
    exact ⟨ids, h.claimList (fun d => unclaimed d i) list⟩

end Move

variable {platform : Platform} {env : Env} {operationId : Uuid} {s : Store} {call : Call}

section Prepare

theorem Planned.positions {runId : Uuid} {expected : Nat} {plan : ScheduleResult} {L : Ledger}
    (h : Planned s runId expected plan L) (located : L.Located) :
    (plan.dispatches.map fun d => d.id).Pairwise fun d e => L.rank d < L.rank e := by
  obtain ⟨ready, owners, order, distinct, places⟩ := h.tasks
  -- the rank of a dispatch is the position of its task
  have ranks : plan.dispatches.map (fun d => L.rank d.id) = ready.map TaskRecord.position := by
    have position : ∀ t ∈ ready, ((L.tasks t.id).map TaskRecord.position).getD 0 = t.position := by
      intro t ht
      obtain ⟨_, place⟩ := places t ht
      obtain ⟨task, row, same⟩ := Option.map_eq_some_iff.1 place
      simp [row, (Prod.mk.inj same).2]
    calc plan.dispatches.map (fun d => L.rank d.id)
        = (plan.dispatches.map fun d => d.taskId).map
            fun t => ((L.tasks t).map TaskRecord.position).getD 0 := by
          rw [List.map_map]
          refine List.map_congr_left fun d hd => ?_
          simp [Ledger.rank, (h.rows d hd).1]
      _ = ready.map TaskRecord.position := by
          rw [owners, List.map_map]
          exact List.map_congr_left position
  have increasing : ready.Pairwise fun a b => a.position < b.position := by
    refine (order.and (List.pairwise_map.1 distinct)).imp_of_mem fun {a b} ha hb hab => ?_
    obtain ⟨runa, placea⟩ := places a ha
    obtain ⟨runb, placeb⟩ := places b hb
    obtain ⟨ta, rowa, samea⟩ := Option.map_eq_some_iff.1 placea
    obtain ⟨tb, rowb, sameb⟩ := Option.map_eq_some_iff.1 placeb
    have apart : a.position ≠ b.position := by
      intro same
      refine hab.2 (located.place rowa rowb ?_)
      rw [samea, sameb, TaskRecord.place, TaskRecord.place, runa, runb, same]
    have le := hab.1
    simp only [Store.taskOrder, Bool.or_eq_true, Bool.and_eq_true, decide_eq_true_eq] at le
    exact le.resolve_right fun h => apart h.1
  rw [List.pairwise_map]
  rw [← List.pairwise_map (f := TaskRecord.position) (R := (· < ·)), ← ranks, List.pairwise_map] at increasing
  exact increasing

theorem Prepared.claimList {requestHash : String} {runId : Uuid} {expected : Nat}
    {plan : ScheduleResult} {L : Ledger}
    (h : Prepared s operationId requestHash runId expected plan L) (launched : s.ledger.Launched)
    (located : L.Located) : L.ClaimList operationId (plan.dispatches.map fun d => d.id) := by
  obtain ⟨L₁, planned, rest⟩ := h.scheduled
  have tasks : L.tasks = L₁.tasks := by rw [rest]
  have dispatches : L.dispatches = L₁.dispatches := by rw [rest]
  have located₁ : L₁.Located := ⟨fun row => tasks ▸ located.dependency (tasks ▸ row),
    fun row row' => located.place (tasks ▸ row) (tasks ▸ row')⟩
  have rank : L.rank = L₁.rank := by
    funext d
    rw [Ledger.rank, Ledger.rank, tasks, dispatches]
  refine ⟨fun d => ⟨fun hd => ?_, fun owner => ?_⟩, fun d hd => ?_, rank ▸ planned.positions located₁⟩
  · obtain ⟨claim, row, same⟩ := h.claimed d hd
    rw [Ledger.ClaimedBy, row, Option.map_some, same]
  · by_contra new
    rw [Ledger.ClaimedBy, h.others d new] at owner
    obtain ⟨claim, row, same⟩ := Option.map_eq_some_iff.1 owner
    have opened := launched.opened d claim row
    rw [same, h.fresh] at opened
    cases opened
  · obtain ⟨e, he, rfl⟩ := List.mem_map.1 hd
    obtain ⟨ready, owners, _, _, places⟩ := planned.tasks
    have owner : e.taskId ∈ ready.map TaskRecord.id := owners ▸ List.mem_map_of_mem he
    obtain ⟨t, ht, same⟩ := List.mem_map.1 owner
    obtain ⟨task, row, _⟩ := Option.map_eq_some_iff.1 (places t ht).2
    exact ⟨_, task, dispatches ▸ (planned.rows e he).1, by rw [tasks]; exact same ▸ row⟩

theorem Prepared.launched {requestHash : String} {runId : Uuid} {expected : Nat}
    {plan : ScheduleResult} {L : Ledger}
    (h : Prepared s operationId requestHash runId expected plan L) (launched : s.ledger.Launched)
    (located : L.Located) : L.Launched where
  opened d claim row := by
    obtain ⟨launch, open_, _, _, launches⟩ := h.launch
    by_cases hd : d ∈ plan.dispatches.map fun d => d.id
    · obtain ⟨claim', row', same⟩ := h.claimed d hd
      rw [row, Option.some.injEq] at row'
      rw [row', same, open_]
      rfl
    · rw [h.others d hd] at row
      rw [launches, Function.update_apply]
      split
      · rfl
      · exact launched.opened d claim row
  listed i opened := by
    by_cases hi : i = operationId
    · exact ⟨_, hi ▸ h.claimList launched located⟩
    · obtain ⟨launch, _, _, _, launches⟩ := h.launch
      rw [launches, Function.update_of_ne hi] at opened
      obtain ⟨ids, list⟩ := launched.listed i opened
      refine ⟨ids, h.chain.preserves (I := fun L => L.ClaimList i ids)
        (fun l _ _ prepares move => move.claimList ?_) list⟩
      rintro d rfl
      rcases prepares with scheduled | label | label | ⟨_, label⟩
      · exact scheduled
      · cases label
      · cases label
      · exact hi (Label.claim.inj label).2

theorem Store.dispatchOrder_total (s : Store) (a b : DispatchRow) :
    s.dispatchOrder a b ∨ s.dispatchOrder b a := by
  simp only [Store.dispatchOrder, Bool.or_eq_true, Bool.and_eq_true, decide_eq_true_eq]
  have := String.le_total a.id b.id
  grind

theorem Store.dispatchOrder_trans (s : Store) (a b c : DispatchRow) (hab : s.dispatchOrder a b)
    (hbc : s.dispatchOrder b c) : s.dispatchOrder a c := by
  simp only [Store.dispatchOrder, Bool.or_eq_true, Bool.and_eq_true, decide_eq_true_eq] at hab hbc ⊢
  have := @String.le_trans a.id b.id c.id
  grind

theorem Ledger.Launched.claimedDispatches (launched : s.ledger.Launched)
    (opened : (s.ledger.launches operationId).isSome) :
    s.ledger.ClaimList operationId ((s.claimedDispatches operationId).map DispatchRow.id) := by
  obtain ⟨ids, list⟩ := launched.listed operationId opened
  have found : ∀ row ∈ s.claimedDispatches operationId, s.ledger.dispatches row.id = some row ∧
      s.ledger.ClaimedBy row.id operationId := by
    intro row hrow
    rw [Store.claimedDispatches, mem_orderBy, List.mem_filter, Bool.and_eq_true,
      decide_eq_true_eq] at hrow
    exact ⟨Table.find_eq_some.2 ⟨hrow.1, rfl⟩, hrow.2.1⟩
  have mem : ∀ d, d ∈ (s.claimedDispatches operationId).map DispatchRow.id ↔
      s.ledger.ClaimedBy d operationId := by
    intro d
    constructor
    · intro hd
      obtain ⟨row, hrow, rfl⟩ := List.mem_map.1 hd
      exact (found row hrow).2
    · intro owner
      obtain ⟨row, task, row_found, task_found⟩ := list.rows d ((list.mem d).2 owner)
      obtain ⟨hrow, rfl⟩ := Table.find_eq_some.1 row_found
      refine List.mem_map_of_mem ?_
      rw [Store.claimedDispatches, mem_orderBy, List.mem_filter, Bool.and_eq_true, decide_eq_true_eq]
      exact ⟨hrow, owner, by rw [show s.tasks.find row.taskId = some task from task_found]; rfl⟩
  refine ⟨mem, fun d hd => list.rows d ((list.mem d).2 ((mem d).1 hd)), ?_⟩
  have distinct : ∀ d ∈ ids, ∀ e ∈ ids, d ≠ e → s.ledger.rank d ≠ s.ledger.rank e := by
    have : Std.Symm fun d e => s.ledger.rank d ≠ s.ledger.rank e := ⟨fun _ _ h => h.symm⟩
    exact fun d hd e he => (list.order.imp fun h => h.ne).forall hd he
  have nodup : ((s.claimedDispatches operationId).map DispatchRow.id).Nodup :=
    ((perm_orderBy _ _).map DispatchRow.id).nodup_iff.2 (s.dispatches.nodup_keys_filter _)
  rw [List.pairwise_map]
  refine ((pairwise_orderBy s.dispatchOrder_total s.dispatchOrder_trans _).and
    (List.pairwise_map.1 nodup)).imp_of_mem fun {a b} ha hb hab => ?_
  have rank (row : DispatchRow) (hrow : row ∈ s.claimedDispatches operationId) :
      s.ledger.rank row.id = s.taskPosition row := by
    rw [Ledger.rank, (found row hrow).1]
    rfl
  have apart := distinct a.id ((list.mem _).2 (found a ha).2) b.id ((list.mem _).2 (found b hb).2) hab.2
  rw [rank a ha, rank b hb] at apart ⊢
  have le := hab.1
  simp only [Store.dispatchOrder, Bool.or_eq_true, Bool.and_eq_true, decide_eq_true_eq] at le
  exact le.resolve_right fun h => apart h.1

/-- A preparation answers with the claims of the launch, or with its final result. -/
inductive Ledger.Answers (L : Ledger) (operationId : Uuid) : Response → Prop where
  | intent {plan : ScheduleResult} (list : L.ClaimList operationId (plan.dispatches.map fun d => d.id)) :
      L.Answers operationId (.preparation (.intent plan))
  | replay {result : DispatchLaunchResult} {launch : LaunchOperationRow}
      (row : L.launches operationId = some launch) (final : launch.result = some result) :
      L.Answers operationId (.preparation (.replay result))

theorem prepareDispatchLaunch_answers {request spec : DispatchLaunchRequest} (sound : s.ledger.Sound)
    (launched : s.ledger.Launched) (normal : launchSpecification request = .ok spec) :
    (prepareDispatchLaunch platform env operationId request).wlp (fun response s' =>
      s'.ledger.Located → s'.ledger.Answers operationId response ∧
        (s'.ledger.launches operationId).map LaunchOperationRow.requestHash =
          some (dispatchLaunchRequestHash platform spec)) s := by
  refine prepareDispatchLaunch_spec sound.policy (fun normal' launch result hnormal row hash final _ => ?_)
    (fun normal' launch hnormal row hash _ _ => ?_) fun normal' plan s' hnormal h located => ?_
  all_goals rw [normal, Except.ok.injEq] at hnormal; subst hnormal
  · exact ⟨.replay row final, by simp [row, hash]⟩
  · refine ⟨.intent ?_, by simp [row, hash]⟩
    have list := launched.claimedDispatches (by rw [row]; rfl)
    simpa [Function.comp_def, Store.dispatchRecord] using list
  · obtain ⟨launch, row, hash, _⟩ := h.launch
    exact ⟨.intent (h.claimList launched located), by simp [row, hash]⟩

end Prepare

section Steps

theorem perform_prepare {request : DispatchLaunchRequest}
    (prepares : call.op = .prepareDispatchLaunch request) :
    perform platform call = prepareDispatchLaunch platform call.env call.operationId request := by
  simp only [perform, prepares]

theorem next_of_opened (sound : s.ledger.Sound) {request : DispatchLaunchRequest}
    (opened : (s.ledger.launches call.operationId).isSome)
    (prepares : call.op = .prepareDispatchLaunch request) : next platform s call = s := by
  refine next_of_wlp (P := fun s' => s' = s) rfl ?_
  rw [perform_prepare prepares]
  refine prepareDispatchLaunch_spec sound.policy (fun _ _ _ _ _ _ _ => rfl)
    (fun _ _ _ _ _ _ => rfl) fun _ _ s' _ h => ?_
  rw [h.fresh] at opened
  cases opened

theorem next_claimList (sound : s.ledger.Sound) {ids : List Uuid}
    (opened : (s.ledger.launches operationId).isSome) (list : s.ledger.ClaimList operationId ids) :
    (next platform s call).ledger.ClaimList operationId ids := by
  by_cases own : operationId = call.operationId ∧ ∃ request, call.op = .prepareDispatchLaunch request
  · obtain ⟨rfl, request, prepares⟩ := own
    rwa [next_of_opened sound opened prepares]
  · refine (next_outcome platform sound.policy call).chain.preserves
      (I := fun L => L.ClaimList operationId ids) (fun l _ _ permitted move => move.claimList ?_) list
    rintro d rfl
    exact own permitted

theorem next_launched (sound : s.ledger.Sound) (launched : s.ledger.Launched)
    (located : (next platform s call).ledger.Located) : (next platform s call).ledger.Launched := by
  by_cases prepares : ∃ request, call.op = .prepareDispatchLaunch request
  · obtain ⟨request, prepares⟩ := prepares
    refine next_of_wlp (P := fun s' => s'.ledger.Located → s'.ledger.Launched) (fun _ => launched) ?_
      located
    rw [perform_prepare prepares]
    exact prepareDispatchLaunch_spec sound.policy (fun _ _ _ _ _ _ _ _ => launched)
      (fun _ _ _ _ _ _ _ => launched) fun _ _ _ _ h => h.launched launched
  · refine (next_outcome platform sound.policy call).chain.preserves
      (I := Ledger.Launched) (fun l _ _ permitted move => move.launched ?_ ?_) launched
    · rintro i rfl
      exact prepares permitted.2
    · rintro d i rfl
      exact prepares permitted.2

end Steps

section Runs

variable (platform) (calls more : List Call)

theorem run_kept : (run platform calls).ledger.Kept (run platform (calls ++ more)).ledger := by
  induction more using List.reverseRecOn with
  | nil => rw [List.append_nil]; exact .refl _
  | append_singleton more call ih =>
    rw [← List.append_assoc, run_snoc]
    refine ih.trans ?_
    exact (next_outcome platform (run_sound platform _).policy call).chain.relates
      Ledger.Kept.refl (fun _ _ _ => .trans) fun _ _ _ _ move => move.kept

theorem run_launched : (run platform calls).ledger.Launched := by
  induction calls using List.reverseRecOn with
  | nil => exact Ledger.launched_empty
  | append_singleton calls call ih =>
    have located := run_located platform (calls ++ [call])
    rw [run_snoc] at located ⊢
    exact next_launched (run_sound platform calls) ih located

variable {calls} in
theorem run_claimList {ids : List Uuid}
    (opened : ((run platform calls).ledger.launches operationId).isSome)
    (list : (run platform calls).ledger.ClaimList operationId ids) :
    (run platform (calls ++ more)).ledger.ClaimList operationId ids := by
  induction more using List.reverseRecOn with
  | nil => rwa [List.append_nil]
  | append_singleton more call ih =>
    rw [← List.append_assoc, run_snoc]
    obtain ⟨old, row⟩ := Option.isSome_iff_exists.1 opened
    obtain ⟨new, row', _⟩ := (run_kept platform calls more).launches operationId old row
    exact next_claimList (run_sound platform _) (by rw [row']; rfl) ih

end Runs

/-- The call prepares the launch with this specification, normalised. -/
def Call.PreparesLaunch (call : Call) (operationId : Uuid) (spec : DispatchLaunchRequest) : Prop :=
  call.operationId = operationId ∧
    ∃ request, call.op = .prepareDispatchLaunch request ∧ launchSpecification request = .ok spec

/-- The second answer shows the same claims as the first, or the final result on record. -/
inductive Repeats (s : Store) (operationId : Uuid) : Response → Response → Prop where
  | claims {plan plan' : ScheduleResult}
      (same : plan'.dispatches.map (fun d => d.id) = plan.dispatches.map fun d => d.id) :
      Repeats s operationId (.preparation (.intent plan)) (.preparation (.intent plan'))
  | final {plan : ScheduleResult} {launch : LaunchOperationRow} {result : DispatchLaunchResult}
      (row : s.launchOperations.find operationId = some launch) (final : launch.result = some result) :
      Repeats s operationId (.preparation (.intent plan)) (.preparation (.replay result))
  | replay (result : DispatchLaunchResult) :
      Repeats s operationId (.preparation (.replay result)) (.preparation (.replay result))

/-- The call at place `n` of the run takes the dispatch from pending to dispatched. -/
def Binds (platform : Platform) (calls : List Call) (dispatchId : Uuid) (n : Nat) : Prop :=
  ((run platform (calls.take n)).dispatches.find dispatchId).map DispatchRow.status =
      some .pending ∧
    ((run platform (calls.take (n + 1))).dispatches.find dispatchId).map DispatchRow.status =
      some .dispatched

theorem binds_le {calls : List Call} {d : Uuid} {m n : Nat} (hm : Binds platform calls d m)
    (hn : Binds platform calls d n) : n ≤ m := by
  by_contra later
  obtain ⟨row, found, dispatched⟩ := Option.map_eq_some_iff.1 hm.2
  have prefix_eq : calls.take n = calls.take (m + 1) ++ (calls.take n).drop (m + 1) := by
    conv_lhs => rw [← List.take_append_drop (m + 1) (calls.take n), List.take_take]
    rw [Nat.min_eq_left (by omega)]
  obtain ⟨row', found', bound⟩ := (run_kept platform (calls.take (m + 1))
    ((calls.take n).drop (m + 1))).bound d row found (by simp [dispatched])
  rw [← prefix_eq] at found'
  obtain ⟨row'', found'', pending⟩ := Option.map_eq_some_iff.1 hn.1
  cases found'.symm.trans found''
  exact bound pending

theorem prepare_again {request spec : DispatchLaunchRequest} {launch : LaunchOperationRow}
    (normal : launchSpecification request = .ok spec)
    (row : s.launchOperations.find operationId = some launch)
    (hash : launch.requestHash = dispatchLaunchRequestHash platform spec) :
    prepareDispatchLaunch platform env operationId request s =
      (.ok (.preparation (match launch.result with
        | some result => .replay result
        | none => .intent { launch.plan with
            dispatches := (s.claimedDispatches operationId).map s.dispatchRecord })), s) := by
  simp only [prepareDispatchLaunch, normal, Tx.ofExcept, Tx.gets, row, Tx.require, hash, Bind.bind, if_true]
  cases launch.result <;> rfl

theorem prepare_other {request spec : DispatchLaunchRequest} {launch : LaunchOperationRow}
    (normal : launchSpecification request = .ok spec)
    (row : s.launchOperations.find operationId = some launch)
    (hash : launch.requestHash ≠ dispatchLaunchRequestHash platform spec) :
    prepareDispatchLaunch platform env operationId request s = (.error (.conflict
      "launch operation id was already used for a different immutable specification"), s) := by
  simp only [prepareDispatchLaunch, normal, Tx.ofExcept, Tx.gets, row, Tx.require, hash, Bind.bind, if_false]

theorem repeats_of_answers {calls more : List Call} {response : Response}
    {launch launch' : LaunchOperationRow}
    (truth : (run platform calls).ledger.Answers operationId response)
    (row : (run platform calls).ledger.launches operationId = some launch)
    (row' : (run platform (calls ++ more)).ledger.launches operationId = some launch')
    (same : launch.result.isSome → launch' = launch) :
    Repeats (run platform (calls ++ more)) operationId response
      (.preparation (match launch'.result with
        | some result => .replay result
        | none => .intent { launch'.plan with
            dispatches := ((run platform (calls ++ more)).claimedDispatches operationId).map
              (run platform (calls ++ more)).dispatchRecord })) := by
  cases truth with
  | replay found final =>
    cases found.symm.trans row
    rw [same (by rw [final]; rfl), final]
    exact .replay _
  | intent list =>
    cases final : launch'.result with
    | some result => exact .final row' final
    | none =>
      refine .claims ?_
      have kept := run_claimList platform more (by rw [row]; rfl) list
      have now := (run_launched platform (calls ++ more)).claimedDispatches (by rw [row']; rfl)
      simpa [Function.comp_def, Store.dispatchRecord] using now.unique kept

theorem launch_repeats {calls more : List Call} {spec : DispatchLaunchRequest} {first : Call}
    {response : Response} {s' : Store} (prepares : first.PreparesLaunch operationId spec)
    (answered : perform platform first (run platform calls) = (.ok response, s')) :
    (∀ plan, response = .preparation (.intent plan) → ∀ d ∈ plan.dispatches,
      s'.ledger.ClaimedBy d.id operationId) ∧
    ∀ second spec', second.PreparesLaunch operationId spec' →
      (dispatchLaunchRequestHash platform spec' = dispatchLaunchRequestHash platform spec →
        spec' = spec) →
      (spec' = spec → ∃ response', Repeats (run platform (calls ++ first :: more)) operationId
          response response' ∧
        perform platform second (run platform (calls ++ first :: more)) =
          (.ok response', run platform (calls ++ first :: more))) ∧
      (spec' ≠ spec → perform platform second (run platform (calls ++ first :: more)) =
        (.error (.conflict
          "launch operation id was already used for a different immutable specification"),
          run platform (calls ++ first :: more))) := by
  obtain ⟨rfl, request, op, normal⟩ := prepares
  have after : run platform (calls ++ [first]) = s' := by rw [run_snoc, next, answered]
  obtain ⟨truth, recorded⟩ := prepareDispatchLaunch_answers (run_sound platform calls)
    (run_launched platform calls) normal response s' (perform_prepare op ▸ answered)
    (after ▸ run_located platform (calls ++ [first]))
  rw [← after] at truth recorded ⊢
  obtain ⟨launch, row, hash⟩ := Option.map_eq_some_iff.1 recorded
  have split : calls ++ first :: more = (calls ++ [first]) ++ more := by simp
  obtain ⟨launch', row', hash', same⟩ := (run_kept platform (calls ++ [first]) more).launches
    first.operationId launch row
  rw [split]
  refine ⟨?_, ?_⟩
  · rintro plan rfl d hd
    cases truth with
    | intent list => exact (list.mem d.id).1 (List.mem_map_of_mem hd)
  · rintro second spec' ⟨sameId, request', op', normal'⟩ apart
    refine ⟨?_, fun other => ?_⟩
    · rintro rfl
      refine ⟨_, ?_, (congrFun (perform_prepare op') _).trans
        (prepare_again normal' (sameId ▸ row') (hash'.trans hash))⟩
      rw [sameId]
      exact repeats_of_answers truth row row' same
    · refine (congrFun (perform_prepare op') _).trans (prepare_other normal' (sameId ▸ row') ?_)
      rw [hash', hash]
      exact fun h => other (apart h.symm)

/-- A claim stays with one operation, a launch that is prepared again is answered from its
record, and a dispatch is bound once. -/
theorem launched_once (platform : Platform) :
    (∀ calls more d i j, (run platform calls).ledger.ClaimedBy d i →
      ((run platform (calls ++ more)).ledger.ClaimedBy d j ↔ j = i)) ∧
    (∀ calls more operationId spec first response s', first.PreparesLaunch operationId spec →
      perform platform first (run platform calls) = (.ok response, s') →
      (∀ plan, response = .preparation (.intent plan) → ∀ d ∈ plan.dispatches,
        s'.ledger.ClaimedBy d.id operationId) ∧
      ∀ second spec', second.PreparesLaunch operationId spec' →
        (dispatchLaunchRequestHash platform spec' = dispatchLaunchRequestHash platform spec →
          spec' = spec) →
        (spec' = spec → ∃ response', Repeats (run platform (calls ++ first :: more)) operationId
            response response' ∧
          perform platform second (run platform (calls ++ first :: more)) =
            (.ok response', run platform (calls ++ first :: more))) ∧
        (spec' ≠ spec → perform platform second (run platform (calls ++ first :: more)) =
          (.error (.conflict
            "launch operation id was already used for a different immutable specification"),
            run platform (calls ++ first :: more)))) ∧
    ∀ calls d m n, Binds platform calls d m → Binds platform calls d n → m = n := by
  refine ⟨fun calls more d i j owned => ?_, fun calls more operationId spec first response s' =>
    launch_repeats, fun calls d m n hm hn => (binds_le hn hm).antisymm (binds_le hm hn)⟩
  obtain ⟨claim, row, rfl⟩ := Option.map_eq_some_iff.1 owned
  rw [Ledger.ClaimedBy, (run_kept platform calls more).claims d claim row]
  simp [eq_comm]

def launch (command : String) : Call :=
  .plain "launch" (.prepareDispatchLaunch ⟨"run-0", 2, command, none, .reuse⟩)

def failedLaunch : List Call :=
  scheduledRun.take 3 ++ launch "work" :: [.plain "fail" (.recordLaunchFailure ⟨"launch-0", 2, "spawn"⟩)]

theorem launch_again :
    (∃ response, perform .plain (launch " work ") (run .plain failedLaunch) =
      (.ok response, run .plain failedLaunch)) ∧
    perform .plain (launch "play") (run .plain failedLaunch) = (.error (.conflict
      "launch operation id was already used for a different immutable specification"),
      run .plain failedLaunch) := by
  have prepares (command : String) (spec : DispatchLaunchRequest)
      (h : launchSpecification ⟨"run-0", 2, command, none, .reuse⟩ = .ok spec) :
      (launch command).PreparesLaunch "launch" spec := ⟨rfl, _, rfl, h⟩
  rcases hp : perform .plain (launch "work") (run .plain (scheduledRun.take 3)) with
    ⟨e | response, s'⟩
  · have accepted : (perform .plain (launch "work") (run .plain (scheduledRun.take 3))).1.isOk := by
      decide +kernel
    rw [hp] at accepted
    cases accepted
  · obtain ⟨_, again⟩ := (launched_once .plain).2.1 _ [.plain "fail" (.recordLaunchFailure
      ⟨"launch-0", 2, "spawn"⟩)] _ _ _ _ _ (prepares "work" ⟨"run-0", 2, "work", none, .reuse⟩ rfl) hp
    constructor
    · obtain ⟨response', _, h⟩ := (again (launch " work ") ⟨"run-0", 2, "work", none, .reuse⟩
        (prepares " work " _ rfl) fun _ => rfl).1 rfl
      exact ⟨response', h⟩
    · exact (again (launch "play") ⟨"run-0", 2, "play", none, .reuse⟩ (prepares "play" _ rfl)
        fun same => absurd same (by decide)).2 (by decide)

end VibeLink.Coordinator
