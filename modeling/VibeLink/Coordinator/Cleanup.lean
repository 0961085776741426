import VibeLink.Coordinator.Capacity

/-! Cleanup of a worktree follows the merge of it: what `cleanup_authorization` reads back has
been written by an approval and by a recorded merge. -/

namespace VibeLink.Coordinator

open VibeLink.Relational

variable {platform : Platform} {L L' : Ledger} {l : Label} {s : Store} {call : Call}

/-- The gate is a merge gate of the dispatch, resolved with an approval. -/
def MergeApproved (L : Ledger) (gateId dispatchId : Uuid) (resolution : Option Json) : Prop :=
  ∃ gate, L.gates gateId = some gate ∧ gate.gateType = "merge" ∧ gate.dispatchId = some dispatchId ∧
    gate.status = .resolved ∧ approved gate.resolution ∧ gate.resolution = resolution

/-- The call is a `resolve_gate` that approves a pending merge gate of the dispatch. -/
def ApprovesMerge (platform : Platform) (s : Store) (call : Call) (gateId dispatchId : Uuid) : Prop :=
  ∃ request gate, call.op = .resolveGate request ∧ request.gateId = gateId ∧
    s.ledger.gates gateId = some gate ∧ gate.status = .pending ∧
    MergeApproved (next platform s call).ledger gateId dispatchId (some request.resolution)

/-- The call is a `mark_merge_applied` that records the merge of an approved merge gate. -/
def RecordsMerge (platform : Platform) (s : Store) (call : Call) (gateId dispatchId : Uuid) : Prop :=
  ∃ request resolution resolution', call.op = .markMergeApplied request ∧ request.gateId = gateId ∧
    MergeApproved s.ledger gateId dispatchId resolution ∧ ¬applied resolution ∧
    MergeApproved (next platform s call).ledger gateId dispatchId resolution' ∧ applied resolution'

/-- An accepted `resolve_gate` whose approval of a merge gate already says that it was applied. -/
def ForgesMerge (s : Store) (call : Call) : Prop :=
  ∃ request gate, call.op = .resolveGate request ∧ call.Fresh s ∧
    s.ledger.gates request.gateId = some gate ∧ gate.gateType = "merge" ∧ gate.status = .pending ∧
    s.RunAt gate.runId request.expectedRunRevision ∧ approved (some request.resolution) ∧
    applied (some request.resolution)

/-- How an approved merge gate came to be one during a call. -/
inductive MergeStep (s : Store) (call : Call) (gateId dispatchId : Uuid) (resolution : Option Json) :
    Prop where
  | kept (was : MergeApproved s.ledger gateId dispatchId resolution)
  | approved {request : ResolveGateRequest} {gate : DecisionGateRecord} (op : call.op = .resolveGate request)
      (fresh : call.Fresh s) (gate_id : request.gateId = gateId) (row : s.ledger.gates gateId = some gate)
      (merge : gate.gateType = "merge") (pending : gate.status = .pending)
      (run : s.RunAt gate.runId request.expectedRunRevision)
      (decided : resolution = some request.resolution)
  | applied {request : MergeAppliedRequest} {old : Option Json} (op : call.op = .markMergeApplied request)
      (gate_id : request.gateId = gateId) (was : MergeApproved s.ledger gateId dispatchId old)

theorem Move.mergeStep (h : Move l L L') (permitted : Permits s call L l) {gateId dispatchId : Uuid}
    (step : ∀ resolution, MergeApproved L gateId dispatchId resolution →
      MergeStep s call gateId dispatchId resolution) {resolution : Option Json}
    (approval : MergeApproved L' gateId dispatchId resolution) :
    MergeStep s call gateId dispatchId resolution := by
  obtain ⟨gate, row, merge, about, resolved, approval, rfl⟩ := approval
  cases h.gate_step gateId with
  | same same => exact step _ ⟨gate, same ▸ row, merge, about, resolved, approval, rfl⟩
  | opened _ row' _ _ pending =>
    rw [row, Option.some.injEq] at row'
    rw [row', pending] at resolved
    cases resolved
  | @revised old new was now rewrites turn =>
    rw [row, Option.some.injEq] at now
    subst now
    have merge' := rewrites.gateType.symm.trans merge
    have about' := rewrites.dispatchId.symm.trans about
    cases turn with
    | resolve pending _ decided =>
      obtain ⟨rfl, request, gate', op, fresh, gate_id, rfl, row', run⟩ := permitted
      rw [was, Option.some.injEq] at row'
      subst row'
      exact .approved op fresh gate_id was merge' pending run decided
    | apply resolved' _ approval' =>
      obtain ⟨rfl, gate', row', ⟨request, op, gate_id, _⟩ | ⟨_, _, _, cleanup⟩⟩ := permitted
      · exact .applied op gate_id ⟨old, was, merge', about', resolved', approval', rfl⟩
      · rw [was, Option.some.injEq] at row'
        rw [← row', merge'] at cleanup
        exact absurd cleanup (by decide)
    | expire _ closed => rw [closed] at resolved; cases resolved
    | cancel _ closed => rw [closed] at resolved; cases resolved

theorem next_mergeStep (sound : s.ledger.Sound) {gateId dispatchId : Uuid} {resolution : Option Json}
    (approval : MergeApproved (next platform s call).ledger gateId dispatchId resolution) :
    MergeStep s call gateId dispatchId resolution :=
  (next_outcome platform sound.policy call).chain.preserves
    (I := fun L => ∀ resolution, MergeApproved L gateId dispatchId resolution →
      MergeStep s call gateId dispatchId resolution)
    (fun _ _ _ permitted move step _ => move.mergeStep permitted step) (fun _ => .kept) resolution
    approval

def ApprovedIn (platform : Platform) (calls : List Call) (gateId dispatchId : Uuid) : Prop :=
  ∃ before approve after, calls = before ++ approve :: after ∧
    ApprovesMerge platform (run platform before) approve gateId dispatchId

/-- The calls contain an approval of the merge gate and, after it, the record of the merge. -/
def MergedIn (platform : Platform) (calls : List Call) (gateId dispatchId : Uuid) : Prop :=
  ∃ before approve between record after, calls = before ++ approve :: between ++ record :: after ∧
    ApprovesMerge platform (run platform before) approve gateId dispatchId ∧
    RecordsMerge platform (run platform (before ++ approve :: between)) record gateId dispatchId

section History

variable {calls : List Call} {gateId dispatchId : Uuid}

theorem ApprovedIn.snoc (h : ApprovedIn platform calls gateId dispatchId) (call : Call) :
    ApprovedIn platform (calls ++ [call]) gateId dispatchId := by
  obtain ⟨before, approve, after, rfl, approves⟩ := h
  exact ⟨before, approve, after ++ [call], by simp, approves⟩

theorem MergedIn.snoc (h : MergedIn platform calls gateId dispatchId) (call : Call) :
    MergedIn platform (calls ++ [call]) gateId dispatchId := by
  obtain ⟨before, approve, between, record, after, rfl, approves, records⟩ := h
  exact ⟨before, approve, between, record, after ++ [call], by simp, approves, records⟩

theorem ApprovedIn.record (h : ApprovedIn platform calls gateId dispatchId) {call : Call}
    (records : RecordsMerge platform (run platform calls) call gateId dispatchId) :
    MergedIn platform (calls ++ [call]) gateId dispatchId := by
  obtain ⟨before, approve, between, rfl, approves⟩ := h
  exact ⟨before, approve, between, call, [], rfl, approves, records⟩

end History

theorem run_merged (platform : Platform) (calls : List Call)
    (honest : EveryCall platform (fun s call => ¬ForgesMerge s call) calls) :
    ∀ gateId dispatchId resolution,
      MergeApproved (run platform calls).ledger gateId dispatchId resolution →
      ApprovedIn platform calls gateId dispatchId ∧
        (applied resolution → MergedIn platform calls gateId dispatchId) := by
  refine (run_history (s := .empty) (I := fun past s => s = run platform past ∧
    ∀ gateId dispatchId resolution, MergeApproved s.ledger gateId dispatchId resolution →
      ApprovedIn platform past gateId dispatchId ∧
        (applied resolution → MergedIn platform past gateId dispatchId)) ?_ ⟨rfl, ?_⟩ honest).2
  · rintro past s call ⟨rfl, history⟩ honest
    refine ⟨(run_snoc platform past call).symm, fun gateId dispatchId resolution approval => ?_⟩
    cases next_mergeStep (run_sound platform past) approval with
    | kept was =>
      obtain ⟨approves, records⟩ := history _ _ _ was
      exact ⟨approves.snoc call, fun happlied => (records happlied).snoc call⟩
    | @approved request gate op fresh gate_id row merge pending revision decided =>
      subst decided gate_id
      refine ⟨⟨past, call, [], rfl, request, gate, op, rfl, row, pending, approval⟩, fun happlied => ?_⟩
      obtain ⟨_, _, _, _, _, happroved, hres⟩ := approval
      exact absurd ⟨request, gate, op, fresh, row, merge, pending, revision, hres ▸ happroved, happlied⟩
        honest
    | @applied request old op gate_id was =>
      obtain ⟨approves, records⟩ := history _ _ _ was
      refine ⟨approves.snoc call, fun happlied => ?_⟩
      by_cases hold : applied old
      · exact (records hold).snoc call
      · exact approves.record ⟨request, old, resolution, op, gate_id, was, hold, approval, happlied⟩
  · rintro _ _ _ ⟨_, ⟨⟩, _⟩

/-- `cleanup_authorization` accepts only on the word of an applied merge gate. -/
theorem cleanupAuthorization_merge {gateId : Uuid} :
    (cleanupAuthorization gateId).wlp (fun _ _ => ∃ dispatchId cleanup,
      s.ledger.gates gateId = some cleanup ∧ cleanup.dispatchId = some dispatchId ∧
        ∃ mergeId resolution, MergeApproved s.ledger mergeId dispatchId resolution ∧
          applied resolution) s := by
  simp only [cleanupAuthorization, Tx.wlp_bind, wlp_readGate, Tx.wlp_require, Tx.wlp_expect,
    Tx.wlp_gets, wlp_readDispatch, Tx.wlp_ofExcept, Tx.wlp_pure]
  intro cleanup row hid _ _ _ _ _ _ dispatchId about merged _ _ _ _ _ _ _
  refine ⟨dispatchId, cleanup, hid ▸ row, about, ?_⟩
  cases hlatest : s.latestMergeGate dispatchId with
  | none => simp [hlatest, approved] at merged
  | some merge =>
    rw [hlatest, Option.bind_some] at merged
    have hmem := List.mem_of_mem_head? hlatest
    simp only [mem_orderBy, List.mem_filter, decide_eq_true_eq] at hmem
    exact ⟨merge.id, merge.resolution, ⟨merge, Store.mem_rows_gates.1 hmem.1, hmem.2.2.1, hmem.2.1,
      hmem.2.2.2, merged.1, rfl⟩, merged.2⟩

/-- A cleanup is authorised only after a merge gate of the same dispatch was approved and then
the merge recorded, in a run where no approval claims to be applied already. -/
theorem cleanup_follows_merge (platform : Platform) (calls : List Call) (gateId : Uuid)
    (authorization : CleanupAuthorization)
    (honest : EveryCall platform (fun s call => ¬ForgesMerge s call) calls)
    (ok : (cleanupAuthorization gateId (run platform calls)).1 = .ok authorization) :
    ∃ dispatchId cleanup, (run platform calls).ledger.gates gateId = some cleanup ∧
      cleanup.dispatchId = some dispatchId ∧ ∃ mergeId, MergedIn platform calls mergeId dispatchId := by
  rcases h : cleanupAuthorization gateId (run platform calls) with ⟨result, s⟩
  rw [h] at ok
  subst ok
  obtain ⟨dispatchId, cleanup, row, about, mergeId, resolution, approval, happlied⟩ :=
    cleanupAuthorization_merge authorization s h
  exact ⟨dispatchId, cleanup, row, about, mergeId,
    (run_merged platform calls honest mergeId dispatchId resolution approval).2 happlied⟩

def approval : Json := .obj [("decision", .str "approve")]

def cleanupApproval : Json :=
  .obj [("decision", .str "approve"), ("force", .bool false), ("deleteBranch", .bool false),
    ("acknowledgedBlockers", .arr [])]

/-- The dispatch of `scheduledRun` with an agent bound to it in a worktree of its own. -/
def worktreeRun : List Call :=
  scheduledRun ++
    [.plain "agent" (.registerAgent ⟨.ptyCli, none, "workspace", none, true⟩),
      .plain "bind" (.bindDispatch ⟨"schedule-0", 2, "agent-0", "runtime", none, 1,
        some ⟨some "worktree", some "instance", "base", "branch", "path"⟩⟩)]

def mergedRun : List Call :=
  worktreeRun ++
    [.plain "running" (.markDispatchRunning boundIdentity 1),
      .plain "done" (.workerDone ⟨boundIdentity, 4, [], [], none, none, .null⟩),
      .plain "approve" (.resolveGate ⟨"done-1", approval, 4⟩),
      .plain "merge" (.markMergeApplied ⟨"done-1", 5, "commit"⟩),
      .plain "clean" (.resolveGate ⟨"merge-0", cleanupApproval, 6⟩)]

theorem cleanup_follows_mergedRun :
    ∃ dispatchId cleanup, (run .plain mergedRun).ledger.gates "merge-0" = some cleanup ∧
      cleanup.dispatchId = some dispatchId ∧ ∃ mergeId, MergedIn .plain mergedRun mergeId dispatchId := by
  have honest : EveryCall .plain (fun s call => ¬ForgesMerge s call) mergedRun := by
    refine throughout_of_forall (fun call hcall s => ?_) _
    rintro ⟨request, _, hop, _, _, _, _, _, _, forged⟩
    simp only [mergedRun, worktreeRun, scheduledRun, List.cons_append, List.nil_append, List.mem_cons,
      List.not_mem_nil, or_false] at hcall
    rcases hcall with rfl | rfl | rfl | rfl | rfl | rfl | rfl | rfl | rfl | rfl | rfl <;> cases hop <;>
      exact absurd forged (by decide)
  cases h : (cleanupAuthorization "merge-0" (run .plain mergedRun)).1 with
  | ok authorization => exact cleanup_follows_merge .plain mergedRun "merge-0" authorization honest h
  | error e =>
    have accepted : (cleanupAuthorization "merge-0" (run .plain mergedRun)).1.isOk := by decide +kernel
    rw [h] at accepted
    cases accepted

/-- No merge is recorded, but an approval says that it was applied. -/
def forgedRun : List Call :=
  worktreeRun ++
    [.plain "m" (.createGate ⟨"run-0", none, some "schedule-0", "merge", "Merge?", [], none, 3⟩),
      .plain "forge" (.resolveGate ⟨"m-0", approval.set "applied" (.bool true), 4⟩),
      .plain "c" (.createGate ⟨"run-0", none, some "schedule-0", "cleanup", "Clean?", [], none, 5⟩),
      .plain "clean" (.resolveGate ⟨"c-0", cleanupApproval, 6⟩)]

theorem cleanup_of_forgedRun :
    (cleanupAuthorization "c-0" (run .plain forgedRun)).1.isOk ∧
      ∀ mergeId dispatchId, ¬MergedIn .plain forgedRun mergeId dispatchId := by
  refine ⟨by decide +kernel, ?_⟩
  rintro mergeId dispatchId ⟨before, approve, between, record, after, hcalls, _, request, _, _, hop, _⟩
  have hmem : record ∈ forgedRun := by rw [hcalls]; simp
  simp only [forgedRun, worktreeRun, scheduledRun, List.cons_append, List.nil_append, List.mem_cons,
    List.not_mem_nil, or_false] at hmem
  rcases hmem with rfl | rfl | rfl | rfl | rfl | rfl | rfl | rfl | rfl | rfl <;> cases hop

end VibeLink.Coordinator
