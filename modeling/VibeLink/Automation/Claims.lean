import VibeLink.Automation.Clock
import VibeLink.Automation.Exclusion

/-! What becomes of the times of automations, and which occurrences are claimed. -/

namespace VibeLink.Automation

open Relational Tx AutomationStore AutomationService

/-- No automation goes, its last run time stays, and a new next run time is later than that. -/
def Onward (s t : Store) : Prop :=
  ∀ id row, s.automations.find id = some row → ∃ row', t.automations.find id = some row' ∧
    row'.lastRunAt = row.lastRunAt ∧
    ∀ next ∈ row'.nextRunAt, row.nextRunAt = some next ∨ ∀ last ∈ row.lastRunAt, last < next

instance : IsPreorder Store Onward where
  refl _ _ row found := ⟨row, found, rfl, fun _ => .inl⟩
  trans _ _ _ first second id row found := by
    obtain ⟨row', found', last, next⟩ := first id row found
    obtain ⟨row'', found'', last', next'⟩ := second id row' found'
    refine ⟨row'', found'', last'.trans last, fun at_ here => ?_⟩
    cases next' at_ here with
    | inl same => exact next at_ same
    | inr later => exact .inr (last ▸ later)

theorem keeps_of_applyPatch {payload : Payload} {now : Nat} {existing updated : AutomationRecord}
    (patched : applyPatch payload now existing = .ok updated) :
    updated.id = existing.id ∧ updated.lastRunAt = existing.lastRunAt ∧ updated.updatedAt = now := by
  obtain ⟨patch, _, ⟨⟩⟩ := bind_eq_ok.1 patched
  exact ⟨rfl, rfl, rfl⟩

namespace Onward

variable {s t : Store}

theorem atomically {α : Type} {x : AutomationResult α} (goes : x.wlp (fun _ => Onward s) s) :
    Onward s (Tx.atomically x s).2 := by
  simp only [Tx.atomically]
  split
  · rename_i done
    exact goes _ _ done
  · exact refl s

theorem of_eq (same : t.automations = s.automations) : Onward s t :=
  fun _ row found => ⟨row, same ▸ found, rfl, fun _ => .inl⟩

instance (value : Nat) (label : String) : Respects Onward (u64ToI64 value label) :=
  inferInstanceAs (Respects _ (require _ _))

instance (value : Option Nat) (label : String) : Respects Onward (optionalU64ToI64 value label) :=
  (readOnly_optionalU64ToI64 value label).respects

instance (runs : Store → Table AutomationRunRecord.id) :
    Respects Onward (write fun s => { s with runs := runs s } : AutomationResult Unit) :=
  respects_write fun _ => .of_eq rfl

instance (record : AutomationRunRecord) (expectedStatus : RunStatus) :
    Respects Onward (saveRunIfStatus record expectedStatus) := by
  dsimp only [saveRunIfStatus, getRun]
  infer_instance

instance (automationId : Uuid) : Respects Onward (pruneFinalRuns automationId) := by
  unfold pruneFinalRuns
  infer_instance

instance (id : Uuid) (finishedAt : Nat) : Respects Onward (cancelRun id finishedAt) := by
  have cancels : Respects Onward (tryWrite (fun s =>
      let active := fun run : AutomationRunRecord => decide (run.id = id ∧ isActiveStatus run.status)
      if s.runs.rows.any active then
        some { s with runs := s.runs.update active fun run =>
          { run with status := .cancelled, finishedAt := some finishedAt } }
      else none) s!"automation run is no longer active: {id}") := by
    apply respects_tryWrite
    intro s t cancelled
    dsimp only at cancelled
    split at cancelled
    · cases cancelled
      exact .of_eq rfl
    · cases cancelled
  dsimp only [cancelRun, getRun]
  infer_instance

set_option synthInstance.maxSize 1024 in
instance (record : AutomationRunRecord) : Respects Onward (insertRun record) := by
  have inserts : Respects Onward (tryWrite (fun s => if runAllowed s record then
      (s.runs.insert? record).map fun runs => { s with runs, journal := s.journal ++ [record.stamp] }
      else none)
      s!"insert automation run {record.id} number {record.runNumber} for automation {record.automationId}") := by
    apply respects_tryWrite
    intro s t inserted
    split at inserted
    · obtain ⟨runs, _, rfl⟩ := Option.map_eq_some_iff.1 inserted
      exact .of_eq rfl
    · cases inserted
  dsimp only [insertRun, getRun]
  infer_instance

instance (record : AutomationRecord) : Respects Onward (AutomationStore.insert record) := by
  have inserts (message : String) : Respects Onward (tryWrite (fun s => if sourceTaken s record then none else
      (s.automations.insert? record).map fun automations => { s with automations }) message) := by
    apply respects_tryWrite
    intro s t inserted
    split at inserted
    · cases inserted
    · obtain ⟨automations, inserts, rfl⟩ := Option.map_eq_some_iff.1 inserted
      intro id row found
      refine ⟨row, ?_, rfl, fun _ => .inl⟩
      dsimp only
      have fresh := (Table.insert?_eq_some.1 inserts).1
      rw [Table.find_insert inserts, Function.update_of_ne _ _ _, found]
      rintro rfl
      rw [fresh] at found
      cases found
  dsimp only [AutomationStore.insert, checkTimes, AutomationStore.get]
  infer_instance

instance (env : Env) (automationId : Uuid) : Respects Onward (AutomationService.trigger env automationId) := by
  have goes (active : Option AutomationRunRecord) : Respects Onward (match active with
      | some active => fail s!"automation already has active run {active.id} ({active.status.text})"
      | none => do
        let runNumber ← nextRunNumber automationId
        insertRun
          { id := env.uuid 0
            automationId
            runNumber
            trigger := .manual
            scheduledFor := env.now
            status := .pending
            runtimeIdentity := none
            worktree := none
            precheckResult := none
            outputSnapshot := none
            usage := none
            error := none
            startedAt := none
            finishedAt := none
            createdAt := env.now } : AutomationResult AutomationRunRecord) := by
    cases active with
    | some active => infer_instance
    | none =>
      dsimp only [nextRunNumber]
      infer_instance
  dsimp only [AutomationService.trigger, AutomationStore.get, activeRun]
  infer_instance

instance (claim : AutomationRunRecord) (automation : AutomationRecord) (now : Nat) :
    Respects Onward (AutomationService.dispatch claim automation now) := by
  dsimp only [AutomationService.dispatch, getRun]
  infer_instance

instance (what : String) (runId : Uuid) (change : AutomationRunRecord → AutomationRunRecord) :
    Respects Onward (persistDispatching what runId change) := by
  dsimp only [persistDispatching, getRun]
  infer_instance

instance (current : AutomationRunRecord) (expected : RunStatus) : Respects Onward (closeRun current expected) := by
  dsimp only [closeRun]
  infer_instance

instance (runId : Uuid) (error : String) (now : Nat) : Respects Onward (finishPrepareFailure runId error now) := by
  dsimp only [finishPrepareFailure, getRun]
  infer_instance

instance (runId : Uuid) (call : TerminalCall) : Respects Onward (persistTerminalOutcome runId call) := by
  dsimp only [persistTerminalOutcome, getRun]
  infer_instance

instance (claim : AutomationRunRecord) (answers : Answers) (stage : Stage) :
    Respects Onward (VibeLink.Automation.advance claim answers stage) := by
  cases stage with
  | prepare =>
    simp only [VibeLink.Automation.advance]
    cases answers.prepared with
    | error => infer_instance
    | ok =>
      dsimp only [persistPreparedWorktree]
      infer_instance
  | _ =>
    dsimp only [VibeLink.Automation.advance, AutomationStore.get, persistPrecheckResult, persistDispatchedOutcome]
    infer_instance

instance (env : Env) (cancelled : Except String Bool) (runId : Uuid) :
    Respects Onward (AutomationService.cancel env cancelled runId) := by
  dsimp only [AutomationService.cancel, getRun]
  infer_instance

instance (env : Env) (terminate : AutomationRuntimeIdentity → Except String Bool) :
    Respects Onward (AutomationService.reconcileStartup env terminate) := by
  have each (run : AutomationRunRecord) : Respects Onward (reconcileStartup.reconcile env terminate run) := by
    unfold reconcileStartup.reconcile
    split
    · infer_instance
    · infer_instance
  dsimp only [AutomationService.reconcileStartup, activeRuns]
  infer_instance

instance (planner : Planner) (record : AutomationRecord) :
    Respects Onward (AutomationService.create planner record) := by
  dsimp only [AutomationService.create]
  infer_instance

instance (planner : Planner) (selected : List AutomationRecord) :
    Respects Onward (AutomationService.importJobs planner selected) := by
  have each (record : AutomationRecord) : Respects Onward (importJobs.importJob planner record) := by
    dsimp only [importJobs.importJob]
    infer_instance
  dsimp only [AutomationService.importJobs]
  infer_instance

theorem wlp_update {record existing : AutomationRecord} (found : s.automations.find existing.id = some existing)
    (mine : record.id = existing.id) (last : record.lastRunAt = existing.lastRunAt)
    (next : ∀ next ∈ record.nextRunAt, existing.nextRunAt = some next ∨ ∀ last ∈ existing.lastRunAt, last < next) :
    (AutomationStore.update record).wlp (fun _ => Onward s) s := by
  simp only [AutomationStore.update, checkTimes, wlp_bind, wlp_u64ToI64, wlp_tryWrite, AutomationStore.get, wlp_expect]
  apply wlp_optionalU64ToI64
  apply wlp_optionalU64ToI64
  apply wlp_optionalU64ToI64
  intro _ t written _ _
  split at written
  · cases written
  · cases written
    intro id row here
    dsimp only
    rw [Table.find_update, modifyAll, here, Option.map_some]
    refine ⟨_, rfl, ?_⟩
    split
    · rename_i same
      have same : row.id = record.id := of_decide_eq_true same
      rw [← mine, ← same, Table.key_of_find here, here, Option.some_inj] at found
      exact found ▸ ⟨last, next⟩
    · exact ⟨rfl, fun _ => .inl⟩

theorem update {planner : Planner} {id : Uuid} {payload : Payload} {now : Nat}
    (later : ∀ record next, planner.nextAfter record now = .ok (some next) → now < next)
    (current : ∀ existing ∈ s.automations.find id, ∀ updated ∈ (applyPatch payload now existing).toOption,
      Replans existing updated → ∀ last ∈ existing.lastRunAt, last ≤ now) :
    Onward s (AutomationService.update planner id (applyPatch payload now) s).2 := by
  apply Onward.atomically
  simp only [AutomationStore.get, wlp_bind, wlp_expect, wlp_ofExcept, wlp_require, wlp_ite, wlp_pure]
  intro existing found updated patched _ _ _
  cases patches : applyPatch payload now existing with
  | error e =>
    rw [patches] at patched
    cases patched
  | ok record =>
    rw [patches] at patched
    cases patched
    obtain ⟨_, last, read⟩ := keeps_of_applyPatch patches
    have current := current existing found record (by rw [patches]; rfl)
    have found : s.automations.find existing.id = some existing := Table.key_of_find found ▸ found
    refine ⟨fun _ => ?_, fun on => ⟨fun replans next planned => ?_, fun _ => ?_⟩⟩
    · exact wlp_update found rfl last nofun
    · refine wlp_update found rfl last ?_
      rintro _ rfl
      dsimp only at planned
      rw [read] at planned
      have replans : Replans existing record := ⟨Classical.not_not.1 on, replans⟩
      exact .inr fun last here => Nat.lt_of_le_of_lt (current replans last here) (later _ _ planned)
    · exact wlp_update found rfl last fun _ => .inl

end Onward

/-! A due-claim. -/

section Due

variable {s t : Store} {now : Nat} {id automationId : Uuid} {run : AutomationRunRecord}

def created (s t : Store) (id : Uuid) : List Stamp :=
  (t.journal.drop s.journal.length).filter fun stamp => stamp.automationId = id

/-- What a due-claim has made of an automation so far. -/
inductive Claiming (now : Nat) (s t : Store) (id : Uuid) : Prop
  | idle (same : t.automations.find id = s.automations.find id) (silent : created s t id = [])
  | claimed (row : AutomationRecord) (run : AutomationRunRecord) (next : Option Nat)
    (before : s.automations.find id = some row) (at_ : row.nextRunAt = some run.scheduledFor)
    (due : run.scheduledFor ≤ now)
    (after : t.automations.find id =
      some { row with lastRunAt := some run.scheduledFor, nextRunAt := next, updatedAt := now })
    (later : ∀ at_ ∈ next, now < at_) (there : run ∈ t.runs.rows) (mine : run.automationId = id)
    (stamps : created s t id = [run.stamp])

structure Claims (now : Nat) (s t : Store) : Prop where
  journal : s.journal <+: t.journal
  each : ∀ id, Claiming now s t id

theorem Claims.refl (now : Nat) (s : Store) : Claims now s s where
  journal := List.prefix_rfl
  each id := .idle rfl (by rw [created, List.drop_length, List.filter_nil])

theorem created_append {stamp : Stamp} {u : Store} (journal : s.journal <+: t.journal)
    (more : u.journal = t.journal ++ [stamp]) :
    created s u id = created s t id ++ if stamp.automationId = id then [stamp] else [] := by
  rw [created, created, more, List.drop_append_of_le_length journal.length_le, List.filter_append]
  congr 1
  split
  · rw [List.filter_cons_of_pos (by simpa using ‹_›), List.filter_nil]
  · rw [List.filter_cons_of_neg (by simpa using ‹_›), List.filter_nil]

theorem Claims.claim {row : AutomationRecord} {next : Option Nat} {u : Store} (claims : Claims now s t)
    (found : t.automations.find row.id = some row) (at_ : row.nextRunAt = some run.scheduledFor)
    (due : run.scheduledFor ≤ now) (later : ∀ at_ ∈ next, now < at_) (mine : run.automationId = row.id)
    (automations : u.automations.find = modifyAll t.automations.find fun other =>
      if other.id = row.id ∧ other.enabled ∧ other.nextRunAt = some run.scheduledFor then
        { other with lastRunAt := some run.scheduledFor, nextRunAt := next, updatedAt := now }
      else other)
    (enabled : row.enabled) (journal : u.journal = t.journal ++ [run.stamp])
    (kept : ∀ other, other ∈ t.runs.rows ∨ other = run → (other.automationId = row.id → other = run) →
      other ∈ u.runs.rows) : Claims now s u where
  journal := claims.journal.trans (journal ▸ List.prefix_append _ _)
  each id := by
    have stamps := @created_append _ _ id _ _ claims.journal journal
    have same : run.stamp.automationId = row.id := mine
    by_cases here : id = row.id
    · subst here
      rw [same, if_pos rfl] at stamps
      cases claims.each row.id with
      | claimed before run' next' _ _ _ after later' =>
        rw [found, Option.some_inj] at after
        rw [after] at at_
        exact absurd (later' _ at_) (Nat.not_lt_of_le due)
      | idle same silent =>
        rw [silent] at stamps
        refine .claimed row run next (same ▸ found) at_ due ?_ later (kept run (.inr rfl) fun _ => rfl) mine stamps
        rw [automations, modifyAll, found, Option.map_some, if_pos ⟨rfl, enabled, at_⟩]
    · have ne : row.id ≠ id := fun same => here same.symm
      rw [same, if_neg ne, List.append_nil] at stamps
      have still : u.automations.find id = t.automations.find id := by
        rw [automations, modifyAll]
        cases other : t.automations.find id with
        | none => rfl
        | some found =>
          rw [Option.map_some, if_neg]
          rintro ⟨same, _⟩
          exact here (Table.key_of_find other ▸ same)
      cases claims.each id with
      | idle same silent => exact .idle (still.trans same) (stamps.trans silent)
      | claimed before run' next' found' at_' due' after later' there mine' stamps' =>
        refine .claimed before run' next' found' at_' due' (still.trans after) later' (kept run' (.inl there) ?_) mine'
          (stamps.trans stamps')
        exact fun other => absurd (mine'.symm.trans other) here

theorem Claims.wlp_pruneFinalRuns {row : AutomationRecord} {next : Option Nat} {u : Store} (claims : Claims now s t)
    (found : t.automations.find row.id = some row) (at_ : row.nextRunAt = some run.scheduledFor) (enabled : row.enabled)
    (due : run.scheduledFor ≤ now) (later : ∀ at_ ∈ next, now < at_) (mine : run.automationId = row.id)
    (newest : ∀ other ∈ t.runs.rows, other.automationId = row.id → other.runNumber < run.runNumber)
    (automations : u.automations = t.automations.update
      (fun other => decide (other.id = row.id ∧ other.enabled ∧ other.nextRunAt = some run.scheduledFor)) fun other =>
        { other with lastRunAt := some run.scheduledFor, nextRunAt := next, updatedAt := now })
    (rows : u.runs.rows = t.runs.rows ++ [run]) (journal : u.journal = t.journal ++ [run.stamp]) :
    (pruneFinalRuns row.id).wlp (fun _ => Claims now s) u := by
  have member (other : AutomationRunRecord) : other ∈ u.runs.rows ↔ other ∈ t.runs.rows ∨ other = run := by
    rw [rows, List.mem_append, List.mem_singleton]
  rw [pruneFinalRuns, wlp_write]
  refine claims.claim found at_ due later mine ?_ enabled journal ?_
  · dsimp only
    rw [automations, Table.find_update]
    simp only [decide_eq_true_eq]
  · intro other there same
    refine List.mem_filter.2 ⟨(member other).2 there, decide_eq_true ?_⟩
    by_cases here : other.automationId = row.id
    · apply Exclusive.newest_not_pruned ((member other).2 there)
      intro rest restMem restMine ne
      rw [same here] at ne ⊢
      exact newest rest (((member rest).1 restMem).resolve_right ne) restMine
    · exact Exclusive.other_not_pruned ((member other).2 there) here

theorem wlp_claimDue_claims {planner : Planner} {uuid : Uuid} {record : AutomationRecord}
    (later : ∀ record next, planner.nextAfter record now = .ok (some next) → now < next) (claims : Claims now s t) :
    (AutomationStore.claimDue planner uuid record now).wlp (fun _ => Claims now s) t := by
  simp only [AutomationStore.claimDue, wlp_bind, wlp_expect, wlp_require, AutomationStore.get, wlp_ite, wlp_u64ToI64,
    claimedRun]
  intro scheduledFor _ due source found
  constructor
  · intro _ _ _ _
    exact claims
  · intro current
    rw [not_or, Classical.not_not, Classical.not_not] at current
    have same := Table.key_of_find found
    rw [← same] at found
    simp only [activeRun, wlp_gets]
    split
    · rw [wlp_fail]
      trivial
    · simp only [wlp_bind, wlp_ofExcept, wlp_u64ToI64, wlp_tryWrite, wlp_pure]
      intro next planned
      refine wlp_mono Exclusive.wlp_nextRunNumber_rows ?_
      intro number same' numbered _
      obtain ⟨rfl, newest⟩ := numbered
      apply wlp_optionalU64ToI64
      intro _ u claimed
      split at claimed
      · cases claimed
        refine wlp_mono Exclusive.wlp_insertRun_created ?_
        rintro inserted u ⟨automations, rows, journal⟩
        rw [mapError_eq_ok] at planned
        have after : ∀ at_ ∈ next, now < at_ := by
          rintro at_ rfl
          exact later _ _ planned
        exact claims.wlp_pruneFinalRuns found current.2 current.1 due after rfl newest automations rows journal
      · cases claimed

theorem claims_claimDue {planner : Planner} {env : Env}
    (later : ∀ record next, planner.nextAfter record env.now = .ok (some next) → env.now < next) (s : Store) :
    Claims env.now s (AutomationService.claimDue planner env s).2 := by
  have kept : (do
      let records ← due env.now
      Tx.fold (claimDue.claim planner env) [] records.zipIdx).wlp (fun _ => Claims env.now s) s := by
    simp only [due, wlp_bind, wlp_u64ToI64, wlp_gets]
    intro _
    refine wlp_fold (Claims.refl env.now s) fun record _ claims t kept => ?_
    simp only [claimDue.claim, wlp_bind, wlp_attempt]
    have one : Claims env.now s
        (Tx.atomically (AutomationStore.claimDue planner (env.uuid record.2) record.1 env.now) t).2 := by
      simp only [Tx.atomically]
      split
      · rename_i done
        exact wlp_claimDue_claims later kept _ _ done
      · exact kept
    split
    · rw [wlp_pure]
      exact one
    · rw [wlp_pure]
      exact one
  simp only [AutomationService.claimDue, Tx.atomically]
  split
  · rename_i done
    exact kept _ _ done
  · exact .refl _ _

theorem claimOf_stamp {row : AutomationRecord} (there : run ∈ t.runs.rows)
    (found : t.automations.find run.automationId = some row) :
    claimOf now t run.stamp = some ⟨run.automationId, run.scheduledFor, now, row.nextRunAt⟩ := by
  have here : t.runs.find run.stamp.id = some run := Table.find_of_mem there
  have automation : t.automations.find run.stamp.automationId = some row := found
  rw [claimOf, here, Option.bind_eq_bind, Option.bind_some, automation]
  rfl

theorem Claims.filter_claimed (claims : Claims now s t) (id : Uuid) :
    (claimed now s t).filter (fun claim => claim.automationId = id) = (created s t id).filterMap (claimOf now t) := by
  rw [claimed, created, List.filter_filterMap, List.filterMap_filter]
  apply List.filterMap_congr
  intro stamp member
  have mine : stamp ∈ created s t stamp.automationId := List.mem_filter.2 ⟨member, decide_eq_true rfl⟩
  cases claims.each stamp.automationId with
  | idle _ silent =>
    rw [silent] at mine
    cases mine
  | claimed row run next _ _ _ after _ there same stamps =>
    rw [stamps] at mine
    cases List.mem_singleton.1 mine
    rw [claimOf_stamp there after]
    simp only [Option.filter, AutomationRunRecord.stamp]
    rfl

theorem Claims.mem_claimed {claim : Claim} (claims : Claims now s t) (member : claim ∈ claimed now s t) :
    ∃ (row : AutomationRecord) (run : AutomationRunRecord) (next : Option Nat),
      s.automations.find claim.automationId = some row ∧ row.nextRunAt = some run.scheduledFor ∧
      run.scheduledFor ≤ now ∧
      t.automations.find claim.automationId =
        some { row with lastRunAt := some run.scheduledFor, nextRunAt := next, updatedAt := now } ∧
      (∀ at_ ∈ next, now < at_) ∧ claim = ⟨claim.automationId, run.scheduledFor, now, next⟩ := by
  have mine : claim ∈ (claimed now s t).filter fun other => other.automationId = claim.automationId :=
    List.mem_filter.2 ⟨member, decide_eq_true rfl⟩
  rw [claims.filter_claimed] at mine
  cases claims.each claim.automationId with
  | idle _ silent =>
    rw [silent] at mine
    cases mine
  | claimed row run next before at_ due after later there same stamps =>
    rw [stamps, List.filterMap_cons, claimOf_stamp there (same ▸ after), List.filterMap_nil, List.mem_singleton] at mine
    refine ⟨row, run, next, before, at_, due, after, later, mine.trans ?_⟩
    rw [← same]

end Due

/-! Whole runs. -/

/-- The claims of the automations that are there. -/
structure Ordered (store : Store) (claims : List Claim) : Prop where
  increasing : ∀ id, (claims.filter fun claim => claim.automationId = id).Pairwise fun claim later =>
    claim.scheduledFor < later.scheduledFor
  ahead : ∀ claim ∈ claims, ∀ next ∈ claim.nextRunAt, claim.claimedAt < next
  past : ∀ claim ∈ claims, ∃ row, store.automations.find claim.automationId = some row ∧
    (∃ last, row.lastRunAt = some last ∧ claim.scheduledFor ≤ last) ∧
      ∀ next ∈ row.nextRunAt, claim.scheduledFor < next

namespace Ordered

variable {s t : Store} {claims : List Claim}

abbrev remaining (t : Store) (claims : List Claim) : List Claim :=
  claims.filter fun claim => (t.automations.find claim.automationId).isSome

theorem remain (ordered : Ordered s claims)
    (moves : ∀ id row row', s.automations.find id = some row → t.automations.find id = some row' →
      row'.lastRunAt = row.lastRunAt ∧
        ∀ next ∈ row'.nextRunAt, row.nextRunAt = some next ∨ ∀ last ∈ row.lastRunAt, last < next) :
    Ordered t (remaining t claims) where
  increasing id := (ordered.increasing id).sublist (List.filter_sublist.filter _)
  ahead claim member := ordered.ahead claim (List.mem_filter.1 member).1
  past claim member := by
    obtain ⟨member, stays⟩ := List.mem_filter.1 member
    obtain ⟨row, found, ⟨last, ran, le⟩, later⟩ := ordered.past claim member
    obtain ⟨row', found'⟩ := Option.isSome_iff_exists.1 stays
    obtain ⟨same, next⟩ := moves _ row row' found found'
    refine ⟨row', found', ⟨last, same.trans ran, le⟩, fun at_ here => ?_⟩
    cases next at_ here with
    | inl before => exact later at_ before
    | inr after => exact Nat.lt_of_le_of_lt le (after last ran)

theorem onward (ordered : Ordered s claims) (onward : Onward s t) : Ordered t (remaining t claims) := by
  apply ordered.remain
  intro id row row' found found'
  obtain ⟨here, there, moves⟩ := onward id row found
  rw [there, Option.some_inj] at found'
  exact found' ▸ moves

theorem delete (ordered : Ordered s claims) (id : Uuid) :
    Ordered (AutomationService.delete id s).2 (remaining (AutomationService.delete id s).2 claims) := by
  have fewer : ∀ other row, (AutomationService.delete id s).2.automations.find other = some row →
      s.automations.find other = some row := by
    have erased : (AutomationStore.delete id).wlp (fun _ t => ∀ other row,
        t.automations.find other = some row → s.automations.find other = some row) s := by
      simp only [AutomationStore.delete, AutomationStore.get, wlp_bind, wlp_expect, wlp_write]
      intro _ _ other row here
      rw [Table.find_erase, Function.update_apply] at here
      split at here
      · cases here
      · exact here
    simp only [AutomationService.delete, Tx.atomically]
    split
    · rename_i done
      exact erased _ _ done
    · exact fun _ _ here => here
  apply ordered.remain
  intro other row row' found found'
  rw [fewer other row' found', Option.some_inj] at found
  exact found ▸ ⟨rfl, fun _ => .inl⟩

theorem claimDue {now : Nat} (ordered : Ordered s claims) (goes : Claims now s t) :
    Ordered t (remaining t (claims ++ claimed now s t)) where
  increasing id := by
    apply List.Pairwise.sublist (List.filter_sublist.filter _)
    rw [List.filter_append, goes.filter_claimed]
    cases goes.each id with
    | idle _ silent =>
      rw [silent, List.filterMap_nil, List.append_nil]
      exact ordered.increasing id
    | claimed row run next before at_ _ after _ there mine stamps =>
      rw [stamps, List.filterMap_cons, claimOf_stamp there (mine ▸ after), List.filterMap_nil, List.pairwise_append]
      refine ⟨ordered.increasing id, List.pairwise_singleton _ _, ?_⟩
      intro claim member fresh last
      rw [List.mem_singleton.1 last]
      obtain ⟨member, same⟩ := List.mem_filter.1 member
      obtain ⟨row', found, _, later⟩ := ordered.past claim member
      rw [of_decide_eq_true same, before, Option.some_inj] at found
      exact later _ (found ▸ at_)
  ahead claim member := by
    cases List.mem_append.1 (List.mem_filter.1 member).1 with
    | inl old => exact ordered.ahead claim old
    | inr fresh =>
      obtain ⟨_, _, _, _, _, _, _, later, same⟩ := goes.mem_claimed fresh
      rw [same]
      exact later
  past claim member := by
    cases List.mem_append.1 (List.mem_filter.1 member).1 with
    | inr fresh =>
      obtain ⟨row, run, next, _, _, due, after, later, same⟩ := goes.mem_claimed fresh
      rw [same]
      exact ⟨_, after, ⟨_, rfl, Nat.le_refl _⟩, fun at_ here => Nat.lt_of_le_of_lt due (later at_ here)⟩
    | inl old =>
      obtain ⟨row', found, ran, later⟩ := ordered.past claim old
      cases goes.each claim.automationId with
      | idle same _ => exact ⟨row', same.trans found, ran, later⟩
      | claimed row run next before at_ due after later' _ _ _ =>
        rw [before, Option.some_inj] at found
        have lt := later _ (found ▸ at_)
        exact ⟨_, after, ⟨_, rfl, Nat.le_of_lt lt⟩,
          fun at_ here => Nat.lt_trans (Nat.lt_of_lt_of_le lt due) (later' at_ here)⟩

end Ordered

section Run

variable {C : Chrono} {s : Timed}

theorem Respects.onward {α : Type} (x : AutomationResult α) [goes : Respects Onward x] (s : Store) :
    Onward s (x s).2 := goes.respects s

theorem Ordered.perform {call : Call} {now : Nat} (ordered : Ordered s.system.store s.claims)
    (current : ∀ id payload, call = .update id payload → ∀ existing ∈ s.system.store.automations.find id,
      ∀ updated ∈ (applyPatch payload now existing).toOption, Replans existing updated →
        ∀ last ∈ existing.lastRunAt, last ≤ now) :
    Ordered (s.perform (Schedule.planner C) call now).system.store (s.perform (Schedule.planner C) call now).claims := by
  have later (record : AutomationRecord) (next : Nat)
      (planned : (Schedule.planner C).nextAfter record now = .ok (some next)) : now < next :=
    Schedule.lt_of_nextAfter planned
  cases call with
  | claimDue uuid =>
    have goes := @claims_claimDue (Schedule.planner C) ⟨now, uuid⟩ later s.system.store
    exact ordered.claimDue goes
  | delete id =>
    dsimp only [Timed.perform]
    rw [List.append_nil]
    exact ordered.delete id
  | update id payload =>
    dsimp only [Timed.perform]
    rw [List.append_nil]
    exact ordered.onward (Onward.update later (current id payload rfl))
  | create record =>
    dsimp only [Timed.perform]
    rw [List.append_nil]
    exact ordered.onward (Respects.onward (AutomationService.create _ _) _)
  | importJobs selected =>
    dsimp only [Timed.perform]
    rw [List.append_nil]
    exact ordered.onward (Respects.onward (AutomationService.importJobs _ _) _)
  | trigger uuid automationId =>
    dsimp only [Timed.perform]
    rw [List.append_nil]
    exact ordered.onward (Respects.onward (AutomationService.trigger _ _) _)
  | cancel uuid cancelled runId =>
    dsimp only [Timed.perform]
    rw [List.append_nil]
    exact ordered.onward (Respects.onward (AutomationService.cancel _ _ _) _)
  | restart uuid terminate =>
    dsimp only [Timed.perform]
    rw [List.append_nil]
    exact ordered.onward (Respects.onward (AutomationService.reconcileStartup _ _) _)
  | advance execution answers =>
    dsimp only [Timed.perform]
    rw [List.append_nil]
    apply ordered.onward
    dsimp only [Call.op, System.next]
    split
    · exact refl s.system.store
    · exact Respects.onward (VibeLink.Automation.advance _ _ _) _

theorem Ordered.next {event : Event} (ordered : Ordered s.system.store s.claims) (current : s.Current event) :
    Ordered (s.next (Schedule.planner C) event).system.store (s.next (Schedule.planner C) event).claims := by
  cases event with
  | tick => exact ordered
  | begin => exact ordered
  | perform i =>
    unfold Timed.Current at current
    dsimp only at current
    dsimp only [Timed.next]
    cases waits : s.calls[i]? with
    | none => exact ordered
    | some waiting =>
      rw [waits] at current
      have still : Ordered { s with calls := s.waiting i waiting.1 }.system.store s.claims := ordered
      refine still.perform ?_
      intro id payload same
      obtain ⟨call, now⟩ := waiting
      subst same
      exact current

theorem Ordered.run {events : List Event}
    (current : Throughout (Timed.next (Schedule.planner C)) Timed.Current Timed.initial events) :
    Ordered (Timed.run (Schedule.planner C) events).system.store (Timed.run (Schedule.planner C) events).claims :=
  run_invariant (I := fun s : Timed => Ordered s.system.store s.claims) (fun _ _ => Ordered.next)
    ⟨fun _ => .nil, List.forall_mem_nil _, List.forall_mem_nil _⟩ current

/-- In a run in which no update computes a next run time from a time before the last run time, an automation
is claimed for later and later times, and every claim leaves a next run time behind its own time. -/
theorem occurrences_claimed_once (C : Chrono) (events : List Event)
    (current : Throughout (Timed.next (Schedule.planner C)) Timed.Current Timed.initial events) :
    (∀ automation, (((Timed.run (Schedule.planner C) events).claims.filter fun claim =>
      claim.automationId = automation).map Claim.scheduledFor).Pairwise (· < ·)) ∧
    ∀ claim ∈ (Timed.run (Schedule.planner C) events).claims, ∀ next ∈ claim.nextRunAt, claim.claimedAt < next := by
  have ordered := Ordered.run current
  refine ⟨fun automation => ?_, ordered.ahead⟩
  rw [List.pairwise_map]
  exact ordered.increasing automation

/-- Timezones without offsets, and no `cron`. -/
def universal : Chrono where
  Tz := Unit
  Cron := Unit
  parseTimezone _ := some ()
  parseCron _ := none
  parseInstant _ := none
  parseLocal _ := none
  inRange _ := true
  localInRange _ := true
  toLocal _ instant := instant
  fromLocal _ instant := .single instant
  after _ _ := []

def scheduled (kind value : String) (now : Nat) : AutomationRecord where
  id := "automation"
  sessionId := "session"
  scheduleKind := kind
  scheduleValue := value
  timezone := "UTC"
  dtstart := none
  nextRunAt := none
  lastRunAt := none
  enabled := true
  requiresReview := false
  missedRunGraceMinutes := 720
  source := none
  createdAt := now
  updatedAt := now

/-- An automation for every second is claimed late and on time, and edited in between. -/
def late : List Event :=
  [.begin (.create (scheduled "interval" "1s")), .perform 0, .tick 2500, .begin (.claimDue fun _ => "first"),
    .perform 0, .begin (.update "automation" fun _ => .ok {}), .perform 0, .begin (.cancel (fun _ => "") (.ok true) "first"),
    .perform 0, .tick 500, .begin (.claimDue fun _ => "second"), .perform 0]

theorem late_claimed_once :
    (Timed.run (Schedule.planner universal) late).claims.map Claim.scheduledFor = [1000, 3000] ∧
    (∀ automation, (((Timed.run (Schedule.planner universal) late).claims.filter fun claim =>
      claim.automationId = automation).map Claim.scheduledFor).Pairwise (· < ·)) ∧
    ∀ claim ∈ (Timed.run (Schedule.planner universal) late).claims, ∀ next ∈ claim.nextRunAt, claim.claimedAt < next :=
  ⟨by decide +kernel, occurrences_claimed_once universal late (by decide +kernel)⟩

/-- An edit reads the time before the automation's only run, and gets the database behind its claim. -/
def renamed : List Event :=
  [.begin (.create (scheduled "once" "100")), .perform 0, .tick 99, .begin (.update "automation" fun _ => .ok {}),
    .tick 1, .begin (.claimDue fun _ => "first"), .perform 1, .perform 0,
    .begin (.cancel (fun _ => "") (.ok true) "first"), .perform 0, .begin (.claimDue fun _ => "second"), .perform 0]

/-- The only run is claimed once more. -/
theorem not_every_occurrence_claimed_once :
    ¬∀ (C : Chrono) (events : List Event) (automation : Uuid),
      (((Timed.run (Schedule.planner C) events).claims.filter fun claim =>
        claim.automationId = automation).map Claim.scheduledFor).Pairwise (· < ·) := by
  intro once
  have twice : ((Timed.run (Schedule.planner universal) renamed).claims.filter fun claim =>
      claim.automationId = "automation").map Claim.scheduledFor = [100, 100] := by decide +kernel
  have increasing := once universal renamed "automation"
  rw [twice] at increasing
  exact absurd increasing (by decide)

end Run

end VibeLink.Automation
