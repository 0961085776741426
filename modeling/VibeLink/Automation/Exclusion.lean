import VibeLink.Relational.Pages
import VibeLink.Relational.Runs
import VibeLink.Automation.Service

/-! No automation has two runs under way, and its runs are numbered in the order in which they are created. -/

namespace VibeLink.Automation

open Relational Tx AutomationStore AutomationService

/-- What the runs of a store keep to. -/
structure Exclusive (s : Store) : Prop where
  stamps : (s.runs.rows.map AutomationRunRecord.stamp).Sublist s.journal
  numbers : ∀ automation, Ascending Stamp.runNumber
    (s.journal.filter fun stamp => decide (stamp.automationId = automation))
  /-- The newest run of an automation is never pruned. -/
  newest : ∀ stamp ∈ s.journal, ∃ run ∈ s.runs.rows,
    run.automationId = stamp.automationId ∧ stamp.runNumber ≤ run.runNumber
  single : ∀ run ∈ s.runs.rows, ∀ other ∈ s.runs.rows, isActiveStatus run.status → isActiveStatus other.status →
    run.automationId = other.automationId → run.id = other.id

namespace Exclusive

variable {s t : Store}

theorem initial : Exclusive ⟨.empty, .empty, []⟩ where
  stamps := .slnil
  numbers := fun _ => .nil
  newest := List.forall_mem_nil _
  single := List.forall_mem_nil _

theorem of_eq (h : Exclusive s) (runs : t.runs = s.runs) (journal : t.journal = s.journal) : Exclusive t := by
  cases s
  cases t
  cases runs
  cases journal
  exact ⟨h.stamps, h.numbers, h.newest, h.single⟩

variable {run : AutomationRunRecord}

theorem append (h : Exclusive s) (rows : t.runs.rows = s.runs.rows ++ [run])
    (journal : t.journal = s.journal ++ [run.stamp])
    (last : ∀ stamp ∈ s.journal, stamp.automationId = run.automationId → stamp.runNumber < run.runNumber)
    (alone : ∀ other ∈ s.runs.rows, other.automationId = run.automationId → isActiveStatus other.status = false) :
    Exclusive t where
  stamps := by
    rw [rows, journal, List.map_append]
    exact h.stamps.append (.refl _)
  numbers := by
    intro automation
    rw [journal, List.filter_append, Ascending, List.pairwise_append]
    refine ⟨h.numbers automation, ?_, ?_⟩
    · exact (List.pairwise_singleton _ _).filter _
    · intro stamp member new newMember
      obtain ⟨member, same⟩ := List.mem_filter.1 member
      obtain ⟨newMember, same'⟩ := List.mem_filter.1 newMember
      cases List.mem_singleton.1 newMember
      exact last stamp member ((of_decide_eq_true same).trans (of_decide_eq_true same').symm)
  newest := by
    intro stamp member
    rw [rows]
    rcases List.mem_append.1 (journal ▸ member) with before | new
    · obtain ⟨newest, newestMem, same, le⟩ := h.newest stamp before
      exact ⟨newest, List.mem_append_left _ newestMem, same, le⟩
    · cases List.mem_singleton.1 new
      exact ⟨run, List.mem_append_right _ (List.mem_singleton_self _), rfl, Nat.le_refl _⟩
  single := by
    have clash (old : AutomationRunRecord) (member : old ∈ s.runs.rows) (active : isActiveStatus old.status)
        (same : old.automationId = run.automationId) : False := by
      rw [alone old member same] at active
      cases active
    intro run₁ member₁ run₂ member₂ active₁ active₂ same
    rw [rows] at member₁ member₂
    rcases List.mem_append.1 member₁ with old₁ | new₁ <;> rcases List.mem_append.1 member₂ with old₂ | new₂
    · exact h.single _ old₁ _ old₂ active₁ active₂ same
    · cases List.mem_singleton.1 new₂
      exact (clash run₁ old₁ active₁ same).elim
    · cases List.mem_singleton.1 new₁
      exact (clash run₂ old₂ active₂ same.symm).elim
    · cases List.mem_singleton.1 new₁
      cases List.mem_singleton.1 new₂
      rfl

theorem rewrite (h : Exclusive s) {f : AutomationRunRecord → AutomationRunRecord}
    (rows : t.runs.rows = s.runs.rows.map f) (journal : t.journal = s.journal)
    (stamp : ∀ run, (f run).stamp = run.stamp)
    (active : ∀ run, isActiveStatus (f run).status → isActiveStatus run.status) : Exclusive t where
  stamps := by
    rw [rows, journal, List.map_map, funext (f := AutomationRunRecord.stamp ∘ f) stamp]
    exact h.stamps
  numbers := journal ▸ h.numbers
  newest := by
    intro mark member
    obtain ⟨newest, newestMem, same, le⟩ := h.newest mark (journal ▸ member)
    have kept := stamp newest
    refine ⟨f newest, rows ▸ List.mem_map_of_mem newestMem, ?_, ?_⟩
    · exact (congrArg Stamp.automationId kept).trans same
    · exact Nat.le_trans le (Nat.le_of_eq (congrArg Stamp.runNumber kept).symm)
  single := by
    intro run₁ member₁ run₂ member₂ active₁ active₂ same
    rw [rows] at member₁ member₂
    obtain ⟨old₁, here₁, rfl⟩ := List.mem_map.1 member₁
    obtain ⟨old₂, here₂, rfl⟩ := List.mem_map.1 member₂
    have automation (run : AutomationRunRecord) : (f run).automationId = run.automationId :=
      congrArg Stamp.automationId (stamp run)
    have id (run : AutomationRunRecord) : (f run).id = run.id := congrArg Stamp.id (stamp run)
    rw [automation, automation] at same
    rw [id, id]
    exact h.single old₁ here₁ old₂ here₂ (active old₁ active₁) (active old₂ active₂) same

theorem retain (h : Exclusive s) {p : AutomationRunRecord → Bool} (rows : t.runs.rows = s.runs.rows.filter p)
    (journal : t.journal = s.journal) (kept : ∀ run ∈ s.runs.rows, ∃ newer ∈ s.runs.rows, p newer ∧
      newer.automationId = run.automationId ∧ run.runNumber ≤ newer.runNumber) : Exclusive t where
  stamps := by
    rw [rows, journal]
    exact (List.filter_sublist.map _).trans h.stamps
  numbers := journal ▸ h.numbers
  newest := by
    intro stamp member
    obtain ⟨newest, newestMem, same, le⟩ := h.newest stamp (journal ▸ member)
    obtain ⟨newer, newerMem, stays, same', le'⟩ := kept newest newestMem
    exact ⟨newer, rows ▸ List.mem_filter.2 ⟨newerMem, stays⟩, same'.trans same, Nat.le_trans le le'⟩
  single := by
    intro run₁ member₁ run₂ member₂
    rw [rows] at member₁ member₂
    exact h.single run₁ (List.mem_filter.1 member₁).1 run₂ (List.mem_filter.1 member₂).1

theorem forget (h : Exclusive s) {id : Uuid}
    (rows : t.runs.rows = s.runs.rows.filter fun run => decide (run.automationId ≠ id))
    (journal : t.journal = s.journal.filter fun stamp => decide (stamp.automationId ≠ id)) : Exclusive t where
  stamps := by
    have filtered : (s.runs.rows.filter fun run => decide (run.automationId ≠ id)).map AutomationRunRecord.stamp =
        (s.runs.rows.map AutomationRunRecord.stamp).filter fun stamp => decide (stamp.automationId ≠ id) := by
      rw [List.filter_map]
      rfl
    rw [rows, journal, filtered]
    exact h.stamps.filter _
  numbers := by
    intro automation
    rw [journal]
    exact (h.numbers automation).sublist (List.filter_sublist.filter _)
  newest := by
    intro stamp member
    rw [journal] at member
    obtain ⟨member, stays⟩ := List.mem_filter.1 member
    obtain ⟨newest, newestMem, same, le⟩ := h.newest stamp member
    rw [rows]
    exact ⟨newest, List.mem_filter.2 ⟨newestMem, by rw [same]; exact stays⟩, same, le⟩
  single := by
    intro run₁ member₁ run₂ member₂
    rw [rows] at member₁ member₂
    exact h.single run₁ (List.mem_filter.1 member₁).1 run₂ (List.mem_filter.1 member₂).1

end Exclusive

section Checks

variable {value : Nat} {label : String}

@[simp] theorem wlp_u64ToI64 {Q : Unit → Store → Prop} :
    (u64ToI64 value label).wlp Q = fun s => value ≤ maxInteger → Q () s := wlp_require

theorem readOnly_optionalU64ToI64 (value : Option Nat) (label : String) :
    (optionalU64ToI64 value label).ReadOnly := by
  cases value with
  | none => exact readOnly_pure _
  | some value => exact readOnly_require _ _

theorem wlp_optionalU64ToI64 {value : Option Nat} {Q : Unit → Store → Prop} {s : Store} (h : Q () s) :
    (optionalU64ToI64 value label).wlp Q s := (readOnly_optionalU64ToI64 value label).wlp fun _ => h

end Checks

namespace Exclusive

variable {s : Store}

theorem wlp_saveRunIfStatus {record : AutomationRunRecord} {expectedStatus : RunStatus} (h : Exclusive s)
    (fades : isActiveStatus record.status → isActiveStatus expectedStatus) :
    (saveRunIfStatus record expectedStatus).wlp (fun _ => Exclusive) s := by
  simp only [saveRunIfStatus, wlp_bind, wlp_write, getRun, wlp_expect]
  apply wlp_optionalU64ToI64
  apply wlp_optionalU64ToI64
  intro _ _
  refine h.rewrite rfl rfl ?_ ?_
  · intro run
    split <;> rfl
  · intro run active
    split at active
    · rename_i chosen
      rw [decide_eq_true_iff] at chosen
      rw [chosen.2]
      exact fades active
    · exact active

theorem wlp_cancelRun {id : Uuid} {finishedAt : Nat} (h : Exclusive s) :
    (cancelRun id finishedAt).wlp (fun _ => Exclusive) s := by
  simp only [cancelRun, wlp_bind, wlp_tryWrite, getRun, wlp_expect, wlp_require, wlp_u64ToI64]
  intro _ _ _ _ s' cancelled _ _
  split at cancelled
  · cases cancelled
    refine h.rewrite rfl rfl ?_ ?_
    · intro run
      split <;> rfl
    · intro run active
      split at active
      · cases active
      · exact active
  · cases cancelled

theorem finalRuns_sorted (s : Store) (automationId : Uuid) :
    (finalRuns s automationId).Pairwise fun a b => b.runNumber ≤ a.runNumber := by
  refine (pairwise_orderBy ?_ ?_ _).imp ?_
  · intro a b
    simp only [decide_eq_true_eq]
    have ids := String.le_total a.id b.id
    grind
  · intro a b c
    simp only [decide_eq_true_eq]
    intro hab hbc
    have ids : c.id ≤ b.id → b.id ≤ a.id → c.id ≤ a.id := String.le_trans
    grind
  · intro a b le
    rw [decide_eq_true_iff] at le
    omega

theorem mem_finalRuns {automationId : Uuid} {run : AutomationRunRecord} : run ∈ finalRuns s automationId ↔
    run ∈ s.runs.rows ∧ run.automationId = automationId ∧ isFinalStatus run.status := by
  rw [finalRuns, mem_orderBy, List.mem_filter, Bool.and_eq_true, decide_eq_true_iff]

theorem nodup_finalRuns (s : Store) (automationId : Uuid) :
    ((finalRuns s automationId).map AutomationRunRecord.id).Nodup := by
  rw [finalRuns, ((perm_orderBy _ _).map _).nodup_iff]
  exact s.runs.nodup_keys_filter _

section Pruned

variable {automationId : Uuid} {run : AutomationRunRecord}

theorem mem_of_pruned (member : run ∈ s.runs.rows)
    (gone : run.id ∈ ((finalRuns s automationId).drop retainFinalRuns).map AutomationRunRecord.id) :
    run ∈ (finalRuns s automationId).drop retainFinalRuns := by
  obtain ⟨pruned, goneMem, same⟩ := List.mem_map.1 gone
  have found := Table.find_of_mem (mem_finalRuns.1 (List.mem_of_mem_drop goneMem)).1
  rw [same, Table.find_of_mem member, Option.some_inj] at found
  rwa [found]

theorem exists_retained (pruned : run ∈ (finalRuns s automationId).drop retainFinalRuns) :
    ∃ first ∈ s.runs.rows, first.automationId = automationId ∧
      first.id ∉ ((finalRuns s automationId).drop retainFinalRuns).map AutomationRunRecord.id ∧
      run.runNumber ≤ first.runNumber := by
  have sorted := finalRuns_sorted s automationId
  have nodup := nodup_finalRuns s automationId
  cases listed : finalRuns s automationId with
  | nil =>
    rw [listed] at pruned
    cases pruned
  | cons first rest =>
    rw [listed, retainFinalRuns, List.drop_succ_cons] at pruned
    rw [listed] at sorted nodup
    have final := mem_finalRuns.1 (listed ▸ List.mem_cons_self : first ∈ finalRuns s automationId)
    refine ⟨first, final.1, final.2.1, ?_, List.rel_of_pairwise_cons sorted (List.mem_of_mem_drop pruned)⟩
    rw [retainFinalRuns, List.drop_succ_cons]
    intro gone
    rw [List.map_cons, List.nodup_cons] at nodup
    exact nodup.1 ((List.drop_sublist _ _).map _ |>.subset gone)

theorem newest_not_pruned (member : run ∈ s.runs.rows)
    (newest : ∀ other ∈ s.runs.rows, other.automationId = automationId → other ≠ run →
      other.runNumber < run.runNumber) :
    run.id ∉ ((finalRuns s automationId).drop retainFinalRuns).map AutomationRunRecord.id := by
  intro gone
  obtain ⟨first, inside, own, stays, le⟩ := exists_retained (mem_of_pruned member gone)
  exact Nat.not_lt_of_le le (newest first inside own fun same => stays (same ▸ gone))

theorem other_not_pruned (member : run ∈ s.runs.rows) (ne : run.automationId ≠ automationId) :
    run.id ∉ ((finalRuns s automationId).drop retainFinalRuns).map AutomationRunRecord.id :=
  fun gone => ne (mem_finalRuns.1 (List.mem_of_mem_drop (mem_of_pruned member gone))).2.1

end Pruned

theorem prune (h : Exclusive s) (automationId : Uuid) {s' : Store} (runs : s'.runs = s.runs.retain fun run =>
    decide (run.id ∉ ((finalRuns s automationId).drop retainFinalRuns).map AutomationRunRecord.id))
    (journal : s'.journal = s.journal) : Exclusive s' := by
  refine h.retain (by rw [runs]; rfl) journal ?_
  intro run member
  by_cases stays : run.id ∈ ((finalRuns s automationId).drop retainFinalRuns).map AutomationRunRecord.id
  · have pruned := mem_of_pruned member stays
    obtain ⟨first, inside, own, kept, le⟩ := exists_retained pruned
    exact ⟨first, inside, decide_eq_true kept,
      own.trans (mem_finalRuns.1 (List.mem_of_mem_drop pruned)).2.1.symm, le⟩
  · exact ⟨run, member, decide_eq_true stays, rfl, Nat.le_refl _⟩

theorem wlp_pruneFinalRuns {automationId : Uuid} (h : Exclusive s) :
    (pruneFinalRuns automationId).wlp (fun _ => Exclusive) s := by
  rw [pruneFinalRuns, wlp_write]
  exact h.prune automationId rfl rfl

theorem wlp_nextRunNumber_rows {automationId : Uuid} : (nextRunNumber automationId).wlp (fun number t =>
    t = s ∧ ∀ run ∈ s.runs.rows, run.automationId = automationId → run.runNumber < number) s := by
  simp only [nextRunNumber, wlp_bind, wlp_gets, wlp_require, wlp_pure]
  intro _
  refine ⟨trivial, fun run member same => ?_⟩
  have among : run.runNumber ∈ (s.runs.rows.filter fun run => decide (run.automationId = automationId)).map
      AutomationRunRecord.runNumber :=
    List.mem_map_of_mem (List.mem_filter.2 ⟨member, decide_eq_true same⟩)
  cases most : ((s.runs.rows.filter fun run => decide (run.automationId = automationId)).map
      AutomationRunRecord.runNumber).max? with
  | none =>
    rw [List.max?_eq_none_iff.1 most] at among
    cases among
  | some number =>
    have upper := (List.max?_eq_some_iff.1 most).2 _ among
    rw [Option.getD_some]
    omega

theorem wlp_nextRunNumber {automationId : Uuid} (h : Exclusive s) : (nextRunNumber automationId).wlp (fun number s' =>
    s' = s ∧ ∀ stamp ∈ s.journal, stamp.automationId = automationId → stamp.runNumber < number) s := by
  refine wlp_mono wlp_nextRunNumber_rows ?_
  intro number s' numbered
  obtain ⟨rfl, last⟩ := numbered
  refine ⟨rfl, fun stamp member same => ?_⟩
  obtain ⟨newest, newestMem, automation, le⟩ := h.newest stamp member
  exact Nat.lt_of_le_of_lt le (last newest newestMem (automation.trans same))

theorem wlp_insertRun_created {record : AutomationRunRecord} : (insertRun record).wlp (fun _ t =>
    t.automations = s.automations ∧ t.runs.rows = s.runs.rows ++ [record] ∧
      t.journal = s.journal ++ [record.stamp]) s := by
  simp only [insertRun, wlp_bind, wlp_tryWrite, getRun, wlp_expect, wlp_u64ToI64]
  intro _ _
  apply wlp_optionalU64ToI64
  apply wlp_optionalU64ToI64
  intro _ t inserted _ _
  split at inserted
  · obtain ⟨runs, inserts, rfl⟩ := Option.map_eq_some_iff.1 inserted
    exact ⟨rfl, (Table.insert?_eq_some.1 inserts).2, rfl⟩
  · cases inserted

theorem wlp_insertRun {record : AutomationRunRecord} (h : Exclusive s)
    (last : ∀ stamp ∈ s.journal, stamp.automationId = record.automationId → stamp.runNumber < record.runNumber)
    (alone : ∀ other ∈ s.runs.rows, other.automationId = record.automationId → isActiveStatus other.status = false) :
    (insertRun record).wlp (fun _ => Exclusive) s := by
  refine wlp_mono wlp_insertRun_created ?_
  intro _ t inserted
  exact h.append inserted.2.1 inserted.2.2 last alone

theorem alone_of_head? {automationId : Uuid} (idle : (orderBy newer (s.runs.rows.filter fun run =>
      decide (run.automationId = automationId) && isActiveStatus run.status)).head? = none) :
    ∀ other ∈ s.runs.rows, other.automationId = automationId → isActiveStatus other.status = false := by
  intro other member same
  rw [List.head?_eq_none_iff] at idle
  by_contra active
  rw [Bool.not_eq_false] at active
  have listed : other ∈ orderBy newer (s.runs.rows.filter fun run =>
      decide (run.automationId = automationId) && isActiveStatus run.status) := by
    rw [mem_orderBy, List.mem_filter, active, Bool.and_true, decide_eq_true_iff]
    exact ⟨member, same⟩
  rw [idle] at listed
  cases listed

theorem wlp_claimDue_of {P : Store → Prop} {planner : Planner} {uuid : Uuid} {record : AutomationRecord} {now : Nat}
    (h : Exclusive s) (unclaimed : P s)
    (inserts : ∀ t run, t.runs = s.runs → t.journal = s.journal →
      (∀ stamp ∈ t.journal, stamp.automationId = run.automationId → stamp.runNumber < run.runNumber) →
      (∀ other ∈ t.runs.rows, other.automationId = run.automationId → isActiveStatus other.status = false) →
      (insertRun run).wlp (fun _ => (pruneFinalRuns run.automationId).wlp fun _ => P) t) :
    (AutomationStore.claimDue planner uuid record now).wlp (fun _ => P) s := by
  simp only [AutomationStore.claimDue, wlp_bind, wlp_expect, wlp_require, AutomationStore.get, wlp_ite, wlp_u64ToI64,
    claimedRun]
  intro scheduledFor _ _ source _
  constructor
  · intro _ _ _ _
    exact unclaimed
  · intro _
    simp only [activeRun, wlp_gets]
    split
    · rw [wlp_fail]
      trivial
    · rename_i idle
      have alone := alone_of_head? idle
      simp only [wlp_bind, wlp_ofExcept, wlp_u64ToI64, wlp_tryWrite, wlp_pure]
      intro nextRunAt _
      refine wlp_mono h.wlp_nextRunNumber ?_
      rintro number _ ⟨rfl, last⟩ _
      apply wlp_optionalU64ToI64
      intro _ claimed claims
      split at claims
      · cases claims
        exact inserts _ _ rfl rfl last alone
      · cases claims

theorem wlp_claimDue {planner : Planner} {uuid : Uuid} {record : AutomationRecord} {now : Nat} (h : Exclusive s) :
    (AutomationStore.claimDue planner uuid record now).wlp (fun _ => Exclusive) s :=
  h.wlp_claimDue_of h fun _ _ runs journal last alone =>
    wlp_mono (wlp_insertRun (h.of_eq runs journal) last alone) fun _ _ inserted => inserted.wlp_pruneFinalRuns

theorem atomically {α : Type} {x : AutomationResult α} (keeps : ∀ s, Exclusive s → x.wlp (fun _ => Exclusive) s)
    (h : Exclusive s) : Exclusive (Tx.atomically x s).2 := by
  have ok := keeps s h
  simp only [Tx.atomically]
  split
  · rename_i done
    exact ok _ _ done
  · exact h

theorem trigger {env : Env} {automationId : Uuid} (h : Exclusive s) :
    Exclusive (AutomationService.trigger env automationId s).2 := by
  refine h.atomically fun s h => ?_
  simp only [wlp_bind, wlp_expect, wlp_require, AutomationStore.get, activeRun, wlp_gets]
  intro automation _ _
  split
  · rw [wlp_fail]
    trivial
  · rename_i idle
    have alone := alone_of_head? idle
    rw [wlp_bind]
    refine wlp_mono h.wlp_nextRunNumber ?_
    rintro number _ ⟨rfl, last⟩
    exact h.wlp_insertRun last alone

theorem delete {id : Uuid} (h : Exclusive s) : Exclusive (AutomationService.delete id s).2 := by
  refine h.atomically fun s h => ?_
  simp only [AutomationStore.delete, wlp_bind, AutomationStore.get, wlp_expect, wlp_write]
  intro _ _
  exact h.forget rfl rfl

theorem claimDue {planner : Planner} {env : Env} (h : Exclusive s) :
    Exclusive (AutomationService.claimDue planner env s).2 := by
  refine h.atomically fun s h => ?_
  simp only [due, wlp_bind, wlp_u64ToI64, wlp_gets]
  intro _
  refine wlp_fold h fun record _ claims s h => ?_
  simp only [claimDue.claim, wlp_bind, wlp_attempt]
  have claims (s : Store) (h : Exclusive s) :
      (AutomationStore.claimDue planner (env.uuid record.2) record.1 env.now).wlp (fun _ => Exclusive) s := h.wlp_claimDue
  have kept := h.atomically claims
  split <;> rw [wlp_pure] <;> exact kept

theorem wlp_closeRun {current : AutomationRunRecord} {expected : RunStatus} (h : Exclusive s)
    (fades : isActiveStatus current.status → isActiveStatus expected) :
    (closeRun current expected).wlp (fun _ => Exclusive) s := by
  simp only [closeRun, wlp_bind, wlp_pure, wlp_ite]
  refine wlp_mono (h.wlp_saveRunIfStatus fades) ?_
  intro saved s h
  exact ⟨fun _ => h.wlp_pruneFinalRuns, fun _ => h⟩

theorem cancel {env : Env} {cancelled : Except String Bool} {runId : Uuid} (h : Exclusive s) :
    Exclusive (AutomationService.cancel env cancelled runId s).2 := by
  cases cancelled with
  | error => exact h
  | ok =>
    refine h.atomically fun s h => ?_
    simp only [wlp_bind, getRun, wlp_expect, wlp_ite, wlp_pure]
    intro existing _
    refine ⟨fun _ => h, fun _ => wlp_mono h.wlp_cancelRun ?_⟩
    intro _ _ h
    exact h.wlp_pruneFinalRuns

theorem reconcileStartup {env : Env} {terminate : AutomationRuntimeIdentity → Except String Bool} (h : Exclusive s) :
    Exclusive (AutomationService.reconcileStartup env terminate s).2 := by
  refine h.atomically fun s h => ?_
  simp only [activeRuns, wlp_bind, wlp_gets, wlp_pure]
  refine wlp_traverse (I := fun _ _ => Exclusive) h ?_
  intro _ run _ _ _ s h
  rw [reconcileStartup.reconcile]
  split
  · exact wlp_pure ▸ h
  · simp only [wlp_bind, wlp_pure]
    exact h.wlp_saveRunIfStatus fun active => by cases active

abbrev Preserves (s t : Store) : Prop := Exclusive s → Exclusive t

instance : IsPreorder Store Preserves where
  refl _ h := h
  trans _ _ _ first second h := second (first h)

instance (value : Nat) (label : String) : Respects Preserves (u64ToI64 value label) :=
  inferInstanceAs (Respects _ (require _ _))

instance (value : Option Nat) (label : String) : Respects Preserves (optionalU64ToI64 value label) :=
  (readOnly_optionalU64ToI64 value label).respects

instance (record : AutomationRecord) : Respects Preserves (AutomationStore.insert record) := by
  have inserts : Respects Preserves (tryWrite (fun s => if sourceTaken s record then none else
      (s.automations.insert? record).map fun automations => { s with automations })
      (sourceWriteContext "insert" record)) := by
    apply respects_tryWrite
    intro s t inserted h
    split at inserted
    · cases inserted
    · obtain ⟨automations, _, rfl⟩ := Option.map_eq_some_iff.1 inserted
      exact h.of_eq rfl rfl
  dsimp only [AutomationStore.insert, checkTimes, AutomationStore.get]
  infer_instance

theorem wlp_update {record : AutomationRecord} (h : Exclusive s) :
    (AutomationStore.update record).wlp (fun _ => Exclusive) s := by
  simp only [AutomationStore.update, checkTimes, wlp_bind, wlp_u64ToI64, wlp_tryWrite, AutomationStore.get,
    wlp_expect]
  apply wlp_optionalU64ToI64
  apply wlp_optionalU64ToI64
  apply wlp_optionalU64ToI64
  intro _ s' written _ _
  split at written
  · cases written
  · cases written
    exact h.of_eq rfl rfl

theorem create {planner : Planner} {record : AutomationRecord} (h : Exclusive s) :
    Exclusive (AutomationService.create planner record s).2 := by
  have kept : Respects Preserves (AutomationService.create planner record) := by
    dsimp only [AutomationService.create]
    infer_instance
  exact kept.respects s h

theorem update {planner : Planner} {id : Uuid} {patch : AutomationRecord → Except String AutomationRecord}
    (h : Exclusive s) : Exclusive (AutomationService.update planner id patch s).2 := by
  refine h.atomically fun s h => ?_
  simp only [AutomationStore.get, wlp_bind, wlp_expect, wlp_ofExcept, wlp_require, wlp_ite, wlp_pure]
  intro existing _ updated _ _ _ _
  refine ⟨fun _ => h.wlp_update, fun _ => ⟨fun _ nextRunAt _ => h.wlp_update, fun _ => h.wlp_update⟩⟩

theorem importJobs {planner : Planner} {selected : List AutomationRecord} (h : Exclusive s) :
    Exclusive (AutomationService.importJobs planner selected s).2 := by
  have each (record : AutomationRecord) : Respects Preserves (importJobs.importJob planner record) := by
    dsimp only [importJobs.importJob]
    infer_instance
  have kept : Respects Preserves (AutomationService.importJobs planner selected) := by
    dsimp only [AutomationService.importJobs]
    infer_instance
  exact kept.respects s h

theorem respects_atomically {α : Type} {x : AutomationResult α}
    (keeps : ∀ s, Exclusive s → x.wlp (fun _ => Exclusive) s) : Respects Preserves (Tx.atomically x) :=
  ⟨fun _ h => h.atomically keeps⟩

instance (claim : AutomationRunRecord) (automation : AutomationRecord) (now : Nat) :
    Respects Preserves (AutomationService.dispatch claim automation now) := by
  apply respects_atomically
  intro s h
  simp only [wlp_bind, getRun, wlp_expect, wlp_require, wlp_ite, wlp_pure]
  intro current _ _
  exact ⟨fun _ => h, fun _ _ => h.wlp_saveRunIfStatus fun _ => rfl⟩

instance (what : String) (runId : Uuid) (change : AutomationRunRecord → AutomationRunRecord) :
    Respects Preserves (persistDispatching what runId change) := by
  apply respects_atomically
  intro s h
  simp only [wlp_bind, getRun, wlp_expect, wlp_require, wlp_ite, wlp_pure]
  intro current _
  exact ⟨fun _ => h, fun _ _ => h.wlp_saveRunIfStatus fun _ => rfl⟩

instance (runId : Uuid) (error : String) (now : Nat) :
    Respects Preserves (finishPrepareFailure runId error now) := by
  apply respects_atomically
  intro s h
  simp only [wlp_bind, getRun, wlp_expect, wlp_ite, wlp_pure]
  intro current _
  refine ⟨fun _ => h, fun _ => ⟨fun cancelled => h.wlp_closeRun ?_, fun _ => h.wlp_closeRun ?_⟩⟩
  · rw [cancelled]
    exact id
  · intro active
    cases active

theorem ended (call : TerminalCall) (current : AutomationRunRecord) :
    isActiveStatus (persistTerminalOutcome.close call current).status = false := by
  have final := call.final
  rw [isFinalStatus_eq, Bool.not_eq_true'] at final
  dsimp only [persistTerminalOutcome.close]
  split
  · rfl
  · exact final

instance (runId : Uuid) (call : TerminalCall) : Respects Preserves (persistTerminalOutcome runId call) := by
  apply respects_atomically
  intro s h
  simp only [wlp_bind, getRun, wlp_expect, wlp_ite, wlp_pure]
  intro current _
  refine ⟨fun _ => h, fun _ => h.wlp_closeRun ?_⟩
  rw [ended]
  intro active
  cases active

theorem advance {claim : AutomationRunRecord} {answers : Answers} {stage : Stage} (h : Exclusive s) :
    Exclusive (VibeLink.Automation.advance claim answers stage s).2 := by
  have kept : Respects Preserves (VibeLink.Automation.advance claim answers stage) := by
    cases stage with
    | prepare =>
      simp only [VibeLink.Automation.advance]
      cases answers.prepared with
      | error => infer_instance
      | ok =>
        dsimp only [persistPreparedWorktree]
        infer_instance
    | _ =>
      dsimp only [VibeLink.Automation.advance, AutomationStore.get, persistPrecheckResult, persistDispatchedOutcome]
      infer_instance
  exact kept.respects s h

end Exclusive

theorem exclusive_next {planner : Planner} {s : System} {op : Op} (h : Exclusive s.store) :
    Exclusive (s.next planner op).store := by
  cases op with
  | create => exact h.create
  | update => exact h.update
  | delete => exact h.delete
  | importJobs => exact h.importJobs
  | trigger => exact h.trigger
  | claimDue => exact h.claimDue
  | advance =>
    dsimp only [System.next]
    split
    · exact h
    · exact h.advance
  | cancel => exact h.cancel
  | restart => exact h.reconcileStartup

theorem exclusive_run (planner : Planner) (ops : List Op) : Exclusive (System.run planner ops).store := by
  induction ops using List.reverseRecOn with
  | nil => exact Exclusive.initial
  | append_singleton ops op ih =>
    rw [System.run, List.foldl_append]
    exact exclusive_next ih

section Outcome

variable {s : Store}

theorem Exclusive.length_active (h : Exclusive s) (automation : Uuid) : (s.runs.rows.filter fun run =>
    decide (run.automationId = automation) && isActiveStatus run.status).length ≤ 1 := by
  have nodup := s.runs.nodup_keys_filter fun run =>
    decide (run.automationId = automation) && isActiveStatus run.status
  have active : ∀ run ∈ s.runs.rows.filter fun run =>
      decide (run.automationId = automation) && isActiveStatus run.status,
      run ∈ s.runs.rows ∧ run.automationId = automation ∧ isActiveStatus run.status := by
    intro run member
    rwa [List.mem_filter, Bool.and_eq_true, decide_eq_true_iff] at member
  generalize s.runs.rows.filter (fun run =>
    decide (run.automationId = automation) && isActiveStatus run.status) = runs at nodup active
  cases runs with
  | nil => exact Nat.zero_le 1
  | cons run runs =>
    cases runs with
    | nil => exact Nat.le_refl 1
    | cons other runs =>
      have first := active run List.mem_cons_self
      have second := active other (List.mem_cons_of_mem _ List.mem_cons_self)
      have same := h.single run first.1 other second.1 first.2.2 second.2.2 (first.2.1.trans second.2.1.symm)
      rw [List.map_cons, List.map_cons, same] at nodup
      exact ((List.nodup_cons.1 nodup).1 List.mem_cons_self).elim

theorem Exclusive.numbers_rows (h : Exclusive s) (automation : Uuid) :
    ((s.runs.rows.filter fun run => decide (run.automationId = automation)).map
      AutomationRunRecord.runNumber).Pairwise (· < ·) := by
  have stamps : ((s.runs.rows.map AutomationRunRecord.stamp).filter fun stamp =>
      decide (stamp.automationId = automation)).Pairwise fun a b => a.runNumber < b.runNumber :=
    (h.numbers automation).sublist (h.stamps.filter _)
  rw [List.filter_map, List.pairwise_map] at stamps
  rw [List.pairwise_map]
  exact stamps

end Outcome

/-- After any calls in any order, executions and restarts among them, an automation has at most one run
that is pending, dispatching or dispatched, and all runs created for it have increasing numbers in the order
of their creation, those that are still there and those that have been pruned. -/
theorem runs_exclusive_and_numbered (planner : Planner) (ops : List Op) (automation : Uuid) :
    ((System.run planner ops).store.runs.rows.filter fun run =>
      decide (run.automationId = automation) && isActiveStatus run.status).length ≤ 1 ∧
    (((System.run planner ops).store.runs.rows.filter fun run => decide (run.automationId = automation)).map
      AutomationRunRecord.runNumber).Pairwise (· < ·) ∧
    (((System.run planner ops).store.journal.filter fun stamp => decide (stamp.automationId = automation)).map
      Stamp.runNumber).Pairwise (· < ·) ∧
    ((System.run planner ops).store.runs.rows.map AutomationRunRecord.stamp).Sublist
      (System.run planner ops).store.journal := by
  have kept := exclusive_run planner ops
  refine ⟨kept.length_active automation, kept.numbers_rows automation, ?_, kept.stamps⟩
  rw [List.pairwise_map]
  exact kept.numbers automation

end VibeLink.Automation

/-! Which of its runs an automation retains. -/

namespace VibeLink.Automation

open Relational Tx AutomationStore

namespace AutomationRunRecord

def isFinalOf (automationId : Uuid) (run : AutomationRunRecord) : Bool :=
  decide (run.automationId = automationId) && isFinalStatus run.status

/-- The run is newer than the other one: by its number, then by its creation, then by its id. -/
def supersedes (run other : AutomationRunRecord) : Bool :=
  decide (other.runNumber < run.runNumber ∨ run.runNumber = other.runNumber ∧
    (other.createdAt < run.createdAt ∨ run.createdAt = other.createdAt ∧ other.id < run.id))

end AutomationRunRecord

variable {s : Store} {automationId : Uuid} {run : AutomationRunRecord}

/-- `ORDER BY run_number DESC,created_at DESC,id DESC` -/
def newestFirst (a b : AutomationRunRecord) : Bool :=
  decide (b.runNumber < a.runNumber ∨ a.runNumber = b.runNumber ∧
    (b.createdAt < a.createdAt ∨ a.createdAt = b.createdAt ∧ b.id ≤ a.id))

theorem newestFirst_total (a b : AutomationRunRecord) : newestFirst a b ∨ newestFirst b a := by
  simp only [newestFirst, decide_eq_true_eq]
  have ids := String.le_total a.id b.id
  grind

theorem newestFirst_trans (a b c : AutomationRunRecord) (ab : newestFirst a b) (bc : newestFirst b c) :
    newestFirst a c := by
  simp only [newestFirst, decide_eq_true_eq] at *
  have ids : c.id ≤ b.id → b.id ≤ a.id → c.id ≤ a.id := String.le_trans
  grind

theorem not_newestFirst (a b : AutomationRunRecord) : (!newestFirst a b) = b.supersedes a := by
  have ids : ¬b.id ≤ a.id ↔ a.id < b.id := String.not_le
  rw [newestFirst, AutomationRunRecord.supersedes, ← decide_not, decide_eq_decide]
  grind

theorem id_of_newestFirst {a b : AutomationRunRecord} (ab : newestFirst a b) (ba : newestFirst b a) : a.id = b.id := by
  simp only [newestFirst, decide_eq_true_eq] at *
  have ids : b.id ≤ a.id → a.id ≤ b.id → a.id = b.id := fun le le' => String.le_antisymm le' le
  grind

theorem finalRuns_eq (s : Store) (automationId : Uuid) : finalRuns s automationId =
    orderBy newestFirst (s.runs.rows.filter (AutomationRunRecord.isFinalOf automationId)) := rfl

theorem id_mem_drop (member : run ∈ s.runs.rows) :
    run.id ∈ ((finalRuns s automationId).drop retainFinalRuns).map AutomationRunRecord.id ↔
      run ∈ (finalRuns s automationId).drop retainFinalRuns := by
  constructor
  · intro gone
    obtain ⟨other, behind, same⟩ := List.mem_map.1 gone
    have there := (Exclusive.mem_finalRuns.1 (List.mem_of_mem_drop behind)).1
    have found := Table.find_of_mem there
    rw [same, Table.find_of_mem member, Option.some_inj] at found
    exact found ▸ behind
  · exact List.mem_map_of_mem

theorem mem_take_finalRuns (member : run ∈ s.runs.rows) (final : run.isFinalOf automationId = true) :
    run ∈ (finalRuns s automationId).take retainFinalRuns ↔
      s.runs.rows.countP (fun other => other.isFinalOf automationId && other.supersedes run) < retainFinalRuns := by
  have nodup : (s.runs.rows.filter (AutomationRunRecord.isFinalOf automationId)).Nodup :=
    (s.runs.nodup_keys_filter _).of_map
  rw [finalRuns_eq, mem_take_orderBy newestFirst_total newestFirst_trans nodup ?_ (List.mem_filter.2 ⟨member, final⟩),
    List.countP_filter]
  · simp only [not_newestFirst, Bool.and_comm]
  · intro a here b there ab ba
    have found := Table.find_of_mem (List.mem_filter.1 here).1
    rw [id_of_newestFirst ab ba, Table.find_of_mem (List.mem_filter.1 there).1] at found
    exact (Option.some.inj found).symm

theorem mem_drop_finalRuns (final : run ∈ finalRuns s automationId) :
    run ∈ (finalRuns s automationId).drop retainFinalRuns ↔
      run ∉ (finalRuns s automationId).take retainFinalRuns := by
  have nodup : (finalRuns s automationId).Nodup := (Exclusive.nodup_finalRuns s automationId).of_map
  rw [← List.take_append_drop retainFinalRuns (finalRuns s automationId)] at nodup final
  constructor
  · exact fun behind first => List.disjoint_of_nodup_append nodup first behind
  · exact fun behind => (List.mem_append.1 final).resolve_left behind

theorem count_retained : (s.runs.rows.filter fun run =>
      decide (run.id ∉ ((finalRuns s automationId).drop retainFinalRuns).map AutomationRunRecord.id)).countP
        (AutomationRunRecord.isFinalOf automationId) =
    min retainFinalRuns (s.runs.rows.countP (AutomationRunRecord.isFinalOf automationId)) := by
  let first := (finalRuns s automationId).take retainFinalRuns
  let behind := (finalRuns s automationId).drop retainFinalRuns
  have whole : first ++ behind = finalRuns s automationId := List.take_append_drop _ _
  have perm : (finalRuns s automationId).Perm (s.runs.rows.filter (AutomationRunRecord.isFinalOf automationId)) :=
    perm_orderBy _ _
  have nodup : (first ++ behind).Nodup := whole ▸ (Exclusive.nodup_finalRuns s automationId).of_map
  have stays : ∀ run ∈ first ++ behind, decide (run.id ∉ behind.map AutomationRunRecord.id) = true ↔
      decide (run ∈ first) = true := by
    intro run member
    have final := whole ▸ member
    have there := (Exclusive.mem_finalRuns.1 final).1
    rw [decide_eq_true_iff, decide_eq_true_iff, id_mem_drop there, mem_drop_finalRuns final, not_not]
  have counted : (first ++ behind).countP (fun run => decide (run ∈ first)) = first.length := by
    rw [List.countP_append, List.countP_eq_length.2 fun run member => decide_eq_true member, List.countP_eq_zero.2]
    · rfl
    · intro run member
      simpa using fun here => List.disjoint_of_nodup_append nodup here member
  calc (s.runs.rows.filter fun run => decide (run.id ∉ behind.map AutomationRunRecord.id)).countP
        (AutomationRunRecord.isFinalOf automationId)
      = (s.runs.rows.filter (AutomationRunRecord.isFinalOf automationId)).countP
          (fun run => decide (run.id ∉ behind.map AutomationRunRecord.id)) := by
        rw [List.countP_filter, List.countP_filter]
        simp only [Bool.and_comm]
    _ = (first ++ behind).countP (fun run => decide (run.id ∉ behind.map AutomationRunRecord.id)) := by
        rw [whole, perm.countP_eq]
    _ = first.length := by rw [List.countP_congr stays, counted]
    _ = min retainFinalRuns (s.runs.rows.countP (AutomationRunRecord.isFinalOf automationId)) := by
        rw [List.length_take, perm.length_eq, List.countP_eq_length_filter]

/-- Pruning always goes through; it deletes nothing but final runs of the automation, and of these exactly those that a
hundred newer ones are there for. -/
theorem prunes_behind_newest (s : Store) (automationId : Uuid) : ∃ s', pruneFinalRuns automationId s = (.ok (), s') ∧
    s'.automations = s.automations ∧ s'.runs.rows.Sublist s.runs.rows ∧
    (∀ run ∈ s.runs.rows, run.automationId ≠ automationId ∨ isActiveStatus run.status = true → run ∈ s'.runs.rows) ∧
    (∀ run ∈ s.runs.rows, run.isFinalOf automationId = true → (run ∈ s'.runs.rows ↔
      s.runs.rows.countP (fun other => other.isFinalOf automationId && other.supersedes run) < 100)) ∧
    s'.runs.rows.countP (AutomationRunRecord.isFinalOf automationId) =
      min 100 (s.runs.rows.countP (AutomationRunRecord.isFinalOf automationId)) := by
  refine ⟨_, rfl, rfl, List.filter_sublist, ?_, ?_, count_retained⟩
  · intro run member spared
    refine List.mem_filter.2 ⟨member, ?_⟩
    rw [decide_eq_true_iff, id_mem_drop member]
    intro behind
    obtain ⟨_, ours, final⟩ := Exclusive.mem_finalRuns.1 (List.mem_of_mem_drop behind)
    rw [isFinalStatus_eq] at final
    cases spared with
    | inl other => exact other ours
    | inr active => simp [active] at final
  · intro run member final
    have ours : run.automationId = automationId ∧ isFinalStatus run.status = true := by
      simpa [AutomationRunRecord.isFinalOf] using final
    have listed := Exclusive.mem_finalRuns.2 ⟨member, ours⟩
    rw [← retainFinalRuns, ← mem_take_finalRuns member final]
    constructor
    · intro kept
      have stays := (List.mem_filter.1 kept).2
      rw [decide_eq_true_iff, id_mem_drop member, mem_drop_finalRuns listed, not_not] at stays
      exact stays
    · intro first
      refine List.mem_filter.2 ⟨member, ?_⟩
      rw [decide_eq_true_iff, id_mem_drop member, mem_drop_finalRuns listed, not_not]
      exact first

end VibeLink.Automation
