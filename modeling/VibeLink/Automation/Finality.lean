import VibeLink.Automation.Exclusion

/-! A run that has ended keeps its status. -/

namespace VibeLink.Automation

open Relational Tx AutomationStore AutomationService

/-- From the start of a call to a point within it: the runs that there were keep a final status. -/
structure Lasting (s t : Store) : Prop where
  exclusive : Exclusive t
  journal : s.journal.Subset t.journal
  settled : ∀ run' ∈ t.runs.rows, run'.stamp ∈ s.journal → ∃ run ∈ s.runs.rows, run.stamp = run'.stamp ∧
    (isFinalStatus run.status → run'.status = run.status)

namespace Lasting

variable {s t u : Store} {run : AutomationRunRecord}

theorem refl (exclusive : Exclusive s) : Lasting s s where
  exclusive := exclusive
  journal := List.Subset.refl _
  settled run member _ := ⟨run, member, rfl, fun _ => rfl⟩

theorem trans (first : Lasting s t) (second : Lasting t u) : Lasting s u where
  exclusive := second.exclusive
  journal := first.journal.trans second.journal
  settled run' member old := by
    obtain ⟨between, middle, same, kept'⟩ := second.settled run' member (first.journal old)
    obtain ⟨run, here, same', kept⟩ := first.settled between middle (same ▸ old)
    refine ⟨run, here, same'.trans same, fun final => ?_⟩
    rw [kept' (by rw [kept final]; exact final), kept final]

theorem of_eq (lasting : Lasting s t) (runs : u.runs = t.runs) (journal : u.journal = t.journal) : Lasting s u where
  exclusive := lasting.exclusive.of_eq runs journal
  journal := journal ▸ lasting.journal
  settled := runs ▸ lasting.settled

theorem rewrite (lasting : Lasting s t) {f : AutomationRunRecord → AutomationRunRecord}
    (rows : u.runs.rows = t.runs.rows.map f) (journal : u.journal = t.journal)
    (stamp : ∀ run, (f run).stamp = run.stamp)
    (final : ∀ run, isFinalStatus run.status → (f run).status = run.status) : Lasting s u where
  exclusive := by
    refine lasting.exclusive.rewrite rows journal stamp fun run active => ?_
    cases ended : isFinalStatus run.status with
    | true => exact final run ended ▸ active
    | false => rwa [isFinalStatus_eq, Bool.not_eq_false'] at ended
  journal := journal ▸ lasting.journal
  settled run' member old := by
    rw [rows] at member
    obtain ⟨between, middle, rfl⟩ := List.mem_map.1 member
    rw [stamp] at old ⊢
    obtain ⟨run, here, same, kept⟩ := lasting.settled between middle old
    refine ⟨run, here, same, fun ended => ?_⟩
    rw [final between (by rw [kept ended]; exact ended), kept ended]

theorem retain (lasting : Lasting s t) (exclusive : Exclusive u) {p : AutomationRunRecord → Bool}
    (rows : u.runs.rows = t.runs.rows.filter p) (journal : u.journal = t.journal) : Lasting s u where
  exclusive := exclusive
  journal := journal ▸ lasting.journal
  settled run' member := lasting.settled run' (List.mem_filter.1 (rows ▸ member)).1

theorem append (lasting : Lasting s t) (exclusive : Exclusive u) (rows : u.runs.rows = t.runs.rows ++ [run])
    (journal : u.journal = t.journal ++ [run.stamp])
    (last : ∀ stamp ∈ t.journal, stamp.automationId = run.automationId → stamp.runNumber < run.runNumber) :
    Lasting s u where
  exclusive := exclusive
  journal stamp member := journal ▸ List.mem_append_left _ (lasting.journal member)
  settled run' member old := by
    rw [rows] at member
    cases List.mem_append.1 member with
    | inl before => exact lasting.settled run' before old
    | inr new =>
      rw [List.mem_singleton.1 new] at old
      exact absurd (last _ (lasting.journal old) rfl) (Nat.lt_irrefl _)

theorem kept (lasting : Lasting s t) (exclusive : Exclusive s) (member : run ∈ s.runs.rows)
    (final : isFinalStatus run.status) : ∀ run' ∈ t.runs.rows, run'.stamp = run.stamp → run'.status = run.status := by
  intro run' member' same
  have old : run.stamp ∈ s.journal := exclusive.stamps.subset (List.mem_map_of_mem member)
  obtain ⟨before, here, stamp, kept⟩ := lasting.settled run' member' (same ▸ old)
  have found := Table.find_of_mem here
  have id : before.id = run.id := congrArg Stamp.id (stamp.trans same)
  rw [id, Table.find_of_mem member, Option.some_inj] at found
  rw [← found] at kept
  exact kept final

section Calls

theorem wlp_saveRunIfStatus {record : AutomationRunRecord} {expectedStatus : RunStatus} (lasting : Lasting s t)
    (keeps : isFinalStatus expectedStatus → record.status = expectedStatus) :
    (saveRunIfStatus record expectedStatus).wlp (fun _ => Lasting s) t := by
  simp only [saveRunIfStatus, wlp_bind, wlp_write, getRun, wlp_expect]
  apply wlp_optionalU64ToI64
  apply wlp_optionalU64ToI64
  intro _ _
  refine lasting.rewrite rfl rfl ?_ ?_
  · intro run
    split
    · rfl
    · rfl
  · intro run final
    split
    · rename_i chosen
      rw [decide_eq_true_iff] at chosen
      rw [chosen.2] at final ⊢
      exact keeps final
    · rfl

theorem wlp_cancelRun {id : Uuid} {finishedAt : Nat} (lasting : Lasting s t) :
    (cancelRun id finishedAt).wlp (fun _ => Lasting s) t := by
  simp only [cancelRun, wlp_bind, wlp_tryWrite, getRun, wlp_expect, wlp_require, wlp_u64ToI64]
  intro _ _ _ _ u cancelled _ _
  split at cancelled
  · cases cancelled
    refine lasting.rewrite rfl rfl ?_ ?_
    · intro run
      split
      · rfl
      · rfl
    · intro run final
      split
      · rename_i chosen
        rw [decide_eq_true_iff] at chosen
        rw [isFinalStatus_eq, chosen.2] at final
        cases final
      · rfl
  · cases cancelled

theorem wlp_pruneFinalRuns {automationId : Uuid} (lasting : Lasting s t) :
    (pruneFinalRuns automationId).wlp (fun _ => Lasting s) t := by
  rw [pruneFinalRuns, wlp_write]
  exact lasting.retain (lasting.exclusive.prune automationId rfl rfl) rfl rfl

theorem wlp_insertRun {record : AutomationRunRecord} (lasting : Lasting s t)
    (last : ∀ stamp ∈ t.journal, stamp.automationId = record.automationId → stamp.runNumber < record.runNumber)
    (alone : ∀ other ∈ t.runs.rows, other.automationId = record.automationId → isActiveStatus other.status = false) :
    (insertRun record).wlp (fun _ => Lasting s) t := by
  have exclusive := lasting.exclusive.wlp_insertRun last alone
  refine wlp_mono (wlp_and.2 ⟨exclusive, Exclusive.wlp_insertRun_created⟩) ?_
  intro _ u inserted
  obtain ⟨exclusive, _, rows, journal⟩ := inserted
  exact lasting.append exclusive rows journal last

theorem wlp_claimDue {planner : Planner} {uuid : Uuid} {record : AutomationRecord} {now : Nat} (lasting : Lasting s t) :
    (AutomationStore.claimDue planner uuid record now).wlp (fun _ => Lasting s) t :=
  lasting.exclusive.wlp_claimDue_of lasting fun _ _ runs journal last alone =>
    wlp_mono (wlp_insertRun (lasting.of_eq runs journal) last alone) fun _ _ inserted => inserted.wlp_pruneFinalRuns

theorem wlp_closeRun {current : AutomationRunRecord} {expected : RunStatus} (lasting : Lasting s t)
    (keeps : isFinalStatus expected → current.status = expected) :
    (closeRun current expected).wlp (fun _ => Lasting s) t := by
  simp only [closeRun, wlp_bind, wlp_pure, wlp_ite]
  refine wlp_mono (lasting.wlp_saveRunIfStatus keeps) ?_
  intro saved _ lasting
  exact ⟨fun _ => lasting.wlp_pruneFinalRuns, fun _ => lasting⟩

end Calls

end Lasting

abbrev Lasts (s t : Store) : Prop := Exclusive s → Lasting s t

instance : IsPreorder Store Lasts where
  refl _ exclusive := .refl exclusive
  trans _ _ _ first second exclusive := (first exclusive).trans (second (first exclusive).exclusive)

namespace Lasts

theorem atomically {α : Type} {x : AutomationResult α}
    (keeps : ∀ s, Exclusive s → x.wlp (fun _ => Lasting s) s) : Respects Lasts (Tx.atomically x) where
  respects s exclusive := by
    have ok := keeps s exclusive
    simp only [Tx.atomically]
    split
    · rename_i done
      exact ok _ _ done
    · exact .refl exclusive

theorem of_eq {s t : Store} (runs : t.runs = s.runs) (journal : t.journal = s.journal) : Lasts s t :=
  fun exclusive => (Lasting.refl exclusive).of_eq runs journal

instance (value : Nat) (label : String) : Respects Lasts (u64ToI64 value label) :=
  inferInstanceAs (Respects _ (require _ _))

instance (value : Option Nat) (label : String) : Respects Lasts (optionalU64ToI64 value label) :=
  (readOnly_optionalU64ToI64 value label).respects

instance (record : AutomationRecord) : Respects Lasts (AutomationStore.insert record) := by
  have inserts : Respects Lasts (tryWrite (fun s => if sourceTaken s record then none else
      (s.automations.insert? record).map fun automations => { s with automations })
      (sourceWriteContext "insert" record)) := by
    apply respects_tryWrite
    intro s t inserted
    split at inserted
    · cases inserted
    · obtain ⟨automations, _, rfl⟩ := Option.map_eq_some_iff.1 inserted
      exact of_eq rfl rfl
  dsimp only [AutomationStore.insert, checkTimes, AutomationStore.get]
  infer_instance

instance (record : AutomationRecord) : Respects Lasts (AutomationStore.update record) := by
  have writes : Respects Lasts (tryWrite (fun s => if sourceTaken s record then none else
      some { s with automations := s.automations.update (fun row => decide (row.id = record.id)) fun row =>
        { record with id := row.id, createdAt := row.createdAt } }) (sourceWriteContext "update" record)) := by
    apply respects_tryWrite
    intro s t written
    split at written
    · cases written
    · cases written
      exact of_eq rfl rfl
  dsimp only [AutomationStore.update, checkTimes, AutomationStore.get]
  infer_instance

instance (planner : Planner) (record : AutomationRecord) :
    Respects Lasts (AutomationService.create planner record) := by
  dsimp only [AutomationService.create]
  infer_instance

set_option synthInstance.maxSize 1024 in
instance (planner : Planner) (id : Uuid) (patch : AutomationRecord → Except String AutomationRecord) :
    Respects Lasts (AutomationService.update planner id patch) := by
  dsimp only [AutomationService.update, AutomationStore.get]
  infer_instance

instance (planner : Planner) (selected : List AutomationRecord) :
    Respects Lasts (AutomationService.importJobs planner selected) := by
  have each (record : AutomationRecord) : Respects Lasts (importJobs.importJob planner record) := by
    dsimp only [importJobs.importJob]
    infer_instance
  dsimp only [AutomationService.importJobs]
  infer_instance

instance (env : Env) (automationId : Uuid) : Respects Lasts (AutomationService.trigger env automationId) := by
  apply atomically
  intro s exclusive
  simp only [wlp_bind, wlp_expect, wlp_require, AutomationStore.get, activeRun, wlp_gets]
  intro automation _ _
  split
  · rw [wlp_fail]
    trivial
  · rename_i idle
    have alone := Exclusive.alone_of_head? idle
    rw [wlp_bind]
    refine wlp_mono exclusive.wlp_nextRunNumber ?_
    intro number t numbered
    obtain ⟨rfl, last⟩ := numbered
    exact (Lasting.refl exclusive).wlp_insertRun last alone

instance (planner : Planner) (uuid : Uuid) (record : AutomationRecord) (now : Nat) :
    Respects Lasts (Tx.atomically (AutomationStore.claimDue planner uuid record now)) :=
  atomically fun _ exclusive => (Lasting.refl exclusive).wlp_claimDue

instance (planner : Planner) (env : Env) : Respects Lasts (AutomationService.claimDue planner env) := by
  have each (claims : List AutomationRunRecord) (record : AutomationRecord × Nat) :
      Respects Lasts (claimDue.claim planner env claims record) := by
    dsimp only [claimDue.claim]
    refine Respects.bind (k := fun outcome => ?_)
    cases outcome with
    | none => infer_instance
    | some run => infer_instance
  dsimp only [AutomationService.claimDue, due]
  infer_instance

instance (env : Env) (cancelled : Except String Bool) (runId : Uuid) :
    Respects Lasts (AutomationService.cancel env cancelled runId) := by
  have cancels : Respects Lasts (Tx.atomically do
      let existing ← getRun runId
      if existing.status = .cancelled then pure existing
      else
        let cancelled ← cancelRun runId env.now
        pruneFinalRuns cancelled.automationId
        pure cancelled) := by
    apply atomically
    intro s exclusive
    simp only [wlp_bind, getRun, wlp_expect, wlp_ite, wlp_pure]
    intro existing _
    refine ⟨fun _ => .refl exclusive, fun _ => wlp_mono (Lasting.refl exclusive).wlp_cancelRun ?_⟩
    intro _ _ lasting
    exact lasting.wlp_pruneFinalRuns
  dsimp only [AutomationService.cancel]
  infer_instance

/-- The runs that are closed are those that were active. -/
instance (env : Env) (terminate : AutomationRuntimeIdentity → Except String Bool) :
    Respects Lasts (AutomationService.reconcileStartup env terminate) := by
  apply atomically
  intro s exclusive
  simp only [activeRuns, wlp_bind, wlp_gets, wlp_pure]
  refine wlp_traverse (I := fun _ _ => Lasting s) (.refl exclusive) ?_
  intro before run after listed _ t lasting
  have active : isActiveStatus run.status := by
    have member : run ∈ before ++ run :: after := List.mem_append_right _ List.mem_cons_self
    rw [← listed, mem_orderBy] at member
    exact (List.mem_filter.1 member).2
  rw [reconcileStartup.reconcile]
  split
  · rwa [wlp_pure]
  · simp only [wlp_bind, wlp_pure]
    refine lasting.wlp_saveRunIfStatus fun final => ?_
    rw [isFinalStatus_eq, active] at final
    cases final

instance (claim : AutomationRunRecord) (automation : AutomationRecord) (now : Nat) :
    Respects Lasts (AutomationService.dispatch claim automation now) := by
  apply atomically
  intro s exclusive
  simp only [wlp_bind, getRun, wlp_expect, wlp_require, wlp_ite, wlp_pure]
  intro current _ _
  exact ⟨fun _ => .refl exclusive, fun _ _ => (Lasting.refl exclusive).wlp_saveRunIfStatus (nomatch ·)⟩

instance (what : String) (runId : Uuid) (change : AutomationRunRecord → AutomationRunRecord) :
    Respects Lasts (persistDispatching what runId change) := by
  apply atomically
  intro s exclusive
  simp only [wlp_bind, getRun, wlp_expect, wlp_require, wlp_ite, wlp_pure]
  intro current _
  exact ⟨fun _ => .refl exclusive, fun _ _ => (Lasting.refl exclusive).wlp_saveRunIfStatus (nomatch ·)⟩

instance (runId : Uuid) (error : String) (now : Nat) : Respects Lasts (finishPrepareFailure runId error now) := by
  apply atomically
  intro s exclusive
  simp only [wlp_bind, getRun, wlp_expect, wlp_ite, wlp_pure]
  intro current _
  refine ⟨fun _ => .refl exclusive, fun begun => ⟨fun cancelled => ?_, fun running => ?_⟩⟩
  · exact (Lasting.refl exclusive).wlp_closeRun fun _ => cancelled
  · refine (Lasting.refl exclusive).wlp_closeRun fun final => ?_
    have dispatching : current.status = .dispatching := by
      by_contra other
      exact begun ⟨other, running⟩
    rw [dispatching] at final
    cases final

theorem persistTerminalOutcome (runId : Uuid) {call : TerminalCall}
    (proper : call.expectedStatus = .cancelled ∨ isActiveStatus call.expectedStatus) :
    Respects Lasts (AutomationService.persistTerminalOutcome runId call) := by
  apply atomically
  intro s exclusive
  simp only [wlp_bind, getRun, wlp_expect, wlp_ite, wlp_pure]
  intro current _
  refine ⟨fun _ => .refl exclusive, fun begun => (Lasting.refl exclusive).wlp_closeRun fun final => ?_⟩
  by_cases cancelled : current.status = .cancelled
  · dsimp only [persistTerminalOutcome.close]
    rw [cancelled, if_pos rfl]
  · have expected : current.status = call.expectedStatus := by
      by_contra other
      exact begun ⟨other, cancelled⟩
    rw [isFinalStatus_eq, expected] at final
    cases proper with
    | inl same => exact absurd (expected.trans same) cancelled
    | inr active =>
      rw [active] at final
      cases final

end Lasts

def Stage.Proper : Stage → Prop
  | .terminal call _ => call.expectedStatus = .cancelled ∨ isActiveStatus call.expectedStatus
  | _ => True

theorem proper_finishCancelled {answers : Answers} {precheck : Option AutomationPrecheckResult}
    {outcome : Option RunnerOutcome} {expectedStatus : RunStatus}
    (proper : expectedStatus = .cancelled ∨ isActiveStatus expectedStatus) :
    (finishCancelled answers precheck outcome expectedStatus).Proper := proper

theorem proper_advance {claim : AutomationRunRecord} {answers : Answers} {stage : Stage} {s : Store}
    (proper : stage.Proper) : (advance claim answers stage).wlp (fun next _ => next.Proper) s := by
  cases stage with
  | start =>
    simp only [advance, wlp_bind, wlp_pure]
    exact wlp_of_forall fun _ _ => wlp_of_forall fun _ _ => trivial
  | dispatch =>
    simp only [advance, wlp_bind, wlp_pure]
    refine wlp_of_forall fun saved _ => ?_
    split
    · trivial
    · trivial
  | prepare =>
    simp only [advance]
    cases answers.prepared with
    | error => exact wlp_pure ▸ trivial
    | ok =>
      simp only [wlp_bind, wlp_pure]
      refine wlp_of_forall fun saved _ => ?_
      split
      · exact proper_finishCancelled (.inr rfl)
      · trivial
  | prepareFailed =>
    simp only [advance, wlp_bind, wlp_pure]
    refine wlp_of_forall fun saved _ => ?_
    split
    · trivial
    · trivial
  | precheck =>
    simp only [advance]
    split
    · simp only [wlp_bind, wlp_pure]
      refine wlp_of_forall fun saved _ => ?_
      split
      · exact proper_finishCancelled (.inr rfl)
      · trivial
    · exact wlp_pure ▸ .inr rfl
  | agent =>
    simp only [advance, wlp_bind, wlp_pure]
    refine wlp_of_forall fun saved _ => ?_
    split
    · exact proper_finishCancelled (.inr rfl)
    · exact .inr rfl
  | terminal call again =>
    simp only [advance, wlp_bind, wlp_pure]
    refine wlp_of_forall fun saved _ => ?_
    cases saved with
    | none => exact proper
    | some saved =>
      cases again with
      | none => trivial
      | some again =>
        dsimp only
        split
        · exact proper_finishCancelled (.inl rfl)
        · trivial
  | done => exact wlp_pure ▸ trivial

theorem Lasts.advance (claim : AutomationRunRecord) (answers : Answers) {stage : Stage} (proper : stage.Proper) :
    Respects Lasts (VibeLink.Automation.advance claim answers stage) := by
  cases stage with
  | prepare =>
    simp only [VibeLink.Automation.advance]
    cases answers.prepared with
    | error => infer_instance
    | ok =>
      dsimp only [persistPreparedWorktree]
      infer_instance
  | terminal call again =>
    have ends := Lasts.persistTerminalOutcome claim.id proper
    dsimp only [VibeLink.Automation.advance]
    infer_instance
  | _ =>
    dsimp only [VibeLink.Automation.advance, AutomationStore.get, persistPrecheckResult, persistDispatchedOutcome]
    infer_instance

/-- What the steps of the daemon keep. -/
structure Settling (s : System) : Prop where
  exclusive : Exclusive s.store
  proper : ∀ execution ∈ s.executions, execution.stage.Proper

def Settled (s t : Store) : Prop :=
  ∀ run ∈ s.runs.rows, isFinalStatus run.status → ∀ run' ∈ t.runs.rows, run'.stamp = run.stamp →
    run'.status = run.status

section Steps

variable {planner : Planner} {s : System}

theorem Lasts.settled {α : Type} (x : AutomationResult α) [lasts : Respects Lasts x] {s : Store}
    (exclusive : Exclusive s) : Settled s (x s).2 :=
  fun _ member final => (lasts.respects s exclusive).kept exclusive member final

theorem settled_of_retain {s t : Store} {p : AutomationRunRecord → Bool}
    (rows : t.runs.rows = s.runs.rows.filter p) : Settled s t := by
  intro run member final run' member' same
  rw [rows] at member'
  have found := Table.find_of_mem (List.mem_filter.1 member').1
  have id : run'.id = run.id := congrArg Stamp.id same
  rw [id, Table.find_of_mem member, Option.some_inj] at found
  rw [found]

theorem settled_delete {id : Uuid} {s : Store} (exclusive : Exclusive s) :
    Settled s (AutomationService.delete id s).2 := by
  have deletes : (AutomationStore.delete id).wlp (fun _ => Settled s) s := by
    simp only [AutomationStore.delete, wlp_bind, AutomationStore.get, wlp_expect, wlp_write]
    intro _ _
    exact settled_of_retain rfl
  simp only [AutomationService.delete, Tx.atomically]
  split
  · rename_i done
    exact deletes _ _ done
  · exact fun _ member final => (Lasting.refl exclusive).kept exclusive member final

theorem settled_next {op : Op} (settling : Settling s) : Settled s.store (s.next planner op).store := by
  have exclusive := settling.exclusive
  cases op with
  | delete => exact settled_delete exclusive
  | advance i answers =>
    simp only [System.next]
    cases found : s.executions[i]? with
    | none => exact fun _ member final => (Lasting.refl exclusive).kept exclusive member final
    | some execution =>
      have lasts := Lasts.advance execution.claim answers
        (settling.proper execution (List.mem_of_getElem? found))
      exact Lasts.settled (VibeLink.Automation.advance execution.claim answers execution.stage) exclusive
  | create record => exact Lasts.settled (AutomationService.create planner record) exclusive
  | update id patch => exact Lasts.settled (AutomationService.update planner id patch) exclusive
  | importJobs selected => exact Lasts.settled (AutomationService.importJobs planner selected) exclusive
  | trigger env automationId => exact Lasts.settled (AutomationService.trigger env automationId) exclusive
  | claimDue env => exact Lasts.settled (AutomationService.claimDue planner env) exclusive
  | cancel env cancelled runId => exact Lasts.settled (AutomationService.cancel env cancelled runId) exclusive
  | restart env terminate => exact Lasts.settled (AutomationService.reconcileStartup env terminate) exclusive

theorem settling_next {op : Op} (settling : Settling s) : Settling (s.next planner op) where
  exclusive := exclusive_next settling.exclusive
  proper := by
    have started (runs : List AutomationRunRecord) :
        ∀ execution ∈ s.executions ++ runs.map (⟨·, .start⟩), execution.stage.Proper := by
      intro execution member
      cases List.mem_append.1 member with
      | inl before => exact settling.proper execution before
      | inr new =>
        obtain ⟨run, _, rfl⟩ := List.mem_map.1 new
        trivial
    cases op with
    | trigger => exact started _
    | claimDue => exact started _
    | restart => exact List.forall_mem_nil _
    | advance i answers =>
      simp only [System.next]
      cases found : s.executions[i]? with
      | none => exact settling.proper
      | some execution =>
        intro next member
        cases List.mem_or_eq_of_mem_set member with
        | inl before => exact settling.proper next before
        | inr new =>
          rw [new]
          cases ran : VibeLink.Automation.advance execution.claim answers execution.stage s.store with
          | mk result store =>
            cases result with
            | error => trivial
            | ok stage =>
              exact proper_advance (settling.proper execution (List.mem_of_getElem? found)) _ _ ran
    | _ => exact settling.proper

theorem settling_run (planner : Planner) (ops : List Op) : Settling (System.run planner ops) := by
  induction ops using List.reverseRecOn with
  | nil => exact ⟨.initial, List.forall_mem_nil _⟩
  | append_singleton ops op ih =>
    rw [System.run, List.foldl_append]
    exact settling_next ih

end Steps

def StoredAs (s : System) (stamp : Stamp) (status : RunStatus) : Prop :=
  ∃ run ∈ s.store.runs.rows, run.stamp = stamp ∧ run.status = status

instance (s : System) (stamp : Stamp) (status : RunStatus) : Decidable (StoredAs s stamp status) :=
  inferInstanceAs (Decidable (∃ run ∈ s.store.runs.rows, run.stamp = stamp ∧ run.status = status))

theorem storedAs_next {planner : Planner} {ops : List Op} {op : Op} {stamp : Stamp} {status status' : RunStatus}
    (final : isFinalStatus status) (before : StoredAs (System.run planner ops) stamp status)
    (after : StoredAs (System.run planner (ops ++ [op])) stamp status') : status' = status := by
  obtain ⟨run, member, rfl, rfl⟩ := before
  obtain ⟨run', member', same, rfl⟩ := after
  rw [System.run, List.foldl_append] at member'
  exact settled_next (settling_run planner ops) run member final run' member' same

/-- From here on the run is stored in this status, for as long as it is stored. -/
def StaysAs (planner : Planner) (ops : List Op) (stamp : Stamp) (status : RunStatus) : Prop :=
  ∀ later, (∀ earlier, earlier <+: later → ∃ status', StoredAs (System.run planner (ops ++ earlier)) stamp status') →
    StoredAs (System.run planner (ops ++ later)) stamp status

theorem staysAs_of_final {planner : Planner} {ops : List Op} {stamp : Stamp} {status : RunStatus}
    (final : isFinalStatus status) (ended : StoredAs (System.run planner ops) stamp status) :
    StaysAs planner ops stamp status := by
  intro later stored
  induction later using List.reverseRecOn with
  | nil => rwa [List.append_nil]
  | append_singleton later op ih =>
    have before := ih fun earlier starts => stored earlier (starts.trans (List.prefix_append _ _))
    obtain ⟨status', after⟩ := stored (later ++ [op]) (List.prefix_refl _)
    rw [← List.append_assoc] at after ⊢
    rwa [storedAs_next final before after] at after

theorem cancel_eq_ok {env : Env} {cancelled : Except String Bool} {runId : Uuid} {s t : Store}
    {run : AutomationRunRecord} (done : AutomationService.cancel env cancelled runId s = (.ok run, t)) :
    run.id = runId ∧ run.status = .cancelled ∧ ∀ run' ∈ t.runs.rows, run'.stamp = run.stamp → run' = run := by
  have found {u : Store} {run : AutomationRunRecord} (there : u.runs.find runId = some run) :
      run.id = runId ∧ ∀ run' ∈ u.runs.rows, run'.stamp = run.stamp → run' = run := by
    have id := Table.key_of_find there
    refine ⟨id, fun run' member same => ?_⟩
    have here := Table.find_of_mem member
    have id' : run'.id = run.id := congrArg Stamp.id same
    rw [id', id, there, Option.some_inj] at here
    exact here.symm
  have cancels : (AutomationService.cancel env cancelled runId).wlp (fun run t => run.id = runId ∧
      run.status = .cancelled ∧ ∀ run' ∈ t.runs.rows, run'.stamp = run.stamp → run' = run) s := by
    simp only [AutomationService.cancel, wlp_bind, wlp_atomically, wlp_ofExcept, getRun, wlp_expect, wlp_ite, wlp_pure,
      cancelRun, wlp_require, wlp_u64ToI64, wlp_tryWrite, pruneFinalRuns, wlp_write]
    intro _ _ existing there
    constructor
    · intro already
      exact ⟨(found there).1, already, (found there).2⟩
    · intro _ current same active _ u written run stored
      have status : run.status = .cancelled := by
        split at written
        · cases written
          rw [Table.find_update, modifyAll, same, Option.map_some, Option.some_inj,
            if_pos (decide_eq_true ⟨Table.key_of_find same, active⟩)] at stored
          rw [← stored]
        · cases written
      refine ⟨(found stored).1, status, fun run' member => ?_⟩
      exact (found stored).2 run' (List.mem_filter.1 member).1
  exact cancels _ _ done

/-- A run that has ended keeps its status whatever is done afterwards, by its execution, by a cancellation, by
another daemon: and so does one whose cancellation has succeeded. -/
theorem final_status_stays (planner : Planner) (ops : List Op) :
    (∀ stamp status, isFinalStatus status → StoredAs (System.run planner ops) stamp status →
      StaysAs planner ops stamp status) ∧
    ∀ env cancelled runId run, (AutomationService.cancel env cancelled runId (System.run planner ops).store).1 = .ok run →
      run.id = runId ∧ run.status = .cancelled ∧
        StaysAs planner (ops ++ [.cancel env cancelled runId]) run.stamp .cancelled := by
  refine ⟨fun _ _ => staysAs_of_final, fun env cancelled runId run done => ?_⟩
  obtain ⟨id, status, only⟩ := cancel_eq_ok (Prod.ext done rfl)
  refine ⟨id, status, fun later stored => ?_⟩
  obtain ⟨status', run', member, same, now⟩ := stored [] List.nil_prefix
  have ended : StoredAs (System.run planner (ops ++ [.cancel env cancelled runId])) run.stamp .cancelled := by
    rw [List.append_nil] at member
    refine ⟨run', member, same, ?_⟩
    rw [System.run, List.foldl_append] at member
    rw [only run' member same, status]
  exact staysAs_of_final rfl ended later stored

def byHand : List Op :=
  [.create
    { id := "automation"
      sessionId := "session"
      scheduleKind := "interval"
      scheduleValue := "1h"
      timezone := "UTC"
      dtstart := none
      nextRunAt := none
      lastRunAt := none
      enabled := false
      requiresReview := false
      missedRunGraceMinutes := 720
      source := none
      createdAt := 0
      updatedAt := 0 },
    .trigger ⟨10, fun _ => "run"⟩ "automation", .advance 0 (answers 11), .advance 0 (answers 12)]
where
  answers (now : Nat) : Answers :=
    { now
      prepared := .ok ⟨"/work", ⟨none, none, none, "/work", "main", "base", "live"⟩⟩
      precheck := ⟨true, none, "", "", some 0, false, 0, false, none⟩
      outcome := ⟨"completed", none, none, none, none, now, now⟩
      cleanup := ⟨⟨none, none, none, "/work", "main", "base", "removed"⟩, none⟩ }

def noPlans : Planner := ⟨fun _ _ => .ok none, fun _ => .ok ()⟩

def callOff : Op := .cancel ⟨13, fun _ => ""⟩ (.ok true) "run"

def calledOff : AutomationRunRecord where
  id := "run"
  automationId := "automation"
  runNumber := 1
  trigger := .manual
  scheduledFor := 10
  status := .cancelled
  runtimeIdentity := none
  worktree := none
  precheckResult := none
  outputSnapshot := none
  usage := none
  error := none
  startedAt := some 12
  finishedAt := some 13
  createdAt := 10

/-- Its execution goes on behind the cancellation. -/
theorem called_off_stays :
    StoredAs (System.run noPlans (byHand ++ [callOff] ++ [.advance 0 (byHand.answers 14), .advance 0 (byHand.answers 15)]))
      calledOff.stamp .cancelled := by
  refine ((final_status_stays noPlans byHand).2 _ _ _ calledOff (by decide +kernel)).2.2 _ ?_
  intro earlier starts
  refine ⟨.cancelled, ?_⟩
  rw [← List.mem_inits] at starts
  simp only [List.inits, List.map_cons, List.map_nil, List.mem_cons, List.not_mem_nil, or_false] at starts
  rcases starts with rfl | rfl | rfl
  · decide +kernel
  · decide +kernel
  · decide +kernel

end VibeLink.Automation
