import VibeLink.Coordinator.Refinement.Scheduling
import VibeLink.Coordinator.Refinement

namespace VibeLink.Coordinator

open VibeLink.Relational

variable {platform : Platform} {env : Env} {operationId : Uuid} {s : Store}

theorem wlp_claimDispatch {request : DispatchLaunchRequest} {d : Uuid} {Q : Unit → Store → Prop}
    (taken : ∀ claim, s.ledger.claims d = some claim → claim.operationId = operationId →
      ∀ s', s'.ledger = s.ledger → Q () s')
    (made : s.ledger.claims d = none → ∀ claim s', claim.dispatchId = d →
      claim.operationId = operationId → s'.ledger = s.ledger.putClaim claim → Q () s') :
    (claimDispatch platform env operationId request d).wlp Q s := by
  simp only [claimDispatch, Tx.wlp_bind, Tx.wlp_write, Tx.wlp_expect, Tx.wlp_require]
  have hfind := s.launchClaims.find_insert_getD (launchClaimRow platform env operationId request d)
  rw [show (launchClaimRow platform env operationId request d).dispatchId = d from rfl] at hfind
  intro claimed hclaimed howner
  by_cases hnone : s.launchClaims.find d = none
  · rw [if_pos hnone] at hfind
    refine made hnone (launchClaimRow platform env operationId request d) _ rfl rfl ?_
    simp only [Store.ledger, Ledger.putClaim, hfind]
    rfl
  · rw [if_neg hnone] at hfind
    rw [hfind] at hclaimed
    refine taken claimed hclaimed howner _ ?_
    simp only [Store.ledger, hfind]

/-- The dispatches of `pre` are claimed by the operation and nothing else has changed. -/
structure Claimed (L₀ : Ledger) (operationId : Uuid) (pre : List Uuid) (L : Ledger) : Prop where
  chain : Chain Move (fun _ l => ∃ d, l = .claim d operationId) L₀ L
  rest : L = { L₀ with claims := L.claims }
  others : ∀ d, d ∉ pre → L.claims d = L₀.claims d
  claimed : ∀ d ∈ pre, ∃ claim, L.claims d = some claim ∧ claim.operationId = operationId

theorem Claimed.refl (L : Ledger) (operationId : Uuid) : Claimed L operationId [] L :=
  ⟨.refl, rfl, fun _ _ => rfl, by simp⟩

theorem Claimed.taken {pre : List Uuid} {d : Uuid} {L₀ L : Ledger} {claim : LaunchClaimRow}
    (h : Claimed L₀ operationId pre L) (hclaim : L.claims d = some claim)
    (howner : claim.operationId = operationId) : Claimed L₀ operationId (pre ++ [d]) L where
  chain := h.chain
  rest := h.rest
  others e he := h.others e fun hp => he (List.mem_append_left _ hp)
  claimed e he := by
    rcases List.mem_append.1 he with he | he
    · exact h.claimed e he
    · exact ⟨claim, List.mem_singleton.1 he ▸ hclaim, howner⟩

theorem Claimed.made {pre : List Uuid} {L₀ L : Ledger} {claim : LaunchClaimRow}
    (h : Claimed L₀ operationId pre L) (fresh : L.claims claim.dispatchId = none)
    (howner : claim.operationId = operationId) :
    Claimed L₀ operationId (pre ++ [claim.dispatchId]) (L.putClaim claim) where
  chain := h.chain.snoc ⟨_, by rw [howner]⟩ (.claim fresh)
  rest := by rw [h.rest]; rfl
  others e he := by
    rw [List.mem_append, not_or, List.mem_singleton] at he
    rw [Ledger.putClaim_claims, Function.update_of_ne he.2, h.others e he.1]
  claimed e he := by
    by_cases hd : e = claim.dispatchId
    · exact ⟨claim, by rw [hd, Ledger.putClaim_claims, Function.update_self], howner⟩
    · rw [Ledger.putClaim_claims, Function.update_of_ne hd]
      exact h.claimed e ((List.mem_append.1 he).resolve_right fun he => hd (List.mem_singleton.1 he))

theorem claim_loop {request : DispatchLaunchRequest} {ids : List Uuid} {Q : List Unit → Store → Prop}
    (k : ∀ as s', Claimed s.ledger operationId ids s'.ledger → Q as s') :
    (Tx.traverse (claimDispatch platform env operationId request) ids).wlp Q s := by
  refine Tx.wlp_mono (Tx.wlp_traverse (I := fun pre _ s' => Claimed s.ledger operationId pre s'.ledger)
    ?_ ?_) k
  · exact .refl s.ledger operationId
  · rintro pre d post - as s₁ h
    refine wlp_claimDispatch (fun claim hclaim howner s₂ h₂ => ?_) fun fresh claim s₂ hid howner h₂ => ?_
    · exact h₂ ▸ h.taken hclaim howner
    · subst hid
      exact h₂ ▸ h.made fresh howner

/-- The labels that `prepare_dispatch_launch` uses. -/
def Prepares (operationId : Uuid) (l : Label) : Prop :=
  Schedules l ∨ l = .openLaunch operationId ∨ l = .reviseLaunch operationId ∨
    ∃ d, l = .claim d operationId

/-- What a first `prepare_dispatch_launch` leaves: a recorded intent and claims on every
dispatch that it made. -/
structure Prepared (s : Store) (operationId : Uuid) (requestHash : String) (runId : Uuid)
    (expected : Nat) (plan : ScheduleResult) (L : Ledger) : Prop where
  fresh : s.ledger.launches operationId = none
  scheduled : ∃ L₁, Planned s runId expected plan L₁ ∧
    L = { L₁ with claims := L.claims, launches := L.launches }
  chain : Chain Move (fun _ => Prepares operationId) s.ledger L
  others : ∀ d, d ∉ (plan.dispatches.map fun d => d.id) → L.claims d = s.ledger.claims d
  claimed : ∀ d ∈ plan.dispatches.map fun d => d.id,
    ∃ claim, L.claims d = some claim ∧ claim.operationId = operationId
  launch : ∃ launch, L.launches operationId = some launch ∧ launch.requestHash = requestHash ∧
    launch.result = none ∧
    L.launches = Function.update s.ledger.launches operationId (some launch)

theorem Planned.reread {runId : Uuid} {expected : Nat} {plan : ScheduleResult} {L : Ledger}
    {records : List DispatchRecord} (h : Planned s runId expected plan L)
    (hids : records.map (fun d => d.id) = plan.dispatches.map fun d => d.id)
    (hrows : ∀ d ∈ records, L.dispatches d.id = some d.toDispatchRow) :
    Planned s runId expected { plan with dispatches := records } L := by
  have hnone : ∀ d ∈ records, s.ledger.dispatches d.id = none := by
    intro d hd
    have hmem : d.id ∈ plan.dispatches.map fun d => d.id := hids ▸ List.mem_map.2 ⟨d, hd, rfl⟩
    obtain ⟨e, he, hid⟩ := List.mem_map.1 hmem
    exact hid ▸ (h.rows e he).2
  have owner : ∀ ds : List DispatchRecord, (∀ d ∈ ds, L.dispatches d.id = some d.toDispatchRow) →
      ds.map (fun d => d.taskId) =
        (ds.map fun d => d.id).map fun i => ((L.dispatches i).map DispatchRow.taskId).getD "" := by
    intro ds hds
    rw [List.map_map]
    refine List.map_congr_left fun d hd => ?_
    simp [hds d hd]
  refine { h with rows := fun d hd => ⟨hrows d hd, hnone d hd⟩, ids := hids ▸ h.ids, tasks := ?_ }
  rw [owner records hrows, hids, ← owner plan.dispatches fun d hd => (h.rows d hd).1]
  exact h.tasks

theorem Planned.prepare {requestHash : String} {runId : Uuid} {expected : Nat}
    {plan : ScheduleResult} {L₁ L₃ : Ledger} {launch launch' : LaunchOperationRow}
    (h : Planned s runId expected plan L₁) (hid : launch.operationId = operationId)
    (fresh : L₁.launches launch.operationId = none) (hhash : launch.requestHash = requestHash)
    (intent : launch.result = none)
    (h₃ : Claimed (L₁.putLaunch launch) operationId (plan.dispatches.map fun d => d.id) L₃)
    (hid' : launch'.operationId = operationId) (hhash' : launch'.requestHash = requestHash)
    (intent' : launch'.result = none) :
    Prepared s operationId requestHash runId expected plan (L₃.putLaunch launch') := by
  subst hid
  have row₃ : L₃.launches launch'.operationId = some launch := by
    rw [h₃.rest, hid']
    exact Function.update_self _ _ _
  have c₁ : Chain Move (fun _ => Prepares launch.operationId) s.ledger L₁ :=
    h.chain.mono fun _ _ h => .inl h
  have c₂ := c₁.snoc (.inr (.inl rfl)) (.openLaunch fresh intent)
  have c₃ := c₂.trans (h₃.chain.mono fun _ _ h => .inr (.inr (.inr h)))
  have c₄ := c₃.snoc (.inr (.inr (.inl (by rw [hid']))))
    (.reviseLaunch row₃ (hhash'.trans hhash.symm) intent)
  refine
    { fresh := h.launches ▸ fresh
      scheduled := ⟨L₁, h, by rw [h₃.rest]; rfl⟩
      chain := c₄
      others := fun d hd => (h₃.others d hd).trans (congrFun h.claims d)
      claimed := h₃.claimed
      launch := ⟨launch', ?_, hhash', intent', ?_⟩ }
  · rw [← hid']
    exact Function.update_self _ _ _
  · rw [Ledger.putLaunch, h₃.rest, hid', ← h.launches]
    exact Function.update_idem _ _ _

theorem readDispatches {ids : List Uuid} {Q : List DispatchRecord → Store → Prop}
    (k : ∀ records : List DispatchRecord, records.map (fun d => d.id) = ids →
      (∀ d ∈ records, s.ledger.dispatches d.id = some d.toDispatchRow) → Q records s) :
    (Tx.traverse readDispatch ids).wlp Q s := by
  refine Tx.wlp_mono (Tx.wlp_traverse (I := fun pre (records : List DispatchRecord) s' => s' = s ∧
    records.map (fun d => d.id) = pre ∧
    ∀ d ∈ records, s.ledger.dispatches d.id = some d.toDispatchRow) ?_ ?_) ?_
  · simp
  · rintro pre d post - records s' ⟨rfl, hids, hrows⟩
    simp only [wlp_readDispatch]
    rintro row hrow rfl
    refine ⟨trivial, by simp [hids, Store.dispatchRecord], fun e he => ?_⟩
    rcases List.mem_append.1 he with he | he
    · exact hrows e he
    · rw [List.mem_singleton.1 he]
      exact hrow
  · rintro records s' ⟨rfl, hids, hrows⟩
    exact k records hids hrows

theorem wlp_insertLaunch {row : LaunchOperationRow} {e : CoordinatorError} {Q : Unit → Store → Prop}
    (k : s.ledger.launches row.operationId = none → ∀ s', s'.ledger = s.ledger.putLaunch row →
      Q () s') :
    (Tx.tryWrite (fun s => (s.launchOperations.insert? row).map fun launchOperations =>
      { s with launchOperations }) e : CoordinatorResult Unit).wlp Q s := by
  simp only [Tx.wlp_tryWrite, Option.map_eq_some_iff]
  rintro _ ⟨launchOperations, h, rfl⟩
  refine k (Table.insert?_eq_some.1 h).1 _ ?_
  simp only [Store.ledger, Ledger.putLaunch, Table.find_insert h]

theorem wlp_updateLaunch {f : LaunchOperationRow → LaunchOperationRow} {hf} {row : LaunchOperationRow}
    {Q : Unit → Store → Prop} (h : s.ledger.launches operationId = some row)
    (k : ∀ s', s'.ledger = s.ledger.putLaunch (f row) → Q () s') :
    (Tx.write fun s => { s with
      launchOperations := s.launchOperations.update (fun r => decide (r.operationId = operationId))
        f hf } : CoordinatorResult Unit).wlp Q s := by
  simp only [Tx.wlp_write]
  apply k
  simp only [Store.ledger, Ledger.putLaunch, hf, Store.launch_id h]
  rw [Table.find_update_some h]

/-- The three ways in which `prepare_dispatch_launch` succeeds. -/
theorem prepareDispatchLaunch_spec {request : DispatchLaunchRequest} {Q : Response → Store → Prop}
    (policy : s.ledger.WithinPolicy)
    (replayed : ∀ normal launch result, launchSpecification request = .ok normal →
      s.ledger.launches operationId = some launch →
      launch.requestHash = dispatchLaunchRequestHash platform normal → launch.result = some result →
      Q (.preparation (.replay result)) s)
    (resumed : ∀ normal launch, launchSpecification request = .ok normal →
      s.ledger.launches operationId = some launch →
      launch.requestHash = dispatchLaunchRequestHash platform normal → launch.result = none →
      Q (.preparation (.intent { launch.plan with
        dispatches := (s.claimedDispatches operationId).map s.dispatchRecord })) s)
    (prepared : ∀ normal plan s', launchSpecification request = .ok normal →
      Prepared s operationId (dispatchLaunchRequestHash platform normal) normal.runId
        normal.expectedRunRevision plan s'.ledger →
      Q (.preparation (.intent plan)) s') :
    (prepareDispatchLaunch platform env operationId request).wlp Q s := by
  simp only [prepareDispatchLaunch, Tx.wlp_bind, Tx.wlp_ofExcept, Tx.wlp_gets]
  intro normal hnormal
  split
  · rename_i launch hlaunch
    simp only [Tx.wlp_bind, Tx.wlp_require]
    intro hhash
    split
    · rename_i result hresult
      simp only [Tx.wlp_pure]
      exact replayed normal launch result hnormal hlaunch hhash hresult
    · rename_i hresult
      simp only [Tx.wlp_bind, Tx.wlp_gets, Tx.wlp_pure]
      exact resumed normal launch hnormal hlaunch hhash hresult
  · rename_i hnone
    simp only [Tx.wlp_atomically, Tx.wlp_bind, Tx.wlp_pure]
    refine scheduleReadyTransaction_planned policy fun plan s₁ h₁ => ?_
    refine wlp_insertLaunch fun fresh s₂ h₂ => ?_
    refine claim_loop fun _ s₃ h₃ => readDispatches fun records hids hrows => ?_
    rw [h₂] at h₃
    have row₃ : s₃.ledger.launches operationId =
        some (launchIntent platform env operationId normal plan) := by
      rw [h₃.rest]
      exact Function.update_self _ _ _
    refine wlp_updateLaunch row₃ fun s₄ h₄ => ?_
    have hplan := h₁.reread hids fun d hd => by
      have hrow := hrows d hd
      rwa [h₃.rest] at hrow
    rw [← hids] at h₃
    exact prepared normal { plan with dispatches := records } s₄ hnormal
      (h₄ ▸ hplan.prepare rfl fresh rfl rfl h₃ rfl rfl rfl)

theorem launchSpecification_run {request normal : DispatchLaunchRequest}
    (h : launchSpecification request = .ok normal) :
    normal.runId = request.runId ∧ normal.expectedRunRevision = request.expectedRunRevision := by
  simp only [launchSpecification, bind, Except.bind] at h
  split at h
  · cases h
  · cases h
    exact ⟨rfl, rfl⟩

theorem prepareDispatchLaunch_outcome {request : DispatchLaunchRequest}
    (policy : s.ledger.WithinPolicy) :
    (prepareDispatchLaunch platform env operationId request).wlp
      (fun _ s' => Outcome s ⟨operationId, env, .prepareDispatchLaunch request⟩ s'.ledger) s := by
  refine prepareDispatchLaunch_spec policy (fun _ _ _ _ _ _ _ => .refl s _)
    (fun _ _ _ _ _ _ => .refl s _) fun normal plan s' hnormal h => ?_
  refine ⟨h.chain.mono ?_, ?_⟩
  · rintro L l (hl | rfl | rfl | ⟨d, rfl⟩)
    · exact hl.permits (.inr ⟨request, rfl⟩)
    · exact ⟨rfl, request, rfl⟩
    · exact rfl
    · exact ⟨rfl, request, rfl⟩
  · rintro r e ⟨rfl, rfl⟩
    obtain ⟨L₁, h₁, hL⟩ := h.scheduled
    obtain ⟨hrun, hrevision⟩ := launchSpecification_run hnormal
    rw [← hrun, ← hrevision, hL]
    exact h₁.fence

theorem completeDispatchLaunch_outcome {request : DispatchLaunchRequest}
    {result : DispatchLaunchResult} :
    (completeDispatchLaunch platform env operationId request result).wlp
      (fun _ s' => Outcome s ⟨operationId, env, .completeDispatchLaunch request result⟩ s'.ledger)
      s := by
  simp only [completeDispatchLaunch, Tx.wlp_atomically, Tx.wlp_bind, Tx.wlp_expect, Tx.wlp_require]
  intro launch row hhash
  split
  · simp only [Tx.wlp_pure]
    exact .refl s _
  · rename_i hintent
    simp only [Tx.wlp_bind, Tx.wlp_pure]
    refine wlp_updateLaunch row fun s₁ h₁ => ?_
    rw [h₁]
    have hid := Store.launch_id row
    subst hid
    exact ⟨.single (by exact rfl) (.reviseLaunch row rfl hintent), fun _ _ h => h.elim⟩

end VibeLink.Coordinator

namespace VibeLink.Coordinator

open VibeLink.Relational

variable {platform : Platform} {env : Env} {operationId : Uuid} {s : Store}

theorem wlp_readOptional {α : Type} {read : Uuid → CoordinatorResult α} {id : Option Uuid}
    {Q : Option α → Store → Prop} (absent : id = none → Q none s)
    (present : ∀ i, id = some i → (read i).wlp (fun a => Q (some a)) s) :
    (readOptional read id).wlp Q s := by
  cases id with
  | none => simpa [readOptional] using absent rfl
  | some i => simpa [readOptional] using present i rfl

theorem wlp_readOptionalDispatch {id : Option Uuid} {Q : Option DispatchRecord → Store → Prop}
    (k : ∀ dispatch : Option DispatchRecord,
      (∀ d, dispatch = some d → s.ledger.dispatches d.id = some d.toDispatchRow) → Q dispatch s) :
    (readOptional readDispatch id).wlp Q s := by
  refine wlp_readOptional (fun _ => k none (by simp)) fun i _ => ?_
  simp only [wlp_readDispatch]
  intro row found _
  refine k _ fun d hd => ?_
  cases hd
  exact found

theorem readOnly_validateScope {runId : Uuid} {taskId dispatchId : Option Uuid} :
    (validateScope runId taskId dispatchId).ReadOnly :=
  (readOnly_readOptional (fun _ => readOnly_readTask) _).bind fun _ =>
    (Tx.readOnly_require _ _).bind fun _ =>
      (readOnly_readOptional (fun _ => readOnly_readDispatch) _).bind fun _ =>
        (readOnly_readOptional (fun _ => readOnly_readTask) _).bind fun _ => Tx.readOnly_require _ _

theorem exists_of_validateScope {runId : Uuid} {taskId dispatchId : Option Uuid} :
    (validateScope runId taskId dispatchId).wlp
      (fun _ s => ∀ d, dispatchId = some d → ∃ row, s.ledger.dispatches d = some row) s := by
  simp only [validateScope, Tx.wlp_bind, Tx.wlp_require]
  have read := readOnly_readOptional fun i => @readOnly_readTask i
  refine (read _).wlp fun _ _ => ?_
  refine wlp_readOptional (fun hnone => (read _).wlp fun _ _ => by simp [hnone]) fun i hi => ?_
  simp only [wlp_readDispatch]
  rintro row found rfl
  refine (read _).wlp fun _ _ d hd => ?_
  rw [hi] at hd
  cases hd
  exact ⟨row, found⟩

theorem wlp_validateScope {runId : Uuid} {taskId dispatchId : Option Uuid} {Q : Unit → Store → Prop}
    (k : s.InScope runId taskId dispatchId →
      (∀ d, dispatchId = some d → ∃ row, s.ledger.dispatches d = some row) → Q () s) :
    (validateScope runId taskId dispatchId).wlp Q s := by
  intro _ s' hx
  have hs : s' = s := by
    rw [← readOnly_validateScope s, hx]
  rw [hs] at hx ⊢
  exact k (by rw [Store.InScope, hx]) (exists_of_validateScope _ _ hx)

theorem wlp_holdDispatch {A : Ledger → Label → Prop} {L : Ledger} {dispatchId : Option Uuid}
    {now : Nat} {Q : Unit → Store → Prop} (c : Chain Move A L s.ledger)
    (found : ∀ d, dispatchId = some d → ∃ row, s.ledger.dispatches d = some row)
    (allowed : ∀ L d, A L (.advance d .waiting))
    (k : ∀ s', Chain Move A L s'.ledger → s'.ledger.runs = s.ledger.runs → Q () s') :
    (updateDispatches (fun _ d => decide (some d.id = dispatchId ∧
        (d.status = .dispatched ∨ d.status = .running)))
      fun d => { d with status := .waiting, updatedAt := now }).wlp Q s := by
  refine wlp_updateDispatches fun s' h => ?_
  cases dispatchId with
  | none =>
    have hs : s'.ledger = s.ledger := h.trans (by simp)
    exact k s' (hs ▸ c) (by rw [hs])
  | some d =>
    obtain ⟨row, hrow⟩ := found d rfl
    have hid := Store.dispatch_id hrow
    rw [modifyAll_eq_update hrow fun i b hi hb => by simp [Store.dispatch_id hb, hi]] at h
    subst hid
    by_cases hstatus : row.status = .dispatched ∨ row.status = .running
    · obtain ⟨new, hnew⟩ : ∃ new, new = { row with status := .waiting, updatedAt := now } := ⟨_, rfl⟩
      have hid : new.id = row.id := by rw [hnew]
      have hwaiting : new.status = .waiting := by rw [hnew]
      have hs : s'.ledger = s.ledger.putDispatch new := by
        simpa [hstatus, Ledger.putDispatch, ← hnew, hid] using h
      refine k s' (c.step hs (hwaiting ▸ allowed _ _) (.advance (hid ▸ hrow) (by rw [hnew]) ?_
        (by rw [hwaiting]; rfl) (by simp [hwaiting]) (by simp [hwaiting]))) (by rw [hs]; rfl)
      rcases hstatus with h | h <;> rw [h] <;> rfl
    · have hs : s'.ledger = s.ledger := by
        rw [h]
        simp [hstatus, ← hrow]
      exact k s' (hs ▸ c) (by rw [hs])

theorem createGate_outcome {request : CreateGateRequest} :
    (createGate platform env operationId request).wlp
      (fun _ s' => Outcome s ⟨operationId, env, .createGate request⟩ s'.ledger) s := by
  simp only [createGate, Tx.wlp_bind, Tx.wlp_ofExcept]
  intro gateType htype prompt hprompt
  refine wlp_mutate (.refl s _) fun fresh => ?_
  simp only [Tx.wlp_bind, wlp_readRun, wlp_requireRunRevision, Tx.wlp_pure]
  intro run row hid hrev
  refine wlp_validateScope fun scope found => ?_
  refine wlp_createGateRecord fun hnone gate s₁ hgid hgrun hgdispatch _ hpending hres h₁ => ?_
  have hopens : OpensGate s ⟨operationId, env, .createGate request⟩ run.id :=
    ⟨fresh, hid.symm, ⟨run, row, hrev⟩, trim_ne_of_required htype, trim_ne_of_required hprompt, scope⟩
  have c₁ : Chain Move (Permits s ⟨operationId, env, .createGate request⟩) s.ledger s₁.ledger :=
    .step .refl h₁ (by exact ⟨rfl, hopens⟩) (.openGate (hgid ▸ hnone) row hgrun hpending hres)
  refine wlp_holdDispatch c₁ (by rw [h₁]; exact found) (fun _ _ h => by cases h) fun s₂ c₂ hruns₂ => ?_
  refine (readOnly_readOptional (fun i => readOnly_readDispatch) _).wlp fun dispatch => ?_
  refine wlp_updateAgents (by intro a; rfl) fun s₃ agents h₃ hagents => ?_
  have c₃ := c₂.step h₃ (by trivial) (.reviseAgents agents hagents)
  have hruns₃ : s₃.ledger.runs = s.ledger.runs := by
    rw [h₃]
    exact hruns₂.trans (by rw [h₁]; rfl)
  have row₃ : s₃.ledger.runs run.id = some run := hruns₃ ▸ row
  refine wlp_updateRunStatus row₃ fun s₄ h₄ => ?_
  have c₄ := c₃.step h₄ (by exact fun _ => ⟨hruns₃, .inl hopens⟩) (.setRun row₃ (by decide) env.now)
  refine wlp_insertMessage fun _ s₅ h₅ => wlp_insertEvent fun s₆ h₆ => ?_
  rw [h₆, h₅]
  refine ⟨c₄, ?_⟩
  rintro r e ⟨rfl, rfl⟩
  exact .inr (fence_of_put row hid hrev h₄ rfl (Nat.lt_succ_self _))

theorem wlp_resumeOptional {A : Ledger → Label → Prop} {L : Ledger} {dispatch : Option DispatchRecord}
    {Q : Option DispatchRecord → Store → Prop} (c : Chain Move A L s.ledger)
    (found : ∀ d, dispatch = some d → s.ledger.dispatches d.id = some d.toDispatchRow)
    (resume : ∀ L d, A L (.resume d)) (agents : ∀ L, A L .reviseAgents)
    (k : ∀ a s', Chain Move A L s'.ledger → s'.ledger.runs = s.ledger.runs → Q a s') :
    (resumeOptional env dispatch).wlp Q s := by
  cases dispatch with
  | none => simpa [resumeOptional] using k none s c rfl
  | some d =>
    simp only [resumeOptional, resumeDispatch, Tx.wlp_bind, Tx.wlp_gets, Tx.wlp_ite, Tx.wlp_pure]
    refine ⟨fun hwaiting => ?_, fun _ => k _ s c rfl⟩
    refine wlp_updateDispatch (found d rfl) fun s₁ new hnew h₁ => ?_
    have hid : new.id = d.id := by rw [hnew]
    have c₁ := c.step h₁ (resume _ _) (.resume (hid ▸ found d rfl) (by rw [hnew]) hwaiting.1
      (by rw [hnew]) (by rw [hid]; exact Store.pendingGateCount_eq_zero.1 hwaiting.2))
    refine wlp_updateAgents (by intro a; rfl) fun s₂ m h₂ hagents => ?_
    have c₂ := c₁.step h₂ (agents _) (.reviseAgents m hagents)
    refine (readOnly_readDispatch).wlp fun d' => ?_
    exact k _ s₂ c₂ (by rw [h₂, h₁]; rfl)

theorem resolveGate_outcome {request : ResolveGateRequest} :
    (resolveGate platform env operationId request).wlp
      (fun _ s' => Outcome s ⟨operationId, env, .resolveGate request⟩ s'.ledger) s := by
  refine wlp_mutate (.refl s _) fun fresh => ?_
  simp only [Tx.wlp_bind, wlp_readGate, wlp_readRun, wlp_requireRunRevision, Tx.wlp_require,
    Tx.wlp_ite, Tx.wlp_gets, Tx.wlp_pure]
  intro gate hgate hgid hpending run row hrun hrev _ _
  refine wlp_updateGate hgate fun s₁ h₁ => ?_
  have c₁ : Chain Move (Permits s ⟨operationId, env, .resolveGate request⟩) s.ledger s₁.ledger :=
    .step .refl h₁ (by exact ⟨rfl, request, gate, rfl, fresh, hgid.symm, rfl, hgate,
      run, hrun ▸ row, hrev⟩)
      (.resolve hgate ⟨rfl, rfl, rfl, rfl⟩ hpending rfl rfl)
  have row₁ : s₁.ledger.runs run.id = some run := by rw [h₁]; exact row
  -- the fence is the revision check: every branch below rewrites the run once more
  have fenced : ∀ {L L' : Ledger} {new : RunRecord}, L' = L.putRun new → new.id = run.id →
      run.revision < new.revision → ∀ r e, Expects s ⟨operationId, env, .resolveGate request⟩ r e →
      s.ledger.SamePlan L' ∨ s.RunAt r e ∧ ∃ run, L'.runs r = some run ∧ e < run.revision := by
    rintro L L' new h hid hgrows r e ⟨rfl, gate', hgate', rfl⟩
    rw [← hgid, hgate, Option.some.injEq] at hgate'
    subst hgate'
    exact .inr (fence_of_put row hrun hrev h hid hgrows)
  intro gate' _ _
  refine wlp_readOptionalDispatch fun dispatch found => ⟨fun _ => ?_, fun _ => ?_⟩
  · refine wlp_bumpRunRevision row₁ fun s₂ h₂ => ?_
    have c₂ := c₁.step h₂ (by trivial) (.bumpRun row₁ env.now)
    refine ⟨fun _ => ?_, fun _ => wlp_insertEvent fun s₃ h₃ => ?_⟩
    · refine wlp_refresh_chain c₂ (by simp [h₂]) (fun _ _ _ _ hold h => absurd h hold)
        fun run' s₃ c₃ hid hgrows h₃ => wlp_insertEvent fun s₄ h₄ => ?_
      rw [h₄]
      exact ⟨c₃, fenced h₃ hid (Nat.lt_of_succ_le hgrows)⟩
    · rw [h₃]
      exact ⟨c₂, fenced h₂ rfl (Nat.lt_succ_self _)⟩
  · refine wlp_resumeOptional c₁ found (fun _ _ => .inr ⟨request, rfl⟩) (fun _ => by trivial)
      fun _ s₂ c₂ hruns₂ => ?_
    have row₂ : s₂.ledger.runs run.id = some run := hruns₂ ▸ row₁
    refine ⟨fun _ => ?_, fun _ => ?_⟩
    · refine wlp_updateRunStatus row₂ fun s₃ h₃ => ?_
      have c₃ := c₂.step h₃ (by exact fun _ => ⟨hruns₂.trans (by rw [h₁]; rfl),
        .inr ⟨gate.id, gate, hgate, hrun.symm, hpending⟩⟩) (.setRun row₂ (by decide) env.now)
      refine wlp_refresh_chain c₃ (by simp [h₃]) (fun _ _ _ _ hold h => absurd h hold)
        fun run' s₄ c₄ hid hgrows h₄ => wlp_insertEvent fun s₅ h₅ => ?_
      rw [h₅]
      exact ⟨c₄, fenced h₄ hid (Nat.lt_of_succ_le hgrows)⟩
    · refine wlp_bumpRunRevision row₂ fun s₃ h₃ => wlp_insertEvent fun s₄ h₄ => ?_
      rw [h₄]
      exact ⟨c₂.step h₃ (by trivial) (.bumpRun row₂ env.now), fenced h₃ rfl (Nat.lt_succ_self _)⟩

theorem approved_set {value v : Json} {name : String} (h : "decision" ≠ name) :
    approved (some (value.set name v)) ↔ approved (some value) := by
  simp only [approved, Option.bind_some, Json.getStr_set_of_ne h]

theorem approved_of_getD {resolution : Option Json}
    (h : approved (some (resolution.getD (.obj [])))) : approved resolution := by
  cases resolution with
  | none => cases h
  | some value => exact h

theorem markMergeApplied_outcome {request : MergeAppliedRequest} :
    (markMergeApplied platform env operationId request).wlp
      (fun _ s' => Outcome s ⟨operationId, env, .markMergeApplied request⟩ s'.ledger) s := by
  simp only [markMergeApplied, Tx.wlp_bind, Tx.wlp_ofExcept]
  intro commitId hcommit
  refine wlp_mutate (.refl s _) fun fresh => ?_
  simp only [Tx.wlp_bind, wlp_readGate, wlp_readRun, wlp_requireRunRevision, Tx.wlp_require,
    Tx.wlp_write, Tx.wlp_pure]
  intro gate hgate hgid run row hrun hrev hmerge happroved hnew
  refine wlp_updateGate hgate fun s₁ h₁ => ?_
  have c₁ : Chain Move (Permits s ⟨operationId, env, .markMergeApplied request⟩) s.ledger
      s₁.ledger := by
    refine .step .refl h₁ (by exact ⟨rfl, gate, hgate, .inl ⟨request, rfl, hgid.symm, hmerge.1⟩⟩)
      (.apply hgate ⟨rfl, rfl, rfl, rfl⟩ hmerge.2 hmerge.2 (approved_of_getD happroved) ?_)
    rw [approved_set (by decide), approved_set (by decide)]
    exact happroved
  have hruns₁ : s₁.ledger.runs = s.ledger.runs := by rw [h₁]; rfl
  have hopens : OpensGate s ⟨operationId, env, .markMergeApplied request⟩ run.id := by
    refine ⟨fresh, ⟨run, row, hrev⟩, trim_ne_of_required hcommit, gate, hgid ▸ hgate, hrun.symm,
      hmerge.1, hmerge.2, approved_of_getD happroved, fun h => hnew ?_⟩
    cases hres : gate.resolution with
    | none => simp [applied, hres] at h
    | some value => simpa [DecisionGateRecord.read, hres] using h
  intro gate' _ _
  refine wlp_readOptionalDispatch fun dispatch _ => ?_
  refine wlp_createGateRecord fun hnone cleanup s₂ hcid hcrun hcdispatch _ hpending hres h₂ => ?_
  have c₂ := c₁.step h₂ (by exact ⟨hruns₁, hopens⟩)
    (.openGate (hcid ▸ hnone) (hruns₁ ▸ row) hcrun hpending hres)
  have hruns₂ : s₂.ledger.runs = s.ledger.runs := by rw [h₂]; exact hruns₁
  have row₂ : s₂.ledger.runs run.id = some run := hruns₂ ▸ row
  refine wlp_updateRunStatus (by exact row₂) fun s₃ h₃ => ?_
  have c₃ := c₂.step h₃ (by exact fun _ => ⟨hruns₂, .inl hopens⟩) (.setRun row₂ (by decide) env.now)
  refine wlp_insertMessage fun _ s₄ h₄ => wlp_insertEvent fun s₅ h₅ => ?_
  rw [h₅, h₄]
  refine ⟨c₃, ?_⟩
  rintro r e ⟨rfl, gate'', hgate'', rfl⟩
  rw [← hgid, hgate, Option.some.injEq] at hgate''
  subst hgate''
  exact .inr (fence_of_put row hrun hrev h₃ rfl (Nat.lt_succ_self _))

theorem markCleanupApplied_outcome {request : CleanupAppliedRequest} :
    (markCleanupApplied platform env operationId request).wlp
      (fun _ s' => Outcome s ⟨operationId, env, .markCleanupApplied request⟩ s'.ledger) s := by
  refine wlp_mutate (.refl s _) fun fresh => ?_
  simp only [Tx.wlp_bind, wlp_readGate, wlp_readRun, wlp_requireRunRevision, Tx.wlp_require,
    Tx.wlp_pure]
  intro gate hgate hgid run row hrun hrev hcleanup happroved
  refine wlp_updateGate hgate fun s₁ h₁ => ?_
  have c₁ : Chain Move (Permits s ⟨operationId, env, .markCleanupApplied request⟩) s.ledger
      s₁.ledger := by
    refine .step .refl h₁ (by exact ⟨rfl, gate, hgate, .inr ⟨request, rfl, hgid.symm, hcleanup.1⟩⟩)
      (.apply hgate ⟨rfl, rfl, rfl, rfl⟩ hcleanup.2 hcleanup.2 (approved_of_getD happroved) ?_)
    rw [approved_set (by decide)]
    exact happroved
  have row₁ : s₁.ledger.runs run.id = some run := by rw [h₁]; exact row
  intro gate' _ _
  refine wlp_bumpRunRevision row₁ fun s₂ h₂ => ?_
  have c₂ := c₁.step h₂ (by trivial) (.bumpRun row₁ env.now)
  refine wlp_refresh_chain c₂ (by simp [h₂]) (fun _ _ _ _ hold h => absurd h hold)
    fun run' s₃ c₃ hid hgrows h₃ => ?_
  refine (readOnly_readOptional (fun i => readOnly_readDispatch) _).wlp fun dispatch => ?_
  refine wlp_insertEvent fun s₄ h₄ => ?_
  rw [h₄]
  refine ⟨c₃, ?_⟩
  rintro r e ⟨rfl, gate'', hgate'', rfl⟩
  rw [← hgid, hgate, Option.some.injEq] at hgate''
  subst hgate''
  exact .inr (fence_of_put row hrun hrev h₃ hid (Nat.lt_of_succ_le hgrows))

theorem wlp_cancelActiveRunEntities {A : Ledger → Label → Prop} {L : Ledger} {run : RunRecord}
    {Q : RunRecord → Store → Prop} (c : Chain Move A L s.ledger)
    (row : s.ledger.runs run.id = some run) (cancel : A s.ledger (.cancelRun run.id))
    (revise : ∀ L, A L .reviseAgents)
    (k : ∀ run' s', run'.id = run.id → run.revision < run'.revision →
      Chain Move A L s'.ledger → s'.ledger = s'.ledger.putRun run' → Q run' s') :
    (cancelActiveRunEntities env run.id).wlp
      (fun _ => (updateRunStatus env run .cancelled).wlp Q) s := by
  simp only [cancelActiveRunEntities, Tx.wlp_bind]
  refine wlp_updateTasks fun s₁ h₁ => wlp_updateDispatches fun s₂ h₂ => ?_
  refine wlp_updateAgents (by intro a; rfl) fun s₃ agents h₃ hagents => ?_
  refine wlp_updateGates fun s₄ h₄ => ?_
  have row₄ : s₄.ledger.runs run.id = some run := by rw [h₄, h₃, h₂, h₁]; exact row
  refine wlp_updateRunStatus row₄ fun s₅ h₅ => ?_
  have hruns : ∀ t, (s₁.ledger.tasks t).map TaskRecord.runId =
      (s.ledger.tasks t).map TaskRecord.runId := by
    intro t
    rw [h₁]
    apply map_modifyAll
    intro task
    split <;> rfl
  have cancelled : s₅.ledger = { s.ledger.cancelRun run env.now with agents } := by
    rw [h₅, h₄, h₃, h₂]
    simp only [Ledger.putRun, Ledger.cancelRun, Bool.and_eq_true, Store.inRun_iff, hruns]
    rw [h₁]
    simp
  refine k _ s₅ rfl (Nat.lt_succ_self _) ?_ (Ledger.putRun_self ?_).symm
  · exact (c.snoc cancel (.cancelRun row env.now)).step cancelled (revise _)
      (.reviseAgents agents fun i => by rw [hagents, h₂, h₁]; rfl)
  · simp [h₅]

theorem cancelRun_outcome {request : RunRevisionRequest} :
    (cancelRun platform env operationId request).wlp
      (fun _ s' => Outcome s ⟨operationId, env, .cancelRun request⟩ s'.ledger) s := by
  refine wlp_mutate (.refl s _) fun fresh => ?_
  simp only [Tx.wlp_bind, wlp_readRun, wlp_requireRunRevision, Tx.wlp_require, Tx.wlp_pure]
  intro run row hid hrev _
  refine wlp_cancelActiveRunEntities (A := Permits s ⟨operationId, env, .cancelRun request⟩) .refl row
    (.inl ⟨request, rfl, hid.symm⟩) (fun _ => trivial) fun run' s₁ hid' hgrows c₁ h₁ => wlp_insertEvent fun s₂ h₂ => ?_
  rw [h₂]
  refine ⟨c₁, ?_⟩
  rintro r e ⟨rfl, rfl⟩
  exact .inr (fence_of_put row hid hrev h₁ hid' hgrows)

theorem postMessage_outcome {request : PostMessageRequest} :
    (postMessage platform env operationId request).wlp
      (fun _ s' => Outcome s ⟨operationId, env, .postMessage request⟩ s'.ledger) s := by
  simp only [postMessage, Tx.wlp_bind, Tx.wlp_require, Tx.wlp_ofExcept]
  intro _ senderKind _
  refine wlp_mutate (.refl s _) fun _ => ?_
  simp only [Tx.wlp_bind, wlp_readRun, Tx.wlp_pure]
  intro _ _ _
  refine wlp_validateScope fun _ _ => wlp_insertMessage fun _ s₁ h₁ => wlp_insertEvent fun s₂ h₂ => ?_
  rw [h₂, h₁]
  exact .refl s _

end VibeLink.Coordinator
