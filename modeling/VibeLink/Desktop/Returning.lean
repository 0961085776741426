import VibeLink.Desktop.Requests
import VibeLink.Relational.Runs

/-! Every request returns. -/

namespace VibeLink.Desktop

open Relational

variable {R N : Type}

def Step.of (req : Req) : Step R N → Prop
  | .proceed other _ _ => other = req
  | _ => False

namespace ClientShared

def Returned (s : ClientShared R N) (req : Req) (outcome : Outcome R N) : Prop :=
  ∃ request, s.requests req = some request ∧ request.phase = .returned outcome

section Returning

variable {s : ClientShared R N} {req : Req} {request : Request R N}

theorem setRequest_requests (other : Req) : (s.setRequest req request).requests other =
    if other = req then some request else s.requests other := Function.update_apply _ _ _ _

theorem beginReconnect_requests (holder : Holder) : (s.beginReconnect holder).requests = s.requests := by
  rw [ClientShared.beginReconnect]
  split
  · rfl
  · rfl

theorem mem_of_pickOf {taken rest : List Req} {pick other : Nat} (picked : pickOf taken pick = some (other, rest)) :
    other ∈ taken ∧ ∀ next ∈ rest, next ∈ taken := by
  rw [pickOf] at picked
  split at picked
  · cases picked
  · rename_i first others rotated
    cases picked
    have member (next : Req) (there : next ∈ other :: rest) : next ∈ taken := by
      rw [← rotated, List.mem_rotate] at there
      exact there
    exact ⟨member other List.mem_cons_self, fun next there => member next (List.mem_cons_of_mem _ there)⟩

def phaseOf (s : ClientShared R N) (req : Req) : Option (Phase R N) := (s.requests req).map Request.phase

def rank : Phase R N → Nat × Nat
  | .registered => (8, 0)
  | .waiting => (7, 0)
  | .refused => (6, 0)
  | .late => (5, 0)
  | .sweeping => (4, 0)
  | .failing taken => (3, taken.length)
  | .replacing => (2, 0)
  | .withdrawn _ => (1, 0)
  | .returned _ => (0, 0)

theorem phaseOf_setRequest (other : Req) : (s.setRequest req request).phaseOf other =
    if other = req then some request.phase else s.phaseOf other := by
  rw [phaseOf, setRequest_requests, apply_ite (Option.map Request.phase)]
  rfl

theorem phaseOf_offer (message : DaemonToClient R N) (other : Req) : (s.offer req message).phaseOf other = s.phaseOf other := by
  rw [offer]
  split
  · rename_i request found
    split
    · rfl
    · rw [phaseOf_setRequest]
      split
      · rename_i same
        rw [same, phaseOf, found]
        rfl
      · rfl
  · rfl

theorem phaseOf_beginReconnect (holder : Holder) (other : Req) :
    (s.beginReconnect holder).phaseOf other = s.phaseOf other := by
  rw [phaseOf, beginReconnect_requests, phaseOf]

theorem phaseOf_work (i pick : Nat) (worker : Worker R N) (other : Req) :
    (s.work i pick worker).phaseOf other = s.phaseOf other := by
  cases worker with
  | got =>
    rw [work]
    split
    · rfl
    · rfl
  | routing =>
    simp only [work]
    split
    · split
      · rfl
      · rfl
    · rfl
  | handing => exact phaseOf_offer _ other
  | lost =>
    rw [work]
    split
    · rfl
    · rfl
  | sweeping => rfl
  | failing =>
    rw [work]
    split
    · exact phaseOf_offer _ other
    · rfl
  | beginning => exact phaseOf_beginReconnect _ other
  | reading => rfl
  | reconnecting => rfl
  | ended => rfl

theorem phaseOf_conclude (holder : Holder) (connected : Bool) (other : Req) :
    (s.conclude holder connected).phaseOf other = s.phaseOf other := by
  cases holder with
  | worker => rfl
  | background =>
    cases connected with
    | true => rfl
    | false => rfl
  | restart => rfl

theorem phaseOf_proceed_of_ne {other : Req} (ne : other ≠ req) (written : Bool) (pick : Nat) :
    (s.proceed req request written pick).phaseOf other = s.phaseOf other := by
  have becomes (t : ClientShared R N) (next : Request R N) (same : t.phaseOf other = s.phaseOf other) :
      (t.setRequest req next).phaseOf other = s.phaseOf other := by
    rw [phaseOf_setRequest, if_neg ne, same]
  obtain ⟨phase, timeout, sent, channel⟩ := request
  cases phase with
  | registered =>
    dsimp only [proceed]
    split
    · exact becomes _ _ rfl
    · exact becomes _ _ rfl
  | refused => exact becomes _ _ (phaseOf_beginReconnect _ other)
  | withdrawn => exact becomes _ _ rfl
  | waiting =>
    cases channel with
    | some => exact becomes _ _ rfl
    | none =>
      dsimp only [proceed]
      split
      · exact becomes _ _ rfl
      · exact becomes _ _ rfl
  | late => exact becomes _ _ rfl
  | sweeping => exact becomes _ _ rfl
  | failing taken =>
    dsimp only [proceed]
    split
    · cases sent with
      | none => exact (phaseOf_offer _ other).trans (becomes _ _ rfl)
      | some => exact (phaseOf_offer _ other).trans (becomes _ _ rfl)
    · exact becomes _ _ rfl
  | replacing => exact becomes _ _ (phaseOf_beginReconnect _ other)
  | returned => rfl

theorem length_of_pickOf {taken rest : List Req} {pick other : Nat} (picked : pickOf taken pick = some (other, rest)) :
    rest.length < taken.length := by
  rw [pickOf] at picked
  split at picked
  · cases picked
  · rename_i rotated
    cases picked
    rw [← List.length_rotate (l := taken), rotated]
    exact Nat.lt_succ_self _

theorem phaseOf_proceed (written : Bool) (pick : Nat) :
    (∃ outcome, request.phase = .returned outcome ∧ s.proceed req request written pick = s) ∨ ∃ phase, (s.proceed req request written pick).phaseOf req = some phase ∧
      Prod.Lex (· < ·) (· < ·) (rank phase) (rank request.phase) := by
  have becomes (t : ClientShared R N) (next : Request R N) : (t.setRequest req next).phaseOf req = some next.phase := by
    rw [phaseOf_setRequest, if_pos rfl]
  have down {m n a b : Nat} (less : m < n) : Prod.Lex (· < ·) (· < ·) (m, a) (n, b) := .left a b less
  obtain ⟨phase, timeout, sent, channel⟩ := request
  cases phase with
  | registered =>
    dsimp only [proceed]
    split
    · exact .inr ⟨_, becomes _ _, down (by decide)⟩
    · exact .inr ⟨_, becomes _ _, down (by decide)⟩
  | refused => exact .inr ⟨_, becomes _ _, down (by decide)⟩
  | withdrawn => exact .inr ⟨_, becomes _ _, down (by decide)⟩
  | waiting =>
    cases channel with
    | some => exact .inr ⟨_, becomes _ _, down (by decide)⟩
    | none =>
      dsimp only [proceed]
      split
      · exact .inr ⟨_, becomes _ _, down (by decide)⟩
      · exact .inr ⟨_, becomes _ _, down (by decide)⟩
  | late => exact .inr ⟨_, becomes _ _, down (by decide)⟩
  | sweeping => exact .inr ⟨_, becomes _ _, down (by decide)⟩
  | failing taken =>
    dsimp only [proceed]
    split
    · rename_i other rest picked
      have shorter : Prod.Lex (· < ·) (· < ·) (rank (R := R) (N := N) (.failing rest)) (rank (R := R) (N := N) (.failing taken)) :=
        .right 3 (length_of_pickOf picked)
      cases sent with
      | none => exact .inr ⟨_, (phaseOf_offer _ req).trans (becomes _ _), shorter⟩
      | some => exact .inr ⟨_, (phaseOf_offer _ req).trans (becomes _ _), shorter⟩
    · exact .inr ⟨_, becomes _ _, down (by decide)⟩
  | replacing => exact .inr ⟨_, becomes _ _, down (by decide)⟩
  | returned outcome => exact .inl ⟨outcome, rfl, rfl⟩

theorem nextReq_note (event : Event R N) : (s.note event).nextReq = s.nextReq := rfl

theorem nextReq_become (phase : Phase R N) : (s.become req request phase).nextReq = s.nextReq := rfl

theorem nextReq_offer (message : DaemonToClient R N) : (s.offer req message).nextReq = s.nextReq := by
  grind [offer, setRequest]

theorem nextReq_beginReconnect (holder : Holder) : (s.beginReconnect holder).nextReq = s.nextReq := by
  grind [beginReconnect]

theorem nextReq_proceed (written : Bool) (pick : Nat) :
    (s.proceed req request written pick).nextReq = s.nextReq := by
  grind [proceed, ends, setRequest, removePending, takePending, nextReq_note, nextReq_become, nextReq_offer,
    nextReq_beginReconnect]

theorem nextReq_work (i pick : Nat) (worker : Worker R N) : (s.work i pick worker).nextReq = s.nextReq := by
  cases worker with
  | _ => grind [work, note, setWorker, removePending, takePending, nextReq_offer, nextReq_beginReconnect]

theorem nextReq_conclude (holder : Holder) (connected : Bool) : (s.conclude holder connected).nextReq = s.nextReq := by
  cases holder with
  | _ => grind [conclude, finishReconnect, setWorker]

theorem nextReq_le (step : Step R N) : s.nextReq ≤ (s.next step).nextReq := by
  cases step with
  | _ => grind [next, setWorker, note, nextReq_conclude, nextReq_proceed, nextReq_work, nextReq_beginReconnect]

theorem phaseOf_next {step : Step R N} (known : req < s.nextReq) (foreign : ¬step.of req) :
    (s.next step).phaseOf req = s.phaseOf req := by
  cases step with
  | request => exact (phaseOf_setRequest req).trans (if_neg (Nat.ne_of_lt known))
  | proceed other written pick =>
    simp only [next]
    split
    · exact phaseOf_proceed_of_ne (Ne.symm foreign) written pick
    · rfl
  | send written =>
    simp only [next]
    split
    · rfl
    · exact phaseOf_beginReconnect _ req
  | read =>
    simp only [next]
    split
    · rfl
    · rfl
  | lose =>
    simp only [next]
    split
    · rfl
    · rfl
  | work =>
    simp only [next]
    split
    · exact phaseOf_work _ _ _ req
    · rfl
  | restart => exact phaseOf_beginReconnect _ req
  | stop =>
    simp only [next]
    split
    · split
      · exact phaseOf_conclude _ _ req
      · rfl
    · rfl
  | connect =>
    simp only [next]
    split
    · split
      · rfl
      · rfl
    · rfl
  | advance =>
    simp only [next]
    split
    · split
      · rfl
      · rfl
    · rfl
  | conclude =>
    simp only [next]
    split
    · exact phaseOf_conclude _ _ req
    · rfl
  | shutDown => rfl

theorem phaseOf_next_of {step : Step R N} {phase : Phase R N} (own : step.of req) (there : s.phaseOf req = some phase) :
    (∃ outcome, phase = .returned outcome ∧ s.next step = s) ∨ ∃ later, (s.next step).phaseOf req = some later ∧
      Prod.Lex (· < ·) (· < ·) (rank later) (rank phase) := by
  cases step with
  | proceed other written pick =>
    cases own
    rw [phaseOf, Option.map_eq_some_iff] at there
    obtain ⟨request, found, rfl⟩ := there
    simp only [next, found]
    exact phaseOf_proceed written pick
  | _ => cases own

theorem returns {schedule : Nat → Step R N} (known : req < s.nextReq) (there : s.requests req = some request)
    (fair : ∀ n, ∃ m, n ≤ m ∧ (schedule m).of req) :
    ∃ n outcome, (after next schedule s n).Returned req outcome := by
  have kept (t : ClientShared R N) (step : Step R N) (holds : req < t.nextReq ∧ ∃ phase, t.phaseOf req = some phase) :
      req < (t.next step).nextReq ∧ ∃ phase, (t.next step).phaseOf req = some phase := by
    refine ⟨Nat.lt_of_lt_of_le holds.1 (nextReq_le step), ?_⟩
    obtain ⟨phase, there⟩ := holds.2
    by_cases own : step.of req
    · cases phaseOf_next_of own there with
      | inl ends =>
        obtain ⟨_, _, same⟩ := ends
        rw [same]
        exact ⟨phase, there⟩
      | inr goes =>
        obtain ⟨later, found, _⟩ := goes
        exact ⟨later, found⟩
    · exact ⟨phase, (phaseOf_next holds.1 own).trans there⟩
  have falls (t : ClientShared R N) (step : Step R N) (holds : req < t.nextReq ∧ ∃ phase, t.phaseOf req = some phase)
      (own : step.of req) : (∃ outcome, t.phaseOf req = some (.returned outcome)) ∨
        Prod.Lex (· < ·) (· < ·) (((t.next step).phaseOf req).elim (0, 0) rank) ((t.phaseOf req).elim (0, 0) rank) := by
    obtain ⟨phase, there⟩ := holds.2
    cases phaseOf_next_of own there with
    | inl ends =>
      obtain ⟨outcome, rfl, _⟩ := ends
      exact .inl ⟨outcome, there⟩
    | inr goes =>
      obtain ⟨later, found, less⟩ := goes
      rw [found, there]
      exact .inr less
  have finished := @done_of_fair _ _ _ _ schedule (Step.of req) (fun t => req < t.nextReq ∧ ∃ phase, t.phaseOf req = some phase)
    (fun t => ∃ outcome, t.phaseOf req = some (.returned outcome)) (fun t => (t.phaseOf req).elim (0, 0) rank) _ s
    (WellFounded.prod_lex Nat.lt_wfRel.wf Nat.lt_wfRel.wf) kept
    (fun t step holds foreign => by rw [phaseOf_next holds.1 foreign]) falls fair
    ⟨known, request.phase, by rw [phaseOf, there]; rfl⟩
  obtain ⟨n, outcome, phase⟩ := finished
  refine ⟨n, outcome, ?_⟩
  rw [phaseOf, Option.map_eq_some_iff] at phase
  exact phase

end Returning

end ClientShared

end VibeLink.Desktop
