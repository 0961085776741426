import VibeLink.Relational.Runs
import VibeLink.Remote.AckWindow
import Mathlib.Data.List.Chain

/-! The sequence numbers of each domain (`DomainSequenceValidator` in `remote/v2/wire.rs`). -/

namespace VibeLink.Remote

open VibeLink.Relational

def MAX_RESYNC_ADVANCE : Nat := 4096

inductive SequenceError
  | replay (expected received : UInt64)
  | gap (expected received : UInt64)
  | invalidDomain
  deriving DecidableEq

/-- `sequence.saturating_add(1)` -/
def following (sequence : UInt64) : UInt64 := if sequence = 0xffffffffffffffff then sequence else sequence + 1

structure DomainSequenceValidator where
  expected : AList fun _ : String => UInt64

namespace DomainSequenceValidator

def wellFormed (domain : String) : Bool :=
  domain ≠ "" ∧ domain.utf8ByteSize ≤ 64 ∧
    domain.toList.all fun c => c.isAlphanum ∨ c = '.' ∨ c = '-' ∨ c = '_'

def acceptsDomain (v : DomainSequenceValidator) (domain : String) : Bool :=
  wellFormed domain ∧ ((v.expected.lookup domain).isSome ∨ v.expected.entries.length < MAX_SEQUENCE_DOMAINS)

def validate (v : DomainSequenceValidator) (domain : String) (sequence : UInt64) :
    Except SequenceError Unit × DomainSequenceValidator :=
  if ¬v.acceptsDomain domain then (.error .invalidDomain, v)
  else
    let expected := (v.expected.lookup domain).getD 1
    let v := if (v.expected.lookup domain).isSome then v else ⟨v.expected.insert domain 1⟩
    if sequence < expected then (.error (.replay expected sequence), v)
    else if expected < sequence then (.error (.gap expected sequence), v)
    else (.ok (), ⟨v.expected.insert domain (following expected)⟩)

def resync (v : DomainSequenceValidator) (domain : String) (nextSequence : UInt64) :
    Except String Unit × DomainSequenceValidator :=
  if ¬v.acceptsDomain domain then (.error "invalid remote-v2 sequence domain", v)
  else
    let current := (v.expected.lookup domain).getD 1
    if nextSequence < current ∨ MAX_RESYNC_ADVANCE < nextSequence.toNat - current.toNat then
      (.error "remote-v2 resync is outside the allowed replay window", v)
    else (.ok (), ⟨v.expected.insert domain nextSequence⟩)

end DomainSequenceValidator

inductive SequenceCall
  | validate (domain : String) (sequence : UInt64)
  | resync (domain : String) (nextSequence : UInt64)

/-- A validator, and the numbers that it has accepted of each domain since the last resync. -/
structure Exchange where
  validator : DomainSequenceValidator
  accepted : String → List UInt64

namespace Exchange

def start : Exchange := ⟨⟨∅⟩, fun _ => []⟩

def step (x : Exchange) : SequenceCall → Exchange
  | .validate domain sequence =>
    let (answer, validator) := x.validator.validate domain sequence
    ⟨validator, if answer.isOk then Function.update x.accepted domain (x.accepted domain ++ [sequence])
      else x.accepted⟩
  | .resync domain nextSequence =>
    let (answer, validator) := x.validator.resync domain nextSequence
    ⟨validator, if answer.isOk then Function.update x.accepted domain [] else x.accepted⟩

end Exchange

def Consecutive (accepted : List UInt64) : Prop :=
  accepted.IsChain fun sequence later => later.toNat = sequence.toNat + 1

/-- The call is accepted in turn, and changes nothing when it is rejected. -/
def InTurn (x : Exchange) (call : SequenceCall) : Prop :=
  (∀ domain, ((x.step call).accepted domain).Nodup ∧ Consecutive ((x.step call).accepted domain)) ∧
    ∀ domain sequence, call = .validate domain sequence →
      (x.validator.validate domain sequence).1.isOk = false →
      (x.validator.validate domain sequence).2 = x.validator

/-- `u64::MAX` does not come again on a domain, and an unknown domain that would be taken up begins with 1. -/
def Regular (x : Exchange) : SequenceCall → Prop
  | .validate domain sequence =>
    (sequence = 0xffffffffffffffff → (x.accepted domain).getLast? ≠ some 0xffffffffffffffff) ∧
      (x.validator.acceptsDomain domain → x.validator.expected.lookup domain = none → sequence = 1)
  | .resync _ _ => True

namespace DomainSequenceValidator

variable {v : DomainSequenceValidator} {domain : String} {sequence : UInt64}

theorem validate_isOk :
    (v.validate domain sequence).1.isOk ↔
      v.acceptsDomain domain ∧ sequence = (v.expected.lookup domain).getD 1 := by
  unfold validate
  split
  · simp_all [Except.isOk, Except.toBool]
  · rename_i accepts
    have accepts := Decidable.not_not.1 accepts
    dsimp only
    split
    · rename_i less
      simp [Except.isOk, Except.toBool, UInt64.ne_of_lt less]
    · split
      · rename_i more
        simp [Except.isOk, Except.toBool, (UInt64.ne_of_lt more).symm]
      · rename_i notLess notMore
        have same := UInt64.le_antisymm (UInt64.not_lt.1 notMore) (UInt64.not_lt.1 notLess)
        simp [Except.isOk, Except.toBool, accepts, same]

theorem validate_accepted (accepted : (v.validate domain sequence).1.isOk) (other : String) :
    (v.validate domain sequence).2.expected.lookup other =
      if other = domain then some (following sequence) else v.expected.lookup other := by
  obtain ⟨accepts, same⟩ := validate_isOk.1 accepted
  have irrefl : ¬sequence < sequence := UInt64.lt_irrefl _
  simp only [validate, accepts, not_true_eq_false, if_false, ← same, irrefl]
  split
  · exact lookup_insert _ _ _ _
  · rw [AList.insert_insert]
    exact lookup_insert _ _ _ _

theorem validate_rejected (rejected : (v.validate domain sequence).1.isOk = false) :
    (v.validate domain sequence).2 =
      if v.acceptsDomain domain ∧ v.expected.lookup domain = none then ⟨v.expected.insert domain 1⟩ else v := by
  unfold validate at rejected ⊢
  split
  · rename_i refuses
    rw [if_neg fun h => refuses h.1]
  · rename_i accepts
    have accepts := Decidable.not_not.1 accepts
    have taken : (if (v.expected.lookup domain).isSome then v else ⟨v.expected.insert domain 1⟩) =
        if v.acceptsDomain domain ∧ v.expected.lookup domain = none then ⟨v.expected.insert domain 1⟩ else v := by
      cases found : v.expected.lookup domain with
      | none => simp [accepts]
      | some expected => simp
    rw [if_neg (not_not_intro accepts)] at rejected
    dsimp only at rejected ⊢
    split
    · exact taken
    · rename_i notLess
      split
      · exact taken
      · rename_i notMore
        rw [if_neg notLess, if_neg notMore] at rejected
        cases rejected

theorem resync_accepted {nextSequence : UInt64} (accepted : (v.resync domain nextSequence).1.isOk) :
    v.acceptsDomain domain ∧ (v.resync domain nextSequence).2 = ⟨v.expected.insert domain nextSequence⟩ := by
  unfold resync at accepted ⊢
  split
  · rename_i refuses
    rw [if_pos refuses] at accepted
    cases accepted
  · rename_i accepts
    rw [if_neg accepts] at accepted
    dsimp only at accepted ⊢
    split
    · rename_i outside
      rw [if_pos outside] at accepted
      cases accepted
    · exact ⟨Decidable.not_not.1 accepts, rfl⟩

theorem resync_rejected {nextSequence : UInt64} (rejected : (v.resync domain nextSequence).1.isOk = false) :
    (v.resync domain nextSequence).2 = v := by
  unfold resync at rejected ⊢
  split
  · rfl
  · rename_i accepts
    rw [if_neg accepts] at rejected
    dsimp only at rejected ⊢
    split
    · rfl
    · rename_i within
      rw [if_neg within] at rejected
      cases rejected

end DomainSequenceValidator

theorem following_toNat {sequence : UInt64} (ne : sequence ≠ 0xffffffffffffffff) :
    (following sequence).toNat = sequence.toNat + 1 := by
  have lt := sequence.toNat_lt
  have ne' : sequence.toNat ≠ 18446744073709551615 := fun same => ne (UInt64.toNat_inj.1 same)
  rw [following, if_neg ne, UInt64.toNat_add]
  exact Nat.mod_eq_of_lt (show sequence.toNat + 1 < 18446744073709551616 by omega)

theorem Consecutive.nodup {accepted : List UInt64} (consecutive : Consecutive accepted) : accepted.Nodup := by
  have increasing : accepted.Pairwise fun sequence later => sequence.toNat < later.toNat := by
    have chain : accepted.IsChain fun sequence later => sequence.toNat < later.toNat :=
      consecutive.imp fun _ _ follows => by omega
    exact List.isChain_iff_pairwise.1 chain
  exact increasing.imp fun less same => absurd (congrArg UInt64.toNat same) (Nat.ne_of_lt less)

/-- What the validator expects is told by the numbers that it has accepted. -/
structure Tracks (x : Exchange) : Prop where
  consecutive : ∀ domain, Consecutive (x.accepted domain)
  wellFormed : ∀ domain expected, x.validator.expected.lookup domain = some expected →
    DomainSequenceValidator.wellFormed domain
  last : ∀ domain sequence, (x.accepted domain).getLast? = some sequence →
    x.validator.expected.lookup domain = some (following sequence)

namespace Exchange

variable {x : Exchange} {domain other : String} {sequence nextSequence : UInt64}

theorem step_accepted (accepted : (x.validator.validate domain sequence).1.isOk) :
    x.step (.validate domain sequence) =
      ⟨(x.validator.validate domain sequence).2,
        Function.update x.accepted domain (x.accepted domain ++ [sequence])⟩ := by
  simp only [step, accepted, if_true]

theorem step_rejected (rejected : (x.validator.validate domain sequence).1.isOk = false) :
    x.step (.validate domain sequence) = { x with validator := (x.validator.validate domain sequence).2 } := by
  simp only [step, rejected, Bool.false_eq_true, if_false]

end Exchange

namespace Tracks

variable {x : Exchange} {domain : String} {sequence nextSequence : UInt64}

theorem start : Tracks .start :=
  ⟨fun _ => .nil, fun _ _ found => (nomatch found), fun _ _ found => (nomatch found)⟩

theorem validate_accepted (tracks : Tracks x) (regular : Regular x (.validate domain sequence))
    (accepted : (x.validator.validate domain sequence).1.isOk) : Tracks (x.step (.validate domain sequence)) := by
  rw [Exchange.step_accepted accepted]
  have lookup := DomainSequenceValidator.validate_accepted accepted
  obtain ⟨accepts, same⟩ := DomainSequenceValidator.validate_isOk.1 accepted
  refine ⟨fun other => ?_, fun other expected found => ?_, fun other last found => ?_⟩
  · dsimp only
    cases Decidable.em (other = domain) with
    | inr ne =>
      rw [Function.update_of_ne ne]
      exact tracks.consecutive other
    | inl here =>
      rw [here, Function.update_self, Consecutive, List.isChain_append]
      refine ⟨tracks.consecutive domain, .singleton _, fun last member next head => ?_⟩
      cases head
      have last' : (x.accepted domain).getLast? = some last := member
      have expects := tracks.last domain last last'
      rw [expects, Option.getD_some] at same
      cases Decidable.em (last = 0xffffffffffffffff) with
      | inl limit =>
        rw [limit] at last' same
        exact absurd last' (regular.1 same)
      | inr ne => rw [same, following_toNat ne]
  · rw [lookup] at found
    split at found
    · rename_i here
      rw [here]
      exact (decide_eq_true_iff.1 accepts).1
    · exact tracks.wellFormed other expected found
  · dsimp only at found ⊢
    rw [lookup]
    cases Decidable.em (other = domain) with
    | inr ne =>
      rw [Function.update_of_ne ne] at found
      rw [if_neg ne]
      exact tracks.last other last found
    | inl here =>
      rw [here, Function.update_self, List.getLast?_concat] at found
      cases found
      rw [if_pos here]

theorem validate_rejected (regular : Regular x (.validate domain sequence))
    (rejected : (x.validator.validate domain sequence).1.isOk = false) :
    (x.validator.validate domain sequence).2 = x.validator := by
  rw [DomainSequenceValidator.validate_rejected rejected, if_neg]
  intro ⟨accepts, fresh⟩
  have first := regular.2 accepts fresh
  have accepted := DomainSequenceValidator.validate_isOk.2 ⟨accepts, show sequence = _ by rw [fresh, first]; rfl⟩
  rw [rejected] at accepted
  cases accepted

theorem resync_accepted (tracks : Tracks x) (accepted : (x.validator.resync domain nextSequence).1.isOk) :
    Tracks (x.step (.resync domain nextSequence)) := by
  obtain ⟨accepts, state⟩ := DomainSequenceValidator.resync_accepted accepted
  have stepped : x.step (.resync domain nextSequence) =
      ⟨⟨x.validator.expected.insert domain nextSequence⟩, Function.update x.accepted domain []⟩ := by
    simp only [Exchange.step, accepted, if_true, state]
  rw [stepped]
  refine ⟨fun other => ?_, fun other expected found => ?_, fun other last found => ?_⟩
  · dsimp only
    cases Decidable.em (other = domain) with
    | inr ne =>
      rw [Function.update_of_ne ne]
      exact tracks.consecutive other
    | inl here =>
      rw [here, Function.update_self]
      exact .nil
  · rw [lookup_insert] at found
    split at found
    · rename_i here
      rw [here]
      exact (decide_eq_true_iff.1 accepts).1
    · exact tracks.wellFormed other expected found
  · dsimp only at found ⊢
    cases Decidable.em (other = domain) with
    | inr ne =>
      rw [Function.update_of_ne ne] at found
      rw [lookup_insert, if_neg ne]
      exact tracks.last other last found
    | inl here =>
      rw [here, Function.update_self] at found
      cases found

theorem step (tracks : Tracks x) {call : SequenceCall} (regular : Regular x call) : Tracks (x.step call) := by
  cases call with
  | validate domain sequence =>
    cases answer : (x.validator.validate domain sequence).1.isOk with
    | true => exact tracks.validate_accepted regular answer
    | false =>
      rw [Exchange.step_rejected answer, validate_rejected regular answer]
      exact tracks
  | resync domain nextSequence =>
    cases answer : (x.validator.resync domain nextSequence).1.isOk with
    | true => exact tracks.resync_accepted answer
    | false =>
      have stepped : x.step (.resync domain nextSequence) = x := by
        simp only [Exchange.step, answer, Bool.false_eq_true, if_false,
          DomainSequenceValidator.resync_rejected answer]
      rw [stepped]
      exact tracks

theorem inTurn_of_regular (tracks : Tracks x) {call : SequenceCall} (regular : Regular x call) :
    InTurn x call := by
  refine ⟨fun domain => ?_, fun domain sequence validate rejected => ?_⟩
  · have consecutive := (tracks.step regular).consecutive domain
    exact ⟨consecutive.nodup, consecutive⟩
  · cases validate
    exact validate_rejected regular rejected

theorem regular_of_inTurn (tracks : Tracks x) {call : SequenceCall} (inTurn : InTurn x call) :
    Regular x call := by
  cases call with
  | resync domain nextSequence => trivial
  | validate domain sequence =>
    refine ⟨fun limit last => ?_, fun accepts fresh => ?_⟩
    · have expects := tracks.last domain _ last
      have known : (x.validator.expected.lookup domain).isSome := by rw [expects]; rfl
      have accepts : x.validator.acceptsDomain domain :=
        decide_eq_true_iff.2 ⟨tracks.wellFormed domain _ expects, .inl known⟩
      have accepted : (x.validator.validate domain sequence).1.isOk :=
        DomainSequenceValidator.validate_isOk.2 ⟨accepts, by rw [expects, limit]; rfl⟩
      have nodup := (inTurn.1 domain).1
      rw [Exchange.step_accepted accepted] at nodup
      dsimp only at nodup
      rw [Function.update_self] at nodup
      have again := List.disjoint_of_nodup_append nodup (List.mem_of_getLast? last)
      exact again (limit ▸ List.mem_singleton_self _)
    · cases answer : (x.validator.validate domain sequence).1.isOk with
      | true =>
        have first := (DomainSequenceValidator.validate_isOk.1 answer).2
        rw [fresh] at first
        exact first
      | false =>
        have unchanged := inTurn.2 domain sequence rfl answer
        rw [DomainSequenceValidator.validate_rejected answer, if_pos ⟨accepts, fresh⟩] at unchanged
        rw [← unchanged, AList.lookup_insert] at fresh
        cases fresh

end Tracks

/-- A run accepts every domain's numbers in turn, and changes nothing when it rejects one, just when all of
its calls are regular. -/
theorem sequences_in_turn (calls : List SequenceCall) :
    Throughout Exchange.step InTurn .start calls ↔ Throughout Exchange.step Regular .start calls := by
  have run : ∀ x, Tracks x → (Throughout Exchange.step InTurn x calls ↔ Throughout Exchange.step Regular x calls) := by
    induction calls with
    | nil => exact fun _ _ => Iff.rfl
    | cons call calls ih =>
      intro x tracks
      constructor
      · intro ⟨inTurn, later⟩
        have regular := tracks.regular_of_inTurn inTurn
        exact ⟨regular, (ih _ (tracks.step regular)).1 later⟩
      · intro ⟨regular, later⟩
        exact ⟨tracks.inTurn_of_regular regular, (ih _ (tracks.step regular)).2 later⟩
  exact run .start .start

/-- A rejected number makes its domain known. -/
theorem gap_remembered :
    ¬Throughout Exchange.step InTurn .start [.validate "terminal" 2] := by
  intro ⟨inTurn, _⟩
  have unchanged := inTurn.2 "terminal" 2 rfl (by decide +kernel)
  have known : (Exchange.start.validator.validate "terminal" 2).2.expected.lookup "terminal" = some 1 := by
    decide +kernel
  rw [unchanged] at known
  cases known

end VibeLink.Remote
