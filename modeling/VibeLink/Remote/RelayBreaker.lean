import Mathlib.Data.List.Induction

/-! The relay behind a direct path, and the circuit breaker that spares it (`remote/v2/relay.rs`).  Instants are
nanoseconds up to the last one that can be represented. -/

namespace VibeLink.Remote

def RELAY_FAILURE_THRESHOLD : Nat := 3
def RELAY_COOLDOWN : Nat := 30000000000

inductive ConnectionPath
  | direct
  | relay
  deriving DecidableEq

/-- `Instant::checked_add` -/
def checkedAdd (latest instant duration : Nat) : Option Nat :=
  if instant + duration ≤ latest then some (instant + duration) else none

structure RelayCircuitBreaker where
  failures : Nat
  openUntil : Option Nat
  threshold : Nat
  cooldown : Nat
  deriving DecidableEq

namespace RelayCircuitBreaker

def default : RelayCircuitBreaker := ⟨0, none, RELAY_FAILURE_THRESHOLD, RELAY_COOLDOWN⟩

def canAttempt (breaker : RelayCircuitBreaker) (now : Nat) : Bool × RelayCircuitBreaker :=
  match breaker.openUntil with
  | some last =>
    if now < last then (false, breaker)
    else (true, { breaker with failures := 0, openUntil := none })
  | none => (true, breaker)

def recordSuccess (breaker : RelayCircuitBreaker) : RelayCircuitBreaker :=
  { breaker with failures := 0, openUntil := none }

/-- The count is an `u8` that saturates. -/
def recordFailure (latest : Nat) (breaker : RelayCircuitBreaker) (now : Nat) : RelayCircuitBreaker :=
  let failures := min (breaker.failures + 1) 255
  { breaker with
    failures
    openUntil := if breaker.threshold ≤ failures then checkedAdd latest now breaker.cooldown else breaker.openUntil }

def isOpen (breaker : RelayCircuitBreaker) (now : Nat) : Bool := breaker.openUntil.any fun last => now < last

def CooledDown (breaker : RelayCircuitBreaker) (now : Nat) : Prop := ∃ last ∈ breaker.openUntil, last ≤ now

instance {breaker : RelayCircuitBreaker} {now : Nat} : Decidable (breaker.CooledDown now) :=
  inferInstanceAs (Decidable (∃ last ∈ breaker.openUntil, last ≤ now))

theorem canAttempt_cases (breaker : RelayCircuitBreaker) (now : Nat) :
    (breaker.isOpen now = true ∧ ¬breaker.CooledDown now ∧ breaker.canAttempt now = (false, breaker)) ∨
    (breaker.isOpen now = false ∧ breaker.CooledDown now ∧
      breaker.canAttempt now = (true, { breaker with failures := 0, openUntil := none })) ∨
    (breaker.isOpen now = false ∧ ¬breaker.CooledDown now ∧ breaker.openUntil = none ∧
      breaker.canAttempt now = (true, breaker)) := by
  obtain ⟨failures, openUntil, threshold, cooldown⟩ := breaker
  cases openUntil with
  | none => simp [isOpen, CooledDown, canAttempt]
  | some last =>
    by_cases before : now < last
    · simp [isOpen, CooledDown, canAttempt, before]
    · simp [isOpen, CooledDown, canAttempt, before, Nat.le_of_not_lt before]

theorem canAttempt_eq (breaker : RelayCircuitBreaker) (now : Nat) :
    (breaker.canAttempt now).1 = !breaker.isOpen now := by
  obtain ⟨held, _, same⟩ | ⟨closed, _, same⟩ | ⟨closed, _, _, same⟩ := breaker.canAttempt_cases now
  · rw [same, held]
    rfl
  · rw [same, closed]
    rfl
  · rw [same, closed]
    rfl

theorem isOpen_canAttempt {breaker : RelayCircuitBreaker} {now later : Nat}
    (held : (breaker.canAttempt now).2.isOpen later = true) : breaker.isOpen later = true := by
  obtain ⟨_, _, same⟩ | ⟨_, _, same⟩ | ⟨_, _, _, same⟩ := breaker.canAttempt_cases now
  · rwa [same] at held
  · rw [same] at held
    cases held
  · rwa [same] at held

end RelayCircuitBreaker

/-- What an attempt to connect has come to, and whether it has called the relay. -/
structure Attempt (T : Type) where
  result : Except String (T × ConnectionPath)
  relayCalled : Bool
  breaker : RelayCircuitBreaker

/-- What either path answers, if it is asked, and when. -/
structure Connect (T : Type) where
  direct : Except String T
  relay : Except String T
  now : Nat

variable {T : Type}

def connectDirectFirst (latest : Nat) (breaker : RelayCircuitBreaker) (call : Connect T) : Attempt T :=
  match call.direct with
  | .ok connection => ⟨.ok (connection, .direct), false, breaker⟩
  | .error directError =>
    match breaker.canAttempt call.now with
    | (false, breaker) =>
      ⟨.error s!"relay_unavailable: relay circuit is open after direct failure: {directError}", false, breaker⟩
    | (true, breaker) =>
      match call.relay with
      | .ok connection => ⟨.ok (connection, .relay), true, breaker.recordSuccess⟩
      | .error relayError =>
        ⟨.error s!"relay_unavailable: direct connection failed ({directError}); relay failed ({relayError})", true,
          breaker.recordFailure latest call.now⟩

/-- The breaker opens at `now`. -/
def Opens (now : Nat) (before after : RelayCircuitBreaker) : Prop :=
  before.isOpen now = false ∧ after.isOpen now = true

instance {now : Nat} {before after : RelayCircuitBreaker} : Decidable (Opens now before after) :=
  inferInstanceAs (Decidable (_ ∧ _))

inductive BreakerAct
  | canAttempt (now : Nat)
  | recordSuccess
  | recordFailure (now : Nat)

/-- A breaker, and the failures since the last success or reset. -/
structure Circuit where
  breaker : RelayCircuitBreaker
  count : Nat

namespace Circuit

def start : Circuit := ⟨.default, 0⟩

def next (latest : Nat) (circuit : Circuit) : BreakerAct → Circuit
  | .canAttempt now => ⟨(circuit.breaker.canAttempt now).2, if circuit.breaker.CooledDown now then 0 else circuit.count⟩
  | .recordSuccess => ⟨circuit.breaker.recordSuccess, 0⟩
  | .recordFailure now => ⟨circuit.breaker.recordFailure latest now, circuit.count + 1⟩

def actsOf (breaker : RelayCircuitBreaker) (call : Connect T) : List BreakerAct :=
  match call.direct with
  | .ok _ => []
  | .error _ =>
    if (breaker.canAttempt call.now).1 then
      [.canAttempt call.now, match call.relay with
        | .ok _ => .recordSuccess
        | .error _ => .recordFailure call.now]
    else [.canAttempt call.now]

def connect (latest : Nat) (circuit : Circuit) (call : Connect T) : Circuit :=
  (actsOf circuit.breaker call).foldl (next latest) circuit

/-- The count of the breaker is that of the failures. -/
structure Counts (circuit : Circuit) : Prop where
  failures : circuit.breaker.failures = min circuit.count 255
  threshold : circuit.breaker.threshold = 3
  cooldown : circuit.breaker.cooldown = RELAY_COOLDOWN

variable {latest : Nat} {circuit : Circuit} {now : Nat}

theorem breaker_connect (latest : Nat) (circuit : Circuit) (call : Connect T) :
    (circuit.connect latest call).breaker = (connectDirectFirst latest circuit.breaker call).breaker := by
  unfold connect actsOf connectDirectFirst
  cases call.direct with
  | ok connection => rfl
  | error directError =>
    dsimp only
    cases attempts : circuit.breaker.canAttempt call.now with
    | mk allowed breaker =>
      cases allowed with
      | false =>
        change (circuit.breaker.canAttempt call.now).2 = breaker
        rw [attempts]
      | true =>
        cases call.relay with
        | ok connection =>
          change (circuit.breaker.canAttempt call.now).2.recordSuccess = breaker.recordSuccess
          rw [attempts]
        | error relayError =>
          change (circuit.breaker.canAttempt call.now).2.recordFailure latest call.now = breaker.recordFailure latest call.now
          rw [attempts]

theorem Counts.next (counts : circuit.Counts) (act : BreakerAct) : (circuit.next latest act).Counts := by
  cases act with
  | canAttempt now =>
    rw [Circuit.next]
    obtain ⟨_, hot, same⟩ | ⟨_, cooled, same⟩ | ⟨_, cold, _, same⟩ := circuit.breaker.canAttempt_cases now
    · rw [same, if_neg hot]
      exact counts
    · rw [same, if_pos cooled]
      exact ⟨rfl, counts.threshold, counts.cooldown⟩
    · rw [same, if_neg cold]
      exact counts
  | recordSuccess => exact ⟨rfl, counts.threshold, counts.cooldown⟩
  | recordFailure now =>
    refine ⟨?_, counts.threshold, counts.cooldown⟩
    change min (circuit.breaker.failures + 1) 255 = min (circuit.count + 1) 255
    rw [counts.failures]
    omega

theorem counts_run (latest : Nat) (acts : List BreakerAct) : (acts.foldl (next latest) start).Counts := by
  induction acts using List.reverseRecOn with
  | nil => exact ⟨rfl, rfl, rfl⟩
  | append_singleton acts act ih =>
    rw [List.foldl_append]
    exact ih.next act

theorem Counts.openUntil (counts : circuit.Counts) (latest now : Nat) :
    (circuit.breaker.recordFailure latest now).openUntil =
      if 3 ≤ circuit.count + 1 then checkedAdd latest now RELAY_COOLDOWN else circuit.breaker.openUntil := by
  rw [RelayCircuitBreaker.recordFailure, counts.failures, counts.threshold, counts.cooldown]
  dsimp only
  congr 1
  apply propext
  omega

theorem Counts.opens_iff (counts : circuit.Counts) (closed : circuit.breaker.isOpen now = false) :
    (circuit.breaker.recordFailure latest now).isOpen now = true ↔
      3 ≤ circuit.count + 1 ∧ now + RELAY_COOLDOWN ≤ latest := by
  rw [RelayCircuitBreaker.isOpen, counts.openUntil]
  split
  · rename_i third
    rw [checkedAdd]
    split
    · rename_i fits
      rw [Option.any_some, decide_eq_true_eq]
      exact iff_of_true (Nat.lt_add_of_pos_right (by decide)) ⟨third, fits⟩
    · rename_i beyond
      simp [beyond]
  · rename_i few
    rw [RelayCircuitBreaker.isOpen] at closed
    rw [closed]
    simp [few]

theorem connect_cases (latest : Nat) (circuit : Circuit) (call : Connect T) :
    ((connectDirectFirst latest circuit.breaker call).relayCalled = false ∧ circuit.connect latest call = circuit) ∨
    ((connectDirectFirst latest circuit.breaker call).relayCalled = true ∧
      circuit.breaker.isOpen call.now = false ∧
      ((∃ connection, call.relay = .ok connection ∧
          circuit.connect latest call = (circuit.next latest (.canAttempt call.now)).next latest .recordSuccess) ∨
        ∃ relayError, call.relay = .error relayError ∧
          circuit.connect latest call =
            (circuit.next latest (.canAttempt call.now)).next latest (.recordFailure call.now))) := by
  have allowed := circuit.breaker.canAttempt_eq call.now
  unfold connect actsOf connectDirectFirst
  cases call.direct with
  | ok connection => exact .inl ⟨rfl, rfl⟩
  | error directError =>
    obtain ⟨_, hot, same⟩ | ⟨closed, _, same⟩ | ⟨closed, _, _, same⟩ := circuit.breaker.canAttempt_cases call.now
    · refine .inl ⟨by rw [same], ?_⟩
      dsimp only
      rw [same, if_neg Bool.false_ne_true, List.foldl_cons, List.foldl_nil, next, same, if_neg hot]
    all_goals
      refine .inr ⟨?_, closed, ?_⟩
      · dsimp only
        rw [same]
        cases call.relay with
        | ok connection => rfl
        | error relayError => rfl
      · dsimp only
        rw [same, if_pos rfl]
        cases call.relay with
        | ok connection => exact .inl ⟨connection, rfl, rfl⟩
        | error relayError => exact .inr ⟨relayError, rfl, rfl⟩

/-- No failure that is still to come is the fourth, unless its cooldown cannot be represented. -/
structure Guarded (latest now : Nat) (circuit : Circuit) : Prop where
  counts : circuit.Counts
  guarded : 3 ≤ circuit.count → circuit.breaker.openUntil.isSome ∨ latest < now + RELAY_COOLDOWN

theorem Guarded.later {later : Nat} (guarded : circuit.Guarded latest now) (le : now ≤ later) :
    circuit.Guarded latest later where
  counts := guarded.counts
  guarded third := (guarded.guarded third).imp_right fun beyond => by omega

theorem Guarded.few (guarded : circuit.Guarded latest now) (closed : circuit.breaker.isOpen now = false) :
    (circuit.next latest (.canAttempt now)).count ≤ 2 ∨ latest < now + RELAY_COOLDOWN := by
  rw [Circuit.next]
  obtain ⟨held, _⟩ | ⟨_, cooled, _⟩ | ⟨_, cold, unset, _⟩ := circuit.breaker.canAttempt_cases now
  · exact absurd held (closed ▸ Bool.false_ne_true)
  · rw [if_pos cooled]
    exact .inl (Nat.zero_le 2)
  · rw [if_neg cold]
    cases Nat.lt_or_ge circuit.count 3 with
    | inl few => exact .inl (Nat.le_of_lt_succ few)
    | inr third =>
      have beyond := guarded.guarded third
      rw [unset] at beyond
      exact .inr (beyond.resolve_left Bool.false_ne_true)

theorem Guarded.connect (guarded : circuit.Guarded latest now) {call : Connect T} (le : now ≤ call.now) :
    (circuit.connect latest call).Guarded latest call.now := by
  have guarded := guarded.later le
  obtain ⟨_, same⟩ | ⟨_, closed, ⟨_, _, same⟩ | ⟨_, _, same⟩⟩ := circuit.connect_cases latest call
  · rw [same]
    exact guarded
  · rw [same]
    refine ⟨(guarded.counts.next _).next _, fun third => ?_⟩
    exact absurd third (by decide : ¬3 ≤ 0)
  · rw [same]
    refine ⟨(guarded.counts.next _).next _, fun third => ?_⟩
    have counts : (circuit.next latest (.canAttempt call.now)).Counts := guarded.counts.next _
    have third : 3 ≤ (circuit.next latest (.canAttempt call.now)).count + 1 := third
    change ((circuit.next latest (.canAttempt call.now)).breaker.recordFailure latest call.now).openUntil.isSome ∨ _
    rw [counts.openUntil, if_pos third, checkedAdd]
    split
    · exact .inl rfl
    · rename_i beyond
      exact .inr (Nat.lt_of_not_le beyond)

def called (latest : Nat) (acts : List BreakerAct) : Circuit := acts.foldl (next latest) start

def connected (latest : Nat) (calls : List (Connect T)) : Circuit := calls.foldl (connect latest) start

theorem guarded_connected (latest : Nat) {calls : List (Connect T)} {now : Nat}
    (ordered : calls.Pairwise fun earlier later => earlier.now ≤ later.now) (before : ∀ call ∈ calls, call.now ≤ now) :
    (connected latest calls).Guarded latest now := by
  induction calls using List.reverseRecOn generalizing now with
  | nil => exact ⟨⟨rfl, rfl, rfl⟩, fun third => absurd third (show ¬3 ≤ 0 by decide)⟩
  | append_singleton calls call ih =>
    rw [connected, List.foldl_append]
    rw [List.pairwise_append] at ordered
    have guarded := ih ordered.1 fun earlier member => ordered.2.2 earlier member call (List.mem_singleton_self call)
    exact (guarded.connect (Nat.le_refl _)).later (before call (List.mem_append_right _ (List.mem_singleton_self call)))

/-- An attempt passes when the breaker is closed, and nothing but a failure opens it. -/
structure Gates (latest : Nat) (circuit : Circuit) (now : Nat) : Prop where
  passes : (circuit.breaker.canAttempt now).1 = !circuit.breaker.isOpen now
  fails : Opens now circuit.breaker (circuit.breaker.recordFailure latest now) ↔
    circuit.breaker.isOpen now = false ∧ 3 ≤ (circuit.next latest (.recordFailure now)).count ∧
      now + RELAY_COOLDOWN ≤ latest
  succeeds : ¬Opens now circuit.breaker circuit.breaker.recordSuccess
  attempts : ¬Opens now circuit.breaker (circuit.breaker.canAttempt now).2

/-- An attempt to connect spares the relay while the breaker is open, and opens it with the third failure. -/
structure Spares (latest : Nat) (circuit : Circuit) (call : Connect T) : Prop where
  relay : (connectDirectFirst latest circuit.breaker call).relayCalled = true →
    circuit.breaker.isOpen call.now = false
  opens : Opens call.now circuit.breaker (connectDirectFirst latest circuit.breaker call).breaker ↔
    (connectDirectFirst latest circuit.breaker call).relayCalled = true ∧
      (∃ relayError, call.relay = .error relayError) ∧ (circuit.connect latest call).count = 3 ∧
      call.now + RELAY_COOLDOWN ≤ latest

theorem Counts.gates (counts : circuit.Counts) (latest now : Nat) : circuit.Gates latest now where
  passes := circuit.breaker.canAttempt_eq now
  fails := by
    rw [Opens]
    exact and_congr_right fun closed => counts.opens_iff closed
  succeeds opens := Bool.false_ne_true opens.2
  attempts opens := Bool.false_ne_true (opens.1.symm.trans (RelayCircuitBreaker.isOpen_canAttempt opens.2))

theorem Guarded.spares (guarded : circuit.Guarded latest now) {call : Connect T} (le : now ≤ call.now) :
    circuit.Spares latest call := by
  have guarded := guarded.later le
  obtain ⟨silent, same⟩ | ⟨asks, closed, ⟨connection, answer, same⟩ | ⟨relayError, answer, same⟩⟩ :=
    circuit.connect_cases latest call
  · refine ⟨fun asks => absurd (silent.symm.trans asks) Bool.false_ne_true, ?_⟩
    rw [← breaker_connect, same, silent]
    refine iff_of_false (fun opens => Bool.false_ne_true (opens.1.symm.trans opens.2)) fun opens => ?_
    exact Bool.false_ne_true opens.1
  · refine ⟨fun _ => closed, ?_⟩
    rw [← breaker_connect, same, answer]
    refine iff_of_false (fun opens => Bool.false_ne_true opens.2) fun opens => ?_
    obtain ⟨_, none⟩ := opens.2.1
    cases none
  · have ready : (circuit.next latest (.canAttempt call.now)).breaker.isOpen call.now = false :=
      Bool.eq_false_iff.2 fun held =>
        Bool.false_ne_true (closed.symm.trans (RelayCircuitBreaker.isOpen_canAttempt held))
    have counts : (circuit.next latest (.canAttempt call.now)).Counts := guarded.counts.next _
    refine ⟨fun _ => closed, ?_⟩
    rw [← breaker_connect, same, Opens]
    change _ ∧ ((circuit.next latest (.canAttempt call.now)).breaker.recordFailure latest call.now).isOpen call.now = true ↔
      _ ∧ _ ∧ (circuit.next latest (.canAttempt call.now)).count + 1 = 3 ∧ _
    rw [counts.opens_iff ready]
    constructor
    · rintro ⟨_, third, fits⟩
      have few := (guarded.few closed).resolve_right (Nat.not_lt.2 fits)
      exact ⟨asks, ⟨relayError, answer⟩, Nat.le_antisymm (Nat.succ_le_succ few) third, fits⟩
    · rintro ⟨_, _, third, fits⟩
      exact ⟨closed, Nat.le_of_eq third.symm, fits⟩

/-- The breaker after any calls to it, and after attempts to connect one after the other. -/
theorem spares_relay (latest : Nat) (acts : List BreakerAct) (now : Nat) (calls : List (Connect T)) (call : Connect T)
    (ordered : (calls ++ [call]).Pairwise fun earlier later => earlier.now ≤ later.now) :
    (called latest acts).Gates latest now ∧ (connected latest calls).Spares latest call := by
  rw [List.pairwise_append] at ordered
  have guarded : (connected latest calls).Guarded latest call.now :=
    guarded_connected latest ordered.1 fun earlier member => ordered.2.2 earlier member call (List.mem_singleton_self call)
  exact ⟨(counts_run latest acts).gates latest now, guarded.spares (Nat.le_refl _)⟩

def unanswered (now : Nat) : Connect Unit := ⟨.error "direct unavailable", .error "relay unavailable", now⟩

theorem spares_relay_thrice :
    (called 1000000000000 [.recordFailure 0]).Gates 1000000000000 1 ∧
      (connected 1000000000000 [unanswered 0, unanswered 1]).Spares 1000000000000 (unanswered 2) :=
  spares_relay 1000000000000 [.recordFailure 0] 1 [unanswered 0, unanswered 1] (unanswered 2) (by simp [unanswered])

/-- Three failures at once, and a fourth that nobody has asked for when the cooldown is over. -/
def fourFailures : List BreakerAct := [.recordFailure 0, .recordFailure 0, .recordFailure 0]

theorem fourth_failure_opens : (called 1000000000000 fourFailures).count = 3 ∧
    Opens RELAY_COOLDOWN (called 1000000000000 fourFailures).breaker
      ((called 1000000000000 fourFailures).breaker.recordFailure 1000000000000 RELAY_COOLDOWN) := by
  decide +kernel

end Circuit

end VibeLink.Remote
