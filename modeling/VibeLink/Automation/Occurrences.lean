import Mathlib.Data.List.Chain
import Mathlib.Order.Bounds.Basic
import VibeLink.Automation.Claims

/-! The occurrences of an interval, and the previews of them (`daemon/automation/schedule.rs`). -/

namespace VibeLink.Automation

open Relational

namespace Schedule

variable (C : Chrono)

def MAX_PREVIEW_OCCURRENCES : Nat := 100

def collectOccurrences (schedule : ParsedSchedule C) : Nat → Nat → Except String (List Nat)
  | 0, _ => .ok []
  | count + 1, cursor => do
    let next ← nextFromSchedule C schedule cursor
    match next with
    | none => return []
    | some next =>
      if next ≤ cursor then .error "schedule engine produced a non-monotonic occurrence"
      else (next :: ·) <$> collectOccurrences schedule count next

def anchoredAt (anchorMs : Nat) : ScheduleKind C → Except String (ScheduleKind C)
  | .interval periodMs _ => do
    let _ ← (millisToUtc C anchorMs).mapError fun _ => "invalid interval anchor"
    return .interval periodMs anchorMs
  | kind => .ok kind

def previewOccurrences (kind value timezone : String) (dtstart : Option Nat) (afterMs count : Nat) :
    Except String (List Nat) :=
  if MAX_PREVIEW_OCCURRENCES < count then
    .error s!"schedule preview count must be at most {MAX_PREVIEW_OCCURRENCES}, got {count}"
  else do
    let schedule ← parseSchedule C kind value timezone
    let kind ← anchoredAt C (dtstart.getD afterMs) schedule.kind
    collectOccurrences C { schedule with kind } count afterMs

def nextOccurrences (record : AutomationRecord) (afterMs count : Nat) : Except String (List Nat) :=
  if MAX_PREVIEW_OCCURRENCES < count then
    .error s!"schedule preview count must be at most {MAX_PREVIEW_OCCURRENCES}, got {count}"
  else do
    let schedule ← parseRecord C record
    collectOccurrences C schedule count afterMs

def Representable (value : Nat) : Prop := millisToUtc C value = .ok value

/-- What `next_interval` is to return. -/
structure NextInterval (anchorMs periodMs afterMs : Nat) : Prop where
  before : afterMs < anchorMs → nextInterval C anchorMs periodMs afterMs = .ok anchorMs
  behind : anchorMs ≤ afterMs → ∃ next, IsLeast {next | afterMs < next ∧ ∃ k, next = anchorMs + k * periodMs} next ∧
    (Representable C next → nextInterval C anchorMs periodMs afterMs = .ok next) ∧
    (¬Representable C next → ∃ message, nextInterval C anchorMs periodMs afterMs = .error message)

def Iterated (anchorMs periodMs afterMs : Nat) (occurrences : List Nat) : Prop :=
  (afterMs :: occurrences).IsChain fun cursor next => nextInterval C anchorMs periodMs cursor = .ok next

variable {C} {anchorMs periodMs afterMs next : Nat}

theorem isLeast_next (positive : 0 < periodMs) (behind : anchorMs ≤ afterMs) :
    IsLeast {next | afterMs < next ∧ ∃ k, next = anchorMs + k * periodMs}
      (anchorMs + periodMs * ((afterMs - anchorMs) / periodMs + 1)) := by
  constructor
  · refine ⟨?_, _, congrArg _ (Nat.mul_comm _ _)⟩
    have later := Nat.lt_mul_div_succ (afterMs - anchorMs) positive
    omega
  · rintro next ⟨later, k, rfl⟩
    have steps : (afterMs - anchorMs) / periodMs < k := by
      apply Nat.div_lt_of_lt_mul
      rw [Nat.mul_comm]
      omega
    rw [Nat.mul_comm k]
    exact Nat.add_le_add_left (Nat.mul_le_mul_left periodMs steps) anchorMs

theorem millisToUtc_cases (C : Chrono) (value : Nat) :
    Representable C value ∧ value ≤ maxInteger ∨
      ¬Representable C value ∧ ∃ message, millisToUtc C value = .error message := by
  unfold Representable millisToUtc
  split
  · exact .inr ⟨nofun, _, rfl⟩
  · rename_i small
    split
    · exact .inl ⟨rfl, Nat.le_of_not_lt small⟩
    · exact .inr ⟨nofun, _, rfl⟩

theorem nextInterval_spec (C : Chrono) (positive : 0 < periodMs) (anchorMs afterMs : Nat) :
    NextInterval C anchorMs periodMs afterMs where
  before before := if_pos before
  behind behind := by
    refine ⟨_, isLeast_next positive behind, ?_⟩
    rw [nextInterval, if_neg (Nat.not_lt.2 behind)]
    dsimp only
    generalize (afterMs - anchorMs) / periodMs + 1 = steps
    have few : steps ≤ periodMs * steps := Nat.le_mul_of_pos_left steps positive
    obtain ⟨there, small⟩ | ⟨absent, message, error⟩ := millisToUtc_cases C (anchorMs + periodMs * steps)
    · rw [if_neg, there]
      · exact ⟨fun _ => rfl, fun absent => absurd there absent⟩
      · rw [maxInteger] at small
        omega
    · refine ⟨fun there => absurd there absent, fun _ => ?_⟩
      split
      · exact ⟨_, rfl⟩
      · rw [error]
        exact ⟨_, rfl⟩

theorem representable_of_nextInterval (anchored : Representable C anchorMs)
    (found : nextInterval C anchorMs periodMs afterMs = .ok next) : Representable C next := by
  unfold nextInterval at found
  split at found
  · cases found
    exact anchored
  · dsimp only at found
    split at found
    · cases found
    · obtain ⟨utc, there, found⟩ := bind_eq_ok.1 found
      cases found
      obtain ⟨there', _⟩ | ⟨_, _, error⟩ := millisToUtc_cases C (anchorMs + periodMs * ((afterMs - anchorMs) / periodMs + 1))
      · exact there'
      · rw [error] at there
        cases there

/-- The loop goes on as long as there are timestamps, and stops with an error where there is none. -/
theorem collectOccurrences_interval {timezone : C.Tz} (anchored : Representable C anchorMs)
    (count : Nat) : ∀ {afterMs : Nat}, Representable C afterMs → ∀ {occurrences : List Nat},
      (collectOccurrences C ⟨timezone, .interval periodMs anchorMs⟩ count afterMs = .ok occurrences ↔
        occurrences.length = count ∧ Iterated C anchorMs periodMs afterMs occurrences) := by
  induction count with
  | zero =>
    intro afterMs there occurrences
    rw [collectOccurrences, List.length_eq_zero_iff]
    constructor
    · rintro ⟨⟩
      exact ⟨rfl, List.isChain_singleton _⟩
    · rintro ⟨rfl, _⟩
      rfl
  | succ count ih =>
    intro afterMs there occurrences
    have step : nextFromSchedule C ⟨timezone, .interval periodMs anchorMs⟩ afterMs =
        (nextInterval C anchorMs periodMs afterMs).map some := by
      rw [nextFromSchedule, there]
      change (nextInterval C anchorMs periodMs afterMs >>= fun next => pure (some next)) = _
      cases nextInterval C anchorMs periodMs afterMs with
      | error message => rfl
      | ok next => rfl
    rw [collectOccurrences, step]
    cases found : nextInterval C anchorMs periodMs afterMs with
    | error message =>
      refine iff_of_false nofun ?_
      rintro ⟨length, chain⟩
      cases occurrences with
      | nil => cases length
      | cons next occurrences =>
        rw [Iterated, List.isChain_cons_cons, found] at chain
        cases chain.1
    | ok next =>
      have later := lt_of_nextInterval found
      have behind := @ih next (representable_of_nextInterval anchored found)
      change (if next ≤ afterMs then _ else (next :: ·) <$> _) = _ ↔ _
      rw [if_neg (Nat.not_le.2 later)]
      constructor
      · intro collected
        obtain ⟨rest, others, same⟩ := map_eq_ok.1 collected
        have iterated := behind.1 others
        rw [← same]
        exact ⟨congrArg Nat.succ iterated.1, List.isChain_cons_cons.2 ⟨found, iterated.2⟩⟩
      · rintro ⟨length, chain⟩
        cases occurrences with
        | nil => cases length
        | cons first occurrences =>
          rw [Iterated, List.isChain_cons_cons] at chain
          cases found.symm.trans chain.1
          exact map_eq_ok.2 ⟨occurrences, behind.2 ⟨Nat.succ.inj length, chain.2⟩, rfl⟩

theorem Iterated.increasing {occurrences : List Nat} (iterated : Iterated C anchorMs periodMs afterMs occurrences) :
    (afterMs :: occurrences).Pairwise (· < ·) :=
  List.isChain_iff_pairwise.1 (iterated.imp fun _ _ found => lt_of_nextInterval found)

/-- The preview returns the first occurrences, each of them later than the one before. -/
def Shows (C : Chrono) (anchorMs periodMs afterMs count : Nat) (preview : Except String (List Nat)) : Prop :=
  ∀ occurrences,
    (preview = .ok occurrences ↔ occurrences.length = count ∧ Iterated C anchorMs periodMs afterMs occurrences) ∧
    (preview = .ok occurrences → (afterMs :: occurrences).Pairwise (· < ·))

theorem shows_interval {timezone : C.Tz} (anchored : Representable C anchorMs) (there : Representable C afterMs)
    (count : Nat) : Shows C anchorMs periodMs afterMs count
      (collectOccurrences C ⟨timezone, .interval periodMs anchorMs⟩ count afterMs) := fun _ =>
  have collected := collectOccurrences_interval anchored count there
  ⟨collected, fun shown => (collected.1 shown).2.increasing⟩

/-- What the previews of an interval are to return, as long as they are not too long. -/
structure Previews (C : Chrono) (anchorMs periodMs afterMs count : Nat) : Prop where
  draft : ∀ (value timezone : String) (tz : C.Tz) (dtstart : Option Nat),
    parseSchedule C "interval" value timezone = .ok ⟨tz, .interval periodMs 0⟩ → dtstart.getD afterMs = anchorMs →
    Shows C anchorMs periodMs afterMs count (previewOccurrences C "interval" value timezone dtstart afterMs count)
  stored : ∀ (record : AutomationRecord) (tz : C.Tz), parseRecord C record = .ok ⟨tz, .interval periodMs anchorMs⟩ →
    Shows C anchorMs periodMs afterMs count (nextOccurrences C record afterMs count)

theorem previews {count : Nat} (anchored : Representable C anchorMs) (there : Representable C afterMs)
    (few : count ≤ MAX_PREVIEW_OCCURRENCES) : Previews C anchorMs periodMs afterMs count where
  draft value timezone tz dtstart parsed anchor := by
    have same : previewOccurrences C "interval" value timezone dtstart afterMs count =
        collectOccurrences C ⟨tz, .interval periodMs anchorMs⟩ count afterMs := by
      rw [previewOccurrences, if_neg (Nat.not_lt.2 few), parsed, anchor]
      change (anchoredAt C anchorMs (.interval periodMs 0) >>= _) = _
      rw [anchoredAt, anchored]
      rfl
    rw [same]
    exact shows_interval anchored there count
  stored record tz parsed := by
    have same : nextOccurrences C record afterMs count =
        collectOccurrences C ⟨tz, .interval periodMs anchorMs⟩ count afterMs := by
      rw [nextOccurrences, if_neg (Nat.not_lt.2 few), parsed]
      rfl
    rw [same]
    exact shows_interval anchored there count

/-- An interval occurs at its anchor and after each period. -/
theorem interval_occurs (C : Chrono) {periodMs : Nat} (positive : 0 < periodMs) (anchorMs afterMs : Nat) :
    NextInterval C anchorMs periodMs afterMs ∧
      (Representable C anchorMs → Representable C afterMs → ∀ count ≤ MAX_PREVIEW_OCCURRENCES,
        Previews C anchorMs periodMs afterMs count) :=
  ⟨nextInterval_spec C positive anchorMs afterMs, fun anchored there _ few => previews anchored there few⟩

theorem seconds_occur : nextInterval universal 0 1000 2000 = .ok 3000 ∧
    NextInterval universal 0 1000 2000 ∧ Previews universal 0 1000 2000 2 :=
  ⟨by decide, (interval_occurs universal (by decide) 0 2000).1,
    (interval_occurs universal (by decide) 0 2000).2 rfl rfl 2 (by decide)⟩

/-- A hundred and one occurrences are too many. -/
theorem long_preview_refused : parseSchedule universal "interval" "1s" "UTC" = .ok ⟨(), .interval 1000 0⟩ ∧
    (∃ occurrences, occurrences.length = 101 ∧ Iterated universal 0 1000 0 occurrences) ∧
    ∀ occurrences, previewOccurrences universal "interval" "1s" "UTC" none 0 101 ≠ .ok occurrences := by
  refine ⟨rfl, ?_, fun _ => nofun⟩
  have there : (collectOccurrences universal ⟨(), .interval 1000 0⟩ 101 0).toOption.isSome = true := by decide +kernel
  cases collected : collectOccurrences universal ⟨(), .interval 1000 0⟩ 101 0 with
  | error message =>
    rw [collected] at there
    cases there
  | ok occurrences =>
    have epoch : Representable universal 0 := rfl
    exact ⟨occurrences, (collectOccurrences_interval epoch 101 epoch).1 collected⟩

end Schedule

end VibeLink.Automation
