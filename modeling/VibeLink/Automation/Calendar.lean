import Mathlib.Data.Nat.Find
import Mathlib.Data.Set.Basic
import VibeLink.Automation.Occurrences
import VibeLink.Relational.Clocks

/-! The occurrences of a calendar: what the search for the next one finds, and where it fails
(`daemon/automation/schedule.rs`). -/

namespace VibeLink.Automation

open Relational

namespace Schedule

/-- The conversions of a timezone agree, its offsets are less than a day, and no gap is longer than 48 hours. -/
structure Regular (C : Chrono) (timezone : C.Tz) : Prop where
  single : ∀ {l t}, C.fromLocal timezone l = .single t → C.toLocal timezone t = l ∧ ∀ u, C.toLocal timezone u = l → u = t
  ambiguous : ∀ {l t t'}, C.fromLocal timezone l = .ambiguous t t' →
    C.toLocal timezone t = l ∧ C.toLocal timezone t' = l ∧ ∀ u, C.toLocal timezone u = l → u = t ∨ u = t'
  missing : ∀ {l}, C.fromLocal timezone l = .none → ∀ u, C.toLocal timezone u ≠ l
  offset : ∀ t, t - 86400000 < C.toLocal timezone t ∧ C.toLocal timezone t < t + 86400000
  gaps : ∀ l, ∃ minutes ≤ MAX_DST_GAP_MINUTES, C.fromLocal timezone (l + minutes * 60000) ≠ .none
  range : ∀ l l', -345600000 ≤ l → l ≤ l' → C.localInRange l' → C.localInRange l

/-- The iterator of `cron` lists the local times that match, from whole minute to whole minute. -/
structure Lists (C : Chrono) (cron : C.Cron) (Matches : Int → Prop) : Prop where
  mem : ∀ start l, l ∈ C.after cron start ↔ Matches l ∧ start < l
  ascending : ∀ start, (C.after cron start).Pairwise (· < ·)
  minutes : ∀ l, Matches l → 60000 ∣ l

/-- A local time stands for its instants, and for those of the first minute behind the gap that it is in. -/
inductive Resolves (C : Chrono) (timezone : C.Tz) : Int → Int → Prop
  | single {l t : Int} : C.fromLocal timezone l = .single t → Resolves C timezone l t
  | first {l t t' : Int} : C.fromLocal timezone l = .ambiguous t t' → Resolves C timezone l t
  | second {l t t' : Int} : C.fromLocal timezone l = .ambiguous t t' → Resolves C timezone l t'
  | gap {l t : Int} : C.fromLocal timezone l = .none → Resolves C timezone (l + 60000) t → Resolves C timezone l t

def LeastAfter (afterMs : Nat) (instants : Set Int) : Option Nat → Prop
  | none => ∀ t ∈ instants, t ≤ afterMs
  | some next => IsLeast {t | t ∈ instants ∧ afterMs < t} next

variable {C : Chrono} {timezone : C.Tz} {l t t' : Int} {afterMs next : Nat}

section Resolving

theorem resolves_single (found : C.fromLocal timezone l = .single t) :
    {u | Resolves C timezone l u} = {t} := by
  ext u
  constructor
  · intro resolves
    cases resolves with
    | single same =>
      cases found.symm.trans same
      rfl
    | first same => cases found.symm.trans same
    | second same => cases found.symm.trans same
    | gap same => cases found.symm.trans same
  · rintro rfl
    exact .single found

theorem resolves_ambiguous (found : C.fromLocal timezone l = .ambiguous t t') :
    {u | Resolves C timezone l u} = {t} ∪ {t'} := by
  ext u
  constructor
  · intro resolves
    cases resolves with
    | single same => cases found.symm.trans same
    | first same =>
      cases found.symm.trans same
      exact .inl rfl
    | second same =>
      cases found.symm.trans same
      exact .inr rfl
    | gap same => cases found.symm.trans same
  · rintro (rfl | rfl)
    · exact .first found
    · exact .second found

theorem resolves_gap (found : C.fromLocal timezone l = .none) :
    {u | Resolves C timezone l u} = {u | Resolves C timezone (l + 60000) u} := by
  ext u
  constructor
  · intro resolves
    cases resolves with
    | single same => cases found.symm.trans same
    | first same => cases found.symm.trans same
    | second same => cases found.symm.trans same
    | gap _ resolves => exact resolves
  · exact .gap found

theorem datetimeToMillis_eq_ok {instant : Nat} : datetimeToMillis t = .ok instant ↔ (instant : Int) = t := by
  unfold datetimeToMillis
  split
  · rw [Except.ok.injEq]
    omega
  · constructor
    · intro error
      cases error
    · omega

def better (best resolved : Option Nat) : Option Nat :=
  resolved.elim best fun resolved => some (best.elim resolved fun current => min current resolved)

theorem LeastAfter.union {instants others : Set Int} {best resolved : Option Nat}
    (least : LeastAfter afterMs instants best) (other : LeastAfter afterMs others resolved) :
    LeastAfter afterMs (instants ∪ others) (better best resolved) := by
  have split : {t : Int | t ∈ instants ∪ others ∧ afterMs < t} =
      {t | t ∈ instants ∧ afterMs < t} ∪ {t | t ∈ others ∧ afterMs < t} := by
    ext t
    exact or_and_right
  have absent {instants : Set Int} (none : LeastAfter afterMs instants none) :
      {t : Int | t ∈ instants ∧ afterMs < t} = ∅ :=
    Set.eq_empty_of_forall_notMem fun t there => absurd (none t there.1) (Int.not_le.2 there.2)
  cases resolved with
  | none =>
    cases best with
    | none => exact fun t there => there.elim (least t) (other t)
    | some current =>
      change IsLeast _ _
      rw [split, absent other, Set.union_empty]
      exact least
  | some resolved =>
    cases best with
    | none =>
      change IsLeast _ _
      rw [split, absent least, Set.empty_union]
      exact other
    | some current =>
      have cast : ((min current resolved : Nat) : Int) = min (current : Int) resolved := by omega
      change IsLeast _ ((min current resolved : Nat) : Int)
      rw [split, cast]
      exact IsLeast.union least other

theorem leastAfter_singleton (afterMs instant : Nat) :
    LeastAfter afterMs {(instant : Int)} (if afterMs < instant then some instant else none) := by
  split
  · rename_i later
    exact ⟨⟨rfl, Int.ofNat_lt.2 later⟩, fun t there => Int.le_of_eq there.1.symm⟩
  · rename_i early
    intro t there
    cases there
    exact Int.ofNat_le.2 (Nat.le_of_not_lt early)

theorem leastAfter_candidateAfter {r : Option Nat} (found : candidateAfter t afterMs = .ok r) :
    LeastAfter afterMs {t} r := by
  obtain ⟨instant, there, found⟩ := bind_eq_ok.1 found
  cases datetimeToMillis_eq_ok.1 there
  cases found
  exact leastAfter_singleton afterMs instant

theorem leastAfter_chooseAfter {r : Option Nat} (found : chooseAfter t t' afterMs = .ok r) :
    LeastAfter afterMs ({t} ∪ {t'}) r := by
  obtain ⟨first, there, rest⟩ := bind_eq_ok.1 found
  obtain ⟨second, there', chosen⟩ := bind_eq_ok.1 rest
  cases datetimeToMillis_eq_ok.1 there
  cases datetimeToMillis_eq_ok.1 there'
  have chosen := Except.ok.inj chosen
  have least := (leastAfter_singleton afterMs first).union (leastAfter_singleton afterMs second)
  have same : ([first, second].filter fun candidate => afterMs < candidate).min? =
      better (if afterMs < first then some first else none) (if afterMs < second then some second else none) := by
    by_cases later : afterMs < first <;> by_cases later' : afterMs < second <;>
      simp [better, later, later']
  rw [← chosen, same]
  exact least

theorem leastAfter_adjustLocalAfter {minutes : Nat} {r : Option Nat}
    (found : adjustLocalAfter C timezone afterMs minutes l = .ok r) :
    LeastAfter afterMs {u | Resolves C timezone (l + 60000) u} r := by
  induction minutes generalizing l with
  | zero => cases found
  | succ minutes ih =>
    rw [adjustLocalAfter] at found
    split at found
    · split at found
      · rename_i single
        rw [resolves_single single]
        exact leastAfter_candidateAfter found
      · rename_i ambiguous
        rw [resolves_ambiguous ambiguous]
        exact leastAfter_chooseAfter found
      · rename_i gap
        rw [resolves_gap gap]
        exact ih found
    · cases found

theorem leastAfter_resolveLocalAfter {r : Option Nat} (found : resolveLocalAfter C timezone l afterMs = .ok r) :
    LeastAfter afterMs {u | Resolves C timezone l u} r := by
  unfold resolveLocalAfter at found
  split at found
  · rename_i single
    rw [resolves_single single]
    exact leastAfter_candidateAfter found
  · rename_i ambiguous
    rw [resolves_ambiguous ambiguous]
    exact leastAfter_chooseAfter found
  · rename_i gap
    rw [resolves_gap gap]
    exact leastAfter_adjustLocalAfter found

/-- The loop finds the first of the instants of a front of the candidates, which reaches behind the cursor. -/
theorem leastAfter_earliest {localCursor : Int} {candidates : List Int} {best r : Option Nat} {instants : Set Int}
    (least : LeastAfter afterMs instants best)
    (found : earliest C timezone localCursor afterMs best candidates = .ok r) :
    ∃ front rest, candidates = front ++ rest ∧
      LeastAfter afterMs (instants ∪ {u | ∃ l ∈ front, Resolves C timezone l u}) r ∧
      (rest ≠ [] → ∃ l ∈ front, localCursor < l) := by
  induction candidates generalizing best instants with
  | nil =>
    cases found
    refine ⟨[], [], rfl, ?_, fun some => absurd rfl some⟩
    simpa using least
  | cons candidate candidates ih =>
    obtain ⟨resolved, resolves, found⟩ := bind_eq_ok.1 found
    have least := least.union (leastAfter_resolveLocalAfter resolves)
    change (if localCursor < candidate ∧ (better best resolved).isSome then _ else _) = _ at found
    split at found
    · rename_i stops
      cases found
      refine ⟨[candidate], candidates, rfl, ?_, fun _ => ⟨candidate, List.mem_singleton_self _, stops.1⟩⟩
      have same : {u | ∃ l ∈ [candidate], Resolves C timezone l u} = {u | Resolves C timezone candidate u} := by
        ext u
        simp
      rw [same]
      exact least
    · obtain ⟨front, rest, rfl, least', reaches⟩ := ih least found
      refine ⟨candidate :: front, rest, rfl, ?_, fun some => ?_⟩
      · have same : instants ∪ {u | ∃ l ∈ candidate :: front, Resolves C timezone l u} =
            instants ∪ {u | Resolves C timezone candidate u} ∪ {u | ∃ l ∈ front, Resolves C timezone l u} := by
          ext u
          simp [or_assoc]
        rw [same]
        exact least'
      · obtain ⟨l, there, behind⟩ := reaches some
        exact ⟨l, List.mem_cons_of_mem _ there, behind⟩

end Resolving

section Searching

variable (regular : Regular C timezone)
include regular

theorem resolves_iff : Resolves C timezone l t ↔
    ∃ k : Nat, C.toLocal timezone t = l + k * 60000 ∧ ∀ j < k, C.fromLocal timezone (l + j * 60000) = .none := by
  constructor
  · intro resolves
    induction resolves with
    | single found => exact ⟨0, by simpa using (regular.single found).1, fun j before => absurd before j.not_lt_zero⟩
    | first found => exact ⟨0, by simpa using (regular.ambiguous found).1, fun j before => absurd before j.not_lt_zero⟩
    | second found =>
      exact ⟨0, by simpa using (regular.ambiguous found).2.1, fun j before => absurd before j.not_lt_zero⟩
    | @gap l t found _ ih =>
      obtain ⟨k, shown, gaps⟩ := ih
      refine ⟨k + 1, by omega, fun j before => ?_⟩
      cases j with
      | zero => simpa using found
      | succ j =>
        have gap := gaps j (Nat.lt_of_succ_lt_succ before)
        rwa [Int.add_assoc, Int.add_comm 60000, show (j : Int) * 60000 + 60000 = ((j + 1 : Nat) : Int) * 60000 by omega]
          at gap
  · rintro ⟨k, shown, gaps⟩
    induction k generalizing l with
    | zero =>
      have shown : C.toLocal timezone t = l := by omega
      cases found : C.fromLocal timezone l with
      | none => exact absurd shown (regular.missing found t)
      | single u =>
        cases (regular.single found).2 t shown
        exact .single found
      | ambiguous u v =>
        cases (regular.ambiguous found).2.2 t shown with
        | inl same =>
          cases same
          exact .first found
        | inr same =>
          cases same
          exact .second found
    | succ k ih =>
      refine .gap (by simpa using gaps 0 (Nat.zero_lt_succ k)) (ih (by omega) fun j before => ?_)
      have gap := gaps (j + 1) (Nat.succ_lt_succ before)
      rwa [show l + ((j + 1 : Nat) : Int) * 60000 = l + 60000 + j * 60000 by omega] at gap

theorem narrow : Clock.Narrow (C.toLocal timezone) 172800000 := by
  intro a b
  have first := regular.offset a
  have second := regular.offset b
  unfold Clock.offset
  omega

theorem shown_of_resolves (resolves : Resolves C timezone l t) :
    ∃ shown, C.toLocal timezone t = shown ∧ l ≤ shown ∧ shown ≤ l + 172800000 ∧
      (l < shown → C.fromLocal timezone l = .none) := by
  obtain ⟨k, shown, gaps⟩ := (resolves_iff regular).1 resolves
  obtain ⟨minutes, few, there⟩ := regular.gaps l
  have le : k ≤ minutes := by
    by_contra less
    exact there (gaps minutes (Nat.lt_of_not_le less))
  refine ⟨_, shown, by omega, ?_, fun ahead => ?_⟩
  · unfold MAX_DST_GAP_MINUTES at few
    omega
  · simpa using gaps 0 (by omega)

theorem exists_first (l : Int) : ∃ k : Nat, (∃ t, C.toLocal timezone t = l + k * 60000) ∧
    ∀ j < k, C.fromLocal timezone (l + j * 60000) = .none := by
  classical
  have some : ∃ k : Nat, C.fromLocal timezone (l + k * 60000) ≠ .none := by
    obtain ⟨minutes, _, there⟩ := regular.gaps l
    exact ⟨minutes, there⟩
  refine ⟨Nat.find some, ?_, fun j before => Decidable.not_not.1 (Nat.find_min some before)⟩
  cases found : C.fromLocal timezone (l + Nat.find some * 60000) with
  | none => exact absurd found (Nat.find_spec some)
  | single t => exact ⟨t, (regular.single found).1⟩
  | ambiguous t t' => exact ⟨t, (regular.ambiguous found).1⟩

variable (apart : Clock.Apart (C.toLocal timezone) 345600000)
include apart

theorem le_of_resolves {now : Int} (behind : l + 172800000 ≤ C.toLocal timezone now)
    (resolves : Resolves C timezone l t) : t ≤ now := by
  obtain ⟨shown, same, le, near, gap⟩ := shown_of_resolves regular resolves
  by_contra later
  have later := Int.not_le.1 later
  by_cases ahead : l < shown
  · obtain ⟨x, there⟩ : ∃ x, C.toLocal timezone x = l :=
      Clock.shows_before (narrow regular) apart later (by omega) (by omega) (by omega)
    exact regular.missing (gap ahead) x there
  · have passed : t ≤ now := Clock.le_of_behind (narrow regular) (by omega)
    omega

theorem resolves_first {now u l' : Int} (minute : 60000 ∣ l) (minute' : 60000 ∣ l')
    (ahead : C.toLocal timezone now < l) (before : l < l') (later : now < u) (resolves : Resolves C timezone l' u) :
    ∃ x, now < x ∧ x ≤ u ∧ Resolves C timezone l x := by
  obtain ⟨m, ⟨a, there⟩, gaps⟩ := exists_first regular l
  have instants (x : Int) (shown : C.toLocal timezone x = l + m * 60000) : Resolves C timezone l x :=
    (resolves_iff regular).2 ⟨m, shown, gaps⟩
  have comes : ∃ b, now < b ∧ C.toLocal timezone b = l + m * 60000 := by
    by_cases past : a ≤ now
    · rw [← there]
      exact Clock.shows_again (narrow regular) apart past (by omega)
    · exact ⟨a, Int.not_le.1 past, there⟩
  have le : l + m * 60000 ≤ C.toLocal timezone u := by
    obtain ⟨k, shown, _⟩ := (resolves_iff regular).1 resolves
    by_contra less
    have gap := gaps ((l' - l).toNat / 60000 + k) (by omega)
    apply regular.missing gap u
    omega
  obtain ⟨b, behind, shown⟩ := comes
  by_cases early : b ≤ u
  · exact ⟨b, behind, early, instants b shown⟩
  · obtain ⟨x, after, le, shown⟩ :=
      Clock.shows_first (narrow regular) apart later (by omega) le (Int.not_le.1 early) shown
    exact ⟨x, after, le, instants x shown⟩

end Searching

section Calendar

variable (C) in
def localCursor (timezone : C.Tz) (afterMs : Nat) : Int := C.toLocal timezone afterMs / 1000 * 1000

variable (C) in
def searched (cron : C.Cron) (timezone : C.Tz) (afterMs : Nat) : List Int :=
  let lookback := localCursor C timezone afterMs - DST_LOOKBACK_HOURS * 3600000
  C.after cron (if C.localInRange lookback then lookback else localCursor C timezone afterMs)

theorem nextCalendar_eq_ok {cron : C.Cron} {r : Option Nat} :
    nextCalendar C cron timezone afterMs = .ok r ↔
      Representable C afterMs ∧ C.localInRange (C.toLocal timezone afterMs) = true ∧
        earliest C timezone (localCursor C timezone afterMs) afterMs none (searched C cron timezone afterMs) = .ok r := by
  constructor
  · intro found
    obtain ⟨utc, there, found⟩ := bind_eq_ok.1 found
    have same : utc = afterMs := by
      unfold millisToUtc at there
      split at there
      · cases there
      · split at there
        · exact (Except.ok.inj there).symm
        · cases there
    subst same
    obtain ⟨shown, inRange, found⟩ := bind_eq_ok.1 found
    unfold naiveLocal at inRange
    split at inRange
    · rename_i inside
      cases inRange
      exact ⟨there, inside, found⟩
    · cases inRange
  · rintro ⟨there, inside, found⟩
    refine bind_eq_ok.2 ⟨afterMs, there, bind_eq_ok.2 ⟨C.toLocal timezone afterMs, if_pos inside, found⟩⟩

end Calendar

/-! The search fails at a local time that it cannot resolve, unless it has stopped before. -/

section Failing

def Positive : LocalResult → Prop
  | .none => False
  | .single t => 0 ≤ t
  | .ambiguous t t' => 0 ≤ t ∧ 0 ≤ t'

variable (C) in
/-- The gap of the local time ends within the minutes, and its instants do not lie before the epoch. -/
def ResolvableWithin (timezone : C.Tz) (minutes : Nat) (l : Int) : Prop :=
  ∃ k ≤ minutes, (∀ j < k, C.fromLocal timezone (l + j * 60000) = .none ∧ C.localInRange (l + (j + 1) * 60000) = true) ∧
    Positive (C.fromLocal timezone (l + k * 60000))

variable (C) in
def Resolvable (timezone : C.Tz) (l : Int) : Prop := ResolvableWithin C timezone MAX_DST_GAP_MINUTES l

variable (C) in
def Hits (timezone : C.Tz) (afterMs : Nat) (l : Int) : Prop := ∃ t, Resolves C timezone l t ∧ afterMs < t

variable (C) in
/-- The search stops within these local times: it comes behind the cursor's second, and has a hit by then. -/
def Stops (timezone : C.Tz) (afterMs : Nat) (cursor : Int) (hit : Bool) (front : List Int) : Prop :=
  ∃ before candidate between, front = before ++ candidate :: between ∧ cursor < candidate ∧
    (hit ∨ ∃ l ∈ before ++ [candidate], Hits C timezone afterMs l)

theorem candidateAfter_ok_iff : (∃ r, candidateAfter t afterMs = .ok r) ↔ 0 ≤ t := by
  constructor
  · rintro ⟨r, found⟩
    obtain ⟨instant, there, _⟩ := bind_eq_ok.1 found
    have same := datetimeToMillis_eq_ok.1 there
    omega
  · intro positive
    exact ⟨_, bind_eq_ok.2 ⟨t.toNat, if_pos positive, rfl⟩⟩

theorem chooseAfter_ok_iff : (∃ r, chooseAfter t t' afterMs = .ok r) ↔ 0 ≤ t ∧ 0 ≤ t' := by
  constructor
  · rintro ⟨r, found⟩
    obtain ⟨first, there, rest⟩ := bind_eq_ok.1 found
    obtain ⟨second, there', _⟩ := bind_eq_ok.1 rest
    have same := datetimeToMillis_eq_ok.1 there
    have same' := datetimeToMillis_eq_ok.1 there'
    omega
  · rintro ⟨positive, positive'⟩
    exact ⟨_, bind_eq_ok.2 ⟨t.toNat, if_pos positive, bind_eq_ok.2 ⟨t'.toNat, if_pos positive', rfl⟩⟩⟩

theorem resolvableWithin_of_some {minutes : Nat} (some : C.fromLocal timezone l ≠ .none) :
    ResolvableWithin C timezone minutes l ↔ Positive (C.fromLocal timezone l) := by
  constructor
  · rintro ⟨k, _, gaps, positive⟩
    cases k with
    | zero => simpa using positive
    | succ k => exact absurd (by simpa using (gaps 0 k.zero_lt_succ).1) some
  · intro positive
    exact ⟨0, minutes.zero_le, fun j before => absurd before j.not_lt_zero, by simpa using positive⟩

theorem not_resolvableWithin_zero (none : C.fromLocal timezone l = .none) : ¬ResolvableWithin C timezone 0 l := by
  rintro ⟨k, le, _, positive⟩
  cases Nat.le_zero.1 le
  simp [none, Positive] at positive

theorem resolvableWithin_succ {minutes : Nat} (none : C.fromLocal timezone l = .none) :
    ResolvableWithin C timezone (minutes + 1) l ↔
      C.localInRange (l + 60000) = true ∧ ResolvableWithin C timezone minutes (l + 60000) := by
  have shift (j : Nat) : l + 60000 + j * 60000 = l + (j + 1 : Nat) * 60000 := by omega
  constructor
  · rintro ⟨k, le, gaps, positive⟩
    cases k with
    | zero => simp [none, Positive] at positive
    | succ k =>
      refine ⟨by simpa using (gaps 0 k.zero_lt_succ).2, k, Nat.le_of_succ_le_succ le, fun j before => ?_, ?_⟩
      · have gap := gaps (j + 1) (Nat.succ_lt_succ before)
        rw [shift]
        exact ⟨gap.1, by have inside := gap.2; rwa [show l + 60000 + (j + 1) * 60000 = l + ((j + 1 : Nat) + 1) * 60000 by omega]⟩
      · rwa [shift]
  · rintro ⟨inside, k, le, gaps, positive⟩
    refine ⟨k + 1, Nat.succ_le_succ le, fun j before => ?_, ?_⟩
    · cases j with
      | zero => exact ⟨by simpa using none, by simpa using inside⟩
      | succ j =>
        have gap := gaps j (Nat.lt_of_succ_lt_succ before)
        rw [shift] at gap
        exact ⟨gap.1, by have inside := gap.2; rwa [show l + 60000 + (j + 1) * 60000 = l + ((j + 1 : Nat) + 1) * 60000 by omega] at inside⟩
    · rwa [shift] at positive

theorem adjustLocalAfter_ok_iff {minutes : Nat} (none : C.fromLocal timezone l = .none) :
    (∃ r, adjustLocalAfter C timezone afterMs minutes l = .ok r) ↔ ResolvableWithin C timezone minutes l := by
  induction minutes generalizing l with
  | zero =>
    refine iff_of_false ?_ (not_resolvableWithin_zero none)
    rintro ⟨r, found⟩
    cases found
  | succ minutes ih =>
    rw [resolvableWithin_succ none, adjustLocalAfter]
    split
    · rename_i inside
      rw [and_iff_right inside]
      cases found : C.fromLocal timezone (l + 60000) with
      | none => exact ih found
      | single t =>
        rw [resolvableWithin_of_some (by rw [found]; intro absent; cases absent), found]
        exact candidateAfter_ok_iff
      | ambiguous t t' =>
        rw [resolvableWithin_of_some (by rw [found]; intro absent; cases absent), found]
        exact chooseAfter_ok_iff
    · rename_i outside
      refine iff_of_false ?_ fun inside => outside inside.1
      rintro ⟨r, found⟩
      cases found

theorem resolveLocalAfter_ok_iff : (∃ r, resolveLocalAfter C timezone l afterMs = .ok r) ↔ Resolvable C timezone l := by
  unfold resolveLocalAfter Resolvable
  cases found : C.fromLocal timezone l with
  | none => exact adjustLocalAfter_ok_iff found
  | single t =>
    rw [resolvableWithin_of_some (by rw [found]; intro absent; cases absent), found]
    exact candidateAfter_ok_iff
  | ambiguous t t' =>
    rw [resolvableWithin_of_some (by rw [found]; intro absent; cases absent), found]
    exact chooseAfter_ok_iff

theorem isSome_iff_hits {r : Option Nat} (found : resolveLocalAfter C timezone l afterMs = .ok r) :
    r.isSome ↔ Hits C timezone afterMs l := by
  have least := leastAfter_resolveLocalAfter found
  cases r with
  | none =>
    refine iff_of_false nofun ?_
    rintro ⟨t, resolves, later⟩
    exact Int.not_le.2 later (least t resolves)
  | some next => exact iff_of_true rfl ⟨next, least.1⟩

theorem isSome_better (best resolved : Option Nat) : (better best resolved).isSome = (best.isSome || resolved.isSome) := by
  cases best <;> cases resolved <;> rfl

theorem not_stops_nil {cursor : Int} {hit : Bool} : ¬Stops C timezone afterMs cursor hit [] := by
  rintro ⟨before, candidate, between, split, _⟩
  simp at split

theorem stops_cons {cursor candidate : Int} {hit hits : Bool} {front : List Int}
    (same : hits = true ↔ Hits C timezone afterMs candidate) :
    Stops C timezone afterMs cursor hit (candidate :: front) ↔
      cursor < candidate ∧ (hit || hits) = true ∨ Stops C timezone afterMs cursor (hit || hits) front := by
  constructor
  · rintro ⟨before, stop, between, split, behind, hit⟩
    cases before with
    | nil =>
      cases split
      left
      simpa [same] using And.intro behind hit
    | cons first before =>
      cases split
      right
      refine ⟨before, stop, between, rfl, behind, ?_⟩
      simpa [same, or_assoc] using hit
  · rintro (⟨behind, hit⟩ | ⟨before, stop, between, rfl, behind, hit⟩)
    · refine ⟨[], candidate, front, rfl, behind, ?_⟩
      simpa [same] using hit
    · refine ⟨candidate :: before, stop, between, rfl, behind, ?_⟩
      simpa [same, or_assoc] using hit

theorem earliest_ok_iff {cursor : Int} {candidates : List Int} {best : Option Nat} :
    (∃ r, earliest C timezone cursor afterMs best candidates = .ok r) ↔
      ∀ front failing rest, candidates = front ++ failing :: rest → ¬Resolvable C timezone failing →
        Stops C timezone afterMs cursor best.isSome front := by
  induction candidates generalizing best with
  | nil =>
    refine iff_of_true ⟨best, rfl⟩ fun front failing rest split => ?_
    simp at split
  | cons candidate candidates ih =>
    by_cases resolvable : Resolvable C timezone candidate
    · obtain ⟨resolved, found⟩ : ∃ r, resolveLocalAfter C timezone candidate afterMs = .ok r :=
        resolveLocalAfter_ok_iff.2 resolvable
      have hits := isSome_iff_hits found
      have step : earliest C timezone cursor afterMs best (candidate :: candidates) =
          if cursor < candidate ∧ (better best resolved).isSome then .ok (better best resolved)
          else earliest C timezone cursor afterMs (better best resolved) candidates := by
        rw [earliest, found]
        rfl
      have behind : (∀ front failing rest, candidate :: candidates = front ++ failing :: rest →
            ¬Resolvable C timezone failing → Stops C timezone afterMs cursor best.isSome front) ↔
          ∀ front failing rest, candidates = front ++ failing :: rest → ¬Resolvable C timezone failing →
            Stops C timezone afterMs cursor best.isSome (candidate :: front) := by
        constructor
        · intro stops front failing rest split
          exact stops (candidate :: front) failing rest (congrArg (candidate :: ·) split)
        · intro stops front failing rest split fails
          cases front with
          | nil =>
            cases split
            exact absurd resolvable fails
          | cons first front =>
            cases split
            exact stops front failing rest rfl fails
      rw [step, behind]
      split
      · rename_i done
        refine iff_of_true ⟨_, rfl⟩ fun front failing rest split fails => (stops_cons hits).2 (.inl ?_)
        rwa [isSome_better] at done
      · rename_i goes
        rw [ih]
        refine forall_congr' fun front => forall_congr' fun failing => forall_congr' fun rest =>
          imp_congr_right fun split => imp_congr_right fun fails => ?_
        rw [stops_cons hits, isSome_better, or_iff_right]
        rwa [isSome_better] at goes
    · refine iff_of_false ?_ fun stops => not_stops_nil (stops [] candidate candidates rfl resolvable)
      rintro ⟨r, found⟩
      obtain ⟨resolved, found, _⟩ := bind_eq_ok.1 found
      exact resolvable (resolveLocalAfter_ok_iff.1 ⟨resolved, found⟩)

variable (C) in
def Computes (cron : C.Cron) (timezone : C.Tz) (afterMs : Nat) : Prop :=
  (∃ r, nextCalendar C cron timezone afterMs = .ok r) ∨
    ∃ t : Int, IsLeast {t : Int | (∃ start, ∃ l ∈ C.after cron start, Resolves C timezone l t) ∧ afterMs < t} t ∧
      ¬(C.inRange t = true ∧ t ≤ maxInteger)

/-- The search fails when the cursor's local time is out of range, or when it comes to a local time whose instants lie
before the epoch, or cannot be found, before it stops. -/
theorem computes_iff {cron : C.Cron} (accepted : Representable C afterMs)
    (instants : ∀ start, ∀ l ∈ C.after cron start, ∀ t, Resolves C timezone l t → C.inRange t = true ∧ t ≤ maxInteger) :
    Computes C cron timezone afterMs ↔ C.localInRange (C.toLocal timezone afterMs) = true ∧
      ∀ front failing rest, searched C cron timezone afterMs = front ++ failing :: rest →
        ¬Resolvable C timezone failing → Stops C timezone afterMs (localCursor C timezone afterMs) false front := by
  have there : Computes C cron timezone afterMs ↔ ∃ r, nextCalendar C cron timezone afterMs = .ok r := by
    refine or_iff_left ?_
    rintro ⟨t, ⟨⟨⟨start, l, listed, resolves⟩, _⟩, _⟩, absent⟩
    exact absent (instants start l listed t resolves)
  rw [there, ← Option.isSome_none (α := Nat), ← earliest_ok_iff]
  simp only [nextCalendar_eq_ok, accepted, true_and, exists_and_left]

end Failing

/-- A timezone that is ahead of the universal time from one instant to another, and a list of local times. -/
def summer (begins ends ahead : Int) (matching : List Int) : Chrono where
  Tz := Unit
  Cron := Unit
  parseTimezone _ := some ()
  parseCron _ := some ()
  parseInstant _ := none
  parseLocal _ := none
  inRange _ := true
  localInRange _ := true
  toLocal _ instant := if begins ≤ instant ∧ instant < ends then instant + ahead else instant
  fromLocal _ l :=
    if begins ≤ l ∧ l < ends then
      if begins ≤ l - ahead ∧ l - ahead < ends then .single (l - ahead) else .none
    else if begins ≤ l - ahead ∧ l - ahead < ends then .ambiguous (l - ahead) l else .single l
  after _ start := matching.filter (start < ·)

theorem summer_regular {begins ends ahead : Int} (matching : List Int) (short : ends ≤ begins + 86400000)
    (positive : 0 ≤ ahead) (small : ahead < 86400000) : Regular (summer begins ends ahead matching) () where
  single {l t} found := by
    dsimp only [summer] at found ⊢
    split at found <;> split at found <;> cases found
    · exact ⟨by split <;> omega, fun u => by split <;> omega⟩
    · exact ⟨by split <;> omega, fun u => by split <;> omega⟩
  ambiguous {l t t'} found := by
    dsimp only [summer] at found ⊢
    split at found <;> split at found <;> cases found
    exact ⟨by split <;> omega, by split <;> omega, fun u => by split <;> omega⟩
  missing {l} found u := by
    dsimp only [summer] at found ⊢
    split at found <;> split at found <;> cases found
    split <;> omega
  offset t := by
    dsimp only [summer]
    split <;> omega
  gaps l := by
    dsimp only [summer]
    by_cases gap : begins ≤ l ∧ l < ends
    · refine ⟨1440, by decide, ?_⟩
      rw [if_neg (by omega)]
      split <;> exact nofun
    · refine ⟨0, Nat.zero_le _, ?_⟩
      rw [if_neg (by omega)]
      split <;> exact nofun
  range _ _ _ _ _ := rfl

theorem summer_lists {begins ends ahead : Int} {matching : List Int} (ascending : matching.Pairwise (· < ·))
    (minutes : ∀ l ∈ matching, 60000 ∣ l) : Lists (summer begins ends ahead matching) () (· ∈ matching) where
  mem start l := by simp [summer]
  ascending start := ascending.filter _
  minutes := minutes

/-- In a timezone nine hours ahead, half past midnight of the first day lies before the epoch. -/
theorem epoch_refused :
    let zone := summer (-1000000000000) 1000000000000 32400000 [1800000, 88200000]
    parseSchedule zone "daily" "00:30" "Asia/Seoul" = .ok ⟨(), .calendar ()⟩ ∧ Representable zone 0 ∧
      ¬Computes zone () () 0 := by
  refine ⟨rfl, rfl, ?_⟩
  rintro (⟨r, found⟩ | ⟨t, least, absent⟩)
  · have fails : (nextCalendar (summer (-1000000000000) 1000000000000 32400000 [1800000, 88200000]) () () 0).toBool =
        false := by decide +kernel
    rw [found] at fails
    cases fails
  · have soon := @least.2 55800000 ⟨⟨0, 88200000, by decide, .single rfl⟩, by decide⟩
    exact absent ⟨rfl, Int.le_trans soon (by decide)⟩

theorem daily_computes :
    let zone := summer 0 0 0 [90000000, 176400000]
    Computes zone () () 100000000 ↔ zone.localInRange 100000000 = true ∧
      ∀ front failing rest, searched zone () () 100000000 = front ++ failing :: rest → ¬Resolvable zone () failing →
        Stops zone () 100000000 (localCursor zone () 100000000) false front := by
  refine computes_iff rfl fun start l listed t resolves => ⟨rfl, ?_⟩
  have same : t = l := by
    have alone : (summer 0 0 0 [90000000, 176400000]).fromLocal () l = .single l := by
      dsimp only [summer]
      rw [if_neg (by omega), if_neg (by omega)]
    rw [← Set.mem_singleton_iff, ← resolves_single alone]
    exact resolves
  have there := (List.mem_filter.1 listed).1
  rw [same]
  simp only [List.mem_cons, List.not_mem_nil, or_false] at there
  obtain rfl | rfl := there <;> decide

end Schedule

end VibeLink.Automation
