import Mathlib.Tactic.Common

/-! A clock that is set forward and back now and then, and the times that it shows again or never. -/

namespace VibeLink.Relational

abbrev Clock := Int → Int

namespace Clock

def offset (clock : Clock) (t : Int) : Int := clock t - t

def Narrow (clock : Clock) (width : Int) : Prop := ∀ a b, clock.offset a - clock.offset b < width

def Apart (clock : Clock) (width : Int) : Prop :=
  ∀ start, ∃ set, ∀ a b, start ≤ a → a < start + width → start ≤ b → b < start + width →
    (a < set ↔ b < set) → clock.offset a = clock.offset b

variable {clock : Clock} {width a b c now later shown : Int}

theorem Apart.before (apart : clock.Apart width) (ab : a ≤ b) (bc : b ≤ c) (near : c < a + width)
    (moves : clock.offset b ≠ clock.offset c) : clock.offset a = clock.offset b := by
  obtain ⟨set, same⟩ := apart a
  by_cases behind : b < set
  · exact same a b (by omega) (by omega) (by omega) (by omega) (by omega)
  · exact absurd (same b c (by omega) (by omega) (by omega) (by omega) (by omega)) moves

theorem Apart.behind (apart : clock.Apart width) (ab : a ≤ b) (bc : b ≤ c) (near : c < a + width)
    (moves : clock.offset a ≠ clock.offset b) : clock.offset b = clock.offset c := by
  obtain ⟨set, same⟩ := apart a
  by_cases behind : b < set
  · exact absurd (same a b (by omega) (by omega) (by omega) (by omega) (by omega)) moves
  · exact same b c (by omega) (by omega) (by omega) (by omega) (by omega)

theorem le_of_behind (narrow : clock.Narrow width) (behind : clock b + width ≤ clock now) : b ≤ now := by
  have near := narrow now b
  unfold offset at near
  omega

section Settings

variable (narrow : clock.Narrow width) (apart : clock.Apart (width + width))
include narrow apart

theorem shows_again (before : a ≤ now) (ahead : clock now < clock a) : ∃ b, now < b ∧ clock b = clock a := by
  have near := narrow a now
  have wide := narrow a a
  have moves : clock.offset a ≠ clock.offset now := by
    unfold offset
    omega
  have same := apart.behind (c := now + (clock a - clock now)) before (by omega) (by unfold offset at near wide; omega) moves
  refine ⟨now + (clock a - clock now), by omega, ?_⟩
  unfold offset at same
  omega

theorem shows_first (after : now < b) (ahead : clock now < shown) (le : shown ≤ clock b) (before : b < c)
    (comes : clock c = shown) : ∃ x, now < x ∧ x ≤ b ∧ clock x = shown := by
  have near := narrow b c
  have wide := narrow b b
  cases Int.lt_or_eq_of_le le with
  | inr same => exact ⟨b, after, Int.le_refl b, same.symm⟩
  | inl past =>
    have moves : clock.offset b ≠ clock.offset c := by
      unfold offset
      omega
    have same := apart.before (a := b - (clock b - shown)) (by omega) (Int.le_of_lt before)
      (by unfold offset at near wide; omega) moves
    have there : clock (b - (clock b - shown)) = shown := by
      unfold offset at same
      omega
    refine ⟨b - (clock b - shown), ?_, by omega, there⟩
    by_contra early
    have unmoved := apart.before (Int.le_of_lt after) (Int.le_of_lt before) (by unfold offset at near wide; omega) moves
    unfold offset at unmoved
    omega

theorem shows_before (after : now < later) (back : clock later ≤ clock now) (le : shown ≤ clock later)
    (recent : clock later - width ≤ shown) : ∃ x, clock x = shown := by
  have near := narrow now later
  have wide := narrow now now
  have moves : clock.offset now ≠ clock.offset later := by
    unfold offset
    omega
  have same := apart.before (a := now - (clock now - shown)) (by omega) (Int.le_of_lt after)
    (by unfold offset at near wide; omega) moves
  refine ⟨now - (clock now - shown), ?_⟩
  unfold offset at same
  omega

end Settings

end Clock

end VibeLink.Relational
