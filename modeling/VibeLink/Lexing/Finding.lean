import Mathlib.Data.List.Infix
import Mathlib.Tactic.Common
import Mathlib.Data.List.DropRight

/-! The first place in a text where another one stands. -/

universe u

namespace VibeLink.Lexing

variable {α : Type u} [DecidableEq α] {part text more : List α} {n : Nat}

def indexOf (part : List α) : List α → Option Nat
  | [] => if part.isEmpty then some 0 else none
  | c :: rest => if part <+: c :: rest then some 0 else (indexOf part rest).map (· + 1)

theorem indexOf_eq_some : indexOf part text = some n ↔
    part <+: text.drop n ∧ n ≤ text.length ∧ ∀ m < n, ¬part <+: text.drop m := by
  induction text generalizing n with
  | nil =>
    rw [indexOf]
    split
    · rename_i empty
      rw [List.isEmpty_iff.mp empty, Option.some.injEq]
      constructor
      · rintro rfl
        simp
      · intro ⟨_, le, _⟩
        exact (Nat.le_zero.mp le).symm
    · rename_i some
      refine iff_of_false nofun fun ⟨here, _⟩ => some ?_
      rw [List.drop_nil, List.prefix_nil] at here
      rw [here, List.isEmpty_nil]
  | cons c rest ih =>
    rw [indexOf]
    split
    · rename_i here
      rw [Option.some.injEq]
      constructor
      · rintro rfl
        exact ⟨here, Nat.zero_le _, fun _ lt => absurd lt (Nat.not_lt_zero _)⟩
      · intro ⟨_, _, first⟩
        by_contra later
        exact first 0 (Nat.pos_of_ne_zero (Ne.symm later)) here
    · rename_i later
      rw [Option.map_eq_some_iff]
      constructor
      · rintro ⟨m, found, rfl⟩
        have ⟨here, le, first⟩ := ih.mp found
        refine ⟨here, Nat.succ_le_succ le, fun k lt => ?_⟩
        cases k with
        | zero => exact later
        | succ k => exact first k (Nat.lt_of_succ_lt_succ lt)
      · intro ⟨here, le, first⟩
        cases n with
        | zero => exact absurd here later
        | succ n =>
          exact ⟨n, ih.mpr ⟨here, Nat.le_of_succ_le_succ le, fun k lt => first (k + 1) (Nat.succ_lt_succ lt)⟩, rfl⟩

omit [DecidableEq α] in
theorem prefix_of_append_cons {c : α} (absent : c ∉ part) (here : part <+: text ++ c :: more) : part <+: text := by
  induction text generalizing part with
  | nil =>
    cases part with
    | nil => exact List.nil_prefix
    | cons d part => exact absurd ((List.cons_prefix_cons.mp here).1 ▸ List.mem_cons_self) absent
  | cons d text ih =>
    cases part with
    | nil => exact List.nil_prefix
    | cons e part =>
      have ⟨same, rest⟩ := List.cons_prefix_cons.mp here
      exact List.cons_prefix_cons.mpr ⟨same, ih (List.not_mem_of_not_mem_cons absent) rest⟩

omit [DecidableEq α] in
theorem infix_append_cons {c : α} (absent : c ∉ part) :
    part <:+: text ++ c :: more ↔ part <:+: text ∨ part <:+: more := by
  constructor
  · intro inside
    induction text with
    | nil =>
      cases List.infix_cons_iff.mp inside with
      | inl here =>
        cases part with
        | nil => exact .inl (List.nil_infix)
        | cons d part => exact absurd ((List.cons_prefix_cons.mp here).1 ▸ List.mem_cons_self) absent
      | inr later => exact .inr later
    | cons d text ih =>
      cases List.infix_cons_iff.mp inside with
      | inl here =>
        have here : part <+: (d :: text) ++ c :: more := here
        exact .inl (prefix_of_append_cons absent here).isInfix
      | inr later =>
        cases ih later with
        | inl left => exact .inl (left.trans (List.suffix_cons d text).isInfix)
        | inr right => exact .inr right
  · intro either
    cases either with
    | inl left => exact left.trans (List.prefix_append _ _).isInfix
    | inr right => exact right.trans ((List.suffix_cons c more).trans (List.suffix_append _ _)).isInfix

theorem indexOf_self (part rest : List α) : indexOf part (part ++ rest) = some 0 :=
  indexOf_eq_some.mpr ⟨List.prefix_append _ _, Nat.zero_le _, fun _ lt => absurd lt (Nat.not_lt_zero _)⟩

end VibeLink.Lexing

/-! The last elements of a list that grows at its end. -/

namespace VibeLink.Lexing

variable {α : Type u} {n : Nat} {xs ys : List α}

theorem length_rtake (n : Nat) (xs : List α) : (xs.rtake n).length = min n xs.length := by
  rw [List.rtake, List.length_drop]
  omega

theorem rtake_suffix (n : Nat) (xs : List α) : xs.rtake n <:+ xs := List.drop_suffix _ _

theorem rtake_of_length_le (le : xs.length ≤ n) : xs.rtake n = xs := by
  rw [List.rtake, Nat.sub_eq_zero_of_le le, List.drop_zero]

theorem rtake_append_of_le (front : List α) (le : n ≤ xs.length) : (front ++ xs).rtake n = xs.rtake n := by
  have length : (front ++ xs).length - n = front.length + (xs.length - n) := by
    rw [List.length_append]
    omega
  rw [List.rtake, length, List.drop_length_add_append]
  rfl

theorem rtake_append_rtake (n : Nat) (xs ys : List α) : (xs.rtake n ++ ys).rtake n = (xs ++ ys).rtake n := by
  cases Nat.le_total xs.length n with
  | inl short => rw [rtake_of_length_le short]
  | inr long =>
    obtain ⟨front, same⟩ := rtake_suffix n xs
    have le : n ≤ (xs.rtake n ++ ys).length := by
      rw [List.length_append, length_rtake, Nat.min_eq_left long]
      exact Nat.le_add_right _ _
    calc
      (xs.rtake n ++ ys).rtake n = (front ++ (xs.rtake n ++ ys)).rtake n := (rtake_append_of_le front le).symm
      _ = (xs ++ ys).rtake n := by rw [← List.append_assoc, same]

end VibeLink.Lexing
