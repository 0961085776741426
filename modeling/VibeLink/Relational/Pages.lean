import VibeLink.Relational.Table
import Mathlib.Order.Basic

/-! Reading an ordered log page by page, from a cursor on. -/

universe u v

namespace VibeLink.Relational

variable {α : Type u} {κ : Type v} [LinearOrder κ] {key : α → κ} {log xs ys : List α} {c d : κ}
  {a e : α}

def Ascending (key : α → κ) (log : List α) : Prop := log.Pairwise fun a b => key a < key b

def past (key : α → κ) (log : List α) (c : κ) : List α := log.filter fun a => decide (c < key a)

@[simp] theorem mem_past : a ∈ past key log c ↔ a ∈ log ∧ c < key a := by simp [past]

theorem past_past (h : c ≤ d) : past key (past key log c) d = past key log d := by
  simp only [past, List.filter_filter]
  apply List.filter_congr
  intro a _
  rw [← Bool.decide_and, decide_eq_decide]
  exact ⟨And.left, fun hd => ⟨hd, h.trans_lt hd⟩⟩

theorem past_eq_nil : past key log c = [] ↔ ∀ a ∈ log, key a ≤ c := by simp [past]

theorem Ascending.filter (h : Ascending key log) (c : κ) : Ascending key (past key log c) :=
  List.Pairwise.filter _ h

namespace Ascending

theorem orderBy (h : Ascending key log) :
    orderBy (fun a b => decide (key a ≤ key b)) log = log := by
  have le : log.Pairwise fun a b => (decide (key a ≤ key b) : Prop) := h.imp fun hab => by
    simpa using hab.le
  exact List.Pairwise.insertionSort_eq le

theorem past_entry (h : Ascending key (xs ++ e :: ys)) :
    past key (xs ++ e :: ys) (key e) = ys := by
  obtain ⟨_, later, before⟩ := List.pairwise_append.1 h
  have hys : ∀ a ∈ ys, key e < key a := (List.pairwise_cons.1 later).1
  have hxs : ∀ a ∈ xs, ¬key e < key a := fun a ha =>
    (before a ha e List.mem_cons_self).not_gt
  simp only [past, List.filter_append, List.filter_cons, lt_irrefl]
  rw [List.filter_eq_nil_iff.2 (by simpa using hxs), List.filter_eq_self.2 (by simpa using hys)]
  rfl

theorem past_last (h : Ascending key log) {n : Nat}
    (last : ((past key log c).take n).getLast? = some e) :
    past key log (key e) = (past key log c).drop n := by
  obtain ⟨init, split⟩ := List.getLast?_eq_some_iff.1 last
  have member : e ∈ past key log c :=
    List.mem_of_mem_take (by rw [split]; simp)
  have whole : past key log c =
      init ++ e :: (past key log c).drop n := by
    calc past key log c
        = (past key log c).take n ++ (past key log c).drop n :=
          (List.take_append_drop n _).symm
      _ = init ++ e :: (past key log c).drop n := by rw [split]; simp
  have ascends := h.filter c
  rw [← past_past (mem_past.1 member).2.le]
  rw [whole] at ascends
  conv_lhs => rw [whole]
  exact ascends.past_entry

end Ascending

theorem lt_foldl_max {ns : List κ} : c < ns.foldl max d ↔ c < d ∨ ∃ n ∈ ns, c < n := by
  induction ns generalizing d with
  | nil => simp
  | cons n ns ih => simp [ih, or_assoc]

section FirstPage

omit [LinearOrder κ]

/-- Among sorted rows the first `n` are those that fewer than `n` rows come before. -/
theorem mem_take_of_pairwise {le : α → α → Bool} {rows : List α} (refl : ∀ a, le a a) (sorted : rows.Pairwise fun a b => le a b)
    (strict : rows.Pairwise fun a b => ¬le b a) {a : α} (member : a ∈ rows) (n : Nat) :
    a ∈ rows.take n ↔ rows.countP (fun b => !le a b) < n := by
  induction rows generalizing n with
  | nil => cases member
  | cons first rest ih =>
    rw [List.pairwise_cons] at sorted strict
    cases n with
    | zero => simp
    | succ n =>
      rw [List.take_succ_cons, List.mem_cons]
      cases List.mem_cons.1 member with
      | inl here =>
        subst here
        have none : (a :: rest).countP (fun b => !le a b) = 0 := by
          rw [List.countP_eq_zero]
          intro b inside
          cases List.mem_cons.1 inside with
          | inl same => simp [same, refl]
          | inr later => simp [sorted.1 b later]
        simp [none]
      | inr later =>
        have ne : a ≠ first := by
          rintro rfl
          exact strict.1 a later (refl a)
        have before : (!le a first) = true := by simpa using strict.1 a later
        rw [List.countP_cons_of_pos (p := fun b => !le a b) before, Nat.add_lt_add_iff_right, ← ih sorted.2 strict.2 later n]
        simp [ne]

/-- The first `n` rows of an order that tells them apart. -/
theorem mem_take_orderBy {le : α → α → Bool} (total : ∀ a b, le a b ∨ le b a)
    (trans : ∀ a b c, le a b → le b c → le a c) {rows : List α} (nodup : rows.Nodup)
    (antisymm : ∀ a ∈ rows, ∀ b ∈ rows, le a b → le b a → a = b) {a : α} (member : a ∈ rows) (n : Nat) :
    a ∈ (orderBy le rows).take n ↔ rows.countP (fun b => !le a b) < n := by
  have sorted := pairwise_orderBy total trans rows
  have apart : (orderBy le rows).Nodup := (perm_orderBy le rows).nodup_iff.2 nodup
  have strict : (orderBy le rows).Pairwise fun a b => ¬le b a := by
    refine (sorted.and apart).imp_of_mem fun {a b} here there both back => both.2 ?_
    exact antisymm a (mem_orderBy.1 here) b (mem_orderBy.1 there) both.1 back
  rw [mem_take_of_pairwise (fun a => (total a a).elim id id) sorted strict (mem_orderBy.2 member),
    (perm_orderBy le rows).countP_eq]

end FirstPage

end VibeLink.Relational
