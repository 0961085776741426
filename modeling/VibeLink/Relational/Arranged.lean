import VibeLink.Relational.Table
import Mathlib.Data.List.Range
import Mathlib.Data.List.Perm.Subperm
import Mathlib.Data.List.Forall2

universe u

namespace VibeLink.Relational

variable {α : Type u} {place : α → Nat} {rows rows' : List α} {a : α}

/-- The places of `rows` are `0` to `n - 1`, each taken once. -/
def Arranged (place : α → Nat) (rows : List α) : Prop := (rows.map place).Perm (List.range rows.length)

theorem arranged_iff : Arranged place rows ↔ (rows.map place).Nodup ∧ ∀ a ∈ rows, place a < rows.length := by
  constructor
  · intro h
    refine ⟨h.nodup_iff.2 List.nodup_range, fun a member => ?_⟩
    exact List.mem_range.1 (h.mem_iff.1 (List.mem_map_of_mem member))
  · rintro ⟨nodup, below⟩
    have sub : (rows.map place).Subperm (List.range rows.length) := by
      apply nodup.subperm
      intro i member
      obtain ⟨a, here, rfl⟩ := List.mem_map.1 member
      exact List.mem_range.2 (below a here)
    exact sub.perm_of_length_le (by simp)

theorem arranged_nil : Arranged place [] := .refl _

theorem Arranged.perm (h : Arranged place rows) (perm : rows'.Perm rows) : Arranged place rows' := by
  rw [Arranged, perm.length_eq]
  exact (perm.map place).trans h

theorem arranged_of_map_eq (h : rows.map place = List.range rows.length) : Arranged place rows := by
  rw [Arranged, h]

theorem Arranged.map {f : α → α} (h : Arranged place rows) (same : ∀ a ∈ rows, place (f a) = place a) :
    Arranged place (rows.map f) := by
  have places : (rows.map f).map place = rows.map place := by
    rw [List.map_map]
    exact List.map_congr_left same
  rw [Arranged, places, List.length_map]
  exact h

theorem Arranged.append (h : Arranged place rows) (last : place a = rows.length) :
    Arranged place (rows ++ [a]) := by
  rw [Arranged, List.map_append, List.length_append, List.map_singleton, List.length_singleton,
    List.range_succ, last]
  exact h.append_right _

theorem Arranged.next (h : Arranged place rows) :
    ((rows.map place).max?.map (· + 1)).getD 0 = rows.length := by
  cases most : (rows.map place).max? with
  | none =>
    rw [List.max?_eq_none_iff, List.map_eq_nil_iff] at most
    rw [most]
    rfl
  | some i =>
    rw [List.max?_eq_some_iff] at most
    have below := List.mem_range.1 (h.mem_iff.1 most.1)
    have last := most.2 (rows.length - 1) (h.mem_iff.2 (List.mem_range.2 (by omega)))
    simp only [Option.map_some, Option.getD_some]
    omega

theorem Arranged.close {f : α → α} (h : Arranged place (a :: rows))
    (moved : ∀ b ∈ rows, place (f b) = if place a < place b then place b - 1 else place b) :
    Arranged place (rows.map f) := by
  rw [arranged_iff, List.map_cons, List.nodup_cons] at h
  obtain ⟨⟨gone, nodup⟩, below⟩ := h
  have apart (b : α) (member : b ∈ rows) : place b ≠ place a := by
    intro same
    exact gone (same ▸ List.mem_map_of_mem member)
  have bound (b : α) (member : b ∈ rows) : place b < rows.length + 1 := below b (List.mem_cons_of_mem _ member)
  have here := below a List.mem_cons_self
  rw [List.length_cons] at here
  have places : (rows.map f).map place =
      (rows.map place).map fun i => if place a < i then i - 1 else i := by
    rw [List.map_map, List.map_map]
    exact List.map_congr_left moved
  rw [arranged_iff, places, List.length_map]
  constructor
  · refine nodup.map_on ?_
    intro i hi j hj same
    obtain ⟨b, member, rfl⟩ := List.mem_map.1 hi
    obtain ⟨c, member', rfl⟩ := List.mem_map.1 hj
    have := apart b member
    have := apart c member'
    split at same <;> split at same <;> omega
  · intro b member
    obtain ⟨c, here, rfl⟩ := List.mem_map.1 member
    rw [moved c here]
    have := apart c here
    have := bound c here
    split <;> omega

/-- In the order of their places the rows stand at `0` to `n - 1`. -/
theorem Arranged.orderBy (h : Arranged place rows) :
    (orderBy (fun a b => decide (place a ≤ place b)) rows).map place = List.range rows.length := by
  apply List.Perm.eq_of_pairwise' (r := (· ≤ ·))
  · have sorted := @pairwise_orderBy α (fun a b => decide (place a ≤ place b))
      (fun a b => by simp [le_total]) (fun a b c => by simpa using le_trans) rows
    exact List.pairwise_map.2 (sorted.imp of_decide_eq_true)
  · exact List.pairwise_le_range
  · exact ((perm_orderBy _ rows).map place).trans h

theorem orderBy_eq_self (sorted : rows.Pairwise fun a b => place a ≤ place b) :
    orderBy (fun a b => decide (place a ≤ place b)) rows = rows :=
  List.Pairwise.insertionSort_eq (sorted.imp decide_eq_true)

theorem map_filterMap_of_forall {β γ δ : Type*} {f : γ → Option β} {g : β → δ} {h : γ → δ} {cs : List γ}
    (all : ∀ c ∈ cs, ∃ b, f c = some b ∧ g b = h c) : (cs.filterMap f).map g = cs.map h := by
  induction cs with
  | nil => rfl
  | cons c cs ih =>
    obtain ⟨b, here, same⟩ := all c List.mem_cons_self
    rw [List.filterMap_cons_some here, List.map_cons, List.map_cons, same,
      ih fun c member => all c (List.mem_cons_of_mem _ member)]

end VibeLink.Relational

/-! Rows under keys. -/

namespace VibeLink.Relational

section Buckets

variable {α : Type u} {κ : Type*} [DecidableEq κ] (key : α → Option κ)

theorem buckets_perm {keys : List κ} (nodup : keys.Nodup) (rows : List α) :
    (keys.flatMap (fun k => rows.filter fun a => key a = some k) ++ rows.filter fun a => ∀ k ∈ keys, key a ≠ some k).Perm rows := by
  induction keys generalizing rows with
  | nil => simp
  | cons k keys ih =>
    have ⟨fresh, nodup⟩ := List.nodup_cons.mp nodup
    have under (other : κ) (member : other ∈ keys) :
        (rows.filter fun a => key a ≠ some k).filter (fun a => key a = some other) = rows.filter fun a => key a = some other := by
      rw [List.filter_filter]
      apply List.filter_congr
      intro a _
      have apart : other ≠ k := fun same => fresh (same ▸ member)
      by_cases here : key a = some other
      · simp [here, apart]
      · simp [here]
    have left : (rows.filter fun a => key a ≠ some k).filter (fun a => ∀ k ∈ keys, key a ≠ some k) =
        rows.filter fun a => ∀ other ∈ k :: keys, key a ≠ some other := by
      rw [List.filter_filter]
      apply List.filter_congr
      intro a _
      simp [Bool.and_comm]
    have rest := ih nodup (rows.filter fun a => key a ≠ some k)
    rw [List.flatMap_congr under, left] at rest
    rw [List.flatMap_cons, List.append_assoc]
    refine (rest.append_left _).trans ?_
    have both := List.filter_append_perm (fun a => decide (key a = some k)) rows
    simpa using both

end Buckets

end VibeLink.Relational

/-! Lists that go together element by element, and lists by their indices. -/

namespace VibeLink.Relational

section Lists

variable {α β γ : Type*} {R : α → β → Prop} {xs : List α} {ys : List β}

theorem forall_exists_of_forall₂ (related : List.Forall₂ R xs ys) : ∀ x ∈ xs, ∃ y ∈ ys, R x y := by
  induction related with
  | nil => simp
  | cons here _ ih =>
    rintro x (_ | ⟨_, member⟩)
    · exact ⟨_, List.mem_cons_self, here⟩
    · have ⟨y, also, holds⟩ := ih x member
      exact ⟨y, List.mem_cons_of_mem _ also, holds⟩

end Lists

end VibeLink.Relational
