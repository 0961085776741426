import Mathlib.Data.List.AList
import Mathlib.Data.List.Induction
import Mathlib.Algebra.Order.Ring.Nat

/-! Maps from keys to values of one type, and sums of measures of their values. -/

universe u v w

namespace VibeLink.Relational

variable {κ : Type u} {α : Type v} [DecidableEq κ] {m : AList fun _ : κ => α} {key other : κ} {value : α}

theorem lookup_insert (m : AList fun _ : κ => α) (key other : κ) (value : α) :
    (m.insert key value).lookup other = if other = key then some value else m.lookup other := by
  split
  · rename_i same
    rw [same, AList.lookup_insert]
  · rename_i ne
    exact AList.lookup_insert_ne ne

theorem lookup_erase (m : AList fun _ : κ => α) (key other : κ) :
    (m.erase key).lookup other = if other = key then none else m.lookup other := by
  split
  · rename_i same
    rw [same, AList.lookup_erase]
  · rename_i ne
    exact AList.lookup_erase_ne ne

omit [DecidableEq κ] in
theorem nodup_snoc {keys : List κ} : (keys ++ [key]).Nodup ↔ key ∉ keys ∧ keys.Nodup := by
  rw [← List.concat_eq_append, List.nodup_concat]

/-- `.collect()`: of two values for one key the later stays. -/
def collect (pairs : List (κ × α)) : AList fun _ : κ => α := pairs.foldl (fun m pair => m.insert pair.1 pair.2) ∅

theorem collect_append_singleton (pairs : List (κ × α)) (pair : κ × α) :
    collect (pairs ++ [pair]) = (collect pairs).insert pair.1 pair.2 := by
  rw [collect, List.foldl_append]
  rfl

theorem perm_entries_insert (fresh : key ∉ m) (value : α) :
    (m.insert key value).entries.Perm (⟨key, value⟩ :: m.entries) := by
  rw [AList.insert_of_notMem fresh]

theorem mem_collect {pairs : List (κ × α)} : key ∈ collect pairs ↔ key ∈ pairs.map Prod.fst := by
  induction pairs using List.reverseRecOn with
  | nil => simp [collect]
  | append_singleton pairs pair ih =>
    rw [collect_append_singleton, AList.mem_insert, ih, List.map_append, List.mem_append, or_comm,
      List.map_singleton, List.mem_singleton]

theorem perm_entries_collect {pairs : List (κ × α)} (keys : (pairs.map Prod.fst).Nodup) :
    (collect pairs).entries.Perm (pairs.map fun pair => ⟨pair.1, pair.2⟩) := by
  induction pairs using List.reverseRecOn with
  | nil => exact .refl _
  | append_singleton pairs pair ih =>
    rw [List.map_append, List.map_singleton, List.nodup_append] at keys
    have fresh : pair.1 ∉ collect pairs := by
      intro member
      exact keys.2.2 _ (mem_collect.1 member) _ (List.mem_singleton_self _) rfl
    rw [collect_append_singleton, List.map_append, List.map_singleton]
    exact (perm_entries_insert fresh _).trans (((ih keys.1).cons _).trans (List.perm_append_singleton _ _).symm)

theorem perm_keys_collect {pairs : List (κ × α)} (keys : (pairs.map Prod.fst).Nodup) :
    (collect pairs).keys.Perm (pairs.map Prod.fst) := by
  refine ((perm_entries_collect keys).map Sigma.fst).trans ?_
  rw [List.map_map]
  rfl

theorem lookup_collect {pairs : List (κ × α)} (keys : (pairs.map Prod.fst).Nodup) (member : (key, value) ∈ pairs) :
    (collect pairs).lookup key = some value := by
  apply AList.mem_lookup_iff.2
  exact (perm_entries_collect keys).mem_iff.2 (List.mem_map_of_mem member)

theorem lookup_collect_eq {pairs : List (κ × α)} (keys : (pairs.map Prod.fst).Nodup) (key : κ) :
    (collect pairs).lookup key = pairs.lookup key := by
  cases found : pairs.lookup key with
  | none =>
    rw [List.lookup_eq_none_iff] at found
    rw [AList.lookup_eq_none, mem_collect, List.mem_map]
    rintro ⟨pair, member, rfl⟩
    exact bne_iff_ne.1 (found pair member) rfl
  | some value =>
    obtain ⟨front, behind, split, _⟩ := List.lookup_eq_some_iff.1 found
    exact lookup_collect keys (split ▸ List.mem_append_right _ List.mem_cons_self)

section Enumerated

variable {β : Type w} (key : β → κ) (value : β → Nat → α)

/-- `.iter().enumerate().map(…).collect()` -/
def enumerated (xs : List β) : AList fun _ : κ => α :=
  collect (xs.zipIdx.map fun x => (key x.1, value x.1 x.2))

variable {key value} {xs : List β} {x : β} {k : κ}

omit [DecidableEq κ] in
theorem map_fst_zipIdx (xs : List β) :
    (xs.zipIdx.map fun x => (key x.1, value x.1 x.2)).map Prod.fst = xs.map key := by
  rw [List.map_map]
  exact (List.map_map (l := xs.zipIdx) (f := Prod.fst) (g := key)).symm.trans
    (congrArg (List.map key) (List.zipIdx_map_fst 0 xs))

theorem mem_enumerated : k ∈ enumerated key value xs ↔ k ∈ xs.map key := by
  rw [enumerated, mem_collect, map_fst_zipIdx]

theorem enumerated_append_singleton (xs : List β) (x : β) :
    enumerated key value (xs ++ [x]) = (enumerated key value xs).insert (key x) (value x xs.length) := by
  rw [enumerated, List.zipIdx_append, List.map_append, Nat.zero_add]
  exact collect_append_singleton _ _

theorem lookup_enumerated (keys : (xs.map key).Nodup) {i : Nat} (here : xs[i]? = some x) :
    (enumerated key value xs).lookup (key x) = some (value x i) := by
  apply lookup_collect
  · rw [map_fst_zipIdx]
    exact keys
  · exact List.mem_map.2 ⟨(x, i), List.mk_mem_zipIdx_iff_getElem?.2 here, rfl⟩

theorem perm_entries_enumerated (keys : (xs.map key).Nodup) : (enumerated key value xs).entries.Perm
    ((xs.zipIdx.map fun x => (key x.1, value x.1 x.2)).map fun pair => ⟨pair.1, pair.2⟩) := by
  apply perm_entries_collect
  rw [map_fst_zipIdx]
  exact keys

theorem perm_keys_enumerated (keys : (xs.map key).Nodup) : (enumerated key value xs).keys.Perm (xs.map key) := by
  refine (perm_keys_collect ?_).trans (.of_eq (map_fst_zipIdx xs))
  rw [map_fst_zipIdx]
  exact keys

theorem perm_enumerated (keys : (xs.map key).Nodup) (place : α → Nat)
    (numbered : ∀ x i, (x, i) ∈ xs.zipIdx → place (value x i) = i) :
    ((enumerated key value xs).entries.map fun entry => place entry.2).Perm (List.range xs.length) := by
  refine ((perm_entries_enumerated keys).map _).trans ?_
  rw [List.map_map, List.map_map, List.range_eq_range', ← List.zipIdx_map_snd 0 xs]
  exact .of_eq (List.map_congr_left fun x member => numbered x.1 x.2 member)

end Enumerated

def total (f : α → Nat) (m : AList fun _ : κ => α) : Nat := (m.entries.map fun entry => f entry.2).sum

omit [DecidableEq κ] in
@[simp] theorem total_empty (f : α → Nat) : total f (∅ : AList fun _ : κ => α) = 0 := rfl

theorem entries_erase (m : AList fun _ : κ => α) (key : κ) :
    (m.erase key).entries = m.entries.kerase key := rfl

theorem total_erase (f : α → Nat) (m : AList fun _ : κ => α) (key : κ) :
    total f (m.erase key) + (m.lookup key).elim 0 f = total f m := by
  cases found : m.lookup key with
  | none =>
    rw [AList.lookup_eq_none] at found
    rw [total, entries_erase, List.kerase_of_notMem_keys found]
    rfl
  | some value =>
    have member : key ∈ m := AList.lookup_isSome.1 (by rw [found]; rfl)
    obtain ⟨value', front, behind, fresh, split, erased⟩ := List.exists_of_kerase member
    have same : m.lookup key = some value' := by
      rw [AList.lookup, split, List.dlookup_append]
      simp [List.dlookup_eq_none.2 fresh]
    cases found.symm.trans same
    rw [total, total, entries_erase, erased, split]
    simp only [List.map_append, List.map_cons, List.sum_append, List.sum_cons, Option.elim_some]
    omega

theorem total_insert (f : α → Nat) (m : AList fun _ : κ => α) (key : κ) (value : α) :
    total f (m.insert key value) + (m.lookup key).elim 0 f = total f m + f value := by
  have erased := total_erase f m key
  rw [total, AList.entries_insert, List.map_cons, List.sum_cons]
  rw [total, entries_erase] at erased
  dsimp only
  omega

theorem le_total_of_lookup (f : α → Nat) (found : m.lookup key = some value) : f value ≤ total f m := by
  have erased := total_erase f m key
  rw [found, Option.elim_some] at erased
  omega

end VibeLink.Relational
