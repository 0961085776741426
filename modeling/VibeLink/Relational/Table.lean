import Mathlib.Data.List.Nodup
import Mathlib.Data.List.Sort
import Mathlib.Data.Finset.Card
import Mathlib.Logic.Function.Basic

universe u v

namespace VibeLink.Relational

variable {α : Type u} {κ : Type v}

/-- Finite maps are read as partial functions; this rewrites the entry at one key. -/
def modify [DecidableEq κ] (m : κ → Option α) (k : κ) (f : α → α) : κ → Option α :=
  fun i => if i = k then (m i).map f else m i

def modifyAll (m : κ → Option α) (f : α → α) : κ → Option α := fun i => (m i).map f

section Maps

variable [DecidableEq κ] {m : κ → Option α} {k i : κ} {f g : α → α} {a b : α}

@[simp] theorem modify_same : modify m k f k = (m k).map f := by simp [modify]

@[simp] theorem modify_of_ne (h : i ≠ k) : modify m k f i = m i := by simp [modify, h]

@[simp] theorem modify_eq_none : modify m k f i = none ↔ m i = none := by
  by_cases h : i = k
  · subst h; simp
  · simp [h]

theorem modify_of_some (h : m k = some a) : modify m k f = Function.update m k (some (f a)) := by
  funext i
  by_cases hi : i = k
  · subst hi; simp [h]
  · simp [hi]

omit [DecidableEq κ] in
@[simp] theorem modifyAll_eq_some : modifyAll m f i = some b ↔ ∃ a, m i = some a ∧ f a = b := by
  simp [modifyAll]

omit [DecidableEq κ] in
@[simp] theorem modifyAll_eq_none : modifyAll m f i = none ↔ m i = none := by simp [modifyAll]

omit [DecidableEq κ] in
theorem map_modifyAll {β : Type*} {g : α → β} (h : ∀ a, g (f a) = g a) (i : κ) :
    (modifyAll m f i).map g = (m i).map g := by
  cases hi : m i <;> simp [modifyAll, hi, h]

omit [DecidableEq κ] in
@[simp] theorem modifyAll_id : modifyAll m (fun a => a) = m := by funext i; simp [modifyAll]

theorem modifyAll_eq_update (h : m k = some a) (spared : ∀ i b, i ≠ k → m i = some b → f b = b) :
    modifyAll m f = Function.update m k (some (f a)) := by
  funext i
  by_cases hi : i = k
  · subst hi; simp [modifyAll, h]
  · rw [Function.update_of_ne hi]
    cases hb : m i with
    | none => simp [modifyAll, hb]
    | some b => simp [modifyAll, hb, spared i b hi hb]

theorem update_eq_some : Function.update m k (some a) i = some b ↔
    (i = k ∧ a = b) ∨ (i ≠ k ∧ m i = some b) := by
  by_cases h : i = k
  · subst h; simp
  · simp [h]

end Maps

/-- Rows in insertion order, no two of them with one primary key. -/
structure Table (key : α → κ) where
  rows : List α
  nodup : (rows.map key).Nodup

namespace Table

variable {key : α → κ}

@[ext] theorem ext {t u : Table key} (h : t.rows = u.rows) : t = u := by
  cases t; cases u; simpa using h

def empty : Table key := ⟨[], List.nodup_nil⟩

variable [DecidableEq κ]

def find (t : Table key) (k : κ) : Option α := t.rows.find? (fun a => decide (key a = k))

/-- `INSERT`, refused when the primary key is taken. -/
def insert? (t : Table key) (a : α) : Option (Table key) :=
  if h : key a ∈ t.rows.map key then none
  else some ⟨t.rows ++ [a], by
    rw [List.map_append, List.nodup_append]
    refine ⟨t.nodup, List.nodup_singleton _, ?_⟩
    rintro x hx y hy rfl
    simp only [List.map_cons, List.map_nil, List.mem_singleton] at hy
    exact h (hy ▸ hx)⟩

omit [DecidableEq κ] in
theorem map_ite_key (p : α → Bool) {f : α → α} (hf : ∀ a, key (f a) = key a) (rows : List α) :
    (rows.map (fun a => if p a then f a else a)).map key = rows.map key := by
  rw [List.map_map]
  apply List.map_congr_left
  intro a _
  by_cases h : p a <;> simp [h, hf]

/-- `UPDATE … SET f WHERE p`; the primary key is not among the assigned columns. -/
def update (t : Table key) (p : α → Bool) (f : α → α)
    (hf : ∀ a, key (f a) = key a := by intro a; rfl) : Table key where
  rows := t.rows.map (fun a => if p a then f a else a)
  nodup := by rw [map_ite_key p hf]; exact t.nodup

@[simp] theorem find_empty (k : κ) : (empty : Table key).find k = none := rfl

theorem find_eq_some {t : Table key} {k : κ} {a : α} :
    t.find k = some a ↔ a ∈ t.rows ∧ key a = k := by
  constructor
  · intro h
    exact ⟨List.mem_of_find?_eq_some h, by simpa using List.find?_some h⟩
  · rintro ⟨ha, rfl⟩
    obtain ⟨rows, nodup⟩ := t
    induction rows with
    | nil => cases ha
    | cons b rows ih =>
      rw [List.map_cons, List.nodup_cons] at nodup
      rcases List.mem_cons.1 ha with rfl | ha
      · simp [find]
      · have hb : key b ≠ key a := fun h => nodup.1 (h ▸ List.mem_map_of_mem ha)
        simpa [find, hb] using ih nodup.2 ha

theorem find_eq_none {t : Table key} {k : κ} : t.find k = none ↔ k ∉ t.rows.map key := by
  simp [find]

theorem mem_of_find {t : Table key} {k : κ} {a : α} (h : t.find k = some a) : a ∈ t.rows :=
  (find_eq_some.1 h).1

theorem key_of_find {t : Table key} {k : κ} {a : α} (h : t.find k = some a) : key a = k :=
  (find_eq_some.1 h).2

theorem find_of_mem {t : Table key} {a : α} (h : a ∈ t.rows) : t.find (key a) = some a :=
  find_eq_some.2 ⟨h, rfl⟩

theorem insert?_eq_some {t u : Table key} {a : α} :
    t.insert? a = some u ↔ t.find (key a) = none ∧ u.rows = t.rows ++ [a] := by
  unfold insert?
  split
  · rename_i h
    simp [find_eq_none, List.mem_map] at h ⊢
    intro hn
    obtain ⟨b, hb, hk⟩ := h
    exact absurd hk (hn b hb)
  · rename_i h
    simp only [Option.some.injEq, find_eq_none]
    constructor
    · rintro rfl; exact ⟨h, rfl⟩
    · rintro ⟨_, hu⟩; exact ext hu.symm

theorem exists_insert {t : Table key} {a : α} (fresh : t.find (key a) = none) : ∃ u, t.insert? a = some u := by
  rw [insert?, dif_neg (find_eq_none.1 fresh)]
  exact ⟨_, rfl⟩

theorem find_insert {t u : Table key} {a : α} (h : t.insert? a = some u) :
    u.find = Function.update t.find (key a) (some a) := by
  obtain ⟨hnone, hrows⟩ := insert?_eq_some.1 h
  funext k
  by_cases hk : k = key a
  · subst hk
    have ha : a ∈ u.rows := by simp [hrows]
    simp [find_of_mem ha]
  · rw [Function.update_of_ne hk]
    simp [find, hrows, List.find?_append, Ne.symm hk]

theorem find_insert_self {t u : Table key} {a : α} (h : t.insert? a = some u) :
    u.find (key a) = some a := by
  rw [find_insert h, Function.update_self]

/-- `ON CONFLICT DO NOTHING`: the row goes in, or the one that is there stays. -/
theorem find_insert_getD (t : Table key) (a : α) : ((t.insert? a).getD t).find =
    if t.find (key a) = none then Function.update t.find (key a) (some a) else t.find := by
  cases h : t.insert? a with
  | some u => rw [Option.getD_some, if_pos (insert?_eq_some.1 h).1, find_insert h]
  | none =>
    rw [Option.getD_none, if_neg]
    intro hnone
    have hu : t.insert? a ≠ none := by simpa [insert?, find_eq_none] using hnone
    exact hu h

omit [DecidableEq κ] in
@[simp] theorem rows_update (t : Table key) (p : α → Bool) (f : α → α) (hf) :
    (t.update p f hf).rows = t.rows.map (fun a => if p a then f a else a) := rfl

theorem find_update (t : Table key) (p : α → Bool) (f : α → α) (hf) :
    (t.update p f hf).find = modifyAll t.find (fun a => if p a then f a else a) := by
  funext k
  simp only [find, rows_update, modifyAll]
  induction t.rows with
  | nil => rfl
  | cons a rows ih =>
    have hkey : key (if p a then f a else a) = key a := by split <;> simp [hf]
    by_cases hk : key a = k <;> simp [hkey, hk, ih]

theorem map_find_update {β : Type*} {g : α → β} {t : Table key} {p : α → Bool} {f : α → α} (hf)
    (h : ∀ a, g (f a) = g a) (k : κ) : ((t.update p f hf).find k).map g = (t.find k).map g := by
  rw [find_update]
  apply map_modifyAll
  intro a
  split <;> simp [h]

/-- `UPDATE … WHERE key = k`. -/
theorem find_update_key (t : Table key) (k : κ) (f : α → α) (hf) :
    (t.update (fun a => decide (key a = k)) f hf).find = modify t.find k f := by
  rw [find_update]
  funext i
  by_cases hi : i = k
  · subst hi
    cases h : t.find i with
    | none => simp [modifyAll, h]
    | some a => simp [modifyAll, h, key_of_find h]
  · cases h : t.find i with
    | none => simp [modifyAll, h, hi]
    | some a => simp [modifyAll, h, hi, key_of_find h]

theorem find_update_some {t : Table key} {k : κ} {a : α} (h : t.find k = some a) (f : α → α) (hf) :
    (t.update (fun a => decide (key a = k)) f hf).find = Function.update t.find k (some (f a)) := by
  rw [find_update_key, modify_of_some h]

/-- A map's `insert`: the row takes the place of the one with its key, if there is one. -/
def put (t : Table key) (a : α) : Table key :=
  if h : key a ∈ t.rows.map key then
    ⟨t.rows.map fun b => if key b = key a then a else b, by
      have keys : (t.rows.map fun b => if key b = key a then a else b).map key = t.rows.map key := by
        rw [List.map_map]
        apply List.map_congr_left
        intro b _
        by_cases hb : key b = key a <;> simp [hb]
      rw [keys]
      exact t.nodup⟩
  else (t.insert? a).get (by simp [insert?, h])

/-- A map's `retain`. -/
def retain (t : Table key) (p : α → Bool) : Table key where
  rows := t.rows.filter p
  nodup := t.nodup.sublist (List.filter_sublist.map key)

/-- A map's `remove`, which leaves the other rows in order. -/
def erase (t : Table key) (k : κ) : Table key := t.retain fun a => decide (key a ≠ k)

theorem find_put (t : Table key) (a : α) : (t.put a).find = Function.update t.find (key a) (some a) := by
  by_cases h : key a ∈ t.rows.map key
  · funext k
    rw [put, dif_pos h]
    by_cases hk : k = key a
    · obtain ⟨b, member, same⟩ := List.mem_map.1 h
      rw [hk, Function.update_self, find_eq_some]
      exact ⟨List.mem_map.2 ⟨b, member, if_pos same⟩, rfl⟩
    · rw [Function.update_of_ne hk]
      simp only [find]
      induction t.rows with
      | nil => rfl
      | cons b rows ih =>
        rw [List.map_cons, List.find?_cons, List.find?_cons, ih]
        by_cases hb : key b = key a
        · simp [hb, Ne.symm hk]
        · simp [hb]
  · rw [put, dif_neg h]
    exact find_insert (Option.some_get _).symm

theorem find_put_self (t : Table key) (a : α) : (t.put a).find (key a) = some a := by
  rw [find_put, Function.update_self]

theorem find_erase (t : Table key) (k : κ) : (t.erase k).find = Function.update t.find k none := by
  funext i
  by_cases hi : i = k
  · rw [hi, Function.update_self]
    simp [find_eq_none, erase, retain]
  · rw [Function.update_of_ne hi]
    simp only [find, erase, retain, List.find?_filter]
    congr 1
    funext a
    by_cases ha : key a = i <;> simp [ha, hi]

theorem find_retain (t : Table key) (p : α → Bool) (k : κ) : (t.retain p).find k = (t.find k).filter p := by
  cases found : t.find k with
  | none =>
    rw [Option.filter_none, find_eq_none]
    intro member
    obtain ⟨a, kept, rfl⟩ := List.mem_map.1 member
    rw [find_of_mem (List.mem_filter.1 kept).1] at found
    cases found
  | some a =>
    have same := key_of_find found
    cases holds : p a with
    | true =>
      rw [Option.filter_some_pos holds, find_eq_some]
      exact ⟨List.mem_filter.2 ⟨mem_of_find found, holds⟩, same⟩
    | false =>
      rw [Option.filter_some_neg holds, find_eq_none]
      intro member
      obtain ⟨b, kept, again⟩ := List.mem_map.1 member
      obtain ⟨inside, holds'⟩ := List.mem_filter.1 kept
      have found' := find_of_mem inside
      rw [again, found, Option.some_inj] at found'
      rw [← found', holds] at holds'
      cases holds'

theorem find_foldl_put_of_notMem {rows : List α} {t : Table key} {k : κ} (new : k ∉ rows.map key) :
    (rows.foldl put t).find k = t.find k := by
  induction rows generalizing t with
  | nil => rfl
  | cons a rows ih =>
    rw [List.map_cons, List.mem_cons, not_or] at new
    rw [List.foldl_cons, ih new.2, find_put, Function.update_of_ne new.1]

theorem find_foldl_put_of_mem {rows : List α} {t : Table key} (nodup : (rows.map key).Nodup) {a : α} (member : a ∈ rows) :
    (rows.foldl put t).find (key a) = some a := by
  induction rows generalizing t with
  | nil => cases member
  | cons b rows ih =>
    rw [List.map_cons, List.nodup_cons] at nodup
    rw [List.foldl_cons]
    cases List.mem_cons.1 member with
    | inl same => rw [same, find_foldl_put_of_notMem nodup.1, find_put_self]
    | inr rest => exact ih nodup.2 rest

theorem perm_of_find {t u : Table key} (h : t.find = u.find) : t.rows.Perm u.rows := by
  rw [List.perm_ext_iff_of_nodup t.nodup.of_map u.nodup.of_map]
  intro a
  have rows (t : Table key) : a ∈ t.rows ↔ t.find (key a) = some a := ⟨find_of_mem, mem_of_find⟩
  rw [rows, rows, h]

theorem countP_erase (t : Table key) (k : κ) (p : α → Bool) :
    (t.erase k).rows.countP p + (t.find k).toList.countP p = t.rows.countP p := by
  cases h : t.find k with
  | none =>
    have same : (t.erase k).find = t.find := by
      rw [find_erase, ← h, Function.update_eq_self]
    rw [(perm_of_find same).countP_eq]
    rfl
  | some a =>
    have perm : t.rows.Perm (a :: (t.erase k).rows) := by
      have gone : a ∉ (t.erase k).rows := by simp [erase, retain, key_of_find h]
      rw [List.perm_ext_iff_of_nodup t.nodup.of_map (List.nodup_cons.2 ⟨gone, (t.erase k).nodup.of_map⟩)]
      intro b
      simp only [List.mem_cons, erase, retain, List.mem_filter, decide_eq_true_eq]
      constructor
      · intro member
        by_cases hb : key b = k
        · have found := find_of_mem member
          rw [hb, h] at found
          exact .inl (Option.some.inj found).symm
        · exact .inr ⟨member, hb⟩
      · rintro (rfl | ⟨member, _⟩)
        · exact mem_of_find h
        · exact member
    rw [perm.countP_eq, List.countP_cons, Option.toList_some, List.countP_singleton]

theorem countP_of_update {t u : Table key} {k : κ} {o : Option α} (p : α → Bool)
    (h : u.find = Function.update t.find k o) :
    u.rows.countP p + (t.find k).toList.countP p = t.rows.countP p + o.toList.countP p := by
  have same : (u.erase k).find = (t.erase k).find := by
    rw [find_erase, find_erase, h, Function.update_idem]
  have here : u.find k = o := by rw [h, Function.update_self]
  rw [← countP_erase u k, ← countP_erase t k, (perm_of_find same).countP_eq, here]
  omega

/-- A finite set of keys whose rows all satisfy `p` is no larger than the rows that do. -/
theorem card_le_countP {t : Table key} {p : α → Bool} {ks : Finset κ}
    (h : ∀ k ∈ ks, ∃ a, t.find k = some a ∧ p a) : ks.card ≤ t.rows.countP p := by
  rw [List.countP_eq_length_filter, ← List.length_map (f := key)]
  have hsub : ks ⊆ ((t.rows.filter p).map key).toFinset := by
    intro k hk
    obtain ⟨a, ha, hp⟩ := h k hk
    obtain ⟨hmem, rfl⟩ := find_eq_some.1 ha
    simp only [List.mem_toFinset, List.mem_map, List.mem_filter]
    exact ⟨a, ⟨hmem, hp⟩, rfl⟩
  exact (Finset.card_le_card hsub).trans (List.toFinset_card_le _)

omit [DecidableEq κ] in
theorem nodup_keys_filter (t : Table key) (p : α → Bool) :
    ((t.rows.filter p).map key).Nodup :=
  t.nodup.sublist (List.filter_sublist.map key)

/-- The rows that satisfy `p` are counted by the finite set of their keys. -/
theorem countP_eq_card (t : Table key) (p : α → Bool) :
    t.rows.countP p = ((t.rows.filter p).map key).toFinset.card := by
  rw [List.toFinset_card_of_nodup (t.nodup_keys_filter p), List.length_map,
    List.countP_eq_length_filter]

end Table

/-- `ORDER BY`: stable, so rows that compare equal keep their insertion order. -/
def orderBy (le : α → α → Bool) (rows : List α) : List α :=
  rows.insertionSort (fun a b => le a b)

@[simp] theorem mem_orderBy {le : α → α → Bool} {rows : List α} {a : α} :
    a ∈ orderBy le rows ↔ a ∈ rows := List.mem_insertionSort _

theorem pairwise_orderBy {le : α → α → Bool} (total : ∀ a b, le a b ∨ le b a)
    (trans : ∀ a b c, le a b → le b c → le a c) (rows : List α) :
    (orderBy le rows).Pairwise (fun a b => le a b) := by
  have : Std.Total (fun a b : α => (le a b : Prop)) := ⟨total⟩
  have : IsTrans α (fun a b => (le a b : Prop)) := ⟨trans⟩
  exact List.pairwise_insertionSort _ rows

theorem perm_orderBy (le : α → α → Bool) (rows : List α) : (orderBy le rows).Perm rows :=
  List.perm_insertionSort _ rows

end VibeLink.Relational
