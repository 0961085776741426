import Mathlib.Logic.Relation
import Mathlib.Tactic.Common
import Mathlib.Data.Nat.Find
import Mathlib.Order.WellFounded

universe u v w

namespace VibeLink.Relational

variable {σ : Type u} {κ : Type v} {ℓ : Type w}

/-- Labelled moves one after another, each with a label that is allowed where it starts. -/
def Chain (move : ℓ → σ → σ → Prop) (allowed : σ → ℓ → Prop) : σ → σ → Prop :=
  Relation.ReflTransGen fun s t => ∃ l, allowed s l ∧ move l s t

namespace Chain

variable {move : ℓ → σ → σ → Prop} {allowed : σ → ℓ → Prop} {s t u : σ}

theorem refl : Chain move allowed s s := Relation.ReflTransGen.refl

theorem single {l : ℓ} (hl : allowed s l) (h : move l s t) : Chain move allowed s t :=
  Relation.ReflTransGen.single ⟨l, hl, h⟩

theorem trans (h : Chain move allowed s t) (h' : Chain move allowed t u) : Chain move allowed s u :=
  Relation.ReflTransGen.trans h h'

theorem snoc {l : ℓ} (h : Chain move allowed s t) (hl : allowed t l) (hm : move l t u) :
    Chain move allowed s u := h.trans (single hl hm)

theorem step {l : ℓ} {u' : σ} (h : Chain move allowed s t) (hu : u = u') (hl : allowed t l)
    (hm : move l t u') : Chain move allowed s u := hu ▸ h.snoc hl hm

theorem mono {allowed' : σ → ℓ → Prop} (h : Chain move allowed s t)
    (ha : ∀ s l, allowed s l → allowed' s l) : Chain move allowed' s t := by
  induction h with
  | refl => exact refl
  | tail _ hstep ih =>
    obtain ⟨l, hl, hm⟩ := hstep
    exact ih.snoc (ha _ l hl) hm

theorem preserves {I : σ → Prop} (hI : ∀ l s t, allowed s l → move l s t → I s → I t)
    (h : Chain move allowed s t) (hs : I s) : I t := by
  induction h with
  | refl => exact hs
  | tail _ hstep ih =>
    obtain ⟨l, hl, hm⟩ := hstep
    exact hI l _ _ hl hm ih

theorem relates {R : σ → σ → Prop} (hrefl : ∀ s, R s s) (htrans : ∀ s t u, R s t → R t u → R s u)
    (hR : ∀ l s t, allowed s l → move l s t → R s t) (h : Chain move allowed s t) : R s t :=
  preserves (fun l t u hl hm ht => htrans s t u ht (hR l t u hl hm)) h (hrefl s)

end Chain

section Runs

variable {next : σ → κ → σ} {P : σ → κ → Prop}

/-- Each call of a run meets `P` in the state it is made in. -/
def Throughout (next : σ → κ → σ) (P : σ → κ → Prop) : σ → List κ → Prop
  | _, [] => True
  | s, c :: calls => P s c ∧ Throughout next P (next s c) calls

instance decidableThroughout [∀ s c, Decidable (P s c)] :
    ∀ (s : σ) (calls : List κ), Decidable (Throughout next P s calls)
  | _, [] => inferInstanceAs (Decidable True)
  | s, c :: calls =>
    have := decidableThroughout (next s c) calls
    inferInstanceAs (Decidable (P s c ∧ Throughout next P (next s c) calls))

theorem throughout_append {pre post : List κ} {s : σ} :
    Throughout next P s (pre ++ post) ↔
      Throughout next P s pre ∧ Throughout next P (pre.foldl next s) post := by
  induction pre generalizing s with
  | nil => simp [Throughout]
  | cons c pre ih => simp [Throughout, ih, and_assoc]

theorem throughout_and {Q : σ → κ → Prop} {calls : List κ} {s : σ} :
    Throughout next (fun s c => P s c ∧ Q s c) s calls ↔ Throughout next P s calls ∧ Throughout next Q s calls := by
  induction calls generalizing s with
  | nil => simp [Throughout]
  | cons c calls ih => simp [Throughout, ih, and_and_and_comm]

theorem throughout_mono {Q : σ → κ → Prop} {calls : List κ} {s : σ} (implies : ∀ s c, P s c → Q s c)
    (holds : Throughout next P s calls) : Throughout next Q s calls := by
  induction calls generalizing s with
  | nil => trivial
  | cons c calls ih => exact ⟨implies s c holds.1, ih holds.2⟩

theorem throughout_of_forall {calls : List κ} (h : ∀ c ∈ calls, ∀ s, P s c) (s : σ) :
    Throughout next P s calls := by
  induction calls generalizing s with
  | nil => trivial
  | cons c calls ih =>
    exact ⟨h c List.mem_cons_self s, ih (fun d hd => h d (List.mem_cons_of_mem _ hd)) (next s c)⟩

theorem run_history_aux {I : List κ → σ → Prop}
    (hstep : ∀ past s c, I past s → P s c → I (past ++ [c]) (next s c)) {calls : List κ} :
    ∀ {past : List κ} {s : σ}, I past s → Throughout next P s calls →
      I (past ++ calls) (calls.foldl next s) := by
  induction calls with
  | nil => intro past s h _; simpa using h
  | cons c calls ih =>
    rintro past s h ⟨hc, hcalls⟩
    simpa using ih (hstep past s c h hc) hcalls

/-- What every call keeps holds at the end of a run; `I past` may speak of the calls made. -/
theorem run_history {I : List κ → σ → Prop}
    (hstep : ∀ past s c, I past s → P s c → I (past ++ [c]) (next s c)) {calls : List κ} {s : σ}
    (h : I [] s) (hP : Throughout next P s calls) : I calls (calls.foldl next s) :=
  run_history_aux hstep h hP

theorem run_invariant {I : σ → Prop} (hstep : ∀ s c, I s → P s c → I (next s c)) {calls : List κ}
    {s : σ} (h : I s) (hP : Throughout next P s calls) : I (calls.foldl next s) := by
  induction calls generalizing s with
  | nil => exact h
  | cons c calls ih => exact ih (hstep s c h hP.1) hP.2

end Runs

section Guards

variable {τ : Type w} {step : σ → κ → Option σ} {repr : τ → σ} {grow : τ → κ → τ} {P : τ → Prop}

theorem of_foldl (down : ∀ t x, P (grow t x) → P t) {xs : List κ} {t : τ} (h : P (xs.foldl grow t)) : P t := by
  induction xs generalizing t with
  | nil => exact h
  | cons x xs ih => exact down t x (ih h)

theorem foldlM_eq_some (down : ∀ t x, P (grow t x) → P t)
    (each : ∀ t x s', P t → (step (repr t) x = some s' ↔ P (grow t x) ∧ s' = repr (grow t x)))
    {xs : List κ} {t : τ} {s' : σ} (start : P t) :
    xs.foldlM step (repr t) = some s' ↔ P (xs.foldl grow t) ∧ s' = repr (xs.foldl grow t) := by
  induction xs generalizing t with
  | nil =>
    constructor
    · intro h
      cases h
      exact ⟨start, rfl⟩
    · rintro ⟨_, rfl⟩
      rfl
  | cons x xs ih =>
    rw [List.foldlM_cons, Option.bind_eq_bind, Option.bind_eq_some_iff]
    constructor
    · intro h
      obtain ⟨middle, first, h⟩ := h
      obtain ⟨kept, rfl⟩ := (each t x middle start).1 first
      exact (ih kept).1 h
    · intro h
      rw [List.foldl_cons] at h
      have kept := of_foldl down h.1
      exact ⟨_, (each t x _ start).2 ⟨kept, rfl⟩, (ih kept).2 h⟩

end Guards

end VibeLink.Relational

/-! Endless runs, and what comes about in them when a part of the calls come again and again. -/

namespace VibeLink.Relational

variable {σ : Type u} {κ : Type v} {ρ : Type w} {next : σ → κ → σ} {schedule : Nat → κ}

def after (next : σ → κ → σ) (schedule : Nat → κ) (s : σ) : Nat → σ
  | 0 => s
  | n + 1 => next (after next schedule s n) (schedule n)

theorem after_invariant {I : σ → Prop} (kept : ∀ s c, I s → I (next s c)) {s : σ} (start : I s) (n : Nat) :
    I (after next schedule s n) := by
  induction n with
  | zero => exact start
  | succ n ih => exact kept _ _ ih

section Fair

variable {own : κ → Prop} {I done : σ → Prop} {measure : σ → ρ} {less : ρ → ρ → Prop} {s : σ}

theorem measure_after (kept : ∀ s c, I s → I (next s c))
    (stays : ∀ s c, I s → ¬own c → measure (next s c) = measure s) (start : I s) {n k : Nat}
    (foreign : ∀ i, n ≤ i → i < n + k → ¬own (schedule i)) :
    measure (after next schedule s (n + k)) = measure (after next schedule s n) := by
  induction k with
  | zero => rfl
  | succ k ih =>
    rw [← Nat.add_assoc, after, stays _ _ (after_invariant kept start _) (foreign (n + k) (Nat.le_add_right _ _)
      (Nat.lt_succ_self _))]
    exact ih fun i low high => foreign i low (Nat.lt_succ_of_lt high)

theorem done_of_fair (wf : WellFounded less) (kept : ∀ s c, I s → I (next s c))
    (stays : ∀ s c, I s → ¬own c → measure (next s c) = measure s)
    (falls : ∀ s c, I s → own c → done s ∨ less (measure (next s c)) (measure s))
    (fair : ∀ n, ∃ m, n ≤ m ∧ own (schedule m)) (start : I s) : ∃ n, done (after next schedule s n) := by
  classical
  have from_ (n : Nat) : ∃ m, n ≤ m ∧ done (after next schedule s m) := by
    generalize same : measure (after next schedule s n) = bound
    induction bound using wf.induction generalizing n with
    | _ bound ih =>
      have least := Nat.find_spec (fair n)
      have first := fun i => Nat.find_min (fair n) (m := i)
      obtain ⟨k, reached⟩ := Nat.exists_eq_add_of_le least.1
      have unchanged : measure (after next schedule s (Nat.find (fair n))) = bound := by
        rw [← same, reached]
        exact measure_after kept stays start fun i low high owns => first i (reached ▸ high) ⟨low, owns⟩
      cases falls _ _ (after_invariant kept start _) least.2 with
      | inl finished => exact ⟨_, least.1, finished⟩
      | inr smaller =>
        rw [unchanged] at smaller
        obtain ⟨m, later, finished⟩ := ih _ smaller (Nat.find (fair n) + 1) rfl
        exact ⟨m, Nat.le_of_lt (Nat.lt_of_lt_of_le (Nat.lt_succ_of_le least.1) later), finished⟩
  obtain ⟨m, _, finished⟩ := from_ 0
  exact ⟨m, finished⟩

end Fair

end VibeLink.Relational
