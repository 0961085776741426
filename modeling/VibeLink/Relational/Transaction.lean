import Mathlib.Tactic.Common
import Mathlib.Logic.Relation

universe u v

namespace VibeLink.Relational

/-- A body that runs inside a database transaction.  It returns the store it has
written so far also when it fails: undoing those writes is the caller's work. -/
def Tx (σ : Type u) (ε : Type v) (α : Type) := σ → Except ε α × σ

namespace Tx

variable {σ : Type u} {ε : Type v} {α β : Type}

instance : Monad (Tx σ ε) where
  pure a := fun s => (.ok a, s)
  bind x f := fun s => match x s with
    | (.ok a, s') => f a s'
    | (.error e, s') => (.error e, s')

def fail (e : ε) : Tx σ ε α := fun s => (.error e, s)

def gets (f : σ → α) : Tx σ ε α := fun s => (.ok (f s), s)

def write (f : σ → σ) : Tx σ ε Unit := fun s => (.ok ⟨⟩, f s)

def require (p : Prop) [Decidable p] (e : ε) : Tx σ ε Unit :=
  fun s => if p then (.ok ⟨⟩, s) else (.error e, s)

/-- `ok_or`: the value read, or the error when there is none. -/
def expect (o : σ → Option α) (e : ε) : Tx σ ε α := fun s => match o s with
  | some a => (.ok a, s)
  | none => (.error e, s)

def tryWrite (f : σ → Option σ) (e : ε) : Tx σ ε Unit := fun s => match f s with
  | some s' => (.ok ⟨⟩, s')
  | none => (.error e, s)

def ofExcept : Except ε α → Tx σ ε α := fun x s => (x, s)

/-- Commits when the body succeeds; a dropped transaction rolls back to where it began. -/
def atomically (x : Tx σ ε α) : Tx σ ε α := fun s => match x s with
  | (.ok a, s') => (.ok a, s')
  | (.error e, _) => (.error e, s)

/-- The weakest liberal precondition: what must hold of `s` for every successful run of
`x` from `s` to end in `Q`. -/
def wlp (x : Tx σ ε α) (Q : α → σ → Prop) (s : σ) : Prop :=
  ∀ a s', x s = (.ok a, s') → Q a s'

section Rules

variable {x : Tx σ ε α} {f : α → Tx σ ε β} {Q R : α → σ → Prop} {P : β → σ → Prop} {s : σ}

theorem wlp_mono (h : x.wlp Q s) (hQ : ∀ a s', Q a s' → R a s') : x.wlp R s :=
  fun a s' hx => hQ a s' (h a s' hx)

theorem wlp_of_forall (h : ∀ a s', Q a s') : x.wlp Q s := fun a s' _ => h a s'

theorem wlp_and : x.wlp (fun a s' => Q a s' ∧ R a s') s ↔ x.wlp Q s ∧ x.wlp R s := by
  constructor
  · intro h
    exact ⟨fun a s' hx => (h a s' hx).1, fun a s' hx => (h a s' hx).2⟩
  · rintro ⟨hQ, hR⟩ a s' hx
    exact ⟨hQ a s' hx, hR a s' hx⟩

@[simp] theorem wlp_pure {a : α} : (pure a : Tx σ ε α).wlp Q = Q a := by
  funext s
  apply propext
  constructor
  · intro h; exact h a s rfl
  · rintro h _ _ ⟨⟩; exact h

@[simp] theorem wlp_bind : (x >>= f).wlp P = x.wlp (fun a => (f a).wlp P) := by
  funext s
  apply propext
  constructor
  · intro h a s₁ hx b s₂ hf
    apply h
    simp only [bind, hx, hf]
  · intro h b s₂ hb
    simp only [bind] at hb
    split at hb
    · rename_i a s₁ hx
      exact h a s₁ hx b s₂ hb
    · cases hb

@[simp] theorem wlp_fail {e : ε} : (fail e : Tx σ ε α).wlp Q = fun _ => True := by
  funext s; simp [wlp, fail]

@[simp] theorem wlp_gets {g : σ → α} : (gets g : Tx σ ε α).wlp Q = fun s => Q (g s) s := by
  funext s
  apply propext
  constructor
  · intro h; exact h _ s rfl
  · rintro h _ _ ⟨⟩; exact h

@[simp] theorem wlp_write {g : σ → σ} {Q : Unit → σ → Prop} :
    (write g : Tx σ ε Unit).wlp Q = fun s => Q () (g s) := by
  funext s
  apply propext
  constructor
  · intro h; exact h _ _ rfl
  · rintro h _ _ ⟨⟩; exact h

@[simp] theorem wlp_require {p : Prop} [Decidable p] {e : ε} {Q : Unit → σ → Prop} :
    (require p e : Tx σ ε Unit).wlp Q = fun s => p → Q () s := by
  funext s
  by_cases hp : p
  · simpa [wlp, require, hp] using ⟨fun h => h (), fun h _ => h⟩
  · simp [wlp, require, hp]

@[simp] theorem wlp_expect {o : σ → Option α} {e : ε} :
    (expect o e : Tx σ ε α).wlp Q = fun s => ∀ a, o s = some a → Q a s := by
  funext s
  cases h : o s <;> simp [wlp, expect, h]

@[simp] theorem wlp_tryWrite {g : σ → Option σ} {e : ε} {Q : Unit → σ → Prop} :
    (tryWrite g e : Tx σ ε Unit).wlp Q = fun s => ∀ s', g s = some s' → Q () s' := by
  funext s
  cases h : g s with
  | none => simp [wlp, tryWrite, h]
  | some s' => simpa [wlp, tryWrite, h] using ⟨fun h => h (), fun h _ => h⟩

@[simp] theorem wlp_ofExcept {y : Except ε α} :
    (ofExcept y : Tx σ ε α).wlp Q = fun s => ∀ a, y = .ok a → Q a s := by
  funext s
  apply propext
  constructor
  · rintro h a rfl; exact h a s rfl
  · intro h a s' hy
    simp only [ofExcept, Prod.mk.injEq] at hy
    obtain ⟨hy, rfl⟩ := hy
    exact h a hy

@[simp] theorem wlp_ite {p : Prop} [Decidable p] {y : Tx σ ε α} :
    (if p then x else y).wlp Q = fun s => (p → x.wlp Q s) ∧ (¬p → y.wlp Q s) := by
  funext s
  by_cases hp : p <;> simp [hp]

@[simp] theorem wlp_atomically : (atomically x).wlp Q = x.wlp Q := by
  funext s
  apply propext
  constructor
  · intro h a s' hx
    apply h
    simp only [atomically, hx]
  · intro h a s' hx
    simp only [atomically] at hx
    split at hx
    · rename_i hx'
      cases hx
      exact h _ _ hx'
    · cases hx

theorem atomically_error {e : ε} {s' : σ} (h : atomically x s = (.error e, s')) : s' = s := by
  simp only [atomically] at h
  split at h
  · cases h
  · cases h; rfl

end Rules

/-- Runs `f` on each element in turn and collects what it returns. -/
def traverse {γ : Type} (f : γ → Tx σ ε α) : List γ → Tx σ ε (List α)
  | [] => pure []
  | c :: cs => do
    let a ← f c
    let as ← traverse f cs
    pure (a :: as)

/-- Runs `f` on each element in turn and threads an accumulator through. -/
def fold {γ : Type} (f : α → γ → Tx σ ε α) : α → List γ → Tx σ ε α
  | a, [] => pure a
  | a, c :: cs => do
    let a ← f a c
    fold f a cs

theorem wlp_fold {γ : Type} {f : α → γ → Tx σ ε α} {I : α → σ → Prop} :
    ∀ {cs : List γ} {a : α} {s : σ}, I a s →
      (∀ c ∈ cs, ∀ a s, I a s → (f a c).wlp I s) → (fold f a cs).wlp I s
  | [], a, s, h, _ => by simpa [fold] using h
  | c :: cs, a, s, h, hf => by
    simp only [fold, wlp_bind]
    refine wlp_mono (hf c List.mem_cons_self a s h) ?_
    intro a₁ s₁ h₁
    exact wlp_fold h₁ fun c' hc' => hf c' (List.mem_cons_of_mem _ hc')

theorem wlp_traverse_aux {γ : Type} {f : γ → Tx σ ε α} {I : List γ → List α → σ → Prop} :
    ∀ {cs pre : List γ} {done : List α} {s : σ}, I pre done s →
      (∀ mid c post, cs = mid ++ c :: post → ∀ as s, I (pre ++ mid) as s →
        (f c).wlp (fun a => I (pre ++ mid ++ [c]) (as ++ [a])) s) →
      (traverse f cs).wlp (fun as => I (pre ++ cs) (done ++ as)) s
  | [], pre, done, s, h, _ => by simpa [traverse] using h
  | c :: cs, pre, done, s, h, hf => by
    simp only [traverse, wlp_bind, wlp_pure]
    refine wlp_mono (hf [] c cs rfl done s (by simpa using h)) ?_
    intro a s₁ h₁
    rw [List.append_nil] at h₁
    refine wlp_mono (wlp_traverse_aux h₁ ?_) ?_
    · intro mid c' post hcs as s₂ h₂
      have := hf (c :: mid) c' post (by rw [hcs]; rfl) as s₂ (by simpa using h₂)
      simpa using this
    · intro as s₂ h₂
      simpa using h₂

/-- A loop keeps what each round keeps.  `I pre as` speaks of the state after the rounds
of `pre`, which returned `as`. -/
theorem wlp_traverse {γ : Type} {f : γ → Tx σ ε α} {I : List γ → List α → σ → Prop} {cs : List γ}
    {s : σ} (h : I [] [] s)
    (hf : ∀ pre c post, cs = pre ++ c :: post → ∀ as s, I pre as s →
      (f c).wlp (fun a => I (pre ++ [c]) (as ++ [a])) s) :
    (traverse f cs).wlp (I cs) s := by
  have hf' : ∀ pre c post, cs = pre ++ c :: post → ∀ as s, I ([] ++ pre) as s →
      (f c).wlp (fun a => I ([] ++ pre ++ [c]) (as ++ [a])) s := by simpa using hf
  simpa using wlp_traverse_aux h hf'

/-- A loop over rows with different keys, each round of which changes the view at its own key
only: every round finds at its key what the loop found there. -/
theorem wlp_traverse_keyed {γ κ δ : Type} (view : σ → κ → δ) {f : γ → Tx σ ε α} {key : γ → κ}
    {I : σ → Prop} {cs : List γ} {s : σ} (nodup : (cs.map key).Nodup) (h : I s)
    (round : ∀ c ∈ cs, ∀ s₁, I s₁ → view s₁ (key c) = view s (key c) →
      (f c).wlp (fun _ s₂ => I s₂ ∧ ∀ k, k ≠ key c → view s₂ k = view s₁ k) s₁) :
    (traverse f cs).wlp (fun _ => I) s := by
  refine wlp_mono (wlp_traverse (I := fun pre _ s₁ => I s₁ ∧
    ∀ k, k ∉ pre.map key → view s₁ k = view s k) ⟨h, fun _ _ => rfl⟩ ?_) fun _ _ h => h.1
  rintro pre c post rfl as s₁ ⟨h₁, same⟩
  rw [List.map_append, List.map_cons] at nodup
  have fresh : key c ∉ pre.map key := fun hp =>
    (List.nodup_append.1 nodup).2.2 _ hp _ List.mem_cons_self rfl
  refine wlp_mono (round c (by simp) s₁ h₁ (same _ fresh)) ?_
  rintro _ s₂ ⟨h₂, same₂⟩
  refine ⟨h₂, fun k hk => ?_⟩
  rw [List.map_append, List.mem_append, not_or] at hk
  rw [same₂ k (by simpa using hk.2), same k hk.1]

section Settled

/-- A failed run of `x` leaves the store as it found it. -/
def Settled (x : Tx σ ε α) : Prop := ∀ s e s', x s = (.error e, s') → s' = s

/-- No run of `x` writes. -/
def ReadOnly (x : Tx σ ε α) : Prop := ∀ s, (x s).2 = s

variable {x : Tx σ ε α} {f : α → Tx σ ε β}

theorem settled_atomically : (atomically x).Settled := fun _ _ _ => atomically_error

theorem ReadOnly.settled (h : x.ReadOnly) : x.Settled := by
  intro s e s' hx
  rw [← h s, hx]

theorem ReadOnly.bind (hx : x.ReadOnly) (hf : ∀ a, (f a).ReadOnly) : (x >>= f).ReadOnly := by
  intro s
  have hs := hx s
  simp only [Bind.bind]
  cases h : x s with
  | mk r s₁ =>
    rw [h] at hs
    subst hs
    cases r with
    | error e => rfl
    | ok a => exact hf a s₁

theorem ReadOnly.wlp {Q : α → σ → Prop} {s : σ} (h : x.ReadOnly) (k : ∀ a, Q a s) : x.wlp Q s := by
  intro a s' hx
  have hs : s' = s := by
    rw [← h s, hx]
  exact hs ▸ k a

theorem Settled.bind (hx : x.ReadOnly) (hf : ∀ a, (f a).Settled) : (x >>= f).Settled := by
  intro s e s' h
  have hs := hx s
  simp only [Bind.bind] at h
  cases hxs : x s with
  | mk r s₁ =>
    rw [hxs] at hs h
    subst hs
    cases r with
    | error e => cases h; rfl
    | ok a => exact hf a _ _ _ h

theorem readOnly_pure (a : α) : (pure a : Tx σ ε α).ReadOnly := fun _ => rfl

theorem readOnly_fail (e : ε) : (fail e : Tx σ ε α).ReadOnly := fun _ => rfl

theorem readOnly_gets (g : σ → α) : (gets g : Tx σ ε α).ReadOnly := fun _ => rfl

theorem readOnly_ofExcept (y : Except ε α) : (ofExcept y : Tx σ ε α).ReadOnly := fun _ => rfl

theorem readOnly_require (p : Prop) [Decidable p] (e : ε) :
    (require p e : Tx σ ε Unit).ReadOnly := by
  intro s
  by_cases h : p <;> simp [require, h]

theorem readOnly_expect (o : σ → Option α) (e : ε) : (expect o e : Tx σ ε α).ReadOnly := by
  intro s
  simp only [expect]
  split <;> rfl

end Settled

/-- Whatever becomes of it, a run of `x` takes the store along `R`. -/
class Respects (R : σ → σ → Prop) (x : Tx σ ε α) : Prop where
  respects : ∀ s, R s (x s).2

/-- Whatever becomes of it, a run of `x` leaves alone what `g` reads of the store. -/
class Keeps {γ : Type*} (g : σ → γ) (x : Tx σ ε α) : Prop where
  keeps : ∀ s, g (x s).2 = g s

section Frame

variable {R : σ → σ → Prop} {x : Tx σ ε α} {f : α → Tx σ ε β}

theorem respects_write {f : σ → σ} (h : ∀ s, R s (f s)) : Respects R (write f : Tx σ ε Unit) := ⟨h⟩

theorem wlp_respects [hx : Respects R x] {s : σ} : x.wlp (fun _ s' => R s s') s := by
  intro a s' h
  have hs := hx.respects s
  rwa [h] at hs

theorem wlp_of_respects (R : σ → σ → Prop) [Respects R x] {Q : α → σ → Prop} {s : σ}
    (k : ∀ a s', R s s' → Q a s') : x.wlp Q s := wlp_mono wlp_respects k

variable [IsPreorder σ R]

theorem ReadOnly.respects (h : x.ReadOnly) : Respects R x where
  respects s := by
    rw [h s]
    exact refl s

theorem Settled.respects (hx : x.Settled) (h : ∀ s, x.wlp (fun _ => R s) s) : Respects R x where
  respects s := by
    rcases hxs : x s with ⟨_ | a, s'⟩
    · rw [hx s _ s' hxs]
      exact refl s
    · exact h s a s' hxs

theorem respects_tryWrite {f : σ → Option σ} {e : ε} (h : ∀ s s', f s = some s' → R s s') :
    Respects R (tryWrite f e) := by
  refine ⟨fun s => ?_⟩
  simp only [tryWrite]
  split
  · exact h s _ ‹_›
  · exact refl s

instance (a : α) : Respects R (pure a : Tx σ ε α) := (readOnly_pure a).respects

instance (e : ε) : Respects R (fail e : Tx σ ε α) := (readOnly_fail e).respects

instance (h : σ → α) : Respects R (gets h : Tx σ ε α) := (readOnly_gets h).respects

instance (y : Except ε α) : Respects R (ofExcept y : Tx σ ε α) := (readOnly_ofExcept y).respects

instance (p : Prop) [Decidable p] (e : ε) : Respects R (require p e : Tx σ ε Unit) :=
  (readOnly_require p e).respects

instance (o : σ → Option α) (e : ε) : Respects R (expect o e : Tx σ ε α) :=
  (readOnly_expect o e).respects

instance Respects.bind [h : Respects R x] [k : ∀ a, Respects R (f a)] : Respects R (x >>= f) where
  respects s := by
    have hs := h.respects s
    simp only [Bind.bind]
    cases hxs : x s with
    | mk r s₁ =>
      rw [hxs] at hs
      cases r with
      | error e => exact hs
      | ok a => exact IsTrans.trans _ _ _ hs ((k a).respects s₁)

instance {p : Prop} {_ : Decidable p} {y : Tx σ ε α} [hx : Respects R x] [hy : Respects R y] :
    Respects R (if p then x else y) := by
  split
  · exact hx
  · exact hy

instance Respects.atomically [h : Respects R x] : Respects R (atomically x) where
  respects s := by
    have hs := h.respects s
    simp only [Tx.atomically]
    split
    · rename_i hxs
      rw [hxs] at hs
      exact hs
    · exact refl s

instance {δ : Type} {f : δ → Tx σ ε α} [hf : ∀ c, Respects R (f c)] (cs : List δ) :
    Respects R (traverse f cs) := by
  induction cs with
  | nil => exact inferInstanceAs (Respects R (pure []))
  | cons c cs ih =>
    exact inferInstanceAs (Respects R (f c >>= fun a => traverse f cs >>= fun as => pure (a :: as)))

instance {δ : Type} {f : α → δ → Tx σ ε α} [hf : ∀ a c, Respects R (f a c)] (a : α) (cs : List δ) :
    Respects R (fold f a cs) := by
  induction cs generalizing a with
  | nil => exact inferInstanceAs (Respects R (pure a))
  | cons c cs ih => exact inferInstanceAs (Respects R (f a c >>= fun a => fold f a cs))

end Frame

/-- The two stores read the same through `g`. -/
def Same {γ : Type*} (g : σ → γ) (s s' : σ) : Prop := g s' = g s

instance {γ : Type*} (g : σ → γ) : IsPreorder σ (Same g) where
  refl _ := rfl
  trans _ _ _ h h' := h'.trans h

theorem Respects.keeps {γ : Type*} {g : σ → γ} {x : Tx σ ε α} (h : Respects (Same g) x) : Keeps g x :=
  ⟨h.respects⟩

instance {γ : Type*} {g : σ → γ} {x : Tx σ ε α} [h : Respects (Same g) x] : Keeps g x := h.keeps

theorem wlp_keeps {γ : Type*} {g : σ → γ} {x : Tx σ ε α} [hx : Keeps g x] {s : σ} :
    x.wlp (fun _ s' => g s' = g s) s := by
  intro a s' h
  have hs := hx.keeps s
  rwa [h] at hs

end Tx

end VibeLink.Relational
