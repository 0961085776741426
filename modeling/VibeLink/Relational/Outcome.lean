import VibeLink.Relational.Transaction
import Mathlib.Tactic.Common

universe u v

namespace VibeLink.Relational.Tx

variable {σ : Type u} {ε : Type v} {α β : Type}

def reads (f : σ → Except ε α) : Tx σ ε α := fun s => (f s, s)

def attempt (x : Tx σ ε α) : Tx σ ε (Option α) := fun s => (.ok (x s).1.toOption, (x s).2)

/-- What must hold of `s` for a run of `x` from `s` to end in `Q` when it succeeds and in `E`
when it fails: the writes made before a failure stay. -/
def wp (x : Tx σ ε α) (Q : α → σ → Prop) (E : ε → σ → Prop) (s : σ) : Prop :=
  match x s with
  | (.ok a, s') => Q a s'
  | (.error e, s') => E e s'

section Rules

variable {x : Tx σ ε α} {f : α → Tx σ ε β} {Q R : α → σ → Prop} {E F : ε → σ → Prop}
  {P : β → σ → Prop} {s : σ}

theorem wp_mono (h : x.wp Q E s) (hQ : ∀ a s', Q a s' → R a s') (hE : ∀ e s', E e s' → F e s') :
    x.wp R F s := by
  simp only [wp] at h ⊢
  split
  · rename_i hx
    rw [hx] at h
    exact hQ _ _ h
  · rename_i hx
    rw [hx] at h
    exact hE _ _ h

theorem wp_and {Q' : α → σ → Prop} {E' : ε → σ → Prop} (h : x.wp Q E s) (h' : x.wp Q' E' s) :
    x.wp (fun a s' => Q a s' ∧ Q' a s') (fun e s' => E e s' ∧ E' e s') s := by
  simp only [wp] at h h' ⊢
  split <;> rename_i hx <;> rw [hx] at h h' <;> exact ⟨h, h'⟩

theorem wp_of_forall (hQ : ∀ a s', Q a s') (hE : ∀ e s', E e s') : x.wp Q E s := by
  simp only [wp]
  split
  · exact hQ _ _
  · exact hE _ _

theorem wp_iff_forall : x.wp Q E s ↔
    (∀ a s', x s = (.ok a, s') → Q a s') ∧ ∀ e s', x s = (.error e, s') → E e s' := by
  simp only [wp]
  rcases x s with ⟨_ | _, _⟩ <;> simp

theorem wp_snd {I : σ → Prop} : x.wp (fun _ => I) (fun _ => I) s ↔ I (x s).2 := by
  simp only [wp]
  rcases x s with ⟨_ | _, _⟩ <;> rfl

@[simp] theorem wp_pure {a : α} : (pure a : Tx σ ε α).wp Q E = Q a := rfl

@[simp] theorem wp_bind : (x >>= f).wp P E = x.wp (fun a => (f a).wp P E) E := by
  funext s
  simp only [wp, Bind.bind]
  rcases x s with ⟨_ | _, _⟩ <;> rfl

@[simp] theorem wp_fail {e : ε} : (fail e : Tx σ ε α).wp Q E = E e := rfl

@[simp] theorem wp_gets {g : σ → α} : (gets g : Tx σ ε α).wp Q E = fun s => Q (g s) s := rfl

@[simp] theorem wp_write {g : σ → σ} {Q : Unit → σ → Prop} :
    (write g : Tx σ ε Unit).wp Q E = fun s => Q () (g s) := rfl

@[simp] theorem wp_require {p : Prop} [Decidable p] {e : ε} {Q : Unit → σ → Prop} :
    (require p e : Tx σ ε Unit).wp Q E = fun s => (p → Q () s) ∧ (¬p → E e s) := by
  funext s
  by_cases hp : p <;> simp [wp, require, hp]

@[simp] theorem wp_reads {g : σ → Except ε α} : (reads g : Tx σ ε α).wp Q E = fun s =>
    (∀ a, g s = .ok a → Q a s) ∧ ∀ e, g s = .error e → E e s := by
  funext s
  simp only [wp, reads]
  cases h : g s <;> simp

@[simp] theorem wp_attempt {Q : Option α → σ → Prop} :
    (attempt x).wp Q E = x.wp (fun a => Q (some a)) fun _ => Q none := by
  funext s
  simp only [wp, attempt]
  rcases x s with ⟨_ | _, _⟩ <;> rfl

theorem wlp_attempt {Q : Option α → σ → Prop} : (attempt x).wlp Q = fun s => Q (x s).1.toOption (x s).2 := by
  funext s
  apply propext
  constructor
  · intro h
    exact h _ _ rfl
  · rintro h _ _ ⟨⟩
    exact h

@[simp] theorem wp_ofExcept {y : Except ε α} : (ofExcept y : Tx σ ε α).wp Q E = fun s =>
    (∀ a, y = .ok a → Q a s) ∧ ∀ e, y = .error e → E e s := by
  funext s
  cases y <;> simp [wp, ofExcept]

@[simp] theorem wp_expect {o : σ → Option α} {e : ε} : (expect o e : Tx σ ε α).wp Q E = fun s =>
    (∀ a, o s = some a → Q a s) ∧ (o s = none → E e s) := by
  funext s
  cases h : o s <;> simp [wp, expect, h]

@[simp] theorem wp_tryWrite {g : σ → Option σ} {e : ε} {Q : Unit → σ → Prop} :
    (tryWrite g e : Tx σ ε Unit).wp Q E = fun s => (∀ s', g s = some s' → Q () s') ∧ (g s = none → E e s) := by
  funext s
  cases h : g s <;> simp [wp, tryWrite, h]

@[simp] theorem wp_ite {p : Prop} [Decidable p] {y : Tx σ ε α} :
    (if p then x else y).wp Q E = fun s => (p → x.wp Q E s) ∧ (¬p → y.wp Q E s) := by
  funext s
  by_cases hp : p <;> simp [hp]

theorem readOnly_reads (g : σ → Except ε α) : (reads g).ReadOnly := fun _ => rfl

instance {R : σ → σ → Prop} [IsPreorder σ R] (g : σ → Except ε α) : Respects R (reads g) :=
  (readOnly_reads g).respects

instance {R : σ → σ → Prop} [hx : Respects R x] : Respects R (attempt x) := ⟨hx.respects⟩

theorem respects_of_wp {R : σ → σ → Prop} (h : ∀ s, x.wp (fun _ => R s) (fun _ => R s) s) :
    Respects R x := ⟨fun s => wp_snd.1 (h s)⟩

theorem wp_of_respects (R : σ → σ → Prop) [hx : Respects R x] (hQ : ∀ a s', R s s' → Q a s')
    (hE : ∀ e s', R s s' → E e s') : x.wp Q E s := by
  have hs := hx.respects s
  rw [wp_iff_forall]
  constructor
  · intro a s' h
    rw [h] at hs
    exact hQ a s' hs
  · intro e s' h
    rw [h] at hs
    exact hE e s' hs

theorem wp_traverse_aux {γ : Type} {f : γ → Tx σ ε α} {I : List γ → List α → σ → Prop}
    {cs : List γ} : ∀ {pre : List γ} {done : List α} {s : σ}, I pre done s →
      (∀ mid c post, cs = mid ++ c :: post → ∀ as s, I (pre ++ mid) as s →
        (f c).wp (fun a => I (pre ++ mid ++ [c]) (as ++ [a])) E s) →
      (Tx.traverse f cs).wp (fun as => I (pre ++ cs) (done ++ as)) E s := by
  induction cs with
  | nil => intro pre done s h _; simpa [Tx.traverse] using h
  | cons c cs ih =>
    intro pre done s h hf
    simp only [Tx.traverse, wp_bind, wp_pure]
    refine wp_mono (hf [] c cs rfl done s (by simpa using h)) ?_ fun _ _ h => h
    intro a s₁ h₁
    rw [List.append_nil] at h₁
    refine wp_mono (ih h₁ ?_) ?_ fun _ _ h => h
    · intro mid c' post hcs as s₂ h₂
      have := hf (c :: mid) c' post (by rw [hcs]; rfl) as s₂ (by simpa using h₂)
      simpa using this
    · intro as s₂ h₂
      simpa using h₂

theorem wp_traverse {γ : Type} {f : γ → Tx σ ε α} {I : List γ → List α → σ → Prop} {cs : List γ}
    (h : I [] [] s) (hf : ∀ pre c post, cs = pre ++ c :: post → ∀ as s, I pre as s →
      (f c).wp (fun a => I (pre ++ [c]) (as ++ [a])) E s) : (Tx.traverse f cs).wp (I cs) E s := by
  have hf' : ∀ pre c post, cs = pre ++ c :: post → ∀ as s, I ([] ++ pre) as s →
      (f c).wp (fun a => I ([] ++ pre ++ [c]) (as ++ [a])) E s := by simpa using hf
  simpa using wp_traverse_aux h hf'

end Rules

end VibeLink.Relational.Tx

/-! Calls that may fail, and have no state. -/

namespace VibeLink.Relational

variable {ε : Type u} {α β : Type v}

theorem bind_eq_ok {x : Except ε α} {f : α → Except ε β} {b : β} :
    x >>= f = .ok b ↔ ∃ a, x = .ok a ∧ f a = .ok b := by
  cases x with
  | ok a =>
    constructor
    · exact fun done => ⟨a, rfl, done⟩
    · rintro ⟨_, ⟨⟩, done⟩
      exact done
  | error e =>
    constructor
    · intro done
      cases done
    · rintro ⟨_, ⟨⟩, _⟩

theorem map_eq_ok {f : α → β} {x : Except ε α} {b : β} : f <$> x = .ok b ↔ ∃ a, x = .ok a ∧ f a = b := by
  cases x with
  | ok a => exact ⟨fun same => ⟨a, rfl, Except.ok.inj same⟩, fun ⟨_, same, value⟩ => by cases same; rw [← value]; rfl⟩
  | error e => exact ⟨nofun, nofun⟩

theorem mapError_eq_ok {δ : Type u} {x : Except ε α} {f : ε → δ} {a : α} : x.mapError f = .ok a ↔ x = .ok a := by
  cases x with
  | ok => exact ⟨fun same => congrArg Except.ok (Except.ok.inj same), fun same => congrArg _ (Except.ok.inj same)⟩
  | error => exact ⟨nofun, nofun⟩

end VibeLink.Relational
