import VibeLink.Relational.Outcome

/-! Calls of several steps, each of which may fail or be the last one before a crash. -/

universe u v

namespace VibeLink.Relational

/-- How a step goes.  One that is cut short may have had a part of its effect. -/
inductive Fate
  | done
  | failed (part : Option Nat)
  | crashed (part : Option Nat)
  deriving DecidableEq

/-- Why a call has no value: a step says so by itself, the world lets it down, or there is nobody left to tell. -/
inductive Fault (ε : Type v)
  | refused (error : ε)
  | failed (error : ε)
  | crashed
  deriving DecidableEq

/-- A state, and what is to become of the next steps.  Those behind the last fate are done. -/
structure Faulty (σ : Type u) where
  state : σ
  fates : List Fate
  deriving DecidableEq

namespace Tx

variable {σ : Type u} {ε : Type v} {α β : Type}

def settle (fates : List Fate) : Except ε α × σ → Except (Fault ε) α × Faulty σ
  | (.ok a, s) => (.ok a, ⟨s, fates⟩)
  | (.error e, s) => (.error (.refused e), ⟨s, fates⟩)

/-- `torn` is what a step that is cut short leaves behind. -/
def step (torn : Option Nat → σ → σ) (error : ε) (x : Tx σ ε α) : Tx (Faulty σ) (Fault ε) α := fun w =>
  match w.fates with
  | .failed part :: fates => (.error (.failed error), ⟨torn part w.state, fates⟩)
  | .crashed part :: fates => (.error .crashed, ⟨torn part w.state, fates⟩)
  | fates => settle fates.tail (x w.state)

def query (f : σ → Bool) : Tx (Faulty σ) (Fault ε) Bool := fun w =>
  match w.fates with
  | .failed _ :: fates => (.ok false, ⟨w.state, fates⟩)
  | .crashed _ :: fates => (.error .crashed, ⟨w.state, fates⟩)
  | fates => (.ok (f w.state), ⟨w.state, fates.tail⟩)

/-- The fault that is passed on when something has been done about it. -/
def pass (fault : Fault ε) : Except (Fault ε) Unit × Faulty σ → Except (Fault ε) α × Faulty σ
  | (.error .crashed, w) => (.error .crashed, w)
  | (_, w) => (.error fault, w)

/-- What is done about a failure before it is passed on; a crash gives no time for it. -/
def orElse (x : Tx (Faulty σ) (Fault ε) α) (remedy : Tx (Faulty σ) (Fault ε) Unit) : Tx (Faulty σ) (Fault ε) α :=
  fun w => match x w with
  | (.ok a, w') => (.ok a, w')
  | (.error .crashed, w') => (.error .crashed, w')
  | (.error fault, w') => pass fault (remedy w')

/-- Whatever becomes of the steps: `Q` where the call succeeds, and `C` where it is cut short. -/
structure Survives (x : Tx (Faulty σ) (Fault ε) α) (Q : α → σ → Prop) (C : Fault ε → σ → Prop) (s : σ) : Prop where
  ran : ∀ fates, x.wp (fun a w => Q a w.state) (fun fault w => C fault w.state) ⟨s, fates⟩

section Rules

variable {x : Tx (Faulty σ) (Fault ε) α} {f : α → Tx (Faulty σ) (Fault ε) β} {Q R : α → σ → Prop} {P : β → σ → Prop}
  {C D : Fault ε → σ → Prop} {s : σ}

theorem Survives.mono (survives : x.Survives Q C s) (post : ∀ a t, Q a t → R a t)
    (crash : ∀ fault t, C fault t → D fault t) : x.Survives R D s where
  ran fates := wp_mono (survives.ran fates) (fun a w => post a w.state) fun fault w => crash fault w.state

theorem survives_pure {a : α} (post : Q a s) : (pure a : Tx (Faulty σ) (Fault ε) α).Survives Q C s := ⟨fun _ => post⟩

theorem survives_fail {fault : Fault ε} (crash : C fault s) :
    (fail fault : Tx (Faulty σ) (Fault ε) α).Survives Q C s := ⟨fun _ => crash⟩

theorem Survives.bind (first : x.Survives (fun a => (f a).Survives P C) C s) : (x >>= f).Survives P C s := by
  refine ⟨fun fates => ?_⟩
  rw [wp_bind]
  exact wp_mono (first.ran fates) (fun _ w rest => rest.ran w.fates) fun _ _ crash => crash

theorem wp_settle {x : Tx σ ε α} (w : Faulty σ) {rest : List Fate} {Q : α → Faulty σ → Prop}
    {E : Fault ε → Faulty σ → Prop}
    (done : x.wp (fun a t => Q a ⟨t, rest⟩) (fun error t => E (.refused error) ⟨t, rest⟩) s) :
    wp (fun _ => settle rest (x s)) Q E w := by
  simp only [wp] at done ⊢
  cases same : x s with
  | mk result t =>
    rw [same] at done
    cases result with
    | ok a => exact done
    | error e => exact done

theorem Survives.seq (first : x.Survives Q C s) (rest : ∀ a t, Q a t → (f a).Survives P C t) :
    (x >>= f).Survives P C s := (first.mono rest fun _ _ => id).bind

theorem survives_step {torn : Option Nat → σ → σ} {error : ε} {x : Tx σ ε α}
    (done : x.wp Q (fun error => C (.refused error)) s) (failed : ∀ part, C (.failed error) (torn part s))
    (crashed : ∀ part, C .crashed (torn part s)) : (step torn error x).Survives Q C s := by
  refine ⟨fun fates => ?_⟩
  cases fates with
  | nil => exact wp_settle ⟨s, []⟩ done
  | cons fate fates =>
    cases fate with
    | done => exact wp_settle ⟨s, .done :: fates⟩ done
    | failed part => exact failed part
    | crashed part => exact crashed part

theorem survives_query {f : σ → Bool} {Q : Bool → σ → Prop} (asked : Q (f s) s) (silent : Q false s)
    (crashed : C .crashed s) : (query f : Tx (Faulty σ) (Fault ε) Bool).Survives Q C s := by
  refine ⟨fun fates => ?_⟩
  cases fates with
  | nil => exact asked
  | cons fate fates =>
    cases fate with
    | done => exact asked
    | failed part => exact silent
    | crashed part => exact crashed

theorem survives_pass {remedy : Tx (Faulty σ) (Fault ε) Unit} {fault : Fault ε}
    (remedied : remedy.Survives (fun _ => C fault) (fun _ t => C fault t ∧ C .crashed t) s) :
    Survives (fun w => pass fault (remedy w)) Q C s := by
  refine ⟨fun fates => ?_⟩
  have run := remedied.ran fates
  simp only [wp] at run ⊢
  cases ran : remedy ⟨s, fates⟩ with
  | mk result w =>
    rw [ran] at run
    cases result with
    | ok => exact run
    | error again =>
      cases again with
      | crashed => exact run.2
      | refused => exact run.1
      | failed => exact run.1

theorem Survives.orElse {remedy : Tx (Faulty σ) (Fault ε) Unit} (first : x.Survives Q D s)
    (crashed : ∀ t, D .crashed t → C .crashed t)
    (remedied : ∀ fault t, D fault t → remedy.Survives (fun _ => C fault) (fun _ u => C fault u ∧ C .crashed u) t) :
    (x.orElse remedy).Survives Q C s := by
  refine ⟨fun fates => ?_⟩
  have run := first.ran fates
  simp only [wp, Tx.orElse] at run ⊢
  cases ran : x ⟨s, fates⟩ with
  | mk result w =>
    rw [ran] at run
    cases result with
    | ok a => exact run
    | error fault =>
      cases fault with
      | crashed => exact crashed _ run
      | refused error => exact (survives_pass (remedied _ _ run)).ran w.fates
      | failed error => exact (survives_pass (remedied _ _ run)).ran w.fates

theorem wp_step {torn : Option Nat → σ → σ} {error : ε} {x : Tx σ ε α} {Q : α → Faulty σ → Prop}
    {E : Fault ε → Faulty σ → Prop} : (step torn error x).wp Q E ⟨s, []⟩ ↔
      x.wp (fun a t => Q a ⟨t, []⟩) (fun error t => E (.refused error) ⟨t, []⟩) s := by
  simp only [wp, step]
  cases x s with
  | mk result t =>
    cases result with
    | ok a => rfl
    | error e => rfl

end Rules

def Within (R : σ → σ → Prop) (w w' : Faulty σ) : Prop := R w.state w'.state

section Frame

variable {R : σ → σ → Prop} [IsPreorder σ R]

instance : IsPreorder (Faulty σ) (Within R) where
  refl w := refl_of R w.state
  trans _ _ _ first second := trans_of R first second

omit [IsPreorder σ R] in
theorem respects_step {torn : Option Nat → σ → σ} {error : ε} {x : Tx σ ε α} [done : Respects R x]
    (cut : ∀ part s, R s (torn part s)) : Respects (Within R) (step torn error x) where
  respects w := by
    have ran (rest : List Fate) : Within R w (settle rest (x w.state)).2 := by
      have kept := done.respects w.state
      cases same : x w.state with
      | mk result t =>
        rw [same] at kept
        cases result with
        | ok => exact kept
        | error => exact kept
    simp only [step]
    split
    · exact cut _ _
    · exact cut _ _
    · exact ran _

instance (f : σ → Bool) : Respects (Within R) (query f : Tx (Faulty σ) (Fault ε) Bool) where
  respects w := by
    simp only [query]
    split
    · exact refl_of R w.state
    · exact refl_of R w.state
    · exact refl_of R w.state

omit [IsPreorder σ R] in
theorem Survives.of_respects {x : Tx (Faulty σ) (Fault ε) α} [kept : Respects (Within R) x] {s : σ} :
    x.Survives (fun _ => R s) (fun _ => R s) s := by
  refine ⟨fun fates => ?_⟩
  rw [wp_snd (I := fun w : Faulty σ => R s w.state)]
  exact kept.respects ⟨s, fates⟩

end Frame

end Tx

end VibeLink.Relational
