import Mathlib.Data.List.Induction
import Mathlib.Logic.Function.Basic
import Mathlib.Tactic.Common

/-! Programs that issue instructions and go on with the replies, and calls of them side by side. -/

universe u v w

namespace VibeLink.Relational

/-- A program returns, fails, or issues an instruction and goes on with the reply. -/
inductive Program {ι : Type u} (Reply : ι → Type u) (ε α : Type u) : Type u
  | pure (a : α)
  | fail (e : ε)
  | issue (i : ι) (next : Reply i → Program Reply ε α)

namespace Program

variable {ι : Type u} {Reply : ι → Type u} {ε ε' α β : Type u}

def bind : Program Reply ε α → (α → Program Reply ε β) → Program Reply ε β
  | .pure a, f => f a
  | .fail e, _ => .fail e
  | .issue i next, f => .issue i fun r => (next r).bind f

instance : Monad (Program Reply ε) where
  pure := .pure
  bind := .bind

def issued (i : ι) : Program Reply ε (Reply i) := .issue i .pure

def attempt : Program Reply ε α → Program Reply ε' (Except ε α)
  | .pure a => .pure (.ok a)
  | .fail e => .pure (.error e)
  | .issue i next => .issue i fun r => (next r).attempt

def mapError (f : ε → ε') : Program Reply ε α → Program Reply ε' α
  | .pure a => .pure a
  | .fail e => .fail (f e)
  | .issue i next => .issue i fun r => (next r).mapError f

@[simp] theorem pure_bind (a : α) (f : α → Program Reply ε β) : (Program.pure a).bind f = f a := rfl

@[simp] theorem fail_bind (e : ε) (f : α → Program Reply ε β) : (Program.fail e).bind f = .fail e := rfl

@[simp] theorem issue_bind (i : ι) (next : Reply i → Program Reply ε α) (f : α → Program Reply ε β) :
    (Program.issue i next).bind f = .issue i fun r => (next r).bind f := rfl

section Executions

/-- With these replies the program ends so. -/
inductive Ends : Program Reply ε α → List (Sigma Reply) → Except ε α → Prop
  | pure (a : α) : Ends (.pure a) [] (.ok a)
  | fail (e : ε) : Ends (.fail e) [] (.error e)
  | issue {i : ι} {next : Reply i → Program Reply ε α} (r : Reply i) {trace : List (Sigma Reply)}
    {result : Except ε α} (rest : Ends (next r) trace result) : Ends (.issue i next) (⟨i, r⟩ :: trace) result

/-- After these replies the instruction is issued. -/
inductive Issues : Program Reply ε α → List (Sigma Reply) → ι → Prop
  | here {i : ι} {next : Reply i → Program Reply ε α} : Issues (.issue i next) [] i
  | later {i j : ι} {next : Reply i → Program Reply ε α} (r : Reply i) {trace : List (Sigma Reply)}
    (rest : Issues (next r) trace j) : Issues (.issue i next) (⟨i, r⟩ :: trace) j

theorem Ends.bind {p : Program Reply ε α} {f : α → Program Reply ε β} {trace : List (Sigma Reply)} {a : α}
    (ends : p.Ends trace (.ok a)) {rest : List (Sigma Reply)} {result : Except ε β}
    (goes : (f a).Ends rest result) : (p >>= f).Ends (trace ++ rest) result := by
  induction p generalizing trace with
  | pure b =>
    cases ends
    exact goes
  | fail e => cases ends
  | issue i next ih =>
    cases ends with
    | issue r rest => exact .issue r (ih r rest)

theorem Issues.bind {p : Program Reply ε α} {f : α → Program Reply ε β} {trace : List (Sigma Reply)} {a : α}
    (ends : p.Ends trace (.ok a)) {rest : List (Sigma Reply)} {i : ι}
    (goes : (f a).Issues rest i) : (p >>= f).Issues (trace ++ rest) i := by
  induction p generalizing trace with
  | pure b =>
    cases ends
    exact goes
  | fail e => cases ends
  | issue i next ih =>
    cases ends with
    | issue r rest => exact .later r (ih r rest)

theorem Ends.of_pure {a : α} {trace : List (Sigma Reply)} {result : Except ε α}
    (ends : (Program.pure a : Program Reply ε α).Ends trace result) : trace = [] ∧ result = .ok a := by
  cases ends
  exact ⟨rfl, rfl⟩

theorem Ends.of_fail {e : ε} {trace : List (Sigma Reply)} {result : Except ε α}
    (ends : (Program.fail e : Program Reply ε α).Ends trace result) : trace = [] ∧ result = .error e := by
  cases ends
  exact ⟨rfl, rfl⟩

theorem Ends.of_issued {i : ι} {trace : List (Sigma Reply)} {r : Reply i}
    (ends : (issued i : Program Reply ε (Reply i)).Ends trace (.ok r)) : trace = [⟨i, r⟩] := by
  cases ends with
  | issue r rest =>
    cases rest
    rfl

theorem Ends.of_bind {p : Program Reply ε α} {f : α → Program Reply ε β} {trace : List (Sigma Reply)} {b : β}
    (ends : (p >>= f).Ends trace (.ok b)) :
    ∃ first rest a, trace = first ++ rest ∧ p.Ends first (.ok a) ∧ (f a).Ends rest (.ok b) := by
  induction p generalizing trace with
  | pure a => exact ⟨[], trace, a, rfl, .pure a, ends⟩
  | fail e => exact nomatch ends
  | issue i next ih =>
    cases ends with
    | issue r rest =>
      obtain ⟨first, later, a, rfl, before, after⟩ := ih r rest
      exact ⟨⟨i, r⟩ :: first, later, a, rfl, .issue r before, after⟩

theorem Ends.of_issued_bind {i : ι} {f : Reply i → Program Reply ε α} {trace : List (Sigma Reply)} {a : α}
    (ends : (issued i >>= f).Ends trace (.ok a)) :
    ∃ r rest, trace = ⟨i, r⟩ :: rest ∧ (f r).Ends rest (.ok a) := by
  obtain ⟨first, rest, r, rfl, before, after⟩ := ends.of_bind
  rw [before.of_issued]
  exact ⟨r, rest, rfl, after⟩

theorem Ends.of_attempt {p : Program Reply ε α} {trace : List (Sigma Reply)} {result : Except ε α}
    (ends : (p.attempt : Program Reply ε' (Except ε α)).Ends trace (.ok result)) : p.Ends trace result := by
  induction p generalizing trace with
  | pure a =>
    cases ends
    exact .pure a
  | fail e =>
    cases ends
    exact .fail e
  | issue i next ih =>
    cases ends with
    | issue r rest => exact .issue r (ih r rest)

theorem Ends.attempt {p : Program Reply ε α} {trace : List (Sigma Reply)} {result : Except ε α}
    (ends : p.Ends trace result) : (p.attempt : Program Reply ε' (Except ε α)).Ends trace (.ok result) := by
  induction ends with
  | pure a => exact .pure _
  | fail e => exact .pure _
  | issue r rest ih => exact .issue r ih

theorem Issues.of_left {p : Program Reply ε α} {f : α → Program Reply ε β} {trace : List (Sigma Reply)} {i : ι}
    (issues : p.Issues trace i) : (p >>= f).Issues trace i := by
  induction issues with
  | here => exact .here
  | later r rest ih => exact .later r ih

theorem Issues.attempt {p : Program Reply ε α} {trace : List (Sigma Reply)} {i : ι} (issues : p.Issues trace i) :
    (p.attempt : Program Reply ε' (Except ε α)).Issues trace i := by
  induction issues with
  | here => exact .here
  | later r rest ih => exact .later r ih

end Executions

section Histories

/-- What is asked of a state, and how what the state does not determine is answered. -/
structure Moment (σ : Type v) (Reply : ι → Type u) where
  state : σ
  instr : ι
  answer : Reply instr

variable {σ : Type v} (execute : σ → (i : ι) → Reply i → σ × Reply i)

def Moment.event (moment : Moment σ Reply) : Sigma Reply :=
  ⟨moment.instr, (execute moment.state moment.instr moment.answer).2⟩

def Moment.after (moment : Moment σ Reply) : σ := (execute moment.state moment.instr moment.answer).1

def passage (answer : (i : ι) → Reply i) : σ → Program Reply ε α → List (Moment σ Reply)
  | _, .pure _ => []
  | _, .fail _ => []
  | s, .issue i next =>
    ⟨s, i, answer i⟩ :: passage answer (execute s i (answer i)).1 (next (execute s i (answer i)).2)

def outcome (answer : (i : ι) → Reply i) : σ → Program Reply ε α → Except ε α
  | _, .pure a => .ok a
  | _, .fail e => .error e
  | s, .issue i next => outcome answer (execute s i (answer i)).1 (next (execute s i (answer i)).2)

theorem ends_passage (answer : (i : ι) → Reply i) (s : σ) (p : Program Reply ε α) :
    p.Ends ((passage execute answer s p).map (Moment.event execute)) (outcome execute answer s p) := by
  induction p generalizing s with
  | pure a => exact .pure a
  | fail e => exact .fail e
  | issue i next ih => exact .issue _ (ih _ _)

theorem Ends.issues {p : Program Reply ε α} {past later : List (Sigma Reply)} {event : Sigma Reply}
    {result : Except ε α} (ends : p.Ends (past ++ event :: later) result) : p.Issues past event.1 := by
  induction past generalizing p with
  | nil =>
    cases ends with
    | issue r rest => exact .here
  | cons first past ih =>
    cases ends with
    | issue r rest => exact .later r (ih rest)

end Histories

section Possibilities

variable {S : Sigma Reply → Prop} {p : Program Reply ε α} {f : α → Program Reply ε β} {a : α} {i : ι}

def May (S : Sigma Reply → Prop) (p : Program Reply ε α) (result : Except ε α) : Prop :=
  ∃ trace, (∀ event ∈ trace, S event) ∧ p.Ends trace result

def MayIssue (S : Sigma Reply → Prop) (p : Program Reply ε α) (i : ι) : Prop :=
  ∃ trace, (∀ event ∈ trace, S event) ∧ p.Issues trace i

theorem may_pure : (Program.pure a : Program Reply ε α).May S (.ok a) := ⟨[], List.forall_mem_nil _, .pure a⟩

theorem may_issued {r : Reply i} (such : S ⟨i, r⟩) : (issued i : Program Reply ε (Reply i)).May S (.ok r) :=
  ⟨[⟨i, r⟩], List.forall_mem_singleton.2 such, .issue r (.pure r)⟩

theorem may_bind (first : p.May S (.ok a)) {result : Except ε β} (rest : (f a).May S result) :
    (p >>= f).May S result := by
  obtain ⟨before, such, ends⟩ := first
  obtain ⟨after, also, goes⟩ := rest
  exact ⟨before ++ after, List.forall_mem_append.2 ⟨such, also⟩, ends.bind goes⟩

theorem May.attempt {result : Except ε α} (may : p.May S result) :
    (p.attempt : Program Reply ε' (Except ε α)).May S (.ok result) := by
  obtain ⟨trace, such, ends⟩ := may
  exact ⟨trace, such, ends.attempt⟩

theorem mayIssue_bind (first : p.May S (.ok a)) (rest : (f a).MayIssue S i) : (p >>= f).MayIssue S i := by
  obtain ⟨before, such, ends⟩ := first
  obtain ⟨after, also, goes⟩ := rest
  exact ⟨before ++ after, List.forall_mem_append.2 ⟨such, also⟩, .bind ends goes⟩

theorem mayIssue_issued : (issued i : Program Reply ε (Reply i)).MayIssue S i :=
  ⟨[], List.forall_mem_nil _, .here⟩

theorem MayIssue.of_left (issues : p.MayIssue S i) : (p >>= f).MayIssue S i := by
  obtain ⟨trace, such, goes⟩ := issues
  exact ⟨trace, such, goes.of_left⟩

theorem MayIssue.attempt (issues : p.MayIssue S i) : (p.attempt : Program Reply ε' (Except ε α)).MayIssue S i := by
  obtain ⟨trace, such, goes⟩ := issues
  exact ⟨trace, such, goes.attempt⟩

end Possibilities

section Instructions

variable {S T : ι → Prop} {p : Program Reply ε α} {f : α → Program Reply ε β}

def Only (S : ι → Prop) : Program Reply ε α → Prop
  | .pure _ => True
  | .fail _ => True
  | .issue i next => S i ∧ ∀ r, (next r).Only S

@[simp] theorem only_pure (a : α) : (Program.pure a : Program Reply ε α).Only S := trivial

@[simp] theorem only_fail (e : ε) : (Program.fail e : Program Reply ε α).Only S := trivial

theorem only_bind (first : p.Only S) (rest : ∀ a, (f a).Only S) : (p >>= f).Only S := by
  induction p with
  | pure a => exact rest a
  | fail e => trivial
  | issue i next ih => exact ⟨first.1, fun r => ih r (first.2 r)⟩

theorem only_attempt (only : p.Only S) : (p.attempt : Program Reply ε' (Except ε α)).Only S := by
  induction p with
  | pure a => trivial
  | fail e => trivial
  | issue i next ih => exact ⟨only.1, fun r => ih r (only.2 r)⟩

theorem only_mapError {g : ε → ε'} (only : p.Only S) : (p.mapError g).Only S := by
  induction p with
  | pure a => trivial
  | fail e => trivial
  | issue i next ih => exact ⟨only.1, fun r => ih r (only.2 r)⟩

theorem only_issued {i : ι} (only : S i) : (issued i : Program Reply ε (Reply i)).Only S := ⟨only, fun _ => trivial⟩

theorem only_ite {c : Prop} [Decidable c] {q : Program Reply ε α} (first : p.Only S) (second : q.Only S) :
    (if c then p else q).Only S := by
  split
  · exact first
  · exact second

theorem Only.mono (only : p.Only S) (implies : ∀ i, S i → T i) : p.Only T := by
  induction p with
  | pure a => trivial
  | fail e => trivial
  | issue i next ih => exact ⟨implies i only.1, fun r => ih r (only.2 r)⟩

theorem only_any (p : Program Reply ε α) : p.Only fun _ => True := by
  induction p with
  | pure a => trivial
  | fail e => trivial
  | issue i next ih => exact ⟨trivial, ih⟩

theorem Only.ends (only : p.Only S) {trace : List (Sigma Reply)} {result : Except ε α}
    (ends : p.Ends trace result) : ∀ event ∈ trace, S event.1 := by
  induction p generalizing trace with
  | pure a =>
    cases ends
    exact fun _ member => nomatch member
  | fail e =>
    cases ends
    exact fun _ member => nomatch member
  | issue i next ih =>
    cases ends with
    | issue r rest =>
      intro event member
      cases member with
      | head => exact only.1
      | tail _ later => exact ih r (only.2 r) rest event later

end Instructions

section Specifications

variable (Allowed : Sigma Reply → Prop) (P : List (Sigma Reply) → ι → Prop)

/-- Each instruction may be issued after what has been replied before, and the program ends as it should. -/
def wp (Q : List (Sigma Reply) → Except ε α → Prop) : List (Sigma Reply) → Program Reply ε α → Prop
  | past, .pure a => Q past (.ok a)
  | past, .fail e => Q past (.error e)
  | past, .issue i next => P past i ∧ ∀ r, Allowed ⟨i, r⟩ → (next r).wp Q (past ++ [⟨i, r⟩])

def Then (Q : List (Sigma Reply) → Except ε β → Prop) (f : α → Program Reply ε β) (past : List (Sigma Reply)) :
    Except ε α → Prop
  | .ok a => (f a).wp Allowed P Q past
  | .error e => Q past (.error e)

variable {Allowed P} {Q Q' : List (Sigma Reply) → Except ε α → Prop} {p : Program Reply ε α}
  {past : List (Sigma Reply)}

theorem wp_pure {a : α} : (Program.pure a).wp Allowed P Q past ↔ Q past (.ok a) := Iff.rfl

theorem wp_fail {e : ε} : (Program.fail e).wp Allowed P Q past ↔ Q past (.error e) := Iff.rfl

theorem wp_issue {i : ι} {next : Reply i → Program Reply ε α} : (Program.issue i next).wp Allowed P Q past ↔
    P past i ∧ ∀ r, Allowed ⟨i, r⟩ → (next r).wp Allowed P Q (past ++ [⟨i, r⟩]) := Iff.rfl

theorem wp_bind {R : List (Sigma Reply) → Except ε β → Prop} {f : α → Program Reply ε β} :
    (p >>= f).wp Allowed P R past ↔ p.wp Allowed P (Then Allowed P R f) past := by
  induction p generalizing past with
  | pure a => exact Iff.rfl
  | fail e => exact Iff.rfl
  | issue i next ih => exact and_congr_right fun _ => forall_congr' fun r => imp_congr_right fun _ => ih r

theorem wp_attempt {R : List (Sigma Reply) → Except ε' (Except ε α) → Prop} :
    p.attempt.wp Allowed P R past ↔ p.wp Allowed P (fun past result => R past (.ok result)) past := by
  induction p generalizing past with
  | pure a => exact Iff.rfl
  | fail e => exact Iff.rfl
  | issue i next ih => exact and_congr_right fun _ => forall_congr' fun r => imp_congr_right fun _ => ih r

theorem wp_mono (holds : p.wp Allowed P Q past) (implies : ∀ past result, Q past result → Q' past result) :
    p.wp Allowed P Q' past := by
  induction p generalizing past with
  | pure a => exact implies _ _ holds
  | fail e => exact implies _ _ holds
  | issue i next ih => exact ⟨holds.1, fun r allowed => ih r (holds.2 r allowed)⟩

theorem wp_weaken {P' : List (Sigma Reply) → ι → Prop} (holds : p.wp Allowed P Q past)
    (weaker : ∀ past i, P past i → P' past i) : p.wp Allowed P' Q past := by
  induction p generalizing past with
  | pure a => exact holds
  | fail e => exact holds
  | issue i next ih => exact ⟨weaker _ _ holds.1, fun r allowed => ih r (holds.2 r allowed)⟩

theorem wp_iff : p.wp Allowed P Q past ↔
    (∀ trace i, (∀ event ∈ trace, Allowed event) → p.Issues trace i → P (past ++ trace) i) ∧
    (∀ trace result, (∀ event ∈ trace, Allowed event) → p.Ends trace result → Q (past ++ trace) result) := by
  induction p generalizing past with
  | pure a =>
    constructor
    · intro holds
      refine ⟨fun trace i _ issues => ?_, fun trace result _ ends => ?_⟩
      · cases issues
      · cases ends
        rwa [List.append_nil]
    · intro holds
      have here := holds.2 [] _ (fun _ member => nomatch member) (.pure a)
      rwa [List.append_nil] at here
  | fail e =>
    constructor
    · intro holds
      refine ⟨fun trace i _ issues => ?_, fun trace result _ ends => ?_⟩
      · cases issues
      · cases ends
        rwa [List.append_nil]
    · intro holds
      have here := holds.2 [] _ (fun _ member => nomatch member) (.fail e)
      rwa [List.append_nil] at here
  | issue i next ih =>
    constructor
    · intro holds
      refine ⟨fun trace j allowed issues => ?_, fun trace result allowed ends => ?_⟩
      · cases issues with
        | here =>
          rw [List.append_nil]
          exact holds.1
        | later r rest =>
          have later := (ih r).1 (holds.2 r (allowed _ List.mem_cons_self))
          rw [List.append_cons]
          exact later.1 _ j (fun event member => allowed event (List.mem_cons_of_mem _ member)) rest
      · cases ends with
        | issue r rest =>
          have later := (ih r).1 (holds.2 r (allowed _ List.mem_cons_self))
          rw [List.append_cons]
          exact later.2 _ result (fun event member => allowed event (List.mem_cons_of_mem _ member)) rest
    · intro holds
      constructor
      · have here := holds.1 [] i (fun _ member => nomatch member) .here
        rwa [List.append_nil] at here
      · intro r allowed
        have within {trace : List (Sigma Reply)} (rest : ∀ event ∈ trace, Allowed event) :
            ∀ event ∈ (⟨i, r⟩ :: trace : List (Sigma Reply)), Allowed event :=
          List.forall_mem_cons.2 ⟨allowed, rest⟩
        refine (ih r).2 ⟨fun trace j rest issues => ?_, fun trace result rest ends => ?_⟩
        · rw [List.append_assoc]
          exact holds.1 _ j (within rest) (.later r issues)
        · rw [List.append_assoc]
          exact holds.2 _ result (within rest) (.issue r ends)

theorem wp_of_only {S : ι → Prop} (only : p.Only S) (may : ∀ past i, S i → P past i) :
    p.wp Allowed P (fun _ _ => True) past := by
  induction p generalizing past with
  | pure a => trivial
  | fail e => trivial
  | issue i next ih => exact ⟨may past i only.1, fun r _ => ih r (only.2 r)⟩

theorem wp_of_ends (safe : p.wp Allowed P (fun _ _ => True) past)
    (ends : ∀ trace result, (∀ event ∈ trace, Allowed event) → p.Ends trace result → Q (past ++ trace) result) :
    p.wp Allowed P Q past :=
  wp_iff.2 ⟨(wp_iff.1 safe).1, ends⟩

theorem wp_bind_of_ends {f : α → Program Reply ε β} {R : List (Sigma Reply) → Except ε β → Prop}
    (safe : p.wp Allowed P (fun _ _ => True) past) (fails : ∀ past e, R past (.error e))
    (rest : ∀ trace a, (∀ event ∈ trace, Allowed event) → p.Ends trace (.ok a) → (f a).wp Allowed P R (past ++ trace)) :
    (p >>= f).wp Allowed P R past := by
  refine wp_bind.2 (wp_of_ends safe fun trace result allowed ends => ?_)
  cases result with
  | ok a => exact rest trace a allowed ends
  | error e => exact fails _ e

theorem wp_bind_of_only {S : ι → Prop} {f : α → Program Reply ε β} {R : List (Sigma Reply) → Except ε β → Prop}
    (only : p.Only S) (may : ∀ past i, S i → P past i) (fails : ∀ past e, R past (.error e))
    (rest : ∀ trace a, (∀ event ∈ trace, Allowed event) → p.Ends trace (.ok a) → (f a).wp Allowed P R (past ++ trace)) :
    (p >>= f).wp Allowed P R past :=
  wp_bind_of_ends (wp_of_only only may) fails rest

theorem wp_bind_of_view {S : ι → Prop} {ν : Type w} {v : List (Sigma Reply) → ν} {f : α → Program Reply ε β}
    {R : List (Sigma Reply) → Except ε β → Prop} (only : p.Only S) (may : ∀ past i, S i → P past i)
    (same : ∀ past event, S event.1 → v (past ++ [event]) = v past)
    (fails : ∀ later e, v later = v past → R later (.error e))
    (rest : ∀ later a, v later = v past → (f a).wp Allowed P R later) : (p >>= f).wp Allowed P R past := by
  have kept (trace : List (Sigma Reply)) (such : ∀ event ∈ trace, S event.1) : v (past ++ trace) = v past := by
    induction trace using List.reverseRecOn with
    | nil => rw [List.append_nil]
    | append_singleton trace event ih =>
      have before := ih fun other member => such other (List.mem_append_left _ member)
      rw [← List.append_assoc, same _ _ (such event (List.mem_append_right _ List.mem_cons_self)), before]
  refine wp_bind.2 (wp_of_ends (wp_of_only only may) fun trace result _ ends => ?_)
  cases result with
  | ok a => exact rest _ a (kept trace (only.ends ends))
  | error e => exact fails _ e (kept trace (only.ends ends))

theorem wp_ite {c : Prop} [Decidable c] {q : Program Reply ε α} (first : c → p.wp Allowed P Q past)
    (second : ¬c → q.wp Allowed P Q past) : (if c then p else q).wp Allowed P Q past := by
  by_cases holds : c
  · rw [if_pos holds]
    exact first holds
  · rw [if_neg holds]
    exact second holds

end Specifications

attribute [irreducible] Only wp

end Program

/-- Calls side by side over one state, each with the replies that it has got and what is left of it. -/
structure Pool (σ : Type u) (κ : Type v) {ι : Type w} (Reply : ι → Type w) (ε α : Type w) where
  state : σ
  calls : κ → List (Sigma Reply) × Program Reply ε α

namespace Pool

variable {σ : Type u} {κ : Type v} [DecidableEq κ] {ι : Type w} {Reply : ι → Type w} {ε α : Type w}
  (execute : σ → (i : ι) → Reply i → σ × Reply i)

/-- One call goes one instruction on; what the state does not determine is chosen. -/
def next (pool : Pool σ κ Reply ε α) (step : κ × ((i : ι) → Reply i)) : Pool σ κ Reply ε α :=
  match (pool.calls step.1).2 with
  | .issue i rest => {
      state := (execute pool.state i (step.2 i)).1
      calls := Function.update pool.calls step.1
        ((pool.calls step.1).1 ++ [⟨i, (execute pool.state i (step.2 i)).2⟩],
          rest (execute pool.state i (step.2 i)).2) }
  | _ => pool

def start (state : σ) (programs : κ → Program Reply ε α) : Pool σ κ Reply ε α := ⟨state, fun k => ([], programs k)⟩

variable {execute} {pool : Pool σ κ Reply ε α} {step : κ × ((i : ι) → Reply i)}

theorem next_of_issue {i : ι} {rest : Reply i → Program Reply ε α} (issues : (pool.calls step.1).2 = .issue i rest) :
    pool.next execute step = {
      state := (execute pool.state i (step.2 i)).1
      calls := Function.update pool.calls step.1
        ((pool.calls step.1).1 ++ [⟨i, (execute pool.state i (step.2 i)).2⟩],
          rest (execute pool.state i (step.2 i)).2) } := by
  unfold next
  rw [issues]

theorem next_of_not_issue (ended : ∀ i rest, (pool.calls step.1).2 ≠ .issue i rest) :
    pool.next execute step = pool := by
  unfold next
  split
  · rename_i i rest issues
    exact absurd issues (ended i rest)
  · rfl

def Keeps (Allowed : Sigma Reply → Prop) (P : κ → List (Sigma Reply) → ι → Prop) (pool : Pool σ κ Reply ε α) : Prop :=
  ∀ k, (pool.calls k).2.wp Allowed (P k) (fun _ _ => True) (pool.calls k).1

theorem Keeps.next {Allowed : Sigma Reply → Prop} {P : κ → List (Sigma Reply) → ι → Prop}
    (keeps : pool.Keeps Allowed P) (allows : ∀ s i r, Allowed ⟨i, (execute s i r).2⟩) :
    (pool.next execute step).Keeps Allowed P := by
  cases issued : (pool.calls step.1).2 with
  | issue i rest =>
    rw [next_of_issue issued]
    intro k
    by_cases here : k = step.1
    · subst here
      have goes := keeps step.1
      rw [issued] at goes
      simp only [Function.update_self]
      exact (Program.wp_issue.1 goes).2 _ (allows _ _ _)
    · simp only [Function.update_of_ne here]
      exact keeps k
  | pure a =>
    rw [next_of_not_issue fun i rest issues => nomatch issued.symm.trans issues]
    exact keeps
  | fail e =>
    rw [next_of_not_issue fun i rest issues => nomatch issued.symm.trans issues]
    exact keeps

end Pool

end VibeLink.Relational
