import Mathlib.Data.List.Nodup
import Mathlib.Data.List.Sublists
import Mathlib.Data.List.Perm.Subperm
import Mathlib.Logic.Function.Basic
import Mathlib.Logic.Relation

/-! Parents of nodes, each of which has one at most: when no node is above itself, and the way up from a node. -/

universe u

namespace VibeLink.Relational

variable {κ : Type u}

def Reaches (parent : κ → Option κ) : κ → κ → Prop := Relation.ReflTransGen fun a b => parent a = some b

def Above (parent : κ → Option κ) : κ → κ → Prop := Relation.TransGen fun a b => parent a = some b

def Acyclic (parent : κ → Option κ) : Prop := ∀ a, ¬Above parent a a

variable {parent parent' : κ → Option κ} {a b : κ}

theorem acyclic_none : Acyclic fun _ : κ => none := by
  intro a cycle
  obtain ⟨b, edge, _⟩ := (Relation.TransGen.head'_iff).1 cycle
  exact nomatch edge

theorem Acyclic.of_sinks (acyclic : Acyclic parent)
    (sinks : ∀ a b, parent' a = some b → parent a = some b ∨ parent' b = none) : Acyclic parent' := by
  intro a cycle
  have along : ∀ b, Above parent' a b → parent' b ≠ none → Above parent a b := by
    intro b path goesOn
    induction path with
    | single edge =>
      obtain old | sink := sinks _ _ edge
      · exact .single old
      · exact absurd sink goesOn
    | tail _ edge ih =>
      obtain old | sink := sinks _ _ edge
      · exact (ih fun none_ => nomatch none_.symm.trans edge).tail old
      · exact absurd sink goesOn
  obtain ⟨b, edge, _⟩ := (Relation.TransGen.head'_iff).1 cycle
  exact acyclic a (along a cycle fun none_ => nomatch none_.symm.trans edge)

theorem Acyclic.of_sources (acyclic : Acyclic parent)
    (sources : ∀ a b, parent' a = some b → parent a = some b ∨ ∀ c, parent' c ≠ some a) : Acyclic parent' := by
  intro a cycle
  have along : ∀ b, Above parent' a b → (∃ c, parent' c = some a) → Above parent a b := by
    intro b path named
    induction path with
    | single edge =>
      obtain old | source := sources _ _ edge
      · exact .single old
      · obtain ⟨c, names⟩ := named
        exact absurd names (source c)
    | @tail b c path edge ih =>
      obtain old | source := sources _ _ edge
      · exact ih.tail old
      · obtain ⟨d, _, last⟩ := (Relation.TransGen.tail'_iff).1 path
        exact absurd last (source d)
  obtain ⟨b, _, edge⟩ := (Relation.TransGen.tail'_iff).1 cycle
  exact acyclic a (along a cycle ⟨b, edge⟩)

theorem Acyclic.mono (acyclic : Acyclic parent) (kept : ∀ a b, parent' a = some b → parent a = some b) :
    Acyclic parent' := acyclic.of_sinks fun a b edge => .inl (kept a b edge)

section Update

variable [DecidableEq κ]

theorem reaches_of_update {c : κ} {o : Option κ} (path : Reaches (Function.update parent a o) c a) : Reaches parent c a := by
  induction path using Relation.ReflTransGen.head_induction_on with
  | refl => exact .refl
  | @head c d edge _ ih =>
    by_cases here : c = a
    · rw [here]
      exact .refl
    · rw [Function.update_of_ne here] at edge
      exact ih.head edge

theorem Acyclic.update (acyclic : Acyclic parent) (apart : ¬Reaches parent b a) :
    Acyclic (Function.update parent a (some b)) := by
  have along : ∀ x y, Above (Function.update parent a (some b)) x y → Above parent x y ∨
      (Reaches (Function.update parent a (some b)) x a ∧ Reaches (Function.update parent a (some b)) b y) := by
    intro x y path
    induction path with
    | @single y edge =>
      by_cases here : x = a
      · rw [here, Function.update_self] at edge
        cases edge
        rw [here]
        exact .inr ⟨.refl, .refl⟩
      · rw [Function.update_of_ne here] at edge
        exact .inl (.single edge)
    | @tail y z path edge ih =>
      obtain old | ⟨first, rest⟩ := ih
      · by_cases here : y = a
        · rw [here] at path
          rw [here, Function.update_self] at edge
          cases edge
          exact .inr ⟨path.to_reflTransGen, .refl⟩
        · rw [Function.update_of_ne here] at edge
          exact .inl (old.tail edge)
      · exact .inr ⟨first, rest.tail edge⟩
  intro x cycle
  obtain old | ⟨first, rest⟩ := along x x cycle
  · exact acyclic x old
  · exact apart (reaches_of_update (rest.trans first))

end Update

/-! ### The way to a node with no parent -/

theorem Reaches.comparable {c : κ} (first : Reaches parent a b) (second : Reaches parent a c) :
    Reaches parent b c ∨ Reaches parent c b :=
  Relation.ReflTransGen.total_of_right_unique (fun _ _ _ one other => Option.some.inj (one.symm.trans other)) first second

theorem above_of_edge (cycle : Above parent a a) (edge : parent a = some b) : Above parent b b := by
  obtain ⟨c, first, rest⟩ := Relation.TransGen.head'_iff.1 cycle
  cases first.symm.trans edge
  exact Relation.TransGen.tail' rest edge

theorem above_of_above (cycle : Above parent a a) (up : Above parent a b) : Above parent b b := by
  induction up with
  | single edge => exact above_of_edge cycle edge
  | tail _ edge ih => exact above_of_edge ih edge

theorem not_above_of_reaches (path : Reaches parent a b) (top : parent b = none) : ¬Above parent a a := by
  induction path using Relation.ReflTransGen.head_induction_on with
  | refl =>
    intro cycle
    obtain ⟨c, edge, _⟩ := Relation.TransGen.head'_iff.1 cycle
    cases top.symm.trans edge
  | head edge _ ih => exact fun cycle => ih (above_of_edge cycle edge)

theorem eq_of_reaches (path : Reaches parent a b) (top : parent a = none) : a = b := by
  cases Relation.ReflTransGen.cases_head_iff.1 path with
  | inl same => exact same
  | inr rest =>
    obtain ⟨c, edge, _⟩ := rest
    cases top.symm.trans edge

section Siblings

variable {c d : κ} (acyclic : ¬Above parent d d) (first : parent b = some d) (second : parent c = some d)
include acyclic first second

theorem eq_of_reaches_sibling (path : Reaches parent b c) : b = c := by
  cases Relation.ReflTransGen.cases_head_iff.1 path with
  | inl same => exact same
  | inr rest =>
    obtain ⟨e, edge, rest⟩ := rest
    cases first.symm.trans edge
    exact absurd (Relation.TransGen.tail' rest second) acyclic

theorem eq_of_siblings (below_first : Reaches parent a b) (below_second : Reaches parent a c) : b = c := by
  cases below_first.comparable below_second with
  | inl path => exact eq_of_reaches_sibling acyclic first second path
  | inr path => exact (eq_of_reaches_sibling acyclic second first path).symm

end Siblings

section Climb

def climb (parent : κ → Option κ) : Nat → κ → List κ
  | 0, _ => []
  | steps + 1, a => a :: (parent a).elim [] (climb parent steps)

theorem reaches_of_mem_climb {steps : Nat} (member : b ∈ climb parent steps a) : Reaches parent a b := by
  induction steps generalizing a with
  | zero => exact nomatch member
  | succ steps ih =>
    cases member with
    | head => exact .refl
    | tail _ later =>
      cases named : parent a with
      | none =>
        rw [named] at later
        exact nomatch later
      | some c =>
        rw [named] at later
        exact (ih later).head named

theorem nodup_climb (acyclic : Acyclic parent) (steps : Nat) (a : κ) : (climb parent steps a).Nodup := by
  induction steps generalizing a with
  | zero => exact List.nodup_nil
  | succ steps ih =>
    rw [climb, List.nodup_cons]
    cases named : parent a with
    | none => exact ⟨List.not_mem_nil, List.nodup_nil⟩
    | some c => exact ⟨fun member => acyclic a (.head' named (reaches_of_mem_climb member)), ih c⟩

theorem length_climb_le {nodes : List κ} (acyclic : Acyclic parent) (closed : ∀ a b, parent a = some b → b ∈ nodes)
    (member : a ∈ nodes) (steps : Nat) : (climb parent steps a).length ≤ nodes.length := by
  refine ((nodup_climb acyclic steps a).subperm fun b above => ?_).length_le
  cases (Relation.ReflTransGen.cases_tail_iff _ _ _).1 (reaches_of_mem_climb above) with
  | inl same => exact same ▸ member
  | inr last =>
    obtain ⟨c, _, edge⟩ := last
    exact closed c b edge

end Climb

end VibeLink.Relational
