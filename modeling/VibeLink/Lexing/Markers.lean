import Mathlib.Data.List.Infix

/-! Markers in a text, the last of them, and those that a text only begins. -/

universe u v

namespace VibeLink.Lexing

variable {α : Type u} {markers : List (List α)} {text front more pending piece : List α}
  {start last start' last' n limit : Nat}

/-- A marker stands in the text from `start` up to `last`. -/
def Occurs (markers : List (List α)) (text : List α) (start last : Nat) : Prop :=
  ∃ marker ∈ markers, marker <+: text.drop start ∧ last = start + marker.length

/-- No marker is empty, and none begins inside another one. -/
structure Separate (markers : List (List α)) : Prop where
  nonempty : ∀ marker ∈ markers, marker ≠ []
  apart : ∀ marker ∈ markers, ∀ marker' ∈ markers, ∀ k < marker.length,
    marker.drop k <+: marker' ∨ marker' <+: marker.drop k → k = 0 ∧ marker = marker'

theorem occurs_drop : Occurs markers (text.drop n) start last ↔ Occurs markers text (n + start) (n + last) := by
  simp only [Occurs, List.drop_drop, Nat.add_assoc, Nat.add_left_cancel_iff]

theorem occurs_append_left :
    Occurs markers (front ++ text) (front.length + start) (front.length + last) ↔
      Occurs markers text start last := by
  rw [← occurs_drop, List.drop_left]

theorem Occurs.append (h : Occurs markers text start last) (more : List α) :
    Occurs markers (text ++ more) start last := by
  obtain ⟨marker, member, here, rfl⟩ := h
  refine ⟨marker, member, ?_, rfl⟩
  rw [List.drop_append]
  exact here.trans (List.prefix_append _ _)

theorem Occurs.of_append (h : Occurs markers (text ++ more) start last) (le : last ≤ text.length) :
    Occurs markers text start last := by
  obtain ⟨marker, member, here, rfl⟩ := h
  refine ⟨marker, member, ?_, rfl⟩
  rw [List.drop_append_of_le_length (by omega)] at here
  apply List.prefix_of_prefix_length_le here (List.prefix_append _ _)
  rw [List.length_drop]
  omega

namespace Separate

variable (separate : Separate markers)
include separate

theorem lt (h : Occurs markers text start last) : start < last := by
  obtain ⟨marker, member, _, rfl⟩ := h
  exact Nat.lt_add_of_pos_right (List.length_pos_iff.2 (separate.nonempty marker member))

theorem le_length (h : Occurs markers text start last) : last ≤ text.length := by
  have lt := separate.lt h
  obtain ⟨marker, _, here, rfl⟩ := h
  have le := here.length_le
  rw [List.length_drop] at le
  omega

theorem eq_of_meet (h : Occurs markers text start last) (h' : Occurs markers text start' last')
    (le : start ≤ start') (lt : start' < last) : start = start' ∧ last = last' := by
  obtain ⟨marker, member, here, rfl⟩ := h
  obtain ⟨marker', member', here', rfl⟩ := h'
  have inside : marker.drop (start' - start) <+: text.drop start' := by
    have dropped := here.drop (start' - start)
    rwa [List.drop_drop, Nat.add_sub_of_le le] at dropped
  have meet := separate.apart marker member marker' member' (start' - start) (by omega)
    (List.prefix_or_prefix_of_prefix inside here')
  rw [← meet.2]
  omega

theorem eq_of_last (h : Occurs markers text start last) (h' : Occurs markers text start' last) :
    start = start' := by
  cases Nat.le_total start start' with
  | inl le => exact (separate.eq_of_meet h h' le (separate.lt h')).1
  | inr le => exact (separate.eq_of_meet h' h le (separate.lt h)).1.symm

theorem eq_of_suffix {marker marker' : List α} (member : marker ∈ markers) (member' : marker' ∈ markers)
    (suffix : marker <:+ text) (suffix' : marker' <:+ text) : marker = marker' := by
  have shorter : ∀ {a b : List α}, a ∈ markers → b ∈ markers → a <:+ b → a = b := by
    intro a b ha hb suffix
    have le := suffix.length_le
    have pos := List.length_pos_iff.2 (separate.nonempty a ha)
    have whole := separate.apart b hb a ha (b.length - a.length) (by omega)
      (.inl (List.suffix_iff_eq_drop.1 suffix ▸ List.prefix_rfl))
    exact whole.2.symm
  cases List.suffix_or_suffix_of_suffix suffix suffix' with
  | inl h => exact shorter member member' h
  | inr h => exact (shorter member' member h).symm

theorem le_of_lt (h : Occurs markers text start last) (h' : Occurs markers text start' last')
    (lt : last < last') : last ≤ start' := by
  apply Nat.le_of_not_lt
  intro before
  cases Nat.le_total start start' with
  | inl le => exact Nat.ne_of_lt lt (separate.eq_of_meet h h' le before).2
  | inr le => exact Nat.ne_of_gt lt (separate.eq_of_meet h' h le (by have := separate.lt h; omega)).2

end Separate

def Latest (spans : Nat → Nat → Prop) (start last : Nat) : Prop :=
  spans start last ∧ ∀ start' last', spans start' last' → last' ≤ last

def IsLatest (spans : Nat → Nat → Prop) : Option (Nat × Nat) → Prop
  | none => ∀ start last, ¬spans start last
  | some (start, last) => Latest spans start last

namespace IsLatest

variable {spans spans' : Nat → Nat → Prop} {span : Option (Nat × Nat)}

theorem candidate (h : IsLatest spans span) (start last : Nat) :
    IsLatest (fun start' last' => spans start' last' ∨ start' = start ∧ last' = last)
      (if span.all fun span => span.2 < last then some (start, last) else span) := by
  cases span with
  | none =>
    refine ⟨.inr ⟨rfl, rfl⟩, fun start' last' h' => ?_⟩
    cases h' with
    | inl found => exact absurd found (h _ _)
    | inr same => exact Nat.le_of_eq same.2
  | some span =>
    simp only [Option.all_some, decide_eq_true_eq]
    split
    · rename_i later
      refine ⟨.inr ⟨rfl, rfl⟩, fun start' last' h' => ?_⟩
      cases h' with
      | inl found => exact (h.2 _ _ found).trans (Nat.le_of_lt later)
      | inr same => exact Nat.le_of_eq same.2
    · rename_i earlier
      refine ⟨.inl h.1, fun start' last' h' => ?_⟩
      cases h' with
      | inl found => exact h.2 _ _ found
      | inr same => exact same.2 ▸ Nat.le_of_not_lt earlier

theorem extend (h : IsLatest spans span) (sub : ∀ start last, spans start last → spans' start last)
    (dominated : ∀ start last, spans' start last → ∃ start' last', spans start' last' ∧ last ≤ last') :
    IsLatest spans' span := by
  cases span with
  | none =>
    intro start last h'
    obtain ⟨start', last', found, _⟩ := dominated start last h'
    exact h _ _ found
  | some span =>
    refine ⟨sub _ _ h.1, fun start last h' => ?_⟩
    obtain ⟨start', last', found, le⟩ := dominated start last h'
    exact le.trans (h.2 _ _ found)

theorem congr (h : IsLatest spans span) (same : ∀ start last, spans start last ↔ spans' start last) :
    IsLatest spans' span :=
  h.extend (fun start last => (same start last).1)
    fun start last h' => ⟨start, last, (same start last).2 h', Nat.le_refl last⟩

theorem foldl {κ : Type v} (counts : κ → Prop) [DecidablePred counts] (place : κ → Nat × Nat)
    (candidates : List κ) :
    ∀ {spans : Nat → Nat → Prop} {span : Option (Nat × Nat)}, IsLatest spans span →
      IsLatest (fun start last => spans start last ∨
          ∃ candidate ∈ candidates, counts candidate ∧ (start, last) = place candidate)
        (candidates.foldl (fun span candidate =>
          if (span.all fun span => span.2 < (place candidate).2) ∧ counts candidate then
            some (place candidate)
          else span) span) := by
  induction candidates with
  | nil =>
    intro spans span h
    exact h.congr (by simp)
  | cons candidate candidates ih =>
    intro spans span h
    rw [List.foldl_cons]
    cases Decidable.em (counts candidate) with
    | inl here =>
      have searched := h.candidate (place candidate).1 (place candidate).2
      simp only [here, and_true]
      apply (ih searched).congr
      intro start last
      simp [here, Prod.ext_iff, or_assoc]
    | inr absent =>
      simp only [absent, and_false, if_false]
      apply (ih h).congr
      simp [absent]

end IsLatest

abbrev LastOccurs (markers : List (List α)) (text : List α) : Nat → Nat → Prop :=
  Latest (Occurs markers text)

namespace LastOccurs

variable (separate : Separate markers)
include separate

theorem unique (h : LastOccurs markers text start last) (h' : LastOccurs markers text start' last') :
    start = start' ∧ last = last' := by
  have same : last = last' := Nat.le_antisymm (h'.2 _ _ h.1) (h.2 _ _ h'.1)
  subst same
  exact ⟨separate.eq_of_last h.1 h'.1, rfl⟩

theorem append_left (h : LastOccurs markers text start last) (front : List α) :
    LastOccurs markers (front ++ text) (front.length + start) (front.length + last) := by
  refine ⟨occurs_append_left.2 h.1, fun start' last' h' => ?_⟩
  apply Nat.le_of_not_lt
  intro later
  have after := separate.le_of_lt (occurs_append_left.2 h.1) h' later
  obtain ⟨s, rfl⟩ : ∃ s, start' = front.length + s := ⟨start' - front.length, by omega⟩
  obtain ⟨e, rfl⟩ : ∃ e, last' = front.length + e :=
    ⟨last' - front.length, by have := separate.lt h'; omega⟩
  have := h.2 s e (occurs_append_left.1 h')
  omega

theorem take (h : LastOccurs markers text start last) (le : last ≤ n) :
    LastOccurs markers (text.take n) start last := by
  have length := separate.le_length h.1
  have split := List.take_append_drop n text
  refine ⟨?_, fun start' last' h' => h.2 _ _ (split ▸ h'.append (text.drop n))⟩
  rw [← split] at h
  apply h.1.of_append
  rw [List.length_take]
  omega

theorem not_occurs_drop (h : LastOccurs markers text start last) (lt : start < n) :
    ¬Occurs markers (text.drop n) start' last' := by
  intro h'
  have h' := occurs_drop.1 h'
  have le := h.2 _ _ h'
  have := separate.eq_of_meet h.1 h' (by omega) (by have := separate.lt h'; omega)
  omega

end LastOccurs

theorem LastOccurs.drop (h : LastOccurs markers text (n + start) (n + last)) :
    LastOccurs markers (text.drop n) start last := by
  refine ⟨occurs_drop.2 h.1, fun start' last' h' => ?_⟩
  have := h.2 _ _ (occurs_drop.1 h')
  omega

theorem LastOccurs.append (h : LastOccurs markers text start last)
    (none : ∀ start last, Occurs markers (text ++ more) start last → last ≤ text.length) :
    LastOccurs markers (text ++ more) start last :=
  ⟨h.1.append more, fun _ _ h' => h.2 _ _ (h'.of_append (none _ _ h'))⟩

abbrev IsLast (markers : List (List α)) (text : List α) : Option (Nat × Nat) → Prop :=
  IsLatest (Occurs markers text)

theorem IsLast.unique (separate : Separate markers) {span span' : Option (Nat × Nat)}
    (h : IsLast markers text span) (h' : IsLast markers text span') : span = span' := by
  cases span with
  | none =>
    cases span' with
    | none => rfl
    | some span' => exact absurd h'.1 (h _ _)
  | some span =>
    cases span' with
    | none => exact absurd h.1 (h' _ _)
    | some span' => exact congrArg some (Prod.ext_iff.2 (LastOccurs.unique separate h h'))

/-- A marker begins with the piece, of at most `limit` letters. -/
def Begins (markers : List (List α)) (limit : Nat) (piece : List α) : Prop :=
  piece.length ≤ limit ∧ ∃ marker ∈ markers, piece <+: marker

/-- `pending` is the longest end of the text with which a marker begins. -/
structure Carried (markers : List (List α)) (limit : Nat) (text pending : List α) : Prop where
  suffix : pending <:+ text
  begins : pending = [] ∨ Begins markers limit pending
  longest : ∀ piece, piece <:+ text → Begins markers limit piece → piece.length ≤ pending.length

namespace Carried

theorem le {pending' : List α} (h : Carried markers limit text pending)
    (h' : Carried markers limit text pending') : pending.length ≤ pending'.length := by
  cases h.begins with
  | inl empty => simp [empty]
  | inr begins => exact h'.longest pending h.suffix begins

theorem unique {pending' : List α} (h : Carried markers limit text pending)
    (h' : Carried markers limit text pending') : pending = pending' := by
  apply List.IsSuffix.eq_of_length _ (Nat.le_antisymm (h.le h') (h'.le h))
  exact List.suffix_of_suffix_length_le h.suffix h'.suffix (h.le h')

/-- Nothing but `pending` need be kept of a text to know how a longer one ends. -/
theorem append {pending' : List α} (h : Carried markers limit text pending)
    (h' : Carried markers limit (pending ++ more) pending') :
    Carried markers limit (text ++ more) pending' := by
  have window : pending ++ more <:+ text ++ more := by
    obtain ⟨front, rfl⟩ := h.suffix
    exact ⟨front, List.append_assoc front pending more |>.symm⟩
  refine ⟨h'.suffix.trans window, h'.begins, fun piece suffix begins => ?_⟩
  apply h'.longest piece (List.suffix_of_suffix_length_le suffix window _) begins
  apply Nat.le_of_not_lt
  intro longer
  rw [List.length_append] at longer
  -- a longer piece would begin in the text, before `pending`
  obtain ⟨piece, rfl⟩ := List.suffix_of_suffix_length_le (List.suffix_append text more) suffix (by omega)
  obtain ⟨front, e⟩ := suffix
  rw [← List.append_assoc] at e
  obtain ⟨len, marker, member, here⟩ := begins
  rw [List.length_append] at len longer
  have := h.longest piece ⟨front, List.append_cancel_right e⟩
    ⟨by omega, marker, member, (List.prefix_append _ _).trans here⟩
  omega

/-- A marker that is complete only with what follows the text begins in `pending`. -/
theorem le_start (h : Carried markers limit text pending)
    (short : ∀ marker ∈ markers, marker.length ≤ limit + 1)
    (here : Occurs markers (text ++ more) start last) (after : text.length < last) :
    text.length - pending.length ≤ start := by
  obtain ⟨marker, member, here, rfl⟩ := here
  have := short marker member
  cases Nat.lt_or_ge text.length start with
  | inl outside => omega
  | inr inside =>
    rw [List.drop_append_of_le_length inside] at here
    have begun : text.drop start <+: marker := by
      apply List.prefix_of_prefix_length_le (List.prefix_append _ _) here
      rw [List.length_drop]
      omega
    have := h.longest (text.drop start) (List.drop_suffix _ _)
      ⟨by rw [List.length_drop]; omega, marker, member, begun⟩
    rw [List.length_drop] at this
    omega

/-- No marker of the text begins inside `pending`. -/
theorem start_le (h : Carried markers limit text pending) (separate : Separate markers)
    (here : Occurs markers text start last) : start ≤ text.length - pending.length := by
  cases h.begins with
  | inl empty =>
    have := separate.lt here
    have := separate.le_length here
    simp only [empty, List.length_nil]
    omega
  | inr begins =>
    apply Nat.le_of_not_lt
    intro inside
    obtain ⟨marker, member, begun⟩ := begins.2
    obtain ⟨marker', member', here, rfl⟩ := here
    have ne := separate.nonempty marker' member'
    have suffix := List.suffix_iff_eq_drop.1 h.suffix
    have dropped : text.drop start = pending.drop (start - (text.length - pending.length)) := by
      rw [suffix, List.drop_drop, ← suffix]
      congr 1
      omega
    rw [dropped] at here
    have inner := here.trans (begun.drop (start - (text.length - pending.length)))
    have le := inner.length_le
    have pos := List.length_pos_iff.2 ne
    rw [List.length_drop] at le
    have := separate.apart marker member marker' member' (start - (text.length - pending.length)) (by omega)
      (.inr inner)
    omega

/-- What stands in `pending` and what follows it stands in the whole text. -/
theorem occurs_iff (h : Carried markers limit text pending) :
    Occurs markers (pending ++ more) start last ↔
      Occurs markers (text ++ more) (text.length - pending.length + start)
        (text.length - pending.length + last) := by
  obtain ⟨front, rfl⟩ := h.suffix
  rw [List.length_append, Nat.add_sub_cancel, List.append_assoc]
  exact occurs_append_left.symm

theorem latest (h : Carried markers limit text pending) (separate : Separate markers)
    (short : ∀ marker ∈ markers, marker.length ≤ limit + 1)
    (found : LastOccurs markers (pending ++ more) start last) :
    LastOccurs markers (text ++ more) (text.length - pending.length + start)
      (text.length - pending.length + last) := by
  have le := h.suffix.length_le
  have here := h.occurs_iff.1 found.1
  refine ⟨here, fun start' last' here' => ?_⟩
  apply Nat.le_of_not_lt
  intro later
  have after : text.length - pending.length ≤ start' := by
    cases Nat.lt_or_ge text.length last' with
    | inl outside => exact h.le_start short here' outside
    | inr inside => exact (Nat.le_add_right _ _).trans (separate.le_of_lt here here' later)
  have lt := separate.lt here'
  obtain ⟨s, rfl⟩ := Nat.exists_eq_add_of_le after
  obtain ⟨e, rfl⟩ := Nat.exists_eq_add_of_le (after.trans (Nat.le_of_lt lt))
  have := found.2 s e (h.occurs_iff.2 here')
  omega

theorem le_length (h : Carried markers limit text pending) (separate : Separate markers)
    (short : ∀ marker ∈ markers, marker.length ≤ limit + 1)
    (none : ∀ start last, ¬Occurs markers (pending ++ more) start last)
    (here : Occurs markers (text ++ more) start last) : last ≤ text.length := by
  apply Nat.le_of_not_lt
  intro outside
  have after := h.le_start short here outside
  have lt := separate.lt here
  obtain ⟨s, rfl⟩ := Nat.exists_eq_add_of_le after
  obtain ⟨e, rfl⟩ := Nat.exists_eq_add_of_le (after.trans (Nat.le_of_lt lt))
  exact none s e (h.occurs_iff.2 here)

end Carried

end VibeLink.Lexing
