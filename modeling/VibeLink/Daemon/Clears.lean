import VibeLink.Daemon.Scrollback
import VibeLink.Lexing.Markers

/-! What the searches of the scrollback find. -/

namespace VibeLink.Daemon

open VibeLink.Lexing

variable {bytes front : Bytes} {start last i n : Nat}

theorem separate_clearSequences : Separate clearSequences where
  nonempty := by decide
  apart := by decide +kernel

theorem length_clearSequences : ∀ sequence ∈ clearSequences, sequence.length ≤ 9 + 1 := by decide

theorem find?_reverse_range {p : Nat → Bool} :
    (List.range n).reverse.find? p = some i ↔ i < n ∧ p i ∧ ∀ j < n, p j → j ≤ i := by
  induction n with
  | zero => simp
  | succ n ih =>
    rw [List.range_succ, List.reverse_append, List.reverse_singleton, List.singleton_append,
      List.find?_cons]
    cases e : p n with
    | true =>
      simp only [Option.some.injEq]
      constructor
      · intro h
        subst h
        exact ⟨Nat.lt_succ_self n, e, fun j lt _ => Nat.le_of_lt_succ lt⟩
      · intro h
        exact Nat.le_antisymm (h.2.2 n (Nat.lt_succ_self n) e) (Nat.le_of_lt_succ h.1)
    | false =>
      simp only [ih]
      constructor
      · intro h
        refine ⟨by omega, h.2.1, fun j lt here => ?_⟩
        cases Nat.lt_succ_iff_lt_or_eq.1 lt with
        | inl lt => exact h.2.2 j lt here
        | inr same => simp_all
      · intro h
        refine ⟨?_, h.2.1, fun j lt here => h.2.2 j (by omega) here⟩
        cases Nat.lt_succ_iff_lt_or_eq.1 h.1 with
        | inl lt => exact lt
        | inr same => simp_all

theorem take_drop_eq_iff {needle : Bytes} :
    (bytes.drop i).take needle.length = needle ↔ needle <+: bytes.drop i := by
  rw [List.prefix_iff_eq_take]
  exact eq_comm

theorem le_of_prefix_drop {needle : Bytes} (ne : needle ≠ []) (h : needle <+: bytes.drop i) :
    i + needle.length ≤ bytes.length := by
  have le := h.length_le
  have pos := List.length_pos_iff.2 ne
  rw [List.length_drop] at le
  omega

theorem findSubslice_eq_some {haystack needle : Bytes} (ne : needle ≠ []) :
    findSubslice haystack needle = some i ↔
      needle <+: haystack.drop i ∧ ∀ j, needle <+: haystack.drop j → j ≤ i := by
  unfold findSubslice
  split
  · constructor
    · intro h
      exact nomatch h
    · intro h
      have := le_of_prefix_drop ne h.1
      simp_all
      omega
  · rw [find?_reverse_range]
    simp only [decide_eq_true_eq, take_drop_eq_iff]
    constructor
    · intro h
      refine ⟨h.2.1, fun j here => h.2.2 j ?_ here⟩
      have := le_of_prefix_drop ne here
      omega
    · intro h
      have := le_of_prefix_drop ne h.1
      exact ⟨by omega, h.1, fun j _ here => h.2 j here⟩

theorem findSubslice_eq_none {haystack needle : Bytes} (ne : needle ≠ []) :
    findSubslice haystack needle = none ↔ ∀ i, ¬needle <+: haystack.drop i := by
  unfold findSubslice
  split
  · simp only [true_iff]
    intro i here
    have := le_of_prefix_drop ne here
    simp_all
    omega
  · simp only [List.find?_eq_none, List.mem_reverse, List.mem_range, decide_eq_true_eq, take_drop_eq_iff]
    constructor
    · intro h i here
      have := le_of_prefix_drop ne here
      exact h i (by omega) here
    · intro h i _
      exact h i

theorem occurs_snoc {sequences : List Bytes} {sequence : Bytes} :
    Occurs (sequences ++ [sequence]) bytes start last ↔
      Occurs sequences bytes start last ∨ sequence <+: bytes.drop start ∧ last = start + sequence.length := by
  simp [Occurs, or_and_right, exists_or]

theorem isLast_foldl (rest : List Bytes) (nonempty : ∀ sequence ∈ rest, sequence ≠ []) :
    ∀ {searched : List Bytes} {clearSpan : Option (Nat × Nat)}, IsLast searched bytes clearSpan →
      IsLast (searched ++ rest) bytes (rest.foldl (fun clearSpan sequence =>
        match findSubslice bytes sequence with
        | none => clearSpan
        | some pos =>
          let last := pos + sequence.length
          if clearSpan.all fun span => span.2 < last then some (pos, last) else clearSpan) clearSpan) := by
  induction rest with
  | nil => simp
  | cons sequence rest ih =>
    intro searched clearSpan h
    rw [List.append_cons, List.foldl_cons]
    apply ih (fun sequence member => nonempty sequence (List.mem_cons_of_mem _ member))
    have ne := nonempty sequence List.mem_cons_self
    cases found : findSubslice bytes sequence with
    | none =>
      have absent := (findSubslice_eq_none ne).1 found
      exact h.congr fun start last => by simp [occurs_snoc, absent]
    | some pos =>
      have here := (findSubslice_eq_some ne).1 found
      apply (h.candidate pos (pos + sequence.length)).extend
      · intro start last h
        cases h with
        | inl before => exact occurs_snoc.2 (.inl before)
        | inr same => exact occurs_snoc.2 (.inr (by rw [same.1, same.2]; exact ⟨here.1, rfl⟩))
      · intro start last h
        cases occurs_snoc.1 h with
        | inl before => exact ⟨start, last, .inl before, Nat.le_refl last⟩
        | inr same =>
          refine ⟨pos, _, .inr ⟨rfl, rfl⟩, ?_⟩
          have := here.2 start same.1
          omega

theorem not_occurs_of_plain (plain : 0x1b ∉ bytes) : ¬Occurs clearSequences bytes start last := by
  intro h
  obtain ⟨sequence, member, here, _⟩ := h
  have escape : ∀ sequence ∈ clearSequences, 0x1b ∈ sequence := by decide
  exact plain (List.mem_of_mem_drop (here.subset (escape sequence member)))

theorem isLast_findLastClearSpan (bytes : Bytes) :
    IsLast clearSequences bytes (findLastClearSpan bytes) := by
  unfold findLastClearSpan
  split
  · rename_i plain
    intro start last
    exact not_occurs_of_plain (by simpa using plain)
  · have none : IsLast [] bytes none := fun start last h => by simp [Occurs] at h
    exact isLast_foldl clearSequences separate_clearSequences.nonempty none

theorem findLastClearSpan_eq_some :
    findLastClearSpan bytes = some (start, last) ↔ LastOccurs clearSequences bytes start last := by
  have isLast := isLast_findLastClearSpan bytes
  constructor
  · intro h
    rwa [h] at isLast
  · intro h
    have found : IsLast clearSequences bytes (some (start, last)) := h
    exact isLast.unique separate_clearSequences found

theorem findLastClearSpan_eq_none :
    findLastClearSpan bytes = none ↔ ∀ start last, ¬Occurs clearSequences bytes start last := by
  have isLast := isLast_findLastClearSpan bytes
  constructor
  · intro h
    rwa [h] at isLast
  · intro h
    have absent : IsLast clearSequences bytes none := h
    exact isLast.unique separate_clearSequences absent

abbrev CarriedClear (bytes pending : Bytes) : Prop := Carried clearSequences 9 bytes pending

theorem trailingClearPrefix_eq (bytes : Bytes) :
    trailingClearPrefix bytes =
      (((List.range (min 9 bytes.length)).reverse.find? fun len =>
        clearSequences.any (bytes.drop (bytes.length - (len + 1))).isPrefixOf).map fun len =>
          bytes.drop (bytes.length - (len + 1))).getD [] := by
  have longest : (clearSequences.map fun sequence => sequence.length - 1).foldl max 0 = 9 := by decide
  simp only [trailingClearPrefix, longest, List.find?_map]
  rfl

theorem find_begun {piece : Bytes} (suffix : piece <:+ bytes) (begins : Begins clearSequences 9 piece)
    (ne : piece ≠ []) :
    piece.length - 1 < min 9 bytes.length ∧
      clearSequences.any (bytes.drop (bytes.length - (piece.length - 1 + 1))).isPrefixOf := by
  have pos := List.length_pos_iff.2 ne
  have := begins.1
  have := suffix.length_le
  rw [Nat.sub_add_cancel pos, ← List.suffix_iff_eq_drop.1 suffix]
  obtain ⟨marker, member, here⟩ := begins.2
  exact ⟨by omega, List.any_eq_true.2 ⟨marker, member, List.isPrefixOf_iff_prefix.2 here⟩⟩

theorem carried_trailingClearPrefix (bytes : Bytes) : CarriedClear bytes (trailingClearPrefix bytes) := by
  rw [trailingClearPrefix_eq]
  cases found : (List.range (min 9 bytes.length)).reverse.find? fun len =>
      clearSequences.any (bytes.drop (bytes.length - (len + 1))).isPrefixOf with
  | none =>
    refine ⟨List.nil_suffix, .inl rfl, fun piece suffix begins => ?_⟩
    cases piece with
    | nil => exact Nat.le_refl 0
    | cons byte piece =>
      have begun := find_begun suffix begins (List.cons_ne_nil _ _)
      exact absurd begun.2 (by simpa using List.find?_eq_none.1 found _ (by simpa using begun.1))
  | some len =>
    have here := find?_reverse_range.1 found
    have length : (bytes.drop (bytes.length - (len + 1))).length = len + 1 := by
      rw [List.length_drop]
      omega
    refine ⟨List.drop_suffix _ _, .inr ⟨?_, ?_⟩, fun piece suffix begins => ?_⟩
    · simp only [Option.map_some, Option.getD_some, length]
      omega
    · obtain ⟨marker, member, begun⟩ := List.any_eq_true.1 here.2.1
      exact ⟨marker, member, List.isPrefixOf_iff_prefix.1 begun⟩
    · simp only [Option.map_some, Option.getD_some, length]
      cases piece with
      | nil => exact Nat.zero_le _
      | cons byte piece =>
        have begun := find_begun suffix begins (List.cons_ne_nil _ _)
        have := here.2.2 _ begun.1 begun.2
        simp only [List.length_cons] at this ⊢
        omega

theorem trailingClearPrefix_append (sent chunk : Bytes) :
    trailingClearPrefix (trailingClearPrefix sent ++ chunk) = trailingClearPrefix (sent ++ chunk) :=
  ((carried_trailingClearPrefix sent).append (carried_trailingClearPrefix _)).unique
    (carried_trailingClearPrefix _)

/-- Where a sequence ends at `start`. -/
theorem ends_iff {sequence : Bytes} (le : start ≤ bytes.length) :
    (sequence.length ≤ start ∧ (bytes.drop (start - sequence.length)).take sequence.length = sequence) ↔
      sequence <:+ bytes.take start := by
  rw [List.suffix_iff_eq_drop, List.length_take, Nat.min_eq_left le, List.drop_take]
  constructor
  · intro h
    rw [Nat.sub_sub_self h.1, h.2]
  · intro h
    have length := congrArg List.length h
    rw [List.length_take, List.length_drop] at length
    refine ⟨by omega, ?_⟩
    rwa [Nat.sub_sub_self (by omega), eq_comm] at h

def Cleared (bytes : Bytes) : Prop :=
  ∃ sequences : List Bytes, (∀ sequence ∈ sequences, sequence ∈ clearSequences) ∧ bytes = sequences.flatten

theorem cleared_nil : Cleared [] := ⟨[], by simp, rfl⟩

theorem Cleared.snoc {sequence : Bytes} (h : Cleared bytes) (member : sequence ∈ clearSequences) :
    Cleared (bytes ++ sequence) := by
  obtain ⟨sequences, members, rfl⟩ := h
  refine ⟨sequences ++ [sequence], fun sequence' member' => ?_, by simp⟩
  cases List.mem_append.1 member' with
  | inl before => exact members _ before
  | inr here => exact List.mem_singleton.1 here ▸ member

theorem Cleared.of_append (h : Cleared bytes) (whole : Cleared (bytes ++ front)) : Cleared front := by
  obtain ⟨sequences, members, rfl⟩ := h
  obtain ⟨sequences', members', e⟩ := whole
  induction sequences generalizing sequences' with
  | nil => exact ⟨sequences', members', e⟩
  | cons sequence sequences ih =>
    have member := members sequence List.mem_cons_self
    rw [List.flatten_cons, List.append_assoc] at e
    cases sequences' with
    | nil => exact absurd (List.append_eq_nil_iff.1 e).1 (separate_clearSequences.nonempty sequence member)
    | cons sequence' sequences' =>
      rw [List.flatten_cons] at e
      have first : sequence <+: sequence' ++ sequences'.flatten := e ▸ List.prefix_append _ _
      have same := separate_clearSequences.apart sequence member sequence'
        (members' sequence' List.mem_cons_self) 0
        (List.length_pos_iff.2 (separate_clearSequences.nonempty sequence member))
        (List.prefix_or_prefix_of_prefix first (List.prefix_append _ _))
      rw [same.2] at e
      exact ih (fun sequence member => members sequence (List.mem_cons_of_mem _ member)) sequences'
        (fun sequence member => members' sequence (List.mem_cons_of_mem _ member)) (List.append_cancel_left e)

theorem includeAdjacentFrom_spec : ∀ fuel start, start ≤ bytes.length → start ≤ fuel →
    ∃ adjacent, Cleared adjacent ∧
      bytes.take start = bytes.take (includeAdjacentFrom bytes fuel start) ++ adjacent ∧
      includeAdjacentFrom bytes fuel start ≤ start ∧
      ∀ sequence ∈ clearSequences, ¬sequence <:+ bytes.take (includeAdjacentFrom bytes fuel start) := by
  intro fuel
  induction fuel with
  | zero =>
    intro start le fuel
    obtain rfl : start = 0 := by omega
    refine ⟨[], cleared_nil, by simp [includeAdjacentFrom], Nat.le_refl 0, fun sequence member => ?_⟩
    simpa [includeAdjacentFrom] using separate_clearSequences.nonempty sequence member
  | succ fuel ih =>
    intro start le enough
    rw [includeAdjacentFrom]
    cases found : clearSequences.find? fun sequence => sequence.length ≤ start ∧
      (bytes.drop (start - sequence.length)).take sequence.length = sequence with
    | none =>
      refine ⟨[], cleared_nil, by simp, Nat.le_refl start, fun sequence member suffix => ?_⟩
      have absent := List.find?_eq_none.1 found sequence member
      rw [decide_eq_true_eq] at absent
      exact absent ((ends_iff le).2 suffix)
    | some sequence =>
      have member := List.mem_of_find?_eq_some found
      have here := List.find?_some found
      rw [decide_eq_true_eq] at here
      have pos := List.length_pos_iff.2 (separate_clearSequences.nonempty sequence member)
      obtain ⟨adjacent, cleared, split, below, maximal⟩ := ih (start - sequence.length) (by omega) (by omega)
      refine ⟨adjacent ++ sequence, cleared.snoc member, ?_, below.trans (Nat.sub_le _ _), maximal⟩
      rw [← List.append_assoc, ← split]
      have whole := List.suffix_iff_eq_append.1 ((ends_iff le).1 here)
      rw [List.length_take, Nat.min_eq_left le, List.take_take, Nat.min_eq_left (Nat.sub_le _ _)] at whole
      exact whole.symm

/-- The sequences in front of `start` are kept, as many as there are. -/
theorem includeAdjacentClearPrefix_spec (le : start ≤ bytes.length) :
    ∃ adjacent, Cleared adjacent ∧
      bytes.take start = bytes.take (includeAdjacentClearPrefix bytes start) ++ adjacent ∧
      includeAdjacentClearPrefix bytes start ≤ start ∧
      ∀ sequence ∈ clearSequences, ¬sequence <:+ bytes.take (includeAdjacentClearPrefix bytes start) :=
  includeAdjacentFrom_spec start start le (Nat.le_refl start)

/-- What is kept of the bytes when the clear at `start` discards. -/
theorem drop_includeAdjacentClearPrefix (le : start ≤ bytes.length) :
    ∃ adjacent, Cleared adjacent ∧ adjacent <:+ bytes.take start ∧
      bytes.drop (includeAdjacentClearPrefix bytes start) = adjacent ++ bytes.drop start := by
  obtain ⟨adjacent, cleared, split, _, _⟩ := includeAdjacentClearPrefix_spec le
  refine ⟨adjacent, cleared, split ▸ List.suffix_append _ _, ?_⟩
  apply List.append_cancel_left
  calc
    bytes.take (includeAdjacentClearPrefix bytes start) ++ bytes.drop (includeAdjacentClearPrefix bytes start) =
        bytes := List.take_append_drop _ _
    _ = bytes.take start ++ bytes.drop start := (List.take_append_drop _ _).symm
    _ = bytes.take (includeAdjacentClearPrefix bytes start) ++ (adjacent ++ bytes.drop start) := by
      rw [split, List.append_assoc]

theorem suffix_flatten (front : Bytes) (sequences : List Bytes) (sequence : Bytes) :
    sequence <:+ front ++ (sequences ++ [sequence]).flatten :=
  ⟨front ++ sequences.flatten, by simp⟩

theorem Cleared.exists_of_append {front' adjacent adjacent' : Bytes} (cleared : Cleared adjacent)
    (cleared' : Cleared adjacent') (same : front ++ adjacent = front' ++ adjacent')
    (maximal : ∀ sequence ∈ clearSequences, ¬sequence <:+ front') :
    ∃ between, Cleared between ∧ front = front' ++ between := by
  obtain ⟨sequences, members, rfl⟩ := cleared
  induction sequences using List.reverseRecOn generalizing adjacent' with
  | nil => exact ⟨adjacent', cleared', by simpa using same⟩
  | append_singleton sequences sequence ih =>
    have member := members sequence (by simp)
    have suffix : sequence <:+ front' ++ adjacent' := by
      rw [← same]
      exact suffix_flatten front sequences sequence
    obtain ⟨sequences', members', rfl⟩ := cleared'
    cases sequences' using List.reverseRecOn with
    | nil => exact absurd (by simpa using suffix) (maximal sequence member)
    | append_singleton sequences' sequence' =>
      obtain rfl := separate_clearSequences.eq_of_suffix member (members' sequence' (by simp)) suffix
        (suffix_flatten front' sequences' sequence')
      apply ih ⟨sequences', fun sequence member => members' sequence (by simp [member]), rfl⟩
        (fun sequence member => members sequence (by simp [member]))
      simpa [← List.append_assoc] using same

theorem includeAdjacentClearPrefix_le {adjacent : Bytes} (le : start ≤ bytes.length)
    (cleared : Cleared adjacent) (split : bytes.take start = front ++ adjacent) :
    includeAdjacentClearPrefix bytes start ≤ front.length := by
  obtain ⟨adjacent', cleared', split', below, maximal⟩ := includeAdjacentClearPrefix_spec le
  obtain ⟨between, _, rfl⟩ := cleared.exists_of_append cleared' (split.symm.trans split') maximal
  rw [List.length_append, List.length_take]
  omega

theorem includeAdjacentClearPrefix_eq {adjacent : Bytes} (le : start ≤ bytes.length)
    (cleared : Cleared adjacent) (split : bytes.take start = front ++ adjacent)
    (maximal : ∀ sequence ∈ clearSequences, ¬sequence <:+ front) :
    includeAdjacentClearPrefix bytes start = front.length := by
  apply Nat.le_antisymm (includeAdjacentClearPrefix_le le cleared split)
  obtain ⟨adjacent', cleared', split', below, _⟩ := includeAdjacentClearPrefix_spec le
  obtain ⟨between, _, same⟩ := cleared'.exists_of_append cleared (split'.symm.trans split) maximal
  have length := congrArg List.length same
  rw [List.length_take, List.length_append] at length
  omega

end VibeLink.Daemon
