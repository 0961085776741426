import VibeLink.Daemon.Cuts

/-! When a ring that is filled with what another one holds comes to hold the same. -/

namespace VibeLink.Daemon

open VibeLink.Lexing

variable {ring : ScrollbackRing} {chunk buf bytes front adjacent rest more : Bytes} {byte : UInt8}
  {token : StateToken} {tokens : List StateToken} {start last n cap : Nat}

/-- The tokens of a state, the title behind everything else. -/
structure OwnTokens (tokens : List StateToken) : Prop where
  kept : ∀ token ∈ tokens, token.kind ≠ .other
  titleLast : tokens.Pairwise fun token _ => token.kind = .preserved

theorem ownTokens_stateTokens (bytes : Bytes) : OwnTokens (stateTokens bytes) := by
  refine ⟨fun token member => ?_, ?_⟩
  · cases List.mem_append.1 member with
    | inl preserved =>
      obtain ⟨content, _, rfl⟩ := List.mem_map.1 preserved
      simp
    | inr title =>
      obtain ⟨content, _, rfl⟩ := List.mem_map.1 title
      simp
  · rw [stateTokens, List.pairwise_append]
    refine ⟨?_, ?_, ?_⟩
    · exact List.pairwise_map.2 (List.pairwise_of_forall fun _ _ => rfl)
    · cases (modes bytes).2 <;> simp
    · intro token member _ _
      obtain ⟨content, _, rfl⟩ := List.mem_map.1 member
      rfl

theorem OwnTokens.outlive (h : OwnTokens tokens) :
    ((outlive tokens).1 ++ (outlive tokens).2.toList).flatten = tokens.flatMap StateToken.content := by
  induction tokens with
  | nil => rfl
  | cons token tokens ih =>
    have first := List.pairwise_cons.1 h.titleLast
    have rest := ih ⟨fun token member => h.kept token (List.mem_cons_of_mem _ member), first.2⟩
    cases token with
    | mk content kind =>
      cases kind with
      | preserved => simpa [Daemon.outlive] using rest
      | other => exact absurd rfl (h.kept _ List.mem_cons_self)
      | title =>
        cases tokens with
        | nil => simp [Daemon.outlive]
        | cons token' tokens => cases first.1 token' List.mem_cons_self

def OwnState (front : Bytes) : Prop := ∃ tokens, stateScanner.scan front = (tokens, []) ∧ OwnTokens tokens

namespace OwnState

theorem nil : OwnState [] := ⟨[], stateScanner.scan_nil, ⟨by simp, List.Pairwise.nil⟩⟩

theorem state (bytes : Bytes) : OwnState (terminalStateSequences bytes).flatten :=
  ⟨stateTokens bytes, scan_state bytes, ownTokens_stateTokens bytes⟩

theorem settled (h : OwnState front) : stateScanner.Settled front := by
  obtain ⟨tokens, scan, _⟩ := h
  rw [Scanner.Settled, scan]

theorem flatten_eq (h : OwnState front) : (terminalStateSequences front).flatten = front := by
  have settled := h.settled
  obtain ⟨tokens, scan, own⟩ := h
  have content := settled.content
  rw [scan] at content
  rw [terminalStateSequences_eq, modes, scan, own.outlive]
  exact content

theorem drop (h : OwnState (front ++ rest)) (settled : stateScanner.Settled front) : OwnState rest := by
  obtain ⟨tokens, scan, own⟩ := h
  rw [settled.scan_append] at scan
  obtain ⟨rfl, left⟩ := Prod.ext_iff.1 scan
  refine ⟨(stateScanner.scan rest).1, Prod.ext rfl left, ?_, ?_⟩
  · exact fun token member => own.kept token (List.mem_append_right _ member)
  · exact (List.pairwise_append.1 own.titleLast).2.1

end OwnState

theorem exists_last_two (bytes : Bytes) (ne : bytes ≠ []) (byte : UInt8) :
    ∃ before, [before, byte] <:+ bytes ++ [byte] := by
  refine ⟨bytes.getLast ne, bytes.dropLast, ?_⟩
  conv_rhs => rw [← List.dropLast_append_getLast ne]
  simp

theorem finalByte_of_isStateCsi {firstParam : Option UInt8} {intermediates : Bytes}
    (h : isStateCsi firstParam intermediates byte) : byte ≠ 0x4a ∧ byte ≠ 0x63 := by
  simp only [isStateCsi, decide_eq_true_eq] at h
  constructor
  · intro e
    subst e
    simp at h
  · intro e
    subst e
    simp at h

def EndsApart (bytes : Bytes) : Prop :=
  ∃ a b, [a, b] <:+ bytes ∧ ((b ≠ 0x4a ∧ b ≠ 0x63) ∨ a = 0x28 ∨ a = 0x29)

theorem endsApart_csi (h : csiState rest = some (token, more)) (kept : token.kind ≠ .other) :
    EndsApart token.content := by
  unfold csiState at h
  cases final : (rest.dropWhile isParam).dropWhile isIntermediate with
  | nil => simp [final] at h
  | cons finalByte behind =>
    simp only [final] at h
    split at h
    · cases h
      exact absurd rfl kept
    · cases h
      have isState := by_contra fun plain => kept (if_neg plain)
      obtain ⟨before, suffix⟩ := exists_last_two (0x1b :: 0x5b :: rest.takeWhile isParam ++
        (rest.dropWhile isParam).takeWhile isIntermediate) (by simp) finalByte
      exact ⟨before, finalByte, suffix, .inl (finalByte_of_isStateCsi isState)⟩

theorem endsApart_osc (h : oscState rest = some (token, more)) : EndsApart token.content := by
  obtain ⟨⟨body, terminator, behind⟩, split, e⟩ := Option.map_eq_some_iff.1 h
  cases e
  cases splitString_terminator split with
  | inl bell =>
    obtain ⟨before, suffix⟩ := exists_last_two (0x1b :: 0x5d :: body) (by simp) 0x07
    exact ⟨before, 0x07, bell ▸ suffix, .inl (by decide)⟩
  | inr st =>
    refine ⟨0x1b, 0x5c, ?_, .inl (by decide)⟩
    rw [st]
    exact List.suffix_append _ _

theorem endsApart_charset {introducer : UInt8} (paren : introducer = 0x28 ∨ introducer = 0x29)
    (h : charsetState introducer rest = some (token, more)) : EndsApart token.content := by
  cases rest with
  | nil => exact nomatch h
  | cons charset rest =>
    cases h
    exact ⟨introducer, charset, List.suffix_cons _ _, .inr paren⟩

theorem endsApart_of_kept (h : nextState bytes = some (token, rest)) (kept : token.kind ≠ .other) :
    EndsApart token.content := by
  unfold nextState at h
  split at h
  · exact nomatch h
  · split at h
    · cases h
      exact absurd rfl kept
    · split at h
      · exact endsApart_csi h kept
      · cases h
        exact ⟨0x1b, 0x3d, List.suffix_rfl, .inl (by decide)⟩
      · cases h
        exact ⟨0x1b, 0x3e, List.suffix_rfl, .inl (by decide)⟩
      · exact endsApart_charset (.inl rfl) h
      · exact endsApart_charset (.inr rfl) h
      · exact endsApart_osc h
      · exact nomatch h
      · cases h
        exact absurd rfl kept

theorem not_suffix_of_ownState (h : OwnState front) :
    ∀ sequence ∈ clearSequences, ¬sequence <:+ front := by
  have clears : ∀ sequence ∈ clearSequences, ∃ a ∈ ([0x32, 0x33, 0x1b, 0x5b, 0x30] : Bytes),
      ∃ b ∈ ([0x4a, 0x63] : Bytes), [a, b] <:+ sequence := by decide +kernel
  intro sequence member suffix
  obtain ⟨tokens, scan, own⟩ := h
  have content : (stateScanner.scan front).1.flatMap StateToken.content ++ _ = front :=
    stateScanner.scan_content front
  rw [scan, List.append_nil] at content
  cases tokens using List.reverseRecOn with
  | nil =>
    rw [← content] at suffix
    exact separate_clearSequences.nonempty sequence member (List.suffix_nil.1 suffix)
  | append_singleton tokens token =>
    have member' : token ∈ (stateScanner.scan front).1 := by simp [scan]
    obtain ⟨text, rest, next⟩ := stateScanner.mem_scan member'
    obtain ⟨a, b, ends, apart⟩ := endsApart_of_kept next (own.kept token (by simp))
    obtain ⟨a', here, b', here', ends'⟩ := clears sequence member
    have last : [a, b] <:+ front := by
      rw [← content, List.flatMap_append, List.flatMap_singleton]
      exact ends.trans (List.suffix_append _ _)
    have same := List.IsSuffix.eq_of_length
      (List.suffix_of_suffix_length_le last (ends'.trans suffix) (Nat.le_refl 2)) rfl
    cases same
    cases apart with
    | inl last => simp [last] at here'
    | inr first => cases first <;> simp_all

/-- Bytes that a ring holds as they are when they are pushed to it at once. -/
inductive Shaped : Bytes → Prop
  | plain {buf : Bytes} : (∀ start last, ¬Occurs clearSequences buf start last) → Shaped buf
  | cleared {front adjacent rest : Bytes} {n : Nat} : OwnState front → Cleared adjacent →
      LastOccurs clearSequences rest 0 n → Shaped (front ++ (adjacent ++ rest))

namespace Shaped

theorem span (own : OwnState front) (cleared : Cleared adjacent) (here : LastOccurs clearSequences rest 0 n) :
    LastOccurs clearSequences (front ++ (adjacent ++ rest)) (front ++ adjacent).length
        ((front ++ adjacent).length + n) ∧
      includeAdjacentClearPrefix (front ++ (adjacent ++ rest)) (front ++ adjacent).length = front.length := by
  have whole : LastOccurs clearSequences (front ++ (adjacent ++ rest)) (front ++ adjacent).length
      ((front ++ adjacent).length + n) := by
    simpa using here.append_left separate_clearSequences (front ++ adjacent)
  refine ⟨whole, includeAdjacentClearPrefix_eq (le_of_lastOccurs whole) cleared ?_ (not_suffix_of_ownState own)⟩
  rw [← List.append_assoc, List.take_left]

theorem reread (h : Shaped buf) (le : buf.length ≤ ring.cap) : (ring.clear.push buf).2.buf = buf := by
  have stored : ring.clear.stored buf = buf := by
    cases h with
    | plain absent => exact ScrollbackRing.stored_clear_of_none ring (findLastClearSpan_eq_none.2 absent)
    | @cleared front adjacent rest n own cleared here =>
      have span := span own cleared here
      have state : terminalStateSequences (front ++ adjacent) = terminalStateSequences front := by
        rw [terminalStateSequences_eq, terminalStateSequences_eq, modes_append own.settled, cleared.modes_eq.2]
        simp
      rw [ScrollbackRing.stored_clear_of_some ring (findLastClearSpan_eq_some.2 span.1), span.2,
        List.drop_left, ← List.append_assoc front, List.take_left, state, own.flatten_eq, List.append_assoc]
  have fits : ring.clear.Fits buf := by
    rw [ScrollbackRing.Fits, stored]
    exact le
  rw [fits.push_buf, stored]

theorem append (h : Shaped buf)
    (none : ∀ start last, Occurs clearSequences (buf ++ more) start last → last ≤ buf.length) :
    Shaped (buf ++ more) := by
  cases h with
  | plain absent => exact .plain fun start last here => absent start last (here.of_append (none start last here))
  | @cleared front adjacent rest n own cleared here =>
    rw [← List.append_assoc, List.append_assoc] at none
    rw [List.append_assoc, List.append_assoc]
    apply Shaped.cleared own cleared (here.append fun start last found => ?_)
    have le := none _ _ (occurs_append_left.2 found)
    simp only [List.length_append] at le
    omega

theorem take (h : Shaped (buf ++ more))
    (none : ∀ start last, Occurs clearSequences (buf ++ more) start last → last ≤ buf.length) : Shaped buf := by
  generalize e : buf ++ more = whole at h
  cases h with
  | plain absent => exact .plain fun start last here => absent start last (e ▸ here.append more)
  | @cleared front adjacent rest n own cleared here =>
    have span := span own cleared here
    have upTo := none _ _ (e ▸ span.1.1)
    obtain ⟨k, length⟩ := Nat.exists_eq_add_of_le ((Nat.le_add_right _ _).trans upTo)
    have buf_eq : buf = front ++ (adjacent ++ rest.take k) := by
      have taken := congrArg (List.take buf.length) e
      rwa [List.take_left, ← List.append_assoc, length, List.take_length_add_append,
        List.append_assoc] at taken
    rw [buf_eq]
    apply Shaped.cleared own cleared (here.take separate_clearSequences _)
    rw [length] at upTo
    exact Nat.le_of_add_le_add_left upTo

end Shaped

/-- The first `n` bytes end outside of what stands in front of the last clear, or where a sequence of
it does. -/
def WholeCut (bytes : Bytes) (n : Nat) : Prop :=
  ∀ start last, findLastClearSpan bytes = some (start, last) → n ≤ start →
    (n ≤ includeAdjacentClearPrefix bytes start ∧ stateScanner.Settled (bytes.take n)) ∨
      (includeAdjacentClearPrefix bytes start ≤ n ∧
        Cleared ((bytes.take n).drop (includeAdjacentClearPrefix bytes start)))

theorem wholeCut_zero (bytes : Bytes) : WholeCut bytes 0 :=
  fun _ _ _ _ => .inl ⟨Nat.zero_le _, stateScanner.settled_nil⟩

theorem Shaped.drop (h : Shaped bytes) (cut : WholeCut bytes n) : Shaped (bytes.drop n) := by
  cases h with
  | plain absent => exact .plain fun start last here => absent _ _ (occurs_drop.1 here)
  | @cleared front adjacent rest m own cleared here =>
    have span := Shaped.span own cleared here
    cases Nat.lt_or_ge (front ++ adjacent).length n with
    | inl behind => exact .plain fun start last => span.1.not_occurs_drop separate_clearSequences behind
    | inr inside =>
      have cut := cut _ _ (findLastClearSpan_eq_some.2 span.1) inside
      rw [span.2] at cut
      cases cut with
      | inl inFront =>
        rw [List.take_append_of_le_length inFront.1] at inFront
        rw [List.drop_append_of_le_length inFront.1]
        rw [← List.take_append_drop n front] at own
        exact .cleared (own.drop inFront.2) cleared here
      | inr inAdjacent =>
        obtain ⟨k, rfl⟩ := Nat.exists_eq_add_of_le inAdjacent.1
        rw [List.length_append] at inside
        rw [List.take_length_add_append, List.drop_left, List.take_append_of_le_length (by omega)] at inAdjacent
        rw [List.drop_length_add_append, List.drop_append_of_le_length (by omega)]
        rw [← List.take_append_drop k adjacent] at cleared
        exact .cleared .nil (inAdjacent.2.of_append cleared) here

/-- A ring whose bytes a ring that is filled with them takes in as they are; behind a restored prefix
it holds no clear. -/
structure Rereads (ring : ScrollbackRing) : Prop where
  shaped : Shaped ring.buf
  behind : 0 < ring.protectedPrefixLen → ∀ start last, Occurs clearSequences ring.buf start last →
    last ≤ ring.protectedPrefixLen
  le : ring.protectedPrefixLen ≤ ring.buf.length

/-- Where the push puts bytes behind others, no clear sequence comes about that it has not found. -/
def JoinsNone (ring : ScrollbackRing) (chunk : Bytes) : Prop :=
  if findLastClearSpan (ring.detectionBytes chunk) = none then
    ∀ start last, Occurs clearSequences (ring.stored chunk) start last → last ≤ ring.buf.length
  else 0 < ring.protectedPrefixLen →
    ∀ start last, Occurs clearSequences (ring.stored chunk) start last → last ≤ ring.protectedPrefixLen

theorem shaped_found (h : findLastClearSpan bytes = some (start, last)) (discarded : Bytes) :
    Shaped ((terminalStateSequences discarded).flatten ++
      bytes.drop (includeAdjacentClearPrefix bytes start)) := by
  have here := findLastClearSpan_eq_some.1 h
  have lt := separate_clearSequences.lt here.1
  obtain ⟨adjacent, cleared, _, kept⟩ := drop_includeAdjacentClearPrefix (le_of_lastOccurs here)
  rw [kept]
  apply Shaped.cleared (.state discarded) cleared (n := last - start)
  exact LastOccurs.drop (by rwa [Nat.add_zero, Nat.add_sub_cancel' (Nat.le_of_lt lt)])

namespace Rereads

theorem stored (h : Rereads ring) (joins : JoinsNone ring chunk) :
    Shaped (ring.stored chunk) ∧ ring.protectedPrefixLen ≤ (ring.stored chunk).length ∧
      (0 < ring.protectedPrefixLen → ∀ start last, Occurs clearSequences (ring.stored chunk) start last →
        last ≤ ring.protectedPrefixLen) := by
  have le := h.le
  unfold JoinsNone at joins
  cases found : findLastClearSpan (ring.detectionBytes chunk) with
  | none =>
    rw [if_pos found] at joins
    have stored : ring.stored chunk = ring.buf ++ chunk := by rw [ScrollbackRing.stored, found]
    rw [stored] at joins ⊢
    refine ⟨h.shaped.append joins, ?_, fun protected_ start last here => ?_⟩
    · rw [List.length_append]
      omega
    · exact h.behind protected_ start last (here.of_append (joins start last here))
  | some span =>
    rw [if_neg (by simp [found])] at joins
    cases Nat.eq_zero_or_pos ring.protectedPrefixLen with
    | inl unprotected =>
      refine ⟨?_, by omega, fun protected_ => absurd protected_ (by omega)⟩
      rw [ScrollbackRing.stored, found]
      simpa [unprotected] using shaped_found found (ring.discarded chunk span.1)
    | inr protected_ =>
      have joins := joins protected_
      have length : (ring.buf.take ring.protectedPrefixLen).length = ring.protectedPrefixLen := by
        rw [List.length_take]
        omega
      obtain ⟨more, stored⟩ : ∃ more, ring.stored chunk = ring.buf.take ring.protectedPrefixLen ++ more := by
        rw [ScrollbackRing.stored, found]
        exact ⟨_, rfl⟩
      refine ⟨?_, ?_, fun _ => joins⟩
      · have whole := h.shaped
        have behind := h.behind protected_
        rw [← List.take_append_drop ring.protectedPrefixLen ring.buf] at whole behind
        rw [stored] at joins ⊢
        have front := whole.take fun start last here => (behind start last here).trans_eq length.symm
        exact front.append fun start last here => (joins start last here).trans_eq length.symm
      · rw [stored, List.length_append]
        omega

theorem push (h : Rereads ring) (joins : JoinsNone ring chunk)
    (cut : WholeCut (ring.stored chunk) (ring.overflow chunk)) : Rereads (ring.push chunk).2 := by
  obtain ⟨shaped, le, behind⟩ := h.stored joins
  rw [ScrollbackRing.push_snd]
  refine ⟨shaped.drop cut, fun protected_ start last here => ?_, ?_⟩
  · dsimp only at protected_ ⊢
    have upTo := behind (by omega) _ _ (occurs_drop.1 here)
    omega
  · rw [List.length_drop]
    exact Nat.sub_le_sub_right le _

end Rereads

/-- A ring that has not been filled from elsewhere since it was empty. -/
def Unbroken (ring : ScrollbackRing) : Prop :=
  ∃ sent state whole, Follows sent ring ∧ Kept sent state whole ∧ ring.buf <:+ whole

namespace Unbroken

theorem clear (ring : ScrollbackRing) : Unbroken ring.clear :=
  ⟨[], [], [], follows_clear ring, .whole fun _ _ => not_occurs_of_plain List.not_mem_nil, List.suffix_rfl⟩

theorem push (h : Unbroken ring) (chunk : Bytes) : Unbroken (ring.push chunk).2 := by
  obtain ⟨sent, state, whole, follows, kept, suffix⟩ := h
  have drained : (ring.push chunk).2.buf <:+ ring.stored chunk := by
    rw [ScrollbackRing.push_snd]
    exact List.drop_suffix _ _
  cases found : findLastClearSpan (ring.detectionBytes chunk) with
  | none =>
    have missed := follows.missed found
    refine ⟨sent ++ chunk, state, whole ++ chunk, follows.push, kept.append missed.2, drained.trans ?_⟩
    obtain ⟨front, rfl⟩ := suffix
    exact missed.1 ▸ ⟨front, by rw [List.append_assoc]⟩
  | some span => exact ⟨sent ++ chunk, _, _, follows.push, (follows.found found).2, drained⟩

theorem joinsNone (h : Unbroken ring) (chunk : Bytes) : JoinsNone ring chunk := by
  obtain ⟨sent, state, whole, follows, kept, suffix⟩ := h
  unfold JoinsNone
  split
  · rename_i found
    intro start last here
    have missed := follows.missed found
    have all := kept.le_length missed.2
    obtain ⟨front, rfl⟩ := suffix
    rw [missed.1] at here
    rw [List.append_assoc] at all
    have le := all _ _ (occurs_append_left.2 here)
    rw [List.length_append] at le
    omega
  · exact fun protected_ => absurd follows.unprotected (by omega)

end Unbroken

end VibeLink.Daemon
