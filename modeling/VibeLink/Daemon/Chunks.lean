import VibeLink.Daemon.Modes

/-! What the scrollback holds of a stream that comes in chunks. -/

namespace VibeLink.Daemon

open VibeLink.Lexing

variable {ring : ScrollbackRing} {sent chunk buf adjacent : Bytes} {state : List Bytes} {start last : Nat}

namespace ScrollbackRing

def detectionBytes (ring : ScrollbackRing) (chunk : Bytes) : Bytes := ring.pendingClearPrefix ++ chunk

/-- What a clear that begins at `start` of them discards. -/
def discarded (ring : ScrollbackRing) (chunk : Bytes) (start : Nat) : Bytes :=
  ring.buf.drop ring.protectedPrefixLen ++ (ring.detectionBytes chunk).take start

def stored (ring : ScrollbackRing) (chunk : Bytes) : Bytes :=
  match findLastClearSpan (ring.detectionBytes chunk) with
  | none => ring.buf ++ chunk
  | some (start, last) =>
    ring.buf.take ring.protectedPrefixLen ++ ((terminalStateSequences (ring.discarded chunk start)).flatten ++
      if 0 < ring.protectedPrefixLen then (ring.detectionBytes chunk).drop last
      else (ring.detectionBytes chunk).drop (includeAdjacentClearPrefix (ring.detectionBytes chunk) start))

def Fits (ring : ScrollbackRing) (chunk : Bytes) : Prop := (ring.stored chunk).length ≤ ring.cap

def overflow (ring : ScrollbackRing) (chunk : Bytes) : Nat := (ring.stored chunk).length - ring.cap

theorem push_fst (ring : ScrollbackRing) (chunk : Bytes) :
    (ring.push chunk).1 = (findLastClearSpan (ring.detectionBytes chunk)).isSome := by
  unfold push detectionBytes
  dsimp only
  split <;> simp_all

theorem push_snd (ring : ScrollbackRing) (chunk : Bytes) :
    (ring.push chunk).2 = { ring with
      buf := (ring.stored chunk).drop (ring.overflow chunk)
      pendingClearPrefix := trailingClearPrefix (ring.detectionBytes chunk)
      protectedPrefixLen := ring.protectedPrefixLen - ring.overflow chunk } := by
  unfold overflow stored push
  dsimp only [detectionBytes, discarded]
  cases findLastClearSpan (ring.pendingClearPrefix ++ chunk) with
  | none => rfl
  | some span => simp [store, clearLiveOutput]

theorem stored_clear_of_none {bytes : Bytes} (ring : ScrollbackRing) (h : findLastClearSpan bytes = none) :
    ring.clear.stored bytes = bytes := by
  have here : findLastClearSpan (ring.clear.detectionBytes bytes) = none := h
  rw [stored, here]
  rfl

theorem stored_clear_of_some {bytes : Bytes} (ring : ScrollbackRing) (h : findLastClearSpan bytes = some (start, last)) :
    ring.clear.stored bytes = (terminalStateSequences (bytes.take start)).flatten ++
      bytes.drop (includeAdjacentClearPrefix bytes start) := by
  have here : findLastClearSpan (ring.clear.detectionBytes bytes) = some (start, last) := h
  rw [stored, here]
  rfl

theorem Fits.push_buf (fits : Fits ring chunk) : (ring.push chunk).2.buf = ring.stored chunk := by
  rw [push_snd, overflow, Nat.sub_eq_zero_of_le fits, List.drop_zero]

end ScrollbackRing

def pushes (ring : ScrollbackRing) (chunks : List Bytes) : ScrollbackRing :=
  chunks.foldl (fun ring chunk => (ring.push chunk).2) ring

theorem pushes_snoc (ring : ScrollbackRing) (chunks : List Bytes) (chunk : Bytes) :
    pushes ring (chunks ++ [chunk]) = ((pushes ring chunks).push chunk).2 := by
  simp [pushes]

@[simp] theorem cap_pushes (ring : ScrollbackRing) (chunks : List Bytes) : (pushes ring chunks).cap = ring.cap := by
  induction chunks using List.reverseRecOn with
  | nil => rfl
  | append_singleton chunks chunk ih => rw [pushes_snoc, ScrollbackRing.push_snd, ih]

theorem pendingClearPrefix_pushes (ring : ScrollbackRing) (chunks : List Bytes) :
    (pushes ring.clear chunks).pendingClearPrefix = trailingClearPrefix chunks.flatten := by
  induction chunks using List.reverseRecOn with
  | nil => rfl
  | append_singleton chunks chunk ih =>
    rw [pushes_snoc, ScrollbackRing.push_snd, List.flatten_append, List.flatten_singleton,
      ← trailingClearPrefix_append, ← ih]
    rfl

/-- In a run of pushes a clear sequence is detected: one of them reports a clear, and the bytes that
it searched hold the sequence, at this place of the stream. -/
def Detected (ring : ScrollbackRing) (chunks : List Bytes) (start last : Nat) : Prop :=
  ∃ before chunk after offset start' last', chunks = before ++ chunk :: after ∧
    offset + (pushes ring before).pendingClearPrefix.length = before.flatten.length ∧
    ((pushes ring before).push chunk).1 = true ∧
    start = offset + start' ∧ last = offset + last' ∧
    Occurs clearSequences ((pushes ring before).detectionBytes chunk) start' last'

/-- The chunk with which the stream comes to the byte in front of `last`. -/
theorem exists_chunk : ∀ {chunks : List Bytes}, 0 < last → last ≤ chunks.flatten.length →
    ∃ before chunk after, chunks = before ++ chunk :: after ∧
      before.flatten.length < last ∧ last ≤ (before.flatten ++ chunk).length := by
  intro chunks pos le
  induction chunks using List.reverseRecOn with
  | nil => simp at le; omega
  | append_singleton chunks chunk ih =>
    cases Nat.lt_or_ge chunks.flatten.length last with
    | inl here =>
      rw [List.flatten_append, List.flatten_singleton] at le
      exact ⟨chunks, chunk, [], rfl, here, le⟩
    | inr earlier =>
      obtain ⟨before, found, after, rfl, behind, upTo⟩ := ih earlier
      exact ⟨before, found, after ++ [chunk], by simp, behind, upTo⟩

theorem detected_iff (ring : ScrollbackRing) (chunks : List Bytes) :
    Detected ring.clear chunks start last ↔ Occurs clearSequences chunks.flatten start last := by
  constructor
  · intro h
    obtain ⟨before, chunk, after, offset, s, e, rfl, at_, -, rfl, rfl, here⟩ := h
    have carried := carried_trailingClearPrefix before.flatten
    rw [ScrollbackRing.detectionBytes, pendingClearPrefix_pushes] at here
    rw [pendingClearPrefix_pushes] at at_
    have here := carried.occurs_iff.1 here
    rw [← at_, Nat.add_sub_cancel] at here
    rw [List.flatten_append, List.flatten_cons, ← List.append_assoc]
    exact here.append _
  · intro here
    have lt := separate_clearSequences.lt here
    obtain ⟨before, chunk, after, rfl, behind, upTo⟩ :=
      exists_chunk (by omega) (separate_clearSequences.le_length here)
    have carried := carried_trailingClearPrefix before.flatten
    have le := carried.suffix.length_le
    rw [List.flatten_append, List.flatten_cons, ← List.append_assoc] at here
    have here := here.of_append upTo
    have inside := carried.le_start length_clearSequences here behind
    obtain ⟨s, rfl⟩ := Nat.exists_eq_add_of_le inside
    obtain ⟨e, rfl⟩ := Nat.exists_eq_add_of_le (inside.trans (Nat.le_of_lt lt))
    have found := carried.occurs_iff.2 here
    refine ⟨before, chunk, after, before.flatten.length - (trailingClearPrefix before.flatten).length, s, e,
      rfl, ?_, ?_, rfl, rfl, ?_⟩
    · rw [pendingClearPrefix_pushes]
      omega
    · rw [ScrollbackRing.push_fst, ScrollbackRing.detectionBytes, pendingClearPrefix_pushes,
        Option.isSome_iff_ne_none]
      intro none
      exact findLastClearSpan_eq_none.1 none s e found
    · rw [ScrollbackRing.detectionBytes, pendingClearPrefix_pushes]
      exact found

/-- What is kept of a stream: all of it, or what its last clear leaves: `state`, some of the clears
right in front of it, and the bytes from there on. -/
inductive Kept (sent : Bytes) (state : List Bytes) : Bytes → Prop
  | whole : (∀ start last, ¬Occurs clearSequences sent start last) → Kept sent state sent
  | cleared {start last : Nat} {adjacent : Bytes} : LastOccurs clearSequences sent start last →
      Cleared adjacent → adjacent <:+ sent.take start →
      Kept sent state (state.flatten ++ (adjacent ++ sent.drop start))

theorem le_of_lastOccurs (h : LastOccurs clearSequences sent start last) : start ≤ sent.length :=
  (Nat.le_of_lt (separate_clearSequences.lt h.1)).trans (separate_clearSequences.le_length h.1)

theorem Kept.append (h : Kept sent state buf)
    (none : ∀ start last, Occurs clearSequences (sent ++ chunk) start last → last ≤ sent.length) :
    Kept (sent ++ chunk) state (buf ++ chunk) := by
  cases h with
  | whole absent => exact .whole fun start last here => absent start last (here.of_append (none start last here))
  | cleared here cleared suffix =>
    have le := le_of_lastOccurs here
    have kept : Kept (sent ++ chunk) state _ :=
      .cleared (here.append none) cleared (by rwa [List.take_append_of_le_length le])
    rwa [List.drop_append_of_le_length le, ← List.append_assoc, ← List.append_assoc,
      List.append_assoc state.flatten] at kept

/-- From the last clear sequence on; everything, where there is none. -/
def sinceLastClear (bytes : Bytes) : Bytes :=
  match findLastClearSpan bytes with
  | none => bytes
  | some (start, _) => bytes.drop start

theorem sinceLastClear_of_lastOccurs (h : LastOccurs clearSequences sent start last) :
    sinceLastClear sent = sent.drop start := by
  rw [sinceLastClear, findLastClearSpan_eq_some.2 h]

theorem Kept.lastOccurs (here : LastOccurs clearSequences sent start last) (front : Bytes) :
    LastOccurs clearSequences (front ++ sent.drop start) front.length (front.length + (last - start)) := by
  have lt := separate_clearSequences.lt here.1
  have dropped : LastOccurs clearSequences (sent.drop start) 0 (last - start) :=
    LastOccurs.drop (by rwa [Nat.add_zero, Nat.add_sub_cancel' (Nat.le_of_lt lt)])
  simpa using dropped.append_left separate_clearSequences front

theorem Kept.le_length (h : Kept sent state buf)
    (none : ∀ start last, Occurs clearSequences (sent ++ chunk) start last → last ≤ sent.length) :
    ∀ start last, Occurs clearSequences (buf ++ chunk) start last → last ≤ buf.length := by
  cases h with
  | whole => exact none
  | @cleared start last adjacent here =>
    have le := le_of_lastOccurs here
    have upTo := separate_clearSequences.le_length here.1
    have latest := Kept.lastOccurs (here.append none) (state.flatten ++ adjacent)
    rw [List.drop_append_of_le_length le, ← List.append_assoc] at latest
    intro start' last' found
    rw [← List.append_assoc state.flatten] at found
    have := latest.2 _ _ found
    simp only [List.length_append, List.length_drop] at this ⊢
    omega

theorem Kept.sinceLastClear (h : Kept sent state buf) : sinceLastClear buf = sinceLastClear sent := by
  cases h with
  | whole => rfl
  | cleared here =>
    rw [← List.append_assoc, sinceLastClear_of_lastOccurs (Kept.lastOccurs here _),
      sinceLastClear_of_lastOccurs here, List.drop_left]

/-- A ring with no restored prefix that has taken in the stream since it was empty. -/
structure Follows (sent : Bytes) (ring : ScrollbackRing) : Prop where
  unprotected : ring.protectedPrefixLen = 0
  pending : ring.pendingClearPrefix = trailingClearPrefix sent

namespace Follows

variable (follows : Follows sent ring)
include follows

theorem push : Follows (sent ++ chunk) (ring.push chunk).2 := by
  rw [ScrollbackRing.push_snd]
  refine ⟨by simp [follows.unprotected], ?_⟩
  rw [← trailingClearPrefix_append, ← follows.pending]
  rfl

theorem discarded_eq : ring.discarded chunk start = ring.buf ++ (ring.detectionBytes chunk).take start := by
  rw [ScrollbackRing.discarded, follows.unprotected, List.drop_zero]

theorem missed (h : findLastClearSpan (ring.detectionBytes chunk) = none) :
    ring.stored chunk = ring.buf ++ chunk ∧
      ∀ start last, Occurs clearSequences (sent ++ chunk) start last → last ≤ sent.length := by
  refine ⟨by rw [ScrollbackRing.stored, h], fun start last here => ?_⟩
  have none := findLastClearSpan_eq_none.1 h
  rw [ScrollbackRing.detectionBytes, follows.pending] at none
  exact (carried_trailingClearPrefix sent).le_length separate_clearSequences length_clearSequences none here

theorem found (h : findLastClearSpan (ring.detectionBytes chunk) = some (start, last)) :
    LastOccurs clearSequences (sent ++ chunk) (sent.length - ring.pendingClearPrefix.length + start)
        (sent.length - ring.pendingClearPrefix.length + last) ∧
      Kept (sent ++ chunk) (terminalStateSequences (ring.discarded chunk start)) (ring.stored chunk) := by
  have here := findLastClearSpan_eq_some.1 h
  have carried := carried_trailingClearPrefix sent
  rw [← follows.pending] at carried
  have latest := carried.latest separate_clearSequences length_clearSequences here
  have le := le_of_lastOccurs here
  obtain ⟨adjacent, cleared, suffix, kept⟩ := drop_includeAdjacentClearPrefix le
  obtain ⟨front, whole⟩ : ∃ front, front ++ ring.detectionBytes chunk = sent ++ chunk := by
    obtain ⟨front, e⟩ := carried.suffix
    exact ⟨front, by rw [ScrollbackRing.detectionBytes, ← List.append_assoc, e]⟩
  have offset : sent.length - ring.pendingClearPrefix.length = front.length := by
    have := congrArg List.length whole
    simp only [ScrollbackRing.detectionBytes, List.length_append] at this
    omega
  rw [offset, ← whole] at latest ⊢
  have stored : ring.stored chunk = (terminalStateSequences (ring.discarded chunk start)).flatten ++
      (adjacent ++ (front ++ ring.detectionBytes chunk).drop (front.length + start)) := by
    rw [ScrollbackRing.stored, h, List.drop_length_add_append]
    simp [follows.unprotected, kept]
  rw [stored]
  refine ⟨latest, Kept.cleared latest cleared ?_⟩
  rw [List.take_length_add_append]
  exact suffix.trans (List.suffix_append _ _)

theorem kept_push (kept : Kept sent state ring.buf) (fits : ring.Fits chunk) :
    ∃ state', Kept (sent ++ chunk) state' (ring.push chunk).2.buf := by
  rw [fits.push_buf]
  cases h : findLastClearSpan (ring.detectionBytes chunk) with
  | none =>
    have missed := follows.missed h
    exact ⟨state, missed.1 ▸ kept.append missed.2⟩
  | some span => exact ⟨_, (follows.found h).2⟩

theorem length_stored (chunk : Bytes) : (ring.stored chunk).length ≤ ring.buf.length + 2 * (9 + chunk.length) := by
  have carried : ring.pendingClearPrefix.length ≤ 9 := by
    rw [follows.pending]
    cases (carried_trailingClearPrefix sent).begins with
    | inl empty => simp [empty]
    | inr begins => exact begins.1
  cases h : findLastClearSpan (ring.detectionBytes chunk) with
  | none =>
    rw [(follows.missed h).1, List.length_append]
    omega
  | some span =>
    have le := length_terminalStateSequences (ring.discarded chunk span.1)
    rw [follows.discarded_eq, List.length_append, List.length_take] at le
    have detected : (ring.detectionBytes chunk).length = ring.pendingClearPrefix.length + chunk.length :=
      List.length_append
    simp only [ScrollbackRing.stored, h, follows.unprotected, List.take_zero, List.nil_append,
      List.length_append, Nat.lt_irrefl, if_false, List.length_drop, follows.discarded_eq]
    omega

end Follows

theorem follows_clear (ring : ScrollbackRing) : Follows [] ring.clear := ⟨rfl, rfl⟩

theorem follows_pushes (ring : ScrollbackRing) (chunks : List Bytes) :
    Follows chunks.flatten (pushes ring.clear chunks) := by
  induction chunks using List.reverseRecOn with
  | nil => exact follows_clear ring
  | append_singleton chunks chunk ih =>
    rw [pushes_snoc, List.flatten_append, List.flatten_singleton]
    exact ih.push

/-- Room for a run: a push keeps at most its bytes and the ones carried to it twice, as state that it
takes from them and as bytes. -/
def Roomy (ring : ScrollbackRing) (chunks : List Bytes) : Prop :=
  2 * (9 * chunks.length + chunks.flatten.length) ≤ ring.cap

theorem length_buf_pushes (ring : ScrollbackRing) (chunks : List Bytes) :
    (pushes ring.clear chunks).buf.length ≤ 2 * (9 * chunks.length + chunks.flatten.length) := by
  induction chunks using List.reverseRecOn with
  | nil => exact Nat.le_refl 0
  | append_singleton chunks chunk ih =>
    have stored := (follows_pushes ring chunks).length_stored chunk
    rw [pushes_snoc, ScrollbackRing.push_snd]
    simp only [List.length_drop, List.flatten_append, List.flatten_singleton, List.length_append,
      List.length_singleton] at ih ⊢
    omega

theorem Roomy.fits {chunks : List Bytes} (roomy : Roomy ring (chunks ++ [chunk])) :
    (pushes ring.clear chunks).Fits chunk := by
  have stored := (follows_pushes ring chunks).length_stored chunk
  have le := length_buf_pushes ring chunks
  have cap : (pushes ring.clear chunks).cap = ring.cap := cap_pushes ring.clear chunks
  simp only [Roomy, List.flatten_append, List.flatten_singleton, List.length_append, List.length_singleton] at roomy
  unfold ScrollbackRing.Fits
  omega

theorem Roomy.of_snoc {chunks : List Bytes} (roomy : Roomy ring (chunks ++ [chunk])) : Roomy ring chunks := by
  simp only [Roomy, List.flatten_append, List.flatten_singleton, List.length_append, List.length_singleton] at roomy ⊢
  omega

theorem kept_pushes {chunks : List Bytes} (roomy : Roomy ring chunks) :
    ∃ state, Kept chunks.flatten state (pushes ring.clear chunks).buf := by
  induction chunks using List.reverseRecOn with
  | nil => exact ⟨[], .whole fun start last => not_occurs_of_plain List.not_mem_nil⟩
  | append_singleton chunks chunk ih =>
    obtain ⟨state, kept⟩ := ih roomy.of_snoc
    rw [pushes_snoc, List.flatten_append, List.flatten_singleton]
    exact (follows_pushes ring chunks).kept_push kept roomy.fits

/-- However a stream is cut into chunks, the same clear sequences are detected, those of the stream,
and the same bytes are kept from the last one on. -/
theorem clears_found_alike (ring : ScrollbackRing) (chunks chunks' : List Bytes)
    (same : chunks.flatten = chunks'.flatten) (roomy : Roomy ring chunks) (roomy' : Roomy ring chunks') :
    (∀ start last, Detected ring.clear chunks start last ↔ Detected ring.clear chunks' start last) ∧
      (∀ start last, Detected ring.clear chunks start last ↔
        Occurs clearSequences chunks.flatten start last) ∧
      sinceLastClear (pushes ring.clear chunks).snapshot = sinceLastClear (pushes ring.clear chunks').snapshot := by
  obtain ⟨state, kept⟩ := kept_pushes roomy
  obtain ⟨state', kept'⟩ := kept_pushes roomy'
  refine ⟨fun start last => ?_, fun start last => detected_iff ring chunks, ?_⟩
  · rw [detected_iff, detected_iff, same]
  · exact kept.sinceLastClear.trans ((congrArg sinceLastClear same).trans kept'.sinceLastClear.symm)

/-- `a`, `ESC [2J` and `b`, cut in the middle of the sequence. -/
theorem split_clear_found :
    let whole : List Bytes := [[0x61, 0x1b, 0x5b, 0x32, 0x4a, 0x62]]
    let split : List Bytes := [[0x61, 0x1b, 0x5b], [0x32, 0x4a, 0x62]]
    let ring := ScrollbackRing.new 64
    (∀ start last, Detected ring.clear whole start last ↔ Detected ring.clear split start last) ∧
      (∀ start last, Detected ring.clear whole start last ↔ Occurs clearSequences whole.flatten start last) ∧
      sinceLastClear (pushes ring.clear whole).snapshot = sinceLastClear (pushes ring.clear split).snapshot :=
  clears_found_alike (ScrollbackRing.new 64) _ _ rfl (by unfold Roomy; decide) (by unfold Roomy; decide)

end VibeLink.Daemon
