import VibeLink.Daemon.Chunks

/-! Which cuts of a stream leave the state that a clear restores as it is. -/

namespace VibeLink.Daemon

open VibeLink.Lexing

variable {ring : ScrollbackRing} {sent chunk buf bytes rest adjacent piece more : Bytes} {state : List Bytes}
  {start last n : Nat}

theorem modes_state_append (settled : stateScanner.Settled bytes) (more : Bytes) :
    modes ((terminalStateSequences bytes).flatten ++ more) = modes (bytes ++ more) := by
  rw [modes_append (settled_state bytes), modes_append settled, modes_state]

theorem Cleared.modes_append (h : Cleared bytes) (more : Bytes) : modes (bytes ++ more) = modes more := by
  rw [Daemon.modes_append h.modes_eq.1, h.modes_eq.2]
  simp

/-- What is behind `n` tokens that carry no state. -/
def skip : Nat → Bytes → Option Bytes
  | 0, bytes => some bytes
  | n + 1, bytes =>
    match nextState bytes with
    | some (⟨_, .other⟩, rest) => skip n rest
    | _ => none

theorem modes_skip (h : skip n bytes = some rest) (more : Bytes) : modes (bytes ++ more) = modes (rest ++ more) := by
  induction n generalizing bytes with
  | zero =>
    cases h
    rfl
  | succ n ih =>
    rw [skip] at h
    split at h
    · rename_i next
      rw [modes_other (stateScanner.stable next more)]
      exact ih h
    · exact nomatch h

def begun : List Bytes := clearSequences.flatMap List.inits

theorem mem_begun (begins : Begins clearSequences 9 piece) : piece ∈ begun := by
  obtain ⟨sequence, member, here⟩ := begins.2
  exact List.mem_flatMap.2 ⟨sequence, member, (List.mem_inits _ _).2 here⟩

theorem modes_echo (begins : Begins clearSequences 9 piece) (lone : piece ≠ [0x1b]) (more : Bytes) :
    modes (piece ++ (piece ++ more)) = modes (piece ++ more) := by
  have each : ∀ piece ∈ begun, piece.length ≤ 9 → piece ≠ [0x1b] →
      ∃ i ∈ List.range 12, ∃ j ∈ List.range 2, (skip i (piece ++ piece)).isSome ∧
        skip i (piece ++ piece) = skip j piece := by decide +kernel
  obtain ⟨i, _, j, _, some, same⟩ := each piece (mem_begun begins) begins.1 lone
  obtain ⟨rest, found⟩ := Option.isSome_iff_exists.1 some
  rw [← List.append_assoc, modes_skip found, ← modes_skip (same ▸ found)]

theorem modes_echo_take (begins : Begins clearSequences 9 piece) (lt : n < piece.length) :
    modes (piece ++ piece.take n) = ([], none) ∧ modes (piece.take n) = ([], none) := by
  have each : ∀ piece ∈ begun, piece.length ≤ 9 → ∀ n < piece.length,
      outlive (stateScanner.scanWithin 18 (piece ++ piece.take n)).1 = ([], none) ∧
        outlive (stateScanner.scanWithin 18 (piece.take n)).1 = ([], none) := by decide +kernel
  have := begins.1
  have here := each piece (mem_begun begins) begins.1 n lt
  rw [← stateScanner.scan_eq_scanWithin (by simp; omega), ← stateScanner.scan_eq_scanWithin (by simp; omega)] at here
  exact here

/-- The bytes kept of a stream, with the state of all that its last clear discards in front. -/
structure Faithful (sent : Bytes) (state : List Bytes) (buf : Bytes) : Prop where
  kept : Kept sent state buf
  state_eq : ∀ start last, LastOccurs clearSequences sent start last →
    state = terminalStateSequences (sent.take start)

def ClearOutside (sent : Bytes) : Prop :=
  ∀ start last, findLastClearSpan sent = some (start, last) → stateScanner.Settled (sent.take start)

def beforeCarried (sent : Bytes) : Bytes := sent.take (sent.length - (trailingClearPrefix sent).length)

theorem beforeCarried_append (sent : Bytes) : beforeCarried sent ++ trailingClearPrefix sent = sent :=
  List.suffix_iff_eq_append.1 (carried_trailingClearPrefix sent).suffix

theorem length_beforeCarried (sent : Bytes) :
    (beforeCarried sent).length = sent.length - (trailingClearPrefix sent).length := by
  rw [beforeCarried, List.length_take]
  omega

namespace Faithful

variable (faithful : Faithful sent state buf)
include faithful

theorem modes_append (outside : ClearOutside sent) (more : Bytes) :
    modes (buf ++ more) = modes (sent ++ more) := by
  cases faithful.kept with
  | whole => rfl
  | @cleared start last adjacent here cleared suffix =>
    have outside := outside start last (findLastClearSpan_eq_some.2 here)
    rw [faithful.state_eq start last here, List.append_assoc, List.append_assoc, modes_state_append outside,
      Daemon.modes_append outside, cleared.modes_append, ← Daemon.modes_append outside, ← List.append_assoc,
      List.take_append_drop]

theorem split (outside : ClearOutside sent) (settled : stateScanner.Settled (beforeCarried sent)) :
    ∃ front, buf = front ++ trailingClearPrefix sent ∧ stateScanner.Settled front ∧
      modes front = modes (beforeCarried sent) := by
  cases faithful.kept with
  | whole => exact ⟨beforeCarried sent, (beforeCarried_append sent).symm, settled, rfl⟩
  | @cleared start last adjacent here cleared suffix =>
    have outside := outside start last (findLastClearSpan_eq_some.2 here)
    have le := (carried_trailingClearPrefix sent).start_le separate_clearSequences here.1
    rw [← length_beforeCarried] at le
    have dropped : sent.drop start = (beforeCarried sent).drop start ++ trailingClearPrefix sent := by
      conv_lhs => rw [← beforeCarried_append sent, List.drop_append_of_le_length le]
    have taken : sent.take start = (beforeCarried sent).take start := by
      conv_lhs => rw [← beforeCarried_append sent, List.take_append_of_le_length le]
    rw [taken] at outside
    rw [← List.take_append_drop start (beforeCarried sent), outside.append_iff] at settled
    refine ⟨state.flatten ++ (adjacent ++ (beforeCarried sent).drop start), by simp [dropped], ?_, ?_⟩
    · rw [faithful.state_eq start last here, (settled_state _).append_iff, cleared.modes_eq.1.append_iff]
      exact settled
    · rw [faithful.state_eq start last here, taken, modes_state_append outside,
        Daemon.modes_append outside, cleared.modes_append, ← Daemon.modes_append outside,
        List.take_append_drop]

theorem modes_again (found : LastOccurs clearSequences sent start last)
    (carried : sent.length - (trailingClearPrefix sent).length = start) :
    modes buf = modes (sent.take start) := by
  cases faithful.kept with
  | whole none => exact absurd found.1 (none _ _)
  | @cleared start' last' adjacent here cleared suffix =>
    obtain ⟨rfl, rfl⟩ := here.unique separate_clearSequences found
    have pending : sent.drop start' = trailingClearPrefix sent := by
      rw [← carried]
      exact (List.suffix_iff_eq_drop.1 (carried_trailingClearPrefix sent).suffix).symm
    rw [faithful.state_eq start' last' here, Daemon.modes_append (settled_state _), cleared.modes_append,
      modes_state, pending]
    have lt := separate_clearSequences.lt found.1
    have le := separate_clearSequences.le_length found.1
    have plain : modes (trailingClearPrefix sent) = ([], none) := by
      cases (carried_trailingClearPrefix sent).begins with
      | inl empty => rw [empty]; exact modes_stop rfl
      | inr begins =>
        have := (modes_echo_take begins (n := 0) (by omega)).1
        rwa [List.take_zero, List.append_nil] at this
    simp [plain]

end Faithful

def NewClear (sent chunk : Bytes) (start : Nat) : Prop :=
  ∃ last, findLastClearSpan (sent ++ chunk) = some (start, last) ∧ sent.length < last

/-- A cut in front of `chunk` that does not disturb the state: a clear that the chunk completes comes
after one that stood outside of every sequence, and what is carried to it begins outside of every
sequence, and is no lone ESC, unless the clear begins with it. -/
def CleanCut (sent chunk : Bytes) : Prop :=
  ∀ start, NewClear sent chunk start →
    ClearOutside sent ∧
      (trailingClearPrefix sent = [] ∨
        stateScanner.Settled (beforeCarried sent) ∧ (trailingClearPrefix sent = [0x1b] → start < sent.length))

theorem modes_carried (carried : CarriedClear sent piece) (lone : piece = [0x1b] → n < piece.length)
    (chunk : Bytes) : modes (piece ++ (piece ++ chunk).take n) = modes ((piece ++ chunk).take n) := by
  cases carried.begins with
  | inl empty => simp [empty]
  | inr begins =>
    cases Nat.lt_or_ge n piece.length with
    | inl inside =>
      rw [List.take_append_of_le_length (Nat.le_of_lt inside)]
      have := modes_echo_take begins inside
      rw [this.1, this.2]
    | inr behind =>
      obtain ⟨m, rfl⟩ := Nat.exists_eq_add_of_le behind
      rw [List.take_length_add_append]
      exact modes_echo begins (fun alone => absurd (lone alone) (by omega)) _

theorem Faithful.modes_discarded (faithful : Faithful sent state ring.buf) (follows : Follows sent ring)
    (clean : CleanCut sent chunk) (found : findLastClearSpan (ring.detectionBytes chunk) = some (start, last)) :
    modes (ring.discarded chunk start) =
      modes ((sent ++ chunk).take (sent.length - ring.pendingClearPrefix.length + start)) := by
  have here := (follows.found found).1
  have carried := carried_trailingClearPrefix sent
  rw [follows.discarded_eq, ScrollbackRing.detectionBytes]
  rw [follows.pending] at here ⊢
  cases Nat.lt_or_ge sent.length (sent.length - (trailingClearPrefix sent).length + last) with
  | inr before =>
    -- the clear that the stream ends with, carried whole
    have again : LastOccurs clearSequences sent _ _ :=
      ⟨here.1.of_append before, fun start last h => here.2 start last (h.append chunk)⟩
    have le := carried.start_le separate_clearSequences again.1
    obtain rfl : start = 0 := by omega
    rw [List.take_zero, List.append_nil, faithful.modes_again again rfl,
      List.take_append_of_le_length (by omega)]
  | inl after =>
    obtain ⟨outside, cut⟩ := clean _ ⟨_, findLastClearSpan_eq_some.2 here, after⟩
    cases cut with
    | inl empty =>
      rw [empty, List.nil_append, faithful.modes_append outside, List.length_nil, Nat.sub_zero,
        List.take_length_add_append]
    | inr cut =>
      obtain ⟨front, split, settled, same⟩ := faithful.split outside cut.1
      have lone : trailingClearPrefix sent = [0x1b] → start < (trailingClearPrefix sent).length := by
        intro alone
        have := cut.2 alone
        omega
      have whole : (sent ++ chunk).take (sent.length - (trailingClearPrefix sent).length + start) =
          beforeCarried sent ++ (trailingClearPrefix sent ++ chunk).take start := by
        rw [← length_beforeCarried, ← List.take_length_add_append, ← List.append_assoc, beforeCarried_append]
      rw [split, whole, List.append_assoc, Daemon.modes_append settled, Daemon.modes_append cut.1,
        modes_carried carried lone, same]

theorem Faithful.push (faithful : Faithful sent state ring.buf) (follows : Follows sent ring)
    (clean : CleanCut sent chunk) (fits : ring.Fits chunk) :
    ∃ state', Faithful (sent ++ chunk) state' (ring.push chunk).2.buf := by
  rw [fits.push_buf]
  cases h : findLastClearSpan (ring.detectionBytes chunk) with
  | none =>
    have missed := follows.missed h
    refine ⟨state, missed.1 ▸ faithful.kept.append missed.2, fun start last here => ?_⟩
    have before : LastOccurs clearSequences sent start last :=
      ⟨here.1.of_append (missed.2 _ _ here.1), fun start last h => here.2 start last (h.append chunk)⟩
    rw [faithful.state_eq start last before, List.take_append_of_le_length (le_of_lastOccurs before)]
  | some span =>
    have found := follows.found h
    refine ⟨_, found.2, fun start last here => ?_⟩
    obtain ⟨same, _⟩ := here.unique separate_clearSequences found.1
    rw [terminalStateSequences_eq, terminalStateSequences_eq, same, faithful.modes_discarded follows clean h]

/-- In front of the bytes kept stands what the scan finds in all that the stream's last clear discards. -/
def ModesRestored (sent buf : Bytes) : Prop :=
  ∀ start last, findLastClearSpan sent = some (start, last) →
    ∃ kept, includeAdjacentClearPrefix sent start ≤ kept ∧ kept ≤ start ∧
      buf = (terminalStateSequences (sent.take start)).flatten ++ sent.drop kept

theorem Faithful.modesRestored (faithful : Faithful sent state buf) : ModesRestored sent buf := by
  intro start last h
  have here := findLastClearSpan_eq_some.1 h
  cases faithful.kept with
  | whole none => exact absurd here.1 (none _ _)
  | @cleared start' last' adjacent here' cleared suffix =>
    obtain ⟨rfl, rfl⟩ := here.unique separate_clearSequences here'
    have le := le_of_lastOccurs here
    obtain ⟨front, split⟩ := suffix
    have length := congrArg List.length split
    rw [List.length_append, List.length_take, Nat.min_eq_left le] at length
    refine ⟨front.length, includeAdjacentClearPrefix_le le cleared split.symm, by omega, ?_⟩
    have dropped : sent.drop front.length = adjacent ++ sent.drop start := by
      conv_lhs => rw [← List.take_append_drop start sent, ← split, List.append_assoc, List.drop_left]
    rw [← faithful.state_eq start last here, dropped]

/-- Where every cut is clean, and nothing is drained, the terminal modes that are restored do not
depend on the cuts. -/
theorem modes_restored (ring : ScrollbackRing) (chunks : List Bytes)
    (clean : ∀ before chunk after, chunks = before ++ chunk :: after →
      CleanCut before.flatten chunk ∧ (pushes ring.clear before).Fits chunk) :
    ModesRestored chunks.flatten (pushes ring.clear chunks).snapshot := by
  have faithful : ∃ state, Faithful chunks.flatten state (pushes ring.clear chunks).buf := by
    induction chunks using List.reverseRecOn with
    | nil =>
      have none : ∀ start last, ¬Occurs clearSequences [] start last :=
        fun start last => not_occurs_of_plain List.not_mem_nil
      exact ⟨[], .whole none, fun start last here => absurd here.1 (none start last)⟩
    | append_singleton chunks chunk ih =>
      obtain ⟨state, faithful⟩ := ih fun before chunk' after e =>
        clean before chunk' (after ++ [chunk]) (by simp [e])
      have cut := clean chunks chunk [] rfl
      rw [pushes_snoc, List.flatten_append, List.flatten_singleton]
      exact faithful.push (follows_pushes ring chunks) cut.1 cut.2
  obtain ⟨state, faithful⟩ := faithful
  exact faithful.modesRestored

/-- `ESC =`, `a` and `ESC [2J`, cut in the middle of the clear. -/
theorem keypad_restored :
    let chunks : List Bytes := [[0x1b, 0x3d, 0x61, 0x1b, 0x5b], [0x32, 0x4a]]
    ModesRestored chunks.flatten (pushes (ScrollbackRing.new 64).clear chunks).snapshot := by
  apply modes_restored (ScrollbackRing.new 64)
  intro before chunk after e
  cases before with
  | nil =>
    cases e
    refine ⟨fun start new => ?_, by unfold ScrollbackRing.Fits; decide +kernel⟩
    obtain ⟨last, found, _⟩ := new
    have none : findLastClearSpan [0x1b, 0x3d, 0x61, 0x1b, 0x5b] = none := by decide +kernel
    exact nomatch none.symm.trans found
  | cons first before =>
    cases before with
    | nil =>
      cases e
      have none : findLastClearSpan [0x1b, 0x3d, 0x61, 0x1b, 0x5b] = none := by decide +kernel
      have carried : trailingClearPrefix [0x1b, 0x3d, 0x61, 0x1b, 0x5b] = [0x1b, 0x5b] := by decide +kernel
      refine ⟨fun start new => ⟨fun start last here => (nomatch none.symm.trans here), .inr ⟨?_, fun lone => ?_⟩⟩,
        by unfold ScrollbackRing.Fits; decide +kernel⟩
      · show (stateScanner.scan _).2 = []
        rw [@Scanner.scan_eq_scanWithin _ _ stateScanner 3 _ (by decide +kernel)]
        decide +kernel
      · exact absurd (carried.symm.trans lone) (by decide)
    | cons second before => simp at e

/-- `ESC =` and `ESC [2J`, cut behind the first byte: that byte is scanned twice, and the keypad mode
is lost. -/
theorem keypad_lost :
    let chunks : List Bytes := [[0x1b], [0x3d, 0x1b, 0x5b, 0x32, 0x4a]]
    Roomy (ScrollbackRing.new 64) chunks ∧
      ¬ModesRestored chunks.flatten (pushes (ScrollbackRing.new 64).clear chunks).snapshot := by
  refine ⟨by unfold Roomy; decide, fun restored => ?_⟩
  have held : (pushes (ScrollbackRing.new 64).clear [[0x1b], [0x3d, 0x1b, 0x5b, 0x32, 0x4a]]).snapshot =
      [0x1b, 0x5b, 0x32, 0x4a] := by decide +kernel
  obtain ⟨kept, _, le, e⟩ := restored 2 6 (by decide +kernel)
  have length := congrArg List.length (held.symm.trans e)
  have front : (terminalStateSequences [0x1b, 0x3d]).flatten.length = 2 := by decide +kernel
  rw [List.length_append, List.length_drop] at length
  simp only [List.flatten_cons, List.flatten_nil, List.cons_append, List.nil_append, List.take_succ_cons,
    List.take_zero, front, List.length_cons, List.length_nil] at length
  omega

end VibeLink.Daemon
