import VibeLink.Daemon.Modes
import VibeLink.Terminal.ClearSequences

/-! The searches of the frontend come to what those of the daemon come to. -/

namespace VibeLink.Terminal

open VibeLink.Lexing
open VibeLink.Daemon (Bytes isParam isIntermediate isFinal splitString StateToken nextState modes)

variable {bytes front rest after body terminator : Bytes} {start last index : Nat} {token : StateToken}

theorem clearSequences_eq : clearSequences = Daemon.clearSequences := rfl

theorem bytesMatch_iff {needle : Bytes} : bytesMatch bytes start needle ↔ needle <+: bytes.drop start := by
  rw [List.prefix_iff_getElem?]
  simp only [bytesMatch, List.all_eq_true, List.mem_range, decide_eq_true_eq, List.getElem?_drop]
  constructor
  · intro h i lt
    rw [h i lt, List.getElem?_eq_getElem lt]
  · intro h i lt
    rw [h i lt, List.getElem?_eq_getElem lt]

theorem mem_escapes : index ∈ escapes bytes ↔ bytes[index]? = some 0x1b := by
  rw [escapes, List.mem_filter, List.mem_range, decide_eq_true_eq]
  constructor
  · intro h
    exact h.2
  · intro h
    exact ⟨(List.getElem?_eq_some_iff.1 h).1, h⟩

def family (bytes : Bytes) (index : Nat) : List Bytes :=
  if bytes[index + 1]? = some 0x5b then csiClearSequences else nonCsiClearSequences

theorem family_subset {sequence : Bytes} (member : sequence ∈ family bytes index) :
    sequence ∈ Daemon.clearSequences := by
  unfold family at member
  split at member
  · exact List.mem_of_mem_filter member
  · exact List.mem_of_mem_filter member

theorem mem_family {sequence : Bytes} (member : sequence ∈ Daemon.clearSequences)
    (here : sequence <+: bytes.drop index) : index ∈ escapes bytes ∧ sequence ∈ family bytes index := by
  have begins : ∀ sequence ∈ Daemon.clearSequences, sequence[0]? = some 0x1b ∧ 2 ≤ sequence.length := by decide
  have first := begins sequence member
  have same : ∀ i < 2, bytes[index + i]? = sequence[i]? := by
    intro i lt
    have inside : i < sequence.length := Nat.lt_of_lt_of_le lt first.2
    rw [← List.getElem?_drop, List.prefix_iff_getElem?.1 here i inside, List.getElem?_eq_getElem inside]
  refine ⟨mem_escapes.2 ((same 0 Nat.two_pos).trans first.1), ?_⟩
  unfold family
  rw [same 1 Nat.one_lt_two]
  split
  · rename_i csi
    exact List.mem_filter.2 ⟨member, by simpa using csi⟩
  · rename_i nonCsi
    exact List.mem_filter.2 ⟨member, by simpa using nonCsi⟩

theorem isLast_findLastClearSpan (bytes : Bytes) :
    IsLast Daemon.clearSequences bytes (findLastClearSpan bytes) := by
  have nothing : IsLatest (fun _ _ => False) none := fun _ _ => id
  have searched := nothing.foldl (fun candidate => bytesMatch bytes candidate.1 candidate.2)
    (fun candidate => (candidate.1, candidate.1 + candidate.2.length))
    ((escapes bytes).flatMap fun index => (family bytes index).map fun sequence => (index, sequence))
  rw [List.foldl_flatMap] at searched
  simp only [List.foldl_map] at searched
  apply searched.congr
  intro start last
  simp only [false_or, List.mem_flatMap, List.mem_map, Prod.ext_iff, bytesMatch_iff]
  constructor
  · intro h
    obtain ⟨⟨index, sequence⟩, ⟨index', _, sequence', member, same⟩, here, place⟩ := h
    obtain ⟨rfl, rfl⟩ := same
    exact ⟨sequence', family_subset member, place.1 ▸ here, place.1 ▸ place.2⟩
  · intro h
    obtain ⟨sequence, member, here, rfl⟩ := h
    have found := mem_family member here
    exact ⟨(start, sequence), ⟨start, found.1, sequence, found.2, rfl, rfl⟩, here, rfl, rfl⟩

theorem findLastClearSpan_eq (bytes : Bytes) :
    findLastClearSpan bytes = Daemon.findLastClearSpan bytes :=
  (isLast_findLastClearSpan bytes).unique Daemon.separate_clearSequences (Daemon.isLast_findLastClearSpan bytes)

theorem includeAdjacentFrom_eq (bytes : Bytes) :
    ∀ fuel start, includeAdjacentFrom bytes fuel start = Daemon.includeAdjacentFrom bytes fuel start := by
  intro fuel
  induction fuel with
  | zero => exact fun _ => rfl
  | succ fuel ih =>
    intro start
    have same : ∀ sequence : Bytes, bytesMatch bytes (start - sequence.length) sequence =
        decide ((bytes.drop (start - sequence.length)).take sequence.length = sequence) := by
      intro sequence
      rw [Bool.eq_iff_iff, bytesMatch_iff, decide_eq_true_eq, Daemon.take_drop_eq_iff]
    simp only [includeAdjacentFrom, Daemon.includeAdjacentFrom, clearSequences_eq, same, decide_eq_true_eq, ih]
    rfl

theorem includeAdjacentClearPrefix_eq (bytes : Bytes) (start : Nat) :
    includeAdjacentClearPrefix bytes start = Daemon.includeAdjacentClearPrefix bytes start :=
  includeAdjacentFrom_eq bytes start start

section Cursor

theorem getElem?_append_add (front rest : Bytes) (k : Nat) : (front ++ rest)[front.length + k]? = rest[k]? := by
  rw [List.getElem?_append_right (Nat.le_add_right _ _), Nat.add_sub_cancel_left]

theorem getElem?_append_length (front rest : Bytes) : (front ++ rest)[front.length]? = rest.head? := by
  rw [List.head?_eq_getElem?]
  exact getElem?_append_add front rest 0

theorem extract_append_add (front rest : Bytes) (k : Nat) :
    (front ++ rest).extract front.length (front.length + k) = rest.take k := by
  rw [List.extract_eq_take_drop, List.drop_left, Nat.add_sub_cancel_left]

theorem advance_takeWhile (p : UInt8 → Bool) (front rest : Bytes) :
    advance (fun cursor => (front ++ rest)[cursor]?.any p) rest.length front.length =
      front.length + (rest.takeWhile p).length := by
  induction rest generalizing front with
  | nil => rfl
  | cons byte rest ih =>
    have here : (front ++ byte :: rest)[front.length]? = some byte := getElem?_append_length _ _
    rw [List.length_cons, advance, here, Option.any_some]
    cases e : p byte with
    | true =>
      have next := ih (front ++ [byte])
      rw [List.append_assoc, List.length_append] at next
      simp only [if_true, List.takeWhile_cons, e, List.length_cons]
      exact next.trans (by simp; omega)
    | false => simp [e]

theorem csiEnds_append (front rest : Bytes) :
    csiEnds (front ++ rest) (front ++ rest).length front.length =
      (front.length + (rest.takeWhile isParam).length,
        front.length + (rest.takeWhile isParam).length +
          ((rest.dropWhile isParam).takeWhile isIntermediate).length) := by
  have params : (front ++ rest).length - front.length = rest.length := by simp
  have split : front ++ rest = (front ++ rest.takeWhile isParam) ++ rest.dropWhile isParam := by simp
  have left : (front ++ rest).length - (front.length + (rest.takeWhile isParam).length) =
      (rest.dropWhile isParam).length := by
    conv_lhs => rw [split]
    rw [List.length_append, List.length_append, Nat.add_sub_cancel_left]
  have intermediates := advance_takeWhile isIntermediate (front ++ rest.takeWhile isParam) (rest.dropWhile isParam)
  rw [← split, List.length_append] at intermediates
  simp only [csiEnds, params, advance_takeWhile, left, intermediates]

theorem csi_final (front rest : Bytes) :
    (front ++ rest)[front.length + (rest.takeWhile isParam).length +
        ((rest.dropWhile isParam).takeWhile isIntermediate).length]? =
      ((rest.dropWhile isParam).dropWhile isIntermediate).head? := by
  have split : front ++ rest = (front ++ rest.takeWhile isParam ++
      (rest.dropWhile isParam).takeWhile isIntermediate) ++ (rest.dropWhile isParam).dropWhile isIntermediate := by
    simp
  have here := getElem?_append_length (front ++ rest.takeWhile isParam ++
    (rest.dropWhile isParam).takeWhile isIntermediate) ((rest.dropWhile isParam).dropWhile isIntermediate)
  rw [← split, List.length_append, List.length_append] at here
  exact here

/-- The bytes from `ESC [` up to the final byte. -/
def csiContent (rest : Bytes) (finalByte : UInt8) : Bytes :=
  0x1b :: 0x5b :: rest.takeWhile isParam ++ (rest.dropWhile isParam).takeWhile isIntermediate ++ [finalByte]

theorem length_csiContent (front rest : Bytes) (finalByte : UInt8) :
    front.length + (csiContent rest finalByte).length =
      front.length + 2 + (rest.takeWhile isParam).length +
        ((rest.dropWhile isParam).takeWhile isIntermediate).length + 1 := by
  simp only [csiContent, List.length_append, List.length_cons, List.length_nil]
  omega

theorem csiContent_append {finalByte : UInt8}
    (h : (rest.dropWhile isParam).dropWhile isIntermediate = finalByte :: after) :
    0x1b :: 0x5b :: rest = csiContent rest finalByte ++ after := by
  conv_lhs => rw [Daemon.csi_content h]
  simp [csiContent]

theorem extract_csiContent {finalByte : UInt8} (front : Bytes)
    (h : (rest.dropWhile isParam).dropWhile isIntermediate = finalByte :: after) :
    (front ++ 0x1b :: 0x5b :: rest).extract front.length (front.length + 2 + (rest.takeWhile isParam).length +
        ((rest.dropWhile isParam).takeWhile isIntermediate).length + 1) = csiContent rest finalByte := by
  rw [← length_csiContent front rest finalByte, extract_append_add, csiContent_append h, List.take_left]

theorem isTerminator_append (front rest : Bytes) :
    isTerminator (front ++ rest) front.length =
      decide (rest[0]? = some 0x07 ∨ rest[0]? = some 0x1b ∧ rest[1]? = some 0x5c) := by
  have first := getElem?_append_add front rest 0
  rw [Nat.add_zero] at first
  rw [isTerminator, first, getElem?_append_add front rest 1]

theorem stringEnd_append (front rest : Bytes) :
    stringEnd (front ++ rest) (front ++ rest).length front.length =
      match splitString rest with
      | none => front.length + rest.length
      | some (body, _, _) => front.length + body.length := by
  have left : (front ++ rest).length - front.length = rest.length := by simp
  rw [stringEnd, left]
  clear left
  induction rest using VibeLink.Daemon.splitString.induct generalizing front with
  | case1 => rfl
  | case2 rest => simp [advance, isTerminator_append, splitString]
  | case3 rest => simp [advance, isTerminator_append, splitString]
  | case4 byte rest bell backslash ih =>
    have next := ih (front ++ [byte])
    have plain : isTerminator (front ++ byte :: rest) front.length = false := by
      rw [isTerminator_append]
      cases rest with
      | nil => simpa using bell
      | cons byte' rest =>
        simp only [List.getElem?_cons_zero, List.getElem?_cons_succ, Option.some.injEq,
          decide_eq_false_iff_not, not_or, not_and]
        exact ⟨bell, fun escape same => backslash rest escape (by rw [same])⟩
    simp only [List.length_cons, advance, plain, not_false_eq_true, decide_true, if_true, Bool.false_eq_true]
    rw [splitString]
    · rw [List.append_assoc, List.length_append, List.singleton_append] at next
      generalize splitString rest = found at next ⊢
      cases found with
      | none =>
        simp only [List.length_singleton, Option.map_none] at next ⊢
        exact next.trans (Nat.add_right_comm _ _ _)
      | some read =>
        simp only [List.length_singleton, Option.map_some] at next ⊢
        exact next.trans (Nat.add_right_comm _ _ _)
    · exact bell
    · exact backslash

end Cursor

theorem isStateCsi_iff (firstParam : Option UInt8) (intermediates after : Bytes) (finalByte : UInt8) :
    Daemon.isStateCsi firstParam intermediates finalByte ↔
      ((some finalByte = some 0x68 ∨ some finalByte = some 0x6c) ∧ intermediates.length = 0) ∨
      (some finalByte = some 0x75 ∧ intermediates.length = 0 ∧
        (firstParam = some 0x3e ∨ firstParam = some 0x3c ∨ firstParam = some 0x3d)) ∨
      some finalByte = some 0x71 ∧ intermediates.length = 1 ∧
        (intermediates ++ after).head? = some 0x20 := by
  have style : intermediates = [0x20] ↔ intermediates.length = 1 ∧ (intermediates ++ after).head? = some 0x20 := by
    constructor
    · intro h
      simp [h]
    · intro h
      obtain ⟨byte, rfl⟩ := List.length_eq_one_iff.1 h.1
      simpa using h.2
  rw [← style]
  simp [Daemon.isStateCsi]

theorem stateRound_csi (front rest : Bytes) :
    stateRound (front ++ 0x1b :: 0x5b :: rest) (front ++ 0x1b :: 0x5b :: rest).length front.length =
      match (rest.dropWhile isParam).dropWhile isIntermediate with
      | [] => ⟨front.length + 2, none, none⟩
      | finalByte :: _ =>
        if ¬isFinal finalByte then ⟨front.length + 2, none, none⟩
        else
          ⟨front.length + (csiContent rest finalByte).length,
            if Daemon.isStateCsi rest.head? ((rest.dropWhile isParam).takeWhile isIntermediate) finalByte then
              some (csiContent rest finalByte) else none, none⟩ := by
  have split : front ++ 0x1b :: 0x5b :: rest = (front ++ [0x1b, 0x5b]) ++ rest := by simp
  have behind : front.length + 2 = (front ++ [0x1b, 0x5b]).length := by simp
  have escape : (front ++ 0x1b :: 0x5b :: rest)[front.length]? = some 0x1b := getElem?_append_length _ _
  have kind : (front ++ 0x1b :: 0x5b :: rest)[front.length + 1]? = some 0x5b := getElem?_append_add _ _ 1
  have ends := csiEnds_append (front ++ [0x1b, 0x5b]) rest
  have final := csi_final (front ++ [0x1b, 0x5b]) rest
  have first := getElem?_append_length (front ++ [0x1b, 0x5b]) rest
  have params : front ++ 0x1b :: 0x5b :: rest =
      (front ++ [0x1b, 0x5b] ++ rest.takeWhile isParam) ++ rest.dropWhile isParam := by simp
  have between := getElem?_append_length (front ++ [0x1b, 0x5b] ++ rest.takeWhile isParam) (rest.dropWhile isParam)
  rw [← params, List.length_append, ← behind] at between
  rw [← split, ← behind] at ends final first
  simp only [stateRound, escape, kind, ends, final, first, between, ne_eq, not_true_eq_false, if_false]
  cases e : (rest.dropWhile isParam).dropWhile isIntermediate with
  | nil => simp
  | cons finalByte after =>
    have count := length_csiContent front rest finalByte
    have inside : ¬(front ++ 0x1b :: 0x5b :: rest).length ≤ front.length + 2 + (rest.takeWhile isParam).length +
        ((rest.dropWhile isParam).takeWhile isIntermediate).length := by
      have length := congrArg List.length (csiContent_append e)
      rw [List.length_append] at length ⊢
      omega
    have dropped : rest.dropWhile isParam =
        (rest.dropWhile isParam).takeWhile isIntermediate ++ finalByte :: after := by
      rw [← e, List.takeWhile_append_dropWhile]
    have kept := isStateCsi_iff rest.head? ((rest.dropWhile isParam).takeWhile isIntermediate)
      (finalByte :: after) finalByte
    rw [← dropped] at kept
    simp only [inside, false_or, List.head?_cons, Option.any_some, Nat.add_sub_cancel_left, count, kept,
      extract_csiContent front e]

theorem stringEnd_introduced (front rest : Bytes) (introducer : UInt8) :
    stringEnd (front ++ 0x1b :: introducer :: rest) (front ++ 0x1b :: introducer :: rest).length
        (front.length + 2) =
      match splitString rest with
      | none => front.length + 2 + rest.length
      | some (body, _, _) => front.length + 2 + body.length := by
  have split : front ++ 0x1b :: introducer :: rest = (front ++ [0x1b, introducer]) ++ rest := by simp
  have behind : front.length + 2 = (front ++ [0x1b, introducer]).length := by simp
  rw [split, behind]
  exact stringEnd_append _ rest

theorem string_terminated (front : Bytes) (introducer : UInt8)
    (h : splitString rest = some (body, terminator, after)) :
    0x1b :: introducer :: rest = (0x1b :: introducer :: body ++ terminator) ++ after ∧
      front.length + 2 + body.length < (front ++ 0x1b :: introducer :: rest).length ∧
      front.length + 2 + body.length +
          terminatorLength (front ++ 0x1b :: introducer :: rest) (front.length + 2 + body.length) =
        front.length + (0x1b :: introducer :: body ++ terminator).length := by
  have whole := (Daemon.splitString_append h []).1
  have content : 0x1b :: introducer :: rest = (0x1b :: introducer :: body ++ terminator) ++ after := by
    rw [whole]
    simp
  have there := getElem?_append_length (front ++ [0x1b, introducer] ++ body) (terminator ++ after)
  have split : front ++ 0x1b :: introducer :: rest = front ++ [0x1b, introducer] ++ body ++ (terminator ++ after) := by
    rw [content]
    simp
  have index : (front ++ [0x1b, introducer] ++ body).length = front.length + 2 + body.length := by
    rw [List.length_append, List.length_append]
    rfl
  have length : (front ++ 0x1b :: introducer :: rest).length =
      front.length + 2 + body.length + (terminator ++ after).length := by
    rw [split, ← index]
    exact List.length_append
  rw [← split, index] at there
  refine ⟨content, ?_, ?_⟩
  · cases Daemon.splitString_terminator h with
    | inl bell => simp [length, bell]
    | inr backslash => simp [length, backslash]
  · rw [terminatorLength, there]
    cases Daemon.splitString_terminator h with
    | inl bell => simp [bell]; omega
    | inr backslash => simp [backslash]; omega

theorem stateRound_osc (front rest : Bytes) :
    stateRound (front ++ 0x1b :: 0x5d :: rest) (front ++ 0x1b :: 0x5d :: rest).length front.length =
      match splitString rest with
      | none => ⟨front.length + (0x1b :: 0x5d :: rest).length, none, none⟩
      | some (body, terminator, _) =>
        let content := 0x1b :: 0x5d :: body ++ terminator
        ⟨front.length + content.length, none,
          if (rest[0]? = some 0x30 ∨ rest[0]? = some 0x32) ∧ rest[1]? = some 0x3b then some content else none⟩ := by
  have escape : (front ++ 0x1b :: 0x5d :: rest)[front.length]? = some 0x1b := getElem?_append_length _ _
  have kind : (front ++ 0x1b :: 0x5d :: rest)[front.length + 1]? = some 0x5d := getElem?_append_add _ _ 1
  have code : (front ++ 0x1b :: 0x5d :: rest)[front.length + 2]? = rest[0]? := getElem?_append_add _ _ 2
  have separator : (front ++ 0x1b :: 0x5d :: rest)[front.length + 3]? = rest[1]? := getElem?_append_add _ _ 3
  simp only [stateRound, escape, kind, stringEnd_introduced, code, separator, ne_eq, not_true_eq_false, if_false]
  cases e : splitString rest with
  | none =>
    rw [if_pos (by simp; omega)]
    simp
  | some read =>
    obtain ⟨body, terminator, after⟩ := read
    have terminated := string_terminated front 0x5d e
    have taken := extract_append_add front (0x1b :: 0x5d :: rest) (0x1b :: 0x5d :: body ++ terminator).length
    conv_rhs at taken => rw [terminated.1, List.take_left]
    simp only [Nat.not_le_of_lt terminated.2.1, if_false, terminated.2.2, taken]

theorem stateRound_next (front : Bytes) (h : nextState rest = some (token, after)) :
    stateRound (front ++ rest) (front ++ rest).length front.length =
      ⟨front.length + token.content.length,
        if token.kind = .preserved then some token.content else none,
        if token.kind = .title then some token.content else none⟩ := by
  unfold nextState at h
  split at h
  · exact nomatch h
  · rename_i byte rest
    have here : (front ++ byte :: rest)[front.length]? = some byte := getElem?_append_length _ _
    split at h
    · rename_i plain
      cases h
      simp [stateRound, plain]
    · rename_i escape
      obtain rfl := Decidable.not_not.1 escape
      have behind := getElem?_append_add front (0x1b :: rest) 1
      have pair := extract_append_add front (0x1b :: rest) 2
      have triple := extract_append_add front (0x1b :: rest) 3
      split at h
      · rename_i rest
        rw [stateRound_csi]
        unfold Daemon.csiState at h
        cases e : (rest.dropWhile isParam).dropWhile isIntermediate with
        | nil => simp [e] at h
        | cons finalByte behind =>
          simp only [e] at h ⊢
          split at h
          · rename_i malformed
            cases h
            simp [malformed]
          · rename_i wellFormed
            cases h
            simp only [wellFormed, if_false]
            split
            · rfl
            · rfl
      · cases h
        simp [stateRound, pair]
      · cases h
        simp [stateRound, pair]
      · rename_i rest
        cases rest with
        | nil => exact nomatch h
        | cons charset rest =>
          cases h
          simp [stateRound, triple]
      · rename_i rest
        cases rest with
        | nil => exact nomatch h
        | cons charset rest =>
          cases h
          simp [stateRound, triple]
      · rename_i rest
        obtain ⟨⟨body, terminator, after⟩, split, e⟩ := Option.map_eq_some_iff.1 h
        cases e
        rw [stateRound_osc, split]
        simp only
        split
        · rfl
        · rfl
      · exact nomatch h
      · rename_i byte rest notCsi notEqual notGreater notOpen notClose notOsc
        cases h
        simp only [stateRound, here, behind, List.getElem?_cons_succ, List.getElem?_cons_zero]
        split <;> simp_all

theorem not_escape_of_csi (rest : Bytes) :
    0x1b ∉ rest.takeWhile isParam ++ (rest.dropWhile isParam).takeWhile isIntermediate := by
  intro member
  cases List.mem_append.1 member with
  | inl param => exact absurd (List.mem_takeWhile_imp param) (by decide)
  | inr intermediate => exact absurd (List.mem_takeWhile_imp intermediate) (by decide)

theorem not_escape_of_unfinished (h : (rest.dropWhile isParam).dropWhile isIntermediate = []) :
    0x1b ∉ rest := by
  have content : rest = rest.takeWhile isParam ++ (rest.dropWhile isParam).takeWhile isIntermediate := by
    have whole := List.takeWhile_append_dropWhile (p := isIntermediate) (l := rest.dropWhile isParam)
    rw [h, List.append_nil] at whole
    rw [whole, List.takeWhile_append_dropWhile]
  rw [content]
  exact not_escape_of_csi rest

theorem stateRound_stop (front : Bytes) (h : nextState rest = none) (ne : rest ≠ []) :
    ∃ n, stateRound (front ++ rest) (front ++ rest).length front.length = ⟨front.length + n, none, none⟩ ∧
      0x1b ∉ rest.drop n := by
  unfold nextState at h
  split at h
  · exact absurd rfl ne
  · rename_i byte rest
    split at h
    · exact nomatch h
    · rename_i escape
      obtain rfl := Decidable.not_not.1 escape
      split at h
      · rename_i rest
        unfold Daemon.csiState at h
        cases e : (rest.dropWhile isParam).dropWhile isIntermediate with
        | nil =>
          exact ⟨2, by rw [stateRound_csi, e], not_escape_of_unfinished e⟩
        | cons finalByte behind =>
          simp only [e] at h
          split at h
          · exact nomatch h
          · exact nomatch h
      · exact nomatch h
      · exact nomatch h
      · rename_i rest
        cases rest with
        | nil => exact ⟨3, by simp [stateRound], by simp⟩
        | cons charset rest => exact nomatch h
      · rename_i rest
        cases rest with
        | nil => exact ⟨3, by simp [stateRound], by simp⟩
        | cons charset rest => exact nomatch h
      · rename_i rest
        have unterminated := Option.map_eq_none_iff.1 h
        exact ⟨_, by rw [stateRound_osc, unterminated], by simp⟩
      · exact ⟨2, by simp [stateRound], by simp⟩
      · exact nomatch h

theorem terminalStateSequencesFrom_plain (fuel : Nat) :
    ∀ {index}, (0x1b ∉ bytes.drop index) → terminalStateSequencesFrom bytes last fuel index = ([], none) := by
  induction fuel with
  | zero => exact fun _ => rfl
  | succ fuel ih =>
    intro index plain
    have here : bytes[index]? ≠ some 0x1b := by
      intro here
      exact plain (List.mem_of_getElem? (i := 0) (by rwa [List.getElem?_drop, Nat.add_zero]))
    have behind : 0x1b ∉ bytes.drop (index + 1) := by
      intro member
      rw [← List.drop_drop] at member
      exact plain (List.mem_of_mem_drop member)
    rw [terminalStateSequencesFrom, stateRound, if_pos here]
    split
    · rfl
    · simp [ih behind]

theorem terminalStateSequencesFrom_eq (front rest : Bytes) (fuel : Nat) (enough : rest.length ≤ fuel) :
    terminalStateSequencesFrom (front ++ rest) (front ++ rest).length fuel front.length = modes rest := by
  induction rest using Daemon.stateScanner.scan_induction generalizing front fuel with
  | stop rest h =>
    have h : nextState rest = none := h
    cases fuel with
    | zero => exact (Daemon.modes_stop h).symm
    | succ fuel =>
      cases rest with
      | nil => simp [terminalStateSequencesFrom, Daemon.modes_stop h]
      | cons byte rest =>
        obtain ⟨n, round, plain⟩ := stateRound_stop front h (List.cons_ne_nil _ _)
        have found : terminalStateSequencesFrom (front ++ byte :: rest) (front ++ byte :: rest).length fuel
            (front.length + n) = ([], none) :=
          terminalStateSequencesFrom_plain fuel (by rwa [← List.drop_drop, List.drop_left])
        rw [terminalStateSequencesFrom, round, if_neg (by simp), Daemon.modes_stop h]
        simp only [found, Option.toList_none, List.append_nil, Option.or_none]
  | next rest token after h ih =>
    have h : nextState rest = some (token, after) := h
    have shorter := Daemon.stateScanner.shorter h
    have content : rest = token.content ++ after := Daemon.stateScanner.reads h
    cases fuel with
    | zero => omega
    | succ fuel =>
      have next := ih (front ++ token.content) fuel (by omega)
      have count : (front ++ token.content).length = front.length + token.content.length := List.length_append
      rw [List.append_assoc, ← content, count] at next
      have inside : ¬(front ++ rest).length ≤ front.length := by
        rw [List.length_append]
        omega
      rw [terminalStateSequencesFrom, if_neg inside, stateRound_next front h]
      simp only [next]
      rw [Daemon.modes_next h]
      cases token with
      | mk content kind =>
        cases kind with
        | preserved => simp [Daemon.outlive, modes]
        | title => simp [Daemon.outlive, modes]
        | other => simp [Daemon.outlive, modes]

theorem terminalStateSequencesIn_eq (bytes : Bytes) :
    terminalStateSequencesIn bytes bytes.length = Daemon.terminalStateSequences bytes := by
  have scanned := terminalStateSequencesFrom_eq [] bytes bytes.length (Nat.le_refl _)
  rw [List.nil_append, List.length_nil] at scanned
  rw [terminalStateSequencesIn, scanned, Daemon.terminalStateSequences_eq]

/-- The daemon and the frontend find the same clear, keep the same sequences in front of it, and
preserve the same state. -/
theorem clear_handling_agrees (bytes : Bytes) :
    Daemon.findLastClearSpan bytes = findLastClearSpan bytes ∧
      (∀ start ≤ bytes.length,
        Daemon.includeAdjacentClearPrefix bytes start = includeAdjacentClearPrefix bytes start) ∧
      Daemon.terminalStateSequences bytes = terminalStateSequencesIn bytes bytes.length :=
  ⟨(findLastClearSpan_eq bytes).symm, fun start _ => (includeAdjacentClearPrefix_eq bytes start).symm,
    (terminalStateSequencesIn_eq bytes).symm⟩

end VibeLink.Terminal
