import VibeLink.Daemon.Clears
import VibeLink.Lexing.Jsonc
import Mathlib.Data.List.TakeWhile

/-! The scan for what outlives a clear, token by token. -/

namespace VibeLink.Daemon

open VibeLink.Lexing

/-- A sequence to preserve, a title, of which only the last is kept, or anything else. -/
inductive StateKind where
  | preserved
  | title
  | other
  deriving DecidableEq

structure StateToken where
  content : Bytes
  kind : StateKind
  deriving DecidableEq

variable {bytes front rest after more body terminator : Bytes} {byte finalByte : UInt8}
  {token : StateToken} {tokens : List StateToken}

theorem dropWhile_append_cons {p : UInt8 → Bool} (h : rest.dropWhile p = byte :: after) (more : Bytes) :
    (rest ++ more).takeWhile p = rest.takeWhile p ∧ (rest ++ more).dropWhile p = byte :: (after ++ more) := by
  induction rest with
  | nil => exact nomatch h
  | cons head rest ih =>
    cases e : p head with
    | true =>
      simp only [List.dropWhile_cons, List.takeWhile_cons, e, if_true, List.cons_append] at h ⊢
      rw [(ih h).1, (ih h).2]
      exact ⟨rfl, rfl⟩
    | false =>
      rw [List.dropWhile_cons_of_neg (by simp [e])] at h
      cases h
      simp [e]

theorem csi_append (h : (rest.dropWhile isParam).dropWhile isIntermediate = finalByte :: after) (more : Bytes) :
    (rest ++ more).takeWhile isParam = rest.takeWhile isParam ∧
      ((rest ++ more).dropWhile isParam).takeWhile isIntermediate =
        (rest.dropWhile isParam).takeWhile isIntermediate ∧
      ((rest ++ more).dropWhile isParam).dropWhile isIntermediate = finalByte :: (after ++ more) := by
  cases e : rest.dropWhile isParam with
  | nil => simp [e] at h
  | cons head between =>
    have params := dropWhile_append_cons e more
    rw [e] at h
    have intermediates := dropWhile_append_cons h more
    rw [params.1, params.2]
    exact ⟨rfl, intermediates⟩

theorem csi_content (h : (rest.dropWhile isParam).dropWhile isIntermediate = finalByte :: after) :
    rest = rest.takeWhile isParam ++ (rest.dropWhile isParam).takeWhile isIntermediate ++ finalByte :: after := by
  rw [← h, List.append_assoc, List.takeWhile_append_dropWhile, List.takeWhile_append_dropWhile]

theorem splitString_append (h : splitString rest = some (body, terminator, after)) (more : Bytes) :
    rest = body ++ terminator ++ after ∧ splitString (rest ++ more) = some (body, terminator, after ++ more) := by
  induction rest using splitString.induct generalizing body with
  | case1 => exact nomatch h
  | case2 rest =>
    cases h
    exact ⟨rfl, rfl⟩
  | case3 rest =>
    cases h
    exact ⟨rfl, rfl⟩
  | case4 byte rest bell backslash ih =>
    rw [splitString] at h
    · obtain ⟨found, split, e⟩ := Option.map_eq_some_iff.1 h
      cases e
      have := ih split
      refine ⟨by rw [this.1]; rfl, ?_⟩
      rw [List.cons_append, splitString]
      · rw [this.2]
        rfl
      · exact bell
      · intro behind escape e
        cases rest with
        | nil => exact nomatch split
        | cons head rest =>
          obtain ⟨rfl, rfl⟩ := List.cons_eq_cons.1 e
          exact backslash rest escape rfl
    · exact bell
    · exact backslash

/-- What follows `ESC [`. -/
def csiState (rest : Bytes) : Option (StateToken × Bytes) :=
  let params := rest.takeWhile isParam
  let intermediates := (rest.dropWhile isParam).takeWhile isIntermediate
  match (rest.dropWhile isParam).dropWhile isIntermediate with
  | [] => none
  | finalByte :: after =>
    if ¬isFinal finalByte then some (⟨[0x1b, 0x5b], .other⟩, rest)
    else some (⟨0x1b :: 0x5b :: params ++ intermediates ++ [finalByte],
      if isStateCsi rest.head? intermediates finalByte then .preserved else .other⟩, after)

/-- What follows `ESC ]`. -/
def oscState (rest : Bytes) : Option (StateToken × Bytes) :=
  (splitString rest).map fun (body, terminator, after) =>
    (⟨0x1b :: 0x5d :: body ++ terminator,
      if (rest[0]? = some 0x30 ∨ rest[0]? = some 0x32) ∧ rest[1]? = some 0x3b then .title else .other⟩, after)

/-- What follows `ESC (` or `ESC )`. -/
def charsetState (introducer : UInt8) : Bytes → Option (StateToken × Bytes)
  | [] => none
  | charset :: after => some (⟨[0x1b, introducer, charset], .preserved⟩, after)

/-- One round of `terminal_state_sequences`; none where it breaks off or runs over the end. -/
def nextState : Bytes → Option (StateToken × Bytes)
  | [] => none
  | byte :: rest =>
    if byte ≠ 0x1b then some (⟨[byte], .other⟩, rest)
    else match rest with
      | 0x5b :: rest => csiState rest
      | 0x3d :: after => some (⟨[0x1b, 0x3d], .preserved⟩, after)
      | 0x3e :: after => some (⟨[0x1b, 0x3e], .preserved⟩, after)
      | 0x28 :: rest => charsetState 0x28 rest
      | 0x29 :: rest => charsetState 0x29 rest
      | 0x5d :: rest => oscState rest
      | [] => none
      | byte :: after => some (⟨[0x1b, byte], .other⟩, after)

theorem csiState_reads (h : csiState rest = some (token, after)) :
    token.content ≠ [] ∧ 0x1b :: 0x5b :: rest = token.content ++ after ∧
      ∀ more, csiState (rest ++ more) = some (token, after ++ more) := by
  unfold csiState at h
  cases final : (rest.dropWhile isParam).dropWhile isIntermediate with
  | nil => simp [final] at h
  | cons finalByte behind =>
    have ne : rest ≠ [] := by
      intro e
      simp [e] at final
    simp only [final] at h
    refine ⟨?_, ?_, fun more => ?_⟩
    · split at h <;> cases h <;> simp
    · split at h
      · cases h
        rfl
      · cases h
        have := csi_content final
        simpa using this
    · unfold csiState
      have same := csi_append final more
      have head : (rest ++ more).head? = rest.head? := by
        cases rest with
        | nil => exact absurd rfl ne
        | cons byte rest => rfl
      simp only [same, head]
      split at h <;> cases h <;> simp_all

theorem oscState_reads (h : oscState rest = some (token, after)) :
    token.content ≠ [] ∧ 0x1b :: 0x5d :: rest = token.content ++ after ∧
      ∀ more, oscState (rest ++ more) = some (token, after ++ more) := by
  obtain ⟨⟨body, terminator, behind⟩, split, e⟩ := Option.map_eq_some_iff.1 h
  cases e
  refine ⟨List.cons_ne_nil _ _, ?_, fun more => ?_⟩
  · rw [(splitString_append split []).1]
    simp
  · have title : ((rest ++ more)[0]? = some 0x30 ∨ (rest ++ more)[0]? = some 0x32) ∧
        (rest ++ more)[1]? = some 0x3b ↔
          (rest[0]? = some 0x30 ∨ rest[0]? = some 0x32) ∧ rest[1]? = some 0x3b := by
      cases rest with
      | nil => exact nomatch split
      | cons byte rest =>
        cases rest with
        | nil =>
          -- all there is is the bell
          have bell : byte = 0x07 := by
            unfold splitString at split
            split at split <;> simp_all [splitString]
          simp [bell]
        | cons byte' rest => rfl
    simp only [oscState, (splitString_append split more).2, Option.map_some, title]

theorem charsetState_reads {introducer : UInt8} (h : charsetState introducer rest = some (token, after)) :
    token.content ≠ [] ∧ 0x1b :: introducer :: rest = token.content ++ after ∧
      ∀ more, charsetState introducer (rest ++ more) = some (token, after ++ more) := by
  cases rest with
  | nil => exact nomatch h
  | cons charset rest =>
    cases h
    exact ⟨List.cons_ne_nil _ _, rfl, fun more => rfl⟩

theorem nextState_reads (h : nextState bytes = some (token, rest)) :
    token.content ≠ [] ∧ bytes = token.content ++ rest ∧
      ∀ more, nextState (bytes ++ more) = some (token, rest ++ more) := by
  unfold nextState at h
  split at h
  · exact nomatch h
  · split at h
    · rename_i plain
      cases h
      exact ⟨List.cons_ne_nil _ _, rfl, fun more => by simp [nextState, plain]⟩
    · rename_i escape
      simp only [ne_eq, Decidable.not_not] at escape
      subst escape
      split at h
      · exact csiState_reads h
      · cases h
        exact ⟨List.cons_ne_nil _ _, rfl, fun more => rfl⟩
      · cases h
        exact ⟨List.cons_ne_nil _ _, rfl, fun more => rfl⟩
      · exact charsetState_reads h
      · exact charsetState_reads h
      · exact oscState_reads h
      · exact nomatch h
      · cases h
        refine ⟨List.cons_ne_nil _ _, rfl, fun more => ?_⟩
        simp only [nextState, List.cons_append]
        split <;> simp_all

def stateScanner : Scanner UInt8 StateToken where
  next := nextState
  content := StateToken.content
  content_ne h := (nextState_reads h).1
  reads h := (nextState_reads h).2.1
  stable h := (nextState_reads h).2.2

def outlive : List StateToken → List Bytes × Option Bytes
  | [] => ([], none)
  | ⟨content, .preserved⟩ :: tokens => (content :: (outlive tokens).1, (outlive tokens).2)
  | ⟨content, .title⟩ :: tokens => ((outlive tokens).1, (outlive tokens).2.or (some content))
  | ⟨_, .other⟩ :: tokens => outlive tokens

theorem outlive_append (tokens tokens' : List StateToken) :
    outlive (tokens ++ tokens') =
      ((outlive tokens).1 ++ (outlive tokens').1, (outlive tokens').2.or (outlive tokens).2) := by
  induction tokens with
  | nil => simp [outlive]
  | cons token tokens ih =>
    cases token with
    | mk content kind =>
      cases kind <;> simp [outlive, ih]

/-- What the scan finds in the bytes, apart from their order in the replay. -/
def modes (bytes : Bytes) : List Bytes × Option Bytes := outlive (stateScanner.scan bytes).1

theorem modes_stop (h : nextState bytes = none) : modes bytes = ([], none) := by
  rw [modes, stateScanner.scan_stop h]
  rfl

theorem modes_next (h : nextState bytes = some (token, rest)) :
    modes bytes = outlive (token :: (stateScanner.scan rest).1) := by
  rw [modes, stateScanner.scan_next h]

theorem modes_preserved {content : Bytes} (h : nextState bytes = some (⟨content, .preserved⟩, rest)) :
    modes bytes = (content :: (modes rest).1, (modes rest).2) := modes_next h

theorem modes_title {content : Bytes} (h : nextState bytes = some (⟨content, .title⟩, rest)) :
    modes bytes = ((modes rest).1, (modes rest).2.or (some content)) := modes_next h

theorem modes_other {content : Bytes} (h : nextState bytes = some (⟨content, .other⟩, rest)) :
    modes bytes = modes rest := modes_next h

theorem modes_charset {introducer : UInt8}
    (next : ∀ rest, nextState (0x1b :: introducer :: rest) = charsetState introducer rest) (after : Bytes) :
    modes (0x1b :: introducer :: after) =
      ((after.take 1).map (fun charset => [0x1b, introducer, charset]) ++ (modes (after.drop 1)).1,
        (modes (after.drop 1)).2) := by
  cases after with
  | nil =>
    rw [modes_stop (next [])]
    exact (modes_stop rfl).symm
  | cons charset after => exact modes_preserved (next (charset :: after))

theorem nextState_plain (plain : byte ≠ 0x1b) : nextState (byte :: rest) = some (⟨[byte], .other⟩, rest) := by
  simp [nextState, plain]

theorem length_splitString (h : splitString rest = some (body, terminator, after)) :
    after.length ≤ rest.length := by
  rw [(splitString_append h []).1, List.length_append]
  omega

theorem stateSequencesFrom_eq (fuel : Nat) (bytes : Bytes) (le : bytes.length ≤ fuel) :
    stateSequencesFrom fuel bytes = modes bytes := by
  fun_induction stateSequencesFrom fuel bytes with
  | case1 bytes =>
    obtain rfl := List.length_eq_zero_iff.1 (Nat.le_zero.1 le)
    exact (modes_stop rfl).symm
  | case2 => exact (modes_stop rfl).symm
  | case3 fuel byte rest plain ih =>
    rw [ih (Nat.le_of_succ_le_succ le), modes_other (nextState_plain plain)]
  | case4 fuel byte escape rest incomplete =>
    obtain rfl := Decidable.not_not.1 escape
    exact (modes_stop (by simp [nextState, csiState, incomplete])).symm
  | case5 fuel byte escape rest finalByte after final malformed ih =>
    obtain rfl := Decidable.not_not.1 escape
    rw [ih (by simp only [List.length_cons] at le; omega)]
    have next : nextState (0x1b :: 0x5b :: rest) = some (⟨[0x1b, 0x5b], .other⟩, rest) := by
      simp [nextState, csiState, final, malformed]
    exact (modes_other next).symm
  | case6 fuel byte escape rest params intermediates finalByte after final wellFormed preserved title e state ih =>
    obtain rfl := Decidable.not_not.1 escape
    have := congrArg List.length (csi_content final)
    rw [ih (by simp at le this; omega)] at e
    have next : nextState (0x1b :: 0x5b :: rest) =
        some (⟨0x1b :: 0x5b :: params ++ intermediates ++ [finalByte], .preserved⟩, after) := by
      simp [nextState, csiState, final, Decidable.not_not.1 wellFormed, params, intermediates]
      exact state
    rw [modes_preserved next, e]
  | case7 fuel byte escape rest intermediates finalByte after final wellFormed preserved title e plain ih =>
    obtain rfl := Decidable.not_not.1 escape
    have := congrArg List.length (csi_content final)
    rw [ih (by simp at le this; omega)] at e
    have next : nextState (0x1b :: 0x5b :: rest) =
        some (⟨0x1b :: 0x5b :: rest.takeWhile isParam ++ intermediates ++ [finalByte], .other⟩, after) := by
      simp [nextState, csiState, final, Decidable.not_not.1 wellFormed, intermediates]
      simpa using plain
    rw [modes_other next, e]
  | case8 fuel byte escape after preserved title e ih =>
    obtain rfl := Decidable.not_not.1 escape
    rw [ih (by simp only [List.length_cons] at le; omega)] at e
    rw [modes_preserved rfl, e]
  | case9 fuel byte escape after preserved title e ih =>
    obtain rfl := Decidable.not_not.1 escape
    rw [ih (by simp only [List.length_cons] at le; omega)] at e
    rw [modes_preserved rfl, e]
  | case10 fuel byte escape after preserved title e ih =>
    obtain rfl := Decidable.not_not.1 escape
    rw [ih (by simp at le ⊢; omega)] at e
    rw [modes_charset fun _ => rfl, e]
  | case11 fuel byte escape after preserved title e ih =>
    obtain rfl := Decidable.not_not.1 escape
    rw [ih (by simp at le ⊢; omega)] at e
    rw [modes_charset fun _ => rfl, e]
  | case12 fuel byte escape rest unterminated =>
    obtain rfl := Decidable.not_not.1 escape
    exact (modes_stop (by simp [nextState, oscState, unterminated])).symm
  | case13 fuel byte escape rest body terminator after split preserved title e isTitle ih =>
    obtain rfl := Decidable.not_not.1 escape
    have shorter := length_splitString split
    rw [ih (by simp at le; omega)] at e
    have next : nextState (0x1b :: 0x5d :: rest) =
        some (⟨0x1b :: 0x5d :: body ++ terminator, if isTitle then .title else .other⟩, after) := by
      simp [nextState, oscState, split, isTitle]
    split
    · rename_i found
      rw [if_pos found] at next
      rw [modes_title next, e]
    · rename_i found
      rw [if_neg found] at next
      rw [modes_other next, e, Option.or_none]
  | case14 fuel byte escape rest notCsi notEqual notGreater notOpen notClose notOsc ih =>
    obtain rfl := Decidable.not_not.1 escape
    rw [ih (by simp at le ⊢; omega)]
    cases rest with
    | nil => exact (modes_stop rfl).trans (modes_stop rfl).symm
    | cons byte after =>
      have next : nextState (0x1b :: byte :: after) = some (⟨[0x1b, byte], .other⟩, after) := by
        simp only [nextState]
        split <;> simp_all
      exact (modes_other next).symm

theorem terminalStateSequences_eq (bytes : Bytes) :
    terminalStateSequences bytes = (modes bytes).1 ++ (modes bytes).2.toList := by
  rw [terminalStateSequences, stateSequencesFrom_eq bytes.length bytes (Nat.le_refl _)]

theorem modes_append (settled : stateScanner.Settled front) (more : Bytes) :
    modes (front ++ more) = ((modes front).1 ++ (modes more).1, (modes more).2.or (modes front).2) := by
  rw [modes, settled.scan_append, outlive_append]
  rfl

theorem not_isParam_of_isIntermediate (h : isIntermediate byte) : isParam byte = false := by
  simp [isIntermediate, isParam, UInt8.le_iff_toNat_le] at h ⊢
  omega

theorem not_isParam_of_isFinal (h : isFinal byte) : isParam byte = false := by
  simp [isFinal, isParam, UInt8.le_iff_toNat_le] at h ⊢
  omega

theorem not_isIntermediate_of_isFinal (h : isFinal byte) : isIntermediate byte = false := by
  simp [isFinal, isIntermediate, UInt8.le_iff_toNat_le] at h ⊢
  omega

theorem csi_stop {params intermediates : Bytes} (isParams : ∀ byte ∈ params, isParam byte)
    (areIntermediate : ∀ byte ∈ intermediates, isIntermediate byte) (notParam : isParam finalByte = false)
    (notIntermediate : isIntermediate finalByte = false) (after : Bytes) :
    (params ++ intermediates ++ finalByte :: after).takeWhile isParam = params ∧
      ((params ++ intermediates ++ finalByte :: after).dropWhile isParam).takeWhile isIntermediate = intermediates ∧
      ((params ++ intermediates ++ finalByte :: after).dropWhile isParam).dropWhile isIntermediate =
        finalByte :: after := by
  have stop : (intermediates ++ finalByte :: after).takeWhile isParam = [] ∧
      (intermediates ++ finalByte :: after).dropWhile isParam = intermediates ++ finalByte :: after := by
    cases intermediates with
    | nil => simp [notParam]
    | cons byte intermediates =>
      simp [not_isParam_of_isIntermediate (areIntermediate byte List.mem_cons_self)]
  rw [List.append_assoc, List.takeWhile_append_of_pos isParams, List.dropWhile_append_of_pos isParams, stop.1,
    stop.2, List.takeWhile_append_of_pos areIntermediate, List.dropWhile_append_of_pos areIntermediate]
  simp [notIntermediate]

theorem splitString_terminator (h : splitString rest = some (body, terminator, after)) :
    terminator = [0x07] ∨ terminator = [0x1b, 0x5c] := by
  induction rest using splitString.induct generalizing body with
  | case1 => exact nomatch h
  | case2 rest =>
    cases h
    exact .inl rfl
  | case3 rest =>
    cases h
    exact .inr rfl
  | case4 byte rest bell backslash ih =>
    rw [splitString] at h
    · obtain ⟨found, split, e⟩ := Option.map_eq_some_iff.1 h
      cases e
      exact ih split
    · exact bell
    · exact backslash

theorem splitString_complete (h : splitString rest = some (body, terminator, after)) :
    splitString (body ++ terminator) = some (body, terminator, []) := by
  induction rest using splitString.induct generalizing body with
  | case1 => exact nomatch h
  | case2 rest =>
    cases h
    rfl
  | case3 rest =>
    cases h
    rfl
  | case4 byte rest bell backslash ih =>
    rw [splitString] at h
    · obtain ⟨found, split, e⟩ := Option.map_eq_some_iff.1 h
      cases e
      have whole := (splitString_append split []).1
      rw [List.cons_append, splitString]
      · rw [ih split]
        rfl
      · exact bell
      · intro behind escape e
        rw [e] at whole
        exact backslash _ escape whole
    · exact bell
    · exact backslash

theorem csiState_complete (h : csiState rest = some (token, after)) (kept : token.kind ≠ .other) :
    nextState token.content = some (token, []) := by
  unfold csiState at h
  cases final : (rest.dropWhile isParam).dropWhile isIntermediate with
  | nil => simp [final] at h
  | cons finalByte behind =>
    simp only [final] at h
    split at h
    · cases h
      exact absurd rfl kept
    · rename_i wellFormed
      cases h
      have wellFormed := Decidable.not_not.1 wellFormed
      have reads := csi_stop (fun byte (member : byte ∈ rest.takeWhile isParam) => List.mem_takeWhile_imp member)
        (fun byte (member : byte ∈ (rest.dropWhile isParam).takeWhile isIntermediate) =>
          List.mem_takeWhile_imp member) (not_isParam_of_isFinal wellFormed) (not_isIntermediate_of_isFinal wellFormed) []
      have head : (rest.takeWhile isParam ++ (rest.dropWhile isParam).takeWhile isIntermediate ++
          [finalByte]).head? = rest.head? := by
        conv_rhs => rw [csi_content final]
        simp [List.head?_append]
      have csi : ∀ rest, nextState (0x1b :: 0x5b :: rest) = csiState rest := fun _ => rfl
      rw [List.cons_append, List.cons_append, List.cons_append, List.cons_append, csi, csiState]
      simp only [reads, head, wellFormed]
      simp

theorem oscState_complete (h : oscState rest = some (token, after)) (kept : token.kind ≠ .other) :
    nextState token.content = some (token, []) := by
  obtain ⟨⟨body, terminator, behind⟩, split, e⟩ := Option.map_eq_some_iff.1 h
  cases e
  have whole := (splitString_append split []).1
  have complete := splitString_complete split
  have title : (rest[0]? = some 0x30 ∨ rest[0]? = some 0x32) ∧ rest[1]? = some 0x3b := by
    by_contra none
    exact kept (if_neg none)
  have osc : ∀ rest, nextState (0x1b :: 0x5d :: rest) = oscState rest := fun _ => rfl
  have long : 2 ≤ (body ++ terminator).length := by
    cases body with
    | nil => cases splitString_terminator split <;> simp_all
    | cons byte body => cases splitString_terminator split <;> simp_all
  have same : (body ++ terminator)[0]? = rest[0]? ∧ (body ++ terminator)[1]? = rest[1]? := by
    rw [whole]
    exact ⟨(List.getElem?_append_left (Nat.lt_of_lt_of_le Nat.zero_lt_two long)).symm,
      (List.getElem?_append_left long).symm⟩
  rw [List.cons_append, List.cons_append, osc, oscState, complete]
  simp only [Option.map_some, same, title]
  simp

theorem charsetState_complete {introducer : UInt8}
    (next : ∀ rest, nextState (0x1b :: introducer :: rest) = charsetState introducer rest)
    (h : charsetState introducer rest = some (token, after)) : nextState token.content = some (token, []) := by
  cases rest with
  | nil => exact nomatch h
  | cons charset rest =>
    cases h
    exact next [charset]

theorem nextState_complete (h : nextState bytes = some (token, rest)) (kept : token.kind ≠ .other) :
    nextState token.content = some (token, []) := by
  unfold nextState at h
  split at h
  · exact nomatch h
  · split at h
    · cases h
      exact absurd rfl kept
    · rename_i escape
      obtain rfl := Decidable.not_not.1 escape
      split at h
      · exact csiState_complete h kept
      · cases h
        rfl
      · cases h
        rfl
      · exact charsetState_complete (fun _ => rfl) h
      · exact charsetState_complete (fun _ => rfl) h
      · exact oscState_complete h kept
      · exact nomatch h
      · cases h
        exact absurd rfl kept

theorem mem_outlive {content : Bytes} (member : content ∈ (outlive tokens).1) :
    ⟨content, .preserved⟩ ∈ tokens := by
  induction tokens with
  | nil => exact nomatch member
  | cons token tokens ih =>
    cases token with
    | mk content' kind =>
      cases kind <;> simp_all [outlive]
      exact member.imp_right ih

theorem title_outlive {content : Bytes} (h : (outlive tokens).2 = some content) :
    ⟨content, .title⟩ ∈ tokens := by
  induction tokens with
  | nil => exact nomatch h
  | cons token tokens ih =>
    cases token with
    | mk content' kind =>
      cases kind with
      | preserved => exact List.mem_cons_of_mem _ (ih h)
      | other => exact List.mem_cons_of_mem _ (ih h)
      | title =>
        cases found : (outlive tokens).2 with
        | none =>
          simp only [outlive, found, Option.none_or, Option.some.injEq] at h
          rw [h]
          exact List.mem_cons_self
        | some title =>
          rw [outlive, found] at h
          exact List.mem_cons_of_mem _ (ih (found.trans h))

theorem length_outlive (tokens : List StateToken) :
    (outlive tokens).1.flatten.length + ((outlive tokens).2.getD []).length ≤
      (tokens.flatMap StateToken.content).length := by
  induction tokens with
  | nil => exact Nat.le_refl 0
  | cons token tokens ih =>
    cases token with
    | mk content kind =>
      cases kind with
      | preserved => simp [outlive] at ih ⊢; omega
      | other => simp [outlive] at ih ⊢; omega
      | title => cases found : (outlive tokens).2 <;> simp [outlive, found] at ih ⊢ <;> omega

theorem length_terminalStateSequences (bytes : Bytes) :
    (terminalStateSequences bytes).flatten.length ≤ bytes.length := by
  have content := congrArg List.length (stateScanner.scan_content bytes)
  have le := length_outlive (stateScanner.scan bytes).1
  have title : (modes bytes).2.toList.flatten = (modes bytes).2.getD [] := by
    cases (modes bytes).2 <;> simp
  rw [terminalStateSequences_eq, List.flatten_append, List.length_append, title]
  rw [List.length_append] at content
  exact le.trans (by rw [← content]; exact Nat.le_add_right _ _)

def stateTokens (bytes : Bytes) : List StateToken :=
  (modes bytes).1.map (⟨·, .preserved⟩) ++ (modes bytes).2.toList.map (⟨·, .title⟩)

theorem outlive_stateTokens (bytes : Bytes) : outlive (stateTokens bytes) = modes bytes := by
  have preserved : ∀ contents : List Bytes, outlive (contents.map (⟨·, .preserved⟩)) = (contents, none) := by
    intro contents
    induction contents with
    | nil => rfl
    | cons content contents ih => rw [List.map_cons, outlive, ih]
  rw [stateTokens, outlive_append, preserved]
  cases title : (modes bytes).2 with
  | none => exact Prod.ext (List.append_nil _) title.symm
  | some content => exact Prod.ext (List.append_nil _) title.symm

theorem content_stateTokens (bytes : Bytes) :
    (stateTokens bytes).flatMap StateToken.content = (terminalStateSequences bytes).flatten := by
  rw [terminalStateSequences_eq, stateTokens, List.flatMap_append, List.flatten_append]
  simp [List.flatMap_map, List.flatMap_id']

theorem nextState_stateTokens (member : token ∈ stateTokens bytes) :
    nextState token.content = some (token, []) := by
  have read : ∀ {token}, token ∈ (stateScanner.scan bytes).1 → token.kind ≠ .other →
      nextState token.content = some (token, []) := by
    intro token member kept
    obtain ⟨text, rest, next⟩ := stateScanner.mem_scan member
    exact nextState_complete next kept
  cases List.mem_append.1 member with
  | inl preserved =>
    obtain ⟨content, here, rfl⟩ := List.mem_map.1 preserved
    exact read (mem_outlive here) (by simp)
  | inr title =>
    obtain ⟨content, here, rfl⟩ := List.mem_map.1 title
    exact read (title_outlive (Option.mem_toList.1 here)) (by simp)

theorem scan_state (bytes : Bytes) :
    stateScanner.scan (terminalStateSequences bytes).flatten = (stateTokens bytes, []) := by
  rw [← content_stateTokens]
  exact stateScanner.scan_flatMap fun token => nextState_stateTokens

theorem settled_state (bytes : Bytes) : stateScanner.Settled (terminalStateSequences bytes).flatten :=
  congrArg Prod.snd (scan_state bytes)

theorem modes_state (bytes : Bytes) : modes (terminalStateSequences bytes).flatten = modes bytes := by
  rw [modes, scan_state, outlive_stateTokens]

theorem terminalStateSequences_state (settled : stateScanner.Settled front) (more : Bytes) :
    terminalStateSequences ((terminalStateSequences front).flatten ++ more) = terminalStateSequences (front ++ more) := by
  rw [terminalStateSequences_eq, terminalStateSequences_eq (front ++ more), modes_append (settled_state front),
    modes_append settled, modes_state]

theorem settled_flatten {pieces : List Bytes} (settled : ∀ piece ∈ pieces, stateScanner.Settled piece) :
    stateScanner.Settled pieces.flatten := by
  induction pieces with
  | nil => exact stateScanner.settled_nil
  | cons piece pieces ih =>
    rw [List.flatten_cons, (settled piece List.mem_cons_self).append_iff]
    exact ih fun other member => settled other (List.mem_cons_of_mem _ member)

theorem Cleared.modes_eq (h : Cleared bytes) : stateScanner.Settled bytes ∧ modes bytes = ([], none) := by
  have each : ∀ sequence ∈ clearSequences, (stateScanner.scanWithin 10 sequence).2 = [] ∧
      outlive (stateScanner.scanWithin 10 sequence).1 = ([], none) := by decide +kernel
  obtain ⟨sequences, members, rfl⟩ := h
  induction sequences with
  | nil => exact ⟨stateScanner.settled_nil, modes_stop rfl⟩
  | cons sequence sequences ih =>
    have member := members sequence List.mem_cons_self
    have scanned := each sequence member
    rw [← stateScanner.scan_eq_scanWithin (length_clearSequences sequence member)] at scanned
    have rest := ih fun sequence member => members sequence (List.mem_cons_of_mem _ member)
    have settled : stateScanner.Settled sequence := scanned.1
    have plain : modes sequence = ([], none) := scanned.2
    rw [List.flatten_cons]
    refine ⟨settled.append_iff.2 rest.1, ?_⟩
    rw [modes_append settled, plain, rest.2]
    rfl

end VibeLink.Daemon
