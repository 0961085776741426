import VibeLink.Daemon.Queries
import VibeLink.Terminal.Agreement

/-! The queries that the frontend asks again (`terminal/clearSequences.ts`), beside those that the
daemon strips. -/

namespace VibeLink.Terminal

open VibeLink.Lexing
open VibeLink.Daemon (Bytes isParam isIntermediate isFinal isDigit splitString parseU32 QueryToken)

def leadingTerminalNumber (params : Bytes) : Option Nat :=
  let cursor := advance (fun cursor => params[cursor]?.any isDigit) params.length 0
  let value := (params.take cursor).foldl (fun value digit => value * 10 + digit.toNat - 0x30) 0
  if cursor = 0 then none
  else
    let separator := params[cursor]?
    if separator = none ∨ separator = some 0x3b ∨ separator = some 0x3a then some value else none

def csiIsTerminalQuery (params intermediates : Bytes) (final : UInt8) : Bool :=
  (intermediates.length = 0 ∧
    (final = 0x63 ∨ final = 0x6e ∨
      final = 0x71 ∧ params[0]? = some 0x3e ∨
      final = 0x75 ∧ params.length = 1 ∧ params[0]? = some 0x3f ∨
      final = 0x74 ∧ (leadingTerminalNumber params = some 14 ∨ leadingTerminalNumber params = some 16 ∨
        leadingTerminalNumber params = some 18))) ∨
  final = 0x70 ∧ intermediates.length = 1 ∧ intermediates[0]? = some 0x24

def parseTerminalStringSequence (bytes : Bytes) (start : Nat) : Option (Nat × Nat) :=
  let payloadStart := start + 2
  let cursor := stringEnd bytes bytes.length payloadStart
  if bytes.length ≤ cursor then none
  else some (cursor + terminatorLength bytes cursor, payloadStart)

def stripTerminalStringTerminator (payload : Bytes) : Bytes :=
  if payload[payload.length - 1]? = some 0x07 then payload.extract 0 (payload.length - 1)
  else if 2 ≤ payload.length ∧ payload[payload.length - 2]? = some 0x1b ∧
      payload[payload.length - 1]? = some 0x5c then
    payload.extract 0 (payload.length - 2)
  else payload

def isOscTerminalQuery (payloadWithTerminator : Bytes) : Bool :=
  let payload := stripTerminalStringTerminator payloadWithTerminator
  match payload.findIdx? (· = 0x3b) with
  | none => false
  | some firstSeparator =>
    let digits := payload.take firstSeparator
    let code := digits.foldl (fun code digit => code * 10 + digit.toNat - 0x30) 0
    let answerable := code = 4 ∨ code = 5 ∨ (10 ≤ code ∧ code ≤ 19) ∨ code = 52
    let args := payload.drop (firstSeparator + 1)
    digits.all isDigit ∧ answerable ∧
      (args.length = 1 ∧ args[0]? = some 0x3f ∨
        2 ≤ args.length ∧ args[args.length - 2]? = some 0x3b ∧ args[args.length - 1]? = some 0x3f)

def isDcsTerminalQuery (payloadWithTerminator : Bytes) : Bool :=
  let dcsPayload := stripTerminalStringTerminator payloadWithTerminator
  2 ≤ dcsPayload.length ∧ (dcsPayload[0]? = some 0x2b ∨ dcsPayload[0]? = some 0x24) ∧
    dcsPayload[1]? = some 0x71

/-- Where the next round begins, and the query that is pushed; none where the loop breaks off. -/
def queryRound (bytes : Bytes) (index : Nat) : Option (Nat × Option Bytes) :=
  if bytes[index]? ≠ some 0x1b then some (index + 1, none)
  else match bytes[index + 1]? with
    | some 0x5b =>
      let paramsStart := index + 2
      let (paramsEnd, cursor) := csiEnds bytes bytes.length paramsStart
      match bytes[cursor]? with
      | none => none
      | some final =>
        if ¬isFinal final then none
        else some (cursor + 1,
          if csiIsTerminalQuery (bytes.extract paramsStart paramsEnd) (bytes.extract paramsEnd cursor) final then
            some (bytes.extract index (cursor + 1)) else none)
    | some 0x5d => (parseTerminalStringSequence bytes index).map fun (behind, payloadStart) =>
        (behind, if isOscTerminalQuery (bytes.extract payloadStart behind) then
          some (bytes.extract index behind) else none)
    | some 0x50 => (parseTerminalStringSequence bytes index).map fun (behind, payloadStart) =>
        (behind, if isDcsTerminalQuery (bytes.extract payloadStart behind) then
          some (bytes.extract index behind) else none)
    | _ => some (index + 2, none)

def terminalQuerySequencesFrom (bytes : Bytes) : Nat → Nat → List Bytes
  | 0, _ => []
  | fuel + 1, index =>
    if bytes.length ≤ index then []
    else match queryRound bytes index with
      | none => []
      | some (index, query) => query.toList ++ terminalQuerySequencesFrom bytes fuel index

def terminalQuerySequences (bytes : Bytes) : List Bytes :=
  terminalQuerySequencesFrom bytes bytes.length 0

variable {bytes front rest after body terminator digits : Bytes} {token : QueryToken}

def number (digits : Bytes) : Nat := digits.foldl (fun n digit => 10 * n + (digit.toNat - 0x30)) 0

theorem foldl_number (all : ∀ digit ∈ digits, isDigit digit) :
    digits.foldl (fun value digit => value * 10 + digit.toNat - 0x30) 0 = number digits := by
  unfold number
  generalize 0 = start
  induction digits generalizing start with
  | nil => rfl
  | cons digit digits ih =>
    have here : 0x30 ≤ digit.toNat := by
      have isDigit := all digit List.mem_cons_self
      simp only [Daemon.isDigit, UInt8.le_iff_toNat_le, decide_eq_true_eq] at isDigit
      exact isDigit.1
    rw [List.foldl_cons, List.foldl_cons, ih fun digit member => all digit (List.mem_cons_of_mem _ member)]
    congr 1
    omega

/-- Nothing that a `u32` cannot hold is a small number. -/
theorem parseU32_eq_some {n : Nat} (small : n < UInt32.size) :
    parseU32 digits = some n ↔ digits ≠ [] ∧ number digits = n := by
  simp only [parseU32, number]
  split
  · rename_i fits
    simp [fits.1]
  · rename_i large
    simp only [reduceCtorEq, false_iff, not_and]
    intro ne same
    exact large ⟨ne, same ▸ small⟩

theorem leadingTerminalNumber_eq (params : Bytes) :
    leadingTerminalNumber params =
      if params.takeWhile isDigit = [] then none
      else if (params.dropWhile isDigit).head? ∈ [none, some 0x3b, some 0x3a] then
        some (number (params.takeWhile isDigit))
      else none := by
  have cursor := advance_takeWhile isDigit [] params
  have taken : params.take (params.takeWhile isDigit).length = params.takeWhile isDigit :=
    (List.prefix_iff_eq_take.1 (List.takeWhile_prefix isDigit)).symm
  have separator : params[(params.takeWhile isDigit).length]? = (params.dropWhile isDigit).head? := by
    have there := getElem?_append_length (params.takeWhile isDigit) (params.dropWhile isDigit)
    rwa [List.takeWhile_append_dropWhile] at there
  simp only [List.nil_append, List.length_nil, Nat.zero_add] at cursor
  simp only [leadingTerminalNumber, cursor, taken, separator, List.length_eq_zero_iff, List.mem_cons,
    List.not_mem_nil, or_false, foldl_number fun digit => List.mem_takeWhile_imp]

theorem leadingNumber_eq_some {params : Bytes} {n : Nat} (small : n < UInt32.size) :
    leadingTerminalNumber params = some n ↔ Daemon.leadingNumber params = some n := by
  rw [leadingTerminalNumber_eq, Daemon.leadingNumber]
  cases params.dropWhile isDigit with
  | nil => simp [parseU32_eq_some small]
  | cons byte rest =>
    cases Decidable.em (byte = 0x3b ∨ byte = 0x3a) with
    | inl separator =>
      cases separator with
      | inl semicolon => simp [semicolon, parseU32_eq_some small]
      | inr colon => simp [colon, parseU32_eq_some small]
    | inr other =>
      have other := not_or.1 other
      simp only [List.head?_cons]
      split
      · simp [other]
      · simp [other]

theorem csiIsTerminalQuery_eq (params intermediates : Bytes) (final : UInt8) :
    csiIsTerminalQuery params intermediates final = Daemon.csiIsQuery params intermediates final := by
  have small : ∀ n ≤ 18, n < UInt32.size := by
    intro n le
    exact Nat.lt_of_le_of_lt le (by decide)
  have leading : (leadingTerminalNumber params = some 14 ∨ leadingTerminalNumber params = some 16 ∨
        leadingTerminalNumber params = some 18) ↔
      Daemon.leadingNumber params ∈ [some 14, some 16, some 18] := by
    simp [leadingNumber_eq_some (small 14 (by decide)), leadingNumber_eq_some (small 16 (by decide)),
      leadingNumber_eq_some (small 18 (by decide))]
  have single : ∀ (bytes : Bytes) (byte : UInt8), bytes.length = 1 ∧ bytes[0]? = some byte ↔ bytes = [byte] := by
    intro bytes byte
    constructor
    · intro h
      obtain ⟨byte', rfl⟩ := List.length_eq_one_iff.1 h.1
      simpa using h.2
    · intro h
      simp [h]
  have version : params[0]? = params.head? := List.head?_eq_getElem?.symm
  rw [Bool.eq_iff_iff, csiIsTerminalQuery, decide_eq_true_eq, leading, single, version, single,
    List.length_eq_zero_iff]
  unfold Daemon.csiIsQuery
  split
  all_goals simp_all

theorem stripTerminalStringTerminator_eq (payload : Bytes) (h : terminator = [0x07] ∨ terminator = [0x1b, 0x5c]) :
    stripTerminalStringTerminator (payload ++ terminator) = payload := by
  cases h with
  | inl bell =>
    have last := getElem?_append_length payload [0x07]
    simp [stripTerminalStringTerminator, bell]
  | inr backslash =>
    have escape := getElem?_append_add payload [0x1b, 0x5c] 0
    have last := getElem?_append_add payload [0x1b, 0x5c] 1
    simp [stripTerminalStringTerminator, backslash]

/-- `?` as the final argument, where the arguments stand behind a separator. -/
theorem endsWith_question (front args : Bytes) :
    [0x3b, 0x3f] <:+ front ++ 0x3b :: args ∨ args = [0x3f] ↔
      args.length = 1 ∧ args[0]? = some 0x3f ∨
        2 ≤ args.length ∧ args[args.length - 2]? = some 0x3b ∧ args[args.length - 1]? = some 0x3f := by
  have pair : ∀ (text : Bytes) (y x : UInt8), [0x3b, 0x3f] <:+ text ++ [y, x] ↔ y = 0x3b ∧ x = 0x3f := by
    intro text y x
    rw [List.suffix_iff_eq_drop]
    simp [eq_comm]
  cases args using List.reverseRecOn with
  | nil =>
    rw [List.suffix_iff_eq_drop]
    cases front using List.reverseRecOn with
    | nil => simp
    | append_singleton front byte => simp
  | append_singleton args x =>
    cases args using List.reverseRecOn with
    | nil => simp [pair front]
    | append_singleton args y =>
      have here := pair (front ++ 0x3b :: args) y x
      have same : front ++ 0x3b :: (args ++ [y] ++ [x]) = front ++ 0x3b :: args ++ [y, x] := by simp
      have long : args ++ [y, x] ≠ [0x3f] := by
        intro e
        simpa using congrArg List.length e
      rw [same, here]
      simp [long]

theorem answerable_iff (digits : Bytes) :
    (number digits = 4 ∨ number digits = 5 ∨ (10 ≤ number digits ∧ number digits ≤ 19) ∨
        number digits = 52) ↔
      (parseU32 digits).any fun n => n = 4 ∨ n = 5 ∨ (10 ≤ n ∧ n ≤ 19) ∨ n = 52 := by
  have large : 52 < UInt32.size := by decide
  cases parsed : parseU32 digits with
  | none =>
    simp only [Option.any_none, Bool.false_eq_true, iff_false]
    intro answerable
    have small : number digits < UInt32.size := by omega
    have empty : digits = [] := by
      by_contra ne
      exact nomatch parsed.symm.trans ((parseU32_eq_some small).2 ⟨ne, rfl⟩)
    rw [empty] at answerable
    exact absurd answerable (by decide)
  | some n =>
    have same : number digits = n := by
      simp only [parseU32] at parsed
      split at parsed
      · exact Option.some.inj parsed
      · exact nomatch parsed
    rw [same, Option.any_some, decide_eq_true_eq]

theorem isOscTerminalQuery_eq (payload : Bytes) (h : terminator = [0x07] ∨ terminator = [0x1b, 0x5c]) :
    isOscTerminalQuery (payload ++ terminator) = Daemon.isOscQuery payload := by
  rw [isOscTerminalQuery, stripTerminalStringTerminator_eq payload h, Daemon.isOscQuery]
  cases found : payload.findIdx? (· = 0x3b) with
  | none => rfl
  | some firstSeparator =>
    have separator : payload = payload.take firstSeparator ++ 0x3b :: payload.drop (firstSeparator + 1) := by
      have here := List.findIdx?_eq_some_iff_getElem.1 found
      obtain ⟨inside, here, _⟩ := here
      rw [decide_eq_true_eq] at here
      rw [← here, List.getElem_cons_drop, List.take_append_drop]
    have question := endsWith_question (payload.take firstSeparator) (payload.drop (firstSeparator + 1))
    rw [← separator] at question
    rw [Bool.eq_iff_iff]
    simp only [decide_eq_true_eq, List.all_eq_true, List.isSuffixOf_iff_suffix, question]
    apply and_congr_right
    intro all
    rw [foldl_number all, answerable_iff]

theorem isDcsTerminalQuery_eq (payload : Bytes) (h : terminator = [0x07] ∨ terminator = [0x1b, 0x5c]) :
    isDcsTerminalQuery (payload ++ terminator) = Daemon.isDcsQuery payload := by
  rw [isDcsTerminalQuery, stripTerminalStringTerminator_eq payload h, Daemon.isDcsQuery, Bool.eq_iff_iff]
  cases payload with
  | nil => simp
  | cons byte payload =>
    cases payload with
    | nil => simp
    | cons byte' payload =>
      simp only [List.isPrefixOf_iff_prefix, List.cons_prefix_cons]
      simp [or_and_right, @eq_comm UInt8]

open Daemon (Malformed parseCsi parseStringSequence Parsed removedQueries queries)

/-- A round of the frontend's loop, which a malformed control sequence ends and which takes any
other byte behind ESC with it. -/
def nextAsked : Bytes → Option (QueryToken × Bytes)
  | [] => none
  | byte :: rest =>
    if byte ≠ 0x1b then some (⟨[byte], false⟩, rest)
    else match rest with
      | 0x5b :: after => if Malformed after then none else (parseCsi after).map Parsed.read
      | 0x5d :: after => (parseStringSequence 0x5d Daemon.isOscQuery after).map Parsed.read
      | 0x50 :: after => (parseStringSequence 0x50 Daemon.isDcsQuery after).map Parsed.read
      | [] => none
      | byte :: after => some (⟨[0x1b, byte], false⟩, after)

theorem malformed_append (h : parseCsi rest ≠ none) (more : Bytes) : Malformed (rest ++ more) ↔ Malformed rest := by
  unfold parseCsi at h
  cases final : (rest.dropWhile isParam).dropWhile isIntermediate with
  | nil => simp [final] at h
  | cons finalByte after => simp [Malformed, final, Daemon.csi_append final more]

theorem nextAsked_reads (h : nextAsked bytes = some (token, rest)) :
    token.content ≠ [] ∧ bytes = token.content ++ rest ∧
      ∀ more, nextAsked (bytes ++ more) = some (token, rest ++ more) := by
  unfold nextAsked at h
  split at h
  · exact nomatch h
  · split at h
    · rename_i plain
      cases h
      exact ⟨List.cons_ne_nil _ _, rfl, fun more => by simp [nextAsked, plain]⟩
    · rename_i escape
      obtain rfl := Decidable.not_not.1 escape
      split at h
      · rename_i after
        split at h
        · exact nomatch h
        · rename_i wellFormed
          obtain ⟨parsed, found, e⟩ := Option.map_eq_some_iff.1 h
          cases e
          have reads := Daemon.parseCsi_reads found
          refine ⟨reads.1, reads.2.1, fun more => ?_⟩
          have same : Malformed (after ++ more) ↔ Malformed after :=
            malformed_append (by rw [found]; exact Option.some_ne_none _) more
          simp [nextAsked, same, wellFormed, reads.2.2 more, Parsed.read]
      · obtain ⟨parsed, found, e⟩ := Option.map_eq_some_iff.1 h
        cases e
        have reads := Daemon.parseStringSequence_reads found
        exact ⟨reads.1, reads.2.1, fun more => by simp [nextAsked, reads.2.2 more, Parsed.read]⟩
      · obtain ⟨parsed, found, e⟩ := Option.map_eq_some_iff.1 h
        cases e
        have reads := Daemon.parseStringSequence_reads found
        exact ⟨reads.1, reads.2.1, fun more => by simp [nextAsked, reads.2.2 more, Parsed.read]⟩
      · exact nomatch h
      · cases h
        refine ⟨List.cons_ne_nil _ _, rfl, fun more => ?_⟩
        simp only [nextAsked, List.cons_append]
        split <;> simp_all

def askScanner : Scanner UInt8 QueryToken where
  next := nextAsked
  content := QueryToken.content
  content_ne h := (nextAsked_reads h).1
  reads h := (nextAsked_reads h).2.1
  stable h := (nextAsked_reads h).2.2

theorem queryRound_csi (front rest : Bytes) :
    queryRound (front ++ 0x1b :: 0x5b :: rest) front.length =
      match (rest.dropWhile isParam).dropWhile isIntermediate with
      | [] => none
      | finalByte :: _ =>
        if ¬isFinal finalByte then none
        else some (front.length + (csiContent rest finalByte).length,
          if Daemon.csiIsQuery (rest.takeWhile isParam) ((rest.dropWhile isParam).takeWhile isIntermediate)
            finalByte then some (csiContent rest finalByte) else none) := by
  have split : front ++ 0x1b :: 0x5b :: rest = (front ++ [0x1b, 0x5b]) ++ rest := by simp
  have behind : front.length + 2 = (front ++ [0x1b, 0x5b]).length := by simp
  have escape : (front ++ 0x1b :: 0x5b :: rest)[front.length]? = some 0x1b := getElem?_append_length _ _
  have kind : (front ++ 0x1b :: 0x5b :: rest)[front.length + 1]? = some 0x5b := getElem?_append_add _ _ 1
  have ends := csiEnds_append (front ++ [0x1b, 0x5b]) rest
  have final := csi_final (front ++ [0x1b, 0x5b]) rest
  have params := extract_append_add (front ++ [0x1b, 0x5b]) rest (rest.takeWhile isParam).length
  have intermediates := extract_append_add (front ++ [0x1b, 0x5b] ++ rest.takeWhile isParam)
    (rest.dropWhile isParam) ((rest.dropWhile isParam).takeWhile isIntermediate).length
  rw [List.append_assoc, List.takeWhile_append_dropWhile, ← split, List.length_append, ← behind,
    ← List.prefix_iff_eq_take.1 (List.takeWhile_prefix isIntermediate)] at intermediates
  rw [← split, ← behind, ← List.prefix_iff_eq_take.1 (List.takeWhile_prefix isParam)] at params
  rw [← split, ← behind] at ends final
  simp only [queryRound, escape, kind, ends, final, ne_eq, not_true_eq_false, if_false]
  cases e : (rest.dropWhile isParam).dropWhile isIntermediate with
  | nil => rfl
  | cons finalByte after =>
    simp only [List.head?_cons, csiIsTerminalQuery_eq, params, intermediates, extract_csiContent front e,
      length_csiContent]

theorem queryRound_string (front rest : Bytes) {introducer : UInt8} {isQuery isTerminalQuery : Bytes → Bool}
    (same : ∀ {payload terminator}, terminator = [0x07] ∨ terminator = [0x1b, 0x5c] →
      isTerminalQuery (payload ++ terminator) = isQuery payload)
    (round : ∀ bytes : Bytes, bytes[front.length]? = some 0x1b → bytes[front.length + 1]? = some introducer →
      queryRound bytes front.length = (parseTerminalStringSequence bytes front.length).map
        fun (behind, payloadStart) => (behind, if isTerminalQuery (bytes.extract payloadStart behind) then
          some (bytes.extract front.length behind) else none)) :
    queryRound (front ++ 0x1b :: introducer :: rest) front.length =
      (splitString rest).map fun (payload, terminator, _) =>
        (front.length + (0x1b :: introducer :: payload ++ terminator).length,
          if isQuery payload then some (0x1b :: introducer :: payload ++ terminator) else none) := by
  have escape : (front ++ 0x1b :: introducer :: rest)[front.length]? = some 0x1b := getElem?_append_length _ _
  have kind : (front ++ 0x1b :: introducer :: rest)[front.length + 1]? = some introducer :=
    getElem?_append_add _ _ 1
  rw [round _ escape kind]
  simp only [parseTerminalStringSequence, stringEnd_introduced]
  cases e : splitString rest with
  | none =>
    have length : (front ++ 0x1b :: introducer :: rest).length = front.length + 2 + rest.length := by
      simp
      omega
    simp [length]
  | some read =>
    obtain ⟨payload, terminator, after⟩ := read
    have terminated := string_terminated front introducer e
    have taken := extract_append_add front (0x1b :: introducer :: rest)
      (0x1b :: introducer :: payload ++ terminator).length
    conv_rhs at taken => rw [terminated.1, List.take_left]
    have inner : (front ++ 0x1b :: introducer :: rest).extract (front.length + 2)
        (front.length + (0x1b :: introducer :: payload ++ terminator).length) = payload ++ terminator := by
      have inner := extract_append_add (front ++ [0x1b, introducer]) rest (payload ++ terminator).length
      conv_rhs at inner => rw [(Daemon.splitString_append e []).1, List.take_left]
      have start : (front ++ [0x1b, introducer]).length = front.length + 2 := List.length_append
      rw [start, List.append_assoc] at inner
      have last : front.length + (0x1b :: introducer :: payload ++ terminator).length =
          front.length + 2 + (payload ++ terminator).length := by
        simp only [List.cons_append, List.length_cons]
        omega
      rw [last]
      exact inner
    simp only [Nat.not_le_of_lt terminated.2.1, if_false, terminated.2.2, taken, inner, Option.map_some,
      same (Daemon.splitString_terminator e)]

theorem queryRound_osc (front rest : Bytes) :
    queryRound (front ++ 0x1b :: 0x5d :: rest) front.length =
      (splitString rest).map fun (payload, terminator, _) =>
        (front.length + (0x1b :: 0x5d :: payload ++ terminator).length,
          if Daemon.isOscQuery payload then some (0x1b :: 0x5d :: payload ++ terminator) else none) := by
  apply queryRound_string front rest fun {payload terminator} => isOscTerminalQuery_eq payload
  intro bytes escape kind
  simp [queryRound, escape, kind]

theorem queryRound_dcs (front rest : Bytes) :
    queryRound (front ++ 0x1b :: 0x50 :: rest) front.length =
      (splitString rest).map fun (payload, terminator, _) =>
        (front.length + (0x1b :: 0x50 :: payload ++ terminator).length,
          if Daemon.isDcsQuery payload then some (0x1b :: 0x50 :: payload ++ terminator) else none) := by
  apply queryRound_string front rest fun {payload terminator} => isDcsTerminalQuery_eq payload
  intro bytes escape kind
  simp [queryRound, escape, kind]

theorem queryRound_eq (front : Bytes) (ne : bytes ≠ []) (lone : bytes ≠ [0x1b]) :
    queryRound (front ++ bytes) front.length =
      (nextAsked bytes).map fun (token, _) =>
        (front.length + token.content.length, if token.isQuery then some token.content else none) := by
  unfold nextAsked
  split
  · exact absurd rfl ne
  · rename_i byte rest
    have here : (front ++ byte :: rest)[front.length]? = some byte := getElem?_append_length _ _
    split
    · rename_i plain
      simp [queryRound, plain]
    · rename_i escape
      obtain rfl := Decidable.not_not.1 escape
      split
      · rename_i rest
        rw [queryRound_csi, parseCsi]
        cases e : (rest.dropWhile isParam).dropWhile isIntermediate with
        | nil => simp
        | cons finalByte after =>
          cases final : isFinal finalByte with
          | true => simp [Malformed, e, final, Parsed.read, csiContent]
          | false => simp [Malformed, e, final]
      · rename_i rest
        rw [queryRound_osc, parseStringSequence]
        cases splitString rest with
        | none => rfl
        | some read => rfl
      · rename_i rest
        rw [queryRound_dcs, parseStringSequence]
        cases splitString rest with
        | none => rfl
        | some read => rfl
      · exact absurd rfl lone
      · rename_i byte rest notCsi notOsc notDcs
        have behind := getElem?_append_add front (0x1b :: byte :: rest) 1
        simp only [queryRound, here, behind, List.getElem?_cons_succ, List.getElem?_cons_zero]
        split <;> simp_all

theorem terminalQuerySequencesFrom_eq (front rest : Bytes) (fuel : Nat) (enough : rest.length ≤ fuel) :
    terminalQuerySequencesFrom (front ++ rest) fuel front.length = queries (askScanner.scan rest).1 := by
  induction rest using askScanner.scan_induction generalizing front fuel with
  | stop rest h =>
    rw [askScanner.scan_stop h]
    have h : nextAsked rest = none := h
    cases fuel with
    | zero => rfl
    | succ fuel =>
      rw [terminalQuerySequencesFrom]
      cases Decidable.em (rest = []) with
      | inl empty => simp [empty, queries]
      | inr ne =>
        have inside : ¬(front ++ rest).length ≤ front.length := by
          have := List.length_pos_iff.2 ne
          rw [List.length_append]
          omega
        cases Decidable.em (rest = [0x1b]) with
        | inl lone =>
          rw [if_neg inside, lone]
          cases fuel with
          | zero => simp [queryRound, terminalQuerySequencesFrom, queries]
          | succ fuel => simp [queryRound, terminalQuerySequencesFrom, queries]
        | inr lone =>
          rw [if_neg inside, queryRound_eq front ne lone, h]
          rfl
  | next rest token after h ih =>
    have shorter := askScanner.shorter h
    have content : rest = token.content ++ after := askScanner.reads h
    rw [askScanner.scan_next h]
    have h : nextAsked rest = some (token, after) := h
    have ne : rest ≠ [] := by
      intro e
      rw [e] at h
      cases h
    have lone : rest ≠ [0x1b] := by
      intro e
      rw [e] at h
      cases h
    cases fuel with
    | zero => omega
    | succ fuel =>
      have next := ih (front ++ token.content) fuel (by omega)
      have count : (front ++ token.content).length = front.length + token.content.length := List.length_append
      rw [List.append_assoc, ← content, count] at next
      have inside : ¬(front ++ rest).length ≤ front.length := by
        rw [List.length_append]
        omega
      rw [terminalQuerySequencesFrom, if_neg inside, queryRound_eq front ne lone, h]
      simp only [Option.map_some, next]
      cases query : token.isQuery with
      | true => simp [queries, query]
      | false => simp [queries, query]

theorem terminalQuerySequences_eq (bytes : Bytes) :
    terminalQuerySequences bytes = queries (askScanner.scan bytes).1 :=
  terminalQuerySequencesFrom_eq [] bytes bytes.length (Nat.le_refl _)

/-- A string sequence that is not stripped, and in which (or behind whose introducer, when it does
not end) the frontend comes upon no ESC. -/
def PassesString (isQuery : Bytes → Bool) (rest : Bytes) : Prop :=
  match splitString rest with
  | none => 0x1b ∉ rest
  | some (payload, _, _) => ¬isQuery payload ∧ 0x1b ∉ payload

/-- What the daemon reads behind an ESC that the frontend has skipped is passed by both. -/
def Passes : Bytes → Prop
  | 0x5b :: rest => ∀ parsed ∈ parseCsi rest, ¬parsed.strip
  | 0x5d :: rest => PassesString Daemon.isOscQuery rest
  | 0x50 :: rest => PassesString Daemon.isDcsQuery rest
  | _ => True

/-- Where a round of the frontend goes on as the daemon does. -/
def InStep : Bytes → Prop
  | 0x1b :: 0x5b :: rest => Malformed rest → 0x1b ∉ rest
  | 0x1b :: 0x1b :: rest => Passes rest
  | _ => True

theorem removedQueries_text (plain : 0x1b ∉ bytes) : removedQueries bytes = [] := by
  have nothing : removedQueries [] = [] := rfl
  have passed := Daemon.removedQueries_plain bytes plain []
  rwa [List.append_nil, nothing] at passed

theorem parseAt_escape (notCsi : ∀ after, rest ≠ 0x5b :: after) (notOsc : ∀ after, rest ≠ 0x5d :: after)
    (notDcs : ∀ after, rest ≠ 0x50 :: after) : Daemon.parseAt (0x1b :: rest) = some ⟨[0x1b], false, rest⟩ := by
  unfold Daemon.parseAt
  split <;> simp_all

theorem removedQueries_escape (notCsi : ∀ after, rest ≠ 0x5b :: after) (notOsc : ∀ after, rest ≠ 0x5d :: after)
    (notDcs : ∀ after, rest ≠ 0x50 :: after) : removedQueries (0x1b :: rest) = removedQueries rest := by
  cases rest with
  | nil => rfl
  | cons byte rest =>
    exact Daemon.removedQueries_next
      (Daemon.nextStripped_of_parseAt (by simp) (parseAt_escape notCsi notOsc notDcs))

theorem removedQueries_passesString {introducer : UInt8} {isQuery : Bytes → Bool}
    (parse : ∀ rest, Daemon.parseAt (0x1b :: introducer :: rest) = parseStringSequence introducer isQuery rest)
    (plain : introducer ≠ 0x1b) (passes : PassesString isQuery rest) :
    removedQueries (0x1b :: introducer :: rest) = removedQueries (introducer :: rest) := by
  unfold PassesString at passes
  cases e : splitString rest with
  | none =>
    rw [e] at passes
    have unfinished : Daemon.parseAt (0x1b :: introducer :: rest) = none := by
      rw [parse, parseStringSequence, e]
      rfl
    rw [Daemon.removedQueries_stop (Daemon.nextStripped_of_unfinished unfinished),
      removedQueries_text (by simp [passes, plain.symm])]
  | some read =>
    obtain ⟨payload, terminator, after⟩ := read
    rw [e] at passes
    have found : Daemon.parseAt (0x1b :: introducer :: rest) =
        some ⟨0x1b :: introducer :: payload ++ terminator, isQuery payload, after⟩ := by
      rw [parse, parseStringSequence, e]
      rfl
    have text : introducer :: rest = (introducer :: payload) ++ (terminator ++ after) := by
      rw [(Daemon.splitString_append e []).1]
      simp
    have terminated : removedQueries (terminator ++ after) = removedQueries after := by
      cases Daemon.splitString_terminator e with
      | inl bell =>
        rw [bell]
        exact Daemon.removedQueries_plain [0x07] (by decide) after
      | inr backslash =>
        rw [backslash]
        exact (removedQueries_escape (by simp) (by simp) (by simp)).trans
          (Daemon.removedQueries_plain [0x5c] (by decide) after)
    rw [Daemon.removedQueries_next (Daemon.nextStripped_of_parseAt (by simp) found), text,
      Daemon.removedQueries_plain _ (by simp [passes.2, plain.symm]), terminated]
    simp [passes.1]

theorem removedQueries_passesCsi (passes : ∀ parsed ∈ parseCsi rest, ¬parsed.strip) :
    removedQueries (0x1b :: 0x5b :: rest) = removedQueries (0x5b :: rest) := by
  have parse : Daemon.parseAt (0x1b :: 0x5b :: rest) = parseCsi rest := rfl
  cases e : (rest.dropWhile isParam).dropWhile isIntermediate with
  | nil =>
    have unfinished : parseCsi rest = none := by rw [parseCsi, e]
    have text : 0x1b ∉ 0x5b :: rest := by simp [not_escape_of_unfinished e]
    rw [Daemon.removedQueries_stop (Daemon.nextStripped_of_unfinished (parse.trans unfinished)),
      removedQueries_text text]
  | cons finalByte after =>
    cases final : isFinal finalByte with
    | false =>
      have found : parseCsi rest = some ⟨[0x1b], false, 0x5b :: rest⟩ := by simp [parseCsi, e, final]
      exact Daemon.removedQueries_next (Daemon.nextStripped_of_parseAt (by simp) (parse.trans found))
    | true =>
      have found : parseCsi rest = some ⟨csiContent rest finalByte,
          Daemon.csiIsQuery (rest.takeWhile isParam) ((rest.dropWhile isParam).takeWhile isIntermediate) finalByte,
          after⟩ := by
        simp [parseCsi, e, final, csiContent]
      have kept := passes _ (Option.mem_def.2 found)
      have plain : 0x1b ∉ 0x5b :: (rest.takeWhile isParam ++
          (rest.dropWhile isParam).takeWhile isIntermediate ++ [finalByte]) := by
        have escape : finalByte ≠ 0x1b := by
          intro same
          rw [same] at final
          exact absurd final (by decide)
        have params := not_escape_of_csi rest
        simp only [List.mem_append, not_or] at params
        simp [params, escape.symm]
      have text : 0x5b :: rest = 0x5b :: (rest.takeWhile isParam ++
          (rest.dropWhile isParam).takeWhile isIntermediate ++ [finalByte]) ++ after := by
        conv_lhs => rw [Daemon.csi_content e]
        simp
      rw [Daemon.removedQueries_next (Daemon.nextStripped_of_parseAt (by simp) (parse.trans found)), text,
        Daemon.removedQueries_plain _ plain]
      simpa using kept

theorem removedQueries_passes (passes : Passes rest) : removedQueries (0x1b :: rest) = removedQueries rest := by
  unfold Passes at passes
  split at passes
  · exact removedQueries_passesCsi passes
  · exact removedQueries_passesString (fun _ => rfl) (by decide) passes
  · exact removedQueries_passesString (fun _ => rfl) (by decide) passes
  · rename_i notCsi notOsc notDcs
    exact removedQueries_escape notCsi notOsc notDcs

theorem removedQueries_of_stop (h : nextAsked bytes = none) (inStep : InStep bytes) :
    removedQueries bytes = [] := by
  unfold nextAsked at h
  split at h
  · rfl
  · split at h
    · cases h
    · rename_i escape
      obtain rfl := Decidable.not_not.1 escape
      split at h
      · rename_i rest
        have parse : Daemon.parseAt (0x1b :: 0x5b :: rest) = parseCsi rest := rfl
        split at h
        · rename_i malformed
          have plain : 0x1b ∉ 0x5b :: rest := by simpa using inStep malformed
          have found : parseCsi rest = some ⟨[0x1b], false, 0x5b :: rest⟩ := by
            unfold Malformed at malformed
            cases e : (rest.dropWhile isParam).dropWhile isIntermediate with
            | nil => simp [e] at malformed
            | cons finalByte after => simp_all [parseCsi]
          rw [Daemon.removedQueries_next (Daemon.nextStripped_of_parseAt (by simp) (parse.trans found)),
            removedQueries_text plain]
          rfl
        · have unfinished := Option.map_eq_none_iff.1 h
          exact Daemon.removedQueries_stop (Daemon.nextStripped_of_unfinished (parse.trans unfinished))
      · exact Daemon.removedQueries_stop (Daemon.nextStripped_of_unfinished (Option.map_eq_none_iff.1 h))
      · exact Daemon.removedQueries_stop (Daemon.nextStripped_of_unfinished (Option.map_eq_none_iff.1 h))
      · rfl
      · cases h

theorem removedQueries_of_next (h : nextAsked bytes = some (token, rest)) (inStep : InStep bytes) :
    removedQueries bytes = (if token.isQuery then [token.content] else []) ++ removedQueries rest := by
  unfold nextAsked at h
  split at h
  · exact nomatch h
  · split at h
    · rename_i plain
      cases h
      exact Daemon.removedQueries_plain [_] (by simpa using Ne.symm plain) rest
    · rename_i escape
      obtain rfl := Decidable.not_not.1 escape
      have read : ∀ {bytes : Bytes} {parsed : Option Parsed}, bytes ≠ [0x1b] → Daemon.parseAt bytes = parsed →
          parsed.map Parsed.read = some (token, rest) →
          removedQueries bytes = (if token.isQuery then [token.content] else []) ++ removedQueries rest := by
        intro bytes parsed lone parse h
        obtain ⟨parsed, rfl, e⟩ := Option.map_eq_some_iff.1 h
        cases e
        exact Daemon.removedQueries_next (Daemon.nextStripped_of_parseAt lone parse)
      split at h
      · split at h
        · exact nomatch h
        · exact read (by simp) rfl h
      · exact read (by simp) rfl h
      · exact read (by simp) rfl h
      · exact nomatch h
      · rename_i byte rest notCsi notOsc notDcs
        cases h
        have escape : removedQueries (0x1b :: byte :: rest) = removedQueries (byte :: rest) :=
          removedQueries_escape (by simpa using notCsi) (by simpa using notOsc)
          (by simpa using notDcs)
        cases Decidable.em (byte = 0x1b) with
        | inl again =>
          rw [again] at inStep escape ⊢
          exact escape.trans (removedQueries_passes inStep)
        | inr plain =>
          exact escape.trans (Daemon.removedQueries_plain [byte] (by simpa using Ne.symm plain) rest)

/-- What the daemon strips is what the frontend asks again, as long as the frontend stays in step. -/
theorem stripped_queries_asked_again (bytes : Bytes)
    (inStep : ∀ later, askScanner.Visits bytes later → InStep later) :
    removedQueries bytes = terminalQuerySequences bytes := by
  rw [terminalQuerySequences_eq]
  induction bytes using askScanner.scan_induction with
  | stop bytes h =>
    rw [askScanner.scan_stop h]
    exact removedQueries_of_stop h (inStep bytes (.here bytes))
  | next bytes token rest h ih =>
    have behind := ih fun later visits => inStep later (.next h visits)
    rw [askScanner.scan_next h, removedQueries_of_next h (inStep bytes (.here bytes)), behind]
    cases query : token.isQuery with
    | true => simp [queries, query]
    | false => simp [queries, query]

/-- Of three ESCs in front of a query the frontend skips two. -/
theorem query_behind_escapes_asked_again :
    removedQueries [0x1b, 0x1b, 0x1b, 0x5b, 0x63] = terminalQuerySequences [0x1b, 0x1b, 0x1b, 0x5b, 0x63] := by
  apply stripped_queries_asked_again
  intro later visits
  have skipped : askScanner.next [0x1b, 0x1b, 0x1b, 0x5b, 0x63] =
      some (⟨[0x1b, 0x1b], false⟩, [0x1b, 0x5b, 0x63]) := by decide +kernel
  have query : askScanner.next [0x1b, 0x5b, 0x63] = some (⟨[0x1b, 0x5b, 0x63], true⟩, []) := by decide +kernel
  cases visits.of_next skipped with
  | inl here => exact here ▸ trivial
  | inr visits =>
    cases visits.of_next query with
    | inl here =>
      rw [here]
      intro malformed
      exact absurd malformed (by decide)
    | inr visits =>
      cases visits with
      | here => trivial
      | next h => exact nomatch h

/-- Of two it skips the one that begins the query, which the daemon strips. -/
theorem query_behind_escape_not_asked_again :
    ¬∀ bytes, removedQueries bytes = terminalQuerySequences bytes := by
  intro h
  exact absurd (h [0x1b, 0x1b, 0x5b, 0x63]) (by decide +kernel)

end VibeLink.Terminal
