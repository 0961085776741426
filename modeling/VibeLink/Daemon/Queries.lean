import VibeLink.Daemon.Scrollback
import VibeLink.Daemon.Modes

/-! What is left out of a replayed snapshot: sequences that a terminal answers
(`daemon/query_filter.rs`). -/

namespace VibeLink.Daemon

def isDigit (byte : UInt8) : Bool := 0x30 ≤ byte ∧ byte ≤ 0x39

/-- `str::parse::<u32>` on digits. -/
def parseU32 (digits : Bytes) : Option Nat :=
  let n := digits.foldl (fun n digit => 10 * n + (digit.toNat - 0x30)) 0
  if digits ≠ [] ∧ n < UInt32.size then some n else none

def leadingNumber (params : Bytes) : Option Nat :=
  let digits := params.takeWhile isDigit
  match params.dropWhile isDigit with
  | [] | 0x3b :: _ | 0x3a :: _ => parseU32 digits
  | _ => none

def csiIsQuery (params intermediates : Bytes) (finalByte : UInt8) : Bool :=
  match finalByte with
  | 0x63 => intermediates = []                                           -- c: DA1, DA2, DA3
  | 0x6e => intermediates = []                                           -- n: DSR
  | 0x70 => intermediates = [0x24]                                       -- p: DECRQM
  | 0x71 => intermediates = [] ∧ params.head? = some 0x3e                -- q: XTVERSION
  | 0x75 => intermediates = [] ∧ params = [0x3f]                         -- u: kitty keyboard
  | 0x74 => intermediates = [] ∧ leadingNumber params ∈ [some 14, some 16, some 18]
  | _ => false

/-- How the sequence at an escape byte reads on: the bytes up to where the filter resumes, whether
they are dropped, and what follows them. -/
structure Parsed where
  sequence : Bytes
  strip : Bool
  rest : Bytes

/-- What follows `ESC [`; nothing when the sequence is incomplete. -/
def parseCsi (rest : Bytes) : Option Parsed :=
  let params := rest.takeWhile isParam
  let intermediates := (rest.dropWhile isParam).takeWhile isIntermediate
  match (rest.dropWhile isParam).dropWhile isIntermediate with
  | [] => none
  | finalByte :: after =>
    -- a malformed sequence keeps its ESC, and the filter resumes after that
    if ¬isFinal finalByte then some ⟨[0x1b], false, 0x5b :: rest⟩
    else some ⟨0x1b :: 0x5b :: params ++ intermediates ++ [finalByte],
      csiIsQuery params intermediates finalByte, after⟩

/-- `10;?`, `4;5;?`, `52;c;?`: the codes that a terminal answers, with `?` as the final argument. -/
def isOscQuery (payload : Bytes) : Bool :=
  match payload.findIdx? (· = 0x3b) with
  | none => false
  | some firstEnd =>
    let code := payload.take firstEnd
    let answerable := (parseU32 code).any fun n => n = 4 ∨ n = 5 ∨ (10 ≤ n ∧ n ≤ 19) ∨ n = 52
    code.all isDigit ∧ answerable ∧
      ([0x3b, 0x3f].isSuffixOf payload ∨ payload.drop (firstEnd + 1) = [0x3f])

def isDcsQuery (payload : Bytes) : Bool :=
  [0x2b, 0x71].isPrefixOf payload ∨ [0x24, 0x71].isPrefixOf payload

/-- What follows `ESC ]` or `ESC P`, as `introducer` says. -/
def parseStringSequence (introducer : UInt8) (isQuery : Bytes → Bool) (rest : Bytes) : Option Parsed :=
  (splitString rest).map fun (payload, terminator, after) =>
    ⟨0x1b :: introducer :: payload ++ terminator, isQuery payload, after⟩

/-- An incomplete sequence is kept to the end.  Every round consumes a byte. -/
def stripFrom : Nat → Bytes → Bytes
  | 0, bytes => bytes
  | _ + 1, [] => []
  | fuel + 1, byte :: rest =>
    let parsed := match byte, rest with
      | 0x1b, 0x5b :: after => parseCsi after
      | 0x1b, 0x5d :: after => parseStringSequence 0x5d isOscQuery after
      | 0x1b, 0x50 :: after => parseStringSequence 0x50 isDcsQuery after
      | _, _ => some ⟨[byte], false, rest⟩
    match parsed with
    | none => byte :: rest
    | some parsed =>
      (if parsed.strip then [] else parsed.sequence) ++ stripFrom fuel parsed.rest

def stripTerminalQueries (bytes : Bytes) : Bytes := stripFrom bytes.length bytes

end VibeLink.Daemon

/-! The rounds of the query filter, and what they remove. -/

namespace VibeLink.Daemon

open VibeLink.Lexing

structure QueryToken where
  content : Bytes
  isQuery : Bool
  deriving DecidableEq

def queries (tokens : List QueryToken) : List Bytes := (tokens.filter QueryToken.isQuery).map QueryToken.content

variable {bytes front rest after more : Bytes} {byte : UInt8} {parsed : Parsed} {token : QueryToken}

def parseAt : Bytes → Option Parsed
  | [] => none
  | byte :: rest =>
    match byte, rest with
    | 0x1b, 0x5b :: after => parseCsi after
    | 0x1b, 0x5d :: after => parseStringSequence 0x5d isOscQuery after
    | 0x1b, 0x50 :: after => parseStringSequence 0x50 isDcsQuery after
    | _, _ => some ⟨[byte], false, rest⟩

theorem stripFrom_cons (fuel : Nat) (byte : UInt8) (rest : Bytes) :
    stripFrom (fuel + 1) (byte :: rest) =
      match parseAt (byte :: rest) with
      | none => byte :: rest
      | some parsed => (if parsed.strip then [] else parsed.sequence) ++ stripFrom fuel parsed.rest := rfl

/-- What the rounds of `stripFrom` leave out. -/
def removedFrom : Nat → Bytes → List Bytes
  | 0, _ | _ + 1, [] => []
  | fuel + 1, byte :: rest =>
    match parseAt (byte :: rest) with
    | none => []
    | some parsed => (if parsed.strip then [parsed.sequence] else []) ++ removedFrom fuel parsed.rest

def removedQueries (bytes : Bytes) : List Bytes := removedFrom bytes.length bytes

/-- The control sequence behind `ESC [` has something else in the place of its final byte. -/
def Malformed (rest : Bytes) : Prop :=
  ((rest.dropWhile isParam).dropWhile isIntermediate).head?.any fun finalByte => ¬isFinal finalByte

instance Malformed.decidable : Decidable (Malformed rest) := inferInstanceAs (Decidable (_ = true))

theorem parseCsi_reads (h : parseCsi rest = some parsed) :
    parsed.sequence ≠ [] ∧ 0x1b :: 0x5b :: rest = parsed.sequence ++ parsed.rest ∧
      ∀ more, parseCsi (rest ++ more) = some { parsed with rest := parsed.rest ++ more } := by
  unfold parseCsi at h
  cases final : (rest.dropWhile isParam).dropWhile isIntermediate with
  | nil => simp [final] at h
  | cons finalByte after =>
    simp only [final] at h
    have content := csi_content final
    split at h
    · rename_i malformed
      cases h
      refine ⟨List.cons_ne_nil _ _, rfl, fun more => ?_⟩
      simp [parseCsi, csi_append final more, malformed]
    · rename_i wellFormed
      cases h
      refine ⟨by simp, by simpa using content, fun more => ?_⟩
      simp [parseCsi, csi_append final more, wellFormed]

theorem parseStringSequence_reads {introducer : UInt8} {isQuery : Bytes → Bool}
    (h : parseStringSequence introducer isQuery rest = some parsed) :
    parsed.sequence ≠ [] ∧ 0x1b :: introducer :: rest = parsed.sequence ++ parsed.rest ∧
      ∀ more, parseStringSequence introducer isQuery (rest ++ more) =
        some { parsed with rest := parsed.rest ++ more } := by
  obtain ⟨⟨payload, terminator, after⟩, split, e⟩ := Option.map_eq_some_iff.1 h
  cases e
  refine ⟨List.cons_ne_nil _ _, ?_, fun more => ?_⟩
  · rw [(splitString_append split []).1]
    simp
  · simp [parseStringSequence, (splitString_append split more).2]

def Parsed.read (parsed : Parsed) : QueryToken × Bytes := (⟨parsed.sequence, parsed.strip⟩, parsed.rest)

/-- A round of the filter; a lone ESC at the end can still become something. -/
def nextStripped (bytes : Bytes) : Option (QueryToken × Bytes) :=
  if bytes = [0x1b] then none else (parseAt bytes).map Parsed.read

theorem parseAt_reads (lone : bytes ≠ [0x1b]) (h : parseAt bytes = some parsed) :
    parsed.sequence ≠ [] ∧ bytes = parsed.sequence ++ parsed.rest ∧
      ∀ more, parseAt (bytes ++ more) = some { parsed with rest := parsed.rest ++ more } := by
  cases bytes with
  | nil => exact nomatch h
  | cons byte rest =>
    simp only [parseAt] at h
    split at h
    · exact parseCsi_reads h
    · exact parseStringSequence_reads h
    · exact parseStringSequence_reads h
    · rename_i notCsi notOsc notDcs
      cases h
      refine ⟨List.cons_ne_nil _ _, rfl, fun more => ?_⟩
      cases rest with
      | nil =>
        have plain : byte ≠ 0x1b := fun e => lone (by rw [e])
        simp only [List.cons_append, List.nil_append, parseAt]
        split <;> simp_all
      | cons byte' rest =>
        simp only [List.cons_append, parseAt]
        split <;> simp_all

theorem nextStripped_reads (h : nextStripped bytes = some (token, rest)) :
    token.content ≠ [] ∧ bytes = token.content ++ rest ∧
      ∀ more, nextStripped (bytes ++ more) = some (token, rest ++ more) := by
  unfold nextStripped at h
  split at h
  · exact nomatch h
  · rename_i lone
    obtain ⟨parsed, found, e⟩ := Option.map_eq_some_iff.1 h
    cases e
    have reads := parseAt_reads lone found
    refine ⟨reads.1, reads.2.1, fun more => ?_⟩
    have lone : bytes ++ more ≠ [0x1b] := by
      intro e
      cases List.append_eq_singleton_iff.1 e with
      | inl empty => simp [empty.1, parseAt] at found
      | inr single => exact lone single.1
    rw [nextStripped, if_neg lone, reads.2.2 more]
    rfl

def stripScanner : Scanner UInt8 QueryToken where
  next := nextStripped
  content := QueryToken.content
  content_ne h := (nextStripped_reads h).1
  reads h := (nextStripped_reads h).2.1
  stable h := (nextStripped_reads h).2.2

theorem nextStripped_of_parseAt (lone : bytes ≠ [0x1b]) (h : parseAt bytes = some parsed) :
    nextStripped bytes = some (⟨parsed.sequence, parsed.strip⟩, parsed.rest) := by
  rw [nextStripped, if_neg lone, h]
  rfl

theorem nextStripped_plain (plain : 0x1b ∉ byte :: rest) (more : Bytes) :
    nextStripped (byte :: (rest ++ more)) = some (⟨[byte], false⟩, rest ++ more) := by
  have ne : byte ≠ 0x1b := fun e => plain (e ▸ List.mem_cons_self)
  have found : parseAt (byte :: (rest ++ more)) = some ⟨[byte], false, rest ++ more⟩ := by
    unfold parseAt
    split <;> simp_all
  exact nextStripped_of_parseAt (by simp [ne]) found

theorem nextStripped_of_unfinished (h : parseAt bytes = none) : nextStripped bytes = none := by
  unfold nextStripped
  rw [h]
  split
  · rfl
  · rfl

theorem rounds_eq (fuel : Nat) : ∀ {bytes : Bytes}, bytes.length ≤ fuel →
    stripFrom fuel bytes =
        ((stripScanner.scan bytes).1.filter (¬·.isQuery)).flatMap QueryToken.content ++
          (stripScanner.scan bytes).2 ∧
      removedFrom fuel bytes = queries (stripScanner.scan bytes).1 := by
  induction fuel with
  | zero =>
    intro bytes le
    obtain rfl := List.length_eq_zero_iff.1 (Nat.le_zero.1 le)
    rw [stripScanner.scan_nil]
    exact ⟨rfl, rfl⟩
  | succ fuel ih =>
    intro bytes le
    cases bytes with
    | nil =>
      rw [stripScanner.scan_nil]
      exact ⟨rfl, rfl⟩
    | cons byte rest =>
      rw [stripFrom_cons, removedFrom]
      cases found : parseAt (byte :: rest) with
      | none =>
        rw [stripScanner.scan_stop (nextStripped_of_unfinished found)]
        exact ⟨rfl, rfl⟩
      | some parsed =>
        cases Decidable.em (byte :: rest = [0x1b]) with
        | inl lone =>
          rw [lone] at found
          cases found
          rw [lone, stripScanner.scan_stop rfl]
          cases fuel with
          | zero => exact ⟨rfl, rfl⟩
          | succ fuel => exact ⟨rfl, rfl⟩
        | inr lone =>
          have next := nextStripped_of_parseAt lone found
          have shorter := stripScanner.shorter next
          have behind := ih (Nat.le_of_lt_succ (Nat.lt_of_lt_of_le shorter le))
          rw [stripScanner.scan_next next]
          simp only [behind]
          cases strip : parsed.strip with
          | true => simp [queries]
          | false => simp [queries]

theorem stripTerminalQueries_eq (bytes : Bytes) :
    stripTerminalQueries bytes =
      ((stripScanner.scan bytes).1.filter (¬·.isQuery)).flatMap QueryToken.content ++
        (stripScanner.scan bytes).2 :=
  (rounds_eq bytes.length (Nat.le_refl _)).1

theorem removedQueries_eq (bytes : Bytes) : removedQueries bytes = queries (stripScanner.scan bytes).1 :=
  (rounds_eq bytes.length (Nat.le_refl _)).2

theorem removedQueries_stop (h : nextStripped bytes = none) : removedQueries bytes = [] := by
  rw [removedQueries_eq, stripScanner.scan_stop h]
  rfl

theorem removedQueries_next (h : nextStripped bytes = some (token, rest)) :
    removedQueries bytes = (if token.isQuery then [token.content] else []) ++ removedQueries rest := by
  rw [removedQueries_eq, removedQueries_eq, stripScanner.scan_next h]
  cases query : token.isQuery with
  | true => simp [queries, query]
  | false => simp [queries, query]

theorem removedQueries_plain (front : Bytes) (plain : 0x1b ∉ front) (rest : Bytes) :
    removedQueries (front ++ rest) = removedQueries rest := by
  induction front with
  | nil => rfl
  | cons byte front ih =>
    rw [List.cons_append, removedQueries_next (nextStripped_plain plain rest)]
    exact ih fun member => plain (List.mem_cons_of_mem _ member)

end VibeLink.Daemon
