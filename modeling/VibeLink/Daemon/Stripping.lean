import VibeLink.Daemon.Queries

/-! What the query filter removes and what it keeps, by the grammar of the sequences
(`daemon/query_filter.rs`). -/

namespace VibeLink.Daemon

open VibeLink.Lexing

variable {bytes body rest after terminator content tail query : Bytes} {byte : UInt8}

/-- No BEL and no `ESC \` stands in the bytes. -/
def Unterminated (body : Bytes) : Prop := 0x07 ∉ body ∧ ¬[0x1b, 0x5c] <:+: body

def IsTerminator (terminator : Bytes) : Prop := terminator = [0x07] ∨ terminator = [0x1b, 0x5c]

/-- The sequences that a terminal answers. -/
inductive CompleteQuery : Bytes → Prop
  | csi {params intermediates : Bytes} {finalByte : UInt8} : (∀ byte ∈ params, isParam byte) →
      (∀ byte ∈ intermediates, isIntermediate byte) → isFinal finalByte →
      csiIsQuery params intermediates finalByte →
      CompleteQuery (0x1b :: 0x5b :: (params ++ intermediates ++ [finalByte]))
  | osc {payload terminator : Bytes} : Unterminated payload → IsTerminator terminator → isOscQuery payload →
      CompleteQuery (0x1b :: 0x5d :: (payload ++ terminator))
  | dcs {payload terminator : Bytes} : Unterminated payload → IsTerminator terminator → isDcsQuery payload →
      CompleteQuery (0x1b :: 0x50 :: (payload ++ terminator))

/-- A sequence that has begun and whose end is to come. -/
inductive Unfinished : Bytes → Prop
  | nothing : Unfinished []
  | escape : Unfinished [0x1b]
  | csi {params intermediates : Bytes} : (∀ byte ∈ params, isParam byte) →
      (∀ byte ∈ intermediates, isIntermediate byte) → Unfinished (0x1b :: 0x5b :: (params ++ intermediates))
  | osc {body : Bytes} : Unterminated body → Unfinished (0x1b :: 0x5d :: body)
  | dcs {body : Bytes} : Unterminated body → Unfinished (0x1b :: 0x50 :: body)

theorem unterminated_nil : Unterminated [] := ⟨List.not_mem_nil, by simp⟩

theorem unterminated_cons (bell : byte ≠ 0x07) (backslash : ∀ behind, byte = 0x1b → rest ≠ 0x5c :: behind) :
    Unterminated (byte :: rest) ↔ Unterminated rest := by
  have first : ¬[0x1b, 0x5c] <+: byte :: rest := by
    rintro ⟨behind, same⟩
    cases same
    exact backslash behind rfl rfl
  rw [Unterminated, Unterminated, List.mem_cons, List.infix_cons_iff, or_iff_right bell.symm, or_iff_right first]

theorem splitString_eq_none : splitString rest = none ↔ Unterminated rest := by
  induction rest using splitString.induct with
  | case1 => exact iff_of_true rfl unterminated_nil
  | case2 rest => exact iff_of_false (by simp [splitString]) fun open' => open'.1 List.mem_cons_self
  | case3 rest =>
    refine iff_of_false (by simp [splitString]) fun open' => open'.2 ?_
    exact List.IsPrefix.isInfix ⟨rest, rfl⟩
  | case4 byte rest bell backslash ih =>
    rw [splitString, Option.map_eq_none_iff, ih, unterminated_cons bell fun behind escape same => backslash behind escape same]
    · exact bell
    · exact backslash

theorem splitString_unterminated (h : splitString rest = some (body, terminator, after)) : Unterminated body := by
  induction rest using splitString.induct generalizing body with
  | case1 => cases h
  | case2 rest =>
    cases h
    exact unterminated_nil
  | case3 rest =>
    cases h
    exact unterminated_nil
  | case4 byte rest bell backslash ih =>
    rw [splitString] at h
    · obtain ⟨found, split, e⟩ := Option.map_eq_some_iff.1 h
      cases e
      refine (unterminated_cons bell fun behind escape same => ?_).2 (ih split)
      have whole := (splitString_append split []).1
      rw [same] at whole
      exact backslash _ escape whole
    · exact bell
    · exact backslash

theorem splitString_of (open' : Unterminated body) (ends : IsTerminator terminator) (after : Bytes) :
    splitString (body ++ terminator ++ after) = some (body, terminator, after) := by
  induction body with
  | nil =>
    cases ends with
    | inl bell =>
      rw [bell]
      rfl
    | inr backslash =>
      rw [backslash]
      rfl
  | cons byte body ih =>
    have bell : byte ≠ 0x07 := fun same => open'.1 (same ▸ List.mem_cons_self)
    have backslash : ∀ behind, byte = 0x1b → body ++ terminator ++ after ≠ 0x5c :: behind := by
      intro behind escape same
      cases body with
      | nil =>
        cases ends with
        | inl ends =>
          rw [ends] at same
          cases same
        | inr ends =>
          rw [ends] at same
          cases same
      | cons next body =>
        cases same
        rw [escape] at open'
        exact open'.2 (List.IsPrefix.isInfix ⟨body, rfl⟩)
    have open'' : Unterminated body := by
      refine (unterminated_cons bell fun behind escape same => ?_).1 open'
      apply backslash (behind ++ terminator ++ after) escape
      rw [same]
      rfl
    rw [List.cons_append, List.cons_append, splitString, ih open'']
    · rfl
    · exact bell
    · exact backslash

theorem parseCsi_of {params intermediates : Bytes} {finalByte : UInt8} (isParams : ∀ byte ∈ params, isParam byte)
    (areIntermediate : ∀ byte ∈ intermediates, isIntermediate byte) (final : isFinal finalByte) (after : Bytes) :
    parseCsi (params ++ intermediates ++ finalByte :: after) =
      some ⟨0x1b :: 0x5b :: (params ++ intermediates ++ [finalByte]), csiIsQuery params intermediates finalByte, after⟩ := by
  have reads :=
    csi_stop isParams areIntermediate (not_isParam_of_isFinal final) (not_isIntermediate_of_isFinal final) after
  rw [parseCsi]
  simp only [reads]
  simp [final]

theorem CompleteQuery.read (complete : CompleteQuery query) (more : Bytes) :
    nextStripped (query ++ more) = some (⟨query, true⟩, more) := by
  have found : parseAt (query ++ more) = some ⟨query, true, more⟩ := by
    cases complete with
    | @csi params intermediates finalByte isParams areIntermediate final answered =>
      change parseCsi (params ++ intermediates ++ [finalByte] ++ more) = _
      rw [List.append_assoc _ [finalByte], List.singleton_append, parseCsi_of isParams areIntermediate final, answered]
    | @osc payload terminator open' ends answered =>
      change parseStringSequence 0x5d isOscQuery (payload ++ terminator ++ more) = _
      rw [parseStringSequence, splitString_of open' ends]
      simp [answered]
    | @dcs payload terminator open' ends answered =>
      change parseStringSequence 0x50 isDcsQuery (payload ++ terminator ++ more) = _
      rw [parseStringSequence, splitString_of open' ends]
      simp [answered]
  apply nextStripped_of_parseAt _ found
  cases complete <;> simp

theorem completeQuery_of_read (h : nextStripped bytes = some (⟨content, true⟩, rest)) : CompleteQuery content := by
  unfold nextStripped at h
  split at h
  · cases h
  · obtain ⟨parsed, found, read⟩ := Option.map_eq_some_iff.1 h
    have strip : parsed.strip = true := congrArg (·.1.isQuery) read
    have same : parsed.sequence = content := congrArg (·.1.content) read
    rw [← same]
    clear h read same
    unfold parseAt at found
    split at found
    · cases found
    · split at found
      · unfold parseCsi at found
        split at found
        · cases found
        · rename_i finalByte after behind
          split at found
          · cases found
            cases strip
          · rename_i final
            cases found
            rw [Decidable.not_not] at final
            exact .csi (fun _ => List.mem_takeWhile_imp) (fun _ => List.mem_takeWhile_imp) final strip
      · obtain ⟨⟨payload, terminator, after⟩, split, same⟩ := Option.map_eq_some_iff.1 found
        cases same
        exact .osc (splitString_unterminated split) (splitString_terminator split) strip
      · obtain ⟨⟨payload, terminator, after⟩, split, same⟩ := Option.map_eq_some_iff.1 found
        cases same
        exact .dcs (splitString_unterminated split) (splitString_terminator split) strip
      · cases found
        cases strip

theorem parseCsi_eq_none : parseCsi rest = none ↔ (rest.dropWhile isParam).dropWhile isIntermediate = [] := by
  unfold parseCsi
  dsimp only
  cases (rest.dropWhile isParam).dropWhile isIntermediate with
  | nil => exact iff_of_true rfl rfl
  | cons finalByte after =>
    dsimp only
    split
    · exact iff_of_false nofun nofun
    · exact iff_of_false nofun nofun

theorem dropWhile_dropWhile {params intermediates : Bytes} (isParams : ∀ byte ∈ params, isParam byte)
    (areIntermediate : ∀ byte ∈ intermediates, isIntermediate byte) :
    ((params ++ intermediates).dropWhile isParam).dropWhile isIntermediate = [] := by
  rw [List.dropWhile_append_of_pos isParams]
  cases intermediates with
  | nil => rfl
  | cons byte intermediates =>
    rw [List.dropWhile_cons_of_neg (by simp [not_isParam_of_isIntermediate (areIntermediate byte List.mem_cons_self)])]
    exact List.dropWhile_eq_nil_iff.2 areIntermediate

theorem nextStripped_eq_none : nextStripped bytes = none ↔ Unfinished bytes := by
  constructor
  · intro h
    unfold nextStripped at h
    split at h
    · rename_i lone
      rw [lone]
      exact .escape
    · have found := Option.map_eq_none_iff.1 h
      unfold parseAt at found
      split at found
      · exact .nothing
      · split at found
        · rename_i after _
          have all := parseCsi_eq_none.1 found
          have split : after = after.takeWhile isParam ++ (after.dropWhile isParam).takeWhile isIntermediate := by
            have parts := List.takeWhile_append_dropWhile (p := isIntermediate) (l := after.dropWhile isParam)
            rw [all, List.append_nil] at parts
            rw [parts, List.takeWhile_append_dropWhile]
          rw [split]
          exact .csi (fun _ => List.mem_takeWhile_imp) (fun _ => List.mem_takeWhile_imp)
        · exact .osc (splitString_eq_none.1 (Option.map_eq_none_iff.1 found))
        · exact .dcs (splitString_eq_none.1 (Option.map_eq_none_iff.1 found))
        · cases found
  · intro unfinished
    cases unfinished with
    | nothing => rfl
    | escape => rfl
    | csi isParams areIntermediate =>
      exact nextStripped_of_unfinished (parseCsi_eq_none.2 (dropWhile_dropWhile isParams areIntermediate))
    | osc open' => exact nextStripped_of_unfinished (Option.map_eq_none_iff.2 (splitString_eq_none.2 open'))
    | dcs open' => exact nextStripped_of_unfinished (Option.map_eq_none_iff.2 (splitString_eq_none.2 open'))

theorem strip_stop (h : nextStripped bytes = none) : stripTerminalQueries bytes = bytes := by
  rw [stripTerminalQueries_eq, stripScanner.scan_stop h]
  rfl

theorem strip_next {token : QueryToken} (h : nextStripped bytes = some (token, rest)) :
    stripTerminalQueries bytes = (if token.isQuery then [] else token.content) ++ stripTerminalQueries rest := by
  rw [stripTerminalQueries_eq, stripTerminalQueries_eq, stripScanner.scan_next h]
  cases query : token.isQuery with
  | true => simp [query]
  | false => simp [query]

theorem strip_plain (front : Bytes) (plain : 0x1b ∉ front) (rest : Bytes) :
    stripTerminalQueries (front ++ rest) = front ++ stripTerminalQueries rest := by
  induction front with
  | nil => rfl
  | cons byte front ih =>
    rw [List.cons_append, strip_next (nextStripped_plain plain rest),
      ih fun member => plain (List.mem_cons_of_mem _ member)]
    rfl

theorem strip_escape (found : parseAt (0x1b :: rest) = some ⟨[0x1b], false, rest⟩) :
    stripTerminalQueries (0x1b :: rest) = 0x1b :: stripTerminalQueries rest := by
  by_cases lone : rest = []
  · rw [lone]
    rfl
  · rw [strip_next (nextStripped_of_parseAt (by simp [lone]) found)]
    rfl

theorem Unfinished.starts (unfinished : Unfinished tail) : tail = [] ∨ ∃ behind, tail = 0x1b :: behind := by
  cases unfinished with
  | nothing => exact .inl rfl
  | escape => exact .inr ⟨_, rfl⟩
  | csi => exact .inr ⟨_, rfl⟩
  | osc => exact .inr ⟨_, rfl⟩
  | dcs => exact .inr ⟨_, rfl⟩

theorem Unterminated.append (open' : Unterminated body) (tail_open : Unterminated tail)
    (starts : ∀ behind, tail ≠ 0x5c :: behind) : Unterminated (body ++ tail) := by
  induction body with
  | nil => exact tail_open
  | cons byte body ih =>
    have bell : byte ≠ 0x07 := fun same => open'.1 (same ▸ List.mem_cons_self)
    have backslash : ∀ behind, byte = 0x1b → body ≠ 0x5c :: behind := by
      intro behind escape same
      rw [escape, same] at open'
      exact open'.2 (List.IsPrefix.isInfix ⟨behind, rfl⟩)
    refine (unterminated_cons bell fun behind escape same => ?_).2 (ih ((unterminated_cons bell backslash).1 open'))
    cases body with
    | nil => exact starts behind same
    | cons next body =>
      cases same
      exact backslash body escape rfl

theorem unterminated_of_plain (plain : ∀ byte ∈ body, isParam byte ∨ isIntermediate byte) : Unterminated body := by
  constructor
  · intro bell
    exact absurd (plain _ bell) (by decide)
  · intro backslash
    exact absurd (plain _ (backslash.subset List.mem_cons_self)) (by decide)

theorem Unfinished.unterminated (unfinished : Unfinished tail) : Unterminated tail := by
  cases unfinished with
  | nothing => exact unterminated_nil
  | escape => exact (unterminated_cons (by decide) fun behind _ same => by cases same).2 unterminated_nil
  | csi isParams areIntermediate =>
    refine (unterminated_cons (by decide) fun behind _ same => by cases same).2
      ((unterminated_cons (by decide) fun behind escape _ => by cases escape).2 (unterminated_of_plain ?_))
    intro byte there
    exact (List.mem_append.1 there).imp (isParams byte) (areIntermediate byte)
  | osc open' =>
    exact (unterminated_cons (by decide) fun behind _ same => by cases same).2
      ((unterminated_cons (by decide) fun behind escape _ => by cases escape).2 open')
  | dcs open' =>
    exact (unterminated_cons (by decide) fun behind _ same => by cases same).2
      ((unterminated_cons (by decide) fun behind escape _ => by cases escape).2 open')

theorem Unfinished.not_backslash (unfinished : Unfinished tail) (behind : Bytes) : tail ≠ 0x5c :: behind := by
  intro same
  obtain empty | ⟨rest, escape⟩ := unfinished.starts
  · cases empty.symm.trans same
  · cases escape.symm.trans same

theorem strip_unfinished_append {first : Bytes} (begun : Unfinished first) (unfinished : Unfinished tail) :
    stripTerminalQueries (first ++ tail) = first ++ tail := by
  have kept := strip_stop (nextStripped_eq_none.2 unfinished)
  cases begun with
  | nothing => exact kept
  | escape =>
    obtain rfl | ⟨behind, rfl⟩ := unfinished.starts
    · rfl
    · change stripTerminalQueries (0x1b :: 0x1b :: behind) = _
      rw [strip_escape rfl, kept]
      rfl
  | @csi params intermediates isParams areIntermediate =>
    obtain rfl | ⟨behind, rfl⟩ := unfinished.starts
    · rw [List.append_nil]
      exact strip_stop (nextStripped_eq_none.2 (.csi isParams areIntermediate))
    · have notParam : isParam 0x1b = false := by decide
      have split := csi_stop isParams areIntermediate notParam (by decide) behind
      have malformed : parseCsi (params ++ intermediates ++ 0x1b :: behind) =
          some ⟨[0x1b], false, 0x5b :: (params ++ intermediates ++ 0x1b :: behind)⟩ := by
        rw [parseCsi]
        simp only [split]
        rfl
      have plain : 0x1b ∉ (0x5b :: (params ++ intermediates) : Bytes) := by
        intro there
        cases List.mem_cons.1 there with
        | inl same => cases same
        | inr there =>
          cases List.mem_append.1 there with
          | inl param => exact absurd (isParams _ param) (by decide)
          | inr between => exact absurd (areIntermediate _ between) (by decide)
      have alone : parseAt (0x1b :: (0x5b :: (params ++ intermediates) ++ 0x1b :: behind)) =
          some ⟨[0x1b], false, 0x5b :: (params ++ intermediates) ++ 0x1b :: behind⟩ := malformed
      change stripTerminalQueries (0x1b :: (0x5b :: (params ++ intermediates) ++ 0x1b :: behind)) = _
      rw [strip_escape alone, strip_plain _ plain, kept]
      rfl
  | @osc body open' =>
    exact strip_stop (nextStripped_eq_none.2 (.osc (open'.append unfinished.unterminated unfinished.not_backslash)))
  | @dcs body open' =>
    exact strip_stop (nextStripped_eq_none.2 (.dcs (open'.append unfinished.unterminated unfinished.not_backslash)))

theorem strip_append_unfinished (unfinished : Unfinished tail) (bytes : Bytes) :
    stripTerminalQueries (bytes ++ tail) = stripTerminalQueries bytes ++ tail := by
  induction bytes using stripScanner.scan_induction with
  | stop bytes none =>
    rw [strip_stop none, strip_unfinished_append (nextStripped_eq_none.1 none) unfinished]
  | next bytes token rest read ih =>
    rw [strip_next (stripScanner.stable read tail), strip_next read, ih, List.append_assoc]

/-- The filter removes whole queries, in their places, and nothing else. -/
structure RemovesQueries (bytes : Bytes) (tokens : List QueryToken) (tail : Bytes) : Prop where
  read : bytes = tokens.flatMap QueryToken.content ++ tail
  written : stripTerminalQueries bytes = (tokens.filter (¬·.isQuery)).flatMap QueryToken.content ++ tail
  removed : ∀ token ∈ tokens, token.isQuery → CompleteQuery token.content
  unfinished : Unfinished tail

theorem removes_queries (bytes : Bytes) : (∃ tokens tail, RemovesQueries bytes tokens tail) ∧
    ∀ tail, Unfinished tail → stripTerminalQueries (bytes ++ tail) = stripTerminalQueries bytes ++ tail := by
  refine ⟨⟨_, _, (stripScanner.scan_content bytes).symm, stripTerminalQueries_eq bytes, ?_,
    nextStripped_eq_none.1 (stripScanner.next_left bytes)⟩,
    fun tail unfinished => strip_append_unfinished unfinished bytes⟩
  intro token there query
  obtain ⟨text, rest, read⟩ := stripScanner.mem_scan there
  obtain ⟨content, isQuery⟩ := token
  cases query
  exact completeQuery_of_read read

/-! What the filter puts out can be a query again: one that stood inside of a sequence that is kept, or one that
comes together when the queries between its bytes are removed. -/

/-- The text begins with the bytes, once the queries are cut out of it. -/
inductive Spliced : Bytes → Bytes → Prop
  | done (text : Bytes) : Spliced [] text
  | cut {query word text : Bytes} : CompleteQuery query → Spliced word text → Spliced word (query ++ text)
  | byte {byte : UInt8} {word text : Bytes} : (∀ query, CompleteQuery query → ¬query <+: byte :: text) →
      Spliced word text → Spliced (byte :: word) (byte :: text)

def Unasked (bytes : Bytes) : Prop := ∀ query, CompleteQuery query → ¬query <:+: bytes

/-- What the filter keeps at the head of a text has no query in it, and if it is an escape for itself, no query comes
together behind it. -/
structure LeavesNothing (text : Bytes) : Prop where
  unfinished : Unfinished text → Unasked text
  kept : ∀ {content rest}, nextStripped text = some (⟨content, false⟩, rest) → Unasked content
  alone : ∀ {rest}, nextStripped text = some (⟨[0x1b], false⟩, rest) →
    ∀ word, CompleteQuery (0x1b :: word) → ¬Spliced word rest

def LeavesNothingFrom (bytes : Bytes) : Prop := ∀ text, stripScanner.Visits bytes text → LeavesNothing text

theorem CompleteQuery.starts (complete : CompleteQuery query) : ∃ introducer behind, query = 0x1b :: introducer :: behind := by
  cases complete with
  | csi => exact ⟨_, _, rfl⟩
  | osc => exact ⟨_, _, rfl⟩
  | dcs => exact ⟨_, _, rfl⟩

theorem read_of_prefix (complete : CompleteQuery query) (here : query <+: bytes) :
    ∃ rest, bytes = query ++ rest ∧ nextStripped bytes = some (⟨query, true⟩, rest) := by
  obtain ⟨rest, rfl⟩ := here
  exact ⟨rest, rfl, complete.read rest⟩

theorem prefix_of_finished {more : Bytes} (finished : ¬Unfinished bytes) (complete : CompleteQuery query)
    (here : query <+: bytes ++ more) : query <+: bytes := by
  cases read : nextStripped bytes with
  | none => exact absurd (nextStripped_eq_none.1 read) finished
  | some found =>
    obtain ⟨⟨content, isQuery⟩, rest⟩ := found
    obtain ⟨rest', _, read'⟩ := read_of_prefix complete here
    cases (stripScanner.stable read more).symm.trans read'
    exact ⟨rest, (stripScanner.reads read).symm⟩

/-- What the filter keeps at once: an escape, another byte, or a sequence with its end. -/
inductive KeptPiece : Bytes → Prop
  | escape : KeptPiece [0x1b]
  | plain {byte : UInt8} : byte ≠ 0x1b → KeptPiece [byte]
  | csi {behind : Bytes} : 0x1b ∉ behind → ¬Unfinished (0x1b :: behind) → KeptPiece (0x1b :: behind)
  | string {front terminator : Bytes} : IsTerminator terminator → KeptPiece (front ++ terminator)

theorem not_escape_of_csi {params intermediates : Bytes} {finalByte : UInt8} (isParams : ∀ byte ∈ params, isParam byte)
    (areIntermediate : ∀ byte ∈ intermediates, isIntermediate byte) (final : isFinal finalByte) :
    0x1b ∉ (0x5b :: (params ++ intermediates ++ [finalByte]) : Bytes) := by
  intro there
  rw [List.mem_cons, List.mem_append, List.mem_append, List.mem_singleton] at there
  obtain same | (param | between) | same := there
  · cases same
  · exact absurd (isParams _ param) (by decide)
  · exact absurd (areIntermediate _ between) (by decide)
  · rw [← same] at final
    cases final

theorem keptPiece_csi {params intermediates : Bytes} {finalByte : UInt8} (isParams : ∀ byte ∈ params, isParam byte)
    (areIntermediate : ∀ byte ∈ intermediates, isIntermediate byte) (final : isFinal finalByte) :
    KeptPiece (0x1b :: 0x5b :: (params ++ intermediates ++ [finalByte])) := by
  refine .csi (not_escape_of_csi isParams areIntermediate final) fun unfinished => ?_
  have found : parseAt (0x1b :: 0x5b :: (params ++ intermediates ++ [finalByte])) = _ :=
    parseCsi_of isParams areIntermediate final []
  have read := nextStripped_of_parseAt (by simp) found
  rw [nextStripped_eq_none.2 unfinished] at read
  cases read

theorem keptPiece_string {introducer : UInt8} (payload : Bytes) (ends : IsTerminator terminator) :
    KeptPiece (0x1b :: introducer :: payload ++ terminator) := .string ends

theorem keptPiece_of_read (read : nextStripped bytes = some (⟨content, false⟩, rest)) : KeptPiece content := by
  unfold nextStripped at read
  split at read
  · cases read
  · obtain ⟨parsed, found, same⟩ := Option.map_eq_some_iff.1 read
    have same : parsed.sequence = content := congrArg (·.1.content) same
    rw [← same]
    clear read same
    unfold parseAt at found
    split at found
    · cases found
    · rename_i byte rest _
      split at found
      · unfold parseCsi at found
        split at found
        · cases found
        · rename_i after _ _ finalByte behind split
          split at found
          · cases found
            exact .escape
          · rename_i final
            cases found
            rw [Decidable.not_not] at final
            have isParams : ∀ byte ∈ after.takeWhile isParam, isParam byte := fun _ => List.mem_takeWhile_imp
            exact keptPiece_csi isParams (fun _ => List.mem_takeWhile_imp) final
      · obtain ⟨⟨payload, terminator, after⟩, split, same⟩ := Option.map_eq_some_iff.1 found
        cases same
        exact keptPiece_string payload (splitString_terminator split)
      · obtain ⟨⟨payload, terminator, after⟩, split, same⟩ := Option.map_eq_some_iff.1 found
        cases same
        exact keptPiece_string payload (splitString_terminator split)
      · cases found
        by_cases escape : byte = 0x1b
        · rw [escape]
          exact .escape
        · exact .plain escape

theorem KeptPiece.finished {piece : Bytes} (kept : KeptPiece content) (ne : content ≠ [0x1b])
    (suffix : piece <:+ content) (some : piece ≠ []) : ¬Unfinished piece := by
  intro unfinished
  obtain empty | ⟨behind, escape⟩ := unfinished.starts
  · exact some empty
  cases kept with
  | escape => exact ne rfl
  | plain plain =>
    have there := suffix.subset (escape ▸ List.mem_cons_self)
    exact plain (List.mem_singleton.1 there).symm
  | csi plain finished =>
    cases List.suffix_cons_iff.1 suffix with
    | inl whole => exact finished (whole ▸ unfinished)
    | inr inside => exact plain (inside.subset (escape ▸ List.mem_cons_self))
  | @string front terminator ends =>
    have open' := unfinished.unterminated
    cases List.suffix_or_suffix_of_suffix suffix (List.suffix_append front terminator) with
    | inl inside =>
      rw [escape] at inside
      cases ends with
      | inl bell =>
        rw [bell] at inside
        simp [List.suffix_cons_iff] at inside
      | inr backslash =>
        rw [backslash] at inside
        simp [List.suffix_cons_iff] at inside
        rw [escape, inside] at open'
        exact open'.2 (List.infix_refl _)
    | inr outside =>
      cases ends with
      | inl bell => exact open'.1 (outside.subset (bell ▸ List.mem_singleton_self _))
      | inr backslash => exact open'.2 (backslash ▸ outside.isInfix)

theorem CompleteQuery.ne_nil (complete : CompleteQuery query) : query ≠ [] := by
  obtain ⟨introducer, behind, rfl⟩ := complete.starts
  exact List.cons_ne_nil _ _

theorem unasked_cons : Unasked (byte :: bytes) ↔
    (∀ query, CompleteQuery query → ¬query <+: byte :: bytes) ∧ Unasked bytes := by
  constructor
  · intro unasked
    exact ⟨fun query complete here => unasked query complete here.isInfix,
      fun query complete inside => unasked query complete (inside.trans (List.suffix_cons _ _).isInfix)⟩
  · rintro ⟨none, unasked⟩ query complete inside
    cases List.infix_cons_iff.1 inside with
    | inl here => exact none query complete here
    | inr behind => exact unasked query complete behind

theorem unasked_append {out : Bytes} : Unasked (content ++ out) ↔
    (∀ piece, piece ≠ [] → piece <:+ content → ∀ query, CompleteQuery query → ¬query <+: piece ++ out) ∧ Unasked out := by
  induction content with
  | nil =>
    refine (and_iff_right fun piece some suffix => ?_).symm
    exact absurd (List.suffix_nil.1 suffix) some
  | cons byte content ih =>
    rw [List.cons_append, unasked_cons, ih, ← and_assoc]
    refine and_congr_left fun _ => ⟨fun both piece some suffix => ?_, fun all => ⟨?_, fun piece some suffix => ?_⟩⟩
    · cases List.suffix_cons_iff.1 suffix with
      | inl whole => exact whole ▸ both.1
      | inr inside => exact both.2 piece some inside
    · exact all (byte :: content) (List.cons_ne_nil _ _) (List.suffix_refl _)
    · exact all piece some (suffix.trans (List.suffix_cons _ _))

theorem unasked_iff_pieces : Unasked content ↔
    ∀ piece, piece ≠ [] → piece <:+ content → ∀ query, CompleteQuery query → ¬query <+: piece := by
  have nothing : Unasked [] := fun query complete inside => complete.ne_nil (List.infix_nil.1 inside)
  have split : Unasked (content ++ []) ↔ _ ∧ Unasked [] := unasked_append
  simpa [nothing] using split

theorem KeptPiece.unasked_append {out : Bytes} (kept : KeptPiece content) (ne : content ≠ [0x1b]) :
    Unasked (content ++ out) ↔ Unasked content ∧ Unasked out := by
  rw [Daemon.unasked_append, @unasked_iff_pieces content]
  refine and_congr_left fun _ => ⟨fun none piece some suffix query complete here => ?_,
    fun none piece some suffix query complete here => ?_⟩
  · exact none piece some suffix query complete (here.trans (List.prefix_append _ _))
  · exact none piece some suffix query complete (prefix_of_finished (kept.finished ne suffix some) complete here)

theorem unasked_escape_append {out : Bytes} : Unasked (0x1b :: out) ↔
    (∀ word, CompleteQuery (0x1b :: word) → ¬word <+: out) ∧ Unasked out := by
  rw [unasked_cons]
  refine and_congr_left fun _ => ⟨fun none word complete here => ?_, fun none query complete here => ?_⟩
  · exact none (0x1b :: word) complete (List.cons_prefix_cons.2 ⟨rfl, here⟩)
  · obtain ⟨introducer, behind, rfl⟩ := complete.starts
    exact none _ complete (List.cons_prefix_cons.1 here).2

theorem spliced_cons {word text : Bytes} : Spliced (byte :: word) text ↔
    (∃ query rest, CompleteQuery query ∧ text = query ++ rest ∧ Spliced (byte :: word) rest) ∨
      ∃ rest, text = byte :: rest ∧ (∀ query, CompleteQuery query → ¬query <+: text) ∧ Spliced word rest := by
  constructor
  · intro spliced
    cases spliced with
    | cut complete spliced => exact .inl ⟨_, _, complete, rfl, spliced⟩
    | byte none spliced => exact .inr ⟨_, rfl, none, spliced⟩
  · rintro (⟨query, rest, complete, rfl, spliced⟩ | ⟨rest, rfl, none, spliced⟩)
    · exact .cut complete spliced
    · exact .byte none spliced

theorem spliced_append {out text : Bytes}
    (none : ∀ piece, piece ≠ [] → piece <:+ content → ∀ query, CompleteQuery query → ¬query <+: piece ++ text)
    (behind : ∀ word, Spliced word text ↔ word <+: out) (word : Bytes) :
    Spliced word (content ++ text) ↔ word <+: content ++ out := by
  induction content generalizing word with
  | nil => exact behind word
  | cons first content ih =>
    have rest := ih fun piece some suffix => none piece some (suffix.trans (List.suffix_cons _ _))
    have here := none (first :: content) (List.cons_ne_nil _ _) (List.suffix_refl _)
    cases word with
    | nil => exact iff_of_true (.done _) List.nil_prefix
    | cons byte word =>
      rw [spliced_cons, List.cons_append, List.cons_append, List.cons_prefix_cons, ← rest word]
      constructor
      · rintro (⟨query, others, complete, split, _⟩ | ⟨others, split, _, spliced⟩)
        · exact absurd ⟨others, split.symm⟩ (here query complete)
        · cases split
          exact ⟨rfl, spliced⟩
      · rintro ⟨rfl, spliced⟩
        exact .inr ⟨_, rfl, here, spliced⟩

theorem spliced_query {word : Bytes} (read : nextStripped bytes = some (⟨query, true⟩, rest)) :
    Spliced word bytes ↔ Spliced word rest := by
  have complete := completeQuery_of_read read
  have split : bytes = query ++ rest := stripScanner.reads read
  cases word with
  | nil => exact iff_of_true (.done _) (.done _)
  | cons byte word =>
    rw [spliced_cons]
    constructor
    · rintro (⟨query', rest', complete', same, spliced⟩ | ⟨rest', _, none, _⟩)
      · rw [same] at read
        cases (complete'.read rest').symm.trans read
        exact spliced
      · exact absurd ⟨rest, split.symm⟩ (none query complete)
    · intro spliced
      exact .inl ⟨query, rest, complete, split, spliced⟩

theorem leavesNothingFrom_stop (none : nextStripped bytes = none) : LeavesNothingFrom bytes ↔ Unasked bytes := by
  constructor
  · intro nothing
    exact (nothing bytes (.here bytes)).unfinished (nextStripped_eq_none.1 none)
  · intro unasked text visits
    cases visits with
    | here =>
      refine ⟨fun _ => unasked, fun read => ?_, fun read => ?_⟩
      · cases none.symm.trans read
      · cases none.symm.trans read
    | next read _ => cases none.symm.trans read

theorem leavesNothingFrom_next {token : QueryToken} (read : nextStripped bytes = some (token, rest)) :
    LeavesNothingFrom bytes ↔ LeavesNothing bytes ∧ LeavesNothingFrom rest := by
  constructor
  · intro nothing
    exact ⟨nothing bytes (.here bytes), fun text visits => nothing text (.next read visits)⟩
  · rintro ⟨here, behind⟩ text visits
    cases visits.of_next read with
    | inl same => exact same ▸ here
    | inr visits => exact behind text visits

theorem leavesNothing_query (read : nextStripped bytes = some (⟨query, true⟩, rest)) : LeavesNothing bytes := by
  refine ⟨fun unfinished => ?_, fun read' => ?_, fun read' => ?_⟩
  · cases (nextStripped_eq_none.2 unfinished).symm.trans read
  · cases read.symm.trans read'
  · cases read.symm.trans read'

theorem leavesNothing_kept (read : nextStripped bytes = some (⟨content, false⟩, rest)) :
    LeavesNothing bytes ↔ Unasked content ∧
      (content = [0x1b] → ∀ word, CompleteQuery (0x1b :: word) → ¬Spliced word rest) := by
  constructor
  · intro nothing
    exact ⟨nothing.kept read, fun escape => nothing.alone (escape ▸ read)⟩
  · rintro ⟨unasked, alone⟩
    refine ⟨fun unfinished => ?_, fun read' => ?_, fun read' => ?_⟩
    · cases (nextStripped_eq_none.2 unfinished).symm.trans read
    · cases read.symm.trans read'
      exact unasked
    · cases read.symm.trans read'
      exact alone rfl

theorem spliced_iff (nothing : LeavesNothingFrom bytes) (word : Bytes) :
    Spliced word bytes ↔ word <+: stripTerminalQueries bytes := by
  induction bytes using stripScanner.scan_induction generalizing word with
  | stop bytes none =>
    have unasked := (leavesNothingFrom_stop none).1 nothing
    have nil (word : Bytes) : Spliced word [] ↔ word <+: [] := by
      cases word with
      | nil => exact iff_of_true (.done _) List.nil_prefix
      | cons byte word =>
        rw [spliced_cons]
        refine iff_of_false ?_ (by simp)
        rintro (⟨query, rest, complete, split, _⟩ | ⟨rest, split, _⟩)
        · exact complete.ne_nil (List.append_eq_nil_iff.1 split.symm).1
        · cases split
    rw [strip_stop none]
    have spelled : Spliced word (bytes ++ []) ↔ word <+: bytes ++ [] :=
      spliced_append (by simpa using unasked_iff_pieces.1 unasked) nil word
    rwa [List.append_nil] at spelled
  | next bytes token rest read ih =>
    obtain ⟨content, isQuery⟩ := token
    obtain ⟨here, behind⟩ := (leavesNothingFrom_next read).1 nothing
    rw [strip_next read]
    cases isQuery with
    | true =>
      rw [spliced_query read]
      exact ih behind word
    | false =>
      have split : bytes = content ++ rest := stripScanner.reads read
      rw [split]
      refine spliced_append (fun piece some suffix query complete prefix' => ?_) (ih behind) word
      have unasked := here.kept read
      by_cases escape : content = [0x1b]
      · have whole : piece = [0x1b] := by
          rw [escape] at suffix
          simpa [List.suffix_cons_iff, some] using suffix
        rw [whole, ← escape, ← split] at prefix'
        obtain ⟨_, _, read'⟩ := read_of_prefix complete prefix'
        cases read.symm.trans read'
      · have finished := (keptPiece_of_read read).finished escape suffix some
        exact unasked_iff_pieces.1 unasked piece some suffix query complete (prefix_of_finished finished complete prefix')

theorem unasked_strip_iff : Unasked (stripTerminalQueries bytes) ↔ LeavesNothingFrom bytes := by
  induction bytes using stripScanner.scan_induction with
  | stop bytes none => rw [strip_stop none, leavesNothingFrom_stop none]
  | next bytes token rest read ih =>
    obtain ⟨content, isQuery⟩ := token
    rw [strip_next read, leavesNothingFrom_next read]
    cases isQuery with
    | true => exact ih.trans (and_iff_right (leavesNothing_query read)).symm
    | false =>
      rw [leavesNothing_kept read]
      by_cases escape : content = [0x1b]
      · rw [escape]
        change Unasked (0x1b :: stripTerminalQueries rest) ↔ _
        rw [unasked_escape_append, ih]
        refine and_congr_left fun behind => ?_
        have unasked : Unasked [0x1b] := by
          rw [unasked_iff_pieces]
          intro piece some suffix query complete here
          obtain ⟨introducer, after, rfl⟩ := complete.starts
          have le := (here.isInfix.trans suffix.isInfix).length_le
          simp at le
        simp only [unasked, true_and, forall_const, spliced_iff behind]
      · change Unasked (content ++ stripTerminalQueries rest) ↔ _
        rw [(keptPiece_of_read read).unasked_append escape, ih]
        simp [escape]

theorem strip_of_unasked (unasked : Unasked bytes) : stripTerminalQueries bytes = bytes := by
  induction bytes using stripScanner.scan_induction with
  | stop bytes none => exact strip_stop none
  | next bytes token rest read ih =>
    have split : bytes = token.content ++ rest := stripScanner.reads read
    obtain ⟨content, isQuery⟩ := token
    cases isQuery with
    | true =>
      have inside : content <:+: bytes := List.IsPrefix.isInfix ⟨rest, split.symm⟩
      exact absurd inside (unasked content (completeQuery_of_read read))
    | false =>
      rw [split] at unasked
      rw [strip_next read, ih (unasked_append.1 unasked).2]
      exact split.symm

/-- A replay of what the filter puts out is not answered, and filtering it again changes nothing. -/
structure Silences (bytes : Bytes) : Prop where
  unasked : ∀ query, CompleteQuery query → ¬query <:+: stripTerminalQueries bytes
  idempotent : stripTerminalQueries (stripTerminalQueries bytes) = stripTerminalQueries bytes

theorem silences_iff (bytes : Bytes) : Silences bytes ↔ LeavesNothingFrom bytes := by
  rw [← unasked_strip_iff]
  exact ⟨Silences.unasked, fun unasked => ⟨unasked, strip_of_unasked unasked⟩⟩

/-- `ESC [ ESC [c c`: the query is removed, and another one is left. -/
theorem query_joined : stripTerminalQueries [0x1b, 0x5b, 0x1b, 0x5b, 0x63, 0x63] = [0x1b, 0x5b, 0x63] ∧
    CompleteQuery [0x1b, 0x5b, 0x63] ∧ ¬Silences [0x1b, 0x5b, 0x1b, 0x5b, 0x63, 0x63] := by
  have joined : stripTerminalQueries [0x1b, 0x5b, 0x1b, 0x5b, 0x63, 0x63] = [0x1b, 0x5b, 0x63] := by decide
  refine ⟨joined, ?_, fun silences => ?_⟩
  · exact @CompleteQuery.csi [] [] 0x63 (by simp) (by simp) (by decide) (by decide)
  · have again := silences.idempotent
    rw [joined] at again
    exact absurd again (by decide)

end VibeLink.Daemon
