import VibeLink.Binary.Unicode
import VibeLink.Coordinator.Json
import VibeLink.Lexing.Jsonc
import Mathlib.Data.List.TakeWhile

/-! JSON with comments and trailing commas (`parse_jsonc` in `app/agent_hooks.rs`).  `serde_json::from_slice` is given. -/

namespace VibeLink.Agents

open Coordinator (Json)
open Lexing.Jsonc

/-! ### The passes over a text -/

/-- Inside of a block comment: the line feeds that are kept, and what follows it. -/
def blockComment : Bytes → Option (Bytes × Bytes)
  | byte :: next :: rest =>
    let kept := if byte = newline then [newline] else []
    if byte = star ∧ next = slash then some (kept, rest)
    else (blockComment (next :: rest)).map fun after => (kept ++ after.1, after.2)
  | _ => none

theorem length_of_blockComment {text : Bytes} {after : Bytes × Bytes} (closed : blockComment text = some after) :
    after.2.length < text.length := by
  induction text generalizing after with
  | nil => cases closed
  | cons byte text ih =>
    cases text with
    | nil => cases closed
    | cons next rest =>
      rw [blockComment] at closed
      split at closed
      · cases closed
        simp only [List.length_cons]
        omega
      · have ⟨inner, inside, is⟩ := Option.map_eq_some_iff.mp closed
        have lt := ih inside
        rw [← is]
        exact Nat.lt_succ_of_lt lt

/-- `strip_json_comments`, with `in_string` and `escaped` -/
def stripJsonComments (inString escaped : Bool) : Bytes → Except String Bytes
  | [] => .ok []
  | byte :: rest =>
    if inString then
      if escaped then (stripJsonComments true false rest).map (byte :: ·)
      else if byte = backslash then (stripJsonComments true true rest).map (byte :: ·)
      else if byte = quote then (stripJsonComments false false rest).map (byte :: ·)
      else (stripJsonComments true false rest).map (byte :: ·)
    else if byte = quote then (stripJsonComments true escaped rest).map (byte :: ·)
    else if byte = slash ∧ rest.head? = some slash then
      stripJsonComments false escaped (rest.tail.dropWhile (· != newline))
    else if byte = slash ∧ rest.head? = some star then
      match _closed : blockComment rest.tail with
      | none => .error "unterminated JSONC block comment"
      | some after => (stripJsonComments false escaped after.2).map (after.1 ++ ·)
    else (stripJsonComments false escaped rest).map (byte :: ·)
termination_by text => text.length
decreasing_by
  all_goals simp only [List.length_cons]
  all_goals try omega
  · have le := (List.dropWhile_suffix (fun byte => byte != newline) (l := rest.tail)).length_le
    rw [List.length_tail] at le
    omega
  · have lt := length_of_blockComment ‹_›
    rw [List.length_tail] at lt
    omega

/-- `u8::is_ascii_whitespace` -/
def isAsciiWhitespace (byte : UInt8) : Bool := byte = 32 || byte = 9 || byte = newline || byte = 12 || byte = 13

/-- `strip_trailing_json_commas`, with `in_string` and `escaped` -/
def stripTrailingJsonCommas (inString escaped : Bool) : Bytes → Bytes
  | [] => []
  | byte :: rest =>
    if inString then
      if escaped then byte :: stripTrailingJsonCommas true false rest
      else if byte = backslash then byte :: stripTrailingJsonCommas true true rest
      else if byte = quote then byte :: stripTrailingJsonCommas false false rest
      else byte :: stripTrailingJsonCommas true false rest
    else if byte = quote then byte :: stripTrailingJsonCommas true escaped rest
    else if byte = comma && (rest.dropWhile isAsciiWhitespace).head?.any isClose then stripTrailingJsonCommas false escaped rest
    else byte :: stripTrailingJsonCommas false escaped rest

def parseJsonc (fromSlice : Bytes → Except String Json) (input : Bytes) : Except String Json := do
  let withoutComments ← stripJsonComments false false input
  fromSlice (stripTrailingJsonCommas false false withoutComments)

/-! ### The texts of a value -/

def hexValue (byte : UInt8) : Option Nat :=
  let n := byte.toNat
  if 48 ≤ n ∧ n ≤ 57 then some (n - 48)
  else if 65 ≤ n ∧ n ≤ 70 then some (n - 55)
  else if 97 ≤ n ∧ n ≤ 102 then some (n - 87)
  else none

/-- `\uXXXX` -/
def SpellsUnit (unit : Nat) (text : Bytes) : Prop :=
  ∃ digits values, digits.map hexValue = List.map some values ∧ values.length = 4 ∧
    values.foldl (fun n value => n * 16 + value) 0 = unit ∧ text = backslash :: 117 :: digits

/-- The ways to write a character of a string. -/
inductive SpellsChar (c : Char) : Bytes → Prop
  | plain : 0x20 ≤ c.toNat → c ≠ '"' → c ≠ '\\' → SpellsChar c (String.utf8EncodeChar c)
  | short {byte : UInt8} : (c, byte) ∈ [('"', quote), ('\\', backslash), ('/', slash), ('\x08', 98), ('\x0c', 102), ('\n', 110),
      ('\r', 114), ('\t', 116)] → SpellsChar c [backslash, byte]
  | unit {text : Bytes} : SpellsUnit c.toNat text → SpellsChar c text
  | pair {high low : Bytes} : 0x10000 ≤ c.toNat → SpellsUnit (0xD800 + (c.toNat - 0x10000) / 0x400) high →
      SpellsUnit (0xDC00 + (c.toNat - 0x10000) % 0x400) low → SpellsChar c (high ++ low)

inductive Spells : List Char → Bytes → Prop
  | nil : Spells [] []
  | cons {c : Char} {chars : List Char} {first rest : Bytes} : SpellsChar c first → Spells chars rest →
      Spells (c :: chars) (first ++ rest)

def Digits (text : Bytes) : Prop := text ≠ [] ∧ ∀ byte ∈ text, 48 ≤ byte ∧ byte ≤ 57

/-- `-? (0 | [1-9][0-9]*) (. [0-9]+)? ([eE] [+-]? [0-9]+)?` -/
def Numeral (text : Bytes) : Prop :=
  ∃ sign whole fraction exponent, text = sign ++ whole ++ fraction ++ exponent ∧ (sign = [] ∨ sign = [45]) ∧
    Digits whole ∧ (whole.head? = some 48 → whole = [48]) ∧ (fraction = [] ∨ ∃ digits, Digits digits ∧ fraction = 46 :: digits) ∧
    (exponent = [] ∨ ∃ e sign digits, (e = 69 ∨ e = 101) ∧ (sign = [] ∨ sign = [43] ∨ sign = [45]) ∧ Digits digits ∧
      exponent = e :: sign ++ digits)

def word (text : String) : List Token := [.word (Binary.utf8 text.toList)]

/-- In brackets, where the last element may be followed by a comma. -/
def Enclosed (trailing : Prop) (opening closing : UInt8) (parts : List (List Token)) (tokens : List Token) : Prop :=
  ∃ ending, (ending = [] ∨ trailing ∧ ending = [commaToken]) ∧
    tokens = .mark opening :: (separated parts ++ (ending ++ [.mark closing]))

mutual

def Reads (trailing : Prop) : Json → List Token → Prop
  | .null, tokens => tokens = word "null"
  | .bool b, tokens => tokens = word (if b then "true" else "false")
  | .num literal, tokens => Numeral (Binary.utf8 literal.toList) ∧ tokens = word literal
  | .str s, tokens => ∃ inside, Spells s.toList inside ∧ tokens = [.quoted inside]
  | .arr items, tokens => ∃ parts, ReadsItems trailing items parts ∧ Enclosed trailing 91 93 parts tokens
  | .obj fields, tokens => ∃ parts, ReadsFields trailing fields parts ∧ Enclosed trailing 123 125 parts tokens

def ReadsItems (trailing : Prop) : List Json → List (List Token) → Prop
  | [], parts => parts = []
  | value :: items, parts => ∃ first rest, Reads trailing value first ∧ ReadsItems trailing items rest ∧ parts = first :: rest

def ReadsFields (trailing : Prop) : List (String × Json) → List (List Token) → Prop
  | [], parts => parts = []
  | (key, value) :: fields, parts => ∃ inside first rest, Spells key.toList inside ∧ Reads trailing value first ∧
      ReadsFields trailing fields rest ∧ parts = (.quoted inside :: .mark 58 :: first) :: rest

end

def RendersJsonc (value : Json) (text : Bytes) : Prop := ∃ tokens, Reads True value tokens ∧ Spaced Gap LastGap tokens text

def Renders (value : Json) (text : Bytes) : Prop := ∃ tokens, Reads False value tokens ∧ Spaced Blanks Blanks tokens text

/-! ### The first pass -/

section Comments

variable {byte : UInt8} {text comment rest gap inside : Bytes} {token : Token} {tokens : List Token}

theorem map_map {α β γ : Type} (result : Except String α) (f : α → β) (g : β → γ) :
    (result.map f).map g = result.map fun a => g (f a) := by
  cases result <;> rfl

theorem stripJsonComments_inside (within : Inside inside) (rest : Bytes) :
    stripJsonComments true false (inside ++ quote :: rest) =
      (stripJsonComments false false rest).map (inside ++ quote :: ·) := by
  induction within with
  | nil =>
    rw [List.nil_append, stripJsonComments, if_pos rfl, if_neg Bool.false_ne_true, if_neg (by decide), if_pos rfl]
    rfl
  | plain byte no no' _ ih =>
    rw [List.cons_append, stripJsonComments, if_pos rfl, if_neg Bool.false_ne_true, if_neg no', if_neg no, ih, map_map]
    rfl
  | escape byte _ ih =>
    rw [List.cons_append, stripJsonComments, if_pos rfl, if_neg Bool.false_ne_true, if_pos rfl, List.cons_append,
      stripJsonComments, if_pos rfl, if_pos rfl, ih, map_map, map_map]
    rfl

theorem stripJsonComments_plain (plain : ∀ byte ∈ text, byte ≠ quote ∧ byte ≠ slash) (rest : Bytes) :
    stripJsonComments false false (text ++ rest) = (stripJsonComments false false rest).map (text ++ ·) := by
  induction text with
  | nil => exact (congrFun Except.map_id _).symm
  | cons byte text ih =>
    have ⟨no, no'⟩ := plain byte List.mem_cons_self
    rw [List.cons_append, stripJsonComments, if_neg Bool.false_ne_true, if_neg no, if_neg (fun and => no' and.1),
      if_neg (fun and => no' and.1), ih fun byte member => plain byte (List.mem_cons_of_mem _ member), map_map]
    rfl

theorem blockComment_append (open' : ¬[star, slash] <:+: comment) (rest : Bytes) :
    blockComment (comment ++ star :: slash :: rest) = some (comment.filter (· = newline), rest) := by
  induction comment with
  | nil => rfl
  | cons byte comment ih =>
    have after := ih fun within => open' (within.trans (List.infix_cons (List.infix_refl _)))
    cases comment with
    | nil =>
      rw [List.cons_append, List.nil_append, blockComment, if_neg fun and => absurd and.2 (by decide)]
      rw [List.nil_append] at after
      rw [after]
      by_cases feed : byte = newline <;> simp [feed]
    | cons next comment =>
      rw [List.cons_append] at after
      rw [List.cons_append, List.cons_append, blockComment, if_neg, after]
      · by_cases feed : byte = newline <;> simp [feed]
      · intro ⟨is, is'⟩
        exact open' (is ▸ is' ▸ ⟨[], comment, rfl⟩)

theorem stripJsonComments_line (open' : newline ∉ comment) (rest : Bytes) :
    stripJsonComments false false (slash :: slash :: (comment ++ rest)) =
      stripJsonComments false false (rest.dropWhile (· != newline)) := by
  rw [stripJsonComments, if_neg Bool.false_ne_true, if_neg (by decide), if_pos ⟨rfl, rfl⟩, List.tail_cons,
    List.dropWhile_append_of_pos]
  intro byte member
  rw [bne_iff_ne]
  exact fun feed => open' (feed ▸ member)

theorem stripJsonComments_block (open' : ¬[star, slash] <:+: comment) (rest : Bytes) :
    stripJsonComments false false (slash :: star :: (comment ++ star :: slash :: rest)) =
      (stripJsonComments false false rest).map (comment.filter (· = newline) ++ ·) := by
  rw [stripJsonComments, if_neg Bool.false_ne_true, if_neg (by decide),
    if_neg (fun and => absurd and.2 (by decide : some star ≠ some slash)), if_pos ⟨rfl, rfl⟩]
  have closed := blockComment_append open' rest
  split
  · rename_i none
    rw [List.tail_cons, closed] at none
    cases none
  · rename_i after some
    rw [List.tail_cons, closed] at some
    cases some
    rfl

theorem blanks_filter (comment : Bytes) : Blanks (comment.filter (· = newline)) := by
  intro byte member
  have feed := (List.mem_filter.mp member).2
  exact .inr (.inr (.inl (of_decide_eq_true feed)))

theorem blanks_append {more : Bytes} (blanks : Blanks gap) (blanks' : Blanks more) : Blanks (gap ++ more) :=
  fun byte member => (List.mem_append.mp member).elim (blanks byte) (blanks' byte)

theorem ne_of_isBlank (blank : IsBlank byte) : byte ≠ quote ∧ byte ≠ slash ∧ byte ≠ comma ∧ isAsciiWhitespace byte = true := by
  rcases blank with is | is | is | is <;> subst is <;> decide

theorem stripJsonComments_gap (between : Gap gap) : ∃ kept, Blanks kept ∧ ∀ rest,
    stripJsonComments false false (gap ++ rest) = (stripJsonComments false false rest).map (kept ++ ·) := by
  induction between with
  | nil => exact ⟨[], by simp [Blanks], fun rest => (congrFun Except.map_id _).symm⟩
  | @blank byte gap blank _ ih =>
    have ⟨kept, blanks, keeps⟩ := ih
    have ⟨no, no', _⟩ := ne_of_isBlank blank
    refine ⟨byte :: kept, fun other member => ?_, fun rest => ?_⟩
    · cases member with
      | head => exact blank
      | tail _ member => exact blanks other member
    · have one := stripJsonComments_plain (List.forall_mem_singleton.mpr ⟨no, no'⟩) (gap ++ rest)
      rw [List.singleton_append] at one
      rw [List.cons_append, one, keeps, map_map]
      rfl
  | @line comment gap open' _ ih =>
    have ⟨kept, blanks, keeps⟩ := ih
    have feed : Blanks [newline] := List.forall_mem_singleton.mpr (.inr (.inr (.inl rfl)))
    refine ⟨newline :: kept, blanks_append feed blanks, fun rest => ?_⟩
    have one : stripJsonComments false false ([newline] ++ (gap ++ rest)) = _ :=
      stripJsonComments_plain (List.forall_mem_singleton.mpr ⟨by decide, by decide⟩) (gap ++ rest)
    rw [List.singleton_append] at one
    rw [List.cons_append, List.cons_append, List.append_assoc, stripJsonComments_line open', List.cons_append,
      List.dropWhile_cons_of_neg (by simp), one, keeps, map_map]
    rfl
  | @block comment gap open' _ ih =>
    have ⟨kept, blanks, keeps⟩ := ih
    refine ⟨_ ++ kept, blanks_append (blanks_filter comment) blanks, fun rest => ?_⟩
    rw [List.cons_append, List.cons_append, List.append_assoc, List.cons_append, List.cons_append,
      stripJsonComments_block open', keeps, map_map]
    congr 1
    funext out
    exact (List.append_assoc _ _ _).symm

theorem stripJsonComments_last (last : LastGap gap) : ∃ kept, Blanks kept ∧ stripJsonComments false false gap = .ok kept := by
  cases last with
  | gap between =>
    have ⟨kept, blanks, keeps⟩ := stripJsonComments_gap between
    have whole := keeps []
    rw [List.append_nil, stripJsonComments] at whole
    exact ⟨kept, blanks, by rw [whole]; simp [Except.map]⟩
  | @line gap comment between open' =>
    have ⟨kept, blanks, keeps⟩ := stripJsonComments_gap between
    have line := stripJsonComments_line open' []
    rw [List.append_nil, List.dropWhile_nil, stripJsonComments] at line
    refine ⟨kept, blanks, ?_⟩
    rw [keeps, line]
    simp [Except.map]

theorem stripJsonComments_token (fits : token.Fits) (rest : Bytes) :
    stripJsonComments false false (token.text ++ rest) = (stripJsonComments false false rest).map (token.text ++ ·) := by
  cases token with
  | quoted inside =>
    show stripJsonComments false false (quote :: (inside ++ [quote]) ++ rest) = _
    rw [List.cons_append, List.append_assoc, stripJsonComments, if_neg Bool.false_ne_true, if_pos rfl,
      List.singleton_append, stripJsonComments_inside fits, map_map]
    congr 1
    funext out
    simp [Token.text]
  | word text =>
    refine stripJsonComments_plain (fun byte member => ?_) rest
    have plain := (fits.2 byte member).1
    exact ⟨fun is => plain (.inl is), fun is => plain (.inr (.inl is))⟩
  | mark byte => exact stripJsonComments_plain (List.forall_mem_singleton.mpr ⟨fits.1, fits.2.1⟩) rest

theorem stripJsonComments_spaced (spaced : Spaced Gap LastGap tokens text) :
    ∃ text', stripJsonComments false false text = .ok text' ∧ Spaced Blanks Blanks tokens text' := by
  induction spaced with
  | last last =>
    have ⟨kept, blanks, keeps⟩ := stripJsonComments_last last
    exact ⟨kept, keeps, .last blanks⟩
  | @token before rest token tokens gap fits _ ih =>
    have ⟨text', keeps, spaced⟩ := ih
    have ⟨kept, blanks, around⟩ := stripJsonComments_gap gap
    refine ⟨kept ++ (token.text ++ text'), ?_, .token blanks fits spaced⟩
    rw [around, stripJsonComments_token fits, keeps]
    rfl

end Comments

/-! ### The second pass -/

section Commas

variable {text rest gap inside : Bytes} {token : Token} {tokens : List Token}

theorem stripTrailingJsonCommas_inside (within : Inside inside) (rest : Bytes) :
    stripTrailingJsonCommas true false (inside ++ quote :: rest) =
      inside ++ quote :: stripTrailingJsonCommas false false rest := by
  induction within with
  | nil => rw [List.nil_append, stripTrailingJsonCommas, if_pos rfl, if_neg Bool.false_ne_true, if_neg (by decide), if_pos rfl]; rfl
  | plain byte no no' _ ih =>
    rw [List.cons_append, stripTrailingJsonCommas, if_pos rfl, if_neg Bool.false_ne_true, if_neg no', if_neg no, ih]
    rfl
  | escape byte _ ih =>
    rw [List.cons_append, stripTrailingJsonCommas, if_pos rfl, if_neg Bool.false_ne_true, if_pos rfl, List.cons_append,
      stripTrailingJsonCommas, if_pos rfl, if_pos rfl, ih]
    rfl

theorem stripTrailingJsonCommas_plain (plain : ∀ byte ∈ text, byte ≠ quote ∧ byte ≠ comma) (rest : Bytes) :
    stripTrailingJsonCommas false false (text ++ rest) = text ++ stripTrailingJsonCommas false false rest := by
  induction text with
  | nil => rfl
  | cons byte text ih =>
    have ⟨no, no'⟩ := plain byte List.mem_cons_self
    rw [List.cons_append, stripTrailingJsonCommas, if_neg Bool.false_ne_true, if_neg no, decide_eq_false no', Bool.false_and,
      if_neg Bool.false_ne_true, ih fun byte member => plain byte (List.mem_cons_of_mem _ member)]
    rfl

theorem stripTrailingJsonCommas_blanks (blanks : Blanks gap) (rest : Bytes) :
    stripTrailingJsonCommas false false (gap ++ rest) = gap ++ stripTrailingJsonCommas false false rest :=
  stripTrailingJsonCommas_plain (fun byte member =>
    have ⟨no, _, no', _⟩ := ne_of_isBlank (blanks byte member)
    ⟨no, no'⟩) rest

theorem isAsciiWhitespace_eq_false {byte : UInt8} (other : ¬IsBlank byte) (other' : byte ≠ 12) :
    isAsciiWhitespace byte = false := by
  simp only [IsBlank, not_or] at other
  simp [isAsciiWhitespace, other, other']

theorem head_spaced (spaced : Spaced Blanks Blanks tokens text) :
    (text.dropWhile isAsciiWhitespace).head?.any isClose = tokens.head?.any Token.isClose := by
  cases spaced with
  | last blanks =>
    rw [List.dropWhile_eq_nil_iff.mpr fun byte member => (ne_of_isBlank (blanks byte member)).2.2.2]
    rfl
  | @token before rest token tokens blanks fits spaced =>
    rw [List.dropWhile_append_of_pos fun byte member => (ne_of_isBlank (blanks byte member)).2.2.2]
    cases token with
    | quoted inside => rfl
    | mark byte =>
      show ((byte :: rest).dropWhile isAsciiWhitespace).head?.any isClose = _
      rw [List.dropWhile_cons_of_neg (by simp [isAsciiWhitespace_eq_false fits.2.2.1 fits.2.2.2])]
      rfl
    | word text =>
      cases text with
      | nil => exact absurd rfl fits.1
      | cons byte text =>
        have ⟨plain, other, other'⟩ := fits.2 byte List.mem_cons_self
        show ((byte :: (text ++ rest)).dropWhile isAsciiWhitespace).head?.any isClose = _
        rw [List.dropWhile_cons_of_neg (by simp [isAsciiWhitespace_eq_false other other'])]
        exact Bool.eq_false_iff.mpr fun close => plain (.inr (.inr (.inr close)))

theorem spaced_widen (blanks : Blanks gap) (spaced : Spaced Blanks Blanks tokens text) :
    Spaced Blanks Blanks tokens (gap ++ text) := by
  cases spaced with
  | last blanks' => exact .last (blanks_append blanks blanks')
  | token blanks' fits spaced =>
    rw [← List.append_assoc]
    exact .token (blanks_append blanks blanks') fits spaced

theorem stripTrailingJsonCommas_token (fits : token.Fits) (solid : token.isComma = false) (rest : Bytes) :
    stripTrailingJsonCommas false false (token.text ++ rest) = token.text ++ stripTrailingJsonCommas false false rest := by
  cases token with
  | quoted inside =>
    show stripTrailingJsonCommas false false (quote :: (inside ++ [quote]) ++ rest) = _
    rw [List.cons_append, List.append_assoc, stripTrailingJsonCommas, if_neg Bool.false_ne_true, if_pos rfl,
      List.singleton_append, stripTrailingJsonCommas_inside fits]
    simp [Token.text]
  | word text =>
    refine stripTrailingJsonCommas_plain (fun byte member => ?_) rest
    have plain := (fits.2 byte member).1
    exact ⟨fun is => plain (.inl is), fun is => plain (.inr (.inr (.inl is)))⟩
  | mark byte =>
    exact stripTrailingJsonCommas_plain (List.forall_mem_singleton.mpr ⟨fits.1, of_decide_eq_false solid⟩) rest

theorem stripTrailingJsonCommas_spaced (spaced : Spaced Blanks Blanks tokens text) :
    Spaced Blanks Blanks (withoutTrailing tokens) (stripTrailingJsonCommas false false text) := by
  induction spaced with
  | @last gap blanks =>
    have kept := stripTrailingJsonCommas_blanks blanks []
    rw [List.append_nil, stripTrailingJsonCommas, List.append_nil] at kept
    rw [kept]
    exact .last blanks
  | @token before rest token tokens blanks fits spaced ih =>
    rw [stripTrailingJsonCommas_blanks blanks]
    cases solid : token.isComma with
    | false =>
      rw [stripTrailingJsonCommas_token fits solid, withoutTrailing_solid solid]
      exact .token blanks fits ih
    | true =>
      have is : token = commaToken := by
        cases token with
        | mark byte => exact congrArg Token.mark (of_decide_eq_true solid)
        | quoted _ | word _ => cases solid
      rw [is]
      show Spaced _ _ _ (before ++ stripTrailingJsonCommas false false (comma :: rest))
      rw [stripTrailingJsonCommas, if_neg Bool.false_ne_true, if_neg (by decide), head_spaced spaced, decide_eq_true rfl,
        Bool.true_and]
      cases closes : tokens.head?.any Token.isClose with
      | true =>
        rw [if_pos rfl, withoutTrailing, if_pos (by rw [closes]; rfl)]
        exact spaced_widen blanks ih
      | false =>
        rw [if_neg Bool.false_ne_true, withoutTrailing_open closes]
        exact .token blanks (is ▸ fits) ih

end Commas

/-! ### The value -/

section Values

variable {value : Json} {text : Bytes} {tokens : List Token} {parts : List (List Token)}

theorem Enclosed.becomes {trailing : Prop} {opening closing : UInt8} {parts' : List (List Token)}
    (enclosed : Enclosed trailing opening closing parts tokens) (all : List.Forall₂ Becomes parts parts')
    (opens : (Token.mark opening).isComma = false ∧ (Token.mark opening).isClose = false)
    (closes : (Token.mark closing).isClose = true ∧ (Token.mark closing).isComma = false) :
    ∃ tokens', Enclosed False opening closing parts' tokens' ∧ Becomes tokens tokens' := by
  have ⟨ending, ends, is⟩ := enclosed
  refine ⟨.mark opening :: (separated parts' ++ [.mark closing]), ⟨[], .inl rfl, rfl⟩, ?_⟩
  rw [is]
  refine Becomes.cons opens.1 opens.2 fun rest => ?_
  have goes := withoutTrailing_separated all (ends.imp_right And.right) closes.1 closes.2 rest
  simpa using goes

mutual

theorem Reads.becomes {tokens : List Token} : ∀ value, Reads True value tokens → ∃ tokens', Reads False value tokens' ∧ Becomes tokens tokens'
  | .null, reads => ⟨tokens, reads, reads ▸ Becomes.single rfl rfl⟩
  | .bool _, reads => ⟨tokens, reads, reads ▸ Becomes.single rfl rfl⟩
  | .num _, reads => ⟨tokens, reads, reads.2 ▸ Becomes.single rfl rfl⟩
  | .str _, reads => by
    have ⟨inside, _, is⟩ := reads
    exact ⟨tokens, reads, is ▸ Becomes.single rfl rfl⟩
  | .arr items, reads => by
    have ⟨parts, all, enclosed⟩ := reads
    have ⟨parts', all', becomes⟩ := ReadsItems.becomes items all
    have ⟨tokens', enclosed', becomes'⟩ := enclosed.becomes becomes (by decide) (by decide)
    exact ⟨tokens', ⟨parts', all', enclosed'⟩, becomes'⟩
  | .obj fields, reads => by
    have ⟨parts, all, enclosed⟩ := reads
    have ⟨parts', all', becomes⟩ := ReadsFields.becomes fields all
    have ⟨tokens', enclosed', becomes'⟩ := enclosed.becomes becomes (by decide) (by decide)
    exact ⟨tokens', ⟨parts', all', enclosed'⟩, becomes'⟩

theorem ReadsItems.becomes {parts : List (List Token)} : ∀ items, ReadsItems True items parts →
    ∃ parts', ReadsItems False items parts' ∧ List.Forall₂ Becomes parts parts'
  | [], reads => ⟨[], rfl, by rw [show parts = [] from reads]; exact .nil⟩
  | value :: items, reads => by
    have ⟨first, rest, one, all, is⟩ := reads
    have ⟨first', one', becomes⟩ := Reads.becomes value one
    have ⟨rest', all', becomes'⟩ := ReadsItems.becomes items all
    exact ⟨first' :: rest', ⟨first', rest', one', all', rfl⟩, is ▸ .cons becomes becomes'⟩

theorem ReadsFields.becomes {parts : List (List Token)} : ∀ fields, ReadsFields True fields parts →
    ∃ parts', ReadsFields False fields parts' ∧ List.Forall₂ Becomes parts parts'
  | [], reads => ⟨[], rfl, by rw [show parts = [] from reads]; exact .nil⟩
  | (key, value) :: fields, reads => by
    have ⟨inside, first, rest, spells, one, all, is⟩ := reads
    have ⟨first', one', becomes⟩ := Reads.becomes value one
    have ⟨rest', all', becomes'⟩ := ReadsFields.becomes fields all
    have colon : Becomes (.mark 58 :: first) (.mark 58 :: first') := .cons (by decide) (by decide) becomes.becomes
    have member : Becomes (.quoted inside :: .mark 58 :: first) (.quoted inside :: .mark 58 :: first') :=
      .cons rfl rfl colon.becomes
    exact ⟨_ :: rest', ⟨inside, first', rest', spells, one', all', rfl⟩, is ▸ .cons member becomes'⟩

end

theorem RendersJsonc.strip (renders : RendersJsonc value text) :
    ∃ stripped, stripJsonComments false false text = .ok stripped ∧ Renders value (stripTrailingJsonCommas false false stripped) := by
  have ⟨tokens, reads, spaced⟩ := renders
  have ⟨stripped, done, spaced⟩ := stripJsonComments_spaced spaced
  have ⟨tokens', reads, becomes⟩ := reads.becomes value
  have plain := stripTrailingJsonCommas_spaced spaced
  have same := becomes.becomes []
  rw [List.append_nil, withoutTrailing, List.append_nil] at same
  exact ⟨stripped, done, tokens', reads, same ▸ plain⟩

theorem parseJsonc_of_renders {fromSlice : Bytes → Except String Json}
    (standard : ∀ plain, Renders value plain → fromSlice plain = .ok value) (renders : RendersJsonc value text) :
    parseJsonc fromSlice text = .ok value := by
  have ⟨stripped, done, plain⟩ := renders.strip
  rw [parseJsonc, done]
  exact standard _ plain

end Values

def pair : Json := .arr [.bool true, .null]

def readPair (text : Bytes) : Except String Json :=
  if text.filter (!isAsciiWhitespace ·) = Binary.utf8 "[true,null]".toList then .ok pair else .error "expected value"

def commented : Bytes := Binary.utf8 "[true,// ,]\nnull/*\"*/,]".toList

theorem filter_spaced {tokens : List Token} {text : Bytes} (spaced : Spaced Blanks Blanks tokens text) :
    text.filter (!isAsciiWhitespace ·) = (tokens.flatMap Token.text).filter (!isAsciiWhitespace ·) := by
  induction spaced with
  | last blanks =>
    rw [List.flatMap_nil, List.filter_nil, List.filter_eq_nil_iff]
    intro byte member
    simp [(ne_of_isBlank (blanks byte member)).2.2.2]
  | token blanks _ _ ih =>
    rw [List.filter_append, List.filter_append, ih, List.flatMap_cons, List.filter_append, List.append_left_eq_self,
      List.filter_eq_nil_iff]
    intro byte member
    simp [(ne_of_isBlank (blanks byte member)).2.2.2]

theorem readPair_of_renders {text : Bytes} (renders : Renders pair text) : readPair text = .ok pair := by
  have ⟨tokens, reads, spaced⟩ := renders
  have ⟨parts, ⟨first, rest, one, ⟨second, rest', two, nil, is'⟩, is⟩, ending, ends, enclosed⟩ := reads
  have no : ending = [] := ends.resolve_right fun trailing => trailing.1
  refine if_pos ?_
  rw [filter_spaced spaced, enclosed, no, is, is', show first = word "true" from one, show second = word "null" from two,
    show rest' = [] from nil]
  decide +kernel

theorem renders_commented : RendersJsonc pair commented := by
  have line : Gap (slash :: slash :: ([32, comma, 93] ++ newline :: [])) := .line (by decide) .nil
  have block : Gap (slash :: star :: ([quote] ++ star :: slash :: [])) := .block (by decide) .nil
  have mark : (Token.mark 91).Fits ∧ commaToken.Fits ∧ (Token.mark 93).Fits := by
    simp only [Token.Fits]
    decide
  have fits : (Token.word (Binary.utf8 "true".toList)).Fits ∧ (Token.word (Binary.utf8 "null".toList)).Fits := by
    simp only [Token.Fits]
    decide +kernel
  have spaced : Spaced Gap LastGap _ _ := .token .nil mark.1 (.token .nil fits.1 (.token .nil mark.2.1 (.token line fits.2
    (.token block mark.2.1 (.token .nil mark.2.2 (.last (.gap .nil)))))))
  have reads : ReadsItems True [.bool true, .null] [word "true", word "null"] := ⟨_, _, rfl, ⟨_, _, rfl, rfl, rfl⟩, rfl⟩
  refine ⟨_, ⟨_, reads, [commaToken], .inr ⟨trivial, rfl⟩, rfl⟩, ?_⟩
  refine (congrArg (Spaced Gap LastGap _) ?_).mpr spaced
  decide +kernel

theorem parseJsonc_commented : parseJsonc readPair commented = .ok pair :=
  parseJsonc_of_renders (fun _ => readPair_of_renders) renders_commented

end VibeLink.Agents
