import Mathlib.Data.List.Infix
import Mathlib.Tactic.Common
import Mathlib.Data.List.Basic

/-! Texts of JSON tokens, as bytes: the tokens, what may stand between them, and commas before closing brackets. -/

namespace VibeLink.Lexing.Jsonc

abbrev Bytes := List UInt8

abbrev newline : UInt8 := 10
abbrev quote : UInt8 := 34
abbrev star : UInt8 := 42
abbrev comma : UInt8 := 44
abbrev slash : UInt8 := 47
abbrev backslash : UInt8 := 92

def IsBlank (byte : UInt8) : Prop := byte = 32 ∨ byte = 9 ∨ byte = newline ∨ byte = 13

/-- `]` or `}` -/
def isClose (byte : UInt8) : Bool := byte = 93 || byte = 125

def IsSpecial (byte : UInt8) : Prop :=
  byte = quote ∨ byte = slash ∨ byte = comma ∨ isClose byte = true

instance (byte : UInt8) : Decidable (IsBlank byte) := inferInstanceAs (Decidable (_ ∨ _))

instance (byte : UInt8) : Decidable (IsSpecial byte) := inferInstanceAs (Decidable (_ ∨ _))

/-- Between the quotation marks of a string: one stands there only after a backslash. -/
inductive Inside : Bytes → Prop
  | nil : Inside []
  | plain (byte : UInt8) {rest : Bytes} : byte ≠ quote → byte ≠ backslash → Inside rest → Inside (byte :: rest)
  | escape (byte : UInt8) {rest : Bytes} : Inside rest → Inside (backslash :: byte :: rest)

inductive Token
  | quoted (inside : Bytes)
  | word (text : Bytes)
  | mark (byte : UInt8)

namespace Token

def text : Token → Bytes
  | quoted inside => quote :: inside ++ [quote]
  | word text => text
  | mark byte => [byte]

def Fits : Token → Prop
  | quoted inside => Inside inside
  | word text => text ≠ [] ∧ ∀ byte ∈ text, ¬IsSpecial byte ∧ ¬IsBlank byte ∧ byte ≠ 12
  | mark byte => byte ≠ quote ∧ byte ≠ slash ∧ ¬IsBlank byte ∧ byte ≠ 12

def isClose : Token → Bool
  | mark byte => Jsonc.isClose byte
  | quoted _ | word _ => false

def isComma : Token → Bool
  | mark byte => byte = comma
  | quoted _ | word _ => false

end Token

def Blanks (gap : Bytes) : Prop := ∀ byte ∈ gap, IsBlank byte

/-- White space and comments. -/
inductive Gap : Bytes → Prop
  | nil : Gap []
  | blank {byte : UInt8} {rest : Bytes} : IsBlank byte → Gap rest → Gap (byte :: rest)
  | line {comment rest : Bytes} : newline ∉ comment → Gap rest → Gap (slash :: slash :: (comment ++ newline :: rest))
  | block {comment rest : Bytes} : ¬[star, slash] <:+: comment → Gap rest →
      Gap (slash :: star :: (comment ++ star :: slash :: rest))

/-- At the end of a text a line comment needs no line feed. -/
inductive LastGap : Bytes → Prop
  | gap {gap : Bytes} : Gap gap → LastGap gap
  | line {gap comment : Bytes} : Gap gap → newline ∉ comment → LastGap (gap ++ slash :: slash :: comment)

/-- Tokens with gaps before, between and behind them. -/
inductive Spaced (gap last : Bytes → Prop) : List Token → Bytes → Prop
  | last {end' : Bytes} : last end' → Spaced gap last [] end'
  | token {before rest : Bytes} {token : Token} {tokens : List Token} :
      gap before → token.Fits → Spaced gap last tokens rest → Spaced gap last (token :: tokens) (before ++ (token.text ++ rest))

def withoutTrailing : List Token → List Token
  | [] => []
  | token :: tokens =>
    if token.isComma && tokens.head?.any Token.isClose then withoutTrailing tokens else token :: withoutTrailing tokens

variable {token : Token} {tokens more : List Token}

theorem withoutTrailing_solid (solid : token.isComma = false) (tokens : List Token) :
    withoutTrailing (token :: tokens) = token :: withoutTrailing tokens := by
  rw [withoutTrailing, solid, Bool.false_and, if_neg Bool.false_ne_true]

theorem withoutTrailing_open (open' : tokens.head?.any Token.isClose = false) (token : Token) :
    withoutTrailing (token :: tokens) = token :: withoutTrailing tokens := by
  rw [withoutTrailing, open', Bool.and_false, if_neg Bool.false_ne_true]

/-! ### The tokens of a list in brackets -/

abbrev commaToken : Token := .mark comma

def separated : List (List Token) → List Token
  | [] => []
  | [part] => part
  | part :: next :: parts => part ++ commaToken :: separated (next :: parts)

/-- A part of tokens becomes another one when the commas before brackets go, whatever stands behind it. -/
structure Becomes (part part' : List Token) : Prop where
  begins : part.head?.any Token.isClose = false ∧ part ≠ []
  becomes : ∀ rest, withoutTrailing (part ++ rest) = part' ++ withoutTrailing rest

theorem Becomes.single (solid : token.isComma = false) (open' : token.isClose = false) : Becomes [token] [token] where
  begins := ⟨open', List.cons_ne_nil _ _⟩
  becomes := withoutTrailing_solid solid

theorem Becomes.cons {part part' : List Token} (solid : token.isComma = false) (open' : token.isClose = false)
    (becomes : ∀ rest, withoutTrailing (part ++ rest) = part' ++ withoutTrailing rest) : Becomes (token :: part) (token :: part') where
  begins := ⟨open', List.cons_ne_nil _ _⟩
  becomes rest := by
    rw [List.cons_append, withoutTrailing_solid solid, becomes]
    rfl

theorem withoutTrailing_separated {parts parts' : List (List Token)} {ending : List Token} {close : Token}
    (becomes : List.Forall₂ Becomes parts parts') (ends : ending = [] ∨ ending = [commaToken]) (closes : close.isClose = true)
    (solid : close.isComma = false) (rest : List Token) :
    withoutTrailing (separated parts ++ (ending ++ close :: rest)) = separated parts' ++ close :: withoutTrailing rest := by
  induction becomes with
  | nil =>
    cases ends with
    | inl none =>
      rw [none]
      exact withoutTrailing_solid solid rest
    | inr one =>
      rw [one]
      show withoutTrailing (commaToken :: close :: rest) = _
      rw [withoutTrailing, if_pos (by simp [closes, Token.isComma]), withoutTrailing_solid solid]
      rfl
  | @cons part part' parts parts' first all ih =>
    cases all with
    | nil =>
      rw [separated, first.becomes]
      congr 1
    | @cons next next' parts parts' second all =>
      have begins : (separated (next :: parts) ++ (ending ++ close :: rest)).head?.any Token.isClose = false := by
        have begins := second.begins.1
        cases next with
        | nil => exact absurd rfl second.begins.2
        | cons token next => cases parts <;> exact begins
      rw [separated, List.append_assoc, first.becomes, List.cons_append, withoutTrailing_open begins, ih, separated,
        List.append_assoc]
      rfl

end VibeLink.Lexing.Jsonc

/-! Scanners that read a text token by token, and what becomes of a text that comes in parts. -/

universe u v

namespace VibeLink.Lexing

/-- `next` reads the token at the head of a text.  It may look beyond the token, but what it has
decided on a text it decides on every longer one. -/
structure Scanner (α : Type u) (τ : Type v) where
  next : List α → Option (τ × List α)
  content : τ → List α
  content_ne : next text = some (token, rest) → content token ≠ []
  reads : next text = some (token, rest) → text = content token ++ rest
  stable : next text = some (token, rest) → ∀ more, next (text ++ more) = some (token, rest ++ more)

namespace Scanner

variable {α : Type u} {τ : Type v} (scanner : Scanner α τ) {text rest more : List α} {token : τ}

theorem shorter (h : scanner.next text = some (token, rest)) : rest.length < text.length := by
  rw [scanner.reads h, List.length_append]
  exact Nat.lt_add_of_pos_left (List.length_pos_iff.2 (scanner.content_ne h))

/-- The tokens of a text, and the rest of it in which no token is complete. -/
def scan (scanner : Scanner α τ) (text : List α) : List τ × List α :=
  match _ : scanner.next text with
  | none => ([], text)
  | some (token, rest) => (token :: (scanner.scan rest).1, (scanner.scan rest).2)
termination_by text.length
decreasing_by all_goals exact scanner.shorter ‹_›

theorem scan_stop (h : scanner.next text = none) : scanner.scan text = ([], text) := by
  rw [scan]
  split
  · rfl
  · simp_all

theorem scan_next (h : scanner.next text = some (token, rest)) :
    scanner.scan text = (token :: (scanner.scan rest).1, (scanner.scan rest).2) := by
  rw [scan]
  split
  · simp_all
  · simp_all

@[simp] theorem scan_nil : scanner.scan [] = ([], []) := by
  apply scanner.scan_stop
  cases h : scanner.next [] with
  | none => rfl
  | some read => exact absurd (scanner.shorter h) (Nat.not_lt_zero _)

theorem scan_induction {motive : List α → Prop}
    (stop : ∀ text, scanner.next text = none → motive text)
    (next : ∀ text token rest, scanner.next text = some (token, rest) → motive rest → motive text)
    (text : List α) : motive text := by
  induction h : text.length using Nat.strongRecOn generalizing text with
  | ind n ih =>
    cases e : scanner.next text with
    | none => exact stop text e
    | some read => exact next text read.1 read.2 e (ih _ (h ▸ scanner.shorter e) read.2 rfl)

theorem scan_content (text : List α) :
    (scanner.scan text).1.flatMap scanner.content ++ (scanner.scan text).2 = text := by
  induction text using scan_induction scanner with
  | stop text h => simp [scanner.scan_stop h]
  | next text token rest h ih =>
    rw [scanner.scan_next h, List.flatMap_cons, List.append_assoc, ih]
    exact (scanner.reads h).symm

theorem scan_append (text more : List α) :
    scanner.scan (text ++ more) =
      ((scanner.scan text).1 ++ (scanner.scan ((scanner.scan text).2 ++ more)).1,
        (scanner.scan ((scanner.scan text).2 ++ more)).2) := by
  induction text using scan_induction scanner with
  | stop text h => simp [scanner.scan_stop h]
  | next text token rest h ih =>
    rw [scanner.scan_next (scanner.stable h more), scanner.scan_next h, ih]
    rfl

theorem next_left (text : List α) : scanner.next (scanner.scan text).2 = none := by
  induction text using scan_induction scanner with
  | stop text h => rwa [scanner.scan_stop h]
  | next text token rest h ih => rwa [scanner.scan_next h]

theorem mem_scan (member : token ∈ (scanner.scan text).1) :
    ∃ text rest, scanner.next text = some (token, rest) := by
  induction text using scan_induction scanner with
  | stop text h => simp [scanner.scan_stop h] at member
  | next text head rest h ih =>
    rw [scanner.scan_next h] at member
    cases List.mem_cons.1 member with
    | inl here => exact ⟨text, rest, here ▸ h⟩
    | inr there => exact ih there

theorem scan_flatMap {tokens : List τ}
    (complete : ∀ token ∈ tokens, scanner.next (scanner.content token) = some (token, [])) :
    scanner.scan (tokens.flatMap scanner.content) = (tokens, []) := by
  induction tokens with
  | nil => exact scanner.scan_nil
  | cons token tokens ih =>
    have next := scanner.stable (complete token List.mem_cons_self) (tokens.flatMap scanner.content)
    rw [List.flatMap_cons, scanner.scan_next next, List.nil_append,
      ih fun token member => complete token (List.mem_cons_of_mem _ member)]

/-- `scan` with fuel, to be evaluated. -/
def scanWithin (scanner : Scanner α τ) : Nat → List α → List τ × List α
  | 0, text => ([], text)
  | fuel + 1, text =>
    match scanner.next text with
    | none => ([], text)
    | some (token, rest) => (token :: (scanner.scanWithin fuel rest).1, (scanner.scanWithin fuel rest).2)

theorem scan_eq_scanWithin : ∀ {fuel : Nat} {text : List α}, text.length ≤ fuel →
    scanner.scan text = scanner.scanWithin fuel text := by
  intro fuel
  induction fuel with
  | zero =>
    intro text le
    obtain rfl := List.length_eq_zero_iff.1 (Nat.le_zero.1 le)
    exact scanner.scan_nil
  | succ fuel ih =>
    intro text le
    cases h : scanner.next text with
    | none => rw [scanner.scan_stop h, scanWithin, h]
    | some read =>
      have shorter := scanner.shorter h
      rw [scanner.scan_next h, scanWithin, h, ih (by omega)]

/-- Where the scan of a text comes to. -/
inductive Visits (scanner : Scanner α τ) : List α → List α → Prop
  | here (text : List α) : Visits scanner text text
  | next {text rest later : List α} {token : τ} :
      scanner.next text = some (token, rest) → Visits scanner rest later → Visits scanner text later

def Settled (scanner : Scanner α τ) (text : List α) : Prop := (scanner.scan text).2 = []

theorem settled_nil : scanner.Settled [] := by simp [Settled]

variable {scanner}

theorem Visits.of_next {later : List α} (visits : scanner.Visits text later)
    (h : scanner.next text = some (token, rest)) : later = text ∨ scanner.Visits rest later := by
  cases visits with
  | here => exact .inl rfl
  | next h' visits =>
    cases h.symm.trans h'
    exact .inr visits

theorem Settled.scan_append (settled : scanner.Settled text) (more : List α) :
    scanner.scan (text ++ more) =
      ((scanner.scan text).1 ++ (scanner.scan more).1, (scanner.scan more).2) := by
  rw [Scanner.scan_append, settled, List.nil_append]

theorem Settled.append_iff (settled : scanner.Settled text) :
    scanner.Settled (text ++ more) ↔ scanner.Settled more := by
  rw [Settled, settled.scan_append]
  rfl

theorem Settled.content (settled : scanner.Settled text) :
    (scanner.scan text).1.flatMap scanner.content = text := by
  have all := scanner.scan_content text
  rwa [settled, List.append_nil] at all

end Scanner

end VibeLink.Lexing
