import Mathlib.Tactic.Common
import Mathlib.Data.List.Nodup

/-! The tables of a TOML text: which of its lines are the headers of tables, and of which ones. -/

namespace VibeLink.Lexing.Toml

/-! ### Names -/

def hexValue (c : Char) : Option Nat :=
  let n := c.toNat
  if 48 ≤ n ∧ n ≤ 57 then some (n - 48)
  else if 65 ≤ n ∧ n ≤ 70 then some (n - 55)
  else if 97 ≤ n ∧ n ≤ 102 then some (n - 87)
  else none

/-- What stands for itself after a backslash, or for a control character. -/
def escaped (c : Char) : Option Char :=
  if c = '"' ∨ c = '\\' then some c
  else if c = 'b' then some '\x08'
  else if c = 't' then some '\t'
  else if c = 'n' then some '\n'
  else if c = 'f' then some '\x0c'
  else if c = 'r' then some '\r'
  else none

/-- Where the reading of a basic string stands; of a code so many digits are missing. -/
inductive Quoted
  | plain
  | escape
  | code (missing value : Nat)

/-- A basic string after its first quotation mark, and what follows it. -/
def basic : Quoted → List Char → Option (List Char × List Char)
  | _, [] => none
  | .plain, c :: rest =>
    if c = '"' then some ([], rest)
    else if c = '\\' then basic .escape rest
    else (basic .plain rest).map fun read => (c :: read.1, read.2)
  | .escape, c :: rest =>
    match escaped c with
    | some d => (basic .plain rest).map fun read => (d :: read.1, read.2)
    | none => if c = 'u' then basic (.code 4 0) rest else if c = 'U' then basic (.code 8 0) rest else none
  | .code missing value, c :: rest =>
    match hexValue c with
    | none => none
    | some digit =>
      if missing ≤ 1 then
        (basic .plain rest).map fun read => (Char.ofNat (value * 16 + digit) :: read.1, read.2)
      else basic (.code (missing - 1) (value * 16 + digit)) rest

def isBlank (c : Char) : Bool := c = ' ' || c = '\t'

def isBare (c : Char) : Bool := c.isAlphanum || c = '_' || c = '-'

def segment : List Char → Option (List Char × List Char)
  | '"' :: rest => basic .plain rest
  | '\'' :: rest =>
    let name := rest.takeWhile fun c => c ≠ '\''
    match rest.drop name.length with
    | [] => none
    | _ :: rest => some (name, rest)
  | text =>
    let name := text.takeWhile isBare
    if name.isEmpty then none else some (name, text.drop name.length)

def dotted : Nat → List Char → Option (List (List Char) × List Char)
  | 0, _ => none
  | parts + 1, text => do
    let (name, rest) ← segment (text.dropWhile isBlank)
    match rest.dropWhile isBlank with
    | '.' :: rest => (dotted parts rest).map fun read => (name :: read.1, read.2)
    | rest => some ([name], rest)

def isOver (text : List Char) : Bool :=
  match text.dropWhile isBlank with
  | [] => true
  | c :: _ => c = '#'

/-- The name in the header of a table; a header of one of several tables of a name has none. -/
def headerName (line : List Char) : Option (List (List Char)) := do
  match line.dropWhile isBlank with
  | '[' :: rest =>
    let (name, rest) ← dotted rest.length rest
    match rest with
    | ']' :: rest => if isOver rest then some name else none
    | _ => none
  | _ => none

/-! ### Values over several lines -/

/-- Where the reading of a key and its value stands, inside so many brackets. -/
inductive Reading
  | plain (depth : Nat)
  | comment (depth : Nat)
  /-- After one quotation mark. -/
  | opened (quote : Char) (depth : Nat)
  /-- After two of them. -/
  | emptied (quote : Char) (depth : Nat)
  | short (quote : Char) (depth : Nat)
  | shortEscape (depth : Nat)
  /-- In a string of several lines, after so many quotation marks. -/
  | long (quote : Char) (marks depth : Nat)
  | longEscape (depth : Nat)
  deriving DecidableEq

def readPlain (depth : Nat) (c : Char) : Reading :=
  if c = '#' then .comment depth
  else if c = '"' ∨ c = '\'' then .opened c depth
  else if c = '[' ∨ c = '{' then .plain (depth + 1)
  else if c = ']' ∨ c = '}' then .plain (depth - 1)
  else .plain depth

def readShort (quote : Char) (depth : Nat) (c : Char) : Reading :=
  if c = quote then .plain depth
  else if c = '\\' ∧ quote = '"' then .shortEscape depth
  else .short quote depth

def Reading.next : Reading → Char → Reading
  | .plain depth, c => readPlain depth c
  | .comment depth, _ => .comment depth
  | .opened quote depth, c => if c = quote then .emptied quote depth else readShort quote depth c
  | .emptied quote depth, c => if c = quote then .long quote 0 depth else readPlain depth c
  | .short quote depth, c => readShort quote depth c
  | .shortEscape depth, _ => .short '"' depth
  | .long quote marks depth, c =>
    if c = quote then .long quote (marks + 1) depth
    -- Three marks and more are the end, of which the first ones may belong to the string.
    else if 3 ≤ marks then readPlain depth c
    else if c = '\\' ∧ quote = '"' then .longEscape depth
    else .long quote 0 depth
  | .longEscape depth, _ => .long '"' 0 depth

def Reading.broken : Reading → Reading
  | .long quote marks depth => if 3 ≤ marks then .plain depth else .long quote 0 depth
  | .longEscape depth => .long '"' 0 depth
  | .plain depth | .comment depth | .opened _ depth | .emptied _ depth | .short _ depth | .shortEscape depth =>
    .plain depth

/-- What a line is. -/
inductive Kind
  /-- The header of a table, with its name. -/
  | header (name : Option (List (List Char)))
  | inner
  deriving DecidableEq

/-- A line at the beginning of which nothing is unfinished is a header when it begins with a bracket. -/
def kind (reading : Reading) (line : List Char) : Kind :=
  if reading = .plain 0 ∧ (line.dropWhile isBlank).head? = some '[' then .header (headerName line) else .inner

def after (reading : Reading) (line : List Char) : Reading :=
  match kind reading line with
  | .header _ => .plain 0
  | .inner => (line.foldl Reading.next reading).broken

/-- A line of a text, with its place. -/
structure Line where
  number : Nat
  text : List Char
  kind : Kind

def linesFrom (number : Nat) (reading : Reading) : List (List Char) → List Line
  | [] => []
  | line :: rest => ⟨number, line, kind reading line⟩ :: linesFrom (number + 1) (after reading line) rest

theorem map_text_linesFrom (number : Nat) (reading : Reading) (lines : List (List Char)) :
    (linesFrom number reading lines).map Line.text = lines := by
  induction lines generalizing number reading with
  | nil => rfl
  | cons line rest ih => rw [linesFrom, List.map_cons, ih]

theorem le_of_mem_linesFrom {number : Nat} {reading : Reading} {lines : List (List Char)} {line : Line}
    (member : line ∈ linesFrom number reading lines) : number ≤ line.number := by
  induction lines generalizing number reading with
  | nil => cases member
  | cons first rest ih =>
    cases List.mem_cons.mp member with
    | inl same => exact Nat.le_of_eq (congrArg Line.number same).symm
    | inr member => exact Nat.le_of_succ_le (ih member)

theorem nodup_linesFrom (number : Nat) (reading : Reading) (lines : List (List Char)) :
    (linesFrom number reading lines).Nodup := by
  induction lines generalizing number reading with
  | nil => exact List.nodup_nil
  | cons line rest ih =>
    refine List.nodup_cons.mpr ⟨fun member => ?_, ih _ _⟩
    exact absurd (le_of_mem_linesFrom member) (Nat.not_succ_le_self number)

theorem head_of_header {number : Nat} {reading : Reading} {lines : List (List Char)} {line : Line}
    (member : line ∈ linesFrom number reading lines) {name : Option (List (List Char))}
    (header : line.kind = .header name) : (line.text.dropWhile isBlank).head? = some '[' := by
  induction lines generalizing number reading with
  | nil => cases member
  | cons first rest ih =>
    cases List.mem_cons.mp member with
    | inl same =>
      rw [same] at header ⊢
      dsimp only [kind] at header
      split at header
      · rename_i both
        exact both.2
      · cases header
    | inr member => exact ih member

end VibeLink.Lexing.Toml
