import Mathlib.Algebra.Order.Ring.Nat
import Mathlib.Data.List.DropRight
import Mathlib.Data.List.Induction
import Mathlib.Data.List.Indexes
import VibeLink.Lexing.Finding
import VibeLink.Lexing.Lines
import VibeLink.Coordinator.Store
import VibeLink.Relational.Outcome

/-! The hunks of a file's diff, each of which can be staged alone (`app/git/stage.rs`). -/

namespace VibeLink.Git

open Coordinator (isWhiteSpace)
open Lexing (indexOf lines extend)

inductive GitDiffArea
  | unstaged | staged | review
  deriving DecidableEq

def GitDiffArea.name : GitDiffArea → String
  | .unstaged => "unstaged"
  | .staged => "staged"
  | .review => "review"

inductive DiffLineKind
  | addition | deletion | context | noNewline
  deriving DecidableEq

structure UnifiedDiffLine where
  kind : DiffLineKind
  text : List Char
  oldLine : Option Nat
  newLine : Option Nat
  deriving DecidableEq

structure UnifiedDiffHunk where
  id : List Char
  header : List Char
  oldStart : Nat
  oldCount : Nat
  newStart : Nat
  newCount : Nat
  lines : List UnifiedDiffLine
  deriving DecidableEq

structure UnifiedFileDiff where
  path : List Char
  area : GitDiffArea
  binary : Bool
  hunks : List UnifiedDiffHunk
  deriving DecidableEq

structure ParsedFileDiff where
  shown : UnifiedFileDiff
  preamble : List Char
  rawHunks : List (List Char × List Char)
  wholeFileOnly : Bool
  deriving DecidableEq

def binaryPatch : List Char := "GIT binary patch".toList

def isBinary (diff : List Char) : Bool :=
  decide (binaryPatch <:+: diff) || (lines diff).any "Binary files ".toList.isPrefixOf

/-- The beginnings of header lines for which a file is staged only as a whole. -/
def wholeFileMarks : List (List Char) :=
  ["rename from ".toList, "rename to ".toList, "copy from ".toList, "copy to ".toList, "old mode ".toList,
    "new mode ".toList]

def isWholeFileOnly (diff : List Char) : Bool :=
  isBinary diff || (lines diff).any fun line => wholeFileMarks.any (·.isPrefixOf line)

/-- `str::split_inclusive('\n')` -/
def splitInclusive : List Char → List (List Char)
  | [] => []
  | c :: rest => if c = '\n' then [c] :: splitInclusive rest else extend c (splitInclusive rest)

/-- `trim_end_matches(['\r', '\n'])` -/
def trimLineEnd (line : List Char) : List Char := line.rdropWhile fun c => c = '\r' || c = '\n'

def parseDigits (value : Nat) : List Char → Except String Nat
  | [] => .ok value
  | c :: rest =>
    if c.isDigit then
      let value := 10 * value + (c.toNat - '0'.toNat)
      if value < 2 ^ 32 then parseDigits value rest else .error "number too large to fit in target type"
    else .error "invalid digit found in string"

/-- `str::parse::<u32>` -/
def parseU32 (text : List Char) : Except String Nat :=
  if text = [] then .error "cannot parse integer from empty string"
  else if text = ['+'] then .error "invalid digit found in string"
  else parseDigits 0 (if text.head? = some '+' then text.tail else text)

def parseRange (value : List Char) (sign : Char) : Except String (Nat × Nat) :=
  if value.head? = some sign then do
    let pieces := value.tail.splitOn ','
    let start ← parseU32 (pieces.head?.getD [])
    let count ← match pieces[1]? with
      | some piece => parseU32 piece
      | none => .ok 1
    .ok (start, count)
  else .error "invalid unified diff range"

def parseHunkHeader (header : List Char) : Except String (Nat × Nat × Nat × Nat) :=
  match indexOf " @@".toList (header.drop 3) with
  | none => .error "invalid unified diff hunk header"
  | some markerEnd =>
    match (((header.drop 3).take markerEnd).splitOnP isWhiteSpace).filter (· ≠ []) with
    | [old, new] => do
      let (oldStart, oldCount) ← parseRange old '-'
      let (newStart, newCount) ← parseRange new '+'
      .ok (oldStart, oldCount, newStart, newCount)
    | _ => .error "invalid unified diff hunk ranges"

/-- `saturating_add(1)` of a `u32` -/
def following (line : Nat) : Nat := min (line + 1) (2 ^ 32 - 1)

def parseHunkLines (oldLine newLine : Nat) : List (List Char) → List UnifiedDiffLine
  | [] => []
  | line :: rest =>
    match trimLineEnd line with
    | '+' :: text => ⟨.addition, text, none, some newLine⟩ :: parseHunkLines oldLine (following newLine) rest
    | '-' :: text => ⟨.deletion, text, some oldLine, none⟩ :: parseHunkLines (following oldLine) newLine rest
    | ' ' :: text =>
      ⟨.context, text, some oldLine, some newLine⟩ :: parseHunkLines (following oldLine) (following newLine) rest
    | trimmed =>
      if "\\ No newline".toList.isPrefixOf trimmed then
        ⟨.noNewline, trimmed, none, none⟩ :: parseHunkLines oldLine newLine rest
      else parseHunkLines oldLine newLine rest

def startsHunk (line : List Char) : Bool := ['@', '@', ' '].isPrefixOf line

/-- The first lines of hunks, each with the lines up to the next one. -/
def splitHunks : List (List Char) → List (List Char × List (List Char))
  | [] => []
  | line :: rest =>
    if startsHunk line then (line, rest.takeWhile (!startsHunk ·)) :: splitHunks rest else splitHunks rest

def parseHunk (digest : List Char → List Char) (path : List Char) (area : GitDiffArea)
    (hunk : List Char × List (List Char)) : Except String (UnifiedDiffHunk × List Char) := do
  let raw := hunk.1 ++ hunk.2.flatten
  let header := trimLineEnd hunk.1
  let (oldStart, oldCount, newStart, newCount) ← parseHunkHeader header
  let id := digest (area.name.toList ++ '\x00' :: path ++ '\x00' :: raw)
  .ok (⟨id, header, oldStart, oldCount, newStart, newCount, parseHunkLines oldStart newStart hunk.2⟩, raw)

def parseHunks (digest : List Char → List Char) (path : List Char) (area : GitDiffArea) :
    List (List Char × List (List Char)) → Except String (List (UnifiedDiffHunk × List Char))
  | [] => .ok []
  | hunk :: rest => do
    let first ← parseHunk digest path area hunk
    let more ← parseHunks digest path area rest
    .ok (first :: more)

def parseUnifiedDiff (digest : List Char → List Char) (path : List Char) (area : GitDiffArea) (diff : List Char) :
    Except String ParsedFileDiff := do
  let wholeFileOnly := isWholeFileOnly diff
  let pieces := splitInclusive diff
  let preamble := (pieces.takeWhile (!startsHunk ·)).flatten
  let hunks ← parseHunks digest path area (splitHunks (pieces.dropWhile (!startsHunk ·)))
  .ok {
    shown := ⟨path, area, isBinary diff, if wholeFileOnly then [] else hunks.map Prod.fst⟩
    preamble
    rawHunks := hunks.map fun hunk => (hunk.1.id, hunk.2)
    wholeFileOnly
  }

section Documents

/-- What stands in a line. -/
structure LineText where
  text : List Char
  feed : '\n' ∉ text

structure HeaderLine extends LineText where
  plain : startsHunk text = false

/-- The lines of a hunk.  Where Git suppresses the blank of empty lines, a `bare` one stands for an empty line of the
context. -/
inductive BodyLine
  | context (text : LineText)
  | bare
  | deletion (text : LineText)
  | addition (text : LineText)
  | noNewline

inductive Side
  | old | new
  deriving DecidableEq

def BodyLine.isOn : BodyLine → Side → Bool
  | .context _, _ | .bare, _ | .deletion _, .old | .addition _, .new => true
  | _, _ => false

def BodyLine.content : BodyLine → List Char
  | .context text | .deletion text | .addition text => text.text
  | .bare | .noNewline => []

def BodyLine.line : BodyLine → List Char
  | .context text => ' ' :: text.text
  | .bare => []
  | .deletion text => '-' :: text.text
  | .addition text => '+' :: text.text
  | .noNewline => "\\ No newline at end of file".toList

/-- The lines of a hunk begin at a line of either side; how many there are on each side is what the header says. -/
structure Hunk where
  start : Side → Nat
  heading : Option LineText
  body : List BodyLine

def Hunk.count (hunk : Hunk) (side : Side) : Nat := hunk.body.countP (·.isOn side)

def Hunk.range (hunk : Hunk) (side : Side) : List Char :=
  Nat.toDigits 10 (hunk.start side) ++
    if hunk.count side = 1 then [] else ',' :: Nat.toDigits 10 (hunk.count side)

def Hunk.headerLine (hunk : Hunk) : List Char :=
  "@@ -".toList ++ hunk.range .old ++ " +".toList ++ hunk.range .new ++ " @@".toList ++
    (hunk.heading.map fun heading => ' ' :: heading.text).getD []

def Hunk.lines (hunk : Hunk) : List (List Char) := hunk.headerLine :: hunk.body.map BodyLine.line

def Hunk.contents (hunk : Hunk) : List (List Char) :=
  (hunk.heading.map LineText.text).toList ++ hunk.body.map BodyLine.content

def endLines (lines : List (List Char)) : List Char := lines.flatMap (· ++ ['\n'])

/-- The diff of one file as Git prints it. -/
structure Document where
  header : List HeaderLine
  hunks : List Hunk

def Document.preamble (document : Document) : List Char := endLines (document.header.map (·.text))

def Document.text (document : Document) : List Char :=
  document.preamble ++ document.hunks.flatMap fun hunk => endLines hunk.lines

def BodyLine.shown (line : BodyLine) (number : Side → Nat) : UnifiedDiffLine :=
  let kind := match line with
    | .context _ | .bare => .context
    | .deletion _ => .deletion
    | .addition _ => .addition
    | .noNewline => .noNewline
  let text := if kind = DiffLineKind.noNewline then line.line else trimLineEnd line.content
  ⟨kind, text, if line.isOn .old then some (number .old) else none, if line.isOn .new then some (number .new) else none⟩

/-- Each line has the number of the line that the hunk begins at and of all lines before it on the same side. -/
def numbered (start : Side → Nat) (body : List BodyLine) : List UnifiedDiffLine :=
  body.mapIdx fun i line => line.shown fun side => start side + (body.take i).countP (·.isOn side)

/-- The diff has been split where its hunks begin, its lines have their numbers, and its header says how it is
staged. -/
structure Document.IsParsed (document : Document) (parsed : ParsedFileDiff) : Prop where
  lossless : parsed.preamble ++ parsed.rawHunks.flatMap Prod.snd = document.text
  preamble : parsed.preamble = document.preamble
  rawHunks : parsed.rawHunks.map Prod.snd = document.hunks.map fun hunk => endLines hunk.lines
  binary : parsed.shown.binary = isBinary document.preamble
  wholeFileOnly : parsed.wholeFileOnly = isWholeFileOnly document.preamble
  ranges : parsed.shown.hunks.map (fun hunk => (hunk.oldStart, hunk.oldCount, hunk.newStart, hunk.newCount)) =
    if isWholeFileOnly document.preamble then []
    else document.hunks.map fun hunk => (hunk.start .old, hunk.count .old, hunk.start .new, hunk.count .new)
  numbers : parsed.shown.hunks.map UnifiedDiffHunk.lines =
    if isWholeFileOnly document.preamble then [] else document.hunks.map fun hunk => numbered hunk.start hunk.body

def Document.lines (document : Document) : List (List Char) :=
  document.header.map (·.text) ++ document.hunks.flatMap Hunk.lines

def Document.Imitates (document : Document) : Prop :=
  ∃ hunk ∈ document.hunks, ∃ text ∈ hunk.contents, binaryPatch <:+: text

end Documents

section Lines

variable {line : List Char} {all : List (List Char)}

theorem endLines_cons (line : List Char) (all : List (List Char)) :
    endLines (line :: all) = line ++ '\n' :: endLines all := by
  rw [endLines, List.flatMap_cons, List.append_assoc, List.singleton_append, endLines]

theorem endLines_append (all more : List (List Char)) : endLines (all ++ more) = endLines all ++ endLines more :=
  List.flatMap_append

theorem text_eq (document : Document) : document.text = endLines document.lines := by
  rw [Document.text, Document.preamble, Document.lines, endLines_append, endLines, endLines, List.flatMap_assoc]
  rfl

theorem splitInclusive_append (feed : '\n' ∉ line) (rest : List Char) :
    splitInclusive (line ++ '\n' :: rest) = (line ++ ['\n']) :: splitInclusive rest := by
  induction line with
  | nil => rw [List.nil_append, splitInclusive, if_pos rfl, List.nil_append]
  | cons c line ih =>
    rw [List.cons_append, splitInclusive, if_neg (List.ne_of_not_mem_cons feed).symm,
      ih (List.not_mem_of_not_mem_cons feed)]
    rfl

theorem splitInclusive_endLines (feed : ∀ line ∈ all, '\n' ∉ line) :
    splitInclusive (endLines all) = all.map (· ++ ['\n']) := by
  induction all with
  | nil => rfl
  | cons line all ih =>
    rw [endLines_cons, splitInclusive_append (feed line List.mem_cons_self),
      ih fun other member => feed other (List.mem_cons_of_mem _ member), List.map_cons]

theorem lines_append (feed : '\n' ∉ line) (rest : List Char) : ∃ kept, lines (line ++ '\n' :: rest) = kept :: lines rest ∧
    (line = kept ∨ line = kept ++ ['\r']) := by
  by_cases back : line.getLast? = some '\r'
  · obtain ⟨kept, rfl⟩ := List.getLast?_eq_some_iff.1 back
    have fits : Lexing.Fits Lexing.crlf kept :=
      ⟨fun member => feed (List.mem_append_left _ member), fun same => absurd same (by decide)⟩
    refine ⟨kept, ?_, .inr rfl⟩
    have read := Lexing.lines_append (.inl rfl) fits rest
    rw [List.append_assoc] at read ⊢
    exact read
  · have read := Lexing.lines_append (.inr rfl) ⟨feed, fun _ => back⟩ rest
    rw [List.append_assoc] at read
    exact ⟨line, read, .inl rfl⟩

theorem any_lines (feed : ∀ line ∈ all, '\n' ∉ line) {mark : List Char} (back : '\r' ∉ mark) :
    (lines (endLines all)).any mark.isPrefixOf = all.any mark.isPrefixOf := by
  induction all with
  | nil => rfl
  | cons line all ih =>
    obtain ⟨kept, read, either⟩ := lines_append (feed line List.mem_cons_self) (endLines all)
    rw [endLines_cons, read, List.any_cons, List.any_cons, ih fun other member => feed other (List.mem_cons_of_mem _ member)]
    congr 1
    obtain rfl | rfl := either
    · rfl
    · apply Bool.eq_iff_iff.2
      rw [List.isPrefixOf_iff_prefix, List.isPrefixOf_iff_prefix]
      exact ⟨fun here => here.trans (List.prefix_append _ _), Lexing.prefix_of_append_cons back⟩

theorem infix_endLines {part : List Char} (filled : part ≠ []) (feed : '\n' ∉ part) (all : List (List Char)) :
    part <:+: endLines all ↔ ∃ line ∈ all, part <:+: line := by
  induction all with
  | nil => simp [endLines, filled]
  | cons line all ih => rw [endLines_cons, Lexing.infix_append_cons feed, ih, List.exists_mem_cons_iff]

end Lines

section Classes

variable {document : Document} {hunk : Hunk} {line : List Char}

theorem not_mem_range {side : Side} {c : Char} (other : (c.isDigit || c == ',') = false) : c ∉ hunk.range side := by
  have number (n : Nat) : c ∉ Nat.toDigits 10 n := fun member => by
    simp [Nat.isDigit_of_mem_toDigits (by decide) (by decide) member] at other
  intro member
  rw [Hunk.range, List.mem_append] at member
  cases member with
  | inl start => exact number _ start
  | inr count =>
    split at count
    · exact List.not_mem_nil count
    · cases List.mem_cons.1 count with
      | inl comma => simp [comma] at other
      | inr count => exact number _ count

theorem infix_append_iff {c : Char} {part front back : List Char} (absent : c ∉ front) :
    c :: part <:+: front ++ back ↔ c :: part <:+: back := by
  induction front with
  | nil => rfl
  | cons d front ih =>
    rw [List.cons_append, List.infix_cons_iff, ih (List.not_mem_of_not_mem_cons absent)]
    apply or_iff_right
    intro here
    exact List.ne_of_not_mem_cons absent (List.cons_prefix_cons.1 here).1

theorem infix_headerLine (hunk : Hunk) : binaryPatch <:+: hunk.headerLine ↔
    ∃ heading ∈ hunk.heading, binaryPatch <:+: heading.text := by
  have absent : 'G' ∉ "@@ -".toList ++ hunk.range .old ++ " +".toList ++ hunk.range .new ++ " @@".toList := by
    simp [not_mem_range]
  delta Hunk.headerLine
  change 'G' :: "IT binary patch".toList <:+: _ ↔ _
  rw [infix_append_iff absent]
  cases hunk.heading with
  | none => simp
  | some heading =>
    have spaced : 'G' :: "IT binary patch".toList <:+: [' '] ++ heading.text ↔ binaryPatch <:+: heading.text :=
      infix_append_iff (by decide)
    refine Iff.trans spaced ?_
    exact ⟨fun inside => ⟨heading, rfl, inside⟩, fun ⟨_, same, inside⟩ => Option.some.inj same ▸ inside⟩

theorem infix_line (line : BodyLine) : binaryPatch <:+: line.line ↔ binaryPatch <:+: line.content := by
  cases line with
  | context text => exact @infix_append_iff 'G' _ [' '] _ (by decide)
  | bare => rfl
  | deletion text => exact @infix_append_iff 'G' _ ['-'] _ (by decide)
  | addition text => exact @infix_append_iff 'G' _ ['+'] _ (by decide)
  | noNewline => decide +kernel

theorem infix_lines (hunk : Hunk) : (∃ line ∈ hunk.lines, binaryPatch <:+: line) ↔
    ∃ text ∈ hunk.contents, binaryPatch <:+: text := by
  rw [Hunk.lines, List.exists_mem_cons_iff, infix_headerLine, Hunk.contents]
  simp [or_and_right, exists_or, infix_line]

theorem head_lines (member : line ∈ hunk.lines) {c : Char} (first : line.head? = some c) :
    c ∈ ['@', ' ', '-', '+', '\\'] := by
  cases List.mem_cons.1 member with
  | inl here =>
    cases here
    cases first
    decide
  | inr inside =>
    obtain ⟨body, _, rfl⟩ := List.mem_map.1 inside
    cases body <;> cases first <;> decide

theorem any_isPrefixOf {mark : List Char} {c : Char} (first : mark.head? = some c) (other : c ∉ ['@', ' ', '-', '+', '\\'])
    (document : Document) :
    document.lines.any mark.isPrefixOf = (document.header.map (·.text)).any mark.isPrefixOf := by
  rw [Document.lines, List.any_append]
  convert Bool.or_false _
  rw [List.any_eq_false]
  intro line member here
  obtain ⟨hunk, _, inside⟩ := List.mem_flatMap.1 member
  obtain ⟨rest, rfl⟩ := List.isPrefixOf_iff_prefix.1 here
  refine other (head_lines inside ?_)
  rw [List.head?_append, first, Option.some_or]

theorem feed_lines (document : Document) : ∀ line ∈ document.lines, '\n' ∉ line := by
  have heading (hunk : Hunk) : '\n' ∉ hunk.headerLine := by
    have text : '\n' ∉ (hunk.heading.map fun heading => ' ' :: heading.text).getD [] := by
      cases hunk.heading with
      | none => exact List.not_mem_nil
      | some heading => exact List.not_mem_cons_of_ne_of_not_mem (by decide) heading.feed
    delta Hunk.headerLine
    simp [not_mem_range, text]
  intro line member
  cases List.mem_append.1 member with
  | inl here =>
    obtain ⟨header, _, rfl⟩ := List.mem_map.1 here
    exact header.feed
  | inr there =>
    obtain ⟨hunk, _, inside⟩ := List.mem_flatMap.1 there
    cases List.mem_cons.1 inside with
    | inl first => exact first ▸ heading hunk
    | inr later =>
      obtain ⟨body, _, rfl⟩ := List.mem_map.1 later
      cases body with
      | context text | deletion text | addition text =>
        exact List.not_mem_cons_of_ne_of_not_mem (by decide) text.feed
      | bare => exact List.not_mem_nil
      | noNewline => decide

theorem feed_header (document : Document) : ∀ line ∈ document.header.map (·.text), '\n' ∉ line :=
  fun line member => feed_lines document line (List.mem_append_left _ member)

theorem any_lines_text {mark : List Char} {c : Char} (first : mark.head? = some c)
    (other : c ∉ ['@', ' ', '-', '+', '\\']) (back : '\r' ∉ mark) (document : Document) :
    (lines document.text).any mark.isPrefixOf = (lines document.preamble).any mark.isPrefixOf := by
  rw [text_eq, any_lines (feed_lines document) back, any_isPrefixOf first other, Document.preamble,
    any_lines (feed_header document) back]

theorem isBinary_text (document : Document) :
    isBinary document.text = true ↔ isBinary document.preamble = true ∨ document.Imitates := by
  have parts : binaryPatch <:+: document.text ↔ binaryPatch <:+: document.preamble ∨ document.Imitates := by
    rw [text_eq, Document.preamble, infix_endLines (by decide) (by decide), infix_endLines (by decide) (by decide),
      Document.lines, Document.Imitates]
    simp only [List.mem_append, or_and_right, exists_or, List.mem_flatMap, ← infix_lines]
    apply or_congr_right
    constructor
    · rintro ⟨line, ⟨hunk, member, inside⟩, found⟩
      exact ⟨hunk, member, line, inside, found⟩
    · rintro ⟨hunk, member, line, inside, found⟩
      exact ⟨line, ⟨hunk, member, inside⟩, found⟩
  rw [isBinary, isBinary, any_lines_text rfl (by decide) (by decide), Bool.or_eq_true, Bool.or_eq_true, decide_eq_true_iff,
    decide_eq_true_iff, parts]
  exact or_right_comm

theorem isWholeFileOnly_text (document : Document) :
    isWholeFileOnly document.text = true ↔ isWholeFileOnly document.preamble = true ∨ document.Imitates := by
  have marks (text : List Char) : ((lines text).any fun line => wholeFileMarks.any (·.isPrefixOf line)) =
      wholeFileMarks.any fun mark => (lines text).any mark.isPrefixOf := by
    apply Bool.eq_iff_iff.2
    simp only [List.any_eq_true]
    constructor
    · rintro ⟨line, member, mark, marked, here⟩
      exact ⟨mark, marked, line, member, here⟩
    · rintro ⟨mark, marked, line, member, here⟩
      exact ⟨line, member, mark, marked, here⟩
  have same : (wholeFileMarks.any fun mark => (lines document.text).any mark.isPrefixOf) =
      wholeFileMarks.any fun mark => (lines document.preamble).any mark.isPrefixOf := by
    have each : ∀ mark ∈ wholeFileMarks, '\r' ∉ mark ∧ ∃ c ∈ ['r', 'c', 'o', 'n'], mark.head? = some c := by
      simp [wholeFileMarks]
    apply Bool.eq_iff_iff.2
    rw [List.any_eq_true, List.any_eq_true]
    apply exists_congr
    intro mark
    apply and_congr_right
    intro marked
    obtain ⟨back, c, lead, first⟩ := each mark marked
    have other : ∀ c ∈ ['r', 'c', 'o', 'n'], c ∉ ['@', ' ', '-', '+', '\\'] := by simp
    rw [any_lines_text first (other c lead) back]
  rw [isWholeFileOnly, isWholeFileOnly, marks, marks, same, Bool.or_eq_true, Bool.or_eq_true, isBinary_text]
  exact or_right_comm

end Classes

section Headers

variable {hunk : Hunk} {digits front back : List Char} {value n : Nat} {c : Char}

theorem le_ofDigitChars (digits : List Char) (value : Nat) : value ≤ Nat.ofDigitChars 10 digits value := by
  induction digits generalizing value with
  | nil => rw [Nat.ofDigitChars_nil]
  | cons c rest ih =>
    rw [Nat.ofDigitChars_cons]
    exact Nat.le_trans (by omega) (ih _)

theorem parseDigits_eq (numeric : ∀ c ∈ digits, c.isDigit = true) (small : value < 2 ^ 32) :
    parseDigits value digits = if Nat.ofDigitChars 10 digits value < 2 ^ 32 then .ok (Nat.ofDigitChars 10 digits value)
      else .error "number too large to fit in target type" := by
  induction digits generalizing value with
  | nil => rw [Nat.ofDigitChars_nil, if_pos small, parseDigits]
  | cons c rest ih =>
    rw [parseDigits, if_pos (numeric c List.mem_cons_self), Nat.ofDigitChars_cons]
    dsimp only
    split
    · rename_i next
      exact ih (fun d member => numeric d (List.mem_cons_of_mem _ member)) next
    · rename_i large
      have more := le_ofDigitChars rest (10 * value + (c.toNat - '0'.toNat))
      rw [if_neg (by omega)]

theorem parseU32_toDigits (n : Nat) : parseU32 (Nat.toDigits 10 n) =
    if n < 2 ^ 32 then .ok n else .error "number too large to fit in target type" := by
  have numeric : ∀ c ∈ Nat.toDigits 10 n, c.isDigit = true := fun c member =>
    Nat.isDigit_of_mem_toDigits (by decide) (by decide) member
  have unsigned : (Nat.toDigits 10 n).head? ≠ some '+' := fun signed =>
    absurd (numeric '+' (List.mem_of_mem_head? signed)) (by decide)
  have lone : Nat.toDigits 10 n ≠ ['+'] := fun same => unsigned (by rw [same]; rfl)
  rw [parseU32, if_neg Nat.toDigits_ne_nil, if_neg lone, if_neg unsigned, parseDigits_eq numeric (by decide),
    Nat.ofDigitChars_ten_toDigits]

/-- A range is read where both of its numbers are `u32`. -/
theorem parseRange_range (hunk : Hunk) (side : Side) (sign : Char) (read : Nat × Nat) :
    parseRange (sign :: hunk.range side) sign = .ok read ↔
      read = (hunk.start side, hunk.count side) ∧ hunk.start side < 2 ^ 32 ∧ hunk.count side < 2 ^ 32 := by
  have comma (n : Nat) : ',' ∉ Nat.toDigits 10 n := fun member =>
    absurd (Nat.isDigit_of_mem_toDigits (by decide) (by decide) member) (by decide)
  obtain ⟨bound, is, unit⟩ : ∃ bound, 2 ^ 32 = bound ∧ 1 < bound := ⟨_, rfl, by decide⟩
  rw [parseRange, List.head?_cons, if_pos rfl, List.tail_cons, Hunk.range, is]
  by_cases one : hunk.count side = 1
  · rw [if_pos one, List.append_nil, List.splitOn_eq_singleton (comma _)]
    simp only [List.head?_cons, Option.getD_some, List.getElem?_cons_succ, List.getElem?_nil, parseU32_toDigits, is]
    by_cases small : hunk.start side < bound
    · simp [small, one, unit, pure, Except.pure, bind, Except.bind, eq_comm]
    · simp [small, bind, Except.bind]
  · rw [if_neg one, List.splitOn_append_cons_self_of_not_mem (comma _), List.splitOn_eq_singleton (comma _)]
    simp only [List.head?_cons, Option.getD_some, List.getElem?_cons_succ, List.getElem?_cons_zero, parseU32_toDigits, is]
    by_cases small : hunk.start side < bound
    · by_cases few : hunk.count side < bound
      · simp [small, few, bind, Except.bind, eq_comm]
      · simp [small, few, bind, Except.bind]
    · simp [small, bind, Except.bind]

theorem trimLineEnd_append (kept : (c = '\r' || c = '\n') = false) (front back : List Char) :
    trimLineEnd (front ++ c :: back) = front ++ c :: trimLineEnd back := by
  have stays : (c :: front.reverse).dropWhile (fun c => c = '\r' || c = '\n') = c :: front.reverse :=
    List.dropWhile_cons_of_neg (by rw [kept]; exact Bool.false_ne_true)
  rw [trimLineEnd, trimLineEnd, List.rdropWhile, List.rdropWhile, List.reverse_append, List.reverse_cons, List.append_assoc,
    List.singleton_append, List.dropWhile_append, stays]
  split
  · rename_i none_
    rw [List.isEmpty_iff.1 none_]
    simp
  · simp

theorem indexOf_mark (absent : '@' ∉ front) (back : List Char) :
    indexOf " @@".toList (front ++ " @@".toList ++ back) = some front.length := by
  induction front with
  | nil => exact Lexing.indexOf_self _ _
  | cons c front ih =>
    rw [List.cons_append, List.cons_append, indexOf, if_neg, ih (List.not_mem_of_not_mem_cons absent)]
    · rfl
    · intro here
      cases front with
      | nil => exact absurd here (by simp)
      | cons d front =>
        have next := (List.cons_prefix_cons.1 (List.cons_prefix_cons.1 here).2).1
        exact absent (next ▸ List.mem_cons_of_mem _ List.mem_cons_self)

theorem solid_range {side : Side} (member : c ∈ hunk.range side) : isWhiteSpace c = false := by
  have plain : (c.isDigit || c == ',') = true := by
    by_contra other
    exact not_mem_range (Bool.eq_false_iff.2 other) member
  rw [Bool.or_eq_true, beq_iff_eq] at plain
  cases plain with
  | inl digit =>
    have bounds : 48 ≤ c.toNat ∧ c.toNat ≤ 57 := by
      rw [Char.isDigit, Bool.and_eq_true, decide_eq_true_iff, decide_eq_true_iff] at digit
      exact digit
    simp [isWhiteSpace]
    omega
  | inr comma => exact comma ▸ by decide

def Hunk.ranges (hunk : Hunk) : List Char := '-' :: hunk.range .old ++ ' ' :: '+' :: hunk.range .new

theorem trimLineEnd_headerLine (hunk : Hunk) : ∃ back,
    trimLineEnd (hunk.headerLine ++ ['\n']) = "@@ ".toList ++ (hunk.ranges ++ " @@".toList ++ back) := by
  refine ⟨trimLineEnd ((hunk.heading.map fun heading => ' ' :: heading.text).getD [] ++ ['\n']), ?_⟩
  have split : hunk.headerLine ++ ['\n'] = ("@@ ".toList ++ hunk.ranges ++ " @".toList) ++
      '@' :: ((hunk.heading.map fun heading => ' ' :: heading.text).getD [] ++ ['\n']) := by
    delta Hunk.headerLine Hunk.ranges
    simp
  rw [split, trimLineEnd_append (by decide)]
  simp

theorem splitOnP_ranges (hunk : Hunk) :
    (hunk.ranges.splitOnP isWhiteSpace).filter (· ≠ []) = ['-' :: hunk.range .old, '+' :: hunk.range .new] := by
  have solid (side : Side) (sign : Char) (signed : isWhiteSpace sign = false) :
      ∀ c ∈ sign :: hunk.range side, isWhiteSpace c = false := by
    intro c member
    cases List.mem_cons.1 member with
    | inl here => exact here ▸ signed
    | inr inside => exact solid_range inside
  rw [Hunk.ranges, List.splitOnP_append_cons_of_forall_mem (solid .old '-' (by decide)) _ (by decide),
    List.splitOnP_eq_singleton (solid .new '+' (by decide))]
  simp

/-- The numbers of a hunk's first line are read where all of them are `u32`. -/
theorem parseHunkHeader_headerLine (hunk : Hunk) (read : Nat × Nat × Nat × Nat) :
    parseHunkHeader (trimLineEnd (hunk.headerLine ++ ['\n'])) = .ok read ↔
      read = (hunk.start .old, hunk.count .old, hunk.start .new, hunk.count .new) ∧
        ∀ side, hunk.start side < 2 ^ 32 ∧ hunk.count side < 2 ^ 32 := by
  obtain ⟨back, trimmed⟩ := trimLineEnd_headerLine hunk
  have absent : '@' ∉ hunk.ranges := by simp [Hunk.ranges, not_mem_range]
  have dropped : (trimLineEnd (hunk.headerLine ++ ['\n'])).drop 3 = hunk.ranges ++ " @@".toList ++ back := by
    rw [trimmed]
    rfl
  have taken : (hunk.ranges ++ " @@".toList ++ back).take hunk.ranges.length = hunk.ranges := by
    rw [List.append_assoc, List.take_left]
  rw [parseHunkHeader, dropped, indexOf_mark absent]
  dsimp only
  rw [taken, splitOnP_ranges]
  simp only [Relational.bind_eq_ok, parseRange_range]
  constructor
  · rintro ⟨_, ⟨rfl, old⟩, _, ⟨rfl, new⟩, same⟩
    exact ⟨(Except.ok.inj same).symm, fun side => by cases side <;> assumption⟩
  · rintro ⟨rfl, small⟩
    exact ⟨_, ⟨rfl, small .old⟩, _, ⟨rfl, small .new⟩, rfl⟩

end Headers

section Numbers

variable {hunk : Hunk} {body : List BodyLine} {number start : Side → Nat}

def capped (number : Side → Nat) : Side → Nat := fun side => min (number side) (2 ^ 32 - 1)

def printedBody (body : List BodyLine) : List (List Char) := body.map (·.line ++ ['\n'])

def BodyLine.after (line : BodyLine) (number : Side → Nat) : Side → Nat :=
  fun side => number side + (line.isOn side).toNat

theorem capped_after (line : BodyLine) (number : Side → Nat) (side : Side) : capped (line.after number) side =
    if line.isOn side = true then following (capped number side) else capped number side := by
  unfold capped following BodyLine.after
  cases line.isOn side
  · rfl
  · rw [if_pos rfl, Bool.toNat_true]
    omega

theorem trimLineEnd_feed (text : List Char) : trimLineEnd (text ++ ['\n']) = trimLineEnd text :=
  List.rdropWhile_concat_pos _ _ _ rfl

theorem trimLineEnd_marked {mark : Char} (kept : (mark = '\r' || mark = '\n') = false) (text : List Char) :
    trimLineEnd (mark :: text ++ ['\n']) = mark :: trimLineEnd text := by
  have trimmed := trimLineEnd_append kept [] (text ++ ['\n'])
  rwa [trimLineEnd_feed] at trimmed

theorem parseHunkLines_bare (oldLine newLine : Nat) (rest : List (List Char)) :
    parseHunkLines oldLine newLine ((BodyLine.bare.line ++ ['\n']) :: rest) = parseHunkLines oldLine newLine rest := rfl

section Marked

variable {line text : List Char} {oldLine newLine : Nat} {rest : List (List Char)}

theorem parseHunkLines_context (trimmed : trimLineEnd line = ' ' :: text) :
    parseHunkLines oldLine newLine (line :: rest) =
      ⟨.context, text, some oldLine, some newLine⟩ :: parseHunkLines (following oldLine) (following newLine) rest := by
  rw [parseHunkLines, trimmed]
  rfl

theorem parseHunkLines_deletion (trimmed : trimLineEnd line = '-' :: text) :
    parseHunkLines oldLine newLine (line :: rest) =
      ⟨.deletion, text, some oldLine, none⟩ :: parseHunkLines (following oldLine) newLine rest := by
  rw [parseHunkLines, trimmed]
  rfl

theorem parseHunkLines_addition (trimmed : trimLineEnd line = '+' :: text) :
    parseHunkLines oldLine newLine (line :: rest) =
      ⟨.addition, text, none, some newLine⟩ :: parseHunkLines oldLine (following newLine) rest := by
  rw [parseHunkLines, trimmed]
  rfl

end Marked

theorem parseHunkLines_cons {line : BodyLine} (filled : line ≠ .bare) (number : Side → Nat) (rest : List (List Char)) :
    parseHunkLines (capped number .old) (capped number .new) ((line.line ++ ['\n']) :: rest) =
      line.shown (capped number) ::
        parseHunkLines (capped (line.after number) .old) (capped (line.after number) .new) rest := by
  rw [capped_after, capped_after]
  cases line with
  | bare => exact absurd rfl filled
  | context text => exact parseHunkLines_context (trimLineEnd_marked (by decide) text.text)
  | deletion text => exact parseHunkLines_deletion (trimLineEnd_marked (by decide) text.text)
  | addition text => exact parseHunkLines_addition (trimLineEnd_marked (by decide) text.text)
  | noNewline => rfl

theorem mapIdx_cons (f : (Side → Nat) → Side → Nat) (number : Side → Nat) (line : BodyLine) (rest : List BodyLine) :
    ((line :: rest).mapIdx fun i line' =>
        line'.shown (f fun side => number side + ((line :: rest).take i).countP (·.isOn side))) =
      line.shown (f number) :: rest.mapIdx fun i line' =>
        line'.shown (f fun side => line.after number side + (rest.take i).countP (·.isOn side)) := by
  rw [List.mapIdx_cons]
  congr 2
  funext i line'
  congr 2
  funext side
  rw [List.take_succ_cons, List.countP_cons, BodyLine.after]
  cases line.isOn side
  · rfl
  · simp only [if_true, Bool.toNat_true]
    omega

theorem parseHunkLines_printedBody (filled : .bare ∉ body) (number : Side → Nat) :
    parseHunkLines (capped number .old) (capped number .new) (printedBody body) = body.mapIdx fun i line =>
      line.shown (capped fun side => number side + (body.take i).countP (·.isOn side)) := by
  induction body generalizing number with
  | nil => rfl
  | cons line rest ih =>
    rw [mapIdx_cons, ← ih (List.not_mem_of_not_mem_cons filled)]
    exact parseHunkLines_cons (List.ne_of_not_mem_cons filled).symm number _

theorem length_parseHunkLines (body : List BodyLine) (oldLine newLine : Nat) :
    (parseHunkLines oldLine newLine (printedBody body)).length ≤ body.length ∧
      (.bare ∈ body → (parseHunkLines oldLine newLine (printedBody body)).length < body.length) := by
  induction body generalizing oldLine newLine with
  | nil => exact ⟨Nat.le_refl 0, fun absent => absurd absent List.not_mem_nil⟩
  | cons line rest ih =>
    have one (filled : line ≠ .bare) : ∃ shown o n, parseHunkLines oldLine newLine (printedBody (line :: rest)) =
        shown :: parseHunkLines o n (printedBody rest) := by
      cases line with
      | bare => exact absurd rfl filled
      | context text => exact ⟨_, _, _, parseHunkLines_context (trimLineEnd_marked (by decide) text.text)⟩
      | deletion text => exact ⟨_, _, _, parseHunkLines_deletion (trimLineEnd_marked (by decide) text.text)⟩
      | addition text => exact ⟨_, _, _, parseHunkLines_addition (trimLineEnd_marked (by decide) text.text)⟩
      | noNewline => exact ⟨_, _, _, rfl⟩
    by_cases bare : line = .bare
    · subst bare
      have passed := (ih oldLine newLine).1
      have same : parseHunkLines oldLine newLine (printedBody (.bare :: rest)) =
          parseHunkLines oldLine newLine (printedBody rest) := parseHunkLines_bare _ _ _
      rw [same, List.length_cons]
      omega
    · obtain ⟨shown, o, n, read⟩ := one bare
      obtain ⟨le, lt⟩ := ih o n
      rw [read, List.length_cons, List.length_cons]
      refine ⟨Nat.succ_le_succ le, fun there => Nat.succ_lt_succ (lt ?_)⟩
      exact (List.mem_cons.1 there).resolve_left (Ne.symm bare)

theorem shown_congr (line : BodyLine) (f g : Side → Nat) :
    line.shown f = line.shown g ↔ ∀ side, line.isOn side = true → f side = g side := by
  constructor
  · intro same side there
    have lines := congrArg UnifiedDiffLine.oldLine same
    have news := congrArg UnifiedDiffLine.newLine same
    cases side with
    | old => simpa [BodyLine.shown, there] using lines
    | new => simpa [BodyLine.shown, there] using news
  · intro same
    have old := same .old
    have new := same .new
    unfold BodyLine.shown
    cases line <;> simp_all [BodyLine.isOn]

theorem exists_last {α : Type} {p : α → Bool} {all : List α} (some_ : 0 < all.countP p) :
    ∃ i, ∃ h : i < all.length, p all[i] = true ∧ (all.take i).countP p + 1 = all.countP p := by
  induction all using List.reverseRecOn with
  | nil => exact absurd some_ (Nat.lt_irrefl 0)
  | append_singleton front last ih =>
    by_cases here : p last = true
    · exact ⟨front.length, by simp, by simpa using here, by simp [here]⟩
    · rw [List.countP_append, List.countP_singleton, if_neg here, Nat.add_zero] at some_ ⊢
      obtain ⟨i, h, there, count⟩ := ih some_
      refine ⟨i, by rw [List.length_append]; omega, ?_, ?_⟩
      · rw [List.getElem_append_left h]
        exact there
      · rw [List.take_append_of_le_length (Nat.le_of_lt h)]
        exact count

theorem countP_take_lt {α : Type} {p : α → Bool} {all : List α} {i : Nat} (h : i < all.length) (here : p all[i] = true) :
    (all.take i).countP p < all.countP p := by
  have split : all.take i ++ all[i] :: all.drop (i + 1) = all := by simp
  conv_rhs => rw [← split, List.countP_append, List.countP_cons_of_pos here]
  omega

theorem parseHunkLines_eq_numbered (small : ∀ side, start side < 2 ^ 32) :
    parseHunkLines (start .old) (start .new) (printedBody body) = numbered start body ↔
      .bare ∉ body ∧ ∀ side, start side + body.countP (·.isOn side) ≤ 2 ^ 32 := by
  have fits (side : Side) : start side = capped start side := by
    have := small side
    rw [capped]
    omega
  have each (filled : .bare ∉ body) : parseHunkLines (start .old) (start .new) (printedBody body) = numbered start body ↔
      ∀ side, start side + body.countP (·.isOn side) ≤ 2 ^ 32 := by
    rw [fits .old, fits .new, parseHunkLines_printedBody filled, numbered, List.mapIdx_eq_mapIdx_iff]
    simp only [shown_congr, capped]
    constructor
    · intro same side
      by_cases none_ : body.countP (·.isOn side) = 0
      · rw [none_]
        exact Nat.le_of_lt (small side)
      · obtain ⟨i, h, there, last⟩ := exists_last (Nat.pos_of_ne_zero none_)
        have exact_ := same i h side there
        omega
    · intro few i h side there
      have before := countP_take_lt (p := fun line : BodyLine => line.isOn side) h there
      have all := few side
      omega
  constructor
  · intro same
    have filled : .bare ∉ body := by
      intro missing
      have short := (length_parseHunkLines body (start .old) (start .new)).2 missing
      rw [same, numbered, List.length_mapIdx] at short
      exact Nat.lt_irrefl _ short
    exact ⟨filled, (each filled).1 same⟩
  · rintro ⟨filled, few⟩
    exact (each filled).2 few

end Numbers

section Splitting

variable {document : Document} {hunk : Hunk} {digest : List Char → List Char} {path : List Char} {area : GitDiffArea}

def hunkPieces (hunks : List Hunk) : List (List Char) := hunks.flatMap fun hunk => hunk.lines.map (· ++ ['\n'])

theorem startsHunk_headerLine (hunk : Hunk) (rest : List Char) : startsHunk (hunk.headerLine ++ rest) = true := rfl

theorem startsHunk_body {piece : List Char} (member : piece ∈ printedBody hunk.body) : (!startsHunk piece) = true := by
  obtain ⟨line, _, rfl⟩ := List.mem_map.1 member
  cases line <;> rfl

theorem startsHunk_header {piece : List Char} (member : piece ∈ document.header.map (·.text ++ ['\n'])) :
    (!startsHunk piece) = true := by
  obtain ⟨line, _, rfl⟩ := List.mem_map.1 member
  rw [Bool.not_eq_true', Bool.eq_false_iff]
  intro here
  have inside := Lexing.prefix_of_append_cons (by decide) (List.isPrefixOf_iff_prefix.1 here)
  exact Bool.false_ne_true (line.plain.symm.trans (List.isPrefixOf_iff_prefix.2 inside))

theorem takeWhile_hunkPieces (hunks : List Hunk) : (hunkPieces hunks).takeWhile (!startsHunk ·) = [] := by
  cases hunks with
  | nil => rfl
  | cons hunk rest => rfl

theorem dropWhile_hunkPieces (hunks : List Hunk) : (hunkPieces hunks).dropWhile (!startsHunk ·) = hunkPieces hunks := by
  cases hunks with
  | nil => rfl
  | cons hunk rest => rfl

theorem splitHunks_append {body : List (List Char)} (within : ∀ piece ∈ body, (!startsHunk piece) = true)
    (rest : List (List Char)) : splitHunks (body ++ rest) = splitHunks rest := by
  induction body with
  | nil => rfl
  | cons piece body ih =>
    have here := within piece List.mem_cons_self
    rw [Bool.not_eq_true'] at here
    rw [List.cons_append, splitHunks, if_neg (by rw [here]; exact Bool.false_ne_true)]
    exact ih fun other member => within other (List.mem_cons_of_mem _ member)

theorem splitHunks_hunkPieces (hunks : List Hunk) : splitHunks (hunkPieces hunks) =
    hunks.map fun hunk => (hunk.headerLine ++ ['\n'], printedBody hunk.body) := by
  induction hunks with
  | nil => rfl
  | cons hunk rest ih =>
    have pieces : hunkPieces (hunk :: rest) =
        (hunk.headerLine ++ ['\n']) :: (printedBody hunk.body ++ hunkPieces rest) := by
      simp [hunkPieces, Hunk.lines, printedBody]
    rw [pieces, splitHunks, if_pos (startsHunk_headerLine hunk _), splitHunks_append fun piece => startsHunk_body, ih,
      List.takeWhile_append_of_pos fun piece => startsHunk_body, takeWhile_hunkPieces, List.append_nil, List.map_cons]

def Hunk.parsed (digest : List Char → List Char) (path : List Char) (area : GitDiffArea) (hunk : Hunk) : UnifiedDiffHunk where
  id := digest (area.name.toList ++ '\x00' :: path ++ '\x00' :: endLines hunk.lines)
  header := trimLineEnd (hunk.headerLine ++ ['\n'])
  oldStart := hunk.start .old
  oldCount := hunk.count .old
  newStart := hunk.start .new
  newCount := hunk.count .new
  lines := parseHunkLines (hunk.start .old) (hunk.start .new) (printedBody hunk.body)

theorem raw_eq (hunk : Hunk) : hunk.headerLine ++ ['\n'] ++ (printedBody hunk.body).flatten = endLines hunk.lines := by
  rw [Hunk.lines, endLines_cons, List.append_assoc, List.singleton_append, endLines, List.flatMap_map, printedBody,
    List.flatMap]

theorem parseHunk_printed (hunk : Hunk) (read : UnifiedDiffHunk × List Char) :
    parseHunk digest path area (hunk.headerLine ++ ['\n'], printedBody hunk.body) = .ok read ↔
      (∀ side, hunk.start side < 2 ^ 32 ∧ hunk.count side < 2 ^ 32) ∧
        read = (hunk.parsed digest path area, endLines hunk.lines) := by
  simp only [parseHunk, Relational.bind_eq_ok, parseHunkHeader_headerLine, raw_eq]
  constructor
  · rintro ⟨_, ⟨rfl, small⟩, same⟩
    exact ⟨small, (Except.ok.inj same).symm⟩
  · rintro ⟨small, rfl⟩
    exact ⟨_, ⟨rfl, small⟩, rfl⟩

theorem parseHunks_printed (hunks : List Hunk) (read : List (UnifiedDiffHunk × List Char)) :
    parseHunks digest path area (hunks.map fun hunk => (hunk.headerLine ++ ['\n'], printedBody hunk.body)) = .ok read ↔
      (∀ hunk ∈ hunks, ∀ side, hunk.start side < 2 ^ 32 ∧ hunk.count side < 2 ^ 32) ∧
        read = hunks.map fun hunk => (hunk.parsed digest path area, endLines hunk.lines) := by
  induction hunks generalizing read with
  | nil => exact ⟨fun same => ⟨fun _ absent => absurd absent List.not_mem_nil, (Except.ok.inj same).symm⟩,
      fun ⟨_, same⟩ => congrArg _ same.symm⟩
  | cons hunk rest ih =>
    simp only [List.map_cons, parseHunks, Relational.bind_eq_ok, parseHunk_printed, ih, List.forall_mem_cons]
    constructor
    · rintro ⟨_, ⟨first, rfl⟩, _, ⟨more, rfl⟩, same⟩
      exact ⟨⟨first, more⟩, (Except.ok.inj same).symm⟩
    · rintro ⟨⟨first, more⟩, rfl⟩
      exact ⟨_, ⟨first, rfl⟩, _, ⟨more, rfl⟩, rfl⟩

theorem pieces_text (document : Document) : splitInclusive document.text =
    document.header.map (·.text ++ ['\n']) ++ hunkPieces document.hunks := by
  rw [text_eq, splitInclusive_endLines (feed_lines document), Document.lines, List.map_append, List.map_map, hunkPieces,
    List.map_flatMap]
  rfl

/-- A diff is parsed where all numbers in the first lines of its hunks are `u32`. -/
theorem parseUnifiedDiff_text (document : Document) (parsed : ParsedFileDiff) :
    parseUnifiedDiff digest path area document.text = .ok parsed ↔
      (∀ hunk ∈ document.hunks, ∀ side, hunk.start side < 2 ^ 32 ∧ hunk.count side < 2 ^ 32) ∧ parsed = {
        shown := ⟨path, area, isBinary document.text,
          if isWholeFileOnly document.text then [] else document.hunks.map (Hunk.parsed digest path area)⟩
        preamble := document.preamble
        rawHunks := document.hunks.map fun hunk => ((hunk.parsed digest path area).id, endLines hunk.lines)
        wholeFileOnly := isWholeFileOnly document.text } := by
  have preamble : ((document.header.map (·.text ++ ['\n']) ++ hunkPieces document.hunks).takeWhile (!startsHunk ·)).flatten =
      document.preamble := by
    rw [List.takeWhile_append_of_pos fun piece => startsHunk_header, takeWhile_hunkPieces, List.append_nil,
      Document.preamble, endLines, List.flatMap_map]
    rfl
  simp only [parseUnifiedDiff, pieces_text, preamble, List.dropWhile_append_of_pos fun piece => startsHunk_header,
    dropWhile_hunkPieces, splitHunks_hunkPieces, Relational.bind_eq_ok, parseHunks_printed]
  constructor
  · rintro ⟨_, ⟨small, rfl⟩, same⟩
    refine ⟨small, (Except.ok.inj same).symm.trans ?_⟩
    rw [List.map_map, List.map_map]
    rfl
  · rintro ⟨small, rfl⟩
    refine ⟨_, ⟨small, rfl⟩, congrArg _ ?_⟩
    rw [List.map_map, List.map_map]
    rfl

/-- The content does not decide how the file is staged, the numbers fit into 32 bits, and no line of a hunk that is shown
lacks its mark. -/
structure Document.Fits (document : Document) : Prop where
  content : isBinary document.preamble = true ∨ ¬document.Imitates
  ranges : ∀ hunk ∈ document.hunks, ∀ side, hunk.start side < 2 ^ 32 ∧ hunk.count side < 2 ^ 32
  lines : isWholeFileOnly document.preamble = false → ∀ hunk ∈ document.hunks,
    .bare ∉ hunk.body ∧ ∀ side, hunk.start side + hunk.count side ≤ 2 ^ 32

theorem isParsed_iff (digest : List Char → List Char) (path : List Char) (area : GitDiffArea) (document : Document) :
    (∃ parsed, parseUnifiedDiff digest path area document.text = .ok parsed ∧ document.IsParsed parsed) ↔
      document.Fits := by
  have classes (content : isBinary document.preamble = true ∨ ¬document.Imitates) :
      isBinary document.text = isBinary document.preamble ∧
        isWholeFileOnly document.text = isWholeFileOnly document.preamble := by
    have whole : document.Imitates → isWholeFileOnly document.preamble = true := fun imitates => by
      rw [isWholeFileOnly, content.resolve_right fun other => other imitates, Bool.true_or]
    constructor
    · apply Bool.eq_iff_iff.2
      rw [isBinary_text]
      exact or_iff_left_of_imp fun imitates => content.resolve_right fun other => other imitates
    · apply Bool.eq_iff_iff.2
      rw [isWholeFileOnly_text]
      exact or_iff_left_of_imp whole
  have numbers (small : ∀ hunk ∈ document.hunks, ∀ side, hunk.start side < 2 ^ 32 ∧ hunk.count side < 2 ^ 32) :
      (document.hunks.map (Hunk.parsed digest path area)).map UnifiedDiffHunk.lines =
          document.hunks.map (fun hunk => numbered hunk.start hunk.body) ↔
        ∀ hunk ∈ document.hunks, .bare ∉ hunk.body ∧ ∀ side, hunk.start side + hunk.count side ≤ 2 ^ 32 := by
    rw [List.map_map, List.map_inj_left]
    apply forall₂_congr
    intro hunk member
    exact parseHunkLines_eq_numbered fun side => (small hunk member side).1
  simp only [parseUnifiedDiff_text]
  constructor
  · rintro ⟨_, ⟨small, rfl⟩, read⟩
    have content : isBinary document.preamble = true ∨ ¬document.Imitates := by
      by_cases imitates : document.Imitates
      · exact .inl (read.binary.symm.trans ((isBinary_text document).2 (.inr imitates)))
      · exact .inr imitates
    refine ⟨content, small, fun hunks => (numbers small).1 ?_⟩
    have lines := read.numbers
    rw [(classes content).2, hunks] at lines
    exact lines
  · intro fits
    refine ⟨_, ⟨fits.ranges, rfl⟩, ?_⟩
    obtain ⟨binary, whole⟩ := classes fits.content
    have shown {α : Type} (f : UnifiedDiffHunk → α) (g : Hunk → α)
        (same : isWholeFileOnly document.preamble = false →
          (document.hunks.map (Hunk.parsed digest path area)).map f = document.hunks.map g) :
        (if isWholeFileOnly document.text = true then [] else document.hunks.map (Hunk.parsed digest path area)).map f =
          if isWholeFileOnly document.preamble = true then [] else document.hunks.map g := by
      rw [whole]
      split
      · rfl
      · rename_i hunks
        exact same (Bool.eq_false_iff.2 hunks)
    exact {
      lossless := by rw [Document.text, List.flatMap_map]
      preamble := rfl
      rawHunks := by rw [List.map_map]; rfl
      binary
      wholeFileOnly := whole
      ranges := shown _ _ fun _ => by rw [List.map_map]; rfl
      numbers := shown _ _ fun hunks => (numbers fits.ranges).2 (fits.lines hunks) }

/-- A line that says how Git prints binary files is added to an empty file. -/
def patchDocument : Document where
  header := [⟨⟨"diff --git a/n b/n".toList, by decide⟩, by decide⟩,
    ⟨⟨"index e69de29..946df7e 100644".toList, by decide +kernel⟩, by decide +kernel⟩,
    ⟨⟨"--- a/n".toList, by decide⟩, by decide⟩, ⟨⟨"+++ b/n".toList, by decide⟩, by decide⟩]
  hunks := [⟨fun side => if side = .old then 0 else 1, none, [.addition ⟨"GIT binary patch".toList, by decide⟩]⟩]

/-- The file is taken for binary. -/
theorem patchDocument_binary : ¬∃ parsed,
    parseUnifiedDiff id ['n'] .unstaged patchDocument.text = .ok parsed ∧ patchDocument.IsParsed parsed := by
  rintro ⟨parsed, read, right⟩
  obtain ⟨_, rfl⟩ := (parseUnifiedDiff_text patchDocument parsed).1 read
  have imitates : patchDocument.Imitates :=
    ⟨_, List.mem_singleton_self _, binaryPatch, List.mem_singleton_self _, List.infix_refl _⟩
  have binary := right.binary
  dsimp only at binary
  rw [(isBinary_text patchDocument).2 (.inr imitates)] at binary
  exact absurd binary (by decide +kernel)

end Splitting

end VibeLink.Git
