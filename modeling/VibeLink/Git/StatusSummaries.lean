import VibeLink.Git.WorkingStatus
import VibeLink.Worktrees.Calls

/-! What the list of worktrees (`app/git/worktree.rs`) and the lifecycle of worktrees (`app/git/worktree_lifecycle.rs`)
read of the status that `parseWorkingStatus` reads whole. -/

namespace VibeLink.Git

open Worktrees.Call (StatusSummary parseU64)

def isAsciiWhitespace (c : Char) : Bool := c = ' ' || c = '\t' || c = '\n' || c = '\x0c' || c = '\r'

def splitAsciiWhitespace (text : List Char) : List (List Char) := (text.splitOnP isAsciiWhitespace).filter (· ≠ [])

def signedCount (sign : Char) (part : Option (List Char)) : Nat :=
  (part.bind fun part => if part.head? = some sign then parseU64 part.tail else none).getD 0

def statusLine (summary : StatusSummary) (line : List Char) : StatusSummary :=
  if ['1', ' '].isPrefixOf line || ['2', ' '].isPrefixOf line then { summary with dirty := true }
  else if ['u', ' '].isPrefixOf line then { summary with dirty := true, hasConflicts := true }
  else if ['?', ' '].isPrefixOf line then { summary with untracked := true }
  else if "# branch.ab ".toList.isPrefixOf line then
    let parts := splitAsciiWhitespace (line.drop 12)
    { summary with ahead := signedCount '+' parts[0]?, behind := signedCount '-' parts[1]? }
  else summary

/-- `parse_status_summary` of `app/git/worktree.rs`; the other one is `Worktrees.Call.parseStatusSummary`. -/
def parseStatusSummary (output : List Char) : StatusSummary :=
  (output.splitOnP fun c => c = '\x00' || c = '\n').foldl statusLine ⟨false, false, false, 0, 0⟩

/-- There is an entry of the kind, which `parseWorkingStatus` lists unless it comes after the limit. -/
def Has (records : List StatusRecord) (kind : EntryKind) : Prop :=
  (parseWorkingStatus (printed records)).of kind ≠ [] ∨ listed kind ((entriesOf records).drop statusEntryLimit) ≠ []

/-- The flags say which kinds of entries there are. -/
structure Agrees (summary : StatusSummary) (records : List StatusRecord) : Prop where
  dirty : summary.dirty = true ↔ Has records .staged ∨ Has records .unstaged ∨ Has records .conflicted
  untracked : summary.untracked = true ↔ Has records .untracked
  hasConflicts : summary.hasConflicts = true ↔ Has records .conflicted

inductive Flag
  | dirty | untracked | hasConflicts
  deriving DecidableEq

def Flag.isSet (summary : StatusSummary) : Flag → Bool
  | .dirty => summary.dirty
  | .untracked => summary.untracked
  | .hasConflicts => summary.hasConflicts

def Flag.marks : Flag → List Char
  | .dirty => ['1', '2', 'u']
  | .untracked => ['?']
  | .hasConflicts => ['u']

def EntryKind.flags : EntryKind → List Flag
  | .staged | .unstaged => [.dirty]
  | .untracked => [.untracked]
  | .conflicted => [.dirty, .hasConflicts]

def lead (text : List Char) : Option Char := if text[1]? = some ' ' then text.head? else none

def Flag.setBy (flag : Flag) (text : List Char) : Bool := (lead text).any (· ∈ flag.marks)

def StatusRecord.Unchanged : StatusRecord → Prop
  | .ordinary x y .. | .renamed x y .. => x.char = '.' ∧ y.char = '.'
  | _ => False

/-- The record sets the flag without an entry: it has no change, or a piece behind its first one begins like a record. -/
def StatusRecord.Imitates (pieces : List Char → List (List Char)) (record : StatusRecord) (flag : Flag) : Prop :=
  (flag = .dirty ∧ record.Unchanged) ∨ ∃ piece ∈ (record.texts.flatMap pieces).tail, flag.setBy piece = true

def Covered (pieces : List Char → List (List Char)) (records : List StatusRecord) : Prop :=
  ∀ flag : Flag, (∃ record ∈ records, record.Imitates pieces flag) → ∃ entry ∈ entriesOf records, flag ∈ entry.1.flags

section Flags

variable {summary : StatusSummary} {flag : Flag} {records : List StatusRecord}

theorem isPrefixOf_eq (mark : Char) (text : List Char) : [mark, ' '].isPrefixOf text = decide (lead text = some mark) := by
  apply Bool.eq_iff_iff.2
  rw [List.isPrefixOf_iff_prefix, decide_eq_true_iff, lead]
  cases text with
  | nil => simp
  | cons first rest =>
    cases rest with
    | nil => simp
    | cons second rest =>
      rw [List.cons_prefix_cons, List.cons_prefix_cons]
      by_cases space : second = ' '
      · subst space
        simp [eq_comm]
      · simp [space, Ne.symm space]

theorem isSet_statusLine (summary : StatusSummary) (line : List Char) (flag : Flag) :
    flag.isSet (statusLine summary line) = (flag.isSet summary || flag.setBy line) := by
  simp only [statusLine, isPrefixOf_eq, Flag.setBy]
  generalize lead line = mark
  generalize "# branch.ab ".toList.isPrefixOf line = branch
  cases mark with
  | none => cases branch <;> cases flag <;> simp [Flag.isSet]
  | some mark => cases flag <;> grind [Flag.isSet, Flag.marks]

theorem isSet_fields (fields : List (List Char)) (summary : StatusSummary) (flag : Flag) :
    flag.isSet (fields.foldl StatusSummary.field summary) = flag.isSet summary := by
  induction fields generalizing summary with
  | nil => rfl
  | cons field rest ih =>
    rw [List.foldl_cons, ih]
    unfold StatusSummary.field
    split <;> cases flag <;> rfl

theorem isSet_entry (summary : StatusSummary) (entry : List Char) (flag : Flag) :
    flag.isSet (summary.entry entry) = (flag.isSet summary || flag.setBy entry) := by
  simp only [StatusSummary.entry, isPrefixOf_eq, Flag.setBy]
  generalize lead entry = mark
  generalize "# branch.ab ".toList.isPrefixOf entry = branch
  cases mark with
  | none => cases branch <;> simp [isSet_fields]
  | some mark => cases flag <;> grind [Flag.isSet, Flag.marks, isSet_fields]

theorem isSet_foldl {read : StatusSummary → List Char → StatusSummary}
    (step : ∀ summary piece flag, Flag.isSet (read summary piece) flag = (flag.isSet summary || flag.setBy piece))
    (pieces : List (List Char)) (summary : StatusSummary) (flag : Flag) :
    flag.isSet (pieces.foldl read summary) = (flag.isSet summary || pieces.any flag.setBy) := by
  induction pieces generalizing summary with
  | nil => rw [List.foldl_nil, List.any_nil, Bool.or_false]
  | cons piece rest ih => rw [List.foldl_cons, ih, step, List.any_cons, Bool.or_assoc]

end Flags

section Pieces

variable {flag : Flag} {text : List Char}

theorem splitOnP_eq_splitOn (zero : '\x00' ∉ text) :
    (text.splitOnP fun c => c = '\x00' || c = '\n') = text.splitOn '\n' := by
  rw [List.splitOn_eq_splitOnP]
  induction text with
  | nil => rw [List.splitOnP_nil, List.splitOnP_nil]
  | cons c rest ih =>
    rw [List.splitOnP_cons_eq_if_modifyHead, List.splitOnP_cons_eq_if_modifyHead, ih (List.not_mem_of_not_mem_cons zero)]
    simp [Ne.symm (List.ne_of_not_mem_cons zero)]

theorem exists_splitOn (text : List Char) : ∃ first rest, text.splitOn '\n' = first :: rest ∧
    ∀ flag : Flag, flag.setBy first = flag.setBy text := by
  by_cases more : '\n' ∈ text
  · obtain ⟨first, rest, rfl, apart⟩ := List.eq_append_cons_of_mem more
    refine ⟨first, rest.splitOn '\n', List.splitOn_append_cons_self_of_not_mem apart rest, fun flag => ?_⟩
    cases first with
    | nil => by_cases space : rest[0]? = some ' ' <;> cases flag <;> simp [Flag.setBy, lead, Flag.marks, space]
    | cons first others =>
      cases others with
      | nil => rfl
      | cons second others => rfl
  · exact ⟨text, [], List.splitOn_eq_singleton more, fun _ => rfl⟩

end Pieces

section Agreement

variable {pieces : List Char → List (List Char)} {flag : Flag} {records : List StatusRecord} {summary : StatusSummary}

theorem flags_changes (x y : Char) (sub path : List Char) (oldPath : Option (List Char)) (flag : Flag) :
    (∃ entry ∈ changes x y sub path oldPath, flag ∈ entry.1.flags) ↔ flag = .dirty ∧ ¬(x = '.' ∧ y = '.') := by
  unfold changes
  by_cases first : x = '.' <;> by_cases second : y = '.' <;> simp [first, second, EntryKind.flags]

theorem setBy_fielded (flag : Flag) (mark : Char) (fields : List (List Char)) (last : List Char) :
    flag.setBy (fielded ([mark] :: fields) last) = true ↔ mark ∈ flag.marks := decide_eq_true_iff

theorem setBy_changed {mark : Char} (marked : ∀ flag : Flag, mark ∈ flag.marks ↔ flag = .dirty) (x y : Code)
    (sub path : List Char) (oldPath : Option (List Char)) (fields : List (List Char)) (last : List Char) (flag : Flag) :
    flag.setBy (fielded ([mark] :: fields) last) = true ↔
      (∃ entry ∈ changes x.char y.char sub path oldPath, flag ∈ entry.1.flags) ∨
        flag = .dirty ∧ x.char = '.' ∧ y.char = '.' := by
  rw [setBy_fielded, flags_changes, marked, ← and_or_left]
  exact (and_iff_left (or_comm.1 (Classical.em _))).symm

theorem exists_texts (record : StatusRecord) : ∃ first more, record.texts = first :: more ∧ ∀ flag : Flag,
    flag.setBy first = true ↔ (∃ entry ∈ record.entries, flag ∈ entry.1.flags) ∨ flag = .dirty ∧ record.Unchanged := by
  cases record with
  | ordinary x y sub mH mI mW hH hI path =>
    refine ⟨_, _, rfl, fun flag => ?_⟩
    exact setBy_changed (fun flag => by cases flag <;> decide) x y _ _ _ _ _ flag
  | renamed x y sub mH mI mW hH hI score path oldPath =>
    refine ⟨_, _, rfl, fun flag => ?_⟩
    exact setBy_changed (fun flag => by cases flag <;> decide) x y _ _ _ _ _ flag
  | unmerged | untracked | ignored | header =>
    refine ⟨_, _, rfl, fun flag => ?_⟩
    rw [setBy_fielded]
    cases flag <;> simp [StatusRecord.entries, StatusRecord.Unchanged, EntryKind.flags, Flag.marks]

theorem any_setBy_iff (heads : ∀ text, ∃ first rest, pieces text = first :: rest ∧
    ∀ flag : Flag, flag.setBy first = flag.setBy text) (record : StatusRecord) (flag : Flag) :
    (record.texts.flatMap pieces).any flag.setBy = true ↔
      (∃ entry ∈ record.entries, flag ∈ entry.1.flags) ∨ record.Imitates pieces flag := by
  obtain ⟨text, more, texts, own⟩ := exists_texts record
  obtain ⟨first, rest, split, same⟩ := heads text
  have all : record.texts.flatMap pieces = first :: (rest ++ more.flatMap pieces) := by
    rw [texts, List.flatMap_cons, split, List.cons_append]
  rw [StatusRecord.Imitates, all, List.any_cons, List.tail_cons, Bool.or_eq_true, same, own, or_assoc, List.any_eq_true]

theorem has_iff (records : List StatusRecord) (kind : EntryKind) :
    Has records kind ↔ ∃ entry ∈ entriesOf records, entry.1 = kind := by
  have filled (entries : List (EntryKind × StatusEntry)) : listed kind entries ≠ [] ↔ ∃ entry ∈ entries, entry.1 = kind := by
    rw [listed, ne_eq, List.map_eq_nil_iff, List.filter_eq_nil_iff]
    simp
  rw [Has, of_parseWorkingStatus, filled, filled]
  conv_rhs => rw [← List.take_append_drop statusEntryLimit (entriesOf records)]
  simp only [List.mem_append, or_and_right, exists_or]

theorem flags_entriesOf (records : List StatusRecord) (flag : Flag) :
    (∃ entry ∈ entriesOf records, flag ∈ entry.1.flags) ↔ ∃ kind : EntryKind, flag ∈ kind.flags ∧ Has records kind := by
  simp only [has_iff]
  constructor
  · rintro ⟨entry, member, set_⟩
    exact ⟨entry.1, set_, entry, member, rfl⟩
  · rintro ⟨_, set_, entry, member, rfl⟩
    exact ⟨entry, member, set_⟩

theorem agrees_iff_flags : Agrees summary records ↔ ∀ flag : Flag,
    flag.isSet summary = true ↔ ∃ entry ∈ entriesOf records, flag ∈ entry.1.flags := by
  have kinds (P : EntryKind → Prop) (flag : Flag) : (∃ kind : EntryKind, flag ∈ kind.flags ∧ P kind) ↔
      flag = .dirty ∧ (P .staged ∨ P .unstaged ∨ P .conflicted) ∨ flag = .untracked ∧ P .untracked ∨
        flag = .hasConflicts ∧ P .conflicted := by
    constructor
    · rintro ⟨kind, set_, holds⟩
      cases kind <;> cases flag <;> simp_all [EntryKind.flags]
    · rintro (⟨rfl, holds | holds | holds⟩ | ⟨rfl, holds⟩ | ⟨rfl, holds⟩)
      · exact ⟨.staged, by decide, holds⟩
      · exact ⟨.unstaged, by decide, holds⟩
      · exact ⟨.conflicted, by decide, holds⟩
      · exact ⟨.untracked, by decide, holds⟩
      · exact ⟨.conflicted, by decide, holds⟩
  simp only [flags_entriesOf, kinds]
  constructor
  · intro agrees flag
    cases flag with
    | dirty => simpa [Flag.isSet] using agrees.dirty
    | untracked => simpa [Flag.isSet] using agrees.untracked
    | hasConflicts => simpa [Flag.isSet] using agrees.hasConflicts
  · intro sets
    constructor
    · simpa [Flag.isSet] using sets .dirty
    · simpa [Flag.isSet] using sets .untracked
    · simpa [Flag.isSet] using sets .hasConflicts

theorem agrees_iff_covered (heads : ∀ text, ∃ first rest, pieces text = first :: rest ∧
    ∀ flag : Flag, flag.setBy first = flag.setBy text)
    (read : ∀ flag : Flag, flag.isSet summary = ((records.flatMap StatusRecord.texts).flatMap pieces).any flag.setBy) :
    Agrees summary records ↔ Covered pieces records := by
  rw [agrees_iff_flags, Covered]
  apply forall_congr'
  intro flag
  have set_ : flag.isSet summary = true ↔ (∃ entry ∈ entriesOf records, flag ∈ entry.1.flags) ∨
      ∃ record ∈ records, record.Imitates pieces flag := by
    rw [read, List.flatMap_assoc, List.any_flatMap, List.any_eq_true]
    simp only [any_setBy_iff heads, and_or_left, exists_or]
    apply or_congr_left
    constructor
    · rintro ⟨record, member, entry, inside, flagged⟩
      exact ⟨entry, List.mem_flatMap.2 ⟨record, member, inside⟩, flagged⟩
    · rintro ⟨entry, inside, flagged⟩
      obtain ⟨record, member, inside⟩ := List.mem_flatMap.1 inside
      exact ⟨record, member, entry, inside, flagged⟩
  rw [set_]
  exact ⟨fun same more => same.1 (.inr more), fun covered => ⟨fun either => either.elim id covered, .inl⟩⟩

theorem flags_parseStatusSummary (records : List StatusRecord) (flag : Flag) :
    flag.isSet (parseStatusSummary (printed records)) =
      ((records.flatMap StatusRecord.texts).flatMap (·.splitOn '\n')).any flag.setBy := by
  have lines : (records.flatMap StatusRecord.texts).flatMap (·.splitOnP fun c => c = '\x00' || c = '\n') =
      (records.flatMap StatusRecord.texts).flatMap (·.splitOn '\n') :=
    List.flatMap_congr fun text member => splitOnP_eq_splitOn (zero_printed records text member)
  rw [parseStatusSummary, printed, splitOnP_printed (by decide), lines, isSet_foldl isSet_statusLine, List.any_append]
  cases flag <;> simp [Flag.isSet, Flag.setBy, lead]

theorem flags_lifecycle (records : List StatusRecord) (flag : Flag) :
    flag.isSet (Worktrees.Call.parseStatusSummary (.ofList (printed records))) =
      ((records.flatMap StatusRecord.texts).flatMap ([·])).any flag.setBy := by
  rw [Worktrees.Call.parseStatusSummary, String.toList_ofList, printed, splitOn_printed (zero_printed records),
    isSet_foldl isSet_entry, List.any_append]
  cases flag <;> simp [Flag.isSet, Flag.setBy, lead]

theorem solid_zero : ∀ c ∈ ['0'], c ≠ ' ' ∧ c ≠ '\x00' ∧ c ≠ '\n' :=
  List.forall_mem_singleton.2 (by decide)

theorem solid_dot : '.' ≠ ' ' ∧ '.' ≠ '\x00' ∧ '.' ≠ '\n' := by decide

/-- The file `? x` has been renamed to `y`. -/
def renamedRecord : StatusRecord :=
  let field : Field := ⟨['0'], solid_zero⟩
  .renamed ⟨'R', by decide⟩ ⟨'.', solid_dot⟩ field field field field field field field ⟨['y'], by decide, by decide⟩
    ⟨['?', ' ', 'x'], by decide, by decide⟩

end Agreement

end VibeLink.Git
