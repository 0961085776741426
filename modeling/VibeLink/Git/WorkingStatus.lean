import Mathlib.Data.List.Basic
import Mathlib.Data.List.Induction
import Mathlib.Tactic.Common

/-! The changes of a repository as `git status --porcelain=v2 -z` prints them, and what is read of them
(`app/git/status.rs`).  What Git prints is text: bytes that are no UTF-8 have been replaced, which leaves the zeros and
the spaces where they are. -/

namespace VibeLink.Git

inductive ChangeType
  | added | modified | deleted | renamed | copied | typeChanged | untracked
  deriving DecidableEq

def changeTypeFromStatus : Char → ChangeType
  | 'A' => .added
  | 'D' => .deleted
  | 'R' => .renamed
  | 'C' => .copied
  | 'T' => .typeChanged
  | _ => .modified

inductive RepoKind
  | submodule | nestedRepo
  deriving DecidableEq

structure SubmoduleState where
  commitChanged : Bool
  modified : Bool
  untracked : Bool
  deriving DecidableEq

structure StatusEntry where
  path : List Char
  oldPath : Option (List Char)
  changeType : ChangeType
  repoKind : Option RepoKind
  submoduleState : Option SubmoduleState
  deriving DecidableEq

structure WorkingStatus where
  staged : List StatusEntry
  unstaged : List StatusEntry
  untracked : List StatusEntry
  conflicted : List StatusEntry
  truncated : Bool
  deriving DecidableEq

def WorkingStatus.default : WorkingStatus := ⟨[], [], [], [], false⟩

/-- The lists that entries are pushed on. -/
inductive EntryKind
  | staged | unstaged | untracked | conflicted
  deriving DecidableEq

def WorkingStatus.push (status : WorkingStatus) (entry : StatusEntry) : EntryKind → WorkingStatus
  | .staged => { status with staged := status.staged ++ [entry] }
  | .unstaged => { status with unstaged := status.unstaged ++ [entry] }
  | .untracked => { status with untracked := status.untracked ++ [entry] }
  | .conflicted => { status with conflicted := status.conflicted ++ [entry] }

def WorkingStatus.of (status : WorkingStatus) : EntryKind → List StatusEntry
  | .staged => status.staged
  | .unstaged => status.unstaged
  | .untracked => status.untracked
  | .conflicted => status.conflicted

def statusEntryLimit : Nat := 5000

/-- `str::splitn`: at most so many pieces, of which the last keeps its separators. -/
def splitn (separator : Char) : Nat → List Char → List (List Char)
  | 0, _ => []
  | 1, text => [text]
  | n + 2, text =>
    if separator ∈ text then
      text.takeWhile (· ≠ separator) :: splitn separator (n + 1) (text.dropWhile (· ≠ separator)).tail
    else [text]

def statusFields (record : List Char) (fieldCount : Nat) : Option (List Char × List Char × List Char) :=
  let fields := splitn ' ' fieldCount record
  if fields.length ≠ fieldCount then none
  else some (fields.getD 1 [], fields.getD 2 [], fields.getD (fieldCount - 1) [])

def submoduleStateFromSub : List Char → Option SubmoduleState
  | [] => none
  | first :: rest =>
    if first = 'S' then some ⟨rest.head? == some 'C', rest.tail.head? == some 'M', rest.tail.tail.head? == some 'U'⟩
    else none

def changeTypeForXy (xy : List Char) : ChangeType :=
  ((xy.find? fun status => status ≠ '.' ∧ status ≠ ' ').map changeTypeFromStatus).getD .modified

/-- `strip_prefix("? ").unwrap_or_default()` -/
def untrackedPath (record : List Char) : List Char := if ['?', ' '].isPrefixOf record then record.drop 2 else []

def statusEntry (path : List Char) (oldPath : Option (List Char)) (changeType : ChangeType) (sub : List Char) : StatusEntry :=
  let submoduleState := submoduleStateFromSub sub
  ⟨path, oldPath, changeType, submoduleState.map fun _ => .submodule, submoduleState⟩

/-- What has been read, and how many entries that is. -/
structure Scan where
  status : WorkingStatus
  total : Nat

def Scan.push (s : Scan) (entry : StatusEntry) (kind : EntryKind) : Scan := ⟨s.status.push entry kind, s.total + 1⟩

def Scan.pushChanged (limit : Nat) (s : Scan) (xy sub path : List Char) (oldPath : Option (List Char)) : Scan :=
  let x := xy.getD 0 '.'
  let y := xy.getD 1 '.'
  let s := if x ≠ '.' then s.push (statusEntry path oldPath (changeTypeFromStatus x) sub) .staged else s
  if y ≠ '.' ∧ s.total < limit then s.push (statusEntry path oldPath (changeTypeFromStatus y) sub) .unstaged else s

/-- The loop over the records, and the records that it leaves. -/
def readRecords (limit : Nat) : Scan → List (List Char) → Scan × List (List Char)
  | s, [] => (s, [])
  | s, record :: rest =>
    if limit ≤ s.total then (s, record :: rest)
    else match record.head? with
      | some '?' => readRecords limit (s.push ⟨untrackedPath record, none, .untracked, none, none⟩ .untracked) rest
      | some 'u' => match statusFields record 11 with
        | some (xy, sub, path) =>
          readRecords limit (s.push (statusEntry path none (changeTypeForXy xy) sub) .conflicted) rest
        | none => readRecords limit s rest
      | some '1' => match statusFields record 9 with
        | some (xy, sub, path) => readRecords limit (s.pushChanged limit xy sub path none) rest
        | none => readRecords limit s rest
      | some '2' => match statusFields record 10 with
        | some (xy, sub, path) => match rest with
          | old :: rest => readRecords limit (s.pushChanged limit xy sub path (some old)) rest
          | [] => (s.pushChanged limit xy sub path none, [])
        | none => readRecords limit s rest
      | _ => readRecords limit s rest

def parseWorkingStatus (output : List Char) : WorkingStatus :=
  let records := (output.splitOn '\x00').filter (· ≠ [])
  let (s, rest) := readRecords statusEntryLimit ⟨.default, 0⟩ records
  { s.status with truncated := decide (statusEntryLimit ≤ s.total) && !rest.isEmpty }

section Records

/-- A field before the path. -/
structure Field where
  text : List Char
  solid : ∀ c ∈ text, c ≠ ' ' ∧ c ≠ '\x00' ∧ c ≠ '\n'

structure Code where
  char : Char
  solid : char ≠ ' ' ∧ char ≠ '\x00' ∧ char ≠ '\n'

structure Path where
  text : List Char
  filled : text ≠ []
  zero : '\x00' ∉ text

structure HeaderText where
  text : List Char
  zero : '\x00' ∉ text

/-- What Git prints of one path, and the lines about the branch. -/
inductive StatusRecord
  | ordinary (x y : Code) (sub mH mI mW hH hI : Field) (path : Path)
  | renamed (x y : Code) (sub mH mI mW hH hI score : Field) (path oldPath : Path)
  | unmerged (x y : Code) (sub m1 m2 m3 mW h1 h2 h3 : Field) (path : Path)
  | untracked (path : Path)
  | ignored (path : Path)
  | header (text : HeaderText)

def fielded (fields : List (List Char)) (last : List Char) : List Char := fields.flatMap (· ++ [' ']) ++ last

def StatusRecord.texts : StatusRecord → List (List Char)
  | .ordinary x y sub mH mI mW hH hI path =>
    [fielded [['1'], [x.char, y.char], sub.text, mH.text, mI.text, mW.text, hH.text, hI.text] path.text]
  | .renamed x y sub mH mI mW hH hI score path oldPath =>
    [fielded [['2'], [x.char, y.char], sub.text, mH.text, mI.text, mW.text, hH.text, hI.text, score.text] path.text,
      oldPath.text]
  | .unmerged x y sub m1 m2 m3 mW h1 h2 h3 path =>
    [fielded [['u'], [x.char, y.char], sub.text, m1.text, m2.text, m3.text, mW.text, h1.text, h2.text, h3.text] path.text]
  | .untracked path => [fielded [['?']] path.text]
  | .ignored path => [fielded [['!']] path.text]
  | .header text => [fielded [['#']] text.text]

def printed (records : List StatusRecord) : List Char := (records.flatMap StatusRecord.texts).flatMap (· ++ ['\x00'])

def changes (x y : Char) (sub path : List Char) (oldPath : Option (List Char)) : List (EntryKind × StatusEntry) :=
  (if x ≠ '.' then [(.staged, statusEntry path oldPath (changeTypeFromStatus x) sub)] else []) ++
  (if y ≠ '.' then [(.unstaged, statusEntry path oldPath (changeTypeFromStatus y) sub)] else [])

def StatusRecord.entries : StatusRecord → List (EntryKind × StatusEntry)
  | .ordinary x y sub _ _ _ _ _ path => changes x.char y.char sub.text path.text none
  | .renamed x y sub _ _ _ _ _ _ path oldPath => changes x.char y.char sub.text path.text (some oldPath.text)
  | .unmerged x y sub _ _ _ _ _ _ _ path =>
    [(.conflicted, statusEntry path.text none (changeTypeForXy [x.char, y.char]) sub.text)]
  | .untracked path => [(.untracked, ⟨path.text, none, .untracked, none, none⟩)]
  | .ignored _ => []
  | .header _ => []

def entriesOf (records : List StatusRecord) : List (EntryKind × StatusEntry) := records.flatMap StatusRecord.entries

def listed (kind : EntryKind) (entries : List (EntryKind × StatusEntry)) : List StatusEntry :=
  (entries.filter fun entry => entry.1 = kind).map Prod.snd

end Records

section Splitting

variable {separator : Char} {text last : List Char} {fields : List (List Char)}

theorem splitn_fielded (solid : ∀ field ∈ fields, ' ' ∉ field) (last : List Char) :
    splitn ' ' (fields.length + 1) (fielded fields last) = fields ++ [last] := by
  induction fields with
  | nil => rfl
  | cons field rest ih =>
    have apart : ∀ c ∈ field, decide (c ≠ ' ') = true := by
      intro c member
      apply decide_eq_true
      rintro rfl
      exact solid field List.mem_cons_self member
    have text : fielded (field :: rest) last = field ++ ' ' :: fielded rest last := by simp [fielded]
    rw [List.length_cons, splitn, text, if_pos (List.mem_append_right _ List.mem_cons_self),
      List.takeWhile_append_of_pos apart, List.dropWhile_append_of_pos apart,
      List.takeWhile_cons_of_neg (by simp), List.dropWhile_cons_of_neg (by simp), List.append_nil, List.tail_cons,
      ih fun other member => solid other (List.mem_cons_of_mem _ member)]
    rfl

theorem statusFields_fielded (solid : ∀ field ∈ fields, ' ' ∉ field) (last : List Char) :
    statusFields (fielded fields last) (fields.length + 1) =
      some ((fields ++ [last]).getD 1 [], (fields ++ [last]).getD 2 [], last) := by
  rw [statusFields, splitn_fielded solid]
  simp

theorem splitOnP_printed {p : Char → Bool} (ends : p '\x00' = true) (texts : List (List Char)) :
    (texts.flatMap (· ++ ['\x00'])).splitOnP p = texts.flatMap (·.splitOnP p) ++ [[]] := by
  induction texts with
  | nil => rw [List.flatMap_nil, List.splitOnP_nil, List.flatMap_nil, List.nil_append]
  | cons text rest ih =>
    rw [List.flatMap_cons, List.append_assoc, List.singleton_append, List.splitOnP_append_cons _ _ ends, ih,
      List.flatMap_cons, List.append_assoc]

theorem splitOn_printed {texts : List (List Char)} (zero : ∀ text ∈ texts, '\x00' ∉ text) :
    (texts.flatMap (· ++ ['\x00'])).splitOn '\x00' = texts ++ [[]] := by
  have whole : texts.flatMap (·.splitOn '\x00') = texts.flatMap ([·]) :=
    List.flatMap_congr fun text member => List.splitOn_eq_singleton (zero text member)
  rw [List.splitOn_eq_splitOnP, splitOnP_printed rfl]
  simp only [← List.splitOn_eq_splitOnP]
  rw [whole, List.flatMap_singleton']

end Splitting

section Reading

def head (mark : Char) (x y : Code) (fields : List Field) : List (List Char) :=
  [mark] :: [x.char, y.char] :: fields.map Field.text

theorem forall_mem_head {P : Char → Prop} {mark : Char} {x y : Code} {fields : List Field} (marked : P mark) (first : P x.char)
    (second : P y.char) (solid : ∀ field ∈ fields, ∀ c ∈ field.text, P c) :
    ∀ text ∈ head mark x y fields, ∀ c ∈ text, P c := by
  refine List.forall_mem_cons.2 ⟨?_, List.forall_mem_cons.2 ⟨?_, ?_⟩⟩
  · exact List.forall_mem_singleton.2 marked
  · exact List.forall_mem_cons.2 ⟨first, List.forall_mem_singleton.2 second⟩
  · exact List.forall_mem_map.2 solid

theorem statusFields_head {mark : Char} (marked : mark ≠ ' ') (x y : Code) (sub : Field) (fields : List Field)
    (path : List Char) : statusFields (fielded (head mark x y (sub :: fields)) path) (fields.length + 4) =
      some ([x.char, y.char], sub.text, path) := by
  have solid : ∀ text ∈ head mark x y (sub :: fields), ' ' ∉ text := by
    have each : ∀ text ∈ head mark x y (sub :: fields), ∀ c ∈ text, c ≠ ' ' :=
      forall_mem_head marked x.solid.1 y.solid.1 fun field _ c member => (field.solid c member).1
    exact fun text member space => each text member _ space rfl
  have read := statusFields_fielded solid path
  have count : (head mark x y (sub :: fields)).length + 1 = fields.length + 4 := by simp [head]
  rw [count] at read
  exact read

theorem zero_fielded {fields : List (List Char)} {last : List Char} (zero : ∀ text ∈ fields, ∀ c ∈ text, c ≠ '\x00')
    (end_ : '\x00' ∉ last) : '\x00' ∉ fielded fields last := by
  intro member
  rw [fielded, List.mem_append, List.mem_flatMap] at member
  obtain ⟨text, inside, there⟩ | there := member
  · cases List.mem_append.1 there with
    | inl here => exact zero text inside _ here rfl
    | inr space => exact absurd (List.mem_singleton.1 space) (by decide)
  · exact end_ there

theorem zero_head {mark : Char} (marked : mark ≠ '\x00') (x y : Code) (fields : List Field) (path : Path) :
    '\x00' ∉ fielded (head mark x y fields) path.text :=
  zero_fielded (forall_mem_head (P := fun c => c ≠ '\x00') marked x.solid.2.1 y.solid.2.1
    fun field _ c member => (field.solid c member).2.1) path.zero

theorem zero_texts (record : StatusRecord) : ∀ text ∈ record.texts, '\x00' ∉ text := by
  cases record with
  | ordinary x y sub mH mI mW hH hI path =>
    exact List.forall_mem_singleton.2 (zero_head (by decide) x y [sub, mH, mI, mW, hH, hI] path)
  | renamed x y sub mH mI mW hH hI score path oldPath =>
    exact List.forall_mem_cons.2 ⟨zero_head (by decide) x y [sub, mH, mI, mW, hH, hI, score] path,
      List.forall_mem_singleton.2 oldPath.zero⟩
  | unmerged x y sub m1 m2 m3 mW h1 h2 h3 path =>
    exact List.forall_mem_singleton.2 (zero_head (by decide) x y [sub, m1, m2, m3, mW, h1, h2, h3] path)
  | untracked path | ignored path => exact List.forall_mem_singleton.2 (zero_fielded (by simp) path.zero)
  | header text => exact List.forall_mem_singleton.2 (zero_fielded (by simp) text.zero)

theorem filled_texts (record : StatusRecord) : ∀ text ∈ record.texts, text ≠ [] := by
  have started (first : Char) (fields : List (List Char)) (last : List Char) : fielded ([first] :: fields) last ≠ [] := by
    simp [fielded]
  cases record with
  | renamed x y sub mH mI mW hH hI score path oldPath =>
    exact List.forall_mem_cons.2 ⟨started _ _ _, List.forall_mem_singleton.2 oldPath.filled⟩
  | ordinary | unmerged | untracked | ignored | header => exact List.forall_mem_singleton.2 (started _ _ _)

theorem zero_printed (records : List StatusRecord) : ∀ text ∈ records.flatMap StatusRecord.texts, '\x00' ∉ text := by
  intro text member
  obtain ⟨record, _, inside⟩ := List.mem_flatMap.1 member
  exact zero_texts record text inside

theorem records_printed (records : List StatusRecord) :
    ((printed records).splitOn '\x00').filter (· ≠ []) = records.flatMap StatusRecord.texts := by
  have filled : ∀ text ∈ records.flatMap StatusRecord.texts, decide (text ≠ []) = true := by
    intro text member
    obtain ⟨record, _, inside⟩ := List.mem_flatMap.1 member
    exact decide_eq_true (filled_texts record text inside)
  rw [printed, splitOn_printed (zero_printed records), List.filter_append, List.filter_eq_self.2 filled]
  simp

def Scan.pushAll (s : Scan) (entries : List (EntryKind × StatusEntry)) : Scan :=
  entries.foldl (fun s entry => s.push entry.2 entry.1) s

variable {limit : Nat} {s : Scan}

theorem total_pushAll (s : Scan) (entries : List (EntryKind × StatusEntry)) :
    (s.pushAll entries).total = s.total + entries.length := by
  induction entries generalizing s with
  | nil => rfl
  | cons entry rest ih =>
    rw [List.length_cons, Nat.add_comm rest.length, ← Nat.add_assoc]
    exact ih (s.push entry.2 entry.1)

theorem pushAll_append (s : Scan) (entries more : List (EntryKind × StatusEntry)) :
    s.pushAll (entries ++ more) = (s.pushAll entries).pushAll more := List.foldl_append

theorem pushChanged_eq (short : s.total < limit) (x y : Char) (sub path : List Char) (oldPath : Option (List Char)) :
    s.pushChanged limit [x, y] sub path oldPath =
      s.pushAll ((changes x y sub path oldPath).take (limit - s.total)) := by
  obtain ⟨room, full⟩ : ∃ room, limit - s.total = room + 1 := Nat.exists_eq_succ_of_ne_zero (by omega)
  unfold Scan.pushChanged changes
  simp only [List.getD_cons_zero, List.getD_cons_succ]
  rw [full]
  by_cases first : x = '.'
  · by_cases second : y = '.'
    · simp [first, second, Scan.pushAll]
    · simp [first, second, short, Scan.pushAll]
  · by_cases second : y = '.'
    · simp [first, second, Scan.pushAll]
    · cases room with
      | zero =>
        have none_ : ¬s.total + 1 < limit := by omega
        simp [first, second, none_, Scan.pushAll, Scan.push]
      | succ room =>
        have more : s.total + 1 < limit := by omega
        simp [first, second, more, Scan.pushAll, Scan.push]

theorem readRecords_texts (short : s.total < limit) (record : StatusRecord) (rest : List (List Char)) :
    readRecords limit s (record.texts ++ rest) =
      readRecords limit (s.pushAll (record.entries.take (limit - s.total))) rest := by
  have goesOn : ¬limit ≤ s.total := Nat.not_le_of_lt short
  have single (entry : EntryKind × StatusEntry) : [entry].take (limit - s.total) = [entry] :=
    List.take_of_length_le (Nat.le_sub_of_add_le (by rw [List.length_singleton, Nat.add_comm]; exact short))
  cases record with
  | ordinary x y sub mH mI mW hH hI path =>
    have read : statusFields (fielded (head '1' x y [sub, mH, mI, mW, hH, hI]) path.text) 9 =
      some ([x.char, y.char], sub.text, path.text) := statusFields_head (by decide) x y sub [mH, mI, mW, hH, hI] path.text
    change readRecords limit s (fielded (head '1' x y [sub, mH, mI, mW, hH, hI]) path.text :: rest) = _
    rw [readRecords, if_neg goesOn]
    change (match statusFields _ 9 with
      | some (xy, sub, path) => readRecords limit (s.pushChanged limit xy sub path none) rest
      | none => readRecords limit s rest) = _
    rw [read]
    exact congrArg (readRecords limit · rest) (pushChanged_eq short _ _ _ _ _)
  | renamed x y sub mH mI mW hH hI score path oldPath =>
    have read : statusFields (fielded (head '2' x y [sub, mH, mI, mW, hH, hI, score]) path.text) 10 =
        some ([x.char, y.char], sub.text, path.text) :=
      statusFields_head (by decide) x y sub [mH, mI, mW, hH, hI, score] path.text
    change readRecords limit s (fielded (head '2' x y [sub, mH, mI, mW, hH, hI, score]) path.text :: oldPath.text :: rest) = _
    rw [readRecords, if_neg goesOn]
    change (match statusFields _ 10 with
      | some (xy, sub, path) => readRecords limit (s.pushChanged limit xy sub path (some oldPath.text)) rest
      | none => readRecords limit s (oldPath.text :: rest)) = _
    rw [read]
    exact congrArg (readRecords limit · rest) (pushChanged_eq short _ _ _ _ _)
  | unmerged x y sub m1 m2 m3 mW h1 h2 h3 path =>
    have read : statusFields (fielded (head 'u' x y [sub, m1, m2, m3, mW, h1, h2, h3]) path.text) 11 =
        some ([x.char, y.char], sub.text, path.text) :=
      statusFields_head (by decide) x y sub [m1, m2, m3, mW, h1, h2, h3] path.text
    change readRecords limit s (fielded (head 'u' x y [sub, m1, m2, m3, mW, h1, h2, h3]) path.text :: rest) = _
    rw [readRecords, if_neg goesOn]
    change (match statusFields _ 11 with
      | some (xy, sub, path) =>
        readRecords limit (s.push (statusEntry path none (changeTypeForXy xy) sub) .conflicted) rest
      | none => readRecords limit s rest) = _
    rw [read, StatusRecord.entries, single]
    rfl
  | untracked path =>
    change readRecords limit s (('?' :: ' ' :: path.text) :: rest) = _
    rw [readRecords, if_neg goesOn, StatusRecord.entries, single]
    rfl
  | ignored path =>
    change readRecords limit s (('!' :: ' ' :: path.text) :: rest) = _
    rw [readRecords, if_neg goesOn, StatusRecord.entries, List.take_nil]
    rfl
  | header text =>
    change readRecords limit s (('#' :: ' ' :: text.text) :: rest) = _
    rw [readRecords, if_neg goesOn, StatusRecord.entries, List.take_nil]
    rfl

theorem texts_ne_nil (record : StatusRecord) : record.texts ≠ [] := by
  cases record <;> exact List.cons_ne_nil _ _

theorem readRecords_printed (limit : Nat) (s : Scan) (records : List StatusRecord) :
    (readRecords limit s (records.flatMap StatusRecord.texts)).1 =
        s.pushAll ((entriesOf records).take (limit - s.total)) ∧
    ((readRecords limit s (records.flatMap StatusRecord.texts)).2 ≠ [] ↔
      ∃ before after, records = before ++ after ∧ after ≠ [] ∧ limit ≤ s.total + (entriesOf before).length) := by
  induction records generalizing s with
  | nil =>
    refine ⟨?_, fun left => absurd rfl left, ?_⟩
    · change s = s.pushAll (List.take _ [])
      rw [List.take_nil]
      rfl
    · rintro ⟨before, after, split, some_, _⟩
      exact absurd (List.append_eq_nil_iff.1 split.symm).2 some_
  | cons record rest ih =>
    by_cases full : limit ≤ s.total
    · obtain ⟨text, more, split⟩ := List.exists_cons_of_ne_nil (texts_ne_nil record)
      rw [List.flatMap_cons, split, List.cons_append, readRecords, if_pos full, Nat.sub_eq_zero_of_le full, List.take_zero]
      exact ⟨rfl, fun _ => ⟨[], record :: rest, rfl, List.cons_ne_nil _ _, full⟩, fun _ => List.cons_ne_nil _ _⟩
    · have short := Nat.lt_of_not_le full
      obtain ⟨read, left⟩ := ih (s.pushAll (record.entries.take (limit - s.total)))
      rw [List.flatMap_cons, readRecords_texts short]
      rw [total_pushAll, List.length_take] at read left
      constructor
      · rw [read, entriesOf, entriesOf, List.flatMap_cons, List.take_append, pushAll_append]
        congr 2
        omega
      · rw [left]
        constructor
        · rintro ⟨before, after, rfl, some_, enough⟩
          refine ⟨record :: before, after, rfl, some_, ?_⟩
          rw [entriesOf, List.flatMap_cons, List.length_append]
          rw [entriesOf] at enough
          omega
        · rintro ⟨before, after, split, some_, enough⟩
          cases before with
          | nil => exact absurd enough full
          | cons first before =>
            cases split
            refine ⟨before, after, rfl, some_, ?_⟩
            rw [entriesOf, List.flatMap_cons, List.length_append] at enough
            rw [entriesOf]
            omega

theorem of_push (status : WorkingStatus) (entry : StatusEntry) (pushed kind : EntryKind) :
    (status.push entry pushed).of kind = status.of kind ++ listed kind [(pushed, entry)] := by
  cases pushed <;> cases kind <;> simp [WorkingStatus.push, WorkingStatus.of, listed]

theorem of_pushAll (s : Scan) (entries : List (EntryKind × StatusEntry)) (kind : EntryKind) :
    (s.pushAll entries).status.of kind = s.status.of kind ++ listed kind entries := by
  induction entries generalizing s with
  | nil => simp [Scan.pushAll, listed]
  | cons entry rest ih =>
    have all : listed kind (entry :: rest) = listed kind [entry] ++ listed kind rest := by
      rw [listed, listed, listed, ← List.map_append, ← List.filter_append, List.singleton_append]
    rw [Scan.pushAll, List.foldl_cons]
    change ((s.push entry.2 entry.1).pushAll rest).status.of kind = _
    rw [ih, all, ← List.append_assoc]
    congr 1
    exact of_push _ _ _ _

end Reading

section Status

variable {records : List StatusRecord}

theorem of_parseWorkingStatus (records : List StatusRecord) (kind : EntryKind) :
    (parseWorkingStatus (printed records)).of kind = listed kind ((entriesOf records).take statusEntryLimit) := by
  have read := (readRecords_printed statusEntryLimit ⟨.default, 0⟩ records).1
  unfold parseWorkingStatus
  rw [records_printed]
  have kept (s : Scan) (truncated : Bool) : { s.status with truncated }.of kind = s.status.of kind := by
    cases kind <;> rfl
  dsimp only
  rw [kept, read, of_pushAll, Nat.sub_zero]
  cases kind <;> rfl

theorem truncated_parseWorkingStatus (records : List StatusRecord) :
    (parseWorkingStatus (printed records)).truncated = true ↔
      ∃ before after, records = before ++ after ∧ after ≠ [] ∧ statusEntryLimit ≤ (entriesOf before).length := by
  obtain ⟨read, left⟩ := readRecords_printed statusEntryLimit ⟨.default, 0⟩ records
  unfold parseWorkingStatus
  rw [records_printed]
  dsimp only
  rw [read, total_pushAll, List.length_take]
  simp only [Nat.zero_add, Nat.sub_zero] at left ⊢
  rw [Bool.and_eq_true, decide_eq_true_eq, Bool.not_eq_true', List.isEmpty_eq_false_iff, left]
  refine and_iff_right_of_imp ?_
  rintro ⟨before, after, rfl, _, enough⟩
  rw [entriesOf, List.flatMap_append, List.length_append]
  rw [entriesOf] at enough
  generalize statusEntryLimit = limit at enough
  omega

/-- There is room for the first entry of the last record, but not for its second. -/
def Halved (records : List StatusRecord) : Prop :=
  ∃ before last, records = before ++ [last] ∧ (entriesOf before).length + 1 = statusEntryLimit ∧ last.entries.length = 2

/-- After the last entry that there is room for come records without entries. -/
def IdleRest (records : List StatusRecord) : Prop :=
  ∃ before after, records = before ++ after ∧ (entriesOf before).length = statusEntryLimit ∧ after ≠ [] ∧
    entriesOf after = []

theorem length_entries (record : StatusRecord) : record.entries.length ≤ 2 := by
  have two (x y : Char) (sub path : List Char) (oldPath : Option (List Char)) : (changes x y sub path oldPath).length ≤ 2 := by
    unfold changes
    split <;> split <;> simp
  cases record with
  | ordinary | renamed => exact two _ _ _ _ _
  | unmerged | untracked | ignored | header => simp [StatusRecord.entries]

theorem truncated_iff (records : List StatusRecord) :
    ((parseWorkingStatus (printed records)).truncated = true ↔ statusEntryLimit < (entriesOf records).length) ↔
      ¬Halved records ∧ ¬IdleRest records := by
  rw [truncated_parseWorkingStatus]
  have joined (before after : List StatusRecord) :
      (entriesOf (before ++ after)).length = (entriesOf before).length + (entriesOf after).length := by
    rw [entriesOf, List.flatMap_append, List.length_append]
    rfl
  unfold Halved IdleRest
  generalize statusEntryLimit = limit
  constructor
  · intro right
    constructor
    · rintro ⟨before, last, rfl, nearly, two⟩
      have over_ : limit < (entriesOf (before ++ [last])).length := by
        have one : (entriesOf [last]).length = 2 := by simp [entriesOf, two]
        rw [joined]
        omega
      obtain ⟨first, rest, split, some_, enough⟩ := right.2 over_
      obtain ⟨rest, final, rfl⟩ := (List.eq_nil_or_concat rest).resolve_left some_
      rw [List.concat_eq_append, ← List.append_assoc] at split
      have within := (List.append_inj' split rfl).1
      rw [within, joined] at nearly
      omega
    · rintro ⟨before, after, rfl, full, some_, idle⟩
      have more := right.1 ⟨before, after, rfl, some_, Nat.le_of_eq full.symm⟩
      rw [joined, idle, full] at more
      exact Nat.lt_irrefl _ more
  · rintro ⟨whole, busy⟩
    constructor
    · rintro ⟨before, after, rfl, some_, enough⟩
      rw [joined]
      by_contra short
      refine busy ⟨before, after, rfl, by omega, some_, List.length_eq_zero_iff.1 (by omega)⟩
    · intro more
      cases records using List.reverseRecOn with
      | nil => exact absurd more (Nat.not_lt_zero _)
      | append_singleton before last =>
        refine ⟨before, [last], rfl, List.cons_ne_nil _ _, ?_⟩
        by_contra short
        have two := length_entries last
        have one : (entriesOf [last]).length = last.entries.length := by simp [entriesOf]
        rw [joined] at more
        exact whole ⟨before, last, rfl, by omega, by omega⟩

/-- The status lists the entries that there is room for, and says so exactly if there are more. -/
def IsReading (records : List StatusRecord) (status : WorkingStatus) : Prop :=
  (∀ kind, status.of kind = listed kind ((entriesOf records).take statusEntryLimit)) ∧
    (status.truncated = true ↔ statusEntryLimit < (entriesOf records).length)

theorem isReading_iff (records : List StatusRecord) :
    IsReading records (parseWorkingStatus (printed records)) ↔ ¬Halved records ∧ ¬IdleRest records :=
  (and_iff_right (of_parseWorkingStatus records)).trans (truncated_iff records)

/-- What is printed of `file`, whose mode and content Git abbreviates here. -/
def fileRecord (x y : Code) : StatusRecord :=
  let field : Field := ⟨['0'], by simp⟩
  .ordinary x y field field field field field field ⟨['f', 'i', 'l', 'e'], by decide, by decide⟩

/-- All files are changed, and the last one is changed once more since it has been staged. -/
def halvedRecords : List StatusRecord :=
  let modified : Code := ⟨'M', by decide⟩
  List.replicate 4999 (fileRecord ⟨'.', by decide⟩ modified) ++ [fileRecord modified modified]

/-- The last change is left out without notice. -/
theorem halvedRecords_truncated : ¬IsReading halvedRecords (parseWorkingStatus (printed halvedRecords)) := by
  intro reading
  refine ((truncated_iff halvedRecords).1 reading.2).1 ⟨_, _, rfl, ?_, by decide⟩
  have length (n : Nat) (record : StatusRecord) (one : record.entries.length = 1) :
      (entriesOf (List.replicate n record)).length = n := by
    rw [entriesOf, List.length_flatMap, List.map_replicate, one, List.sum_replicate_nat, Nat.mul_one]
  rw [length 4999 _ (by decide)]
  rfl

end Status

end VibeLink.Git
