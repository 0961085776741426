import VibeLink.Storage.Files
import VibeLink.Relational.Table
import VibeLink.Coordinator.Store
import Mathlib.Data.List.DropRight

/-! What agents remember of a workspace: records in a file, a line each (`app/memory.rs`). -/

namespace VibeLink.Memory

open Relational Tx
open Storage (Bytes Disk FileResult)
open Coordinator (trim isWhiteSpace)

/-- `MEMORY_COMPACT_LINES` -/
def memoryCompactLines : Nat := 2000

inductive MemoryScope
  | workspace | global
  deriving DecidableEq

inductive MemoryOriginKind
  | agent | user | harvest
  deriving DecidableEq

structure MemoryOrigin where
  kind : MemoryOriginKind
  agentId : Option String
  paneId : Option String
  sourcePath : Option String
  deriving DecidableEq

structure MemoryRecord where
  id : String
  scope : MemoryScope
  sessionId : Option String
  title : String
  body : String
  tags : List String
  refs : List String
  origin : MemoryOrigin
  createdAt : Nat
  updatedAt : Nat
  pinned : Bool
  deleted : Bool
  deriving DecidableEq

/-- Without the scope and the session, which say what file it is. -/
structure MemoryAddInput where
  title : String
  body : String
  tags : List String
  refs : List String
  origin : MemoryOrigin
  pinned : Bool
  id : Option String
  deriving DecidableEq

section Validation

def validateText (name value : String) (maxChars : Nat) : Except String String :=
  let value := trim value
  if 1 ≤ value.length ∧ value.length ≤ maxChars then .ok value
  else .error s!"memory {name} must contain 1..={maxChars} characters"

def toAsciiLowercase (value : String) : String := String.ofList (value.toList.map Char.toLower)

def normalizeTag (tag : String) : Except String String :=
  let tag := toAsciiLowercase (trim tag)
  let valid := decide (1 ≤ tag.utf8ByteSize ∧ tag.utf8ByteSize ≤ 40) && tag.toList.zipIdx.all fun c =>
    c.1.isLower || c.1.isDigit || decide (0 < c.2 ∧ c.1 = '-')
  if valid then .ok tag else .error s!"invalid memory tag '{tag}'"

def normalizeTags (tags : List String) : Except String (List String) :=
  if 16 < tags.length then .error "memory may contain at most 16 tags" else tags.mapM normalizeTag

def normalizeRelativePath (value : String) : Option String :=
  let trimmed := (trim value).toList.map fun c => if c = '\\' then '/' else c
  let drive := (trimmed.head?.any Char.isAlpha) && decide (trimmed[1]? = some ':')
  let segments := trimmed.splitOn '/'
  if trimmed = [] ∨ trimmed.head? = some '/' ∨ drive ∨ '\x00' ∈ trimmed then none
  else if segments.any fun segment => decide (segment = [] ∨ segment = ['.'] ∨ segment = ['.', '.']) then none
  else some (String.ofList trimmed)

def normalizeRefs (refs : List String) : Except String (List String) :=
  if 32 < refs.length then .error "memory may contain at most 32 refs"
  else refs.mapM fun reference => match normalizeRelativePath reference with
    | some path => .ok path
    | none => .error s!"invalid memory ref '{trim reference}'"

end Validation

/-- The scope and the session of a file. -/
structure Place where
  scope : MemoryScope
  sessionId : Option String
  deriving DecidableEq

/-- What `add_memory_at` appends; `drawn` is a new id. -/
def MemoryAddInput.record (input : MemoryAddInput) (place : Place) (drawn : String) (now : Nat) :
    Except String MemoryRecord := do
  let title ← validateText "title" input.title 200
  let body ← validateText "body" input.body 8000
  let tags ← normalizeTags input.tags
  let refs ← normalizeRefs input.refs
  let id ← recordId input.id drawn
  pure
    { id
      scope := place.scope
      sessionId := place.sessionId
      title
      body
      tags
      refs
      origin := input.origin
      createdAt := now
      updatedAt := now
      pinned := input.pinned
      deleted := false }
where
  recordId (id : Option String) (drawn : String) : Except String String :=
    match id with
    | some id => if trim id ≠ "" then .ok (trim id) else .error "memory id must not be empty"
    | none => .ok drawn

/-- The records of lines in turn: the last of an id counts, and a deleted one takes it away. -/
def live (lines : List MemoryRecord) : Table MemoryRecord.id :=
  (lines.foldl Table.put .empty).retain fun record => !record.deleted

/-- `BTreeMap::into_values` -/
def inOrder (records : Table MemoryRecord.id) : List MemoryRecord :=
  orderBy (fun a b => decide (a.id ≤ b.id)) records.rows

def sortRecords (records : List MemoryRecord) : List MemoryRecord :=
  orderBy
    (fun a b => decide (b.pinned < a.pinned ∨ a.pinned = b.pinned ∧
      (b.updatedAt < a.updatedAt ∨ a.updatedAt = b.updatedAt ∧ a.id ≤ b.id)))
    records

section Search

def containsText (text part : String) : Bool := text.toList.tails.any fun rest => part.toList.isPrefixOf rest

def scoreRecord (record : MemoryRecord) (terms : List String) : Option Nat :=
  let title := toAsciiLowercase record.title
  let body := toAsciiLowercase record.body
  let tags := toAsciiLowercase (" ".intercalate record.tags)
  let refs := toAsciiLowercase (" ".intercalate record.refs)
  terms.foldlM (fun score term =>
    let titleHit := containsText title term
    let metadataHit := containsText tags term || containsText refs term
    let bodyHit := containsText body term
    if titleHit || metadataHit || bodyHit then
      some (score + titleHit.toNat * 4 + metadataHit.toNat * 2 + bodyHit.toNat)
    else none) 0

def searchTerms (query : String) : List String :=
  (((query.toList.splitOnP isWhiteSpace).filter (· ≠ [])).take 8).map fun term => toAsciiLowercase (String.ofList term)

/-- What `search_memory_at` makes of the records that are listed. -/
def searchMatches (terms : List String) (limit : Nat) (records : List MemoryRecord) : List MemoryRecord :=
  let limit := if limit = 0 then 50 else max 1 (min limit 500)
  let matches_ := records.filterMap fun record => (scoreRecord record terms).map (record, ·)
  ((orderBy
    (fun a b => decide (b.1.pinned < a.1.pinned ∨ a.1.pinned = b.1.pinned ∧
      (b.2 < a.2 ∨ a.2 = b.2 ∧ (b.1.updatedAt < a.1.updatedAt ∨ a.1.updatedAt = b.1.updatedAt ∧ a.1.id ≤ b.1.id))))
    matches_).take limit).map Prod.fst

end Search

end VibeLink.Memory

/-! The operations on a file of memory records, of one process at a time (`app/memory.rs`). -/

namespace VibeLink.Memory

open Relational Tx Storage
open Coordinator (trim)

/-- `serde_json` -/
structure Codec where
  toText : MemoryRecord → Bytes
  parse : Bytes → Option MemoryRecord

def newline : UInt8 := 0x0a

def carriageReturn : UInt8 := 0x0d

/-- The bytes up to each newline, and those behind the last one if there are any. -/
def lines : Bytes → List Bytes
  | [] => []
  | byte :: rest => if byte = newline then [] :: lines rest else (byte :: (lines rest).headD []) :: (lines rest).tail

def stripped (line : Bytes) : Bytes := line.rdropWhile fun byte => byte = newline ∨ byte = carriageReturn

section Calls

variable (codec : Codec)

def parsedLines (content : Bytes) : List MemoryRecord :=
  (lines content).filterMap fun line => codec.parse (stripped line)

def line (record : MemoryRecord) : Bytes := codec.toText record ++ [newline]

def appendRecord (record : MemoryRecord) : FileResult Unit := do
  createDirAll
  step whole "open memory store" (Tx.write fun disk => { disk with primary := some (disk.primary.getD []) })
  step torn "append memory store" (Tx.write fun disk => append (line codec record) disk)
  looks "flush memory store" fun _ => ()
where
  append (bytes : Bytes) (disk : Disk) : Disk := { disk with primary := some (disk.primary.getD [] ++ bytes) }
  torn (part : Option Nat) (disk : Disk) : Disk :=
    match part with
    | none => disk
    | some n => append ((line codec record).take n) disk

def compactRecords (now : Nat) (records : List MemoryRecord) : FileResult Unit :=
  writeBytes now (records.flatMap (line codec))

def readRecords (now : Nat) : FileResult (List MemoryRecord) := do
  let content ← looks "read memory store" Disk.primary
  match content with
  | none => pure []
  | some bytes =>
    let records := inOrder (live (parsedLines codec bytes))
    if memoryCompactLines < (lines bytes).length then
      compactRecords codec now records
      pure records
    else pure records

variable (place : Place) (now : Nat)

def addMemory (input : MemoryAddInput) (drawn : String) : FileResult MemoryRecord := do
  let record ← ofExcept ((input.record place drawn now).mapError .refused)
  appendRecord codec record
  pure record

def listMemory : FileResult (List MemoryRecord) := do
  let records ← readRecords codec now
  pure (sortRecords records)

def searchMemory (query : String) (limit : Nat) : FileResult (List MemoryRecord) :=
  if searchTerms query = [] then fail (.refused "memory search query must not be empty")
  else do
    let records ← listMemory codec now
    pure (searchMatches (searchTerms query) limit records)

def rewrite (id : String) (change : MemoryRecord → MemoryRecord) : FileResult MemoryRecord :=
  if trim id = "" then fail (.refused "memory id must not be empty")
  else do
    let records ← readRecords codec now
    match records.find? fun record => record.id = trim id with
    | none => fail (.refused s!"memory entry not found: {trim id}")
    | some record => do
      appendRecord codec (change record)
      pure (change record)

def removeMemory (id : String) : FileResult Unit := do
  let _ ← rewrite codec now id fun record => { record with deleted := true, updatedAt := now }
  pure ()

def setMemoryPinned (id : String) (pinned : Bool) : FileResult MemoryRecord :=
  rewrite codec now id fun record => { record with pinned, updatedAt := now }

end Calls

inductive Call
  | add (input : MemoryAddInput) (drawn : String)
  | list
  | search (query : String) (limit : Nat)
  | remove (id : String)
  | pin (id : String) (pinned : Bool)
  deriving DecidableEq

section Runs

variable (codec : Codec) (place : Place)

def stored (disk : Disk) : Table MemoryRecord.id := live (parsedLines codec (disk.primary.getD []))

def Call.perform (now : Nat) : Call → FileResult (Option MemoryRecord)
  | .add input drawn => do
    let record ← addMemory codec place now input drawn
    finish
    pure (some record)
  | .list => do
    let _ ← listMemory codec now
    finish
    pure none
  | .search query limit => do
    let _ ← searchMemory codec now query limit
    finish
    pure none
  | .remove id => do
    removeMemory codec now id
    finish
    pure none
  | .pin id pinned => do
    let _ ← setMemoryPinned codec now id pinned
    finish
    pure none

def Call.target (now : Nat) : Call → Option String
  | .add input drawn => (input.record place drawn now).toOption.map MemoryRecord.id
  | .list | .search _ _ => none
  | .remove id | .pin id _ => some (trim id)

def rewritten (disk : Disk) (id : String) (change : MemoryRecord → MemoryRecord) : Option MemoryRecord :=
  if trim id = "" then none else ((stored codec disk).find (trim id)).map change

def Call.appended (disk : Disk) (now : Nat) : Call → Option MemoryRecord
  | .add input drawn => (input.record place drawn now).toOption
  | .list | .search _ _ => none
  | .remove id => rewritten codec disk id fun record => { record with deleted := true, updatedAt := now }
  | .pin id pinned => rewritten codec disk id fun record => { record with pinned, updatedAt := now }

def Call.reads : Call → Bool
  | .add _ _ => false
  | _ => true

structure Attempt where
  call : Call
  now : Nat
  fates : List Fate
  deriving DecidableEq

/-- A call of the past: what it was about, and the record it returned as added. -/
structure Entry where
  target : Option String
  added : Option MemoryRecord
  deriving DecidableEq

structure History where
  disk : Disk
  log : List Entry
  deriving DecidableEq

def History.initial : History := ⟨.empty, []⟩

def History.next (history : History) (attempt : Attempt) : History :=
  let (result, after) := attempt.call.perform codec place attempt.now ⟨history.disk, attempt.fates⟩
  ⟨after.state, history.log ++ [⟨attempt.call.target place attempt.now, result.toOption.join⟩]⟩

def History.run (attempts : List Attempt) : History := attempts.foldl (History.next codec place) .initial

end Runs

end VibeLink.Memory
