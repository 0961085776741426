import VibeLink.Relational.Faults

/-! A document in a file, with a backup beside it (`storage.rs`, without Windows' replacement). -/

namespace VibeLink.Storage

open Relational Tx
abbrev Bytes := List UInt8

def staleTempAge : Nat := 10 * 60 * 1000

/-- The file next to the document that becomes the document, and when it was last written. -/
structure Temporary where
  content : Bytes
  modified : Nat
  deriving DecidableEq

structure Disk where
  primary : Option Bytes
  backup : Option Bytes
  temporary : Option Temporary
  /-- What has been set aside as corrupt, under names of its own. -/
  quarantined : List Bytes
  deriving DecidableEq

def Disk.empty : Disk := ⟨none, none, none, []⟩

/-- The two files that are read. -/
inductive Name
  | primary | backup
  deriving DecidableEq

def Disk.file (disk : Disk) : Name → Option Bytes
  | .primary => disk.primary
  | .backup => disk.backup

def Disk.remove (disk : Disk) : Name → Disk
  | .primary => { disk with primary := none }
  | .backup => { disk with backup := none }

abbrev FileResult (α : Type) := Tx (Faulty Disk) (Fault String) α

def whole : Option Nat → Disk → Disk := fun _ disk => disk

def looks {α : Type} (error : String) (f : Disk → α) : FileResult α := step whole error (gets f)

section Steps

variable (now : Nat)

def createDirAll : FileResult Unit := looks "create storage directory" fun _ => ()

def pathExists (name : Name) : FileResult Bool := query fun disk => (disk.file name).isSome

def temporaryExists : FileResult Bool := query fun disk => disk.temporary.isSome

def removeTemporary (error : String) : FileResult Unit :=
  step whole error (tryWrite (fun disk => disk.temporary.map fun _ => { disk with temporary := none }) error)

/-- `create_new` -/
def createTemporary (error : String) : FileResult Unit :=
  step whole error (tryWrite (fun disk =>
    if disk.temporary.isSome then none else some { disk with temporary := some ⟨[], now⟩ }) error)

def fillTemporary (error : String) (content : Disk → Bytes) : FileResult Unit :=
  step torn error (write fun disk => fill (content disk) disk)
where
  fill (bytes : Bytes) (disk : Disk) : Disk :=
    { disk with temporary := disk.temporary.map fun _ => ⟨bytes, now⟩ }
  torn (part : Option Nat) (disk : Disk) : Disk :=
    match part with
    | none => disk
    | some n => fill ((content disk).take n) disk

/-- `flush` and `sync_all` -/
def syncTemporary (error : String) : FileResult Unit := looks error fun _ => ()

/-- `fs::copy` of the document over its backup. -/
def copyToBackup : FileResult Unit :=
  step torn "preserve storage backup"
    (tryWrite (fun disk => disk.primary.map fun bytes => { disk with backup := some bytes }) "preserve storage backup")
where
  torn (part : Option Nat) (disk : Disk) : Disk :=
    match part with
    | none => disk
    | some n => { disk with backup := (disk.primary.map (List.take n)).or disk.backup }

def renameTemporary : FileResult Unit :=
  step whole "atomically replace storage file" (tryWrite (fun disk => disk.temporary.map fun temporary =>
    { disk with primary := some temporary.content, temporary := none }) "atomically replace storage file")

def quarantine (name : Name) : FileResult Bytes :=
  step whole "quarantine invalid storage file" do
    let bytes ← expect (fun disk => disk.file name) "quarantine invalid storage file"
    write fun disk => { disk.remove name with quarantined := disk.quarantined ++ [bytes] }
    pure bytes

def readFile (name : Name) : FileResult (Option Bytes) := looks "read storage file" fun disk => disk.file name

def cleanupStaleTemp : FileResult Unit := do
  let modified ← looks "read storage temp metadata" fun disk => disk.temporary.map Temporary.modified
  match modified with
  | none => pure ()
  | some modified =>
    if staleTempAge ≤ now - modified then removeTemporary "remove stale storage temp" else pure ()

/-- What a call ends with: it may have come to its end, and there is nobody left to hear of it. -/
def finish : FileResult Unit := do
  let _ ← query fun _ => true
  pure ()

end Steps

inductive LoadSource
  | primary | restoredBackup | default
  deriving DecidableEq

structure LoadReport (T : Type) where
  value : T
  source : LoadSource
  /-- The files that have been set aside, by what is in them. -/
  quarantined : List Bytes
  deriving DecidableEq

inductive DocumentError
  | invalid
  | unsupportedSchema (found supported : UInt64)
  deriving DecidableEq

inductive Parsed (T : Type)
  | valid (value : T)
  | invalid
  | unsupported (found supported : UInt64)
  | missing
  deriving DecidableEq

section Calls

variable {T : Type} (now : Nat)

/-- `replace_file` -/
def replaceFile (backup : Bool) : FileResult Unit := do
  let exists_ ← pathExists .primary
  if exists_ ∧ backup then
    copyToBackup
    renameTemporary
  else renameTemporary

def writeBytes (bytes : Bytes) : FileResult Unit := do
  createDirAll
  cleanupStaleTemp now
  let active ← temporaryExists
  if active then fail (.refused "storage temp file may have an active writer")
  else
    createTemporary now "create storage temp file"
    fillTemporary now "write storage temp file" fun _ => bytes
    syncTemporary "flush storage temp file"
    syncTemporary "sync storage temp file"
    (replaceFile true).orElse (removeTemporary "remove storage temp file")

def restoreBackup : FileResult Unit := do
  createDirAll
  cleanupStaleTemp now
  let active ← temporaryExists
  if active then fail (.refused "storage temp file may have an active writer")
  else
    step whole "open storage backup" ( require' "open storage backup")
    createTemporary now "create restore temp file"
    fillTemporary now "copy storage backup" fun disk => disk.backup.getD []
    syncTemporary "flush restore temp file"
    syncTemporary "sync restore temp file"
    (replaceFile false).orElse (removeTemporary "remove restore temp file")
where
  require' (error : String) : Tx Disk String Unit := do
    let _ ← expect (fun disk => disk.backup) error
    pure ()

def Parsed.of (parse : Bytes → Except DocumentError T) (content : Option Bytes) : Parsed T :=
  match content.map parse with
  | none => .missing
  | some (.ok value) => .valid value
  | some (.error .invalid) => .invalid
  | some (.error (.unsupportedSchema found supported)) => .unsupported found supported

def readAndParse (parse : Bytes → Except DocumentError T) (name : Name) : FileResult (Parsed T) := do
  let content ← readFile name
  pure (.of parse content)

def setAside : FileResult (List Bytes) := do
  let exists_ ← pathExists .primary
  if exists_ then
    let bytes ← quarantine .primary
    pure [bytes]
  else pure []

def loadWithRecovery (default : T) (parse : Bytes → Except DocumentError T) : FileResult (LoadReport T) := do
  cleanupStaleTemp now
  let primary ← readAndParse parse .primary
  match primary with
  | .valid value => pure ⟨value, .primary, []⟩
  | .unsupported found supported => do
    let _ ← quarantine .primary
    fail (.refused s!"unsupported storage schema {found}; supported through {supported}; quarantined")
  | .invalid => do
    let backup ← readAndParse parse .backup
    match backup with
    | .valid value => do
      let quarantined ← setAside
      restoreBackup now
      pure ⟨value, .restoredBackup, quarantined⟩
    | .unsupported found supported => do
      let _ ← setAside
      let _ ← quarantine .backup
      fail (.refused s!"unsupported storage backup schema {found}; supported through {supported}; quarantined")
    | .invalid => do
      let quarantined ← setAside
      let exists_ ← pathExists .backup
      if exists_ then
        let bytes ← quarantine .backup
        pure ⟨default, .default, quarantined ++ [bytes]⟩
      else pure ⟨default, .default, quarantined⟩
    | .missing => do
      let quarantined ← setAside
      pure ⟨default, .default, quarantined⟩
  | .missing => do
    let backup ← readAndParse parse .backup
    match backup with
    | .valid value => do
      restoreBackup now
      pure ⟨value, .restoredBackup, []⟩
    | .unsupported found supported => do
      let _ ← quarantine .backup
      fail (.refused s!"unsupported storage backup schema {found}; supported through {supported}; quarantined")
    | .invalid => do
      let bytes ← quarantine .backup
      pure ⟨default, .default, [bytes]⟩
    | .missing => pure ⟨default, .default, []⟩

end Calls

/-- A call on the document, when it is made and what becomes of its steps. -/
inductive Call
  | write (bytes : Bytes)
  | load
  deriving DecidableEq

structure Attempt where
  call : Call
  now : Nat
  fates : List Fate
  deriving DecidableEq

/-- How a write has ended.  One that is refused has found the temporary file of another. -/
inductive Ending
  | completed | refused | interrupted
  deriving DecidableEq

def ending {α : Type} : Except (Fault String) α → Ending
  | .ok _ => .completed
  | .error (.refused _) => .refused
  | .error _ => .interrupted

/-- The files, and the writes so far. -/
structure History where
  disk : Disk
  writes : List (Bytes × Ending)
  deriving DecidableEq

def History.initial : History := ⟨.empty, []⟩

def write (now : Nat) (bytes : Bytes) : FileResult Unit := do
  writeBytes now bytes
  finish

def load {T : Type} (now : Nat) (default : T) (parse : Bytes → Except DocumentError T) :
    FileResult (LoadReport T) := do
  let report ← loadWithRecovery now default parse
  finish
  pure report

section Runs

variable {T : Type} (default : T) (parse : Bytes → Except DocumentError T)

def History.next (history : History) (attempt : Attempt) : History :=
  match attempt.call with
  | .write bytes =>
    let (result, after) := write attempt.now bytes ⟨history.disk, attempt.fates⟩
    ⟨after.state, history.writes ++ [(bytes, ending result)]⟩
  | .load => { history with disk := (load attempt.now default parse ⟨history.disk, attempt.fates⟩).2.state }

def History.run (attempts : List Attempt) : History := attempts.foldl (History.next default parse) .initial

end Runs

end VibeLink.Storage
