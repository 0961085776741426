import VibeLink.Relational.Runs
import VibeLink.Relational.Table
import Mathlib.Logic.Function.Basic

/-! The documents of an editor, and what its operations make of one (`editor/documentStore.ts`). -/

namespace VibeLink.Editor

open Relational

abbrev RelPath := List String

inductive Encoding
  | utf8 | utf8Bom
  deriving DecidableEq

inductive LineEnding
  | lf | crlf
  deriving DecidableEq

structure Revision where
  sha256 : String
  size : Nat
  modifiedAtNs : String
  deriving DecidableEq

structure NativeTextDocument where
  content : String
  revision : Revision
  encoding : Encoding
  lineEnding : LineEnding
  deriving DecidableEq

inductive SaveResult
  | saved (document : NativeTextDocument)
  | conflict (currentRevision : Option Revision)
  deriving DecidableEq

structure Conflict where
  currentRevision : Option Revision
  diskContent : Option String
  diskEncoding : Option Encoding
  diskLineEnding : Option LineEnding
  deriving DecidableEq

structure Document where
  relPath : RelPath
  original : String
  current : String
  revision : Option Revision
  encoding : Encoding
  lineEnding : LineEnding
  dirty : Bool
  loading : Bool
  saving : Bool
  conflict : Option Conflict
  errors : List String
  viewCount : Nat
  /-- The value of the text model that is attached. -/
  model : Option String
  /-- Whether the current text has been typed and is not on the disk: a ghost. -/
  typed : Bool
  deriving DecidableEq

def emptyDocument (relPath : RelPath) : Document where
  relPath
  original := ""
  current := ""
  revision := none
  encoding := .utf8
  lineEnding := .lf
  dirty := false
  loading := true
  saving := false
  conflict := none
  errors := []
  viewCount := 0
  model := none
  typed := false

def changedText : String := "The file changed on disk. Review the conflict before saving again."

namespace Document

variable (document : Document)

def isLoaded : Bool := !document.loading && document.revision.isSome

def syncModelValue : Document := { document with model := document.model.map fun _ => document.current }

def beginLoading : Document := { document with loading := true, errors := [] }

def load (opened : NativeTextDocument) : Document :=
  let dirty := if document.revision.isSome then document.current ≠ opened.content else false
  syncModelValue { document with
    original := opened.content
    current := if document.revision.isSome then document.current else opened.content
    revision := some opened.revision
    encoding := opened.encoding
    lineEnding := opened.lineEnding
    dirty
    loading := false
    conflict := none
    errors := []
    typed := document.typed && dirty }

def failLoading (message : String) : Document := { document with loading := false, errors := [message] }

def updateCurrent (current : String) : Document :=
  { document with current, dirty := current ≠ document.original, errors := [], typed := current ≠ document.original }

def type (text : String) : Document := { document with model := some text }.updateCurrent text

def attachModel : Document := { document with model := some (document.model.getD document.current) }

def retain : Document := { document with viewCount := document.viewCount + 1 }

def release : Document := { document with viewCount := document.viewCount - 1 }

def beginSaving : Document := { document with saving := true, errors := [] }

/-- The text is what has been saved if nothing has been typed since. -/
def save (content : String) (saved : NativeTextDocument) : Document :=
  let current := if document.current = content then saved.content else document.current
  let dirty := current ≠ saved.content
  syncModelValue { document with
    original := saved.content
    current
    revision := some saved.revision
    encoding := saved.encoding
    lineEnding := saved.lineEnding
    dirty
    saving := false
    conflict := none
    errors := []
    typed := document.typed && dirty }

def failSaving (message : String) : Document := { document with saving := false, errors := [message] }

def conflictWith (currentRevision : Option Revision) : Conflict := ⟨currentRevision, none, none, none⟩

def refuseSaving (currentRevision : Option Revision) : Document :=
  { document with saving := false, conflict := some (conflictWith currentRevision), errors := [changedText] }

def missDisk (message : String) : Document :=
  { document with
    conflict := some (conflictWith none)
    errors := [s!"The file is no longer readable on disk: {message}"] }

def meetDisk (currentRevision : Revision) : Document :=
  { document with conflict := some (conflictWith (some currentRevision)), errors := [changedText] }

def replace (opened : NativeTextDocument) : Document :=
  syncModelValue { document with
    original := opened.content
    current := opened.content
    revision := some opened.revision
    encoding := opened.encoding
    lineEnding := opened.lineEnding
    dirty := false
    conflict := none
    errors := []
    typed := false }

def saveAs (saved : NativeTextDocument) : Document :=
  { document.replace saved with loading := false, saving := false }

def endSaving : Document := { document with saving := false }

def fail (message : String) : Document := { document with errors := [message] }

def refresh (opened : NativeTextDocument) : Document :=
  { document with
    conflict := some ⟨some opened.revision, some opened.content, some opened.encoding, some opened.lineEnding⟩
    errors := [] }

def discard : Document :=
  syncModelValue { document with
    current := document.original, dirty := false, conflict := none, errors := [], typed := false }

def move (relPath : RelPath) : Document := { document with relPath, viewCount := 0, model := none }

end Document

end VibeLink.Editor
