import VibeLink.Editor.Documents

/-! The operations of an editor's document store, from one wait to the next (`editor/documentStore.ts`). -/

namespace VibeLink.Editor

open Relational

def MAX_RETAINED_DOCUMENTS : Nat := 24

/-- What a load resolves to: a document at once, or what is to come of a load that is under way. -/
inductive Awaited
  | ready (document : Document)
  | load (slot : Nat)
  deriving DecidableEq

structure SaveRequest where
  content : String
  expectedRevision : Option Revision
  encoding : Encoding
  lineEnding : LineEnding
  deriving DecidableEq

/-- What an operation waits for. -/
inductive Phase
  | loading (path : RelPath)
  | loaded (result : Except String Document)
  | beforeSave (path : RelPath) (awaited : Awaited)
  | saving (path : RelPath) (request : SaveRequest)
  /-- The hook that comes behind a save. -/
  | afterSave (path : RelPath)
  | checking (path : RelPath) (document : Document)
  /-- The revision on the disk is another one, and nothing was unsaved. -/
  | reopening (path : RelPath)
  | refreshing (path : RelPath)
  | beforeSaveAs (path target : RelPath) (awaited : Awaited)
  | savingAs (path target : RelPath) (request : SaveRequest)
  /-- Of the text that the user has given up there is a ghost. -/
  | discarding (path : RelPath) (given : Option String)
  | deciding (path : RelPath) (conflicted : Bool)
  | ended
  deriving DecidableEq

def Phase.replaces : Phase → Option RelPath
  | .loading path | .checking path _ | .reopening path | .discarding path _ => some path
  | .savingAs _ target _ => some target
  | _ => none

/-- The paths that an operation which is under way has been started on. -/
def Phase.paths : Phase → List RelPath
  | .loading path | .beforeSave path _ | .saving path _ | .afterSave path | .checking path _ | .reopening path
  | .refreshing path | .discarding path _ | .deciding path _ => [path]
  | .beforeSaveAs path target _ | .savingAs path target _ => [path, target]
  | .loaded _ | .ended => []

def Phase.saves : Phase → Option RelPath
  | .saving path _ | .savingAs path _ _ => some path
  | _ => none

/-- An operation, and two ghosts: whether text has been typed into the document that it may replace since it has
looked, and whether one of its paths has been renamed or deleted. -/
structure Slot where
  phase : Phase
  edited : Bool
  gone : Bool
  deriving DecidableEq

inductive Event
  | evicted (document : Document)
  /-- An operation makes a document anew at a path that has been renamed or deleted meanwhile. -/
  | recreated (path : RelPath)
  deriving DecidableEq

structure EditorDocumentStore where
  documents : Table Document.relPath
  loads : RelPath → Option Nat
  lastAccessed : RelPath → Nat
  lastAccessTime : Nat
  slots : List Slot
  /-- A ghost. -/
  log : List Event

inductive Decision
  | save | discard | cancel
  deriving DecidableEq

inductive Answer
  | resumed
  | opened (result : Except String NativeTextDocument)
  | revision (result : Except String Revision)
  | saved (result : Except String SaveResult)
  | hooked (result : Except String Unit)
  deriving DecidableEq

inductive Act
  | get (path : RelPath)
  | retain (path : RelPath)
  | release (path : RelPath)
  | load (path : RelPath)
  | updateCurrent (path : RelPath) (text : String)
  /-- Into the model that is attached. -/
  | type (path : RelPath) (text : String)
  | attachModel (path : RelPath)
  | save (path : RelPath)
  | saveAs (path target : RelPath)
  | checkRevision (path : RelPath)
  | refreshConflict (path : RelPath)
  | discardLocal (path : RelPath)
  | requestClose (path : RelPath)
  | decide (slot : Nat) (decision : Decision)
  | rename (source target : RelPath)
  | delete (path : RelPath)
  | dispose
  | complete (slot : Nat) (answer : Answer)
  deriving DecidableEq

/-- What happens, and what the clock says. -/
structure Step where
  now : Nat
  act : Act
  deriving DecidableEq

namespace EditorDocumentStore

def initial : EditorDocumentStore where
  documents := .empty
  loads := fun _ => none
  lastAccessed := fun _ => 0
  lastAccessTime := 0
  slots := []
  log := []

section Parts

variable (s : EditorDocumentStore) (now : Nat)

def note (event : Event) : EditorDocumentStore := { s with log := s.log ++ [event] }

def push (phase : Phase) (edited gone : Bool) : EditorDocumentStore :=
  { s with slots := s.slots ++ [⟨phase, edited, gone⟩] }

def setPhase (i : Nat) (slot : Slot) (phase : Phase) : EditorDocumentStore :=
  { s with slots := s.slots.set i { slot with phase } }

def touch (path : RelPath) : EditorDocumentStore :=
  let lastAccessTime := max now (s.lastAccessTime + 1)
  { s with lastAccessTime, lastAccessed := Function.update s.lastAccessed path lastAccessTime }

def document (path : RelPath) : Document := (s.documents.find path).getD (emptyDocument path)

def update (path : RelPath) (updater : Document → Document) : EditorDocumentStore :=
  ({ s with documents := s.documents.put (updater (s.document path)) }).touch now path

def noteRecreation (slot : Slot) (path : RelPath) : EditorDocumentStore :=
  if slot.gone ∧ s.documents.find path = none then s.note (.recreated path) else s

def updateFrom (slot : Slot) (path : RelPath) (updater : Document → Document) : EditorDocumentStore :=
  (s.noteRecreation slot path).update now path updater

def evictable (document : Document) : Bool :=
  !document.dirty && document.viewCount = 0 && !document.loading && !document.saving

def evictDocument (document : Document) : EditorDocumentStore :=
  { s.note (.evicted document) with
    documents := s.documents.erase document.relPath
    lastAccessed := Function.update s.lastAccessed document.relPath 0 }

/-- The candidates, those first that have not been looked at for longest. -/
def candidates : List Document :=
  (s.documents.rows.filter evictable).mergeSort fun a b => s.lastAccessed a.relPath ≤ s.lastAccessed b.relPath

def evictRetainedDocuments : EditorDocumentStore :=
  if s.documents.rows.length ≤ MAX_RETAINED_DOCUMENTS then s
  else s.candidates.foldl (fun s document =>
    if s.documents.rows.length ≤ MAX_RETAINED_DOCUMENTS then s else s.evictDocument document) s

def markEdited (path : RelPath) : EditorDocumentStore :=
  { s with slots := s.slots.map fun slot =>
      if slot.phase.replaces = some path then { slot with edited := true } else slot }

def markGone (path : RelPath) : EditorDocumentStore :=
  { s with slots := s.slots.map fun slot =>
      if slot.phase.paths.any fun other => path <+: other then { slot with gone := true } else slot }

end Parts

section Beginnings

variable (s : EditorDocumentStore) (now : Nat) (path : RelPath)

def pendingLoad : EditorDocumentStore × Awaited :=
  match s.loads path with
  | some slot => (s.touch now path, .load slot)
  | none =>
    let begun := (s.update now path Document.beginLoading).push (.loading path) (s.document path).typed false
    ({ begun with loads := Function.update begun.loads path (some s.slots.length) }, .load s.slots.length)

def load : EditorDocumentStore × Awaited :=
  match s.documents.find path with
  | some existing => if existing.isLoaded then (s.touch now path, .ready existing) else s.pendingLoad now path
  | none => s.pendingLoad now path

def save : EditorDocumentStore :=
  let (begun, awaited) := s.load now path
  begun.push (.beforeSave path awaited) false false

def saveAs (target : RelPath) : EditorDocumentStore :=
  if target = path then s.save now path
  else
    let (begun, awaited) := s.load now path
    begun.push (.beforeSaveAs path target awaited) false false

def checkRevision : EditorDocumentStore :=
  match s.documents.find path with
  | none => s
  | some document =>
    if document.revision.isNone || document.loading || document.saving then s
    else s.push (.checking path document) false false

def discardLocal (gone : Bool) : EditorDocumentStore :=
  s.push (.discarding path ((s.documents.find path).map Document.current)) false gone

def requestClose : EditorDocumentStore :=
  match s.documents.find path with
  | none => s
  | some document =>
    if document.dirty then s.push (.deciding path document.conflict.isSome) false false else s

end Beginnings

section Mutations

variable (s : EditorDocumentStore) (now : Nat)

def movesTo (source target path : RelPath) : RelPath := target ++ path.drop source.length

def isUnder (source : RelPath) (document : Document) : Bool := source <+: document.relPath

def arrive (document : Document) : EditorDocumentStore :=
  let s := if document.typed then s.markEdited document.relPath else s
  ({ s with documents := s.documents.put document }).touch now document.relPath

def leave (path : RelPath) : EditorDocumentStore :=
  { s.markGone path with
    documents := s.documents.retain fun document => !isUnder path document
    lastAccessed := fun other => if path <+: other ∧ (s.documents.find other).isSome then 0 else s.lastAccessed other }

def applyRename (source target : RelPath) : EditorDocumentStore :=
  let moving := s.documents.rows.filter (isUnder source)
  let moved := moving.map fun document => document.move (movesTo source target document.relPath)
  if moved.any fun document =>
      (s.documents.find document.relPath).isSome && !moving.any fun other => other.relPath = document.relPath then s
  else (moved.foldl (fun s document => s.arrive now document) (s.leave source)).evictRetainedDocuments

def applyDelete (path : RelPath) : EditorDocumentStore := s.leave path

def dispose : EditorDocumentStore :=
  { s with documents := .empty, loads := fun _ => none, lastAccessed := fun _ => 0 }

end Mutations

section Completions

variable (s : EditorDocumentStore) (now i : Nat) (slot : Slot)

def resolve : Awaited → Option (Except String Document)
  | .ready document => some (.ok document)
  | .load j => match (s.slots[j]?).map Slot.phase with
    | some (.loaded result) => some result
    | _ => none

def completeLoad (path : RelPath) : Except String NativeTextDocument → EditorDocumentStore
  | .ok opened =>
    let updated := s.updateFrom now slot path fun document => document.load opened
    { updated.evictRetainedDocuments.setPhase i slot (.loaded (.ok (updated.document path))) with
      loads := Function.update updated.loads path none }
  | .error message =>
    let updated := s.updateFrom now slot path fun document => document.failLoading message
    { updated.evictRetainedDocuments.setPhase i slot (.loaded (.error message)) with
      loads := Function.update updated.loads path none }

def resumeSave (path : RelPath) : Except String Document → EditorDocumentStore
  | .ok document =>
    if document.revision.isNone || document.saving then s.setPhase i slot .ended
    else (s.updateFrom now slot path Document.beginSaving).setPhase i slot (.saving path
      ⟨document.current, document.revision, document.encoding, document.lineEnding⟩)
  | .error _ => s.setPhase i slot .ended

def completeSave (path : RelPath) (request : SaveRequest) : Except String SaveResult → EditorDocumentStore
  | .ok (.saved saved) => (s.updateFrom now slot path fun document => document.save request.content saved).setPhase i
      slot (.afterSave path)
  | .ok (.conflict currentRevision) =>
    (s.updateFrom now slot path fun document => document.refuseSaving currentRevision).setPhase i slot (.refreshing path)
  | .error message => (s.updateFrom now slot path fun document => document.failSaving message).setPhase i slot .ended

def completeHook (path : RelPath) : Except String Unit → EditorDocumentStore
  | .ok _ => s.evictRetainedDocuments.setPhase i slot .ended
  | .error message => (s.updateFrom now slot path fun document =>
      document.fail s!"Saved, but refresh failed: {message}").evictRetainedDocuments.setPhase i slot .ended

def completeCheck (path : RelPath) (document : Document) : Except String Revision → EditorDocumentStore
  | .ok currentRevision =>
    if document.revision = some currentRevision then s.setPhase i slot .ended
    else if document.dirty then
      (s.updateFrom now slot path fun latest => latest.meetDisk currentRevision).setPhase i slot (.refreshing path)
    else s.setPhase i slot (.reopening path)
  | .error message =>
    if document.dirty then
      (s.updateFrom now slot path fun latest => latest.missDisk message).setPhase i slot .ended
    else s.setPhase i slot .ended

/-- What is on the disk, for a document that was not dirty, or one that the user has given up. -/
def completeReplacement (path : RelPath) : Except String NativeTextDocument → EditorDocumentStore
  | .ok opened => (s.updateFrom now slot path fun document => document.replace opened).evictRetainedDocuments.setPhase i
      slot .ended
  | .error message => (s.updateFrom now slot path fun document => document.fail message).setPhase i slot .ended

def completeRefresh (path : RelPath) : Except String NativeTextDocument → EditorDocumentStore
  | .ok opened => (s.updateFrom now slot path fun document => document.refresh opened).setPhase i slot .ended
  | .error message => (s.updateFrom now slot path fun document =>
      document.fail s!"Could not reload the disk version: {message}").setPhase i slot .ended

/-- Of the document at the target it is asked here, and only here, whether it has unsaved text. -/
def resumeSaveAs (path target : RelPath) : Except String Document → EditorDocumentStore
  | .ok document =>
    if (s.documents.find target).any Document.dirty then s.setPhase i slot .ended
    else (s.updateFrom now slot path Document.beginSaving).setPhase i { slot with edited := false } (.savingAs path
      target ⟨document.current, none, document.encoding, document.lineEnding⟩)
  | .error _ => s.setPhase i slot .ended

def completeSaveAs (path target : RelPath) : Except String SaveResult → EditorDocumentStore
  | .ok (.saved saved) =>
    ((s.updateFrom now slot path Document.endSaving).updateFrom now slot target fun document =>
      document.saveAs saved).setPhase i slot (.afterSave target)
  | .ok (.conflict _) =>
    ((s.updateFrom now slot path Document.endSaving).updateFrom now slot path fun document => document.fail
      ("Save As did not overwrite " ++ "/".intercalate target ++ " because it already exists or changed.")).setPhase i slot
      .ended
  | .error message => (s.updateFrom now slot path fun document => document.failSaving message).setPhase i slot .ended

def decide (path : RelPath) (conflicted : Bool) : Decision → EditorDocumentStore
  | .cancel => s.setPhase i slot .ended
  | .discard =>
    if conflicted then (s.setPhase i slot .ended).discardLocal path slot.gone
    else (s.updateFrom now slot path Document.discard).evictRetainedDocuments.setPhase i slot .ended
  | .save => ((s.noteRecreation slot path).setPhase i slot .ended).save now path

def complete (answer : Answer) : EditorDocumentStore :=
  match slot.phase, answer with
  | .loading path, .opened result => s.completeLoad now i slot path result
  | .beforeSave path awaited, .resumed => match s.resolve awaited with
    | some result => s.resumeSave now i slot path result
    | none => s
  | .saving path request, .saved result => s.completeSave now i slot path request result
  | .afterSave path, .hooked result => s.completeHook now i slot path result
  | .checking path document, .revision result => s.completeCheck now i slot path document result
  | .reopening path, .opened result => s.completeReplacement now i slot path result
  | .discarding path _, .opened result => s.completeReplacement now i slot path result
  | .refreshing path, .opened result => s.completeRefresh now i slot path result
  | .beforeSaveAs path target awaited, .resumed => match s.resolve awaited with
    | some result => s.resumeSaveAs now i slot path target result
    | none => s
  | .savingAs path target _, .saved result => s.completeSaveAs now i slot path target result
  | _, _ => s

end Completions

def next (s : EditorDocumentStore) (step : Step) : EditorDocumentStore :=
  match step.act with
  | .get path => if (s.documents.find path).isSome then s.touch step.now path else s
  | .retain path => (s.update step.now path Document.retain).evictRetainedDocuments
  | .release path =>
    if (s.documents.find path).isSome then (s.update step.now path Document.release).evictRetainedDocuments else s
  | .load path => (s.load step.now path).1
  | .updateCurrent path text =>
    ((s.markEdited path).update step.now path fun document => document.updateCurrent text).evictRetainedDocuments
  | .type path text =>
    if ((s.documents.find path).bind Document.model).isSome then
      ((s.markEdited path).update step.now path fun document => document.type text).evictRetainedDocuments
    else s
  | .attachModel path =>
    if ((s.documents.find path).bind Document.model).isSome then s.touch step.now path
    else (s.update step.now path Document.attachModel).evictRetainedDocuments
  | .save path => s.save step.now path
  | .saveAs path target => s.saveAs step.now path target
  | .checkRevision path => s.checkRevision path
  | .refreshConflict path => s.push (.refreshing path) false false
  | .discardLocal path => s.discardLocal path false
  | .requestClose path => s.requestClose path
  | .decide i decision => match s.slots[i]? with
    | some slot => match slot.phase with
      | .deciding path conflicted => s.decide step.now i slot path conflicted decision
      | _ => s
    | none => s
  | .rename source target => s.applyRename step.now source target
  | .delete path => s.applyDelete path
  | .dispose => s.dispose
  | .complete i answer => match s.slots[i]? with
    | some slot => s.complete step.now i slot answer
    | none => s

def run (steps : List Step) : EditorDocumentStore := steps.foldl next initial

end EditorDocumentStore

end VibeLink.Editor

/-! Which documents the steps of the store leave, and which they evict. -/

namespace VibeLink.Editor.EditorDocumentStore

open Relational

variable {s : EditorDocumentStore} {now : Nat} {path : RelPath} {document : Document} {updater : Document → Document}

section Updates

def Stays (updater : Document → Document) : Prop := ∀ document, (updater document).relPath = document.relPath

theorem document_relPath (s : EditorDocumentStore) (path : RelPath) : (s.document path).relPath = path := by
  rw [EditorDocumentStore.document]
  cases found : s.documents.find path with
  | none => rfl
  | some document => exact Table.key_of_find found

theorem document_of_find (found : s.documents.find path = some document) : s.document path = document := by
  rw [EditorDocumentStore.document, found]
  rfl

theorem find_update (stays : Stays updater) : (s.update now path updater).documents.find =
    Function.update s.documents.find path (some (updater (s.document path))) := by
  change (s.documents.put (updater (s.document path))).find = _
  rw [Table.find_put, stays, document_relPath]

theorem documents_noteRecreation (slot : Slot) (path : RelPath) :
    (s.noteRecreation slot path).documents = s.documents := by
  rw [noteRecreation]
  split
  · rfl
  · rfl

theorem slots_noteRecreation (slot : Slot) (path : RelPath) : (s.noteRecreation slot path).slots = s.slots := by
  rw [noteRecreation]
  split
  · rfl
  · rfl

theorem find_updateFrom {slot : Slot} (stays : Stays updater) : (s.updateFrom now slot path updater).documents.find =
    Function.update s.documents.find path (some (updater (s.document path))) := by
  rw [updateFrom, find_update stays, EditorDocumentStore.document, documents_noteRecreation]
  rfl

theorem document_updateFrom {slot : Slot} (stays : Stays updater) :
    (s.updateFrom now slot path updater).document path = updater (s.document path) := by
  rw [EditorDocumentStore.document, find_updateFrom stays, Function.update_self]
  rfl

theorem slots_updateFrom {slot : Slot} : (s.updateFrom now slot path updater).slots = s.slots :=
  slots_noteRecreation slot path

theorem updateFrom_of_present {slot : Slot} (present : slot.gone = false) :
    s.updateFrom now slot path updater = s.update now path updater := by
  rw [updateFrom, noteRecreation, if_neg]
  intro gone
  exact absurd (present.symm.trans gone.1) nofun

end Updates

section Eviction

/-- A candidate may be evicted, and nothing else changes. -/
structure Evicts (s t : EditorDocumentStore) : Prop where
  slots : t.slots = s.slots
  loads : t.loads = s.loads
  subset : ∀ path document, t.documents.find path = some document → s.documents.find path = some document
  kept : ∀ path document, s.documents.find path = some document → evictable document = false →
    t.documents.find path = some document
  log : ∀ event ∈ t.log, event ∈ s.log ∨ ∃ document, event = .evicted document ∧ evictable document = true

theorem Evicts.refl (s : EditorDocumentStore) : s.Evicts s :=
  ⟨rfl, rfl, fun _ _ => id, fun _ _ found _ => found, fun _ => .inl⟩

theorem Evicts.trans {t u : EditorDocumentStore} (first : s.Evicts t) (second : t.Evicts u) : s.Evicts u where
  slots := second.slots.trans first.slots
  loads := second.loads.trans first.loads
  subset path document found := first.subset path document (second.subset path document found)
  kept path document found stays := second.kept path document (first.kept path document found stays) stays
  log event member := by
    cases second.log event member with
    | inl before => exact first.log event before
    | inr new => exact .inr new

theorem Evicts.evictDocument (there : s.documents.find document.relPath = some document)
    (candidate : evictable document = true) : s.Evicts (s.evictDocument document) where
  slots := rfl
  loads := rfl
  subset path other found := by
    change (s.documents.erase document.relPath).find path = some other at found
    rw [Table.find_erase, Function.update_apply] at found
    split at found
    · cases found
    · exact found
  kept path other found stays := by
    change (s.documents.erase document.relPath).find path = some other
    rw [Table.find_erase, Function.update_apply]
    split
    · rename_i same
      rw [same, there] at found
      cases found
      cases candidate.symm.trans stays
    · exact found
  log event member := by
    cases List.mem_append.1 member with
    | inl before => exact .inl before
    | inr new => exact .inr ⟨document, List.mem_singleton.1 new, candidate⟩

theorem Evicts.foldl {candidates : List Document} (nodup : (candidates.map Document.relPath).Nodup)
    (there : ∀ document ∈ candidates, s.documents.find document.relPath = some document ∧ evictable document = true) :
    s.Evicts (candidates.foldl (fun s document =>
      if s.documents.rows.length ≤ MAX_RETAINED_DOCUMENTS then s else s.evictDocument document) s) := by
  induction candidates generalizing s with
  | nil => exact .refl s
  | cons document rest ih =>
    rw [List.map_cons, List.nodup_cons] at nodup
    obtain ⟨here, candidate⟩ := there document List.mem_cons_self
    rw [List.foldl_cons]
    split
    · exact ih nodup.2 fun other member => there other (List.mem_cons_of_mem _ member)
    · refine (Evicts.evictDocument here candidate).trans (ih nodup.2 fun other member => ?_)
      obtain ⟨found, may⟩ := there other (List.mem_cons_of_mem _ member)
      have ne : other.relPath ≠ document.relPath := fun same =>
        nodup.1 (same ▸ List.mem_map_of_mem member)
      refine ⟨?_, may⟩
      change (s.documents.erase document.relPath).find other.relPath = some other
      rw [Table.find_erase, Function.update_of_ne ne]
      exact found

theorem evicts (s : EditorDocumentStore) : s.Evicts s.evictRetainedDocuments := by
  rw [evictRetainedDocuments]
  split
  · exact .refl s
  · have perm : s.candidates.Perm (s.documents.rows.filter evictable) := List.mergeSort_perm _ _
    refine .foldl ?_ fun document member => ?_
    · rw [(perm.map Document.relPath).nodup_iff]
      exact s.documents.nodup.sublist (List.filter_sublist.map _)
    · obtain ⟨inside, may⟩ := List.mem_filter.1 (perm.mem_iff.1 member)
      exact ⟨Table.find_of_mem inside, may⟩

end Eviction

end VibeLink.Editor.EditorDocumentStore
