import VibeLink.Editor.Operations

/-! Text that has been typed, and what the operations of the store that were waiting make of it. -/

namespace VibeLink.Editor

open Relational

namespace Document

def Marked (document : Document) : Prop := document.typed = true → document.dirty = true

/-- What is typed in a document that has been worked on was typed in it before. -/
structure Tame (updater : Document → Document) : Prop where
  stays : EditorDocumentStore.Stays updater
  typed : ∀ document, (updater document).typed = true →
    document.typed = true ∧ (updater document).current = document.current
  marked : ∀ document, document.Marked → (updater document).Marked

/-- And the other way round. -/
structure Gentle (updater : Document → Document) : Prop extends Tame updater where
  spares : ∀ document, document.typed = true → (updater document).typed = true

section Updaters

variable {updater : Document → Document}

theorem gentle_of_eq (stays : EditorDocumentStore.Stays updater)
    (current : ∀ document, (updater document).current = document.current)
    (dirty : ∀ document, (updater document).dirty = document.dirty)
    (typed : ∀ document, (updater document).typed = document.typed) : Gentle updater where
  stays := stays
  typed document marked := ⟨(typed document).symm.trans marked, current document⟩
  marked document marked is := (dirty document).trans (marked ((typed document).symm.trans is))
  spares document is := (typed document).trans is

theorem gentle_beginLoading : Gentle beginLoading := gentle_of_eq (fun _ => rfl) (fun _ => rfl) (fun _ => rfl) fun _ => rfl

theorem gentle_failLoading (message : String) : Gentle fun document => document.failLoading message :=
  gentle_of_eq (fun _ => rfl) (fun _ => rfl) (fun _ => rfl) fun _ => rfl

theorem gentle_attachModel : Gentle attachModel := gentle_of_eq (fun _ => rfl) (fun _ => rfl) (fun _ => rfl) fun _ => rfl

theorem gentle_retain : Gentle retain := gentle_of_eq (fun _ => rfl) (fun _ => rfl) (fun _ => rfl) fun _ => rfl

theorem gentle_release : Gentle release := gentle_of_eq (fun _ => rfl) (fun _ => rfl) (fun _ => rfl) fun _ => rfl

theorem gentle_beginSaving : Gentle beginSaving := gentle_of_eq (fun _ => rfl) (fun _ => rfl) (fun _ => rfl) fun _ => rfl

theorem gentle_failSaving (message : String) : Gentle fun document => document.failSaving message :=
  gentle_of_eq (fun _ => rfl) (fun _ => rfl) (fun _ => rfl) fun _ => rfl

theorem gentle_refuseSaving (currentRevision : Option Revision) :
    Gentle fun document => document.refuseSaving currentRevision :=
  gentle_of_eq (fun _ => rfl) (fun _ => rfl) (fun _ => rfl) fun _ => rfl

theorem gentle_missDisk (message : String) : Gentle fun document => document.missDisk message :=
  gentle_of_eq (fun _ => rfl) (fun _ => rfl) (fun _ => rfl) fun _ => rfl

theorem gentle_meetDisk (currentRevision : Revision) : Gentle fun document => document.meetDisk currentRevision :=
  gentle_of_eq (fun _ => rfl) (fun _ => rfl) (fun _ => rfl) fun _ => rfl

theorem gentle_endSaving : Gentle endSaving := gentle_of_eq (fun _ => rfl) (fun _ => rfl) (fun _ => rfl) fun _ => rfl

theorem gentle_fail (message : String) : Gentle fun document => document.fail message :=
  gentle_of_eq (fun _ => rfl) (fun _ => rfl) (fun _ => rfl) fun _ => rfl

theorem gentle_refresh (opened : NativeTextDocument) : Gentle fun document => document.refresh opened :=
  gentle_of_eq (fun _ => rfl) (fun _ => rfl) (fun _ => rfl) fun _ => rfl

theorem tame_load (opened : NativeTextDocument) : Tame fun document => document.load opened where
  stays _ := rfl
  marked _ _ is := (Bool.and_eq_true_iff.1 is).2
  typed document is := by
    obtain ⟨typed, dirty⟩ := Bool.and_eq_true_iff.1 is
    refine ⟨typed, ?_⟩
    cases held : document.revision.isSome with
    | true => exact if_pos held
    | false =>
      rw [held] at dirty
      cases dirty

theorem tame_save (content : String) (saved : NativeTextDocument) : Tame fun document => document.save content saved where
  stays _ := rfl
  marked _ _ is := (Bool.and_eq_true_iff.1 is).2
  typed document is := by
    obtain ⟨typed, dirty⟩ := Bool.and_eq_true_iff.1 is
    refine ⟨typed, if_neg fun same => ?_⟩
    rw [if_pos same] at dirty
    exact of_decide_eq_true dirty rfl

theorem tame_replace (opened : NativeTextDocument) : Tame fun document => document.replace opened :=
  ⟨fun _ => rfl, fun _ => nofun, fun _ _ => nofun⟩

theorem tame_saveAs (saved : NativeTextDocument) : Tame fun document => document.saveAs saved :=
  ⟨fun _ => rfl, fun _ => nofun, fun _ _ => nofun⟩

theorem tame_discard : Tame discard := ⟨fun _ => rfl, fun _ => nofun, fun _ _ => nofun⟩

end Updaters

end Document

namespace EditorDocumentStore

open Document

variable {s t u : EditorDocumentStore} {now i : Nat} {path : RelPath} {slot : Slot} {phase : Phase}
  {document other : Document} {updater : Document → Document} {excused : RelPath → String → Prop}

section Relations

def Marked (s : EditorDocumentStore) : Prop := ∀ path document, s.documents.find path = some document → document.Marked

/-- The same text, typed. -/
structure Same (document other : Document) : Prop where
  typed : other.typed = true
  current : other.current = document.current

/-- No text has been typed. -/
structure Fades (s t : EditorDocumentStore) : Prop where
  marked : s.Marked → t.Marked
  typed : ∀ path document, t.documents.find path = some document → document.typed = true →
    ∃ before, s.documents.find path = some before ∧ Same document before

/-- The text that has been typed is there as before, if it is not excused. -/
def Spares (excused : RelPath → String → Prop) (s t : EditorDocumentStore) : Prop :=
  s.Marked → ∀ path document, s.documents.find path = some document → document.typed = true →
    excused path document.current ∨ ∃ after, t.documents.find path = some after ∧ Same document after

theorem Fades.of_eq (documents : t.documents.find = s.documents.find) : s.Fades t where
  marked := by
    intro marked path document found
    rw [documents] at found
    exact marked path document found
  typed path document found typed := ⟨document, documents ▸ found, typed, rfl⟩

theorem Fades.trans (first : s.Fades t) (second : t.Fades u) : s.Fades u where
  marked marked := second.marked (first.marked marked)
  typed path document found typed := by
    obtain ⟨middle, there, same⟩ := second.typed path document found typed
    obtain ⟨before, found, other⟩ := first.typed path middle there same.typed
    exact ⟨before, found, other.typed, other.current.trans same.current⟩

theorem Spares.of_eq (documents : t.documents.find = s.documents.find) : Spares excused s t :=
  fun _ _ document found typed => .inr ⟨document, documents ▸ found, typed, rfl⟩

theorem Spares.trans (first : Spares excused s t) (fades : s.Fades t) (second : Spares excused t u) :
    Spares excused s u := by
  intro marked path document found typed
  cases first marked path document found typed with
  | inl excuse => exact .inl excuse
  | inr there =>
    obtain ⟨middle, there, same⟩ := there
    cases second (fades.marked marked) path middle there same.typed with
    | inl excuse => exact .inl (same.current ▸ excuse)
    | inr there =>
      obtain ⟨after, found, other⟩ := there
      exact .inr ⟨after, found, other.typed, other.current.trans same.current⟩

theorem typed_document (typed : (s.document path).typed = true) : s.documents.find path = some (s.document path) := by
  rw [EditorDocumentStore.document] at typed ⊢
  cases found : s.documents.find path with
  | none =>
    rw [found] at typed
    cases typed
  | some document => rfl

theorem marked_document (marked : s.Marked) (path : RelPath) : (s.document path).Marked :=
  fun typed => marked path _ (typed_document typed) typed

theorem fades_updateFrom (tame : Tame updater) : s.Fades (s.updateFrom now slot path updater) where
  marked marked other document found := by
    rw [find_updateFrom tame.stays, Function.update_apply] at found
    split at found
    · cases found
      exact tame.marked _ (marked_document marked path)
    · exact marked other document found
  typed other document found typed := by
    rw [find_updateFrom tame.stays, Function.update_apply] at found
    split at found
    · rename_i same
      cases found
      cases same
      obtain ⟨before, same⟩ := tame.typed _ typed
      exact ⟨_, typed_document before, before, same.symm⟩
    · exact ⟨document, found, typed, rfl⟩

theorem spares_updateFrom (stays : Stays updater) (same : ∀ document, s.documents.find path = some document →
    document.typed = true → excused path document.current ∨ Same document (updater document)) :
    Spares excused s (s.updateFrom now slot path updater) := by
  intro marked other document found typed
  rw [find_updateFrom stays]
  cases Decidable.em (other = path) with
  | inr apart =>
    rw [Function.update_of_ne apart]
    exact .inr ⟨document, found, typed, rfl⟩
  | inl eq =>
    cases eq
    rw [Function.update_self, document_of_find found]
    exact (same document found typed).imp id fun same => ⟨_, rfl, same⟩

theorem spares_of_gentle (gentle : Gentle updater) : Spares excused s (s.updateFrom now slot path updater) :=
  spares_updateFrom gentle.stays fun document _ typed =>
    have after := gentle.spares document typed
    .inr ⟨after, (gentle.typed document after).2⟩

theorem fades_evict (s : EditorDocumentStore) : s.Fades s.evictRetainedDocuments where
  marked marked path document found := marked path document ((evicts s).subset path document found)
  typed path document found typed := ⟨document, (evicts s).subset path document found, typed, rfl⟩

theorem spares_evict (s : EditorDocumentStore) : Spares excused s s.evictRetainedDocuments := by
  intro marked path document found typed
  have stays : evictable document = false := by
    rw [evictable, marked path document found typed]
    rfl
  exact .inr ⟨document, (evicts s).kept path document found stays, typed, rfl⟩

end Relations

section Guards

/-- What an operation that may replace a text knows of it, while nothing has been typed since it has looked. -/
def Guards : Phase → Document → Prop
  | .loading _, document | .reopening _, document | .savingAs _ _ _, document => document.typed = false
  | .checking _ seen, document => seen.dirty = false → document.typed = false
  | .discarding _ given, document => document.typed = true → given = some document.current
  | _, _ => True

theorem guards_of_untyped (untyped : document.typed = false) : Guards phase document := by
  cases phase with
  | loading | reopening | savingAs => exact untyped
  | checking => exact fun _ => untyped
  | discarding => exact fun typed => absurd (untyped.symm.trans typed) nofun
  | _ => trivial

theorem Guards.of_same (guards : Guards phase document) (typed : document.typed = true)
    (current : other.current = document.current) : Guards phase other := by
  cases phase with
  | loading | reopening | savingAs => exact absurd (Eq.trans (Eq.symm guards) typed) nofun
  | checking => exact fun clean => absurd ((guards clean).symm.trans typed) nofun
  | discarding => exact fun _ => (guards typed).trans (congrArg some current.symm)
  | _ => trivial

def Quiet (s : EditorDocumentStore) (slot : Slot) : Prop :=
  slot.edited = false → ∀ path, slot.phase.replaces = some path → ∀ document,
    s.documents.find path = some document → Guards slot.phase document

theorem quiet_of_replaces (none : slot.phase.replaces = none) : s.Quiet slot :=
  fun _ _ replaces => nomatch none.symm.trans replaces

theorem Fades.quiet (fades : s.Fades t) {before : Slot} (quiet : s.Quiet before) (same : slot.phase = before.phase)
    (edited : slot.edited = false → before.edited = false) : t.Quiet slot := by
  intro still path replaces document found
  rw [same] at replaces ⊢
  cases typed : document.typed with
  | false => exact guards_of_untyped typed
  | true =>
    obtain ⟨earlier, there, was⟩ := fades.typed path document found typed
    exact (quiet (edited still) path replaces earlier there).of_same was.typed was.current.symm

/-- The invariant. -/
structure Calm (s : EditorDocumentStore) : Prop where
  marked : s.Marked
  quiet : ∀ slot ∈ s.slots, s.Quiet slot

theorem Calm.of_slots (h : s.Calm) (fades : s.Fades t)
    (slots : ∀ slot ∈ t.slots, t.Quiet slot ∨ ∃ before ∈ s.slots, slot.phase = before.phase ∧
      (slot.edited = false → before.edited = false)) : t.Calm where
  marked := fades.marked h.marked
  quiet slot member := by
    cases slots slot member with
    | inl quiet => exact quiet
    | inr old =>
      obtain ⟨before, there, same, edited⟩ := old
      exact fades.quiet (h.quiet before there) same edited

theorem Calm.of_fades (h : s.Calm) (fades : s.Fades t) (slots : t.slots = s.slots) : t.Calm :=
  h.of_slots fades fun slot member => .inr ⟨slot, slots ▸ member, rfl, id⟩

theorem Calm.push (h : s.Calm) {edited gone : Bool} (quiet : s.Quiet ⟨phase, edited, gone⟩) :
    (s.push phase edited gone).Calm := by
  refine h.of_slots (.of_eq rfl) fun slot member => ?_
  cases List.mem_append.1 member with
  | inl before => exact .inr ⟨slot, before, rfl, id⟩
  | inr new =>
    cases List.mem_singleton.1 new
    exact .inl quiet

theorem Calm.setPhase (h : s.Calm) (quiet : s.Quiet { slot with phase }) : (s.setPhase i slot phase).Calm := by
  refine h.of_slots (.of_eq rfl) fun other member => ?_
  cases List.mem_or_eq_of_mem_set member with
  | inl before => exact .inr ⟨other, before, rfl, id⟩
  | inr new => exact .inl (new ▸ quiet)

theorem Calm.updateFrom (h : s.Calm) (tame : Tame updater) : (s.updateFrom now slot path updater).Calm :=
  h.of_fades (fades_updateFrom tame) slots_updateFrom

theorem Calm.evict (h : s.Calm) : s.evictRetainedDocuments.Calm := h.of_fades (fades_evict s) (evicts s).slots

theorem update_eq_updateFrom :
    s.update now path updater = s.updateFrom now ⟨.ended, false, false⟩ path updater :=
  (updateFrom_of_present rfl).symm

theorem Calm.update (h : s.Calm) (tame : Tame updater) : (s.update now path updater).Calm :=
  update_eq_updateFrom ▸ h.updateFrom tame

end Guards

section Beginnings

theorem calm_initial : initial.Calm := ⟨fun _ _ => nofun, fun _ => nofun⟩

theorem Calm.touch (h : s.Calm) : (s.touch now path).Calm := h.of_fades (.of_eq rfl) rfl

theorem Calm.pendingLoad (h : s.Calm) : (s.pendingLoad now path).1.Calm := by
  rw [EditorDocumentStore.pendingLoad]
  split
  · exact h.touch
  · refine ((h.update gentle_beginLoading.toTame).push fun still other replaces document found => ?_).of_fades
      (.of_eq rfl) rfl
    cases replaces
    rw [find_update gentle_beginLoading.stays, Function.update_self] at found
    cases found
    exact still

theorem Calm.load (h : s.Calm) : (s.load now path).1.Calm := by
  rw [EditorDocumentStore.load]
  split
  · split
    · exact h.touch
    · exact h.pendingLoad
  · exact h.pendingLoad

theorem Calm.save (h : s.Calm) : (s.save now path).Calm := h.load.push (quiet_of_replaces rfl)

theorem Calm.saveAs (h : s.Calm) (target : RelPath) : (s.saveAs now path target).Calm := by
  rw [EditorDocumentStore.saveAs]
  split
  · exact h.save
  · exact h.load.push (quiet_of_replaces rfl)

theorem Calm.untyped (h : s.Calm) (found : s.documents.find path = some document) (clean : document.dirty = false) :
    document.typed = false := by
  cases typed : document.typed with
  | false => rfl
  | true => exact absurd (clean.symm.trans (h.marked path document found typed)) nofun

theorem Calm.checkRevision (h : s.Calm) : (s.checkRevision path).Calm := by
  rw [EditorDocumentStore.checkRevision]
  split
  · exact h
  · rename_i seen there
    split
    · exact h
    · refine h.push fun _ other replaces document found clean => ?_
      cases replaces
      cases there.symm.trans found
      exact h.untyped there clean

theorem Calm.discardLocal (h : s.Calm) (gone : Bool) : (s.discardLocal path gone).Calm := by
  refine h.push fun _ other replaces document found _ => ?_
  cases replaces
  rw [found]
  rfl

theorem Calm.requestClose (h : s.Calm) : (s.requestClose path).Calm := by
  rw [EditorDocumentStore.requestClose]
  split
  · exact h
  · split
    · exact h.push (quiet_of_replaces rfl)
    · exact h

theorem spares_load (s : EditorDocumentStore) (now : Nat) (path : RelPath) : Spares excused s (s.load now path).1 := by
  have pending : Spares excused s (s.pendingLoad now path).1 := by
    rw [EditorDocumentStore.pendingLoad]
    split
    · exact .of_eq rfl
    · have begun : Spares excused s (s.update now path beginLoading) := by
        rw [update_eq_updateFrom]
        exact spares_of_gentle gentle_beginLoading
      exact begun
  rw [EditorDocumentStore.load]
  split
  · split
    · exact .of_eq rfl
    · exact pending
  · exact pending

end Beginnings

section Mutations

variable {source target : RelPath}

theorem Calm.bring (h : s.Calm) (here : document.relPath = path) (marked : document.Marked) :
    ({ s.markEdited path with documents := s.documents.put document } : EditorDocumentStore).Calm where
  marked other found there := by
    rw [Table.find_put, Function.update_apply] at there
    split at there
    · cases there
      exact marked
    · exact h.marked other found there
  quiet slot member := by
    obtain ⟨before, there, same⟩ := List.mem_map.1 member
    intro still other replaces found inside
    split at same
    · cases same
      cases still
    · rename_i apart
      cases same
      have ne : other ≠ path := fun eq => apart (replaces.trans (congrArg some eq))
      rw [Table.find_put, here, Function.update_of_ne ne] at inside
      exact h.quiet _ there still other replaces found inside

theorem Calm.put (h : s.Calm) (untyped : document.typed = false) :
    ({ s with documents := s.documents.put document } : EditorDocumentStore).Calm := by
  refine h.of_fades ⟨fun marked other found there => ?_, fun other found there typed => ?_⟩ rfl
  · rw [Table.find_put, Function.update_apply] at there
    split at there
    · cases there
      intro typed
      cases untyped.symm.trans typed
    · exact marked other found there
  · rw [Table.find_put, Function.update_apply] at there
    split at there
    · cases there
      cases untyped.symm.trans typed
    · exact ⟨found, there, typed, rfl⟩

theorem Calm.edit (h : s.Calm) (stays : Stays updater) (marked : (updater (s.document path)).Marked) :
    ((s.markEdited path).update now path updater).Calm :=
  (h.bring ((stays _).trans (document_relPath s path)) marked).of_fades (.of_eq rfl) rfl

theorem Calm.arrive (h : s.Calm) (marked : document.Marked) : (s.arrive now document).Calm := by
  rw [EditorDocumentStore.arrive]
  split
  · exact (h.bring rfl marked).touch
  · rename_i untyped
    exact (h.put (Bool.eq_false_iff.2 untyped)).touch

theorem Calm.foldl_arrive {moved : List Document} (h : s.Calm) (marked : ∀ document ∈ moved, document.Marked) :
    (moved.foldl (fun s document => s.arrive now document) s).Calm := by
  induction moved generalizing s with
  | nil => exact h
  | cons document rest ih =>
    apply ih (h.arrive (marked document List.mem_cons_self))
    intro other member
    exact marked other (List.mem_cons_of_mem _ member)

theorem find_leave (found : (s.leave source).documents.find path = some document) :
    s.documents.find path = some document := by
  change (s.documents.retain _).find path = some document at found
  rw [Table.find_retain] at found
  exact (Option.filter_eq_some_iff.1 found).1

theorem find_leave_of_apart (apart : ¬ source <+: path) (found : s.documents.find path = some document) :
    (s.leave source).documents.find path = some document := by
  change (s.documents.retain _).find path = some document
  rw [Table.find_retain, found]
  refine Option.filter_eq_some_iff.2 ⟨rfl, ?_⟩
  rw [isUnder, Table.key_of_find found, decide_eq_false apart]
  rfl

theorem Calm.leave (h : s.Calm) : (s.leave path).Calm := by
  refine h.of_slots ⟨fun marked other document found => marked other document (find_leave found),
    fun other document found typed => ⟨document, find_leave found, typed, rfl⟩⟩ fun slot member => ?_
  obtain ⟨before, there, same⟩ := List.mem_map.1 member
  refine .inr ⟨before, there, ?_⟩
  split at same
  · cases same
    exact ⟨rfl, id⟩
  · cases same
    exact ⟨rfl, id⟩

theorem Calm.dispose (h : s.Calm) : s.dispose.Calm :=
  h.of_fades ⟨fun _ _ _ => nofun, fun _ _ => nofun⟩ rfl

theorem documents_foldl_arrive (moved : List Document) :
    (moved.foldl (fun s document => s.arrive now document) s).documents = moved.foldl Table.put s.documents := by
  induction moved generalizing s with
  | nil => rfl
  | cons document rest ih =>
    rw [List.foldl_cons, ih, List.foldl_cons]
    congr 1
    rw [EditorDocumentStore.arrive]
    split
    · rfl
    · rfl

theorem movesTo_injective {path other : RelPath} (first : source <+: path) (second : source <+: other)
    (same : movesTo source target path = movesTo source target other) : path = other := by
  obtain ⟨rest, rfl⟩ := first
  obtain ⟨others, rfl⟩ := second
  rw [movesTo, movesTo, List.drop_left, List.drop_left] at same
  rw [List.append_cancel_left same]

def moved (s : EditorDocumentStore) (source target : RelPath) : List Document :=
  (s.documents.rows.filter (isUnder source)).map fun document =>
    document.move (movesTo source target document.relPath)

theorem mem_moved (found : s.documents.find path = some document) (under : source <+: path) :
    document.move (movesTo source target path) ∈ s.moved source target := by
  have here := Table.key_of_find found
  refine List.mem_map.2 ⟨document, List.mem_filter.2 ⟨Table.mem_of_find found, ?_⟩, here ▸ rfl⟩
  exact decide_eq_true (here ▸ under)

theorem nodup_moved (s : EditorDocumentStore) (source target : RelPath) :
    ((s.moved source target).map Document.relPath).Nodup := by
  have keys := s.documents.nodup.sublist ((List.filter_sublist (p := isUnder source)).map Document.relPath)
  have moves := keys.map_on (f := movesTo source target) ?_
  · rw [List.map_map] at moves
    rw [moved, List.map_map]
    exact moves
  · intro path first other second
    obtain ⟨document, there, rfl⟩ := List.mem_map.1 first
    obtain ⟨document', there', rfl⟩ := List.mem_map.1 second
    have under := of_decide_eq_true (List.mem_filter.1 there).2
    exact movesTo_injective under (of_decide_eq_true (List.mem_filter.1 there').2)

theorem Calm.rename (h : s.Calm) :
    ((s.moved source target).foldl (fun s document => s.arrive now document) (s.leave source)).Calm := by
  apply h.leave.foldl_arrive
  intro document member
  obtain ⟨before, there, same⟩ := List.mem_map.1 member
  cases same
  exact h.marked _ before (Table.find_of_mem (List.mem_of_mem_filter there))

theorem Calm.applyRename (h : s.Calm) : (s.applyRename now source target).Calm := by
  rw [EditorDocumentStore.applyRename]
  split
  · exact h
  · exact h.rename.evict

theorem spares_applyRename (h : s.Calm) (found : s.documents.find path = some document)
    (typed : document.typed = true) :
    ∃ other after, (other = path ∨ source <+: path ∧ other = movesTo source target path) ∧
      (s.applyRename now source target).documents.find other = some after ∧ Same document after := by
  rw [EditorDocumentStore.applyRename]
  split
  · exact ⟨path, document, .inl rfl, found, typed, rfl⟩
  · rename_i free
    have renamed : ((s.moved source target).foldl (fun s document => s.arrive now document) (s.leave source)).Calm :=
      h.rename
    have spares := (spares_evict _ : Spares (fun _ _ => False) _ _) renamed.marked
    rw [documents_foldl_arrive] at spares
    cases Decidable.em (source <+: path) with
    | inl under =>
      have there := Table.find_foldl_put_of_mem (t := (s.leave source).documents) (nodup_moved s source target)
        (mem_moved found under)
      obtain ⟨after, found, same⟩ := (spares _ _ there typed).resolve_left id
      exact ⟨_, after, .inr ⟨under, rfl⟩, found, same.typed, same.current⟩
    | inr apart =>
      have there : ((s.moved source target).foldl Table.put (s.leave source).documents).find path = some document := by
        rw [Table.find_foldl_put_of_notMem]
        · exact find_leave_of_apart apart found
        · intro member
          obtain ⟨row, inside, same⟩ := List.mem_map.1 member
          refine free (List.any_eq_true.2 ⟨row, inside, Bool.and_eq_true_iff.2 ⟨?_, ?_⟩⟩)
          · rw [same, found]
            rfl
          · rw [Bool.not_eq_true', List.any_eq_false]
            intro other under same'
            have under := of_decide_eq_true (List.mem_filter.1 under).2
            exact apart (same ▸ of_decide_eq_true same' ▸ under)
      obtain ⟨after, found, same⟩ := (spares _ _ there typed).resolve_left id
      exact ⟨path, after, .inl rfl, found, same⟩

end Mutations

section Completions

variable {target : RelPath}

/-- No text comes to a document, and only what is excused goes. -/
structure Passes (excused : RelPath → String → Prop) (s t : EditorDocumentStore) : Prop where
  fades : s.Fades t
  spares : Spares excused s t
  slots : t.slots = s.slots

structure Proceeds (excused : RelPath → String → Prop) (s t : EditorDocumentStore) : Prop where
  calm : t.Calm
  spares : Spares excused s t

theorem Passes.refl (excused : RelPath → String → Prop) (s : EditorDocumentStore) : Passes excused s s :=
  ⟨.of_eq rfl, .of_eq rfl, rfl⟩

theorem Passes.trans (first : Passes excused s t) (second : Passes excused t u) : Passes excused s u :=
  ⟨first.fades.trans second.fades, first.spares.trans first.fades second.spares, second.slots.trans first.slots⟩

theorem Passes.gentle (gentle : Gentle updater) : Passes excused s (s.updateFrom now slot path updater) :=
  ⟨fades_updateFrom gentle.toTame, spares_of_gentle gentle, slots_updateFrom⟩

theorem Passes.tame (tame : Tame updater) (same : ∀ document, s.documents.find path = some document →
    document.typed = true → excused path document.current ∨ Same document (updater document)) :
    Passes excused s (s.updateFrom now slot path updater) :=
  ⟨fades_updateFrom tame, spares_updateFrom tame.stays same, slots_updateFrom⟩

theorem Passes.evict (passes : Passes excused s t) : Passes excused s t.evictRetainedDocuments :=
  passes.trans ⟨fades_evict t, spares_evict t, (evicts t).slots⟩

theorem Passes.setPhase (passes : Passes excused s t) (h : s.Calm) (quiet : t.Quiet { slot with phase }) :
    Proceeds excused s (t.setPhase i slot phase) where
  calm := (h.of_fades passes.fades passes.slots).setPhase quiet
  spares := passes.spares.trans passes.fades (.of_eq rfl)

theorem Passes.goOn (passes : Passes excused s t) (h : s.Calm) (none : phase.replaces = none) :
    Proceeds excused s (t.setPhase i slot phase) := passes.setPhase h (quiet_of_replaces none)

theorem Passes.endLoad (passes : Passes excused s t) (h : s.Calm) (result : Except String Document)
    (loads : RelPath → Option Nat) :
    Proceeds excused s { t.evictRetainedDocuments.setPhase i slot (.loaded result) with loads } where
  calm := (passes.evict.goOn h rfl).calm.of_fades (.of_eq rfl) rfl
  spares := passes.evict.spares.trans passes.evict.fades (.of_eq rfl)

theorem Calm.stay (h : s.Calm) : Proceeds excused s s := ⟨h, .of_eq rfl⟩

theorem Calm.completeLoad (h : s.Calm) {result : Except String NativeTextDocument}
    (given : ∀ opened, result = .ok opened → ∀ document, s.documents.find path = some document →
      document.typed = true → document.revision.isSome = true ∧ document.current ≠ opened.content) :
    Proceeds excused s (s.completeLoad now i slot path result) := by
  cases result with
  | error message => exact (Passes.gentle (gentle_failLoading message)).endLoad h _ _
  | ok opened =>
    refine (Passes.tame (tame_load opened) fun document found typed => ?_).endLoad h _ _
    obtain ⟨held, ne⟩ := given opened rfl document found typed
    refine .inr ⟨Bool.and_eq_true_iff.2 ⟨typed, decide_eq_true ?_⟩, if_pos held⟩
    rw [if_pos held]
    exact ne

theorem Calm.resumeSave (h : s.Calm) (result : Except String Document) :
    Proceeds excused s (s.resumeSave now i slot path result) := by
  cases result with
  | error => exact (Passes.refl excused s).goOn h rfl
  | ok document =>
    rw [EditorDocumentStore.resumeSave]
    split
    · exact (Passes.refl excused s).goOn h rfl
    · exact (Passes.gentle gentle_beginSaving).goOn h rfl

theorem Calm.completeSave (h : s.Calm) {request : SaveRequest} {result : Except String SaveResult}
    (written : ∀ saved, result = .ok (.saved saved) → ∀ text, text = request.content ∨ text = saved.content →
      excused path text) : Proceeds excused s (s.completeSave now i slot path request result) := by
  cases result with
  | error message => exact (Passes.gentle (gentle_failSaving message)).goOn h rfl
  | ok result =>
    cases result with
    | conflict currentRevision => exact (Passes.gentle (gentle_refuseSaving currentRevision)).goOn h rfl
    | saved saved =>
      refine (Passes.tame (tame_save request.content saved) fun document found typed => ?_).goOn h rfl
      cases Decidable.em (document.current = request.content ∨ document.current = saved.content) with
      | inl same => exact .inl (written saved rfl _ same)
      | inr other =>
        rw [not_or] at other
        refine .inr ⟨Bool.and_eq_true_iff.2 ⟨typed, decide_eq_true ?_⟩, if_neg other.1⟩
        rw [if_neg other.1]
        exact other.2

theorem Calm.completeHook (h : s.Calm) (result : Except String Unit) :
    Proceeds excused s (s.completeHook now i slot path result) := by
  cases result with
  | ok => exact (Passes.refl excused s).evict.goOn h rfl
  | error message => exact (Passes.gentle (gentle_fail _)).evict.goOn h rfl

theorem Calm.completeCheck (h : s.Calm) {seen : Document} (phase : slot.phase = .checking path seen)
    (quiet : s.Quiet slot) (result : Except String Revision) :
    Proceeds excused s (s.completeCheck now i slot path seen result) := by
  cases result with
  | error message =>
    rw [EditorDocumentStore.completeCheck]
    split
    · exact (Passes.gentle (gentle_missDisk message)).goOn h rfl
    · exact (Passes.refl excused s).goOn h rfl
  | ok currentRevision =>
    rw [EditorDocumentStore.completeCheck]
    split
    · exact (Passes.refl excused s).goOn h rfl
    · split
      · exact (Passes.gentle (gentle_meetDisk currentRevision)).goOn h rfl
      · rename_i clean
        refine (Passes.refl excused s).setPhase h fun still other replaces document found => ?_
        have guards := quiet still other (phase ▸ replaces) document found
        rw [phase] at guards
        exact guards (Bool.eq_false_iff.2 clean)

theorem Calm.completeReplacement (h : s.Calm) {result : Except String NativeTextDocument}
    (given : ∀ opened, result = .ok opened → ∀ document, s.documents.find path = some document →
      document.typed = true → excused path document.current) :
    Proceeds excused s (s.completeReplacement now i slot path result) := by
  cases result with
  | error message => exact (Passes.gentle (gentle_fail message)).goOn h rfl
  | ok opened =>
    exact (Passes.tame (tame_replace opened) fun document found typed =>
      .inl (given opened rfl document found typed)).evict.goOn h rfl

theorem Calm.completeRefresh (h : s.Calm) (result : Except String NativeTextDocument) :
    Proceeds excused s (s.completeRefresh now i slot path result) := by
  cases result with
  | error message => exact (Passes.gentle (gentle_fail _)).goOn h rfl
  | ok opened => exact (Passes.gentle (gentle_refresh opened)).goOn h rfl

theorem Calm.resumeSaveAs (h : s.Calm) (result : Except String Document) :
    Proceeds excused s (s.resumeSaveAs now i slot path target result) := by
  cases result with
  | error => exact (Passes.refl excused s).goOn h rfl
  | ok document =>
    rw [EditorDocumentStore.resumeSaveAs]
    split
    · exact (Passes.refl excused s).goOn h rfl
    · rename_i clean
      have passes : Passes excused s (s.updateFrom now slot path beginSaving) := .gentle gentle_beginSaving
      refine passes.setPhase h fun _ other replaces document found => ?_
      cases replaces
      cases typed : document.typed with
      | false => exact guards_of_untyped typed
      | true =>
        obtain ⟨before, there, same⟩ := passes.fades.typed _ document found typed
        rw [there] at clean
        exact absurd (h.marked _ before there same.typed) clean

theorem Calm.completeSaveAs (h : s.Calm) {result : Except String SaveResult}
    (given : ∀ saved, result = .ok (.saved saved) → ∀ document, s.documents.find target = some document →
      document.typed = true → excused target document.current) :
    Proceeds excused s (s.completeSaveAs now i slot path target result) := by
  cases result with
  | error message => exact (Passes.gentle (gentle_failSaving message)).goOn h rfl
  | ok result =>
    cases result with
    | conflict => exact ((Passes.gentle gentle_endSaving).trans (.gentle (gentle_fail _))).goOn h rfl
    | saved saved =>
      have ended : Passes excused s (s.updateFrom now slot path endSaving) := .gentle gentle_endSaving
      refine (ended.trans (.tame (tame_saveAs saved) fun document found typed => .inl ?_)).goOn h rfl
      obtain ⟨before, there, same⟩ := ended.fades.typed _ document found typed
      exact same.current ▸ given saved rfl before there same.typed

end Completions

section Runs

/-- The user has given the text up, or a save has written it. -/
inductive Given (s : EditorDocumentStore) : Act → RelPath → String → Prop
  | updated (path : RelPath) (new text : String) : s.Given (.updateCurrent path new) path text
  | typed (path : RelPath) (new text : String) : s.Given (.type path new) path text
  | deleted {source path : RelPath} (under : source <+: path) (text : String) : s.Given (.delete source) path text
  | disposed (path : RelPath) (text : String) : s.Given .dispose path text
  | discarded {i : Nat} {slot : Slot} {path : RelPath} {conflicted : Bool} (here : s.slots[i]? = some slot)
      (phase : slot.phase = .deciding path conflicted) (text : String) : s.Given (.decide i .discard) path text
  | surrendered {i : Nat} {slot : Slot} {path : RelPath} {text : String} (here : s.slots[i]? = some slot)
      (phase : slot.phase = .discarding path (some text)) (opened : NativeTextDocument) :
      s.Given (.complete i (.opened (.ok opened))) path text
  | written {i : Nat} {slot : Slot} {path : RelPath} {request : SaveRequest} {saved : NativeTextDocument} {text : String}
      (here : s.slots[i]? = some slot) (phase : slot.phase = .saving path request)
      (same : text = request.content ∨ text = saved.content) :
      s.Given (.complete i (.saved (.ok (.saved saved)))) path text

/-- A text that has been typed stays, and the document says that it is not saved, also where a renaming has put it. -/
def Holds (s : EditorDocumentStore) (step : Step) : Prop :=
  ∀ path document, s.documents.find path = some document → document.typed = true →
    s.Given step.act path document.current ∨
    ∃ other after, (other = path ∨ ∃ source target, step.act = .rename source target ∧ source <+: path ∧
      other = movesTo source target path) ∧
      (s.next step).documents.find other = some after ∧ after.current = document.current ∧ after.dirty = true

def replaced (s : EditorDocumentStore) (slot : Slot) (answer : Answer) : Option RelPath :=
  match slot.phase, answer with
  | .loading path, .opened (.ok opened) =>
    if (s.document path).revision.isSome ∧ (s.document path).current ≠ opened.content then none else some path
  | .reopening path, .opened (.ok _) | .discarding path _, .opened (.ok _) => some path
  | .savingAs _ target _, .saved (.ok (.saved _)) => some target
  | _, _ => none

def overwritten (s : EditorDocumentStore) : Act → Option (Slot × RelPath)
  | .complete i answer => (s.slots[i]?).bind fun slot => (s.replaced slot answer).map fun path => (slot, path)
  | _ => none

/-- What is replaced is not a text that has been typed since the operation has looked at the document. -/
def Timely (s : EditorDocumentStore) (step : Step) : Prop :=
  ∀ pair ∈ s.overwritten step.act, pair.1.edited = true → (s.document pair.2).typed = false

instance (s : EditorDocumentStore) (step : Step) : Decidable (s.Timely step) :=
  inferInstanceAs (Decidable (∀ pair ∈ s.overwritten step.act, pair.1.edited = true →
    (s.document pair.2).typed = false))

theorem Calm.guards_of_timely (h : s.Calm) {answer : Answer} (here : s.slots[i]? = some slot)
    (timely : s.Timely ⟨now, .complete i answer⟩) (replaced : s.replaced slot answer = some path)
    (replaces : slot.phase.replaces = some path) (found : s.documents.find path = some document) :
    Guards slot.phase document := by
  cases edited : slot.edited with
  | false => exact h.quiet slot (List.mem_of_getElem? here) edited path replaces document found
  | true =>
    have member : (slot, path) ∈ s.overwritten (.complete i answer) := by
      rw [overwritten, here, Option.bind_some, replaced]
      rfl
    have untyped := timely _ member edited
    rw [document_of_find found] at untyped
    exact guards_of_untyped untyped

theorem Calm.complete (h : s.Calm) {answer : Answer} (here : s.slots[i]? = some slot)
    (timely : s.Timely ⟨now, .complete i answer⟩) :
    Proceeds (s.Given (.complete i answer)) s (s.complete now i slot answer) := by
  have guards : ∀ path document, s.replaced slot answer = some path → slot.phase.replaces = some path →
      s.documents.find path = some document → Guards slot.phase document :=
    fun _ _ => h.guards_of_timely here timely
  unfold EditorDocumentStore.complete
  split
  · rename_i path result phase
    refine h.completeLoad fun opened same document found typed => ?_
    cases same
    cases Decidable.em (document.revision.isSome ∧ document.current ≠ opened.content) with
    | inl keeps => exact keeps
    | inr loses =>
      have replaced : s.replaced slot (.opened (.ok opened)) = some path := by
        simp only [EditorDocumentStore.replaced, phase, document_of_find found]
        exact if_neg loses
      have untyped := guards path document replaced (congrArg Phase.replaces phase) found
      rw [phase] at untyped
      exact absurd (Eq.trans (Eq.symm untyped) typed) nofun
  · split
    · exact h.resumeSave _
    · exact h.stay
  · rename_i phase
    refine h.completeSave fun saved same text is => ?_
    cases same
    exact .written here phase is
  · exact h.completeHook _
  · rename_i phase
    exact h.completeCheck phase (h.quiet slot (List.mem_of_getElem? here)) _
  · rename_i path result phase
    refine h.completeReplacement fun opened same document found typed => ?_
    cases same
    have replaced : s.replaced slot (.opened (.ok opened)) = some path := by
      simp only [EditorDocumentStore.replaced, phase]
    have untyped := guards path document replaced (congrArg Phase.replaces phase) found
    rw [phase] at untyped
    exact absurd (Eq.trans (Eq.symm untyped) typed) nofun
  · rename_i path given result phase
    refine h.completeReplacement fun opened same document found typed => ?_
    cases same
    have replaced : s.replaced slot (.opened (.ok opened)) = some path := by
      simp only [EditorDocumentStore.replaced, phase]
    have surrendered := guards path document replaced (congrArg Phase.replaces phase) found
    rw [phase] at surrendered
    exact .surrendered here (phase.trans (congrArg _ (surrendered typed))) opened
  · exact h.completeRefresh _
  · split
    · exact h.resumeSaveAs _
    · exact h.stay
  · rename_i path target request result phase
    refine h.completeSaveAs fun saved same document found typed => ?_
    cases same
    have replaced : s.replaced slot (.saved (.ok (.saved saved))) = some target := by
      simp only [EditorDocumentStore.replaced, phase]
    have untyped := guards target document replaced (congrArg Phase.replaces phase) found
    rw [phase] at untyped
    exact absurd (Eq.trans (Eq.symm untyped) typed) nofun
  · exact h.stay

theorem Calm.decide (h : s.Calm) {conflicted : Bool} (here : s.slots[i]? = some slot)
    (phase : slot.phase = .deciding path conflicted) (decision : Decision) :
    Proceeds (s.Given (.decide i decision)) s (s.decide now i slot path conflicted decision) := by
  cases decision with
  | cancel => exact (Passes.refl _ s).goOn h rfl
  | discard =>
    rw [EditorDocumentStore.decide]
    split
    · have ended : Proceeds (s.Given (.decide i .discard)) s (s.setPhase i slot .ended) :=
        (Passes.refl _ s).goOn h rfl
      exact ⟨ended.calm.discardLocal _, ended.spares⟩
    · exact (Passes.tame tame_discard fun document _ _ => .inl (.discarded here phase _)).evict.goOn h rfl
  | save =>
    have noted : Passes (s.Given (.decide i .save)) s (s.noteRecreation slot path) :=
      ⟨.of_eq (congrArg _ (documents_noteRecreation slot path)),
        .of_eq (congrArg _ (documents_noteRecreation slot path)), slots_noteRecreation slot path⟩
    have ended : Proceeds (s.Given (.decide i .save)) s ((s.noteRecreation slot path).setPhase i slot .ended) :=
      noted.goOn h rfl
    refine ⟨ended.calm.save, ended.spares.trans (noted.fades.trans (.of_eq rfl)) ?_⟩
    exact spares_load _ now path

theorem Calm.edits (h : s.Calm) {act : Act} (stays : Stays updater) (marked : (updater (s.document path)).Marked)
    (given : ∀ text, s.Given act path text) :
    Proceeds (s.Given act) s ((s.markEdited path).update now path updater).evictRetainedDocuments where
  calm := (h.edit stays marked).evict
  spares := by
    intro before other document found typed
    cases Decidable.em (other = path) with
    | inl same => exact .inl (same ▸ given document.current)
    | inr apart =>
      have there : ((s.markEdited path).update now path updater).documents.find other = some document := by
        rw [find_update stays, Function.update_of_ne apart]
        exact found
      exact spares_evict _ (h.edit stays marked).marked other document there typed

theorem Calm.proceeds (h : s.Calm) {step : Step} (timely : s.Timely step)
    (stays : ∀ source target, step.act ≠ .rename source target) : Proceeds (s.Given step.act) s (s.next step) := by
  cases step with
  | mk now act =>
    cases act with
    | get path =>
      simp only [EditorDocumentStore.next]
      split
      · exact ⟨h.touch, .of_eq rfl⟩
      · exact h.stay
    | retain path =>
      have passes : Passes (s.Given (.retain path)) s (s.update now path retain) :=
        update_eq_updateFrom ▸ .gentle gentle_retain
      exact ⟨(h.update gentle_retain.toTame).evict, passes.evict.spares⟩
    | release path =>
      simp only [EditorDocumentStore.next]
      split
      · have passes : Passes (s.Given (.release path)) s (s.update now path release) :=
          update_eq_updateFrom ▸ .gentle gentle_release
        exact ⟨(h.update gentle_release.toTame).evict, passes.evict.spares⟩
      · exact h.stay
    | load path => exact ⟨h.load, spares_load s now path⟩
    | updateCurrent path text => exact h.edits (fun _ => rfl) id (.updated path text)
    | type path text =>
      simp only [EditorDocumentStore.next]
      split
      · exact h.edits (fun _ => rfl) id (.typed path text)
      · exact h.stay
    | attachModel path =>
      simp only [EditorDocumentStore.next]
      split
      · exact ⟨h.touch, .of_eq rfl⟩
      · have passes : Passes (s.Given (.attachModel path)) s (s.update now path attachModel) :=
          update_eq_updateFrom ▸ .gentle gentle_attachModel
        exact ⟨(h.update gentle_attachModel.toTame).evict, passes.evict.spares⟩
    | save path => exact ⟨h.save, spares_load s now path⟩
    | saveAs path target =>
      refine ⟨h.saveAs target, ?_⟩
      simp only [EditorDocumentStore.next, EditorDocumentStore.saveAs]
      split
      · exact spares_load s now path
      · exact spares_load s now path
    | checkRevision path =>
      refine ⟨h.checkRevision, ?_⟩
      simp only [EditorDocumentStore.next, EditorDocumentStore.checkRevision]
      split
      · exact .of_eq rfl
      · split
        · exact .of_eq rfl
        · exact .of_eq rfl
    | refreshConflict path => exact ⟨h.push (quiet_of_replaces rfl), .of_eq rfl⟩
    | discardLocal path => exact ⟨h.discardLocal _, .of_eq rfl⟩
    | requestClose path =>
      refine ⟨h.requestClose, ?_⟩
      simp only [EditorDocumentStore.next, EditorDocumentStore.requestClose]
      split
      · exact .of_eq rfl
      · split
        · exact .of_eq rfl
        · exact .of_eq rfl
    | decide i decision =>
      simp only [EditorDocumentStore.next]
      split
      · rename_i slot here
        split
        · rename_i phase
          exact h.decide here phase decision
        · exact h.stay
      · exact h.stay
    | rename source target => exact absurd rfl (stays source target)
    | delete path =>
      refine ⟨h.leave, fun _ other document found typed => ?_⟩
      cases Decidable.em (path <+: other) with
      | inl under => exact .inl (.deleted under _)
      | inr apart => exact .inr ⟨document, find_leave_of_apart apart found, typed, rfl⟩
    | dispose => exact ⟨h.dispose, fun _ other document _ _ => .inl (.disposed other _)⟩
    | complete i answer =>
      simp only [EditorDocumentStore.next]
      split
      · rename_i slot here
        exact h.complete here timely
      · exact h.stay

theorem Calm.holds (h : s.Calm) {step : Step} (timely : s.Timely step) : (s.next step).Calm ∧ s.Holds step := by
  cases Classical.em (∃ source target, step.act = .rename source target) with
  | inl renames =>
    obtain ⟨source, target, act⟩ := renames
    have next : s.next step = s.applyRename step.now source target := by rw [EditorDocumentStore.next, act]
    rw [next]
    have renamed : (s.applyRename step.now source target).Calm := h.applyRename
    refine ⟨renamed, fun path document found typed => .inr ?_⟩
    obtain ⟨other, after, goes, there, same⟩ : ∃ other after, (other = path ∨ source <+: path ∧
        other = movesTo source target path) ∧ (s.applyRename step.now source target).documents.find other = some after ∧
        Same document after := spares_applyRename h found typed
    refine ⟨other, after, ?_, next ▸ there, same.current, renamed.marked other after there same.typed⟩
    exact goes.imp id fun moves => ⟨source, target, act, moves.1, moves.2⟩
  | inr stays =>
    rw [not_exists] at stays
    have proceeds := h.proceeds timely fun source target act => stays source ⟨target, act⟩
    refine ⟨proceeds.calm, fun path document found typed => ?_⟩
    refine (proceeds.spares h.marked path document found typed).imp id fun there => ?_
    obtain ⟨after, there, same⟩ := there
    exact ⟨path, after, .inl rfl, there, same.current, proceeds.calm.marked path after there same.typed⟩

def onDisk (content : String) : NativeTextDocument := ⟨content, ⟨content, 1, "1"⟩, .utf8, .lf⟩

/-- The text is typed before the revision is read, and the check sees it. -/
def typedEarly : List Step := [⟨1, .load ["a"]⟩, ⟨2, .complete 0 (.opened (.ok (onDisk "x")))⟩,
  ⟨3, .updateCurrent ["a"] "y"⟩, ⟨4, .checkRevision ["a"]⟩, ⟨5, .complete 1 (.revision (.ok ⟨"z", 1, "2"⟩))⟩,
  ⟨6, .complete 1 (.opened (.ok (onDisk "z")))⟩]

/-- The check has seen nothing unsaved, and what is typed while it reads the disk is lost. -/
def typedLate : List Step := [⟨1, .load ["a"]⟩, ⟨2, .complete 0 (.opened (.ok (onDisk "x")))⟩,
  ⟨3, .checkRevision ["a"]⟩, ⟨4, .complete 1 (.revision (.ok ⟨"z", 1, "2"⟩))⟩, ⟨5, .updateCurrent ["a"] "y"⟩]

end Runs

end EditorDocumentStore

end VibeLink.Editor
