import VibeLink.Editor.Operations

/-! What the store keeps of its documents while nothing is renamed or deleted under an operation. -/

namespace VibeLink.Editor

open Relational

namespace Document

structure Sound (document : Document) : Prop where
  dirty : document.dirty = decide (document.current ≠ document.original)
  model : ∀ value, document.model = some value → value = document.current

theorem sound_emptyDocument (path : RelPath) : (emptyDocument path).Sound := ⟨rfl, nofun⟩

theorem Sound.syncModelValue {document : Document}
    (dirty : document.dirty = decide (document.current ≠ document.original)) : document.syncModelValue.Sound where
  dirty := dirty
  model value attached := by
    obtain ⟨_, _, same⟩ := Option.map_eq_some_iff.1 attached
    exact same.symm

/-- What is done to a document keeps it sound, and begins no save of it. -/
structure Tidy (updater : Document → Document) : Prop where
  stays : EditorDocumentStore.Stays updater
  sound : ∀ document, document.Sound → (updater document).Sound
  saving : ∀ document, (updater document).saving = true → document.saving = true

section Updaters

theorem tidy_beginLoading : Tidy beginLoading := ⟨fun _ => rfl, fun _ sound => ⟨sound.dirty, sound.model⟩, fun _ => id⟩

theorem tidy_load (opened : NativeTextDocument) : Tidy fun document => document.load opened where
  stays _ := rfl
  saving _ := id
  sound document _ := by
    apply Sound.syncModelValue
    dsimp only
    split
    · rfl
    · exact (decide_eq_false (not_not.2 rfl)).symm

theorem tidy_failLoading (message : String) : Tidy fun document => document.failLoading message :=
  ⟨fun _ => rfl, fun _ sound => ⟨sound.dirty, sound.model⟩, fun _ => id⟩

theorem tidy_type (text : String) : Tidy fun document => document.type text :=
  ⟨fun _ => rfl, fun _ _ => ⟨rfl, fun _ attached => (Option.some.inj attached).symm⟩, fun _ => id⟩

theorem tidy_attachModel : Tidy attachModel where
  stays _ := rfl
  saving _ := id
  sound document sound := by
    refine ⟨sound.dirty, fun value attached => ?_⟩
    change some (document.model.getD document.current) = some value at attached
    cases held : document.model with
    | none =>
      rw [held] at attached
      exact (Option.some.inj attached).symm
    | some other =>
      rw [held] at attached
      exact sound.model value (held.trans attached)

theorem tidy_retain : Tidy retain := ⟨fun _ => rfl, fun _ sound => ⟨sound.dirty, sound.model⟩, fun _ => id⟩

theorem tidy_release : Tidy release := ⟨fun _ => rfl, fun _ sound => ⟨sound.dirty, sound.model⟩, fun _ => id⟩

theorem tidy_save (content : String) (saved : NativeTextDocument) : Tidy fun document => document.save content saved :=
  ⟨fun _ => rfl, fun _ _ => .syncModelValue rfl, fun _ => nofun⟩

theorem tidy_failSaving (message : String) : Tidy fun document => document.failSaving message :=
  ⟨fun _ => rfl, fun _ sound => ⟨sound.dirty, sound.model⟩, fun _ => nofun⟩

theorem tidy_refuseSaving (currentRevision : Option Revision) :
    Tidy fun document => document.refuseSaving currentRevision :=
  ⟨fun _ => rfl, fun _ sound => ⟨sound.dirty, sound.model⟩, fun _ => nofun⟩

theorem tidy_missDisk (message : String) : Tidy fun document => document.missDisk message :=
  ⟨fun _ => rfl, fun _ sound => ⟨sound.dirty, sound.model⟩, fun _ => id⟩

theorem tidy_meetDisk (currentRevision : Revision) : Tidy fun document => document.meetDisk currentRevision :=
  ⟨fun _ => rfl, fun _ sound => ⟨sound.dirty, sound.model⟩, fun _ => id⟩

theorem tidy_replace (opened : NativeTextDocument) : Tidy fun document => document.replace opened :=
  ⟨fun _ => rfl, fun _ _ => .syncModelValue (decide_eq_false (not_not.2 rfl)).symm, fun _ => id⟩

theorem tidy_saveAs (saved : NativeTextDocument) : Tidy fun document => document.saveAs saved where
  stays _ := rfl
  saving _ := nofun
  sound document sound :=
    have replaced := (tidy_replace saved).sound document sound
    ⟨replaced.dirty, replaced.model⟩

theorem tidy_endSaving : Tidy endSaving := ⟨fun _ => rfl, fun _ sound => ⟨sound.dirty, sound.model⟩, fun _ => nofun⟩

theorem tidy_fail (message : String) : Tidy fun document => document.fail message :=
  ⟨fun _ => rfl, fun _ sound => ⟨sound.dirty, sound.model⟩, fun _ => id⟩

theorem tidy_refresh (opened : NativeTextDocument) : Tidy fun document => document.refresh opened :=
  ⟨fun _ => rfl, fun _ sound => ⟨sound.dirty, sound.model⟩, fun _ => id⟩

theorem tidy_discard : Tidy discard :=
  ⟨fun _ => rfl, fun _ _ => .syncModelValue (decide_eq_false (not_not.2 rfl)).symm, fun _ => id⟩

end Updaters

end Document

namespace EditorDocumentStore

open Document

def Saves (s : EditorDocumentStore) (path : RelPath) : Prop := ∃ slot ∈ s.slots, slot.phase.saves = some path

/-- What is to be seen of the store. -/
structure Kept (s : EditorDocumentStore) : Prop where
  saving : ∀ path document, s.documents.find path = some document → document.saving = true → s.Saves path
  sound : ∀ path document, s.documents.find path = some document → document.Sound
  recreated : ∀ path, .recreated path ∉ s.log
  evicted : ∀ document, .evicted document ∈ s.log → document.dirty = false ∧ document.viewCount = 0 ∧
    document.loading = false ∧ document.saving = false

structure Upkeep (s : EditorDocumentStore) : Prop extends Kept s where
  present : ∀ slot ∈ s.slots, slot.gone = false

section Parts

variable {s t : EditorDocumentStore} {now i : Nat} {path : RelPath} {slot : Slot} {phase : Phase}
  {updater : Document → Document}

theorem upkeep_initial : initial.Upkeep :=
  ⟨⟨fun _ _ => nofun, fun _ _ => nofun, fun _ => nofun, fun _ => nofun⟩, fun _ => nofun⟩

theorem Upkeep.of_eq (h : s.Upkeep) (find : t.documents.find = s.documents.find) (slots : t.slots = s.slots)
    (log : t.log = s.log) : t.Upkeep where
  saving := by
    rw [find]
    intro path document found busy
    obtain ⟨slot, member, saves⟩ := h.saving path document found busy
    exact ⟨slot, slots ▸ member, saves⟩
  sound := find ▸ h.sound
  recreated := log ▸ h.recreated
  evicted := log ▸ h.evicted
  present := slots ▸ h.present

theorem Upkeep.sound_document (h : s.Upkeep) (path : RelPath) : (s.document path).Sound := by
  rw [EditorDocumentStore.document]
  cases found : s.documents.find path with
  | none => exact sound_emptyDocument path
  | some document => exact h.sound path document found

theorem Upkeep.saving_document (h : s.Upkeep) (busy : (s.document path).saving = true) : s.Saves path := by
  rw [EditorDocumentStore.document] at busy
  cases found : s.documents.find path with
  | none =>
    rw [found] at busy
    cases busy
  | some document =>
    rw [found] at busy
    exact h.saving path document found busy

theorem Upkeep.updated (h : s.Upkeep) (stays : Stays updater) (sound : (updater (s.document path)).Sound)
    (saves : (updater (s.document path)).saving = true → s.Saves path) : (s.update now path updater).Upkeep where
  saving other document found busy := by
    rw [find_update stays, Function.update_apply] at found
    split at found
    · rename_i same
      cases found
      exact same ▸ saves busy
    · exact h.saving other document found busy
  sound other document found := by
    rw [find_update stays, Function.update_apply] at found
    split at found
    · cases found
      exact sound
    · exact h.sound other document found
  recreated := h.recreated
  evicted := h.evicted
  present := h.present

theorem Upkeep.update (h : s.Upkeep) (tidy : Tidy updater) : (s.update now path updater).Upkeep :=
  h.updated tidy.stays (tidy.sound _ (h.sound_document path)) fun busy => h.saving_document (tidy.saving _ busy)

theorem Upkeep.updateFrom (h : s.Upkeep) (present : slot.gone = false) (tidy : Tidy updater) :
    (s.updateFrom now slot path updater).Upkeep := by
  rw [updateFrom_of_present present]
  exact h.update tidy

theorem Upkeep.evict (h : s.Upkeep) : s.evictRetainedDocuments.Upkeep := by
  have evicts := evicts s
  constructor
  · constructor
    · intro path document found busy
      obtain ⟨slot, member, saves⟩ := h.saving path document (evicts.subset path document found) busy
      exact ⟨slot, evicts.slots ▸ member, saves⟩
    · intro path document found
      exact h.sound path document (evicts.subset path document found)
    · intro path member
      cases evicts.log _ member with
      | inl before => exact h.recreated path before
      | inr new => exact nomatch new.choose_spec.1
    · intro document member
      cases evicts.log _ member with
      | inl before => exact h.evicted document before
      | inr new =>
        obtain ⟨other, same, may⟩ := new
        cases same
        simpa [evictable, and_assoc] using may
  · rw [evicts.slots]
    exact h.present

theorem Upkeep.push (h : s.Upkeep) (phase : Phase) (edited : Bool) : (s.push phase edited false).Upkeep where
  saving path document found busy := by
    obtain ⟨slot, member, saves⟩ := h.saving path document found busy
    exact ⟨slot, List.mem_append_left _ member, saves⟩
  sound := h.sound
  recreated := h.recreated
  evicted := h.evicted
  present slot member := by
    cases List.mem_append.1 member with
    | inl before => exact h.present slot before
    | inr new =>
      cases List.mem_singleton.1 new
      rfl

theorem Upkeep.advance (h : s.Upkeep) {other : Slot} (here : s.slots[i]? = some other)
    (present : slot.gone = false)
    (done : ∀ path, other.phase.saves = some path → phase.saves = some path ∨
      ∀ document, s.documents.find path = some document → document.saving = false) :
    (s.setPhase i slot phase).Upkeep where
  saving path document found busy := by
    obtain ⟨saver, member, saves⟩ := h.saving path document found busy
    obtain ⟨j, there⟩ := List.mem_iff_getElem?.1 member
    have inside : i < s.slots.length := (List.getElem?_eq_some_iff.1 here).1
    cases Decidable.em (i = j) with
    | inl same =>
      cases same
      cases here.symm.trans there
      cases done path saves with
      | inl goes => exact ⟨_, List.mem_set inside _, goes⟩
      | inr idle => exact absurd ((idle document found).symm.trans busy) nofun
    | inr ne =>
      refine ⟨saver, List.mem_iff_getElem?.2 ⟨j, ?_⟩, saves⟩
      exact (List.getElem?_set_ne ne).trans there
  sound := h.sound
  recreated := h.recreated
  evicted := h.evicted
  present other member := by
    cases List.mem_or_eq_of_mem_set member with
    | inl before => exact h.present other before
    | inr new => exact new ▸ present

theorem Upkeep.touch (h : s.Upkeep) : (s.touch now path).Upkeep := h.of_eq rfl rfl rfl

theorem saves_markEdited {other : RelPath} (saves : s.Saves other) : (s.markEdited path).Saves other := by
  obtain ⟨slot, member, saves⟩ := saves
  refine ⟨_, List.mem_map_of_mem member, ?_⟩
  split
  · exact saves
  · exact saves

theorem Upkeep.markEdited (h : s.Upkeep) : (s.markEdited path).Upkeep where
  saving other document found busy := saves_markEdited (h.saving other document found busy)
  sound := h.sound
  recreated := h.recreated
  evicted := h.evicted
  present slot member := by
    obtain ⟨before, there, same⟩ := List.mem_map.1 member
    have present := h.present before there
    split at same
    · exact same ▸ present
    · exact same ▸ present

end Parts

section Beginnings

variable {s : EditorDocumentStore} {now : Nat} {path : RelPath}

theorem Upkeep.pendingLoad (h : s.Upkeep) : (s.pendingLoad now path).1.Upkeep := by
  rw [EditorDocumentStore.pendingLoad]
  split
  · exact h.touch
  · exact ((h.update tidy_beginLoading).push _ _).of_eq rfl rfl rfl

theorem Upkeep.load (h : s.Upkeep) : (s.load now path).1.Upkeep := by
  rw [EditorDocumentStore.load]
  split
  · split
    · exact h.touch
    · exact h.pendingLoad
  · exact h.pendingLoad

theorem Upkeep.save (h : s.Upkeep) : (s.save now path).Upkeep := h.load.push _ _

theorem Upkeep.saveAs (h : s.Upkeep) (target : RelPath) : (s.saveAs now path target).Upkeep := by
  rw [EditorDocumentStore.saveAs]
  split
  · exact h.save
  · exact h.load.push _ _

theorem Upkeep.checkRevision (h : s.Upkeep) : (s.checkRevision path).Upkeep := by
  rw [EditorDocumentStore.checkRevision]
  split
  · exact h
  · split
    · exact h
    · exact h.push _ _

theorem Upkeep.requestClose (h : s.Upkeep) : (s.requestClose path).Upkeep := by
  rw [EditorDocumentStore.requestClose]
  split
  · exact h
  · split
    · exact h.push _ _
    · exact h

end Beginnings

section Mutations

variable {s : EditorDocumentStore} {now : Nat} {path source target : RelPath} {document : Document}

def Free (s : EditorDocumentStore) (path : RelPath) : Prop :=
  ∀ slot ∈ s.slots, ∀ other ∈ slot.phase.paths, ¬ path <+: other

instance (s : EditorDocumentStore) (path : RelPath) : Decidable (s.Free path) :=
  inferInstanceAs (Decidable (∀ slot ∈ s.slots, ∀ other ∈ slot.phase.paths, ¬ path <+: other))

theorem mem_paths_of_saves {phase : Phase} (saves : phase.saves = some path) : path ∈ phase.paths := by
  cases phase with
  | saving | savingAs =>
    cases saves
    exact List.mem_cons_self
  | _ => cases saves

theorem Free.markGone (free : s.Free path) : s.markGone path = s := by
  have same : (s.slots.map fun slot =>
      if slot.phase.paths.any fun other => path <+: other then { slot with gone := true } else slot) = s.slots := by
    rw [List.map_congr_left fun slot member => if_neg ?_, List.map_id']
    rw [List.any_eq_true]
    intro goes
    obtain ⟨other, there, under⟩ := goes
    exact free slot member other there (of_decide_eq_true under)
  rw [EditorDocumentStore.markGone, same]

theorem Upkeep.leave (h : s.Upkeep) (free : s.Free path) : (s.leave path).Upkeep := by
  have subset : ∀ other document, (s.leave path).documents.find other = some document →
      s.documents.find other = some document := by
    intro other document found
    change (s.documents.retain _).find other = some document at found
    rw [Table.find_retain] at found
    exact (Option.filter_eq_some_iff.1 found).1
  have rest : (s.leave path).slots = s.slots ∧ (s.leave path).log = s.log := by
    rw [EditorDocumentStore.leave, free.markGone]
    exact ⟨rfl, rfl⟩
  constructor
  · constructor
    · intro other document found busy
      obtain ⟨slot, member, saves⟩ := h.saving other document (subset other document found) busy
      exact ⟨slot, rest.1 ▸ member, saves⟩
    · intro other document found
      exact h.sound other document (subset other document found)
    · exact rest.2 ▸ h.recreated
    · exact rest.2 ▸ h.evicted
  · exact rest.1 ▸ h.present

theorem Upkeep.put (h : s.Upkeep) (sound : document.Sound) (idle : document.saving = false) :
    ({ s with documents := s.documents.put document } : EditorDocumentStore).Upkeep where
  saving other found there busy := by
    rw [Table.find_put, Function.update_apply] at there
    split at there
    · cases there
      cases idle.symm.trans busy
    · exact h.saving other found there busy
  sound other found there := by
    rw [Table.find_put, Function.update_apply] at there
    split at there
    · cases there
      exact sound
    · exact h.sound other found there
  recreated := h.recreated
  evicted := h.evicted
  present := h.present

theorem Upkeep.arrive (h : s.Upkeep) (sound : document.Sound) (idle : document.saving = false) :
    (s.arrive now document).Upkeep := by
  rw [EditorDocumentStore.arrive]
  split
  · exact (h.markEdited.put sound idle).touch
  · exact (h.put sound idle).touch

theorem Upkeep.foldl_arrive {moved : List Document} (h : s.Upkeep)
    (idle : ∀ document ∈ moved, document.Sound ∧ document.saving = false) :
    (moved.foldl (fun s document => s.arrive now document) s).Upkeep := by
  induction moved generalizing s with
  | nil => exact h
  | cons document rest ih =>
    have first := idle document List.mem_cons_self
    apply ih (h.arrive first.1 first.2)
    intro other member
    exact idle other (List.mem_cons_of_mem _ member)

theorem Upkeep.idle_of_free (h : s.Upkeep) (free : s.Free source) (member : document ∈ s.documents.rows)
    (under : isUnder source document = true) : document.saving = false := by
  cases busy : document.saving with
  | false => rfl
  | true =>
    obtain ⟨slot, there, saves⟩ := h.saving _ document (Table.find_of_mem member) busy
    exact absurd (of_decide_eq_true under) (free slot there _ (mem_paths_of_saves saves))

theorem Upkeep.applyRename (h : s.Upkeep) (free : s.Free source) : (s.applyRename now source target).Upkeep := by
  rw [EditorDocumentStore.applyRename]
  split
  · exact h
  · apply Upkeep.evict
    apply (h.leave free).foldl_arrive
    intro document member
    obtain ⟨before, there, same⟩ := List.mem_map.1 member
    obtain ⟨row, under⟩ := List.mem_filter.1 there
    cases same
    have idle := h.idle_of_free free row under
    exact ⟨⟨(h.sound _ before (Table.find_of_mem row)).dirty, fun _ missing => (by cases missing)⟩, idle⟩

theorem Upkeep.dispose (h : s.Upkeep) : s.dispose.Upkeep :=
  ⟨⟨fun _ _ => nofun, fun _ _ => nofun, h.recreated, h.evicted⟩, h.present⟩

end Mutations

section Completions

variable {s : EditorDocumentStore} {now i : Nat} {path target : RelPath} {slot : Slot} {next : Phase}
  {updater : Document → Document} {document : Document}

theorem Upkeep.goOn (h : s.Upkeep) (here : s.slots[i]? = some slot) (saves : slot.phase.saves = none) :
    (s.setPhase i slot next).Upkeep :=
  h.advance here (h.present slot (List.mem_of_getElem? here)) fun _ other => nomatch saves.symm.trans other

theorem Upkeep.update_goOn (h : s.Upkeep) (here : s.slots[i]? = some slot) (saves : slot.phase.saves = none)
    (tidy : Tidy updater) : ((s.updateFrom now slot path updater).setPhase i slot next).Upkeep := by
  have present := h.present slot (List.mem_of_getElem? here)
  apply (h.updateFrom present tidy).goOn ?_ saves
  rw [slots_updateFrom]
  exact here

theorem Upkeep.evict_goOn (h : s.Upkeep) (here : s.slots[i]? = some slot) (saves : slot.phase.saves = none) :
    (s.evictRetainedDocuments.setPhase i slot next).Upkeep := by
  apply h.evict.goOn ?_ saves
  rw [(evicts s).slots]
  exact here

theorem Upkeep.update_evict_goOn (h : s.Upkeep) (here : s.slots[i]? = some slot) (saves : slot.phase.saves = none)
    (tidy : Tidy updater) :
    ((s.updateFrom now slot path updater).evictRetainedDocuments.setPhase i slot next).Upkeep := by
  have present := h.present slot (List.mem_of_getElem? here)
  apply (h.updateFrom present tidy).evict_goOn ?_ saves
  rw [slots_updateFrom]
  exact here

theorem idle_updateFrom (stays : Stays updater) (idle : ∀ document, (updater document).saving = false)
    (found : (s.updateFrom now slot path updater).documents.find path = some document) : document.saving = false := by
  rw [find_updateFrom stays, Function.update_self] at found
  cases found
  exact idle _

theorem Upkeep.update_finish (h : s.Upkeep) (here : s.slots[i]? = some slot) (saves : slot.phase.saves = some path)
    (tidy : Tidy updater) (idle : ∀ document, (updater document).saving = false) :
    ((s.updateFrom now slot path updater).setPhase i slot next).Upkeep := by
  have present := h.present slot (List.mem_of_getElem? here)
  apply (h.updateFrom present tidy).advance (by rw [slots_updateFrom]; exact here) present
  intro other same
  cases saves.symm.trans same
  exact .inr fun document found => idle_updateFrom tidy.stays idle found

theorem Upkeep.update_update_finish (h : s.Upkeep) (here : s.slots[i]? = some slot)
    (saves : slot.phase.saves = some path) (tidy : Tidy updater) :
    (((s.updateFrom now slot path endSaving).updateFrom now slot target updater).setPhase i slot next).Upkeep := by
  have present := h.present slot (List.mem_of_getElem? here)
  have first : (s.updateFrom now slot path endSaving).Upkeep := h.updateFrom present tidy_endSaving
  apply (first.updateFrom present tidy).advance (by rw [slots_updateFrom, slots_updateFrom]; exact here) present
  intro other same
  cases saves.symm.trans same
  have idle : ∀ document, (s.updateFrom now slot path endSaving).documents.find path = some document →
      document.saving = false := fun _ => idle_updateFrom tidy_endSaving.stays fun _ => rfl
  refine .inr fun document found => ?_
  rw [find_updateFrom tidy.stays, Function.update_apply] at found
  split at found
  · rename_i at_target
    cases found
    cases busy : (updater ((s.updateFrom now slot path endSaving).document target)).saving with
    | false => rfl
    | true =>
      have ended := tidy.saving _ busy
      rw [← at_target, document_updateFrom tidy_endSaving.stays] at ended
      cases ended
  · exact idle document found

theorem Upkeep.completeLoad (h : s.Upkeep) (here : s.slots[i]? = some slot) (saves : slot.phase.saves = none)
    (result : Except String NativeTextDocument) : (s.completeLoad now i slot path result).Upkeep := by
  cases result with
  | ok opened => exact (h.update_evict_goOn here saves (tidy_load opened)).of_eq rfl rfl rfl
  | error message => exact (h.update_evict_goOn here saves (tidy_failLoading message)).of_eq rfl rfl rfl

theorem Upkeep.beginSaving (h : s.Upkeep) (here : s.slots[i]? = some slot) (saves : slot.phase.saves = none)
    (edited : Bool) (begins : next.saves = some path) :
    ((s.updateFrom now slot path Document.beginSaving).setPhase i { slot with edited } next).Upkeep := by
  have present := h.present slot (List.mem_of_getElem? here)
  have begun : (s.setPhase i { slot with edited } next).Upkeep :=
    h.advance here present fun _ other => nomatch saves.symm.trans other
  have inside : i < s.slots.length := (List.getElem?_eq_some_iff.1 here).1
  rw [updateFrom_of_present present]
  have sound := begun.sound_document path
  have saved : ((s.setPhase i { slot with edited } next).update now path Document.beginSaving).Upkeep :=
    begun.updated (fun _ => rfl) ⟨sound.dirty, sound.model⟩ fun _ => ⟨_, List.mem_set inside _, begins⟩
  exact saved.of_eq rfl rfl rfl

theorem Upkeep.resumeSave (h : s.Upkeep) (here : s.slots[i]? = some slot) (saves : slot.phase.saves = none)
    (result : Except String Document) : (s.resumeSave now i slot path result).Upkeep := by
  cases result with
  | error => exact h.goOn here saves
  | ok document =>
    rw [EditorDocumentStore.resumeSave]
    split
    · exact h.goOn here saves
    · exact h.beginSaving here saves slot.edited rfl

theorem Upkeep.completeSave (h : s.Upkeep) (here : s.slots[i]? = some slot) (saves : slot.phase.saves = some path)
    (request : SaveRequest) (result : Except String SaveResult) :
    (s.completeSave now i slot path request result).Upkeep := by
  cases result with
  | error message => exact h.update_finish here saves (tidy_failSaving message) fun _ => rfl
  | ok result =>
    cases result with
    | saved saved => exact h.update_finish here saves (tidy_save request.content saved) fun _ => rfl
    | conflict currentRevision => exact h.update_finish here saves (tidy_refuseSaving currentRevision) fun _ => rfl

theorem Upkeep.completeHook (h : s.Upkeep) (here : s.slots[i]? = some slot) (saves : slot.phase.saves = none)
    (result : Except String Unit) : (s.completeHook now i slot path result).Upkeep := by
  cases result with
  | ok => exact h.evict_goOn here saves
  | error message => exact h.update_evict_goOn here saves (tidy_fail _)

theorem Upkeep.completeCheck (h : s.Upkeep) (here : s.slots[i]? = some slot) (saves : slot.phase.saves = none)
    (document : Document) (result : Except String Revision) :
    (s.completeCheck now i slot path document result).Upkeep := by
  cases result with
  | ok currentRevision =>
    rw [EditorDocumentStore.completeCheck]
    split
    · exact h.goOn here saves
    · split
      · exact h.update_goOn here saves (tidy_meetDisk currentRevision)
      · exact h.goOn here saves
  | error message =>
    rw [EditorDocumentStore.completeCheck]
    split
    · exact h.update_goOn here saves (tidy_missDisk message)
    · exact h.goOn here saves

theorem Upkeep.completeReplacement (h : s.Upkeep) (here : s.slots[i]? = some slot) (saves : slot.phase.saves = none)
    (result : Except String NativeTextDocument) : (s.completeReplacement now i slot path result).Upkeep := by
  cases result with
  | ok opened => exact h.update_evict_goOn here saves (tidy_replace opened)
  | error message => exact h.update_goOn here saves (tidy_fail message)

theorem Upkeep.completeRefresh (h : s.Upkeep) (here : s.slots[i]? = some slot) (saves : slot.phase.saves = none)
    (result : Except String NativeTextDocument) : (s.completeRefresh now i slot path result).Upkeep := by
  cases result with
  | ok opened => exact h.update_goOn here saves (tidy_refresh opened)
  | error message => exact h.update_goOn here saves (tidy_fail _)

theorem Upkeep.resumeSaveAs (h : s.Upkeep) (here : s.slots[i]? = some slot) (saves : slot.phase.saves = none)
    (result : Except String Document) : (s.resumeSaveAs now i slot path target result).Upkeep := by
  cases result with
  | error => exact h.goOn here saves
  | ok document =>
    rw [EditorDocumentStore.resumeSaveAs]
    split
    · exact h.goOn here saves
    · exact h.beginSaving here saves false rfl

theorem Upkeep.completeSaveAs (h : s.Upkeep) (here : s.slots[i]? = some slot) (saves : slot.phase.saves = some path)
    (result : Except String SaveResult) : (s.completeSaveAs now i slot path target result).Upkeep := by
  cases result with
  | error message => exact h.update_finish here saves (tidy_failSaving message) fun _ => rfl
  | ok result =>
    cases result with
    | saved saved => exact h.update_update_finish here saves (tidy_saveAs saved)
    | conflict => exact h.update_update_finish here saves (tidy_fail _)

theorem Upkeep.decide (h : s.Upkeep) (here : s.slots[i]? = some slot) (saves : slot.phase.saves = none)
    (conflicted : Bool) (decision : Decision) : (s.decide now i slot path conflicted decision).Upkeep := by
  have present := h.present slot (List.mem_of_getElem? here)
  cases decision with
  | cancel => exact h.goOn here saves
  | discard =>
    rw [EditorDocumentStore.decide]
    split
    · rw [EditorDocumentStore.discardLocal, present]
      exact (h.goOn here saves).push _ _
    · exact h.update_evict_goOn here saves tidy_discard
  | save =>
    rw [EditorDocumentStore.decide, noteRecreation, if_neg]
    · exact (h.goOn here saves).save
    · intro gone
      cases present.symm.trans gone.1

theorem Upkeep.complete (h : s.Upkeep) (here : s.slots[i]? = some slot) (answer : Answer) :
    (s.complete now i slot answer).Upkeep := by
  unfold EditorDocumentStore.complete
  split
  · rename_i phase
    exact h.completeLoad here (congrArg Phase.saves phase) _
  · rename_i phase
    split
    · exact h.resumeSave here (congrArg Phase.saves phase) _
    · exact h
  · rename_i phase
    exact h.completeSave here (congrArg Phase.saves phase) _ _
  · rename_i phase
    exact h.completeHook here (congrArg Phase.saves phase) _
  · rename_i phase
    exact h.completeCheck here (congrArg Phase.saves phase) _ _
  · rename_i phase
    exact h.completeReplacement here (congrArg Phase.saves phase) _
  · rename_i phase
    exact h.completeReplacement here (congrArg Phase.saves phase) _
  · rename_i phase
    exact h.completeRefresh here (congrArg Phase.saves phase) _
  · rename_i phase
    split
    · exact h.resumeSaveAs here (congrArg Phase.saves phase) _
    · exact h
  · rename_i phase
    exact h.completeSaveAs here (congrArg Phase.saves phase) _
  · exact h

end Completions

section Runs

def leaves : Act → Option RelPath
  | .rename source _ => some source
  | .delete path => some path
  | _ => none

def tells : Act → Option (RelPath × String)
  | .updateCurrent path text => some (path, text)
  | _ => none

/-- Nothing is renamed or deleted under an operation that is under way, and if a document has a model it is the model's
value that the store is told. -/
def Orderly (s : EditorDocumentStore) (step : Step) : Prop :=
  (∀ path ∈ leaves step.act, s.Free path) ∧
  ∀ told ∈ tells step.act, ((s.documents.find told.1).bind Document.model).all fun value => value = told.2

instance (s : EditorDocumentStore) (step : Step) : Decidable (s.Orderly step) :=
  inferInstanceAs (Decidable ((∀ path ∈ leaves step.act, s.Free path) ∧
    ∀ told ∈ tells step.act, ((s.documents.find told.1).bind Document.model).all fun value => value = told.2))

variable {s : EditorDocumentStore} {path : RelPath}

theorem Upkeep.updateCurrent (h : s.Upkeep) {now : Nat} {text : String}
    (told : ((s.documents.find path).bind Document.model).all fun value => value = text) :
    ((s.markEdited path).update now path fun document => document.updateCurrent text).Upkeep := by
  refine h.markEdited.updated (fun _ => rfl) ⟨rfl, fun value attached => ?_⟩ fun busy => ?_
  · change (s.document path).model = some value at attached
    rw [EditorDocumentStore.document] at attached
    cases found : s.documents.find path with
    | none =>
      rw [found] at attached
      cases attached
    | some document =>
      rw [found] at attached told
      rw [Option.bind_some, show document.model = some value from attached] at told
      exact of_decide_eq_true told
  · exact saves_markEdited (h.saving_document busy)

theorem Upkeep.next (h : s.Upkeep) {step : Step} (orderly : s.Orderly step) : (s.next step).Upkeep := by
  cases step with
  | mk now act =>
    cases act with
    | get path =>
      simp only [EditorDocumentStore.next]
      split
      · exact h.touch
      · exact h
    | retain path => exact (h.update tidy_retain).evict
    | release path =>
      simp only [EditorDocumentStore.next]
      split
      · exact (h.update tidy_release).evict
      · exact h
    | load path => exact h.load
    | updateCurrent path text => exact (h.updateCurrent (orderly.2 _ rfl)).evict
    | type path text =>
      simp only [EditorDocumentStore.next]
      split
      · exact (h.markEdited.update (tidy_type text)).evict
      · exact h
    | attachModel path =>
      simp only [EditorDocumentStore.next]
      split
      · exact h.touch
      · exact (h.update tidy_attachModel).evict
    | save path => exact h.save
    | saveAs path target => exact h.saveAs target
    | checkRevision path => exact h.checkRevision
    | refreshConflict path => exact h.push _ _
    | discardLocal path => exact h.push _ _
    | requestClose path => exact h.requestClose
    | decide i decision =>
      simp only [EditorDocumentStore.next]
      split
      · rename_i slot here
        split
        · rename_i phase
          exact h.decide here (congrArg Phase.saves phase) _ decision
        · exact h
      · exact h
    | rename source target => exact h.applyRename (orderly.1 _ rfl)
    | delete path => exact h.leave (orderly.1 _ rfl)
    | dispose => exact h.dispose
    | complete i answer =>
      simp only [EditorDocumentStore.next]
      split
      · rename_i slot here
        exact h.complete here answer
      · exact h

theorem kept_of_orderly (steps : List Step) (orderly : Throughout EditorDocumentStore.next Orderly initial steps) :
    (run steps).Kept :=
  (run_invariant (I := Upkeep) (fun _ _ h orderly => h.next orderly) upkeep_initial orderly).toKept

section Cases

def opened (content : String) : NativeTextDocument := ⟨content, ⟨content, 1, "1"⟩, .utf8, .lf⟩

/-- A document is loaded, edited and saved, up to where the disk is asked to. -/
def untilSaving : List Step := [⟨1, .load ["a"]⟩, ⟨2, .complete 0 (.opened (.ok (opened "x")))⟩, ⟨3, .attachModel ["a"]⟩,
  ⟨4, .type ["a"] "y"⟩, ⟨5, .save ["a"]⟩, ⟨6, .complete 1 .resumed⟩]

def untilRenamed : List Step := untilSaving ++ [⟨7, .complete 1 (.saved (.ok (.saved (opened "y"))))⟩,
  ⟨8, .complete 1 (.hooked (.ok ()))⟩, ⟨9, .rename ["a"] ["b"]⟩]

theorem kept_untilRenamed : Throughout next Orderly initial untilRenamed ∧ (run untilRenamed).Kept := by
  have orderly : Throughout next Orderly initial untilRenamed := by decide +kernel
  exact ⟨orderly, kept_of_orderly _ orderly⟩

/-- The save is not back when the document is renamed: under its new path nothing saves it. -/
theorem rename_unsettles : ¬ ∀ steps, (run steps).Kept := by
  intro always
  have kept := always (untilSaving ++ [⟨7, .rename ["a"] ["b"]⟩])
  have busy : ((run (untilSaving ++ [⟨7, .rename ["a"] ["b"]⟩])).documents.find ["b"]).any Document.saving := by
    decide +kernel
  obtain ⟨document, found, saving⟩ := (Option.any_eq_true _ _).1 busy
  have saves := kept.saving ["b"] document found saving
  have none : ¬ (run (untilSaving ++ [⟨7, .rename ["a"] ["b"]⟩])).Saves ["b"] := by
    unfold Saves
    decide +kernel
  exact none saves

/-- What comes back of the save makes a document anew where it was. -/
example : .recreated ["a"] ∈ (run (untilSaving ++
    [⟨7, .rename ["a"] ["b"]⟩, ⟨8, .complete 1 (.saved (.ok (.saved (opened "y"))))⟩])).log := by decide +kernel

end Cases

end Runs

end EditorDocumentStore

end VibeLink.Editor
