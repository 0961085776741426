import VibeLink.Remote.Devices

/-! What the devices may do is the same in memory and in the file. -/

namespace VibeLink.Remote

open Relational
open VibeLink.Storage (LoadSource LoadReport)

def DeviceRecord.authority (record : DeviceRecord) : DeviceRecord := { record with lastSeenAt := 0 }

def DevicesDocument.authority (document : DevicesDocument) : DevicesDocument :=
  ⟨document.devices.map DeviceRecord.authority, document.rePairRequired⟩

section Records

variable {deviceId : String} {f : DeviceRecord → DeviceRecord} {records : List DeviceRecord}

theorem map_updateRecord {α : Type} (g : DeviceRecord → α) (same : ∀ record, g (f record) = g record) :
    (updateRecord deviceId f records).map g = records.map g := by
  induction records with
  | nil => rfl
  | cons record rest ih =>
    rw [updateRecord]
    split
    · rw [List.map_cons, List.map_cons, same]
    · rw [List.map_cons, List.map_cons, ih]

theorem map_updateRecord_of_find {α : Type} {g : DeviceRecord → α} {record : DeviceRecord}
    (found : records.find? (fun record => record.id = deviceId) = some record) :
    (updateRecord deviceId f records).map g = records.map g ↔ g (f record) = g record := by
  induction records with
  | nil => exact nomatch found
  | cons first rest ih =>
    rw [updateRecord]
    by_cases here : first.id = deviceId
    · simp only [List.find?_cons, here, decide_true, Option.some.injEq] at found
      subst found
      rw [if_pos here, List.map_cons, List.map_cons, List.cons.injEq]
      exact and_iff_left rfl
    · simp only [List.find?_cons, here, decide_false] at found
      rw [if_neg here, List.map_cons, List.map_cons, List.cons.injEq, ih found]
      exact and_iff_right rfl

end Records

namespace DeviceStore

variable {s : DeviceStore} {digest : String → String}

theorem authority_eq_iff {devices : List DeviceRecord} :
    DevicesDocument.authority ⟨devices, s.rePairRequired⟩ = s.document.authority ↔
      devices.map DeviceRecord.authority = s.records.map DeviceRecord.authority := by
  unfold DevicesDocument.authority document
  rw [DevicesDocument.mk.injEq]
  exact and_iff_left rfl

def InSync (s : DeviceStore) : Prop := s.document.authority = s.saved.authority

/-- What an operation does for the authority of the devices. -/
structure Sound (digest : String → String) (s : DeviceStore) (act : Act) : Prop where
  synced : (s.next digest act).InSync
  unchanged : (s.perform digest act).2.isError = true →
    (s.next digest act).document.authority = s.document.authority ∧
      (s.next digest act).saved.authority = s.saved.authority
  cleared : ∀ record, (s.perform digest act).2 = .paired record → (s.next digest act).rePairRequired = false

/-- What changes the devices is saved, and nothing is paired by the second version while a pairing is asked for. -/
def Saves (s : DeviceStore) : Act → Prop
  | .updateGrants saves deviceId grants => saves ∨ (∃ grant ∈ grants, isKnownGrant grant = false) ∨
    ∀ record ∈ s.record? deviceId, record.grants = grants ∧ maxEpoch ≤ record.revocationEpoch
  | .revoke saves deviceId => saves ∨ ∀ record ∈ s.records, record.id ≠ deviceId
  | .resetForIdentityChange saves => saves ∨ s.records = [] ∧ s.rePairRequired = true
  | .consumeV2Pairing now saves _ code _ _ => saves → s.Redeems now code → s.rePairRequired = false
  | _ => True

def held (s : DeviceStore) : DevicesDocument × DevicesDocument := (s.document, s.saved)

theorem held_recordFailure (now : Nat) (original : AuthFailure) : (s.recordFailure now original).1.held = s.held := by
  unfold recordFailure
  dsimp only
  split <;> rfl

theorem held_refuses {now : Readings} {s' : DeviceStore} (refuses : s.Refuses now s') : s'.held = s.held := by
  cases refuses with
  | inl locked => rw [locked.2]
  | inr counted =>
    obtain ⟨_, pairing, original, _, same⟩ := counted
    rw [same, held_recordFailure]
    unfold unlocked
    split <;> rfl

theorem sound_of_held {act : Act} (synced : s.InSync) (same : (s.next digest act).held = s.held)
    (unpaired : ∀ record, (s.perform digest act).2 ≠ .paired record) : s.Sound digest act where
  synced := by
    have same' := congrArg (fun held : DevicesDocument × DevicesDocument => held.1.authority = held.2.authority) same
    exact same'.mpr synced
  unchanged _ := ⟨congrArg (fun held => held.1.authority) same, congrArg (fun held => held.2.authority) same⟩
  cleared record paired := absurd paired (unpaired record)

theorem sound_of_saved {act : Act} (saved : (s.next digest act).saved = (s.next digest act).document)
    (well : (s.perform digest act).2.isError = false)
    (cleared : ∀ record, (s.perform digest act).2 = .paired record → (s.next digest act).rePairRequired = false) :
    s.Sound digest act where
  synced := congrArg DevicesDocument.authority saved.symm
  unchanged failed := nomatch well.symm.trans failed
  cleared := cleared

theorem sound_iff_of_error {act : Act} (synced : s.InSync) (failed : (s.perform digest act).2.isError = true)
    (file : (s.next digest act).saved = s.saved) :
    s.Sound digest act ↔ (s.next digest act).document.authority = s.document.authority := by
  constructor
  · intro sound
    exact (sound.unchanged failed).1
  · intro same
    refine ⟨?_, fun _ => ⟨same, congrArg DevicesDocument.authority file⟩, fun record paired => ?_⟩
    · unfold InSync
      rw [same, file]
      exact synced
    · rw [paired] at failed
      exact nomatch failed

theorem sound_of_refused {act : Act} {now : Readings} (synced : s.InSync) (attempt : act.readings? = some now)
    (refused : ¬s.Admits digest act) : s.Sound digest act := by
  obtain ⟨failure, answer, refuses⟩ := perform_refused attempt refused
  apply sound_of_held synced (held_refuses refuses)
  intro record paired
  exact nomatch answer.symm.trans paired

theorem sound_consumePairing (synced : s.InSync) (now : Readings) (saves : Bool) (id token code deviceName : String) :
    s.Sound digest (.consumePairing now saves id token code deviceName) := by
  by_cases redeems : s.Redeems now code
  · have performed : s.perform digest (.consumePairing now saves id token code deviceName) =
        Answer.ofAuth (fun paired => .paired paired.1) (s.consumePairing digest now saves id token code deviceName) := rfl
    rw [consumePairing, redeem_of_redeems redeems] at performed
    cases saves with
    | true =>
      apply sound_of_saved
      · rw [next, performed]
        rfl
      · rw [performed]
        rfl
      · intro record _
        rw [next, performed]
        rfl
    | false =>
      apply sound_of_held synced
      · rw [next, performed]
        dsimp only [Answer.ofAuth, Bool.false_eq_true, if_false]
        rw [List.dropLast_concat]
        rfl
      · rw [performed]
        exact fun _ => nofun
  · exact sound_of_refused synced rfl redeems

theorem sound_consumeV2Pairing (synced : s.InSync) (now : Readings) (saves : Bool)
    (id code deviceName noiseFingerprint : String) :
    s.Sound digest (.consumeV2Pairing now saves id code deviceName noiseFingerprint) ↔
      (saves → s.Redeems now code → s.rePairRequired = false) := by
  by_cases redeems : s.Redeems now code
  · have performed : s.perform digest (.consumeV2Pairing now saves id code deviceName noiseFingerprint) =
        Answer.ofAuth .paired (s.consumeV2Pairing now saves id code deviceName noiseFingerprint) := rfl
    rw [consumeV2Pairing, redeem_of_redeems redeems] at performed
    cases saves with
    | true =>
      have flag : (s.next digest (.consumeV2Pairing now true id code deviceName noiseFingerprint)).rePairRequired =
          s.rePairRequired := by
        rw [next, performed]
        rfl
      constructor
      · intro sound _ _
        rw [← flag]
        exact sound.cleared _ (by rw [performed]; rfl)
      · intro clear
        apply sound_of_saved
        · rw [next, performed]
          rfl
        · rw [performed]
          rfl
        · exact fun _ _ => flag.trans (clear rfl redeems)
    | false =>
      apply iff_of_true
      · apply sound_of_held synced
        · rw [next, performed]
          dsimp only [Answer.ofAuth, Bool.false_eq_true, if_false]
          rw [List.dropLast_concat]
          rfl
        · rw [performed]
          exact fun _ => nofun
      · exact nofun
  · exact iff_of_true (sound_of_refused synced rfl redeems) fun _ same => absurd same redeems

theorem sound_of_accepts {act : Act} {now : Readings} {saves : Bool} {deviceId : String}
    {accepts : DeviceRecord → Bool} (synced : s.InSync) (accepted : s.Accepts now deviceId accepts)
    (performed : s.perform digest act = Answer.ofAuth (fun _ => .verified) (s.verify now saves deviceId accepts)) :
    s.Sound digest act := by
  rw [verify_of_accepts accepted] at performed
  cases saves with
  | true =>
    apply sound_of_saved
    · rw [next, performed]
      rfl
    · rw [performed]
      rfl
    · rw [performed]
      exact fun _ => nofun
  | false =>
    have devices : (s.next digest act).document.authority = s.document.authority := by
      rw [next, performed]
      have same := @map_updateRecord deviceId (fun record => { record with lastSeenAt := unixSecs now.last }) s.records _
        DeviceRecord.authority fun _ => rfl
      exact congrArg (fun devices => (⟨devices, s.rePairRequired⟩ : DevicesDocument)) same
    have file : (s.next digest act).saved = s.saved := by
      rw [next, performed]
      rfl
    refine ⟨?_, fun failed => ?_, fun record paired => ?_⟩
    · unfold InSync
      rw [devices, file]
      exact synced
    · rw [performed] at failed
      exact nomatch failed
    · rw [performed] at paired
      exact nomatch paired

theorem sound_verifyToken (synced : s.InSync) (now : Readings) (saves : Bool) (deviceId token : String) :
    s.Sound digest (.verifyToken now saves deviceId token) := by
  by_cases accepted : s.Admits digest (.verifyToken now saves deviceId token)
  · exact sound_of_accepts synced accepted rfl
  · exact sound_of_refused synced rfl accepted

theorem sound_verifyV2Identity (synced : s.InSync) (now : Readings) (saves : Bool) (deviceId noiseFingerprint : String) :
    s.Sound digest (.verifyV2Identity now saves deviceId noiseFingerprint) := by
  by_cases accepted : s.Admits digest (.verifyV2Identity now saves deviceId noiseFingerprint)
  · exact sound_of_accepts synced accepted rfl
  · exact sound_of_refused synced rfl accepted

theorem sound_updateGrants (synced : s.InSync) (saves : Bool) (deviceId : String) (grants : List String) :
    s.Sound digest (.updateGrants saves deviceId grants) ↔ s.Saves (.updateGrants saves deviceId grants) := by
  have performed : s.perform digest (.updateGrants saves deviceId grants) =
      Answer.ofUpdate .updated (s.updateGrants saves deviceId grants) := rfl
  unfold updateGrants at performed
  by_cases unknown : grants.any fun grant => !isKnownGrant grant
  · rw [if_pos unknown] at performed
    apply iff_of_true
    · apply sound_of_held synced
      · rw [next, performed]
        rfl
      · rw [performed]
        exact fun _ => nofun
    · obtain ⟨grant, member, unknown⟩ := List.any_eq_true.1 unknown
      exact .inr (.inl ⟨grant, member, by simpa using unknown⟩)
  · rw [if_neg unknown] at performed
    cases found : s.record? deviceId with
    | none =>
      rw [found] at performed
      apply iff_of_true
      · apply sound_of_held synced
        · rw [next, performed]
          rfl
        · rw [performed]
          exact fun _ => nofun
      · refine .inr (.inr ?_)
        rw [found]
        exact fun _ member => nomatch member
    | some record =>
      rw [found] at performed
      dsimp only at performed
      cases saves with
      | true =>
        apply iff_of_true _ (.inl rfl)
        apply sound_of_saved
        · rw [next, performed]
          rfl
        · rw [performed]
          rfl
        · rw [performed]
          exact fun _ => nofun
      | false =>
        rw [sound_iff_of_error synced (by rw [performed]; rfl) (by rw [next, performed]; rfl), next, performed]
        have rewritten := map_updateRecord_of_find (g := DeviceRecord.authority) (f := fun other =>
          { other with grants, revocationEpoch := nextEpoch record.revocationEpoch }) found
        have unchanged : DeviceRecord.authority { record with
            grants, revocationEpoch := nextEpoch record.revocationEpoch } = record.authority ↔
            record.grants = grants ∧ maxEpoch ≤ record.revocationEpoch := by
          unfold DeviceRecord.authority nextEpoch
          simp only [DeviceRecord.mk.injEq, true_and]
          rw [and_comm, eq_comm (a := grants)]
          exact and_congr_right fun _ => by split <;> omega
        change (DevicesDocument.authority ⟨updateRecord deviceId _ s.records, s.rePairRequired⟩ = _) ↔ _
        rw [authority_eq_iff, rewritten, unchanged]
        constructor
        · intro same
          refine .inr (.inr fun other member => ?_)
          cases found.symm.trans member
          exact same
        · intro saves
          obtain saved | ⟨grant, member, unknown'⟩ | same := saves
          · exact nomatch saved
          · exact absurd (List.any_eq_true.2 ⟨grant, member, by rw [unknown']; rfl⟩) unknown
          · exact same record found

theorem sound_revoke (synced : s.InSync) (saves : Bool) (deviceId : String) :
    s.Sound digest (.revoke saves deviceId) ↔ s.Saves (.revoke saves deviceId) := by
  cases saves with
  | true => exact iff_of_true (sound_of_saved rfl rfl fun _ => nofun) (.inl rfl)
  | false =>
    rw [sound_iff_of_error synced rfl rfl]
    change (DevicesDocument.authority ⟨s.records.filter _, s.rePairRequired⟩ = _) ↔ _
    rw [authority_eq_iff]
    constructor
    · intro same
      have whole : s.records.filter (fun record => record.id ≠ deviceId) = s.records := by
        apply List.filter_sublist.eq_of_length
        rw [← List.length_map (f := DeviceRecord.authority), same, List.length_map]
      refine .inr fun record member => ?_
      exact of_decide_eq_true (List.filter_eq_self.1 whole record member)
    · intro saves
      have others := saves.resolve_left Bool.false_ne_true
      rw [List.filter_eq_self.2 fun record member => decide_eq_true (others record member)]

theorem sound_resetForIdentityChange (synced : s.InSync) (saves : Bool) :
    s.Sound digest (.resetForIdentityChange saves) ↔ s.Saves (.resetForIdentityChange saves) := by
  cases saves with
  | true => exact iff_of_true (sound_of_saved rfl rfl fun _ => nofun) (.inl rfl)
  | false =>
    rw [sound_iff_of_error synced rfl rfl]
    change (⟨[], true⟩ : DevicesDocument) = ⟨s.records.map DeviceRecord.authority, s.rePairRequired⟩ ↔ _
    rw [DevicesDocument.mk.injEq, eq_comm, List.map_eq_nil_iff, eq_comm (a := true)]
    exact (or_iff_right Bool.false_ne_true).symm

theorem sound_iff_saves (synced : s.InSync) (act : Act) : s.Sound digest act ↔ s.Saves act := by
  cases act with
  | createPairing now code =>
    exact iff_of_true (sound_of_held synced rfl fun _ => nofun) trivial
  | consumePairing now saves id token code deviceName =>
    exact iff_of_true (sound_consumePairing synced now saves id token code deviceName) trivial
  | consumeV2Pairing now saves id code deviceName noiseFingerprint =>
    exact sound_consumeV2Pairing synced now saves id code deviceName noiseFingerprint
  | verifyToken now saves deviceId token =>
    exact iff_of_true (sound_verifyToken synced now saves deviceId token) trivial
  | verifyV2Identity now saves deviceId noiseFingerprint =>
    exact iff_of_true (sound_verifyV2Identity synced now saves deviceId noiseFingerprint) trivial
  | updateGrants saves deviceId grants => exact sound_updateGrants synced saves deviceId grants
  | revoke saves deviceId => exact sound_revoke synced saves deviceId
  | resetForIdentityChange saves => exact sound_resetForIdentityChange synced saves

theorem throughout_sound_iff (synced : s.InSync) (acts : List Act) :
    Throughout (next digest) (Sound digest) s acts ↔ Throughout (next digest) Saves s acts := by
  induction acts generalizing s with
  | nil => exact Iff.rfl
  | cons act rest ih =>
    constructor
    · intro sound
      exact ⟨(sound_iff_saves synced act).1 sound.1, (ih sound.1.synced).1 sound.2⟩
    · intro saves
      have sound := (@sound_iff_saves _ digest synced act).2 saves.1
      exact ⟨sound, (ih sound.synced).2 saves.2⟩

/-- The file that has been loaded is written again, or it has no grant that is not known. -/
def Known (report : LoadReport LoadedDevices) : Prop := report.value.legacy = true ∨ report.source = .default ∨
  ∀ record ∈ report.value.document.devices, ∀ grant ∈ record.grants, isKnownGrant grant = true

theorem filter_known_authority {records : List DeviceRecord} :
    ((records.map fun record => { record with grants := record.grants.filter isKnownGrant }).map
      DeviceRecord.authority = records.map DeviceRecord.authority) ↔
    ∀ record ∈ records, ∀ grant ∈ record.grants, isKnownGrant grant = true := by
  rw [List.map_map, List.map_inj_left]
  apply forall₂_congr
  intro record _
  unfold DeviceRecord.authority
  simp only [Function.comp, DeviceRecord.mk.injEq, true_and]
  exact List.filter_eq_self

theorem inSync_load {report : LoadReport LoadedDevices} {saves : Bool} (started : load report saves = some s) :
    s.InSync ↔ Known report := by
  unfold load at started
  split at started
  · rename_i rewritten
    split at started
    · cases started
      exact iff_of_true rfl (rewritten.imp_right .inl)
    · exact nomatch started
  · rename_i kept
    rw [not_or] at kept
    cases started
    unfold Known
    rw [or_iff_right kept.1, or_iff_right kept.2, ← filter_known_authority]
    have flag : (loaded report).rePairRequired = report.value.document.rePairRequired := by
      change (report.value.document.rePairRequired || (decide (report.source = .default) && _)) = _
      rw [decide_eq_false kept.2, Bool.false_and, Bool.or_false]
    unfold InSync DevicesDocument.authority document
    rw [DevicesDocument.mk.injEq, flag]
    exact and_iff_left rfl

instance : Decidable s.InSync := inferInstanceAs (Decidable (_ = _))

/-- From the file that has been loaded on. -/
theorem persisted_iff (digest : String → String) (report : LoadReport LoadedDevices) (saves : Bool) (s : DeviceStore)
    (started : load report saves = some s) (acts : List Act) :
    (s.InSync ∧ Throughout (next digest) (Sound digest) s acts) ↔
      (Known report ∧ Throughout (next digest) Saves s acts) := by
  rw [inSync_load started]
  exact and_congr_right fun known => throughout_sound_iff ((inSync_load started).2 known) acts

def unwritten : LoadReport LoadedDevices := ⟨⟨⟨[], false⟩, false⟩, .default, []⟩

def pairedPhone : List Act := [.createPairing 0 "00000001", .consumePairing ⟨1, 1, 1⟩ true "d" "t" "00000001" "Phone",
  .verifyToken ⟨2, 2, 2⟩ false "d" "t", .updateGrants true "d" [TERMINAL_VIEW_GRANT]]

def emptyStore : DeviceStore := (loaded unwritten).save true

theorem paired_persisted : load unwritten true = some emptyStore ∧ emptyStore.InSync ∧
    Throughout (next id) (Sound id) emptyStore (pairedPhone ++ [.revoke true "d"]) := by
  have started : load unwritten true = some emptyStore := rfl
  have known : Known unwritten := .inr (.inl rfl)
  have saves : Throughout (next id) Saves emptyStore (pairedPhone ++ [.revoke true "d"]) :=
    ⟨trivial, trivial, trivial, .inl rfl, .inl rfl, trivial⟩
  exact ⟨started, (persisted_iff id unwritten true emptyStore started _).2 ⟨known, saves⟩⟩

/-- The device is revoked, but the file cannot be written. -/
theorem not_always_persisted : load unwritten true = some emptyStore ∧ emptyStore.InSync ∧
    ¬Throughout (next id) (Sound id) emptyStore (pairedPhone ++ [.revoke false "d"]) := by
  refine ⟨rfl, rfl, fun sound => ?_⟩
  have synced := sound.2.2.2.2.1.synced
  exact absurd synced (by decide +kernel)

end DeviceStore

end VibeLink.Remote
