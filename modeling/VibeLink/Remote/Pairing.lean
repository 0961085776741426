import VibeLink.Remote.Authority
import VibeLink.Relational.Runs
import Mathlib.Data.List.Nodup

/-! Codes, failures, epochs and tokens over the life of a device store. -/

namespace VibeLink.Remote

open Relational
open VibeLink.Storage (LoadSource LoadReport)

theorem le_nextEpoch (epoch : Nat) : epoch ≤ nextEpoch epoch := by
  unfold nextEpoch
  split <;> omega

theorem lt_nextEpoch {epoch : Nat} (below : epoch < maxEpoch) : epoch < nextEpoch epoch := by
  rw [nextEpoch, if_pos below]
  exact Nat.lt_succ_self epoch

namespace DeviceStore

def run (digest : String → String) (s : DeviceStore) (acts : List Act) : DeviceStore := acts.foldl (next digest) s

def Act.newId? : Act → Option String
  | .consumePairing _ _ id _ _ _ | .consumeV2Pairing _ _ id _ _ _ => some id
  | _ => none

def Act.tokenId? : Act → Option String
  | .consumePairing _ _ id _ _ _ => some id
  | _ => none

def Act.clock : Act → List Nat
  | .createPairing now _ => [now]
  | act => act.readings?.elim [] fun now => [now.checked, now.expiry, now.last]

def Clear (s : DeviceStore) : Prop := s.failedAttempts = 0 ∧ s.lockedUntil = none

variable {digest : String → String} {s : DeviceStore} {act : Act} {now : Readings} {id : String}

/-- The device is the same one, of a later epoch if its grants have changed. -/
structure Advances (record record' : DeviceRecord) : Prop where
  token : record'.tokenHash = record.tokenHash
  epoch : record.revocationEpoch ≤ record'.revocationEpoch
  grants : record'.grants ≠ record.grants → record.revocationEpoch < maxEpoch →
    record.revocationEpoch < record'.revocationEpoch

theorem Advances.refl (record : DeviceRecord) : Advances record record :=
  ⟨rfl, Nat.le_refl _, fun changed => absurd rfl changed⟩

theorem Advances.trans {record record' record'' : DeviceRecord} (first : Advances record record')
    (second : Advances record' record'') : Advances record record'' where
  token := second.token.trans first.token
  epoch := first.epoch.trans second.epoch
  grants changed below := by
    by_cases already : record'.grants = record.grants
    · by_cases below' : record'.revocationEpoch < maxEpoch
      · exact first.epoch.trans_lt (second.grants (already ▸ changed) below')
      · exact (below.trans_le (Nat.not_lt.1 below')).trans_le second.epoch
    · exact (first.grants already below).trans_le second.epoch

def Onward (before after : Option DeviceRecord) : Prop := ∀ record' ∈ after, ∃ record ∈ before, Advances record record'

theorem Onward.refl (record : Option DeviceRecord) : Onward record record :=
  fun record' member => ⟨record', member, Advances.refl record'⟩

theorem Onward.trans {first second third : Option DeviceRecord} (before : Onward first second)
    (after : Onward second third) : Onward first third := by
  intro record'' member
  obtain ⟨record', member', advances'⟩ := after record'' member
  obtain ⟨record, there, advances⟩ := before record' member'
  exact ⟨record, there, advances.trans advances'⟩

section Records

variable {f : DeviceRecord → DeviceRecord}

theorem id_of_find? {records : List DeviceRecord} {record : DeviceRecord}
    (found : records.find? (fun record => record.id = id) = some record) : record.id = id := by
  have right := List.find?_some found
  exact of_decide_eq_true right

theorem find?_updateRecord (deviceId id : String) (same : ∀ record, (f record).id = record.id) (records : List DeviceRecord) :
    (updateRecord deviceId f records).find? (fun record => record.id = id) =
      (records.find? fun record => record.id = id).map fun record => if record.id = deviceId then f record else record := by
  induction records with
  | nil => rfl
  | cons record rest ih =>
    rw [updateRecord]
    by_cases here : record.id = deviceId
    · rw [if_pos here, List.find?_cons, List.find?_cons, same]
      by_cases asked : record.id = id
      · simp only [asked, decide_true, Option.map_some]
        rw [if_pos (asked ▸ here)]
      · have others : ∀ other ∈ rest.find? (fun record => record.id = id), other.id ≠ deviceId := by
          intro other found same'
          exact asked (here.trans (same'.symm.trans (id_of_find? found)))
        simp only [asked, decide_false]
        cases found : rest.find? (fun record => record.id = id) with
        | none => rfl
        | some other => rw [Option.map_some, if_neg (others other found)]
    · rw [if_neg here, List.find?_cons, List.find?_cons]
      by_cases asked : record.id = id
      · simp only [asked, decide_true, Option.map_some]
        rw [if_neg (asked ▸ here)]
      · simp only [asked, decide_false]
        exact ih

theorem onward_updateRecord (deviceId id : String) (same : ∀ record, (f record).id = record.id)
    {records : List DeviceRecord}
    (advances : ∀ record ∈ records.find? (fun record => record.id = deviceId), Advances record (f record)) :
    Onward (records.find? fun record => record.id = id)
      ((updateRecord deviceId f records).find? fun record => record.id = id) := by
  rw [find?_updateRecord deviceId id same]
  intro record' member
  obtain ⟨record, asked, rfl⟩ := Option.map_eq_some_iff.1 member
  refine ⟨record, asked, ?_⟩
  split
  · rename_i here
    have named : id = deviceId := (id_of_find? asked).symm.trans here
    exact advances record (named ▸ asked)
  · exact Advances.refl record

theorem record?_append (added : List DeviceRecord) (others : ∀ record ∈ added, record.id ≠ id) :
    { s with records := s.records ++ added }.record? id = s.record? id := by
  unfold record?
  rw [List.find?_append, List.find?_eq_none.2 fun record member same => others record member (of_decide_eq_true same),
    Option.or_none]

end Records

section Steps

theorem next_of_redeems (pairs : act.newId? = some id) (admitted : s.Admits digest act) :
    ∃ added rePairRequired saved, s.next digest act = { { s with pairing := none }.resetFailures with
      records := s.records ++ added, rePairRequired, saved } ∧
      ∀ record ∈ added, record.id = id ∧ (act.tokenId? = none → record.tokenHash = "") := by
  cases act with
  | consumePairing now saves id token code deviceName =>
    cases pairs
    have performed : s.perform digest (.consumePairing now saves id token code deviceName) =
        Answer.ofAuth (fun paired => .paired paired.1) (s.consumePairing digest now saves id token code deviceName) := rfl
    rw [consumePairing, redeem_of_redeems admitted] at performed
    rw [next, performed]
    cases saves with
    | true =>
      refine ⟨[_], _, _, rfl, fun record member => ?_⟩
      rw [List.mem_singleton.1 member]
      exact ⟨rfl, fun untokened => by cases untokened⟩
    | false =>
      refine ⟨[], s.rePairRequired, s.saved, ?_, fun _ member => by cases member⟩
      dsimp only [Answer.ofAuth, Bool.false_eq_true, if_false]
      rw [List.dropLast_concat, List.append_nil]
      rfl
  | consumeV2Pairing now saves id code deviceName noiseFingerprint =>
    cases pairs
    have performed : s.perform digest (.consumeV2Pairing now saves id code deviceName noiseFingerprint) =
        Answer.ofAuth .paired (s.consumeV2Pairing now saves id code deviceName noiseFingerprint) := rfl
    rw [consumeV2Pairing, redeem_of_redeems admitted] at performed
    rw [next, performed]
    cases saves with
    | true =>
      refine ⟨[_], _, _, rfl, fun record member => ?_⟩
      rw [List.mem_singleton.1 member]
      exact ⟨rfl, fun _ => rfl⟩
    | false =>
      refine ⟨[], s.rePairRequired, s.saved, ?_, fun _ member => by cases member⟩
      dsimp only [Answer.ofAuth, Bool.false_eq_true, if_false]
      rw [List.dropLast_concat, List.append_nil]
      rfl
  | createPairing _ _ | verifyToken _ _ _ _ | verifyV2Identity _ _ _ _ | updateGrants _ _ _ | revoke _ _
  | resetForIdentityChange _ => cases pairs

theorem next_of_accepts {saves : Bool} {deviceId : String} {accepts : DeviceRecord → Bool}
    (accepted : s.Accepts now deviceId accepts)
    (performed : s.perform digest act = Answer.ofAuth (fun _ => .verified) (s.verify now saves deviceId accepts)) :
    ∃ saved, s.next digest act = { s.resetFailures with
      records := updateRecord deviceId (fun record => { record with lastSeenAt := unixSecs now.last }) s.records
      saved } := by
  rw [verify_of_accepts accepted] at performed
  rw [next, performed]
  cases saves with
  | true => exact ⟨_, rfl⟩
  | false => exact ⟨s.saved, rfl⟩

/-- What an act makes of the store. -/
inductive Turns (digest : String → String) (s : DeviceStore) (act : Act) : DeviceStore → Prop
  | created {now : Nat} {code : String} (creates : act = .createPairing now code) :
    Turns digest s act (s.createPairingCode now code)
  | paired {id : String} {added : List DeviceRecord} {rePairRequired : Bool} {saved : DevicesDocument}
    (pairs : act.newId? = some id) (admitted : s.Admits digest act)
    (drawn : ∀ record ∈ added, record.id = id ∧ (act.tokenId? = none → record.tokenHash = "")) :
    Turns digest s act { { s with pairing := none }.resetFailures with
      records := s.records ++ added, rePairRequired, saved }
  | verified {deviceId : String} {time : Nat} {saved : DevicesDocument}
    (verifies : act.newId? = none) (admitted : s.Admits digest act) :
    Turns digest s act { s.resetFailures with
      records := updateRecord deviceId (fun record => { record with lastSeenAt := time }) s.records, saved }
  | refused {now : Readings} {s' : DeviceStore} (attempt : act.readings? = some now)
    (denied : ¬s.Admits digest act) (refuses : s.Refuses now s') : Turns digest s act s'
  | changed {records : List DeviceRecord} {pairing : Option ActivePairing} {rePairRequired : Bool}
    {saved : DevicesDocument} (other : act.readings? = none) (waits : pairing = s.pairing ∨ pairing = none)
    (onward : ∀ id, Onward (s.record? id) (records.find? fun record => record.id = id)) :
    Turns digest s act { s with records, pairing, rePairRequired, saved }

theorem turns_updateGrants (saves : Bool) (deviceId : String) (grants : List String) :
    s.Turns digest (.updateGrants saves deviceId grants) (s.next digest (.updateGrants saves deviceId grants)) := by
  have performed : s.perform digest (.updateGrants saves deviceId grants) =
      Answer.ofUpdate .updated (s.updateGrants saves deviceId grants) := rfl
  rw [next, performed]
  unfold updateGrants
  split
  · exact .changed rfl (.inl rfl) fun id => Onward.refl _
  · cases found : s.record? deviceId with
    | none => exact .changed rfl (.inl rfl) fun id => Onward.refl _
    | some record =>
      have advances : ∀ other ∈ s.record? deviceId,
          Advances other { other with grants, revocationEpoch := nextEpoch record.revocationEpoch } := by
        rw [found]
        rintro _ ⟨⟩
        exact ⟨rfl, le_nextEpoch _, fun _ below => lt_nextEpoch below⟩
      have onward (id : String) := onward_updateRecord deviceId id
        (f := fun other => { other with grants, revocationEpoch := nextEpoch record.revocationEpoch })
        (fun _ => rfl) advances
      cases saves with
      | true => exact .changed rfl (.inl rfl) onward
      | false => exact .changed rfl (.inl rfl) onward

theorem turns_revoke (saves : Bool) (deviceId : String) :
    s.Turns digest (.revoke saves deviceId) (s.next digest (.revoke saves deviceId)) := by
  have onward (id : String) : Onward (s.record? id)
      ((s.records.filter fun record => record.id ≠ deviceId).find? fun record => record.id = id) := by
    by_cases here : id = deviceId
    · intro record member
      have kept := List.mem_filter.1 (List.mem_of_find?_eq_some member)
      exact absurd ((id_of_find? member).trans here) (of_decide_eq_true kept.2)
    · have same : ((s.records.filter fun record => record.id ≠ deviceId).find? fun record => record.id = id) =
          s.record? id := by
        rw [List.find?_filter, record?]
        congr 1
        funext record
        by_cases named : record.id = id
        · simp [named, here]
        · simp [named]
      rw [same]
      exact Onward.refl _
  cases saves with
  | true => exact .changed rfl (.inl rfl) onward
  | false => exact .changed rfl (.inl rfl) onward

theorem turns_next (act : Act) : s.Turns digest act (s.next digest act) := by
  by_cases admitted : s.Admits digest act
  · cases act with
    | consumePairing now saves id token code deviceName =>
      obtain ⟨added, rePairRequired, saved, same, drawn⟩ := next_of_redeems rfl admitted
      rw [same]
      exact .paired rfl admitted drawn
    | consumeV2Pairing now saves id code deviceName noiseFingerprint =>
      obtain ⟨added, rePairRequired, saved, same, drawn⟩ := next_of_redeems rfl admitted
      rw [same]
      exact .paired rfl admitted drawn
    | verifyToken now saves deviceId token =>
      have performed : s.perform digest (.verifyToken now saves deviceId token) = Answer.ofAuth (fun _ => .verified)
          (s.verify now saves deviceId fun record => record.tokenHash = digest token) := rfl
      obtain ⟨saved, same⟩ := next_of_accepts admitted performed
      rw [same]
      exact .verified rfl admitted
    | verifyV2Identity now saves deviceId noiseFingerprint =>
      have performed : s.perform digest (.verifyV2Identity now saves deviceId noiseFingerprint) =
          Answer.ofAuth (fun _ => .verified)
            (s.verify now saves deviceId fun record => record.noiseFingerprint = some noiseFingerprint) := rfl
      obtain ⟨saved, same⟩ := next_of_accepts admitted performed
      rw [same]
      exact .verified rfl admitted
    | createPairing _ _ | updateGrants _ _ _ | revoke _ _ | resetForIdentityChange _ => exact admitted.elim
  · cases attempt : act.readings? with
    | some now => exact .refused attempt admitted (perform_refused attempt admitted).choose_spec.2
    | none =>
      cases act with
      | createPairing now code => exact .created rfl
      | updateGrants saves deviceId grants => exact turns_updateGrants saves deviceId grants
      | revoke saves deviceId => exact turns_revoke saves deviceId
      | resetForIdentityChange saves =>
        have onward (id : String) : Onward (s.record? id) (([] : List DeviceRecord).find? fun record => record.id = id) :=
          fun _ member => nomatch member
        cases saves with
        | true => exact .changed rfl (.inr rfl) onward
        | false => exact .changed rfl (.inr rfl) onward
      | consumePairing _ _ _ _ _ _ | consumeV2Pairing _ _ _ _ _ _ | verifyToken _ _ _ _ | verifyV2Identity _ _ _ _ =>
        exact nomatch attempt

end Steps

section Codes

/-- The codes from a number on. -/
structure Beyond (s : DeviceStore) (number : Nat) : Prop where
  created : number ≤ s.created
  waits : ∀ pairing ∈ s.pairing, number ≤ pairing.number

def Numbered (s : DeviceStore) : Prop := ∀ pairing ∈ s.pairing, pairing.number < s.created

theorem Refuses.frame {s' : DeviceStore} (refuses : s.Refuses now s') :
    s'.records = s.records ∧ s'.created = s.created ∧ (s'.pairing = s.pairing ∨ s'.pairing = none) := by
  obtain ⟨_, rfl⟩ | ⟨_, pairing, original, waits, rfl⟩ := refuses
  · exact ⟨rfl, rfl, .inl rfl⟩
  · have frame (t : DeviceStore) : (t.recordFailure now.last original).1.records = t.records ∧
        (t.recordFailure now.last original).1.created = t.created ∧
        (t.recordFailure now.last original).1.pairing = t.pairing := by
      unfold recordFailure
      dsimp only
      split <;> exact ⟨rfl, rfl, rfl⟩
    have unlocks : s.unlocked.created = s.created := by
      unfold unlocked
      split <;> rfl
    obtain ⟨records, created, same⟩ := frame { s.unlocked with pairing }
    rw [records, created, same]
    exact ⟨unlocked_records, unlocks, waits⟩

theorem next_pairing (act : Act) :
    ((s.next digest act).created = s.created ∧
      ((s.next digest act).pairing = s.pairing ∨ (s.next digest act).pairing = none)) ∨
    ((s.next digest act).created = s.created + 1 ∧
      ∃ pairing, (s.next digest act).pairing = some pairing ∧ pairing.number = s.created) := by
  have turns := @turns_next digest s act
  generalize s.next digest act = s' at turns
  cases turns with
  | created creates => exact .inr ⟨rfl, _, rfl, rfl⟩
  | paired pairs admitted drawn => exact .inl ⟨rfl, .inr rfl⟩
  | verified verifies admitted => exact .inl ⟨rfl, .inl rfl⟩
  | refused attempt denied refuses => exact .inl refuses.frame.2
  | changed other waits onward => exact .inl ⟨rfl, waits⟩

theorem Beyond.next {number : Nat} (beyond : s.Beyond number) (act : Act) : (s.next digest act).Beyond number := by
  obtain ⟨created, same | none⟩ | ⟨created, pairing, same, numbered⟩ := @next_pairing digest s act
  · exact ⟨created ▸ beyond.created, same ▸ beyond.waits⟩
  · exact ⟨created ▸ beyond.created, none ▸ fun _ member => by cases member⟩
  · refine ⟨created ▸ beyond.created.trans (Nat.le_succ _), ?_⟩
    rw [same]
    rintro _ ⟨⟩
    exact numbered ▸ beyond.created

theorem Numbered.next (numbered : s.Numbered) (act : Act) : (s.next digest act).Numbered := by
  unfold Numbered
  obtain ⟨created, same | none⟩ | ⟨created, pairing, same, here⟩ := @next_pairing digest s act
  · rw [created, same]
    exact numbered
  · rw [none]
    exact fun _ member => nomatch member
  · rw [created, same]
    rintro _ ⟨⟩
    exact here ▸ Nat.lt_succ_self _

theorem beyond_of_pairs (numbered : s.Numbered) (pairs : act.newId? = some id) (admitted : s.Admits digest act) :
    ∃ pairing ∈ s.pairing, (∀ now ∈ act.readings?, now.expiry ≤ pairing.expiresAt) ∧
      (s.next digest act).Beyond (pairing.number + 1) := by
  have redeems : ∃ now code, act.readings? = some now ∧ s.Redeems now code := by
    cases act with
    | consumePairing now saves id token code deviceName => exact ⟨now, code, rfl, admitted⟩
    | consumeV2Pairing now saves id code deviceName noiseFingerprint => exact ⟨now, code, rfl, admitted⟩
    | createPairing _ _ | verifyToken _ _ _ _ | verifyV2Identity _ _ _ _ | updateGrants _ _ _ | revoke _ _
    | resetForIdentityChange _ => cases pairs
  obtain ⟨now, code, attempt, _, pairing, waited, live, _⟩ := redeems
  obtain ⟨added, rePairRequired, saved, same, _⟩ := next_of_redeems pairs admitted
  refine ⟨pairing, waited, ?_, ?_⟩
  · rw [attempt]
    rintro _ ⟨⟩
    exact live
  · rw [same]
    exact ⟨numbered pairing waited, fun _ member => by cases member⟩

theorem beyond_run {number : Nat} (beyond : s.Beyond number) (acts : List Act) :
    (s.run digest acts).Beyond number := by
  induction acts generalizing s with
  | nil => exact beyond
  | cons act acts ih => exact ih (beyond.next act)

theorem numbered_run (numbered : s.Numbered) (acts : List Act) : (s.run digest acts).Numbered := by
  induction acts generalizing s with
  | nil => exact numbered
  | cons act acts ih => exact ih (numbered.next act)

end Codes

section Credentials

theorem onward_next (others : act.newId? ≠ some id) : Onward (s.record? id) ((s.next digest act).record? id) := by
  have turns := @turns_next digest s act
  generalize s.next digest act = s' at turns
  cases turns with
  | created creates => exact Onward.refl _
  | paired pairs admitted drawn =>
    have same := record?_append (s := s) _ fun record member named =>
      others (pairs.trans (congrArg some ((drawn record member).1.symm.trans named)))
    exact same ▸ Onward.refl _
  | verified verifies admitted =>
    refine onward_updateRecord _ id (fun record => ?_) fun record _ => ?_
    · rfl
    · exact ⟨rfl, Nat.le_refl _, fun changed => absurd rfl changed⟩
  | refused attempt denied refuses =>
    rw [record?, record?, refuses.frame.1]
    exact Onward.refl _
  | changed other waits onward => exact onward id

theorem onward_run {acts : List Act} (others : ∀ act ∈ acts, act.newId? ≠ some id) :
    Onward (s.record? id) ((s.run digest acts).record? id) := by
  induction acts generalizing s with
  | nil => exact Onward.refl _
  | cons act acts ih =>
    exact (onward_next (others act List.mem_cons_self)).trans
      (ih fun later member => others later (List.mem_cons_of_mem _ member))

def Tokenless (s : DeviceStore) (id : String) : Prop := ∀ record ∈ s.record? id, record.tokenHash = ""

theorem Tokenless.onward {s' : DeviceStore} (tokenless : s.Tokenless id) (onward : Onward (s.record? id) (s'.record? id)) :
    s'.Tokenless id := by
  intro record' member
  obtain ⟨record, there, advances⟩ := onward record' member
  exact advances.token.trans (tokenless record there)

theorem Tokenless.next (tokenless : s.Tokenless id) (others : act.tokenId? ≠ some id) :
    (s.next digest act).Tokenless id := by
  by_cases asked : act.newId? = some id
  · have turns := @turns_next digest s act
    generalize s.next digest act = s' at turns
    cases turns with
    | created creates => exact tokenless
    | paired pairs admitted drawn =>
      have untokened : act.tokenId? = none := by
        cases act with
        | consumePairing _ _ _ _ _ _ => exact absurd asked others
        | consumeV2Pairing _ _ _ _ _ _ | createPairing _ _ | verifyToken _ _ _ _ | verifyV2Identity _ _ _ _
        | updateGrants _ _ _ | revoke _ _ | resetForIdentityChange _ => rfl
      intro record member
      rw [record?, List.find?_append] at member
      obtain there | ⟨_, there⟩ := Option.or_eq_some_iff.1 member
      · exact tokenless record there
      · exact (drawn record (List.mem_of_find?_eq_some there)).2 untokened
    | verified verifies admitted => exact absurd asked (verifies ▸ nofun)
    | refused attempt denied refuses =>
      rw [Tokenless, record?, refuses.frame.1]
      exact tokenless
    | changed other waits onward => exact tokenless.onward (onward id)
  · exact tokenless.onward (onward_next asked)

theorem tokenless_run {acts : List Act} (tokenless : s.Tokenless id) (others : ∀ act ∈ acts, act.tokenId? ≠ some id) :
    (s.run digest acts).Tokenless id := by
  induction acts generalizing s with
  | nil => exact tokenless
  | cons act acts ih =>
    exact ih (tokenless.next (others act List.mem_cons_self))
      fun later member => others later (List.mem_cons_of_mem _ member)

theorem Tokenless.denies (tokenless : s.Tokenless id) (nonempty : ∀ token, digest token ≠ "") (saves : Bool)
    (token : String) : ¬s.Admits digest (.verifyToken now saves id token) := by
  rintro ⟨_, record, there, right⟩
  exact nonempty token ((of_decide_eq_true right).symm.trans (tokenless record there))

end Credentials

section Lockouts

instance (s : DeviceStore) (now : Nat) : Decidable (s.Free now) :=
  inferInstanceAs (Decidable (∀ end_ ∈ s.lockedUntil, end_ ≤ now))

def Act.attempt : Act → List Nat
  | act => act.readings?.elim [] fun now => [now.last]

def counts (s : DeviceStore) (act : Act) : List Nat :=
  act.readings?.elim [] fun now => if s.Free now.checked then [now.last] else []

/-- When the attempts of a run have been made that meet no lockout. -/
def counted (digest : String → String) : DeviceStore → List Act → List Nat
  | _, [] => []
  | s, act :: acts => s.counts act ++ counted digest (s.next digest act) acts

/-- The failures since the last success, those that met no lockout, and the lockout that follows from them. -/
structure Tallies (s : DeviceStore) (failed counted : List Nat) (clock : Nat) : Prop where
  first : counted = failed ∨
    MAX_FAILED_ATTEMPTS ≤ counted.length ∧ counted.take MAX_FAILED_ATTEMPTS = failed.take MAX_FAILED_ATTEMPTS
  below : s.lockedUntil = none → s.failedAttempts = counted.length % MAX_FAILED_ATTEMPTS
  whole : ∀ end_ ∈ s.lockedUntil, counted.length % MAX_FAILED_ATTEMPTS = 0 ∧ counted ≠ []
  passed : ∀ round, ∀ last ∈ counted[MAX_FAILED_ATTEMPTS * round + 4]?,
    last + LOCKOUT_DURATION ≤ clock ∨ s.lockedUntil = some (last + LOCKOUT_DURATION)

theorem Clear.tallies (clear : s.Clear) (clock : Nat) : s.Tallies [] [] clock where
  first := .inl rfl
  below _ := clear.1
  whole _ locked := absurd (clear.2.symm.trans locked) nofun
  passed _ _ member := nomatch member

variable {failed counted : List Nat} {clock : Nat}

theorem Tallies.later (tallies : s.Tallies failed counted clock) {clock' : Nat} (later : clock ≤ clock') :
    s.Tallies failed counted clock' where
  first := tallies.first
  below := tallies.below
  whole := tallies.whole
  passed round last member := (tallies.passed round last member).imp_left fun passed => passed.trans later

theorem Tallies.locked (tallies : s.Tallies failed counted clock) (locked : ¬s.Free now.checked) :
    s.Tallies (failed ++ [now.last]) counted clock where
  first := by
    obtain ⟨end_, there⟩ : ∃ end_, end_ ∈ s.lockedUntil := by
      by_contra none
      exact locked fun end_ there => absurd ⟨end_, there⟩ none
    obtain ⟨whole, nonempty⟩ := tallies.whole end_ there
    have many : MAX_FAILED_ATTEMPTS ≤ counted.length := by
      have positive := List.length_pos_iff.2 nonempty
      unfold MAX_FAILED_ATTEMPTS at whole ⊢
      omega
    have enough : MAX_FAILED_ATTEMPTS ≤ failed.length := by
      obtain same | ⟨_, same⟩ := tallies.first
      · exact same ▸ many
      · have lengths := congrArg List.length same
        rw [List.length_take, List.length_take] at lengths
        omega
    refine .inr ⟨many, ?_⟩
    rw [List.take_append_of_le_length enough]
    obtain same | ⟨_, same⟩ := tallies.first
    · rw [same]
    · exact same
  below := tallies.below
  whole := tallies.whole
  passed := tallies.passed

theorem recordFailure_eq (s : DeviceStore) (time : Nat) (original : AuthFailure) (few : s.failedAttempts < 5) :
    (s.recordFailure time original).1.failedAttempts = s.failedAttempts + 1 ∧
    (s.recordFailure time original).1.lockedUntil =
      if s.failedAttempts = 4 then some (time + LOCKOUT_DURATION) else s.lockedUntil := by
  have small : min (s.failedAttempts + 1) 255 = s.failedAttempts + 1 := Nat.min_eq_left (by omega)
  unfold recordFailure MAX_FAILED_ATTEMPTS
  dsimp only
  rw [small]
  by_cases fifth : s.failedAttempts = 4
  · rw [if_pos (by omega), if_pos fifth]
    exact ⟨rfl, rfl⟩
  · rw [if_neg (by omega), if_neg fifth]
    exact ⟨rfl, rfl⟩

theorem Tallies.unlocked (tallies : s.Tallies failed counted clock) :
    s.unlocked.failedAttempts = counted.length % MAX_FAILED_ATTEMPTS ∧ s.unlocked.lockedUntil = none := by
  cases locked : s.lockedUntil with
  | none =>
    have same : s.unlocked = s := by rw [DeviceStore.unlocked, locked]; rfl
    rw [same]
    exact ⟨tallies.below locked, locked⟩
  | some end_ =>
    have same : s.unlocked = s.resetFailures := by rw [DeviceStore.unlocked, locked]; rfl
    rw [same, (tallies.whole end_ locked).1]
    exact ⟨rfl, rfl⟩

theorem Tallies.free (tallies : s.Tallies failed counted clock) (free : s.Free now.checked) {s' : DeviceStore}
    (later : clock ≤ now.last) (ordered : now.checked ≤ now.last)
    (attempts : s'.failedAttempts = counted.length % MAX_FAILED_ATTEMPTS + 1)
    (locks : s'.lockedUntil =
      if counted.length % MAX_FAILED_ATTEMPTS = 4 then some (now.last + LOCKOUT_DURATION) else none) :
    s'.Tallies (failed ++ [now.last]) (counted ++ [now.last]) now.last where
  first := by
    obtain same | ⟨many, same⟩ := tallies.first
    · exact .inl (same ▸ rfl)
    · have enough : MAX_FAILED_ATTEMPTS ≤ failed.length := by
        have lengths := congrArg List.length same
        rw [List.length_take, List.length_take] at lengths
        omega
      refine .inr ⟨?_, ?_⟩
      · rw [List.length_append]
        omega
      · rw [List.take_append_of_le_length many, List.take_append_of_le_length enough, same]
  below open_ := by
    rw [locks] at open_
    rw [attempts, List.length_append, List.length_singleton]
    split at open_
    · exact nomatch open_
    · unfold MAX_FAILED_ATTEMPTS at *
      omega
  whole end_ locked := by
    rw [locks] at locked
    split at locked
    · rw [List.length_append, List.length_singleton]
      unfold MAX_FAILED_ATTEMPTS at *
      exact ⟨by omega, by simp⟩
    · exact nomatch locked
  passed round last member := by
    by_cases old : MAX_FAILED_ATTEMPTS * round + 4 < counted.length
    · rw [List.getElem?_append_left old] at member
      obtain passed | locked := tallies.passed round last member
      · exact .inl (passed.trans later)
      · exact .inl ((free _ locked).trans ordered)
    · obtain ⟨bound, same⟩ := List.getElem?_eq_some_iff.1 member
      rw [List.length_append, List.length_singleton] at bound
      have index : MAX_FAILED_ATTEMPTS * round + 4 = counted.length := by omega
      have here : last = now.last := by
        rw [← same]
        simp [index]
      rw [locks, if_pos (by unfold MAX_FAILED_ATTEMPTS at *; omega), here]
      exact .inr rfl

theorem Tallies.refused {s' : DeviceStore} (tallies : s.Tallies failed counted clock) (refuses : s.Refuses now s')
    (later : clock ≤ now.checked) (ordered : now.checked ≤ now.last) :
    s'.Tallies (failed ++ [now.last]) (counted ++ if s.Free now.checked then [now.last] else []) now.last := by
  obtain ⟨locked, rfl⟩ | ⟨free, pairing, original, waits, rfl⟩ := refuses
  · rw [if_neg locked, List.append_nil]
    exact (tallies.locked locked).later (later.trans ordered)
  · rw [if_pos free]
    obtain ⟨attempts, unlocked⟩ := tallies.unlocked
    have few : s.unlocked.failedAttempts < 5 := by
      rw [attempts]
      exact Nat.mod_lt _ (by decide)
    obtain ⟨more, locks⟩ := recordFailure_eq { s.unlocked with pairing } now.last original few
    refine tallies.free free (later.trans ordered) ordered (more.trans (congrArg (· + 1) attempts)) ?_
    rw [locks, ← attempts, ← unlocked]

theorem clear_of_admits (admitted : s.Admits digest act) : (s.next digest act).Clear := by
  have turns := @turns_next digest s act
  generalize s.next digest act = s' at turns
  cases turns with
  | created creates =>
    subst creates
    exact admitted.elim
  | paired _ _ _ | verified _ _ => exact ⟨rfl, rfl⟩
  | refused _ denied _ => exact absurd admitted denied
  | changed other _ _ =>
    cases act with
    | consumePairing _ _ _ _ _ _ | consumeV2Pairing _ _ _ _ _ _ | verifyToken _ _ _ _ | verifyV2Identity _ _ _ _ =>
      exact nomatch other
    | createPairing _ _ | updateGrants _ _ _ | revoke _ _ | resetForIdentityChange _ => exact admitted.elim

theorem Tallies.next (tallies : s.Tallies failed counted clock) (denied : ¬s.Admits digest act) {later : List Nat}
    (ordered : (act.clock ++ later).Pairwise (· ≤ ·)) (after : ∀ time ∈ act.clock ++ later, clock ≤ time) :
    ∃ clock', (∀ time ∈ later, clock' ≤ time) ∧
      (s.next digest act).Tallies (failed ++ act.attempt) (counted ++ s.counts act) clock' := by
  cases attempt : act.readings? with
  | some now =>
    have times : act.clock = [now.checked, now.expiry, now.last] := by
      cases act with
      | createPairing _ _ => exact nomatch attempt
      | consumePairing _ _ _ _ _ _ | consumeV2Pairing _ _ _ _ _ _ | verifyToken _ _ _ _ | verifyV2Identity _ _ _ _ =>
        cases attempt
        rfl
      | updateGrants _ _ _ | revoke _ _ | resetForIdentityChange _ => exact nomatch attempt
    rw [times] at ordered after
    obtain ⟨within, _, across⟩ := List.pairwise_append.1 ordered
    have first : clock ≤ now.checked := after _ List.mem_cons_self
    have last : now.checked ≤ now.last := (List.pairwise_cons.1 within).1 _ (by simp)
    have fails : act.attempt = [now.last] := by rw [Act.attempt, attempt]; rfl
    have counts : s.counts act = if s.Free now.checked then [now.last] else [] := by
      rw [DeviceStore.counts, attempt]
      rfl
    rw [fails, counts]
    exact ⟨now.last, fun time member => across _ (by simp) time member,
      tallies.refused (perform_refused attempt denied).choose_spec.2 first last⟩
  | none =>
    have fails : act.attempt = [] := by rw [Act.attempt, attempt]; rfl
    have counts : s.counts act = [] := by rw [DeviceStore.counts, attempt]; rfl
    have same : (s.next digest act).failedAttempts = s.failedAttempts ∧
        (s.next digest act).lockedUntil = s.lockedUntil := by
      have turns := @turns_next digest s act
      generalize s.next digest act = s' at turns
      cases turns with
      | created _ | changed _ _ _ => exact ⟨rfl, rfl⟩
      | paired _ admitted _ | verified _ admitted => exact absurd admitted denied
      | refused attempt' _ _ => exact nomatch attempt.symm.trans attempt'
    rw [fails, counts, List.append_nil, List.append_nil]
    exact ⟨clock, fun time member => after time (List.mem_append_right _ member),
      tallies.first, same.1 ▸ same.2 ▸ tallies.below, same.2 ▸ tallies.whole, same.2 ▸ tallies.passed⟩

theorem tallies_run {later : List Nat} : ∀ {s : DeviceStore} {failed counted : List Nat} {clock : Nat} {acts : List Act},
    s.Tallies failed counted clock → Throughout (next digest) (fun s act => ¬s.Admits digest act) s acts →
    (acts.flatMap Act.clock ++ later).Pairwise (· ≤ ·) → (∀ time ∈ acts.flatMap Act.clock ++ later, clock ≤ time) →
    ∃ clock', (∀ time ∈ later, clock' ≤ time) ∧
      (s.run digest acts).Tallies (failed ++ acts.flatMap Act.attempt) (counted ++ s.counted digest acts) clock'
  | s, failed, counted, clock, [], tallies, _, _, after => by
    rw [List.flatMap_nil, DeviceStore.counted, List.append_nil, List.append_nil]
    exact ⟨clock, after, tallies⟩
  | s, failed, counted, clock, act :: acts, tallies, ⟨denied, rest⟩, ordered, after => by
    rw [List.flatMap_cons, List.append_assoc] at ordered after
    obtain ⟨clock', after', tallies'⟩ := tallies.next denied ordered after
    rw [List.flatMap_cons, DeviceStore.counted, ← List.append_assoc, ← List.append_assoc]
    exact tallies_run tallies' rest (List.pairwise_append.1 ordered).2.1 after'

end Lockouts

section Lives

/-- The ids that are drawn are those of no other devices. -/
structure Fresh (s : DeviceStore) (acts : List Act) : Prop where
  distinct : (acts.filterMap Act.newId?).Nodup
  others : ∀ id ∈ acts.filterMap Act.newId?, s.record? id = none

theorem Fresh.not_drawn {pre post : List Act} (fresh : s.Fresh (pre ++ post))
    (there : ((s.run digest pre).record? id).isSome) : ∀ act ∈ post, act.newId? ≠ some id := by
  intro act member drawn
  have late : id ∈ post.filterMap Act.newId? := List.mem_filterMap.2 ⟨act, member, drawn⟩
  have split := fresh.distinct
  rw [List.filterMap_append] at split
  have early (act : Act) (member : act ∈ pre) : act.newId? ≠ some id := fun drawn =>
    List.disjoint_of_nodup_append split (List.mem_filterMap.2 ⟨act, member, drawn⟩) late
  have unknown : s.record? id = none := by
    apply fresh.others
    rw [List.filterMap_append]
    exact List.mem_append_right _ late
  obtain ⟨record, found⟩ := Option.isSome_iff_exists.1 there
  obtain ⟨_, before, _⟩ := @onward_run digest _ _ _ early record found
  exact nomatch unknown.symm.trans before

theorem run_append (pre post : List Act) : s.run digest (pre ++ post) = (s.run digest pre).run digest post :=
  List.foldl_append

/-- Nothing has failed since the start or since an attempt with the right credentials. -/
inductive Anew (digest : String → String) (s : DeviceStore) : List Act → Prop
  | start : Anew digest s []
  | success (pre : List Act) (act : Act) (admitted : (s.run digest pre).Admits digest act) :
    Anew digest s (pre ++ [act])

theorem Anew.clear {pre : List Act} (anew : s.Anew digest pre) (clear : s.Clear) : (s.run digest pre).Clear := by
  cases anew with
  | start => exact clear
  | success pre act admitted =>
    rw [run_append]
    exact clear_of_admits admitted

/-- What holds of the attempts, the epochs and the credentials in a run. -/
structure Guarded (digest : String → String) (s : DeviceStore) (acts : List Act) : Prop where
  admitted : ∀ pre act post, acts = pre ++ act :: post → act.readings?.isSome →
    ((s.run digest pre).perform digest act).2.isError = false → (s.run digest pre).Admits digest act
  codes : ∀ pre act post, acts = pre ++ act :: post → act.newId?.isSome → (s.run digest pre).Admits digest act →
    ∃ pairing ∈ (s.run digest pre).pairing, (∀ now ∈ act.readings?, now.expiry ≤ pairing.expiresAt) ∧
      ∀ mid later rest, post = mid ++ later :: rest → later.newId?.isSome →
        (s.run digest (pre ++ act :: mid)).Admits digest later →
        ∀ pairing' ∈ (s.run digest (pre ++ act :: mid)).pairing, pairing.number < pairing'.number
  lockouts : ∀ pre window act post, acts = pre ++ (window ++ act :: post) → s.Anew digest pre →
    Throughout (next digest) (fun s act => ¬s.Admits digest act) (s.run digest pre) window →
    (s.run digest (pre ++ window)).Admits digest act → ∀ round, ∀ now ∈ act.readings?,
      ∀ last ∈ ((s.run digest pre).counted digest window)[MAX_FAILED_ATTEMPTS * round + 4]?,
        last + LOCKOUT_DURATION ≤ now.checked
  counted : ∀ pre window post, acts = pre ++ (window ++ post) → s.Anew digest pre →
    Throughout (next digest) (fun s act => ¬s.Admits digest act) (s.run digest pre) window →
      ((s.run digest pre).counted digest window).take MAX_FAILED_ATTEMPTS =
        (window.flatMap Act.attempt).take MAX_FAILED_ATTEMPTS
  epochs : ∀ pre mid post id, acts = pre ++ (mid ++ post) → ∀ record ∈ (s.run digest pre).record? id,
    ∀ record' ∈ (s.run digest (pre ++ mid)).record? id, record.revocationEpoch ≤ record'.revocationEpoch ∧
      (record'.grants ≠ record.grants → record.revocationEpoch < maxEpoch →
        record.revocationEpoch < record'.revocationEpoch)
  revoked : ∀ pre act mid post id saves, acts = pre ++ (act :: mid ++ post) →
    (act = .revoke saves id ∨ act = .resetForIdentityChange saves) → ((s.run digest pre).record? id).isSome →
    ∀ now saves token, ¬(s.run digest (pre ++ act :: mid)).Admits digest (.verifyToken now saves id token)
  untokened : ∀ pre post id, acts = pre ++ post → s.Tokenless id → (∀ act ∈ pre, act.tokenId? ≠ some id) →
    ∀ now saves token, ¬(s.run digest pre).Admits digest (.verifyToken now saves id token)

theorem admits_of_answer (attempt : act.readings? = some now)
    (success : (s.perform digest act).2.isError = false) : s.Admits digest act := by
  by_contra denied
  obtain ⟨failure, answer, _⟩ := perform_refused attempt denied
  rw [answer] at success
  exact nomatch success

theorem clear_load {report : LoadReport LoadedDevices} {saves : Bool} (started : load report saves = some s) :
    s.Clear ∧ s.pairing = none := by
  unfold load at started
  split at started
  · split at started
    · cases started
      exact ⟨⟨rfl, rfl⟩, rfl⟩
    · exact nomatch started
  · cases started
    exact ⟨⟨rfl, rfl⟩, rfl⟩

theorem record?_gone {saves : Bool} (gone : act = .revoke saves id ∨ act = .resetForIdentityChange saves) :
    (s.next digest act).record? id = none := by
  have removed : (s.records.filter fun record => record.id ≠ id).find? (fun record => record.id = id) = none := by
    rw [List.find?_eq_none]
    intro record member named
    exact of_decide_eq_true (List.mem_filter.1 member).2 (of_decide_eq_true named)
  cases gone with
  | inl revokes =>
    subst revokes
    cases saves with
    | true => exact removed
    | false => exact removed
  | inr resets =>
    subst resets
    cases saves with
    | true => rfl
    | false => rfl

theorem tokenId?_of_newId? {act : Act} (others : act.newId? ≠ some id) : act.tokenId? ≠ some id := by
  cases act with
  | consumePairing _ _ _ _ _ _ => exact others
  | consumeV2Pairing _ _ _ _ _ _ | createPairing _ _ | verifyToken _ _ _ _ | verifyV2Identity _ _ _ _
  | updateGrants _ _ _ | revoke _ _ | resetForIdentityChange _ => exact nofun

theorem guarded (digest : String → String) (report : LoadReport LoadedDevices) (saves : Bool) (s : DeviceStore)
    (acts : List Act) (started : load report saves = some s) (ordered : (acts.flatMap Act.clock).Pairwise (· ≤ ·))
    (fresh : s.Fresh acts) (nonempty : ∀ token, digest token ≠ "") : s.Guarded digest acts := by
  obtain ⟨clear, waits⟩ := clear_load started
  have numbered : s.Numbered := by
    rw [Numbered, waits]
    exact fun _ member => nomatch member
  have tallied (pre window post : List Act) (split : acts = pre ++ (window ++ post)) (anew : s.Anew digest pre)
      (denied : Throughout (next digest) (fun s act => ¬s.Admits digest act) (s.run digest pre) window) :
      ∃ clock, (∀ time ∈ post.flatMap Act.clock, clock ≤ time) ∧ (s.run digest (pre ++ window)).Tallies
        (window.flatMap Act.attempt) ((s.run digest pre).counted digest window) clock := by
    rw [split, List.flatMap_append, List.flatMap_append] at ordered
    rw [run_append]
    exact tallies_run ((anew.clear clear).tallies 0) denied (List.pairwise_append.1 ordered).2.1 fun _ _ => Nat.zero_le _
  refine ⟨?_, ?_, ?_, ?_, ?_, ?_, ?_⟩
  · intro pre act post split attempt success
    obtain ⟨now, attempt⟩ := Option.isSome_iff_exists.1 attempt
    exact admits_of_answer attempt success
  · intro pre act post split pairs admitted
    obtain ⟨id, pairs⟩ := Option.isSome_iff_exists.1 pairs
    obtain ⟨pairing, waited, live, beyond⟩ := beyond_of_pairs (numbered_run numbered pre) pairs admitted
    refine ⟨pairing, waited, live, fun mid later rest split pairs' admitted' => ?_⟩
    rw [run_append]
    exact (beyond_run beyond mid).waits
  · intro pre window act post split anew denied admitted round now attempt last member
    obtain ⟨clock, after, tallies⟩ := tallied pre window (act :: post) split anew denied
    have free : (s.run digest (pre ++ window)).Free now.checked ∧ now.checked ∈ act.clock := by
      cases act with
      | consumePairing _ _ _ _ _ _ | consumeV2Pairing _ _ _ _ _ _ | verifyToken _ _ _ _ | verifyV2Identity _ _ _ _ =>
        cases attempt
        exact ⟨admitted.1, List.mem_cons_self⟩
      | createPairing _ _ | updateGrants _ _ _ | revoke _ _ | resetForIdentityChange _ => exact nomatch attempt
    obtain passed | locked := tallies.passed round last member
    · exact passed.trans (after _ (List.mem_flatMap.2 ⟨act, List.mem_cons_self, free.2⟩))
    · exact free.1 _ locked
  · intro pre window post split anew denied
    obtain ⟨clock, _, tallies⟩ := tallied pre window post split anew denied
    obtain same | ⟨_, same⟩ := tallies.first
    · rw [same]
    · exact same
  · intro pre mid post id split record there record' there'
    subst split
    have others := @Fresh.not_drawn digest _ id _ _ fresh (Option.isSome_iff_exists.2 ⟨record, there⟩)
    rw [run_append] at there'
    obtain ⟨record₀, there₀, advances⟩ := @onward_run digest _ _ _
      (fun act member => others act (List.mem_append_left _ member)) record' there'
    cases there.symm.trans there₀
    exact ⟨advances.epoch, advances.grants⟩
  · intro pre act mid post id saves split gone there now saves' token
    subst split
    have others := @Fresh.not_drawn digest _ id _ _ fresh there
    have tokenless : ((s.run digest pre).next digest act).Tokenless id := by
      rw [Tokenless, record?_gone gone]
      exact fun _ member => nomatch member
    have unrolled : (s.run digest pre).run digest (act :: mid) = ((s.run digest pre).next digest act).run digest mid :=
      rfl
    rw [run_append, unrolled]
    refine Tokenless.denies ?_ nonempty saves' token
    exact tokenless_run tokenless fun later member =>
      tokenId?_of_newId? (others later (List.mem_append_left _ (List.mem_cons_of_mem _ member)))
  · intro pre post id split tokenless others now saves token
    exact (tokenless_run tokenless others).denies nonempty saves token

def marked (token : String) : String := "#" ++ token

theorem marked_ne (token : String) : marked token ≠ "" := by
  intro same
  have lengths := congrArg String.length same
  rw [marked, String.length_append] at lengths
  exact absurd lengths (by have one : "#".length = 1 := rfl; have none : "".length = 0 := rfl; omega)

def phones : List Act := [.createPairing 0 "1", .consumePairing ⟨1, 1, 1⟩ true "a" "t" "1" "Phone",
  .verifyToken ⟨2, 2, 2⟩ true "a" "t", .createPairing 2 "2", .consumeV2Pairing ⟨3, 3, 3⟩ true "b" "2" "Tablet" "key",
  .updateGrants true "a" ["files.view"], .verifyToken ⟨4, 4, 4⟩ true "b" "", .revoke true "a",
  .verifyToken ⟨5, 5, 5⟩ true "a" "t"]

theorem phones_guarded : emptyStore.Guarded marked phones :=
  guarded marked unwritten true emptyStore phones rfl (by decide +kernel) ⟨by decide +kernel, by decide +kernel⟩
    marked_ne

/-- Four wrong codes, and the right one, but the device cannot be saved. -/
def unsavedPairing : List Act := .createPairing 0 "1" ::
  (["a", "b", "c", "d"].map fun id => Act.consumePairing ⟨1, 1, 1⟩ true id "t" "2" "Phone") ++
  [.consumePairing ⟨1, 1, 1⟩ false "e" "t" "1" "Phone", .createPairing 2 "3"]

theorem not_always_locked : load unwritten true = some emptyStore ∧
    (unsavedPairing.flatMap Act.clock ++ [3, 3, 3]).Pairwise (· ≤ ·) ∧
    Throughout (next marked) (fun s act => act.readings?.isSome = true → (s.perform marked act).2.isError = true)
      emptyStore unsavedPairing ∧
    unsavedPairing.flatMap Act.attempt = [1, 1, 1, 1, 1] ∧
    ((emptyStore.run marked unsavedPairing).perform marked
      (.consumePairing ⟨3, 3, 3⟩ true "f" "t" "3" "Phone")).2.isError = false ∧ 3 < 1 + LOCKOUT_DURATION := by
  refine ⟨rfl, ?_⟩
  decide +kernel

end Lives

end DeviceStore

end VibeLink.Remote
