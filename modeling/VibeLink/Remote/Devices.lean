import VibeLink.Coordinator.Store
import VibeLink.Storage.Files
import VibeLink.Relational.Runs
import Mathlib.Algebra.Order.Ring.Nat

/-! The devices that may connect, their pairing and their credentials (`remote/devices.rs`).  Times are in
nanoseconds since the epoch, and the digest of a token is a parameter. -/

namespace VibeLink.Remote

open VibeLink.Storage (LoadSource LoadReport)

def nanosPerSecond : Nat := 1000000000

def PAIRING_TTL : Nat := 5 * 60 * nanosPerSecond

def LOCKOUT_DURATION : Nat := 60 * nanosPerSecond

def MAX_FAILED_ATTEMPTS : Nat := 5

def TERMINAL_VIEW_GRANT : String := "terminal.view"

def TERMINAL_INPUT_GRANT : String := "terminal.input"

structure DeviceRecord where
  id : String
  name : String
  tokenHash : String
  noiseFingerprint : Option String
  revocationEpoch : Nat
  createdAt : Nat
  lastSeenAt : Nat
  grants : List String
  deriving DecidableEq

/-- A code; the number, by which it is itself, counts those that have been created. -/
structure ActivePairing where
  number : Nat
  code : String
  expiresAt : Nat
  deriving DecidableEq

inductive AuthFailure
  | failed | pairExpired | rateLimited
  deriving DecidableEq

structure DevicesDocument where
  devices : List DeviceRecord
  rePairRequired : Bool
  deriving DecidableEq

structure LoadedDevices where
  document : DevicesDocument
  legacy : Bool
  deriving DecidableEq

structure DeviceStore where
  records : List DeviceRecord
  rePairRequired : Bool
  pairing : Option ActivePairing
  failedAttempts : Nat
  lockedUntil : Option Nat
  /-- The document that has been written last, and how many codes have been created: ghosts. -/
  saved : DevicesDocument
  created : Nat
  deriving DecidableEq

/-- What the clock shows at the readings of a call: at the lockout, at the expiry of a code, and last. -/
structure Readings where
  checked : Nat
  expiry : Nat
  last : Nat
  deriving DecidableEq

def maxEpoch : Nat := 2 ^ 64 - 1

/-- `saturating_add` of one. -/
def nextEpoch (epoch : Nat) : Nat := if epoch < maxEpoch then epoch + 1 else epoch

def initialRevocationEpoch : Nat := 1

def defaultGrants : List String := [TERMINAL_VIEW_GRANT, TERMINAL_INPUT_GRANT]

def remoteV2DefaultGrants : List String := [TERMINAL_VIEW_GRANT, TERMINAL_INPUT_GRANT, "orchestration.view",
  "orchestration.control", "browser.view", "browser.control", "files.view", "git.write", "computer.observe",
  "computer.control", "admin"]

def isKnownGrant (grant : String) : Bool := [TERMINAL_VIEW_GRANT, TERMINAL_INPUT_GRANT, "orchestration.view",
  "orchestration.control", "browser.view", "browser.control", "files.view", "git.write", "computer.observe",
  "computer.control", "admin"].contains grant

def unixSecs (time : Nat) : Nat := time / nanosPerSecond

def sanitizeDeviceName (value : String) : String :=
  let trimmed := Coordinator.trim value
  if trimmed = "" then "Android device" else String.ofList (trimmed.toList.take 80)

def updateRecord (deviceId : String) (f : DeviceRecord → DeviceRecord) : List DeviceRecord → List DeviceRecord
  | [] => []
  | record :: records =>
    if record.id = deviceId then f record :: records else record :: updateRecord deviceId f records

namespace DeviceStore

section Operations

variable (s : DeviceStore)

def record? (deviceId : String) : Option DeviceRecord := s.records.find? fun record => record.id = deviceId

def document : DevicesDocument := ⟨s.records, s.rePairRequired⟩

def save (saves : Bool) : DeviceStore := if saves then { s with saved := s.document } else s

/-- What the file holds is what is loaded, or what is put into its place. -/
def loaded (report : LoadReport LoadedDevices) : DeviceStore where
  records := report.value.document.devices.map fun record =>
    { record with grants := record.grants.filter isKnownGrant }
  rePairRequired := report.value.document.rePairRequired ||
    (report.source = .default && !report.quarantined.isEmpty)
  pairing := none
  failedAttempts := 0
  lockedUntil := none
  saved := report.value.document
  created := 0

def load (report : LoadReport LoadedDevices) (saves : Bool) : Option DeviceStore :=
  if report.value.legacy ∨ report.source = .default then
    if saves then some ((loaded report).save true) else none
  else some (loaded report)

def createPairingCode (now : Nat) (code : String) : DeviceStore :=
  { s with pairing := some ⟨s.created, code, now + PAIRING_TTL⟩, created := s.created + 1 }

def resetFailures : DeviceStore := { s with failedAttempts := 0, lockedUntil := none }

def checkLockout (now : Nat) : DeviceStore × Except AuthFailure Unit :=
  match s.lockedUntil with
  | some until_ => if now < until_ then (s, .error .rateLimited) else (s.resetFailures, .ok ())
  | none => (s, .ok ())

def recordFailure (now : Nat) (original : AuthFailure) : DeviceStore × AuthFailure :=
  let failedAttempts := min (s.failedAttempts + 1) 255
  if MAX_FAILED_ATTEMPTS ≤ failedAttempts then
    ({ s with failedAttempts, lockedUntil := some (now + LOCKOUT_DURATION) }, .rateLimited)
  else ({ s with failedAttempts }, original)

def redeem (now : Readings) (code : String) : DeviceStore × Except AuthFailure Unit :=
  match s.checkLockout now.checked with
  | (s, .error failure) => (s, .error failure)
  | (s, .ok ()) => match s.pairing with
    | none =>
      let (s, failure) := s.recordFailure now.last .pairExpired
      (s, .error failure)
    | some pairing =>
      if pairing.expiresAt < now.expiry then
        let (s, failure) := { s with pairing := none }.recordFailure now.last .pairExpired
        (s, .error failure)
      else if pairing.code ≠ code then
        let (s, failure) := s.recordFailure now.last .failed
        (s, .error failure)
      else ({ s with pairing := none }.resetFailures, .ok ())

def consumePairing (digest : String → String) (now : Readings) (saves : Bool) (id token code deviceName : String) :
    DeviceStore × Except AuthFailure (DeviceRecord × String) :=
  match s.redeem now code with
  | (s, .error failure) => (s, .error failure)
  | (s, .ok ()) =>
    let record : DeviceRecord := {
      id
      name := sanitizeDeviceName deviceName
      tokenHash := digest token
      noiseFingerprint := none
      revocationEpoch := initialRevocationEpoch
      createdAt := unixSecs now.last
      lastSeenAt := unixSecs now.last
      grants := defaultGrants }
    let paired := { s with records := s.records ++ [record], rePairRequired := false }
    if saves then (paired.save true, .ok (record, token))
    else ({ paired with records := paired.records.dropLast, rePairRequired := s.rePairRequired }, .error .failed)

def consumeV2Pairing (now : Readings) (saves : Bool) (id code deviceName noiseFingerprint : String) :
    DeviceStore × Except AuthFailure DeviceRecord :=
  match s.redeem now code with
  | (s, .error failure) => (s, .error failure)
  | (s, .ok ()) =>
    let record : DeviceRecord := {
      id
      name := sanitizeDeviceName deviceName
      tokenHash := ""
      noiseFingerprint := some noiseFingerprint
      revocationEpoch := initialRevocationEpoch
      createdAt := unixSecs now.last
      lastSeenAt := unixSecs now.last
      grants := remoteV2DefaultGrants }
    let paired := { s with records := s.records ++ [record] }
    if saves then (paired.save true, .ok record)
    else ({ paired with records := paired.records.dropLast }, .error .failed)

/-- The part that the checks of both versions have in common: whether the device's credential is accepted. -/
def verify (now : Readings) (saves : Bool) (deviceId : String) (accepts : DeviceRecord → Bool) :
    DeviceStore × Except AuthFailure Bool :=
  match s.checkLockout now.checked with
  | (s, .error failure) => (s, .error failure)
  | (s, .ok ()) => match s.record? deviceId with
    | none =>
      let (s, failure) := s.recordFailure now.last .failed
      (s, .error failure)
    | some record =>
      if accepts record then
        ({ s with
          records := updateRecord deviceId (fun record => { record with lastSeenAt := unixSecs now.last })
            s.records }.resetFailures.save saves, .ok true)
      else
        let (s, failure) := s.recordFailure now.last .failed
        (s, .error failure)

def verifyToken (digest : String → String) (now : Readings) (saves : Bool) (deviceId token : String) :
    DeviceStore × Except AuthFailure Bool :=
  s.verify now saves deviceId fun record => record.tokenHash = digest token

def verifyV2Identity (now : Readings) (saves : Bool) (deviceId noiseFingerprint : String) :
    DeviceStore × Except AuthFailure Bool :=
  s.verify now saves deviceId fun record => record.noiseFingerprint = some noiseFingerprint

inductive UpdateError
  | unknownGrant | notFound | unsaved
  deriving DecidableEq

def updateGrants (saves : Bool) (deviceId : String) (grants : List String) :
    DeviceStore × Except UpdateError Nat :=
  if grants.any fun grant => !isKnownGrant grant then (s, .error .unknownGrant)
  else match s.record? deviceId with
    | none => (s, .error .notFound)
    | some record =>
      let epoch := nextEpoch record.revocationEpoch
      let s := { s with
        records := updateRecord deviceId (fun record => { record with grants, revocationEpoch := epoch }) s.records }
      if saves then (s.save true, .ok epoch) else (s, .error .unsaved)

def revoke (saves : Bool) (deviceId : String) : DeviceStore × Except UpdateError Unit :=
  let s := { s with records := s.records.filter fun record => record.id ≠ deviceId }
  if saves then (s.save true, .ok ()) else (s, .error .unsaved)

def resetForIdentityChange (saves : Bool) : DeviceStore × Except UpdateError Unit :=
  let s := { s with records := [], pairing := none, rePairRequired := true }
  if saves then (s.save true, .ok ()) else (s, .error .unsaved)

inductive Act
  | createPairing (now : Nat) (code : String)
  | consumePairing (now : Readings) (saves : Bool) (id token code deviceName : String)
  | consumeV2Pairing (now : Readings) (saves : Bool) (id code deviceName noiseFingerprint : String)
  | verifyToken (now : Readings) (saves : Bool) (deviceId token : String)
  | verifyV2Identity (now : Readings) (saves : Bool) (deviceId noiseFingerprint : String)
  | updateGrants (saves : Bool) (deviceId : String) (grants : List String)
  | revoke (saves : Bool) (deviceId : String)
  | resetForIdentityChange (saves : Bool)

inductive Answer
  | created
  | paired (record : DeviceRecord)
  | verified
  | updated (epoch : Nat)
  | done
  | refused (failure : AuthFailure)
  | failed (error : UpdateError)
  deriving DecidableEq

def Answer.ofAuth {α : Type} (f : α → Answer) : DeviceStore × Except AuthFailure α → DeviceStore × Answer
  | (s, .ok a) => (s, f a)
  | (s, .error failure) => (s, .refused failure)

def Answer.ofUpdate {α : Type} (f : α → Answer) : DeviceStore × Except UpdateError α → DeviceStore × Answer
  | (s, .ok a) => (s, f a)
  | (s, .error error) => (s, .failed error)

def Answer.isError : Answer → Bool
  | .refused _ | .failed _ => true
  | _ => false

def perform (digest : String → String) : Act → DeviceStore × Answer
  | .createPairing now code => (s.createPairingCode now code, .created)
  | .consumePairing now saves id token code deviceName =>
    Answer.ofAuth (fun paired => .paired paired.1) (s.consumePairing digest now saves id token code deviceName)
  | .consumeV2Pairing now saves id code deviceName noiseFingerprint =>
    Answer.ofAuth .paired (s.consumeV2Pairing now saves id code deviceName noiseFingerprint)
  | .verifyToken now saves deviceId token =>
    Answer.ofAuth (fun _ => .verified) (s.verifyToken digest now saves deviceId token)
  | .verifyV2Identity now saves deviceId noiseFingerprint =>
    Answer.ofAuth (fun _ => .verified) (s.verifyV2Identity now saves deviceId noiseFingerprint)
  | .updateGrants saves deviceId grants => Answer.ofUpdate .updated (s.updateGrants saves deviceId grants)
  | .revoke saves deviceId => Answer.ofUpdate (fun _ => .done) (s.revoke saves deviceId)
  | .resetForIdentityChange saves => Answer.ofUpdate (fun _ => .done) (s.resetForIdentityChange saves)

end Operations

def next (digest : String → String) (s : DeviceStore) (act : Act) : DeviceStore := (s.perform digest act).1

section Attempts

variable {s : DeviceStore} {digest : String → String} {now : Readings}

def Free (s : DeviceStore) (now : Nat) : Prop := ∀ end_ ∈ s.lockedUntil, end_ ≤ now

/-- The code is the one that is waited for, in time and with no lockout. -/
def Redeems (s : DeviceStore) (now : Readings) (code : String) : Prop :=
  s.Free now.checked ∧ ∃ pairing ∈ s.pairing, now.expiry ≤ pairing.expiresAt ∧ pairing.code = code

def Accepts (s : DeviceStore) (now : Readings) (deviceId : String) (accepts : DeviceRecord → Bool) : Prop :=
  s.Free now.checked ∧ ∃ record ∈ s.record? deviceId, accepts record = true

def unlocked (s : DeviceStore) : DeviceStore := if s.lockedUntil.isSome then s.resetFailures else s

/-- An attempt comes to nothing: there is a lockout, or it is counted. -/
def Refuses (s : DeviceStore) (now : Readings) (s' : DeviceStore) : Prop :=
  (¬s.Free now.checked ∧ s' = s) ∨ (s.Free now.checked ∧ ∃ pairing original, (pairing = s.pairing ∨ pairing = none) ∧
    s' = ({ s.unlocked with pairing }.recordFailure now.last original).1)

theorem unlocked_pairing : s.unlocked.pairing = s.pairing := by
  unfold unlocked
  split <;> rfl

theorem unlocked_records : s.unlocked.records = s.records := by
  unfold unlocked
  split <;> rfl

theorem checkLockout_of_free {now : Nat} (free : s.Free now) : s.checkLockout now = (s.unlocked, .ok ()) := by
  unfold checkLockout unlocked
  cases locked : s.lockedUntil with
  | none => rfl
  | some end_ =>
    dsimp only
    rw [if_neg (Nat.not_lt.2 (free end_ locked))]
    rfl

theorem checkLockout_of_not_free {now : Nat} (locked : ¬s.Free now) :
    s.checkLockout now = (s, .error .rateLimited) := by
  unfold Free at locked
  unfold checkLockout
  cases until_ : s.lockedUntil with
  | none =>
    rw [until_] at locked
    exact absurd (fun _ member => nomatch member) locked
  | some end_ =>
    rw [until_] at locked
    have still : now < end_ := Nat.lt_of_not_le fun le => locked fun _ same => Option.some.inj same ▸ le
    dsimp only
    rw [if_pos still]

theorem redeem_of_redeems {code : String} (redeems : s.Redeems now code) :
    s.redeem now code = ({ s with pairing := none }.resetFailures, .ok ()) := by
  obtain ⟨free, pairing, waited, live, same⟩ := redeems
  unfold redeem
  rw [checkLockout_of_free free]
  dsimp only
  rw [unlocked_pairing, waited]
  dsimp only
  rw [if_neg (Nat.not_lt.2 live), if_neg (not_not_intro same)]
  unfold unlocked
  split <;> rfl

theorem redeem_refused {code : String} (refused : ¬s.Redeems now code) :
    ∃ s' failure, s.redeem now code = (s', .error failure) ∧ s.Refuses now s' := by
  unfold redeem
  by_cases free : s.Free now.checked
  · rw [checkLockout_of_free free]
    dsimp only
    rw [unlocked_pairing]
    have counted (pairing : Option ActivePairing) (same : pairing = s.pairing ∨ pairing = none) (original : AuthFailure) :
        ∃ s' failure, (({ s.unlocked with pairing }.recordFailure now.last original).1,
          (.error ({ s.unlocked with pairing }.recordFailure now.last original).2 : Except AuthFailure Unit)) =
            (s', .error failure) ∧ s.Refuses now s' :=
      ⟨_, _, rfl, .inr ⟨free, pairing, original, same, rfl⟩⟩
    have kept := counted s.pairing (.inl rfl)
    have same : { s.unlocked with pairing := s.pairing } = s.unlocked := by
      unfold unlocked
      split <;> rfl
    rw [same] at kept
    cases waited : s.pairing with
    | none => exact kept _
    | some pairing =>
      dsimp only
      split
      · exact counted none (.inr rfl) _
      · rename_i live
        split
        · exact kept _
        · rename_i same
          exact absurd ⟨free, pairing, waited, Nat.not_lt.1 live, not_not.1 same⟩ refused
  · rw [checkLockout_of_not_free free]
    exact ⟨s, _, rfl, .inl ⟨free, rfl⟩⟩

theorem verify_of_accepts {saves : Bool} {deviceId : String} {accepts : DeviceRecord → Bool}
    (accepted : s.Accepts now deviceId accepts) : s.verify now saves deviceId accepts =
      ({ s with
        records := updateRecord deviceId (fun record => { record with lastSeenAt := unixSecs now.last })
          s.records }.resetFailures.save saves, .ok true) := by
  obtain ⟨free, record, found, right⟩ := accepted
  have found' : s.unlocked.record? deviceId = some record := by
    unfold record?
    rw [unlocked_records]
    exact found
  unfold verify
  rw [checkLockout_of_free free]
  dsimp only
  rw [found']
  dsimp only
  rw [if_pos right]
  unfold unlocked
  split <;> rfl

theorem verify_refused {saves : Bool} {deviceId : String} {accepts : DeviceRecord → Bool}
    (refused : ¬s.Accepts now deviceId accepts) :
    ∃ s' failure, s.verify now saves deviceId accepts = (s', .error failure) ∧ s.Refuses now s' := by
  unfold verify
  by_cases free : s.Free now.checked
  · have counted : s.Refuses now (s.unlocked.recordFailure now.last .failed).1 := by
      refine .inr ⟨free, s.pairing, .failed, .inl rfl, ?_⟩
      unfold unlocked
      split <;> rfl
    rw [checkLockout_of_free free]
    dsimp only
    cases found : s.unlocked.record? deviceId with
    | none => exact ⟨_, _, rfl, counted⟩
    | some record =>
      dsimp only
      split
      · rename_i right
        have found' : s.record? deviceId = some record := by
          unfold record?
          rw [← unlocked_records]
          exact found
        exact absurd ⟨free, record, found', right⟩ refused
      · exact ⟨_, _, rfl, counted⟩
  · rw [checkLockout_of_not_free free]
    exact ⟨s, _, rfl, .inl ⟨free, rfl⟩⟩

def Act.readings? : Act → Option Readings
  | .consumePairing now .. | .consumeV2Pairing now .. | .verifyToken now .. | .verifyV2Identity now .. => some now
  | _ => none

def Admits (digest : String → String) (s : DeviceStore) : Act → Prop
  | .consumePairing now _ _ _ code _ => s.Redeems now code
  | .consumeV2Pairing now _ _ code _ _ => s.Redeems now code
  | .verifyToken now _ deviceId token => s.Accepts now deviceId fun record => record.tokenHash = digest token
  | .verifyV2Identity now _ deviceId noiseFingerprint =>
    s.Accepts now deviceId fun record => record.noiseFingerprint = some noiseFingerprint
  | _ => False

theorem perform_refused {act : Act} (attempt : act.readings? = some now) (refused : ¬s.Admits digest act) :
    ∃ failure, (s.perform digest act).2 = .refused failure ∧ s.Refuses now (s.next digest act) := by
  cases act with
  | consumePairing now saves id token code deviceName =>
    cases attempt
    obtain ⟨s', failure, same, refuses⟩ := redeem_refused refused
    dsimp only [next, perform, consumePairing]
    rw [same]
    exact ⟨failure, rfl, refuses⟩
  | consumeV2Pairing now saves id code deviceName noiseFingerprint =>
    cases attempt
    obtain ⟨s', failure, same, refuses⟩ := redeem_refused refused
    dsimp only [next, perform, consumeV2Pairing]
    rw [same]
    exact ⟨failure, rfl, refuses⟩
  | verifyToken now saves deviceId token =>
    cases attempt
    obtain ⟨s', failure, same, refuses⟩ := @verify_refused _ _ saves _ _ refused
    dsimp only [next, perform, verifyToken]
    rw [same]
    exact ⟨failure, rfl, refuses⟩
  | verifyV2Identity now saves deviceId noiseFingerprint =>
    cases attempt
    obtain ⟨s', failure, same, refuses⟩ := @verify_refused _ _ saves _ _ refused
    dsimp only [next, perform, verifyV2Identity]
    rw [same]
    exact ⟨failure, rfl, refuses⟩
  | createPairing _ _ | updateGrants _ _ _ | revoke _ _ | resetForIdentityChange _ => exact nomatch attempt

end Attempts

end DeviceStore

end VibeLink.Remote
