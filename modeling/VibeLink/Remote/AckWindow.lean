import VibeLink.Relational.Maps
import Mathlib.Tactic.Common

/-! The window of terminal output that is sent and not yet acknowledged (`TerminalAckWindow` in
`remote/v2/wire.rs`). -/

namespace VibeLink.Remote

open VibeLink.Relational

def MAX_SEQUENCE_DOMAINS : Nat := 64

inductive TerminalBackpressureReason
  | perStream
  | connection
  | resyncRequired
  deriving DecidableEq

inductive TerminalRecordDecision
  | recorded
  | backpressured (reason : TerminalBackpressureReason)
  deriving DecidableEq

inductive TerminalFlowError
  | invalidStreamId
  | streamLimitExceeded (maxStreams : Nat)
  | sequenceNotIncreasing (streamId highestSent received : UInt64)
  | ackAhead (streamId highestSent received : UInt64)
  | ackBehind (streamId lastAcknowledged received : UInt64)
  /-- No error: an `expect` that fails, or a subtraction below zero. -/
  | panicked
  deriving DecidableEq

structure TerminalAckStream where
  sent : List (UInt64 × Nat) := []
  lastAcknowledgedSequence : UInt64 := 0
  highestSentSequence : UInt64 := 0
  unackedBytes : Nat := 0
  requiresResync : Bool := false
  deriving DecidableEq

structure TerminalAckWindow where
  maxUnackedBytesPerStream : Nat
  maxUnackedBytesPerConnection : Nat
  connectionUnackedBytes : Nat
  streams : AList fun _ : UInt64 => TerminalAckStream

/-- `a - b` -/
def checkedSub (a b : Nat) : Except TerminalFlowError Nat := if b ≤ a then .ok (a - b) else .error .panicked

namespace TerminalAckWindow

def new (maxUnackedBytesPerStream maxUnackedBytesPerConnection : Nat) : Except String TerminalAckWindow :=
  if maxUnackedBytesPerStream = 0 ∨ maxUnackedBytesPerConnection = 0 then
    .error "remote-v2 terminal flow bounds must be non-zero"
  else .ok ⟨maxUnackedBytesPerStream, maxUnackedBytesPerConnection, 0, ∅⟩

def put (w : TerminalAckWindow) (streamId : UInt64) (stream : TerminalAckStream) : TerminalAckWindow :=
  { w with streams := w.streams.insert streamId stream }

def ensureStream (w : TerminalAckWindow) (streamId : UInt64) :
    Except TerminalFlowError (TerminalAckStream × TerminalAckWindow) :=
  if streamId = 0 then .error .invalidStreamId
  else do
    let w ←
      if (w.streams.lookup streamId).isSome then .ok w
      else if MAX_SEQUENCE_DOMAINS ≤ w.streams.entries.length then
        .error (.streamLimitExceeded MAX_SEQUENCE_DOMAINS)
      else .ok (w.put streamId {})
    match w.streams.lookup streamId with
    | none => .error .panicked
    | some stream => .ok (stream, w)

/-- Why a record of `bytes` is put off. -/
def backpressure (w : TerminalAckWindow) (stream : TerminalAckStream) (bytes : Nat) :
    Option TerminalBackpressureReason :=
  if w.maxUnackedBytesPerStream - stream.unackedBytes < bytes then some .perStream
  else if w.maxUnackedBytesPerConnection - w.connectionUnackedBytes < bytes then some .connection
  else none

def recordSent (w : TerminalAckWindow) (streamId sequence : UInt64) (bytes : Nat) :
    Except TerminalFlowError (TerminalRecordDecision × TerminalAckWindow) :=
  if streamId = 0 then .error .invalidStreamId
  else
    let highestSent := (w.streams.lookup streamId).elim 0 TerminalAckStream.highestSentSequence
    if sequence = 0 ∨ sequence ≤ highestSent then
      .error (.sequenceNotIncreasing streamId highestSent sequence)
    else do
      let (stream, w) ← w.ensureStream streamId
      if stream.requiresResync ∧ 0 < bytes then return (.backpressured .resyncRequired, w)
      else match w.backpressure stream bytes with
        | some reason => return (.backpressured reason, w.put streamId { stream with requiresResync := true })
        | none =>
          let stream :=
            { stream with
              highestSentSequence := sequence
              unackedBytes := stream.unackedBytes + bytes
              sent := if 0 < bytes then stream.sent ++ [(sequence, bytes)] else stream.sent }
          return (.recorded,
            { w.put streamId stream with connectionUnackedBytes := w.connectionUnackedBytes + bytes })

/-- The bytes of the entries that an acknowledgement covers, and the entries behind. -/
def releaseUpTo (sequence : UInt64) : List (UInt64 × Nat) → Nat × List (UInt64 × Nat)
  | [] => (0, [])
  | (sentSequence, bytes) :: sent =>
    if sentSequence ≤ sequence then (bytes + (releaseUpTo sequence sent).1, (releaseUpTo sequence sent).2)
    else (0, (sentSequence, bytes) :: sent)

def ack (w : TerminalAckWindow) (streamId sequence : UInt64) :
    Except TerminalFlowError (Nat × TerminalAckWindow) :=
  if streamId = 0 then .error .invalidStreamId
  else
    let highestSent := (w.streams.lookup streamId).elim 0 TerminalAckStream.highestSentSequence
    let lastAcknowledged := (w.streams.lookup streamId).elim 0 TerminalAckStream.lastAcknowledgedSequence
    if highestSent < sequence then .error (.ackAhead streamId highestSent sequence)
    else if sequence < lastAcknowledged then .error (.ackBehind streamId lastAcknowledged sequence)
    else if sequence = lastAcknowledged then .ok (0, w)
    else match w.streams.lookup streamId with
      | none => .error .panicked
      | some stream => do
        let (released, sent) := releaseUpTo sequence stream.sent
        let unackedBytes ← checkedSub stream.unackedBytes released
        let connectionUnackedBytes ← checkedSub w.connectionUnackedBytes released
        let stream := { stream with sent, lastAcknowledgedSequence := sequence, unackedBytes }
        return (released, { w.put streamId stream with connectionUnackedBytes })

def markGap (w : TerminalAckWindow) (streamId : UInt64) :
    Except TerminalFlowError (Nat × TerminalAckWindow) := do
  let (stream, w) ← w.ensureStream streamId
  let released := stream.unackedBytes
  let connectionUnackedBytes ← checkedSub w.connectionUnackedBytes released
  let stream := { stream with sent := [], unackedBytes := 0, requiresResync := true }
  return (released, { w.put streamId stream with connectionUnackedBytes })

def removeStream (w : TerminalAckWindow) (streamId : UInt64) :
    Except TerminalFlowError (Nat × TerminalAckWindow) :=
  if streamId = 0 then .error .invalidStreamId
  else match w.streams.lookup streamId with
    | none => .ok (0, w)
    | some stream => do
      let connectionUnackedBytes ← checkedSub w.connectionUnackedBytes stream.unackedBytes
      return (stream.unackedBytes, { w with streams := w.streams.erase streamId, connectionUnackedBytes })

def completeResync (w : TerminalAckWindow) (streamId : UInt64) : Bool × TerminalAckWindow :=
  match w.streams.lookup streamId with
  | none => (false, w)
  | some stream => (stream.requiresResync, w.put streamId { stream with requiresResync := false })

def requiresResync (w : TerminalAckWindow) (streamId : UInt64) : Bool :=
  (w.streams.lookup streamId).any TerminalAckStream.requiresResync

end TerminalAckWindow

inductive WindowCall
  | recordSent (streamId sequence : UInt64) (bytes : Nat)
  | ack (streamId sequence : UInt64)
  | markGap (streamId : UInt64)
  | removeStream (streamId : UInt64)
  | completeResync (streamId : UInt64)

def WindowCall.streamId : WindowCall → UInt64
  | .recordSent streamId _ _ | .ack streamId _ | .markGap streamId | .removeStream streamId
  | .completeResync streamId => streamId

inductive WindowAnswer
  | decided (decision : TerminalRecordDecision)
  | released (bytes : Nat)
  | resynced (wasRequired : Bool)
  | failed (error : TerminalFlowError)
  deriving DecidableEq

namespace TerminalAckWindow

def answer {α : Type} (w : TerminalAckWindow) (f : α → WindowAnswer) :
    Except TerminalFlowError (α × TerminalAckWindow) → WindowAnswer × TerminalAckWindow
  | .ok (value, w) => (f value, w)
  | .error e => (.failed e, w)

def perform (w : TerminalAckWindow) : WindowCall → WindowAnswer × TerminalAckWindow
  | .recordSent streamId sequence bytes => w.answer .decided (w.recordSent streamId sequence bytes)
  | .ack streamId sequence => w.answer .released (w.ack streamId sequence)
  | .markGap streamId => w.answer .released (w.markGap streamId)
  | .removeStream streamId => w.answer .released (w.removeStream streamId)
  | .completeResync streamId =>
    let (wasRequired, w) := w.completeResync streamId
    (.resynced wasRequired, w)

def next (w : TerminalAckWindow) (call : WindowCall) : TerminalAckWindow := (w.perform call).2

def run (w : TerminalAckWindow) (calls : List WindowCall) : TerminalAckWindow := calls.foldl next w

end TerminalAckWindow

/-- The entries of a stream, and the bytes that they stand for. -/
structure TerminalAckStream.Recorded (stream : TerminalAckStream) : Prop where
  acknowledged : stream.lastAcknowledgedSequence ≤ stream.highestSentSequence
  unacked : stream.unackedBytes = (stream.sent.map Prod.snd).sum
  increasing : stream.sent.Pairwise fun entry later => entry.1 < later.1
  above : ∀ entry ∈ stream.sent, stream.lastAcknowledgedSequence < entry.1
  highest : ∀ entry ∈ stream.sent, entry.1 ≤ stream.highestSentSequence

theorem TerminalAckStream.Recorded.snoc {stream : TerminalAckStream} (recorded : stream.Recorded) {sequence : UInt64}
    (increases : stream.highestSentSequence < sequence) (bytes : Nat) :
    TerminalAckStream.Recorded { stream with
      highestSentSequence := sequence
      unackedBytes := stream.unackedBytes + bytes
      sent := if 0 < bytes then stream.sent ++ [(sequence, bytes)] else stream.sent } := by
  have le := UInt64.le_of_lt increases
  cases bytes with
  | zero =>
    exact ⟨UInt64.le_trans recorded.acknowledged le, recorded.unacked, recorded.increasing, recorded.above,
      fun entry member => UInt64.le_trans (recorded.highest entry member) le⟩
  | succ bytes =>
    rw [if_pos (Nat.succ_pos bytes)]
    refine ⟨UInt64.le_trans recorded.acknowledged le, ?_, ?_, ?_, ?_⟩
    · rw [List.map_append, List.sum_append, ← recorded.unacked]
      rfl
    · rw [List.pairwise_append]
      refine ⟨recorded.increasing, List.pairwise_singleton _ _, fun entry member last here => ?_⟩
      rw [List.mem_singleton.1 here]
      exact UInt64.lt_of_le_of_lt (recorded.highest entry member) increases
    · intro entry member
      cases List.mem_append.1 member with
      | inl before => exact recorded.above entry before
      | inr last =>
        rw [List.mem_singleton.1 last]
        exact UInt64.lt_of_le_of_lt recorded.acknowledged increases
    · intro entry member
      cases List.mem_append.1 member with
      | inl before => exact UInt64.le_trans (recorded.highest entry before) le
      | inr last =>
        rw [List.mem_singleton.1 last]
        exact UInt64.le_refl _

theorem TerminalAckStream.Recorded.default : TerminalAckStream.Recorded {} :=
  ⟨by decide, rfl, .nil, fun _ member => (List.not_mem_nil member).elim,
    fun _ member => (List.not_mem_nil member).elim⟩

/-- The counters of the window are the sums that they stand for, within the limits. -/
structure TerminalAckWindow.Balanced (w : TerminalAckWindow) : Prop where
  connection : w.connectionUnackedBytes = total TerminalAckStream.unackedBytes w.streams
  streams : ∀ streamId stream, w.streams.lookup streamId = some stream →
    stream.Recorded ∧ stream.unackedBytes ≤ w.maxUnackedBytesPerStream
  within : w.connectionUnackedBytes ≤ w.maxUnackedBytesPerConnection

/-- The windows differ in one stream at most. -/
structure Apart (streamId : UInt64) (w w' : TerminalAckWindow) : Prop where
  others : ∀ other, other ≠ streamId → w'.streams.lookup other = w.streams.lookup other
  perStream : w'.maxUnackedBytesPerStream = w.maxUnackedBytesPerStream
  perConnection : w'.maxUnackedBytesPerConnection = w.maxUnackedBytesPerConnection

theorem Apart.refl (streamId : UInt64) (w : TerminalAckWindow) : Apart streamId w w := ⟨fun _ _ => rfl, rfl, rfl⟩

theorem Apart.trans {streamId : UInt64} {w w' w'' : TerminalAckWindow} (h : Apart streamId w w')
    (h' : Apart streamId w' w'') : Apart streamId w w'' where
  others other ne := (h'.others other ne).trans (h.others other ne)
  perStream := h'.perStream.trans h.perStream
  perConnection := h'.perConnection.trans h.perConnection

theorem Apart.put (w : TerminalAckWindow) (streamId : UInt64) (stream : TerminalAckStream)
    (connectionUnackedBytes : Nat) :
    Apart streamId w { w.put streamId stream with connectionUnackedBytes } where
  others other ne := by rw [TerminalAckWindow.put, lookup_insert, if_neg ne]
  perStream := rfl
  perConnection := rfl

/-- No panic, and the balance of the window is kept. -/
def Keeps {α : Type} (streamId : UInt64) (w : TerminalAckWindow) :
    Except TerminalFlowError (α × TerminalAckWindow) → Prop
  | .ok (_, w') => w'.Balanced ∧ Apart streamId w w'
  | .error e => e ≠ .panicked

namespace TerminalAckWindow

variable {w : TerminalAckWindow} {streamId : UInt64} {stream : TerminalAckStream}

theorem Balanced.put (balanced : w.Balanced) (recorded : stream.Recorded)
    (fits : stream.unackedBytes ≤ w.maxUnackedBytesPerStream) {connectionUnackedBytes : Nat}
    (connection : connectionUnackedBytes + (w.streams.lookup streamId).elim 0 TerminalAckStream.unackedBytes =
      w.connectionUnackedBytes + stream.unackedBytes)
    (within : connectionUnackedBytes ≤ w.maxUnackedBytesPerConnection) :
    Balanced { w.put streamId stream with connectionUnackedBytes } where
  connection := by
    have inserted := total_insert TerminalAckStream.unackedBytes w.streams streamId stream
    have before := balanced.connection
    change connectionUnackedBytes = total _ (w.streams.insert streamId stream)
    omega
  streams other stream' found := by
    rw [TerminalAckWindow.put, lookup_insert] at found
    split at found
    · cases found
      exact ⟨recorded, fits⟩
    · exact balanced.streams other stream' found
  within := within

/-- What `ensureStream` answers. -/
inductive Ensured (w : TerminalAckWindow) (streamId : UInt64) :
    Except TerminalFlowError (TerminalAckStream × TerminalAckWindow) → Prop
  | failed (e : TerminalFlowError) (calm : e ≠ .panicked) : Ensured w streamId (.error e)
  | found (stream : TerminalAckStream) (found : w.streams.lookup streamId = some stream) :
      Ensured w streamId (.ok (stream, w))
  | created (fresh : w.streams.lookup streamId = none) : Ensured w streamId (.ok ({}, w.put streamId {}))

theorem ensured (w : TerminalAckWindow) (streamId : UInt64) : Ensured w streamId (w.ensureStream streamId) := by
  unfold ensureStream
  split
  · exact .failed _ (by decide)
  · cases found : w.streams.lookup streamId with
    | some stream =>
      simp only [Option.isSome_some, if_true, bind, Except.bind, found]
      exact .found stream found
    | none =>
      simp only [Option.isSome_none, Bool.false_eq_true, if_false]
      split
      · exact .failed _ (by decide)
      · have inserted : (w.put streamId {}).streams.lookup streamId = some {} := AList.lookup_insert _
        simp only [bind, Except.bind, inserted]
        exact .created found

/-- A balanced window with the stream in it. -/
structure Entered (w : TerminalAckWindow) (streamId : UInt64) (stream : TerminalAckStream)
    (w' : TerminalAckWindow) : Prop where
  balanced : w'.Balanced
  apart : Apart streamId w w'
  entry : w'.streams.lookup streamId = some stream
  highest : (w.streams.lookup streamId).elim 0 TerminalAckStream.highestSentSequence =
    stream.highestSentSequence

theorem Ensured.entered {stream : TerminalAckStream} {w' : TerminalAckWindow} (balanced : w.Balanced)
    (ensured : Ensured w streamId (.ok (stream, w'))) : Entered w streamId stream w' := by
  cases ensured with
  | found _ found => exact ⟨balanced, Apart.refl _ _, found, by rw [found]; rfl⟩
  | created fresh =>
    refine ⟨balanced.put .default (Nat.zero_le _) ?_ balanced.within, Apart.put w _ _ _,
      AList.lookup_insert _, ?_⟩
    · rw [fresh]
      rfl
    · rw [fresh]
      rfl

theorem Entered.keeps {α : Type} {w' : TerminalAckWindow} {stream' : TerminalAckStream}
    {connectionUnackedBytes : Nat} (entered : Entered w streamId stream w') (value : α)
    (recorded : stream'.Recorded) (fits : stream'.unackedBytes ≤ w'.maxUnackedBytesPerStream)
    (connection : connectionUnackedBytes + stream.unackedBytes =
      w'.connectionUnackedBytes + stream'.unackedBytes)
    (within : connectionUnackedBytes ≤ w'.maxUnackedBytesPerConnection) :
    Keeps streamId w (.ok (value, { w'.put streamId stream' with connectionUnackedBytes })) := by
  refine ⟨entered.balanced.put recorded fits ?_ within, entered.apart.trans (Apart.put w' _ _ _)⟩
  rw [entered.entry]
  exact connection

theorem backpressure_eq_none {bytes : Nat} (none : w.backpressure stream bytes = none) :
    bytes ≤ w.maxUnackedBytesPerStream - stream.unackedBytes ∧
      bytes ≤ w.maxUnackedBytesPerConnection - w.connectionUnackedBytes := by
  unfold backpressure at none
  split at none
  · cases none
  · rename_i perStream
    split at none
    · cases none
    · rename_i perConnection
      exact ⟨Nat.le_of_not_lt perStream, Nat.le_of_not_lt perConnection⟩

theorem recordSent_keeps (balanced : w.Balanced) (streamId sequence : UInt64) (bytes : Nat) :
    Keeps streamId w (w.recordSent streamId sequence bytes) := by
  unfold recordSent
  split
  · exact TerminalFlowError.noConfusion
  · dsimp only
    split
    · exact TerminalFlowError.noConfusion
    · rename_i increases
      have ensured := w.ensured streamId
      cases h : w.ensureStream streamId with
      | error e =>
        rw [h] at ensured
        cases ensured
        assumption
      | ok entry =>
        rw [h] at ensured
        obtain ⟨stream, w'⟩ := entry
        have entered := ensured.entered balanced
        obtain ⟨recorded, fits⟩ := entered.balanced.streams streamId stream entered.entry
        rw [entered.highest] at increases
        obtain ⟨nonzero, increases⟩ := not_or.1 increases
        simp only [bind, Except.bind]
        split
        · exact ⟨entered.balanced, entered.apart⟩
        · cases reason : w'.backpressure stream bytes with
          | some reason =>
            exact entered.keeps _ ⟨recorded.acknowledged, recorded.unacked, recorded.increasing, recorded.above,
              recorded.highest⟩ fits rfl entered.balanced.within
          | none =>
            obtain ⟨perStream, perConnection⟩ := backpressure_eq_none reason
            have within := entered.balanced.within
            refine entered.keeps _ (recorded.snoc (UInt64.not_le.1 increases) bytes) ?_ ?_ ?_
            · dsimp only
              omega
            · dsimp only
              omega
            · omega

theorem releaseUpTo_sum (sequence : UInt64) (sent : List (UInt64 × Nat)) :
    (releaseUpTo sequence sent).1 + ((releaseUpTo sequence sent).2.map Prod.snd).sum =
      (sent.map Prod.snd).sum := by
  induction sent with
  | nil => rfl
  | cons entry sent ih =>
    rw [releaseUpTo]
    split
    · simp only [List.map_cons, List.sum_cons]
      omega
    · simp

theorem releaseUpTo_sublist (sequence : UInt64) (sent : List (UInt64 × Nat)) :
    (releaseUpTo sequence sent).2.Sublist sent := by
  induction sent with
  | nil => exact .slnil
  | cons entry sent ih =>
    rw [releaseUpTo]
    split
    · exact ih.cons _
    · exact .refl _

theorem lt_of_mem_releaseUpTo {sequence : UInt64} {sent : List (UInt64 × Nat)}
    (increasing : sent.Pairwise fun entry later => entry.1 < later.1) :
    ∀ entry ∈ (releaseUpTo sequence sent).2, sequence < entry.1 := by
  induction sent with
  | nil => simp [releaseUpTo]
  | cons first sent ih =>
    obtain ⟨before, increasing⟩ := List.pairwise_cons.1 increasing
    rw [releaseUpTo]
    split
    · exact ih increasing
    · rename_i behind
      have behind := UInt64.not_le.1 behind
      intro entry member
      cases List.mem_cons.1 member with
      | inl here => exact here ▸ behind
      | inr later => exact UInt64.lt_trans behind (before entry later)

theorem ack_keeps (balanced : w.Balanced) (streamId sequence : UInt64) :
    Keeps streamId w (w.ack streamId sequence) := by
  unfold ack
  split
  · exact TerminalFlowError.noConfusion
  · dsimp only
    split
    · exact TerminalFlowError.noConfusion
    · rename_i sent
      split
      · exact TerminalFlowError.noConfusion
      · split
        · exact ⟨balanced, Apart.refl _ _⟩
        · rename_i behind ne
          cases found : w.streams.lookup streamId with
          | none =>
            rw [found] at sent ne
            exact absurd (UInt64.le_antisymm (UInt64.not_lt.1 sent) UInt64.zero_le) ne
          | some stream =>
            rw [found] at sent behind ne
            obtain ⟨recorded, fits⟩ := balanced.streams streamId stream found
            have entered : Entered w streamId stream w :=
              ⟨balanced, Apart.refl _ _, found, by rw [found]; rfl⟩
            have sum := releaseUpTo_sum sequence stream.sent
            rw [← recorded.unacked] at sum
            have covered := le_total_of_lookup TerminalAckStream.unackedBytes found
            rw [← balanced.connection] at covered
            have within := balanced.within
            have first : checkedSub stream.unackedBytes (releaseUpTo sequence stream.sent).1 =
                .ok (stream.unackedBytes - (releaseUpTo sequence stream.sent).1) := if_pos (by omega)
            have second : checkedSub w.connectionUnackedBytes (releaseUpTo sequence stream.sent).1 =
                .ok (w.connectionUnackedBytes - (releaseUpTo sequence stream.sent).1) := if_pos (by omega)
            simp only [first, second, bind, Except.bind]
            refine entered.keeps _ ⟨UInt64.not_lt.1 sent, ?_, ?_, ?_, ?_⟩ ?_ ?_ ?_
            · dsimp only
              omega
            · exact recorded.increasing.sublist (releaseUpTo_sublist _ _)
            · exact lt_of_mem_releaseUpTo recorded.increasing
            · intro entry member
              exact recorded.highest entry ((releaseUpTo_sublist _ _).subset member)
            · dsimp only
              omega
            · dsimp only
              omega
            · omega

theorem markGap_keeps (balanced : w.Balanced) (streamId : UInt64) : Keeps streamId w (w.markGap streamId) := by
  unfold markGap
  have ensured := w.ensured streamId
  cases h : w.ensureStream streamId with
  | error e =>
    rw [h] at ensured
    cases ensured
    assumption
  | ok entry =>
    rw [h] at ensured
    obtain ⟨stream, w'⟩ := entry
    have entered := ensured.entered balanced
    obtain ⟨recorded, fits⟩ := entered.balanced.streams streamId stream entered.entry
    have covered := le_total_of_lookup TerminalAckStream.unackedBytes entered.entry
    rw [← entered.balanced.connection] at covered
    have within := entered.balanced.within
    have rest : checkedSub w'.connectionUnackedBytes stream.unackedBytes =
        .ok (w'.connectionUnackedBytes - stream.unackedBytes) := if_pos covered
    simp only [rest, bind, Except.bind]
    refine entered.keeps _ ⟨recorded.acknowledged, rfl, .nil, ?_, ?_⟩ (Nat.zero_le _) ?_ ?_
    · exact fun _ member => (List.not_mem_nil member).elim
    · exact fun _ member => (List.not_mem_nil member).elim
    · exact Nat.sub_add_cancel covered
    · exact Nat.le_trans (Nat.sub_le _ _) within

theorem removeStream_keeps (balanced : w.Balanced) (streamId : UInt64) :
    Keeps streamId w (w.removeStream streamId) := by
  unfold removeStream
  split
  · exact TerminalFlowError.noConfusion
  · split
    · exact ⟨balanced, .refl _ _⟩
    · rename_i stream found
      have covered := le_total_of_lookup TerminalAckStream.unackedBytes found
      rw [← balanced.connection] at covered
      have rest : checkedSub w.connectionUnackedBytes stream.unackedBytes =
          .ok (w.connectionUnackedBytes - stream.unackedBytes) := if_pos covered
      simp only [rest, bind, Except.bind]
      refine ⟨⟨?_, ?_, Nat.le_trans (Nat.sub_le _ _) balanced.within⟩, ⟨?_, rfl, rfl⟩⟩
      · have erased := total_erase TerminalAckStream.unackedBytes w.streams streamId
        have before := balanced.connection
        rw [found, Option.elim_some] at erased
        dsimp only
        omega
      · intro other stream' here
        rw [lookup_erase] at here
        split at here
        · cases here
        · exact balanced.streams other stream' here
      · intro other ne
        rw [lookup_erase, if_neg ne]

theorem completeResync_keeps (balanced : w.Balanced) (streamId : UInt64) :
    Keeps streamId w (.ok (w.completeResync streamId)) := by
  unfold completeResync
  split
  · exact ⟨balanced, .refl _ _⟩
  · rename_i stream found
    obtain ⟨recorded, fits⟩ := balanced.streams streamId stream found
    have entered : Entered w streamId stream w := ⟨balanced, .refl _ _, found, by rw [found]; rfl⟩
    exact entered.keeps _ ⟨recorded.acknowledged, recorded.unacked, recorded.increasing, recorded.above,
      recorded.highest⟩ fits rfl balanced.within

theorem requiresResync_put (w : TerminalAckWindow) (streamId : UInt64) (stream : TerminalAckStream)
    (connectionUnackedBytes : Nat) :
    requiresResync { w.put streamId stream with connectionUnackedBytes } streamId = stream.requiresResync := by
  rw [requiresResync, put, AList.lookup_insert]
  rfl

theorem Ensured.requiresResync {w' : TerminalAckWindow} (ensured : Ensured w streamId (.ok (stream, w'))) :
    stream.requiresResync = w.requiresResync streamId ∧ w'.requiresResync streamId = w.requiresResync streamId := by
  cases ensured with
  | found _ found => exact ⟨by rw [TerminalAckWindow.requiresResync, found]; rfl, rfl⟩
  | created fresh =>
    have before : w.requiresResync streamId = false := by rw [TerminalAckWindow.requiresResync, fresh]; rfl
    exact ⟨before.symm, (requiresResync_put w streamId {} w.connectionUnackedBytes).trans before.symm⟩

theorem recordSent_fenced {sequence : UInt64} {bytes : Nat} {decision : TerminalRecordDecision}
    {w' : TerminalAckWindow} (h : w.recordSent streamId sequence bytes = .ok (decision, w')) :
    (w.requiresResync streamId → w'.requiresResync streamId ∧ (0 < bytes → decision ≠ .recorded)) ∧
      (decision ≠ .recorded → w'.requiresResync streamId) := by
  unfold recordSent at h
  split at h
  · cases h
  · dsimp only at h
    split at h
    · cases h
    · have ensured := w.ensured streamId
      cases entry : w.ensureStream streamId with
      | error e =>
        rw [entry] at h
        cases h
      | ok entered =>
        rw [entry] at h ensured
        obtain ⟨stream, entered⟩ := entered
        obtain ⟨same, same'⟩ := ensured.requiresResync
        simp only [bind, Except.bind] at h
        split at h
        · rename_i fenced
          cases h
          rw [same] at fenced
          exact ⟨fun _ => ⟨same'.trans fenced.1, fun _ => by simp⟩, fun _ => same'.trans fenced.1⟩
        · rename_i open'
          cases reason : entered.backpressure stream bytes with
          | some reason =>
            rw [reason] at h
            cases h
            have fenced : requiresResync (entered.put streamId { stream with requiresResync := true }) streamId :=
              requiresResync_put entered streamId _ entered.connectionUnackedBytes
            exact ⟨fun _ => ⟨fenced, fun _ => by simp⟩, fun _ => fenced⟩
          | none =>
            rw [reason] at h
            cases h
            refine ⟨fun fenced => ?_, fun recorded => absurd rfl recorded⟩
            rw [requiresResync_put]
            exact ⟨same.trans fenced, fun positive => absurd ⟨same.trans fenced, positive⟩ open'⟩

theorem ack_fenced {sequence : UInt64} {released : Nat} {w' : TerminalAckWindow}
    (h : w.ack streamId sequence = .ok (released, w')) :
    w'.requiresResync streamId = w.requiresResync streamId := by
  unfold ack at h
  split at h
  · cases h
  · dsimp only at h
    split at h
    · cases h
    · split at h
      · cases h
      · split at h
        · cases h
          rfl
        · cases found : w.streams.lookup streamId with
          | none =>
            rw [found] at h
            cases h
          | some stream =>
            rw [found] at h
            unfold checkedSub at h
            simp only [bind, Except.bind] at h
            split at h
            · cases h
            · split at h
              · cases h
              · cases h
                rw [requiresResync_put, requiresResync, found]
                rfl

theorem markGap_fenced {released : Nat} {w' : TerminalAckWindow} (h : w.markGap streamId = .ok (released, w')) :
    w'.requiresResync streamId := by
  unfold markGap at h
  cases entry : w.ensureStream streamId with
  | error e =>
    rw [entry] at h
    cases h
  | ok entered =>
    rw [entry] at h
    simp only [bind, Except.bind] at h
    split at h
    · cases h
    · cases h
      exact requiresResync_put _ _ _ _

/-- A call keeps the balance and the other streams, and does not panic. -/
structure Sound (w : TerminalAckWindow) (call : WindowCall) : Prop where
  balanced : (w.next call).Balanced
  apart : Apart call.streamId w (w.next call)
  calm : (w.perform call).1 ≠ .failed .panicked

theorem Sound.of_keeps {α : Type} {call : WindowCall} {f : α → WindowAnswer}
    {result : Except TerminalFlowError (α × TerminalAckWindow)} (balanced : w.Balanced)
    (performs : w.perform call = w.answer f result) (answers : ∀ value e, f value ≠ .failed e)
    (keeps : Keeps call.streamId w result) : Sound w call := by
  cases result with
  | ok result =>
    have state : w.next call = result.2 := congrArg Prod.snd performs
    refine ⟨state ▸ keeps.1, state ▸ keeps.2, ?_⟩
    rw [performs]
    exact answers _ _
  | error e =>
    have state : w.next call = w := congrArg Prod.snd performs
    refine ⟨state.symm ▸ balanced, state.symm ▸ .refl _ _, ?_⟩
    rw [performs]
    intro panicked
    cases panicked
    exact keeps rfl

theorem Balanced.sound (balanced : w.Balanced) (call : WindowCall) : Sound w call := by
  cases call with
  | recordSent streamId sequence bytes =>
    exact .of_keeps balanced rfl (fun _ _ => WindowAnswer.noConfusion) (recordSent_keeps balanced _ _ _)
  | ack streamId sequence =>
    exact .of_keeps balanced rfl (fun _ _ => WindowAnswer.noConfusion) (ack_keeps balanced _ _)
  | markGap streamId =>
    exact .of_keeps balanced rfl (fun _ _ => WindowAnswer.noConfusion) (markGap_keeps balanced _)
  | removeStream streamId =>
    exact .of_keeps balanced rfl (fun _ _ => WindowAnswer.noConfusion) (removeStream_keeps balanced _)
  | completeResync streamId =>
    have keeps := completeResync_keeps balanced streamId
    exact ⟨keeps.1, keeps.2, WindowAnswer.noConfusion⟩

end TerminalAckWindow

def Fences (w : TerminalAckWindow) : WindowCall → Prop
  | .recordSent streamId sequence bytes =>
    ∃ reason, (w.perform (.recordSent streamId sequence bytes)).1 = .decided (.backpressured reason)
  | .markGap streamId => ∃ bytes, (w.perform (.markGap streamId)).1 = .released bytes
  | _ => False

def Lifts (streamId : UInt64) (call : WindowCall) : Prop :=
  call = .completeResync streamId ∨ call = .removeStream streamId

namespace TerminalAckWindow

variable {w : TerminalAckWindow} {streamId : UInt64}

theorem requiresResync_of_fences {call : WindowCall} (fences : Fences w call) :
    (w.next call).requiresResync call.streamId := by
  cases call with
  | recordSent streamId sequence bytes =>
    obtain ⟨reason, answered⟩ := fences
    cases result : w.recordSent streamId sequence bytes with
    | error e =>
      rw [perform, result] at answered
      cases answered
    | ok result' =>
      rw [next, perform, result]
      rw [perform, result] at answered
      exact (recordSent_fenced result).2 (by simp_all [answer])
  | markGap streamId =>
    obtain ⟨released, answered⟩ := fences
    cases result : w.markGap streamId with
    | error e =>
      rw [perform, result] at answered
      cases answered
    | ok result' =>
      rw [next, perform, result]
      exact markGap_fenced result
  | ack streamId sequence => exact fences.elim
  | removeStream streamId => exact fences.elim
  | completeResync streamId => exact fences.elim

theorem requiresResync_next (balanced : w.Balanced) {call : WindowCall} (stays : ¬Lifts streamId call)
    (fenced : w.requiresResync streamId) : (w.next call).requiresResync streamId := by
  cases Decidable.em (streamId = call.streamId) with
  | inr ne =>
    rw [requiresResync, (balanced.sound call).apart.others streamId ne]
    exact fenced
  | inl same =>
    cases same
    cases call with
    | recordSent streamId sequence bytes =>
      cases result : w.recordSent streamId sequence bytes with
      | error e =>
        rw [next, perform, result]
        exact fenced
      | ok result' =>
        rw [next, perform, result]
        exact ((recordSent_fenced result).1 fenced).1
    | ack streamId sequence =>
      cases result : w.ack streamId sequence with
      | error e =>
        rw [next, perform, result]
        exact fenced
      | ok result' =>
        rw [next, perform, result]
        exact (ack_fenced result).trans fenced
    | markGap streamId =>
      cases result : w.markGap streamId with
      | error e =>
        rw [next, perform, result]
        exact fenced
      | ok result' =>
        rw [next, perform, result]
        exact markGap_fenced result
    | removeStream streamId => exact absurd (.inr rfl) stays
    | completeResync streamId => exact absurd (.inl rfl) stays

theorem not_recorded_of_fenced (fenced : w.requiresResync streamId) (sequence : UInt64) {bytes : Nat}
    (positive : 0 < bytes) : (w.perform (.recordSent streamId sequence bytes)).1 ≠ .decided .recorded := by
  cases result : w.recordSent streamId sequence bytes with
  | error e =>
    rw [perform, result]
    exact WindowAnswer.noConfusion
  | ok result' =>
    have refused := ((recordSent_fenced result).1 fenced).2 positive
    rw [perform, result]
    intro recorded
    cases result'
    cases recorded
    exact refused rfl

theorem requiresResync_run {calls : List WindowCall} (balanced : w.Balanced)
    (stays : ∀ call ∈ calls, ¬Lifts streamId call) (fenced : w.requiresResync streamId) :
    (w.run calls).requiresResync streamId := by
  induction calls generalizing w with
  | nil => exact fenced
  | cons call calls ih =>
    exact ih (balanced.sound call).balanced (fun call member => stays call (List.mem_cons_of_mem _ member))
      (requiresResync_next balanced (stays call List.mem_cons_self) fenced)

theorem balanced_of_new {perStream perConnection : Nat} (created : new perStream perConnection = .ok w) :
    w.Balanced ∧ w.maxUnackedBytesPerStream = perStream ∧ w.maxUnackedBytesPerConnection = perConnection := by
  unfold new at created
  split at created
  · cases created
  · cases created
    exact ⟨⟨rfl, fun _ _ found => (nomatch found), Nat.zero_le _⟩, rfl, rfl⟩

theorem run_keeps (balanced : w.Balanced) (calls : List WindowCall) :
    (w.run calls).Balanced ∧
      (w.run calls).maxUnackedBytesPerStream = w.maxUnackedBytesPerStream ∧
      (w.run calls).maxUnackedBytesPerConnection = w.maxUnackedBytesPerConnection := by
  induction calls generalizing w with
  | nil => exact ⟨balanced, rfl, rfl⟩
  | cons call calls ih =>
    have sound := balanced.sound call
    obtain ⟨after, perStream, perConnection⟩ := ih sound.balanced
    exact ⟨after, perStream.trans sound.apart.perStream, perConnection.trans sound.apart.perConnection⟩

end TerminalAckWindow

/-- In every window that calls lead to, the counters are right, no call panics or touches another stream,
and a fence holds until it is lifted. -/
theorem window_balanced {perStream perConnection : Nat} {w : TerminalAckWindow}
    (created : TerminalAckWindow.new perStream perConnection = .ok w) (calls : List WindowCall) :
    (w.run calls).Balanced ∧
      (w.run calls).maxUnackedBytesPerStream = perStream ∧
      (w.run calls).maxUnackedBytesPerConnection = perConnection ∧
      (∀ call, (w.run calls).Sound call) ∧
      ∀ (fence : WindowCall) (later : List WindowCall) (sequence : UInt64) (bytes : Nat),
        Fences (w.run calls) fence → (∀ call ∈ later, ¬Lifts fence.streamId call) → 0 < bytes →
        ((((w.run calls).next fence).run later).perform (.recordSent fence.streamId sequence bytes)).1 ≠
          .decided .recorded := by
  obtain ⟨start, perStream, perConnection⟩ := TerminalAckWindow.balanced_of_new created
  obtain ⟨balanced, perStream', perConnection'⟩ := TerminalAckWindow.run_keeps start calls
  refine ⟨balanced, perStream'.trans perStream, perConnection'.trans perConnection, balanced.sound, ?_⟩
  intro fence later sequence bytes fences stays positive
  have fenced := TerminalAckWindow.requiresResync_of_fences fences
  have fenced := TerminalAckWindow.requiresResync_run (balanced.sound fence).balanced stays fenced
  exact TerminalAckWindow.not_recorded_of_fenced fenced sequence positive

/-- A window of five bytes a stream, of which two are left, takes three bytes for a fence. -/
theorem small_window_balanced :
    (TerminalAckWindow.run ⟨5, 20, 0, ∅⟩ [.recordSent 1 1 3, .recordSent 2 1 4]).Balanced ∧
      (((TerminalAckWindow.run ⟨5, 20, 0, ∅⟩ [.recordSent 1 1 3, .recordSent 2 1 4]).next
        (.recordSent 1 2 3)).run [.ack 1 1] |>.perform (.recordSent 1 3 1)).1 ≠ .decided .recorded :=
  have holds := window_balanced (show TerminalAckWindow.new 5 20 = .ok ⟨5, 20, 0, ∅⟩ from rfl)
    [.recordSent 1 1 3, .recordSent 2 1 4]
  ⟨holds.1, holds.2.2.2.2 (.recordSent 1 2 3) [.ack 1 1] 3 1 ⟨.perStream, by decide +kernel⟩
    (by simp [Lifts]) Nat.one_pos⟩

end VibeLink.Remote
