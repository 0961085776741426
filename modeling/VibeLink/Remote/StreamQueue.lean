import VibeLink.Relational.Maps
import VibeLink.Relational.Runs
import VibeLink.Remote.BinaryFrames

/-! The queues of binary frames, one for each stream (`BinaryStreamQueue` in `remote/v2/wire.rs`). -/

namespace VibeLink.Remote

open VibeLink.Relational

structure StreamKey where
  channel : BinaryChannel
  streamId : UInt64
  deriving DecidableEq

def BinaryFrame.key (frame : BinaryFrame) : StreamKey := ⟨frame.channel, frame.streamId⟩

inductive EnqueueOutcome
  | queued
  | replaced (dropped : UInt32)
  deriving DecidableEq

/-- The error of a `Result`, or a panic. -/
inductive Failure
  | refused (message : String)
  | panicked
  deriving DecidableEq

/-- `u32::saturating_add` -/
def saturatingAdd (a b : UInt32) : UInt32 :=
  if a.toNat + b.toNat < UInt32.size then a + b else 0xffffffff

structure BinaryStreamQueue where
  maxFramesPerStream : Nat
  maxBytesPerStream : Nat
  queues : AList fun _ : StreamKey => List BinaryFrame
  queuedBytes : AList fun _ : StreamKey => Nat

namespace BinaryStreamQueue

def new (maxFramesPerStream maxBytesPerStream : Nat) : Except String BinaryStreamQueue :=
  if maxFramesPerStream = 0 ∨ maxBytesPerStream = 0 then
    .error "remote-v2 stream queue bounds must be non-zero"
  else .ok ⟨maxFramesPerStream, maxBytesPerStream, ∅, ∅⟩

def framesOf (q : BinaryStreamQueue) (key : StreamKey) : List BinaryFrame := (q.queues.lookup key).getD []

def bytesOf (q : BinaryStreamQueue) (key : StreamKey) : Nat := (q.queuedBytes.lookup key).getD 0

def put (q : BinaryStreamQueue) (key : StreamKey) (queue : List BinaryFrame) (bytes : Nat) :
    BinaryStreamQueue :=
  { q with queues := q.queues.insert key queue, queuedBytes := q.queuedBytes.insert key bytes }

/-- What the frames of a queue count for, when a later frame takes their place.  The addition of one
overflows at `u32::MAX`. -/
def dropsOf (overflowChecks : Bool) (queue : List BinaryFrame) : Except Failure UInt32 :=
  queue.foldlM (fun total queued =>
    if overflowChecks ∧ queued.droppedBefore = 0xffffffff then .error .panicked
    else .ok (saturatingAdd total (1 + queued.droppedBefore))) 0

def enqueue (overflowChecks : Bool) (q : BinaryStreamQueue) (frame : BinaryFrame) :
    Except Failure EnqueueOutcome × BinaryStreamQueue :=
  match frame.validate with
  | .error message => (.error (.refused message), q)
  | .ok () =>
    let key := frame.key
    let queue := q.framesOf key
    let bytes := q.bytesOf key
    if frame.channel.latestFrameWins then
      match dropsOf overflowChecks queue with
      -- `Drain` removes what is left when it is dropped
      | .error failure => (.error failure, q.put key [] bytes)
      | .ok dropped =>
        if q.maxBytesPerStream < frame.payload.length then
          (.error (.refused "remote-v2 latest frame exceeds stream byte bound"), q.put key [] 0)
        else
          let frame :=
            if 0 < dropped then
              { frame with
                droppedBefore := saturatingAdd frame.droppedBefore dropped
                flags := frame.flags ||| FLAG_DROPPED_BEFORE }
            else frame
          (.ok (if dropped = 0 then .queued else .replaced dropped), q.put key [frame] frame.payload.length)
    else if q.maxFramesPerStream ≤ queue.length ∨ q.maxBytesPerStream < bytes + frame.payload.length then
      (.error (.refused "remote-v2 lossless stream backpressure"), q.put key queue bytes)
    else (.ok .queued, q.put key (queue ++ [frame]) (bytes + frame.payload.length))

def pop (q : BinaryStreamQueue) (key : StreamKey) : Option BinaryFrame × BinaryStreamQueue :=
  match q.queues.lookup key with
  | none => (none, q)
  | some [] => (none, q)
  | some (frame :: queue) =>
    let queuedBytes :=
      match q.queuedBytes.lookup key with
      | none => q.queuedBytes
      | some bytes => q.queuedBytes.insert key (bytes - frame.payload.length)
    (some frame, { q with queues := q.queues.insert key queue, queuedBytes })

variable {q : BinaryStreamQueue} {key other : StreamKey}

@[simp] theorem framesOf_put (queue : List BinaryFrame) (bytes : Nat) :
    (q.put key queue bytes).framesOf other = if other = key then queue else q.framesOf other := by
  rw [framesOf, put, lookup_insert]
  split
  · rfl
  · rfl

theorem pop_eq (q : BinaryStreamQueue) (key : StreamKey) : (q.pop key).1 = (q.framesOf key).head? ∧
    ∀ other, (q.pop key).2.framesOf other = if other = key then (q.framesOf key).tail else q.framesOf other := by
  unfold pop
  split
  · rename_i none
    have empty : q.framesOf key = [] := by rw [framesOf, none]; rfl
    refine ⟨by rw [empty]; rfl, fun other => ?_⟩
    split
    · rename_i same
      rw [same, empty]
      rfl
    · rfl
  · rename_i some
    have empty : q.framesOf key = [] := by rw [framesOf, some]; rfl
    refine ⟨by rw [empty]; rfl, fun other => ?_⟩
    split
    · rename_i same
      rw [same, empty]
      rfl
    · rfl
  · rename_i frame queue some
    have frames : q.framesOf key = frame :: queue := by rw [framesOf, some]; rfl
    refine ⟨by rw [frames]; rfl, fun other => ?_⟩
    rw [framesOf, lookup_insert, frames]
    split
    · rfl
    · rfl

end BinaryStreamQueue

namespace BinaryStreamQueue

variable {q : BinaryStreamQueue} {key other : StreamKey} {frame : BinaryFrame} {overflowChecks : Bool}

@[simp] theorem bytesOf_put (queue : List BinaryFrame) (bytes : Nat) :
    (q.put key queue bytes).bytesOf other = if other = key then bytes else q.bytesOf other := by
  rw [bytesOf, put, lookup_insert]
  split
  · rfl
  · rfl

/-- The same frames in the same order, and the same counters. -/
def Undisturbed (q q' : BinaryStreamQueue) : Prop :=
  ∀ key, q'.framesOf key = q.framesOf key ∧ q'.bytesOf key = q.bytesOf key

theorem Undisturbed.refl (q : BinaryStreamQueue) : Undisturbed q q := fun _ => ⟨rfl, rfl⟩

theorem undisturbed_put (queue : List BinaryFrame) (bytes : Nat) :
    Undisturbed q (q.put key queue bytes) ↔ q.framesOf key = queue ∧ q.bytesOf key = bytes := by
  constructor
  · intro same
    have here := same key
    rw [framesOf_put, bytesOf_put, if_pos rfl, if_pos rfl] at here
    exact ⟨here.1.symm, here.2.symm⟩
  · rintro ⟨rfl, rfl⟩ other
    rw [framesOf_put, bytesOf_put]
    split
    · rename_i same
      rw [same]
      exact ⟨rfl, rfl⟩
    · exact ⟨rfl, rfl⟩

/-- A frame that counts `u32::MAX` drops cannot be superseded with overflow checks. -/
def Overflows (overflowChecks : Bool) (queue : List BinaryFrame) : Prop :=
  overflowChecks ∧ ∃ queued ∈ queue, queued.droppedBefore = 0xffffffff

theorem dropsOf_cases (overflowChecks : Bool) (queue : List BinaryFrame) :
    Overflows overflowChecks queue ∧ dropsOf overflowChecks queue = .error .panicked ∨
      ¬Overflows overflowChecks queue ∧ ∃ dropped, dropsOf overflowChecks queue = .ok dropped := by
  have general : ∀ total : UInt32,
      Overflows overflowChecks queue ∧ queue.foldlM (fun total queued =>
          if overflowChecks ∧ queued.droppedBefore = 0xffffffff then .error .panicked
          else .ok (saturatingAdd total (1 + queued.droppedBefore))) total = (.error .panicked : Except Failure UInt32) ∨
        ¬Overflows overflowChecks queue ∧ ∃ dropped, queue.foldlM (fun total queued =>
          if overflowChecks ∧ queued.droppedBefore = 0xffffffff then .error .panicked
          else .ok (saturatingAdd total (1 + queued.droppedBefore))) total = (.ok dropped : Except Failure UInt32) := by
    induction queue with
    | nil => exact fun total => .inr ⟨fun full => by simpa using full.2, total, rfl⟩
    | cons queued queue ih =>
      intro total
      rw [List.foldlM_cons]
      by_cases full : overflowChecks ∧ queued.droppedBefore = 0xffffffff
      · rw [if_pos full]
        exact .inl ⟨⟨full.1, queued, List.mem_cons_self, full.2⟩, rfl⟩
      · rw [if_neg full]
        cases ih (saturatingAdd total (1 + queued.droppedBefore)) with
        | inl fails => exact .inl ⟨⟨fails.1.1, fails.1.2.imp fun _ => .imp_left (List.mem_cons_of_mem _)⟩, fails.2⟩
        | inr counts =>
          refine .inr ⟨?_, counts.2⟩
          rintro ⟨checks, other, member, large⟩
          cases List.mem_cons.1 member with
          | inl first => exact full ⟨checks, first ▸ large⟩
          | inr rest => exact counts.1 ⟨checks, other, rest, large⟩
  exact general 0

/-- An `Err` of `enqueue` leaves everything as it was. -/
def Intact (overflowChecks : Bool) (q : BinaryStreamQueue) (frame : BinaryFrame) : Prop :=
  ∀ message, (q.enqueue overflowChecks frame).1 = .error (.refused message) →
    Undisturbed q (q.enqueue overflowChecks frame).2

/-- A valid latest frame that is too large for its stream finds something to remove. -/
def Discards (overflowChecks : Bool) (q : BinaryStreamQueue) (frame : BinaryFrame) : Prop :=
  frame.validate = .ok () ∧ frame.channel.latestFrameWins ∧ q.maxBytesPerStream < frame.payload.length ∧
    ¬Overflows overflowChecks (q.framesOf frame.key) ∧ ¬(q.framesOf frame.key = [] ∧ q.bytesOf frame.key = 0)

theorem intact_iff (overflowChecks : Bool) (q : BinaryStreamQueue) (frame : BinaryFrame) :
    q.Intact overflowChecks frame ↔ ¬q.Discards overflowChecks frame := by
  unfold Intact Discards enqueue
  cases frame.validate with
  | error message => simp [Undisturbed.refl]
  | ok valid =>
    cases latest : frame.channel.latestFrameWins with
    | false =>
      dsimp only
      rw [if_neg Bool.false_ne_true]
      split
      · simp [undisturbed_put]
      · simp
    | true =>
      obtain ⟨full, fails⟩ | ⟨fits, dropped, counts⟩ := dropsOf_cases overflowChecks (q.framesOf frame.key)
      · simp [fails, full]
      · by_cases large : q.maxBytesPerStream < frame.payload.length
        · simp [counts, large, fits, undisturbed_put]
        · simp [counts, large]

end BinaryStreamQueue

/-- A call to a queue.  A pop names the channel and the stream. -/
inductive Op
  | enqueue (frame : BinaryFrame)
  | pop (key : StreamKey)

/-- A queue, and what has come of the calls to it. -/
structure Journal where
  queue : BinaryStreamQueue
  accepted : List BinaryFrame
  delivered : List BinaryFrame
  panicked : Bool

namespace Journal

def start (queue : BinaryStreamQueue) : Journal := ⟨queue, [], [], false⟩

def step (overflowChecks : Bool) (j : Journal) : Op → Journal
  | .enqueue frame =>
    let (answer, queue) := j.queue.enqueue overflowChecks frame
    match answer with
    | .ok _ => { j with queue, accepted := j.accepted ++ [frame] }
    | .error failure => { j with queue, panicked := j.panicked || failure = .panicked }
  | .pop key =>
    let (frame, queue) := j.queue.pop key
    { j with queue, delivered := j.delivered ++ frame.toList }

def acceptedOn (j : Journal) (key : StreamKey) : List BinaryFrame :=
  j.accepted.filter fun frame => frame.key = key

def deliveredOn (j : Journal) (key : StreamKey) : List BinaryFrame :=
  j.delivered.filter fun frame => frame.key = key

end Journal

/-- Frames of which only the latest is kept. -/
structure Batch where
  superseded : List BinaryFrame
  latest : BinaryFrame

def Batch.frames (batch : Batch) : List BinaryFrame := batch.superseded ++ [batch.latest]

/-- The superseded frames, and the drops that the frames themselves report. -/
def Batch.drops (batch : Batch) : Nat :=
  batch.superseded.length + (batch.frames.map fun frame => frame.droppedBefore.toNat).sum

/-- The frame tells all the drops of its batch, as far as 32 bits hold them. -/
structure Accounts (frame : BinaryFrame) (batch : Batch) : Prop where
  dropped : frame.droppedBefore.toNat = min batch.drops (UInt32.size - 1)
  flagged : frame.flags &&& FLAG_DROPPED_BEFORE ≠ 0 ↔ 0 < frame.droppedBefore
  sequence : frame.sequence = batch.latest.sequence
  payload : frame.payload = batch.latest.payload

structure Journal.Accounted (j : Journal) : Prop where
  calm : j.panicked = false
  valid : ∀ frame ∈ j.delivered, frame.validate = .ok ()
  counted : ∀ key : StreamKey, key.channel.latestFrameWins →
    ∃ delivered queued : List Batch, (delivered ++ queued).flatMap Batch.frames = j.acceptedOn key ∧
      List.Forall₂ Accounts (j.deliveredOn key) delivered ∧
      List.Forall₂ Accounts (j.queue.framesOf key) queued

/-- No frame takes the place of one that can count no further, and none that is too large finds one queued. -/
def Fits (j : Journal) : Op → Prop
  | .enqueue frame =>
    frame.validate = .ok () → frame.channel.latestFrameWins →
      ∀ queued ∈ j.queue.framesOf frame.key,
        queued.droppedBefore ≠ 0xffffffff ∧ frame.payload.length ≤ j.queue.maxBytesPerStream
  | .pop _ => True

instance (j : Journal) : ∀ op, Decidable (Fits j op)
  | .enqueue frame => inferInstanceAs (Decidable (frame.validate = .ok () → frame.channel.latestFrameWins →
      ∀ queued ∈ j.queue.framesOf frame.key,
        queued.droppedBefore ≠ 0xffffffff ∧ frame.payload.length ≤ j.queue.maxBytesPerStream))
  | .pop _ => inferInstanceAs (Decidable True)

/-- Only valid frames are queued, each on its stream, and only one of a stream where the latest wins. -/
structure BinaryStreamQueue.Queued (q : BinaryStreamQueue) : Prop where
  valid : ∀ key, ∀ frame ∈ q.framesOf key, frame.key = key ∧ frame.validate = .ok ()
  latest : ∀ key : StreamKey, key.channel.latestFrameWins → (q.framesOf key).length ≤ 1

def BinaryFrame.supersede (frame queued : BinaryFrame) : BinaryFrame :=
  { frame with
    droppedBefore := saturatingAdd frame.droppedBefore (1 + queued.droppedBefore)
    flags := frame.flags ||| FLAG_DROPPED_BEFORE }

/-- What an accepted frame makes of the queue of its stream. -/
inductive Enqueued (frame : BinaryFrame) : List BinaryFrame → List BinaryFrame → Prop
  | lossless (queue : List BinaryFrame) (wins : frame.channel.latestFrameWins = false) :
      Enqueued frame queue (queue ++ [frame])
  | first : Enqueued frame [] [frame]
  | replaced (queued : BinaryFrame) (counts : queued.droppedBefore ≠ 0xffffffff)
      (wins : frame.channel.latestFrameWins) :
      Enqueued frame [queued] [frame.supersede queued]

theorem saturatingAdd_toNat (a b : UInt32) :
    (saturatingAdd a b).toNat = min (a.toNat + b.toNat) (UInt32.size - 1) := by
  unfold saturatingAdd
  split
  · rename_i small
    rw [UInt32.toNat_add, Nat.mod_eq_of_lt small]
    omega
  · rename_i large
    rw [Nat.min_eq_right (by omega)]
    rfl

theorem succ_toNat {dropped : UInt32} (counts : dropped ≠ 0xffffffff) :
    (1 + dropped).toNat = 1 + dropped.toNat := by
  have lt := dropped.toNat_lt
  have ne : dropped.toNat ≠ 4294967295 := fun same => counts (UInt32.toNat_inj.1 same)
  rw [UInt32.toNat_add]
  exact Nat.mod_eq_of_lt (show 1 + dropped.toNat < 4294967296 by omega)

theorem saturatingAdd_zero (a : UInt32) : saturatingAdd 0 a = a := by
  apply UInt32.toNat_inj.1
  have lt := a.toNat_lt
  rw [saturatingAdd_toNat]
  exact (Nat.min_eq_left (show 0 + a.toNat ≤ 4294967295 by omega)).trans (Nat.zero_add _)

namespace BinaryStreamQueue

variable {q : BinaryStreamQueue} {overflowChecks : Bool} {frame : BinaryFrame}

theorem dropsOf_singleton {queued : BinaryFrame} (counts : queued.droppedBefore ≠ 0xffffffff) :
    dropsOf overflowChecks [queued] = .ok (1 + queued.droppedBefore) := by
  have step : dropsOf overflowChecks [queued] =
      if overflowChecks ∧ queued.droppedBefore = 0xffffffff then .error .panicked
      else .ok (saturatingAdd 0 (1 + queued.droppedBefore)) := by
    unfold dropsOf
    rw [List.foldlM_cons]
    split
    · rfl
    · rfl
  rw [step, if_neg (not_and.2 fun _ => counts), saturatingAdd_zero]

theorem enqueue_cases (overflowChecks : Bool) (queued : q.Queued)
    (fits : frame.validate = .ok () → frame.channel.latestFrameWins → ∀ queued ∈ q.framesOf frame.key,
      queued.droppedBefore ≠ 0xffffffff ∧ frame.payload.length ≤ q.maxBytesPerStream) :
    ((∃ message, (q.enqueue overflowChecks frame).1 = .error (.refused message)) ∧
        ∀ other, (q.enqueue overflowChecks frame).2.framesOf other = q.framesOf other) ∨
      frame.validate = .ok () ∧ (∃ outcome, (q.enqueue overflowChecks frame).1 = .ok outcome) ∧
        ∃ queue, Enqueued frame (q.framesOf frame.key) queue ∧
          ∀ other, (q.enqueue overflowChecks frame).2.framesOf other =
            if other = frame.key then queue else q.framesOf other := by
  cases valid : frame.validate with
  | error message =>
    left
    rw [enqueue, valid]
    exact ⟨⟨message, rfl⟩, fun _ => rfl⟩
  | ok =>
    cases wins : frame.channel.latestFrameWins with
    | false =>
      rw [enqueue, valid]
      simp only [wins, Bool.false_eq_true, if_false]
      split
      · left
        refine ⟨⟨_, rfl⟩, fun other => ?_⟩
        rw [framesOf_put]
        split
        · rename_i same
          rw [same]
        · rfl
      · right
        exact ⟨trivial, ⟨_, rfl⟩, _, .lossless _ wins, fun _ => framesOf_put _ _⟩
    | true =>
      have fits := fits valid wins
      have short := queued.latest frame.key wins
      cases frames : q.framesOf frame.key with
      | nil =>
        have drops : dropsOf overflowChecks [] = .ok 0 := rfl
        rw [enqueue, valid]
        simp only [wins, if_true, frames, drops]
        split
        · left
          refine ⟨⟨_, rfl⟩, fun other => ?_⟩
          rw [framesOf_put]
          split
          · rename_i same
            rw [same, frames]
          · rfl
        · right
          exact ⟨trivial, ⟨_, rfl⟩, _, .first, fun _ => framesOf_put _ _⟩
      | cons last queue =>
        rw [frames] at fits short
        obtain rfl : queue = [] := List.length_eq_zero_iff.1 (Nat.le_zero.1 (Nat.le_of_succ_le_succ short))
        have fits := fits last List.mem_cons_self
        have positive : 0 < 1 + last.droppedBefore := by
          rw [UInt32.lt_iff_toNat_lt, succ_toNat fits.1]
          exact Nat.lt_add_right _ Nat.one_pos
        right
        rw [enqueue, valid]
        simp only [wins, if_true, frames, dropsOf_singleton fits.1, if_neg (Nat.not_lt.2 fits.2),
          if_pos positive]
        exact ⟨trivial, ⟨_, rfl⟩, _, .replaced last fits.1 wins, fun _ => framesOf_put _ _⟩

end BinaryStreamQueue

section Steps

variable {frame queued : BinaryFrame} {queue queue' : List BinaryFrame} {batch : Batch} {j : Journal}
  {overflowChecks : Bool}

theorem supersede_flags (frame queued : BinaryFrame) (mask : UInt16) :
    (frame.supersede queued).flags &&& mask = frame.flags &&& mask ||| FLAG_DROPPED_BEFORE &&& mask :=
  UInt16.toBitVec_inj.1 BitVec.and_or_distrib_right

theorem supersede_positive (counts : queued.droppedBefore ≠ 0xffffffff) :
    0 < (frame.supersede queued).droppedBefore := by
  have drops := saturatingAdd_toNat frame.droppedBefore (1 + queued.droppedBefore)
  rw [succ_toNat counts] at drops
  exact UInt32.lt_iff_toNat_lt.2 (drops ▸ show 0 < min _ 4294967295 by omega)

theorem supersede_flagged (frame queued : BinaryFrame) :
    (frame.supersede queued).flags &&& FLAG_DROPPED_BEFORE ≠ 0 := by
  rw [supersede_flags]
  intro zero
  exact absurd (UInt16.or_eq_zero_iff.1 zero).2 (by decide)

theorem validate_supersede (counts : queued.droppedBefore ≠ 0xffffffff)
    (wins : frame.channel.latestFrameWins) (valid : frame.validate = .ok ()) :
    (frame.supersede queued).validate = .ok () := by
  obtain ⟨streamId, sequence, known, small, _, _⟩ := BinaryFrame.validate_eq_ok.1 valid
  refine BinaryFrame.validate_eq_ok.2 ⟨streamId, sequence, ?_, small, fun _ => wins, ?_⟩
  · rw [supersede_flags, known]
    decide
  · exact iff_of_true (supersede_flagged frame queued) (supersede_positive counts)

theorem Accounts.single (valid : frame.validate = .ok ()) : Accounts frame ⟨[], frame⟩ where
  dropped := by
    have lt := frame.droppedBefore.toNat_lt
    simp only [Batch.drops, Batch.frames, List.length_nil, List.nil_append, List.map_cons, List.map_nil,
      List.sum_cons, List.sum_nil, Nat.zero_add, Nat.add_zero]
    exact (Nat.min_eq_left (Nat.le_of_lt_succ lt)).symm
  flagged := (BinaryFrame.validate_eq_ok.1 valid).2.2.2.2.2
  sequence := rfl
  payload := rfl

theorem Accounts.supersede (accounts : Accounts queued batch) (counts : queued.droppedBefore ≠ 0xffffffff) :
    Accounts (frame.supersede queued) ⟨batch.frames, frame⟩ where
  dropped := by
    have dropped := accounts.dropped
    have ne : queued.droppedBefore.toNat ≠ UInt32.size - 1 := fun same => counts (UInt32.toNat_inj.1 same)
    have exact : queued.droppedBefore.toNat = batch.drops := by omega
    have length : batch.frames.length = batch.superseded.length + 1 := List.length_append
    have drops : Batch.drops ⟨batch.frames, frame⟩ = frame.droppedBefore.toNat + (1 + batch.drops) := by
      change batch.frames.length + ((batch.frames ++ [frame]).map _).sum = _
      rw [length, List.map_append, List.sum_append, List.map_singleton, List.sum_singleton, Batch.drops]
      omega
    rw [drops, ← exact, ← succ_toNat counts]
    exact saturatingAdd_toNat _ _
  flagged := iff_of_true (supersede_flagged frame queued) (supersede_positive counts)
  sequence := rfl
  payload := rfl

theorem Enqueued.valid (h : Enqueued frame queue queue') (valid : frame.validate = .ok ())
    (queued : ∀ queued ∈ queue, queued.key = frame.key ∧ queued.validate = .ok ()) :
    ∀ queued ∈ queue', queued.key = frame.key ∧ queued.validate = .ok () := by
  cases h with
  | lossless queue wins =>
    intro queued' member
    cases List.mem_append.1 member with
    | inl before => exact queued queued' before
    | inr last =>
      rw [List.mem_singleton.1 last]
      exact ⟨rfl, valid⟩
  | first =>
    intro queued member
    rw [List.mem_singleton.1 member]
    exact ⟨rfl, valid⟩
  | replaced last counts wins =>
    intro queued member
    rw [List.mem_singleton.1 member]
    exact ⟨rfl, validate_supersede counts wins valid⟩

theorem Enqueued.length_le (h : Enqueued frame queue queue') (wins : frame.channel.latestFrameWins) :
    queue'.length ≤ 1 := by
  cases h with
  | lossless queue lossless =>
    rw [lossless] at wins
    cases wins
  | first => exact Nat.le_refl _
  | replaced last counts _ => exact Nat.le_refl _

theorem Enqueued.accounts (h : Enqueued frame queue queue') (wins : frame.channel.latestFrameWins)
    (valid : frame.validate = .ok ()) {batches : List Batch} (accounts : List.Forall₂ Accounts queue batches) :
    ∃ batches' : List Batch, List.Forall₂ Accounts queue' batches' ∧
      batches'.flatMap Batch.frames = batches.flatMap Batch.frames ++ [frame] := by
  cases h with
  | lossless queue lossless =>
    rw [lossless] at wins
    cases wins
  | first =>
    cases accounts
    exact ⟨[⟨[], frame⟩], .cons (.single valid) .nil, rfl⟩
  | replaced last counts _ =>
    cases accounts with
    | cons last rest =>
      cases rest
      refine ⟨[⟨_, frame⟩], .cons (last.supersede counts) .nil, ?_⟩
      rw [List.flatMap_singleton, List.flatMap_singleton]
      rfl

/-- What a run keeps. -/
structure Journal.Sound (j : Journal) : Prop extends j.Accounted where
  queued : j.queue.Queued

theorem Journal.Sound.enqueue (sound : j.Sound) (fits : Fits j (.enqueue frame)) :
    (j.step overflowChecks (.enqueue frame)).Sound := by
  cases BinaryStreamQueue.enqueue_cases overflowChecks sound.queued fits with
  | inl refused =>
    obtain ⟨⟨message, answer⟩, same⟩ := refused
    have step : j.step overflowChecks (.enqueue frame) =
        { j with queue := (j.queue.enqueue overflowChecks frame).2 } := by
      simp [Journal.step, answer]
    rw [step]
    refine ⟨⟨sound.calm, sound.valid, ?_⟩, ⟨?_, ?_⟩⟩
    · intro key wins
      exact (same key).symm ▸ sound.counted key wins
    · intro key
      exact (same key).symm ▸ sound.queued.valid key
    · intro key
      exact (same key).symm ▸ sound.queued.latest key
  | inr accepted =>
    obtain ⟨valid, ⟨outcome, answer⟩, queue, enqueued, frames⟩ := accepted
    have step : j.step overflowChecks (.enqueue frame) =
        { j with
          queue := (j.queue.enqueue overflowChecks frame).2
          accepted := j.accepted ++ [frame] } := by
      simp [Journal.step, answer]
    rw [step]
    refine ⟨⟨sound.calm, sound.valid, ?_⟩, ⟨?_, ?_⟩⟩
    · intro key wins
      obtain ⟨delivered, queued, content, delivers, queues⟩ := sound.counted key wins
      cases Decidable.em (key = frame.key) with
      | inl same =>
        cases same
        obtain ⟨batches, accounts, content'⟩ := enqueued.accounts wins valid queues
        refine ⟨delivered, batches, ?_, delivers, ?_⟩
        · rw [List.flatMap_append, content', ← List.append_assoc, ← List.flatMap_append, content]
          simp [Journal.acceptedOn]
        · rw [frames, if_pos rfl]
          exact accounts
      | inr ne =>
        refine ⟨delivered, queued, ?_, delivers, ?_⟩
        · rw [content]
          simp [Journal.acceptedOn, Ne.symm ne]
        · rw [frames, if_neg ne]
          exact queues
    · intro key
      rw [frames]
      split
      · rename_i same
        cases same
        exact enqueued.valid valid (sound.queued.valid _)
      · exact sound.queued.valid key
    · intro key wins
      rw [frames]
      split
      · rename_i same
        cases same
        exact enqueued.length_le wins
      · exact sound.queued.latest key wins

theorem Journal.Sound.pop (sound : j.Sound) (key : StreamKey) :
    (j.step overflowChecks (.pop key)).Sound := by
  obtain ⟨popped, frames⟩ := j.queue.pop_eq key
  have step : j.step overflowChecks (.pop key) =
      { j with
        queue := (j.queue.pop key).2
        delivered := j.delivered ++ (j.queue.framesOf key).head?.toList } := by
    rw [← popped]
    rfl
  rw [step]
  refine ⟨⟨sound.calm, ?_, ?_⟩, ⟨?_, ?_⟩⟩
  · intro frame member
    cases List.mem_append.1 member with
    | inl before => exact sound.valid frame before
    | inr now => exact (sound.queued.valid key frame (List.mem_of_mem_head? (Option.mem_toList.1 now))).2
  · intro other wins
    obtain ⟨delivered, queued, content, delivers, queues⟩ := sound.counted other wins
    rw [frames]
    cases Decidable.em (other = key) with
    | inl same =>
      cases same
      have keyed := fun frame member => (sound.queued.valid key frame member).1
      rw [if_pos rfl]
      generalize j.queue.framesOf key = queue at queues keyed ⊢
      cases queues with
      | nil =>
        refine ⟨delivered, [], content, ?_, .nil⟩
        simpa [Journal.deliveredOn] using delivers
      | @cons first batch queue queued accounts rest =>
        refine ⟨delivered ++ [batch], queued, ?_, ?_, rest⟩
        · rw [List.append_assoc]
          exact content
        · have last : [first].filter (fun frame => frame.key = key) = [first] := by
            simp [keyed first List.mem_cons_self]
          rw [Journal.deliveredOn, List.filter_append]
          exact List.rel_append delivers (last.symm ▸ .cons accounts .nil)
    | inr ne =>
      refine ⟨delivered, queued, content, ?_, ?_⟩
      · have none : (j.queue.framesOf key).head?.toList.filter (fun frame => frame.key = other) = [] := by
          apply List.filter_eq_nil_iff.2
          intro frame member
          have keyed := sound.queued.valid key frame (List.mem_of_mem_head? (Option.mem_toList.1 member))
          simp [keyed.1, Ne.symm ne]
        rw [Journal.deliveredOn, List.filter_append, none, List.append_nil]
        exact delivers
      · rw [if_neg ne]
        exact queues
  · intro other frame member
    rw [frames] at member
    split at member
    · rename_i same
      cases same
      exact sound.queued.valid key frame (List.mem_of_mem_tail member)
    · exact sound.queued.valid other frame member
  · intro other wins
    have short := sound.queued.latest other wins
    rw [frames]
    split
    · rename_i same
      cases same
      rw [List.length_tail]
      omega
    · exact short

theorem BinaryStreamQueue.framesOf_new {maxFramesPerStream maxBytesPerStream : Nat} {q : BinaryStreamQueue}
    (created : new maxFramesPerStream maxBytesPerStream = .ok q) (key : StreamKey) : q.framesOf key = [] := by
  unfold new at created
  split at created
  · cases created
  · cases created
    rfl

theorem Journal.Sound.start {q : BinaryStreamQueue} (empty : ∀ key, q.framesOf key = []) :
    (Journal.start q).Sound := by
  refine ⟨⟨rfl, fun _ member => (List.not_mem_nil member).elim, fun key _ => ⟨[], [], rfl, .nil, ?_⟩⟩, ⟨?_, ?_⟩⟩
  · exact (empty key).symm ▸ .nil
  · intro key frame member
    exact nomatch (empty key ▸ member)
  · intro key _
    exact (empty key).symm ▸ Nat.zero_le 1

end Steps

/-- In every run whose calls all fit, no drop is lost. -/
theorem drops_accounted (overflowChecks : Bool) {maxFramesPerStream maxBytesPerStream : Nat}
    {q : BinaryStreamQueue} (created : BinaryStreamQueue.new maxFramesPerStream maxBytesPerStream = .ok q)
    (ops : List Op) (fits : Throughout (Journal.step overflowChecks) Fits (.start q) ops) :
    (ops.foldl (Journal.step overflowChecks) (.start q)).Accounted := by
  have step : ∀ (j : Journal) (op : Op), j.Sound → Fits j op → (j.step overflowChecks op).Sound := by
    intro j op sound fits
    cases op with
    | enqueue frame => exact sound.enqueue fits
    | pop key => exact sound.pop key
  exact (run_invariant step (.start (BinaryStreamQueue.framesOf_new created)) fits).toAccounted

def screencastFrame (sequence : UInt64) (droppedBefore : UInt32) (payload : List UInt8) : BinaryFrame where
  channel := .browserScreencast
  flags := if droppedBefore = 0 then 0 else FLAG_DROPPED_BEFORE
  streamId := 7
  sequence := sequence
  droppedBefore := droppedBefore
  payload := payload

def smallQueue : BinaryStreamQueue := ⟨1, 2, ∅, ∅⟩

theorem screencast_drops_accounted :
    ([.enqueue (screencastFrame 1 0 [1]), .enqueue (screencastFrame 2 3 [2]),
      .enqueue (screencastFrame 3 0 [3]), .pop ⟨.browserScreencast, 7⟩].foldl (Journal.step true)
        (.start smallQueue)).Accounted ∧
    ([.enqueue (screencastFrame 1 0 [1]), .enqueue (screencastFrame 2 3 [2]),
      .enqueue (screencastFrame 3 0 [3]), .pop ⟨.browserScreencast, 7⟩].foldl (Journal.step true)
        (.start smallQueue)).delivered = [screencastFrame 3 5 [3]] :=
  ⟨drops_accounted true (show BinaryStreamQueue.new 1 2 = .ok smallQueue from rfl) _ (by decide +kernel),
    by decide +kernel⟩

/-- A frame is queued, and a larger one is refused: the first is gone. -/
theorem refused_frame_discards : ¬(smallQueue.enqueue false (screencastFrame 1 0 [])).2.Intact false
    (screencastFrame 2 0 [1, 2, 3]) := by
  intro intact
  have lost := (intact _ rfl ⟨.browserScreencast, 7⟩).1
  exact absurd lost (by decide +kernel)

/-- The frame in the place of one that reports `u32::MAX` drops panics, or counts none; a frame that is
too large removes the one that is queued, and none tells of it. -/
theorem drops_lost :
    ¬([.enqueue (screencastFrame 1 0xffffffff []), .enqueue (screencastFrame 2 0 [])].foldl
        (Journal.step true) (.start smallQueue)).Accounted ∧
    ¬([.enqueue (screencastFrame 1 0xffffffff []), .enqueue (screencastFrame 2 0 [])].foldl
        (Journal.step false) (.start smallQueue)).Accounted ∧
    ¬([.enqueue (screencastFrame 1 0 []), .enqueue (screencastFrame 2 0 [1, 2, 3])].foldl
        (Journal.step false) (.start smallQueue)).Accounted := by
  refine ⟨fun h => ?_, fun h => ?_, fun h => ?_⟩
  · exact absurd h.calm (by decide +kernel)
  · obtain ⟨delivered, queued, content, delivers, queues⟩ := h.counted ⟨.browserScreencast, 7⟩ rfl
    replace delivers := show List.Forall₂ _ [] _ from delivers
    replace queues := show List.Forall₂ _ [screencastFrame 2 0 []] _ from queues
    cases delivers
    cases queues with
    | @cons _ batch _ _ accounts rest =>
      cases rest
      replace content := show batch.superseded ++ [batch.latest] ++ [] =
        [screencastFrame 1 0xffffffff []] ++ [screencastFrame 2 0 []] from content
      rw [List.append_nil] at content
      obtain ⟨superseded, latest⟩ := List.append_inj' content rfl
      have dropped := accounts.dropped
      rw [Batch.drops, Batch.frames, superseded, latest] at dropped
      exact absurd dropped (by decide)
  · obtain ⟨delivered, queued, content, delivers, queues⟩ := h.counted ⟨.browserScreencast, 7⟩ rfl
    replace delivers := show List.Forall₂ _ [] _ from delivers
    replace queues := show List.Forall₂ _ [] _ from queues
    cases delivers
    cases queues
    cases show [] = [screencastFrame 1 0 []] from content

end VibeLink.Remote
