import VibeLink.Remote.StreamQueue

/-! A stream whose frames are all delivered: none is lost, doubled or overtaken, and no stream outgrows its bounds. -/

namespace VibeLink.Remote

open VibeLink.Relational

def payloadBytes (queue : List BinaryFrame) : Nat := (queue.map fun frame => frame.payload.length).sum

@[simp] theorem payloadBytes_cons (frame : BinaryFrame) (queue : List BinaryFrame) :
    payloadBytes (frame :: queue) = frame.payload.length + payloadBytes queue := rfl

@[simp] theorem payloadBytes_snoc (queue : List BinaryFrame) (frame : BinaryFrame) :
    payloadBytes (queue ++ [frame]) = payloadBytes queue + frame.payload.length := by
  simp [payloadBytes]

namespace BinaryStreamQueue

variable {q : BinaryStreamQueue}

/-- What may be queued on the stream of a frame, and counted there, when the frame has been answered. -/
inductive Filed (q : BinaryStreamQueue) (frame : BinaryFrame) :
    Except Failure EnqueueOutcome → List BinaryFrame → Nat → Prop
  | refused (failure : Failure) : Filed q frame (.error failure) (q.framesOf frame.key) (q.bytesOf frame.key)
  | emptied (latest : frame.channel.latestFrameWins) (failure : Failure) (bytes : Nat) :
      Filed q frame (.error failure) [] bytes
  | alone (latest : frame.channel.latestFrameWins) (outcome : EnqueueOutcome) {only : BinaryFrame}
      (key : only.key = frame.key) (fits : only.payload.length ≤ q.maxBytesPerStream) (bytes : Nat) :
      Filed q frame (.ok outcome) [only] bytes
  | behind (lossless : frame.channel.latestFrameWins = false)
      (room : (q.framesOf frame.key).length < q.maxFramesPerStream)
      (fits : q.bytesOf frame.key + frame.payload.length ≤ q.maxBytesPerStream) :
      Filed q frame (.ok .queued) (q.framesOf frame.key ++ [frame]) (q.bytesOf frame.key + frame.payload.length)

/-- The same but for the queue of one stream. -/
structure Replaced (q q' : BinaryStreamQueue) (key : StreamKey) (queue : List BinaryFrame) (bytes : Nat) : Prop where
  frames : ∀ other, q'.framesOf other = if other = key then queue else q.framesOf other
  counts : ∀ other, q'.bytesOf other = if other = key then bytes else q.bytesOf other
  maxFrames : q'.maxFramesPerStream = q.maxFramesPerStream
  maxBytes : q'.maxBytesPerStream = q.maxBytesPerStream

theorem replaced_put (q : BinaryStreamQueue) (key : StreamKey) (queue : List BinaryFrame) (bytes : Nat) :
    Replaced q (q.put key queue bytes) key queue bytes :=
  ⟨fun _ => framesOf_put queue bytes, fun _ => bytesOf_put queue bytes, rfl, rfl⟩

theorem replaced_self (q : BinaryStreamQueue) (key : StreamKey) :
    Replaced q q key (q.framesOf key) (q.bytesOf key) := by
  refine ⟨fun other => ?_, fun other => ?_, rfl, rfl⟩
  · split
    · rename_i same
      rw [same]
    · rfl
  · split
    · rename_i same
      rw [same]
    · rfl

theorem enqueue_filed (overflowChecks : Bool) (q : BinaryStreamQueue) (frame : BinaryFrame) :
    ∃ queue bytes, Filed q frame (q.enqueue overflowChecks frame).1 queue bytes ∧
      Replaced q (q.enqueue overflowChecks frame).2 frame.key queue bytes := by
  unfold enqueue
  split
  · exact ⟨_, _, .refused _, replaced_self q frame.key⟩
  · dsimp only
    split
    · rename_i latest
      split
      · exact ⟨_, _, .emptied latest _ _, replaced_put q ..⟩
      · split
        · exact ⟨_, _, .emptied latest _ _, replaced_put q ..⟩
        · rename_i fits
          refine ⟨_, _, .alone latest _ ?_ ?_ _, replaced_put q ..⟩
          · split <;> rfl
          · split <;> exact Nat.not_lt.1 fits
    · rename_i lossless
      split
      · exact ⟨_, _, .refused _, replaced_put q ..⟩
      · rename_i fits
        obtain ⟨room, fits⟩ := not_or.1 fits
        exact ⟨_, _, .behind (Bool.eq_false_iff.2 lossless) (Nat.not_le.1 room) (Nat.not_lt.1 fits), replaced_put q ..⟩

theorem pop_replaced (q : BinaryStreamQueue) (key : StreamKey) :
    Replaced q (q.pop key).2 key (q.framesOf key).tail
      (q.bytesOf key - ((q.framesOf key).head?.map fun frame => frame.payload.length).getD 0) := by
  refine ⟨(q.pop_eq key).2, ?_, ?_, ?_⟩
  all_goals unfold pop
  · have unchanged (empty : q.framesOf key = []) (other : StreamKey) : q.bytesOf other = if other = key then
        q.bytesOf key - ((q.framesOf key).head?.map fun frame => frame.payload.length).getD 0 else q.bytesOf other := by
      rw [empty]
      exact (replaced_self q key).counts other
    intro other
    split
    · rename_i none
      exact unchanged (by rw [framesOf, none]; rfl) other
    · rename_i some
      exact unchanged (by rw [framesOf, some]; rfl) other
    · rename_i frame queue some
      have frames : q.framesOf key = frame :: queue := by rw [framesOf, some]; rfl
      rw [frames]
      dsimp only [List.head?_cons, Option.map_some, Option.getD_some]
      split
      · rename_i none
        have zero : q.bytesOf key = 0 := by rw [bytesOf, none]; rfl
        rw [zero, Nat.zero_sub]
        split
        · rename_i same
          rw [same]
          exact zero
        · rfl
      · rename_i bytes counted
        have same : q.bytesOf key = bytes := by rw [bytesOf, counted]; rfl
        rw [bytesOf, lookup_insert, same]
        split
        · rfl
        · rfl
  · split <;> rfl
  · split <;> rfl

end BinaryStreamQueue

/-- What is queued is on its own stream and within the bounds, and where all frames count, it is what has been
accepted and not yet delivered. -/
structure Journal.Ordered (j : Journal) : Prop where
  room : 0 < j.queue.maxFramesPerStream
  keyed : ∀ key, ∀ frame ∈ j.queue.framesOf key, frame.key = key
  frames : ∀ key, (j.queue.framesOf key).length ≤ j.queue.maxFramesPerStream
  bytes : ∀ key, payloadBytes (j.queue.framesOf key) ≤ j.queue.maxBytesPerStream
  counted : ∀ key : StreamKey, key.channel.latestFrameWins = false →
    j.queue.bytesOf key = payloadBytes (j.queue.framesOf key)
  ordered : ∀ key : StreamKey, key.channel.latestFrameWins = false →
    j.acceptedOn key = j.deliveredOn key ++ j.queue.framesOf key

namespace Journal.Ordered

variable {j : Journal} {overflowChecks : Bool}

theorem start {maxFramesPerStream maxBytesPerStream : Nat} {q : BinaryStreamQueue}
    (created : BinaryStreamQueue.new maxFramesPerStream maxBytesPerStream = .ok q) : (Journal.start q).Ordered := by
  unfold BinaryStreamQueue.new at created
  split at created
  · cases created
  · rename_i bounds
    cases created
    exact ⟨Nat.pos_of_ne_zero (not_or.1 bounds).1, fun _ _ member => absurd member List.not_mem_nil,
      fun _ => Nat.zero_le _, fun _ => Nat.zero_le _, fun _ _ => rfl, fun _ _ => rfl⟩

/-- Only the stream whose queue is replaced has to be looked at. -/
theorem of_replaced (h : j.Ordered) {q : BinaryStreamQueue} {key : StreamKey} {queue accepted delivered : List BinaryFrame}
    {bytes : Nat} (panicked : Bool) (replaced : j.queue.Replaced q key queue bytes) (keyed : ∀ frame ∈ queue, frame.key = key)
    (frames : queue.length ≤ j.queue.maxFramesPerStream) (fits : payloadBytes queue ≤ j.queue.maxBytesPerStream)
    (counted : key.channel.latestFrameWins = false → bytes = payloadBytes queue ∧
      accepted.filter (fun frame => frame.key = key) = delivered.filter (fun frame => frame.key = key) ++ queue)
    (others : ∀ other, other ≠ key → accepted.filter (fun frame => frame.key = other) = j.acceptedOn other ∧
      delivered.filter (fun frame => frame.key = other) = j.deliveredOn other) :
    Journal.Ordered ⟨q, accepted, delivered, panicked⟩ where
  room := replaced.maxFrames ▸ h.room
  keyed other := by
    rw [replaced.frames]
    split
    · rename_i same
      rw [same]
      exact keyed
    · exact h.keyed other
  frames other := by
    rw [replaced.frames, replaced.maxFrames]
    split
    · exact frames
    · exact h.frames other
  bytes other := by
    rw [replaced.frames, replaced.maxBytes]
    split
    · exact fits
    · exact h.bytes other
  counted other lossless := by
    rw [replaced.frames, replaced.counts]
    split
    · rename_i same
      exact (counted (same ▸ lossless)).1
    · exact h.counted other lossless
  ordered other lossless := by
    rw [replaced.frames]
    split
    · rename_i same
      cases same
      exact (counted lossless).2
    · rename_i ne
      exact (others other ne).1.trans ((h.ordered other lossless).trans (congrArg (· ++ _) (others other ne).2.symm))

theorem filter_snoc_of_ne {frames : List BinaryFrame} {frame : BinaryFrame} {key : StreamKey} (ne : key ≠ frame.key) :
    (frames ++ [frame]).filter (fun frame => frame.key = key) = frames.filter fun frame => frame.key = key := by
  simp [ne.symm]

theorem enqueue (h : j.Ordered) (frame : BinaryFrame) : (j.step overflowChecks (.enqueue frame)).Ordered := by
  obtain ⟨queue, bytes, filed, replaced⟩ := j.queue.enqueue_filed overflowChecks frame
  rw [step]
  generalize j.queue.enqueue overflowChecks frame = answered at filed replaced ⊢
  obtain ⟨answer, q⟩ := answered
  dsimp only at filed replaced ⊢
  cases filed with
  | refused failure =>
    exact h.of_replaced _ replaced (h.keyed _) (h.frames _) (h.bytes _)
      (fun lossless => ⟨h.counted _ lossless, h.ordered _ lossless⟩) fun _ _ => ⟨rfl, rfl⟩
  | emptied latest failure =>
    exact h.of_replaced _ replaced (fun _ member => absurd member List.not_mem_nil) (Nat.zero_le _) (Nat.zero_le _)
      (fun lossless => absurd latest (Bool.eq_false_iff.1 lossless)) fun _ _ => ⟨rfl, rfl⟩
  | alone latest outcome key fits =>
    exact h.of_replaced _ replaced (fun _ member => List.mem_singleton.1 member ▸ key) h.room fits
      (fun lossless => absurd latest (Bool.eq_false_iff.1 lossless)) fun _ ne => ⟨filter_snoc_of_ne ne, rfl⟩
  | behind lossless room fits =>
    have counted := h.counted frame.key lossless
    refine h.of_replaced _ replaced (fun _ member => ?_) (by rw [List.length_append]; exact room)
      (by rw [payloadBytes_snoc, ← counted]; exact fits) (fun _ => ⟨by rw [payloadBytes_snoc, counted], ?_⟩)
      fun _ ne => ⟨filter_snoc_of_ne ne, rfl⟩
    · cases List.mem_append.1 member with
      | inl before => exact h.keyed _ _ before
      | inr now => rw [List.mem_singleton.1 now]
    · rw [List.filter_append, ← List.append_assoc]
      exact congrArg₂ (· ++ ·) (h.ordered frame.key lossless) (by simp)

theorem pop (h : j.Ordered) (key : StreamKey) : (j.step overflowChecks (.pop key)).Ordered := by
  have replaced := j.queue.pop_replaced key
  have popped := (j.queue.pop_eq key).1
  rw [step]
  generalize j.queue.pop key = answered at popped replaced ⊢
  obtain ⟨answer, q⟩ := answered
  dsimp only at popped replaced ⊢
  have keyed := h.keyed key
  have frames := h.frames key
  have bytes := h.bytes key
  have counted := h.counted key
  have ordered := h.ordered key
  cases queued : j.queue.framesOf key with
  | nil =>
    rw [queued] at replaced popped ordered counted
    cases popped
    refine h.of_replaced _ replaced (fun _ member => absurd member List.not_mem_nil) (Nat.zero_le _) (Nat.zero_le _)
      (fun lossless => ⟨counted lossless, ?_⟩) fun _ _ => ⟨rfl, ?_⟩
    · exact (ordered lossless).trans (by simp [deliveredOn])
    · simp [deliveredOn]
  | cons frame queue =>
    rw [queued] at replaced popped ordered counted keyed frames bytes
    cases popped
    have own : frame.key = key := keyed frame List.mem_cons_self
    refine h.of_replaced _ replaced (fun other member => keyed other (List.mem_cons_of_mem _ member))
      ((Nat.le_succ _).trans frames) ((Nat.le_add_left _ _).trans bytes) (fun lossless => ⟨?_, ?_⟩)
      fun other ne => ⟨rfl, filter_snoc_of_ne (own ▸ ne)⟩
    · rw [counted lossless]
      exact Nat.add_sub_cancel_left ..
    · exact (ordered lossless).trans (by simp [deliveredOn, own])

end Journal.Ordered

/-- Whatever is queued and popped, in whatever order, also behind a panic. -/
theorem run_ordered (overflowChecks : Bool) {maxFramesPerStream maxBytesPerStream : Nat} {q : BinaryStreamQueue}
    (created : BinaryStreamQueue.new maxFramesPerStream maxBytesPerStream = .ok q) (ops : List Op) :
    (ops.foldl (Journal.step overflowChecks) (.start q)).Ordered := by
  refine run_invariant (I := Journal.Ordered) (fun j op h _ => ?_) (.start created)
    (throughout_of_forall (fun _ _ _ => trivial) _)
  cases op with
  | enqueue frame => exact h.enqueue frame
  | pop key => exact h.pop key

theorem smallQueue_ordered : ([.enqueue ⟨.terminalOutput, 0, 3, 1, 0, [1]⟩, .enqueue ⟨.terminalOutput, 0, 3, 2, 0, [2]⟩,
    .pop ⟨.terminalOutput, 3⟩].foldl (Journal.step true) (.start smallQueue)).Ordered :=
  run_ordered true (show BinaryStreamQueue.new 1 2 = .ok smallQueue from rfl) _

end VibeLink.Remote
