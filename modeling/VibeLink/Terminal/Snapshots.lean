import VibeLink.Terminal.Entry
import VibeLink.Relational.Runs

/-! What the emulator of a pane shows, against the snapshots and the frames of the daemon. -/

namespace VibeLink.Terminal

open Relational
open VibeLink.Daemon (Bytes)

/-- What the daemon puts out: for each generation of a pane its frames, and a snapshot at each of them. -/
structure Source where
  output : Nat → Nat → Bytes
  snapshot : Nat → Nat → Bytes

namespace Source

def ofOutput (output : Nat → Nat → Bytes) : Source where
  output
  snapshot generation last := ((List.range' 1 last).map (output generation)).flatten

variable (source : Source) {generation first last : Nat}

def between (generation first last : Nat) : Bytes :=
  ((List.range' (first + 1) (last - first)).map (source.output generation)).flatten

theorem between_self : source.between generation last last = [] := by
  rw [between, Nat.sub_self]
  rfl

theorem between_succ (le : first ≤ last) : source.between generation first (last + 1) =
    source.between generation first last ++ source.output generation (last + 1) := by
  rw [between, between, Nat.succ_sub le, List.range'_1_concat, List.map_append, List.flatten_append,
    List.map_singleton, List.flatten_singleton, show first + 1 + (last - first) = last + 1 by omega]

theorem between_append {middle : Nat} (le : first ≤ middle) (le' : middle ≤ last) :
    source.between generation first middle ++ source.between generation middle last =
      source.between generation first last := by
  induction last, le' using Nat.le_induction with
  | base => rw [between_self, List.append_nil]
  | succ last le' ih => rw [between_succ source le', between_succ source (le.trans le'), ← List.append_assoc, ih]

end Source

def SequencedOutputFrame.Genuine (source : Source) (frame : SequencedOutputFrame) : Prop :=
  frame.bytes = source.output frame.paneGeneration frame.outputSequence

def Act.Genuine (source : Source) : Act → Prop
  | .output frame _ => frame.Genuine source
  | .snapshot (.ok taken) => taken.data = source.snapshot taken.paneGeneration taken.outputSequence
  | _ => True

instance (source : Source) (act : Act) : Decidable (act.Genuine source) :=
  match act with
  | .output _ _ => inferInstanceAs (Decidable (_ = _))
  | .snapshot (.ok _) => inferInstanceAs (Decidable (_ = _))
  | .snapshot (.error _) | .attach _ | .reattach _ _ | .attached _ _ | .drain _ | .flush _ | .parsed | .exited
  | .notice _ | .hide | .reveal | .focus | .park | .lease _ | .adoptLease _ | .data _ | .wrote _ | .flushed
  | .replayed _ | .settled | .again => .isTrue trivial

def Written.shown : Written → Bytes
  | .snapshot data => data
  | .output bytes => bytes
  | .queries _ | .notice _ => []

def Written.bytes : Written → Bytes
  | .snapshot data => data
  | .queries bytes => bytes
  | .output bytes => bytes
  | .notice text => text.toUTF8.toList

section Queues

variable (source : Source) {frames : List SequencedOutputFrame} {budget : Nat} {chunks : List Bytes}

theorem takeOutput_flatten (budget : Nat) (chunks : List Bytes) :
    (takeOutput budget chunks).1 ++ (takeOutput budget chunks).2.flatten = chunks.flatten := by
  induction chunks generalizing budget with
  | nil => rfl
  | cons next rest ih =>
    rw [takeOutput]
    split
    · rfl
    · split
      · rw [List.append_assoc, ih, List.flatten_cons]
      · rw [List.flatten_cons, List.flatten_cons, ← List.append_assoc, List.take_append_drop]

theorem trimFrames_suffix (frames : List SequencedOutputFrame) : trimFrames frames <:+ frames := by
  induction frames with
  | nil => exact List.suffix_rfl
  | cons frame rest ih =>
    cases rest with
    | nil => exact List.suffix_rfl
    | cons next rest =>
      rw [trimFrames]
      split
      · exact ih.trans (List.suffix_cons _ _)
      · exact List.suffix_rfl

theorem passFrames_left (paneGeneration : Option Nat) (covers : Nat) (outputSequence : Option Nat)
    (frames : List SequencedOutputFrame) : (passFrames paneGeneration covers outputSequence frames).left <:+ frames := by
  induction frames generalizing outputSequence with
  | nil => exact List.suffix_rfl
  | cons frame rest ih =>
    rw [passFrames]
    split
    · exact (ih _).trans (List.suffix_cons _ _)
    · split
      · exact (ih _).trans (List.suffix_cons _ _)
      · split
        · exact List.suffix_rfl
        · exact (ih _).trans (List.suffix_cons _ _)

theorem passFrames_none (covers : Nat) (outputSequence : Option Nat) (frames : List SequencedOutputFrame) :
    passFrames none covers outputSequence frames = ⟨[], [], outputSequence, frames⟩ := by
  cases frames with
  | nil => rfl
  | cons frame rest =>
    rw [passFrames, if_neg, if_neg, if_pos (.inl nofun)]
    · exact fun same => nomatch same.1
    · exact fun same => nomatch same.1

theorem passFrames_live {generation covers last : Nat} (genuine : ∀ frame ∈ frames, frame.Genuine source) :
    ∃ newest, last ≤ newest ∧ (passFrames (some generation) covers (some last) frames).outputSequence = some newest ∧
      (passFrames (some generation) covers (some last) frames).live.flatten = source.between generation last newest := by
  induction frames generalizing last with
  | nil => exact ⟨last, Nat.le_refl _, rfl, (source.between_self).symm⟩
  | cons frame rest ih =>
    have later := fun frame member => genuine frame (List.mem_cons_of_mem _ member)
    rw [passFrames]
    split
    · exact ih later
    · split
      · exact ih later
      · split
        · exact ⟨last, Nat.le_refl _, rfl, (source.between_self).symm⟩
        · rename_i follows
          rw [not_or, not_not, not_not] at follows
          obtain ⟨same, next⟩ := follows
          obtain ⟨newest, le, recorded, live⟩ := @ih frame.outputSequence later
          have step : last ≤ last + 1 := Nat.le_succ last
          rw [Option.getD_some] at next
          rw [next] at le recorded live
          refine ⟨newest, step.trans le, by rw [next]; exact recorded, ?_⟩
          rw [← source.between_append step le, source.between_succ (Nat.le_refl last), source.between_self,
            List.nil_append, ← live, next]
          have bytes : frame.bytes = source.output generation (last + 1) := by
            rw [genuine frame List.mem_cons_self, next, Option.some.inj same]
          rw [← bytes]
          rfl

end Queues

namespace Entry

def shown (e : Entry) : Bytes := (e.written.map Written.shown).flatten

/-- What of a pane has to do with its output. -/
structure View where
  shown : Bytes
  pending : List Bytes
  queued : List SequencedOutputFrame
  paneGeneration : Option Nat
  outputSequence : Option Nat
  stale : Bool
  overflowed : Bool
  replay : Option Replay
  sessionId : Option String
  revision : Nat

def view (e : Entry) : View where
  shown := e.shown
  pending := e.pendingOutput
  queued := e.pendingSequencedOutput
  paneGeneration := e.paneGeneration
  outputSequence := e.outputSequence
  stale := e.outputSnapshotStale
  overflowed := e.overflowed
  replay := e.replay
  sessionId := e.sessionId
  revision := e.replayRevision

namespace View

/-- What the emulator has been handed and what waits is a snapshot and the frames behind it. -/
def Shows (source : Source) (v : View) : Prop :=
  ∀ generation last, v.paneGeneration = some generation → v.outputSequence = some last → ∃ first ≤ last,
    v.shown ++ v.pending.flatten = source.snapshot generation first ++ source.between generation first last

def Replaying (v : View) : Prop := ∃ replay, v.replay = some replay ∧ replay.phase ≠ .requested ∧ replay.phase ≠ .settled

def Awaits (v : View) : Prop := ∃ replay, v.replay = some replay ∧ replay.phase = .requested ∧
  v.sessionId = some replay.sessionId ∧ v.revision = replay.revision

/-- The invariant. -/
structure Faithful (source : Source) (v : View) : Prop where
  paired : v.paneGeneration.isSome = v.outputSequence.isSome
  queued : ∀ frame ∈ v.queued, frame.Genuine source
  shows : v.stale = false → v.overflowed = false → v.Shows source
  replaying : v.Replaying → v.Shows source ∧ v.pending = [] ∧ v.overflowed = false
  awaited : v.overflowed = true → v.Awaits

variable {source : Source} {v : View}

theorem Shows.of_none (none : v.paneGeneration = none) : v.Shows source :=
  fun _ _ some => nomatch none.symm.trans some

theorem Faithful.drain (h : v.Faithful source) {shown : Bytes} {pending : List Bytes}
    (same : shown ++ pending.flatten = v.shown ++ v.pending.flatten) (empty : v.pending = [] → pending = []) :
    Faithful source { v with shown, pending } where
  paired := h.paired
  queued := h.queued
  shows still kept generation last here recorded := by
    obtain ⟨first, le, eq⟩ := h.shows still kept generation last here recorded
    exact ⟨first, le, same.trans eq⟩
  replaying replaying := by
    obtain ⟨shows, none, kept⟩ := h.replaying replaying
    refine ⟨fun generation last here recorded => ?_, empty none, kept⟩
    obtain ⟨first, le, eq⟩ := shows generation last here recorded
    exact ⟨first, le, same.trans eq⟩
  awaited := h.awaited

theorem Faithful.queue (h : v.Faithful source) {queued : List SequencedOutputFrame}
    (genuine : ∀ frame ∈ queued, frame.Genuine source) : Faithful source { v with queued } :=
  ⟨h.paired, genuine, h.shows, h.replaying, h.awaited⟩

theorem Faithful.request (h : v.Faithful source) (none : v.replay = none) {sessionId : String} {revision : Nat} :
    Faithful source { v with replay := some ⟨sessionId, revision, .requested⟩ } where
  paired := h.paired
  queued := h.queued
  shows := h.shows
  replaying replaying := by
    obtain ⟨replay, same, waits, _⟩ := replaying
    cases same
    exact absurd rfl waits
  awaited overflowed := by
    obtain ⟨replay, same, _⟩ := h.awaited overflowed
    exact nomatch none.symm.trans same

theorem Faithful.record (h : v.Faithful source) {frame : SequencedOutputFrame} (genuine : frame.Genuine source)
    (idle : v.replay = none) (here : v.paneGeneration = some frame.paneGeneration)
    (follows : frame.outputSequence = v.outputSequence.getD 0 + 1) {shown : Bytes} {pending : List Bytes}
    (same : shown ++ pending.flatten = v.shown ++ v.pending.flatten ++ frame.bytes) :
    Faithful source { v with shown, pending, outputSequence := some frame.outputSequence } where
  paired := by
    rw [here]
    rfl
  queued := h.queued
  shows still kept generation last there recorded := by
    cases here.symm.trans there
    cases recorded
    have paired := h.paired
    rw [here, Option.isSome_some] at paired
    obtain ⟨before, known⟩ := Option.isSome_iff_exists.1 paired.symm
    rw [known, Option.getD_some] at follows
    obtain ⟨first, le, eq⟩ := h.shows still kept _ before here known
    refine ⟨first, follows ▸ le.trans (Nat.le_succ _), ?_⟩
    dsimp only
    rw [same, eq, List.append_assoc, follows, source.between_succ le, genuine, follows]
  replaying replaying := by
    obtain ⟨replay, some, _⟩ := replaying
    exact nomatch idle.symm.trans some
  awaited overflowed := by
    obtain ⟨replay, some, _⟩ := h.awaited overflowed
    exact nomatch idle.symm.trans some

theorem Faithful.overflow (h : v.Faithful source) {sessionId : String}
    (session : v.sessionId = some sessionId) {outputSequence : Option Nat}
    (paired : v.paneGeneration.isSome = outputSequence.isSome) :
    Faithful source { v with
      pending := [], outputSequence, overflowed := true, replay := some ⟨sessionId, v.revision, .requested⟩ } where
  paired := paired
  queued := h.queued
  shows _ := nofun
  replaying replaying := by
    obtain ⟨replay, same, waits, _⟩ := replaying
    cases same
    exact absurd rfl waits
  awaited _ := ⟨_, rfl, rfl, session, rfl⟩

theorem Faithful.drop (h : v.Faithful source) {stale : Bool}
    (marks : stale = false → v.stale = false ∧ v.pending = []) : Faithful source { v with pending := [], stale } where
  paired := h.paired
  queued := h.queued
  shows still kept generation last here recorded := by
    obtain ⟨still, empty⟩ := marks still
    obtain ⟨first, le, eq⟩ := h.shows still kept generation last here recorded
    rw [empty] at eq
    exact ⟨first, le, eq⟩
  replaying replaying := by
    obtain ⟨shows, empty, kept⟩ := h.replaying replaying
    refine ⟨fun generation last here recorded => ?_, rfl, kept⟩
    obtain ⟨first, le, eq⟩ := shows generation last here recorded
    rw [empty] at eq
    exact ⟨first, le, eq⟩
  awaited := h.awaited

theorem Faithful.mark (h : v.Faithful source) : Faithful source { v with stale := true } :=
  ⟨h.paired, h.queued, (fun still => nomatch still), h.replaying, h.awaited⟩

theorem Faithful.forget (h : v.Faithful source) {stale : Bool} {sessionId : Option String} {revision : Nat} :
    Faithful source { v with
      paneGeneration := none, outputSequence := none, overflowed := false, stale, sessionId, revision } where
  paired := rfl
  queued := h.queued
  shows _ _ := Shows.of_none rfl
  replaying replaying := ⟨Shows.of_none rfl, (h.replaying replaying).2.1, rfl⟩
  awaited := nofun

theorem Faithful.settle (h : v.Faithful source) (kept : v.overflowed = false) (replay : Replay) :
    Faithful source { v with replay := some { replay with phase := .settled } } where
  paired := h.paired
  queued := h.queued
  shows := h.shows
  replaying replaying := by
    obtain ⟨other, same, _, unsettled⟩ := replaying
    cases same
    exact absurd rfl unsettled
  awaited overflowed := nomatch kept.symm.trans overflowed

theorem Faithful.clear (h : v.Faithful source) (settled : ∃ replay, v.replay = some replay ∧ replay.phase = .settled) :
    Faithful source { v with replay := none } where
  paired := h.paired
  queued := h.queued
  shows := h.shows
  replaying := fun ⟨_, same, _⟩ => nomatch same
  awaited overflowed := by
    obtain ⟨replay, same, phase⟩ := settled
    obtain ⟨other, same', requested, _⟩ := h.awaited overflowed
    cases same.symm.trans same'
    exact nomatch phase.symm.trans requested

/-- The snapshot, or what the buffer has been found to agree with it. -/
structure Applied (source : Source) (v : View) : Prop where
  paired : v.paneGeneration.isSome = v.outputSequence.isSome
  queued : ∀ frame ∈ v.queued, frame.Genuine source
  shows : v.Shows source
  empty : v.pending = []
  kept : v.overflowed = false

theorem Faithful.applied (h : v.Faithful source) (replaying : v.Replaying) : v.Applied source :=
  ⟨h.paired, h.queued, (h.replaying replaying).1, (h.replaying replaying).2.1, (h.replaying replaying).2.2⟩

theorem Applied.faithful (h : v.Applied source) {stale : Bool} (replay : Option Replay) :
    Faithful source { v with stale, replay } :=
  ⟨h.paired, h.queued, fun _ _ => h.shows, fun _ => ⟨h.shows, h.empty, h.kept⟩,
    fun overflowed => nomatch h.kept.symm.trans overflowed⟩

theorem Applied.pass (h : v.Applied source) (covers : Nat) {queued : List SequencedOutputFrame}
    (genuine : ∀ frame ∈ queued, frame.Genuine source) : Applied source { v with
      shown := v.shown ++ (passFrames v.paneGeneration covers v.outputSequence v.queued).live.flatten
      outputSequence := (passFrames v.paneGeneration covers v.outputSequence v.queued).outputSequence
      queued } := by
  have paired := h.paired
  cases here : v.paneGeneration with
  | none =>
    rw [here] at paired
    refine ⟨?_, genuine, .of_none rfl, h.empty, h.kept⟩
    change false = (passFrames none covers v.outputSequence v.queued).outputSequence.isSome
    rw [passFrames_none]
    exact paired
  | some generation =>
    rw [here, Option.isSome_some] at paired
    obtain ⟨last, recorded⟩ := Option.isSome_iff_exists.1 paired.symm
    obtain ⟨newest, le, recorded', live⟩ := @passFrames_live source _ generation _ _ h.queued
    rw [recorded]
    refine ⟨?_, genuine, fun generation' last' there known => ?_, h.empty, h.kept⟩
    · change true = (passFrames _ _ _ _).outputSequence.isSome
      rw [recorded']
      rfl
    · cases there
      cases recorded'.symm.trans known
      obtain ⟨first, le', eq⟩ := h.shows _ _ here recorded
      refine ⟨first, le'.trans le, ?_⟩
      rw [h.empty, List.flatten_nil, List.append_nil] at eq
      dsimp only
      rw [h.empty, List.flatten_nil, List.append_nil, eq, live, List.append_assoc, source.between_append le' le]

end View

section Frames

variable (e : Entry)

theorem view_handOver (written : Written) :
    (e.handOver written).view = { e.view with shown := e.view.shown ++ written.shown } := by
  rw [view, view, shown, handOver, List.map_append, List.flatten_append, List.map_singleton, List.flatten_singleton]
  rfl

theorem view_notice (text : String) : (e.handOver (.notice text)).view = e.view := by
  rw [view_handOver, Written.shown, List.append_nil]

def muted : Entry := { e with
  daemonAttached := false
  attachingSessionId := none
  attachFailureNoticeWritten := false
  pendingInput := []
  pendingInputBytes := 0
  inputTrimNoticeWritten := false
  inputFlush := none
  accepted := 0
  input := []
  written := [.output e.shown] }

theorem view_muted : e.muted.view = e.view := by
  have shown : ([Written.output e.shown].map Written.shown).flatten = e.shown := List.append_nil _
  change ({ e.view with shown := ([Written.output e.shown].map Written.shown).flatten } : View) = e.view
  rw [shown]
  rfl

variable {e} in
theorem view_congr {e' : Entry} (same : e.muted = e'.muted) : e.view = e'.view := by
  rw [← view_muted, same, view_muted]

theorem muted_notice (text : String) : (e.handOver (.notice text)).muted = e.muted := by
  have same : (e.handOver (.notice text)).shown = e.shown := congrArg View.shown (e.view_notice text)
  rw [muted, same]
  rfl

theorem muted_noticeFailure (text : String) : (e.noticeFailure text).muted = e.muted := by
  unfold noticeFailure
  split
  · rfl
  · exact e.muted_notice text

theorem muted_flushInputLoop (sessionId : String) (generation : Nat) :
    (e.flushInputLoop sessionId generation).muted = e.muted := by
  unfold flushInputLoop
  split
  · rfl
  · split <;> rfl

theorem muted_flushPendingInput : e.flushPendingInput.muted = e.muted := by
  unfold flushPendingInput
  split
  · rfl
  · split
    · rfl
    · exact e.muted_flushInputLoop _ _

theorem muted_enqueueInput (data : String) : (e.enqueueInput data).muted = e.muted := by
  unfold enqueueInput
  dsimp only
  split
  · split
    · rfl
    · exact e.muted_notice _
  · rw [muted_flushPendingInput]
    rfl

theorem muted_wrote (ok : Bool) : (e.wrote ok).muted = e.muted := by
  unfold wrote
  split
  · split
    · split
      · rfl
      · rw [muted_flushInputLoop]
        rfl
    · split
      · exact (e.note _).muted_noticeFailure _
      · rfl
  · rfl

theorem muted_flushed : e.flushed.muted = e.muted := by
  unfold flushed
  split
  · split
    · rfl
    · split
      · rw [muted_flushPendingInput]
        rfl
      · rfl
  · rfl

theorem muted_answerQueries (answers : List String) : (e.answerQueries answers).muted = e.muted := by
  unfold answerQueries
  split
  · rfl
  · clear * -
    induction answers generalizing e with
    | nil => rfl
    | cons answer rest ih => rw [List.foldl_cons, ih, muted_enqueueInput]

theorem view_writeTerminalOutput (bytes : Bytes) (trackPending : Bool) :
    (e.writeTerminalOutput bytes trackPending).view = { e.view with shown := e.view.shown ++ bytes } :=
  e.view_handOver (.output bytes)

end Frames

section Steps

variable {source : Source} {e : Entry}

theorem faithful_flushOutput (h : e.view.Faithful source) (budget : Nat) (force : Bool) :
    (e.flushOutput budget force).view.Faithful source := by
  unfold flushOutput
  split
  · exact h
  · rw [view_writeTerminalOutput]
    apply h.drain
    · change (e.shown ++ (takeOutput budget e.pendingOutput).1) ++ (takeOutput budget e.pendingOutput).2.flatten =
        e.shown ++ e.pendingOutput.flatten
      rw [List.append_assoc, takeOutput_flatten]
    · intro empty
      change e.pendingOutput = [] at empty
      rw [empty]
      rfl

theorem faithful_flushAllFrom (h : e.view.Faithful source) (fuel : Nat) :
    (e.flushAllFrom fuel).view.Faithful source := by
  induction fuel generalizing e with
  | zero => exact h
  | succ fuel ih => exact ih (faithful_flushOutput h _ _)

theorem faithful_markExited (h : e.view.Faithful source) : e.markExited.view.Faithful source := by
  rw [markExited, view_notice]
  exact faithful_flushAllFrom h _

theorem view_markExited (empty : e.pendingOutput = []) : e.markExited.view = e.view := by
  rw [markExited, view_notice, flushAllOutput, empty]
  rfl

theorem faithful_requestSnapshotReplay (h : e.view.Faithful source) :
    e.requestSnapshotReplay.view.Faithful source := by
  unfold requestSnapshotReplay
  split
  · exact h
  · split
    · exact h
    · split
      · exact h
      · rename_i idle
        exact h.request (Option.not_isSome_iff_eq_none.1 idle)

theorem genuine_queueSequencedOutput {frame : SequencedOutputFrame} (genuine : frame.Genuine source)
    (queued : ∀ other ∈ e.pendingSequencedOutput, other.Genuine source) :
    ∀ other ∈ (e.queueSequencedOutput frame).pendingSequencedOutput, other.Genuine source := by
  intro other member
  cases List.mem_append.1 ((trimFrames_suffix _).subset member) with
  | inl before => exact queued other before
  | inr same => exact (List.mem_singleton.1 same).symm ▸ genuine

theorem faithful_queueSequencedOutput (h : e.view.Faithful source) {frame : SequencedOutputFrame}
    (genuine : frame.Genuine source) : (e.queueSequencedOutput frame).view.Faithful source :=
  h.queue (genuine_queueSequencedOutput genuine h.queued)

theorem faithful_handlePendingOutputOverflow (h : e.view.Faithful source) (opened : e.opened) (idle : e.replay = none) :
    e.handlePendingOutputOverflow.view.Faithful source := by
  unfold handlePendingOutputOverflow
  split
  · rename_i known
    obtain ⟨sessionId, session⟩ := Option.isSome_iff_exists.1 known.1
    have requested : requestSnapshotReplay { e with pendingOutput := [], overflowed := true } = { e with
        pendingOutput := [], overflowed := true, replay := some ⟨sessionId, e.replayRevision, .requested⟩
        replayAgain := false } := by
      rw [requestSnapshotReplay]
      simp only [session, opened, idle, not_true, if_false, Option.isSome_none, Bool.false_eq_true]
    rw [requested]
    exact h.overflow session h.paired
  · exact h

theorem faithful_queueOutput {bytes : Bytes} (waits : View.Faithful source { e.view with pending := e.pendingOutput ++ [bytes] })
    (opened : e.opened) (idle : e.replay = none) : (e.queueOutput bytes).view.Faithful source := by
  unfold queueOutput
  split
  · exact faithful_handlePendingOutputOverflow waits opened idle
  · exact waits

theorem faithful_writeEntry {bytes : Bytes} (waits : View.Faithful source { e.view with pending := e.pendingOutput ++ [bytes] })
    (opened : e.opened) (idle : e.replay = none) (shows : e.outputParked = false) (foreground : Bool) :
    (e.writeEntry bytes foreground).view.Faithful source := by
  unfold writeEntry
  rw [if_neg (by rw [shows]; exact fun parked => nomatch parked.1), if_neg (not_not_intro opened)]
  split
  · split
    · rename_i empty
      rw [view_writeTerminalOutput]
      rw [empty] at waits
      apply waits.drain
      · change (e.shown ++ bytes) ++ e.pendingOutput.flatten = e.shown ++ [bytes].flatten
        rw [empty, List.flatten_nil, List.append_nil, List.flatten_singleton]
      · exact fun none => nomatch none
    · exact faithful_flushOutput waits _ _
  · exact faithful_queueOutput waits opened idle

theorem faithful_writeSequenced (h : e.view.Faithful source) {frame : SequencedOutputFrame}
    (genuine : frame.Genuine source) (foreground : Bool) : (e.writeSequenced frame foreground).view.Faithful source := by
  have queued := faithful_queueSequencedOutput h genuine
  unfold writeSequenced
  split
  · exact h
  · split
    · split
      · exact faithful_requestSnapshotReplay queued
      · exact queued
    · rename_i ready
      split
      · exact h.mark
      · split
        · exact h
        · split
          · exact faithful_requestSnapshotReplay queued
          · rename_i shows _ follows
            simp only [not_or, not_not] at ready follows
            have idle : e.replay = none := Option.not_isSome_iff_eq_none.1 ready.2.2.2.1
            refine faithful_writeEntry (e := { e with outputSequence := some frame.outputSequence }) ?_ ready.1 idle
              (Bool.eq_false_iff.2 shows) foreground
            apply h.record genuine idle follows.1.symm follows.2
            change e.shown ++ (e.pendingOutput ++ [frame.bytes]).flatten = e.shown ++ e.pendingOutput.flatten ++ frame.bytes
            rw [List.flatten_append, List.flatten_singleton, List.append_assoc]

theorem faithful_park (h : e.view.Faithful source) : e.park.view.Faithful source := by
  unfold park
  split
  · exact h
  · apply h.drop
    intro still
    rw [Bool.or_eq_false_iff, Bool.or_eq_false_iff, Bool.not_eq_false', List.isEmpty_iff] at still
    exact still.1

theorem faithful_resumeOutputConsumption (h : e.view.Faithful source) :
    e.resumeOutputConsumption.view.Faithful source := by
  unfold resumeOutputConsumption
  split
  · exact h
  · split
    · exact h
    · rename_i stale
      have dropped : View.Faithful source { e.view with pending := [] } :=
        h.drop fun still => absurd (Bool.not_eq_true _ ▸ still) (not_not.1 stale ▸ nofun)
      split
      · exact dropped
      · exact faithful_requestSnapshotReplay dropped

section Replays

variable {replay : Replay} {frames : List SequencedOutputFrame} {covers : Nat} {alive : Bool}

theorem view_requeued (genuine : ∀ frame ∈ frames, frame.Genuine source)
    (before : ∀ frame ∈ e.pendingSequencedOutput, frame.Genuine source) :
    ∃ queued, (∀ frame ∈ queued, frame.Genuine source) ∧
      (frames.foldl queueSequencedOutput e).view = { e.view with queued } := by
  induction frames generalizing e with
  | nil => exact ⟨_, before, rfl⟩
  | cons frame rest ih =>
    obtain ⟨queued, genuine, same⟩ := ih (e := e.queueSequencedOutput frame)
      (fun frame member => genuine frame (List.mem_cons_of_mem _ member))
      (genuine_queueSequencedOutput (genuine frame List.mem_cons_self) before)
    exact ⟨queued, genuine, same⟩

theorem view_afterPass {pass : Pass} (genuine : ∀ frame ∈ pass.left, frame.Genuine source) :
    ∃ queued, (∀ frame ∈ queued, frame.Genuine source) ∧
      (e.afterPass pass).view = { e.view with queued, outputSequence := pass.outputSequence } := by
  unfold afterPass
  split
  · exact ⟨[], (fun _ member => nomatch member), rfl⟩
  · exact view_requeued (e := { e with pendingSequencedOutput := [], outputSequence := pass.outputSequence }) genuine
      fun _ member => nomatch member

theorem faithful_finishReplay (h : e.view.Applied source) : (e.finishReplay replay alive).view.Faithful source := by
  unfold finishReplay
  dsimp only
  split
  · exact h.faithful _
  · have same := view_markExited (e := { e with
      outputParked := false
      outputSnapshotStale := false
      hiddenOutputParkTimer := e.hiddenOutputParkTimer || !e.visible }) h.empty
    change View.Faithful source { (markExited _).view with replay := _ }
    rw [same]
    exact h.faithful _

theorem faithful_replayFrames (h : e.view.Applied source) : (e.replayFrames replay covers alive).view.Faithful source := by
  obtain ⟨queued, genuine, same⟩ := @view_afterPass _ e (e.pass covers)
    (fun frame member => h.queued frame ((passFrames_left _ _ _ _).subset member))
  have passed := h.pass covers genuine
  unfold replayFrames
  split
  · exact faithful_finishReplay h
  · split
    · rename_i nothing
      apply faithful_finishReplay
      rw [same]
      have none : (e.pass covers).live.flatten = [] := (List.append_eq_nil_iff.1 nothing).2
      change View.Applied source { e.view with shown := e.shown ++ (e.pass covers).live.flatten, queued, outputSequence := _ } at passed
      rw [none, List.append_nil] at passed
      exact passed
    · change View.Faithful source { (handOver _ _).view with replay := _ }
      rw [view_handOver, view_handOver, same]
      change View.Faithful source { e.view with
        shown := e.shown ++ [] ++ (e.pass covers).live.flatten, queued, outputSequence := _, replay := _ }
      rw [List.append_nil]
      exact passed.faithful _

theorem faithful_applySnapshot (h : e.view.Faithful source) {taken : TerminalSnapshotResult}
    (genuine : taken.data = source.snapshot taken.paneGeneration taken.outputSequence)
    (restored : e.retains taken → e.pendingOutput = [] ∧ e.overflowed = false) :
    (e.applySnapshot replay taken).view.Faithful source := by
  unfold applySnapshot
  dsimp only
  split
  · rename_i retains
    obtain ⟨empty, kept⟩ := restored retains
    rw [Entry.retains, Bool.and_eq_true, Bool.and_eq_true, Bool.and_eq_true, Bool.not_eq_true', decide_eq_true_eq,
      decide_eq_true_eq] at retains
    apply faithful_replayFrames
    refine ⟨rfl, h.queued, fun generation last here recorded => ?_, rfl, kept⟩
    cases here
    cases recorded
    obtain ⟨first, le, eq⟩ := h.shows retains.1.1.2 kept _ _ retains.1.2 retains.2
    change e.shown ++ e.pendingOutput.flatten = _ at eq
    rw [empty] at eq
    exact ⟨first, le, eq⟩
  · have applied : View.Applied source { e.view with
        shown := taken.data, pending := [], paneGeneration := some taken.paneGeneration
        outputSequence := some taken.outputSequence, overflowed := false } := by
      refine ⟨rfl, h.queued, fun generation last here recorded => ?_, rfl, rfl⟩
      cases here
      cases recorded
      refine ⟨taken.outputSequence, Nat.le_refl _, ?_⟩
      change taken.data ++ [] = _
      rw [genuine, source.between_self]
    have same : ([Written.snapshot taken.data].map Written.shown).flatten = taken.data := List.append_nil _
    change View.Faithful source { e.view with
      shown := ([Written.snapshot taken.data].map Written.shown).flatten, pending := [], paneGeneration := _
      outputSequence := _, overflowed := false, replay := _ }
    rw [same]
    exact applied.faithful _

/-- If output has been dropped, the snapshot is another one than the buffer is thought to show, and it comes. -/
def Restored (e : Entry) : Act → Prop
  | .snapshot (.ok taken) => (e.retains taken → e.pendingOutput = [] ∧ e.overflowed = false) ∧
    (e.sessionId ≠ some taken.sessionId ∨ taken.paneId ≠ e.paneId → e.overflowed = false)
  | .snapshot (.error _) => e.overflowed = false
  | _ => True

instance (e : Entry) (act : Act) : Decidable (e.Restored act) :=
  match act with
  | .snapshot (.ok _) => inferInstanceAs (Decidable (_ ∧ _))
  | .snapshot (.error _) => inferInstanceAs (Decidable (_ = _))
  | .attach _ | .reattach _ _ | .attached _ _ | .output _ _ | .drain _ | .flush _ | .parsed | .exited | .notice _
  | .hide | .reveal | .focus | .park | .lease _ | .adoptLease _ | .data _ | .wrote _ | .flushed | .replayed _
  | .settled | .again => .isTrue trivial

theorem faithful_replayPane (h : e.view.Faithful source) {result : Except Unit TerminalSnapshotResult}
    (genuine : (Act.snapshot result).Genuine source) (restored : e.Restored (.snapshot result))
    (requested : e.replay = some replay) : (e.replayPane replay result).view.Faithful source := by
  unfold replayPane
  split
  · exact h.settle restored replay
  · split
    · rename_i changed
      cases kept : e.overflowed with
      | false => exact h.settle kept replay
      | true =>
        obtain ⟨other, same, _, session, revision⟩ := h.awaited kept
        cases requested.symm.trans same
        exact absurd changed (not_or.2 ⟨not_not_intro session, not_not_intro revision⟩)
    · rename_i current
      rw [not_or, not_not, not_not] at current
      split
      · rename_i mismatch
        apply h.settle (restored.2 _) replay
        rw [current.1]
        exact mismatch.imp_left fun different same => different (Option.some.inj same).symm
      · exact faithful_applySnapshot h genuine restored.1

theorem faithful_replayed (h : e.view.Faithful source) (answers : List String) :
    (e.replayed answers).view.Faithful source := by
  unfold replayed
  split
  · rename_i replay here
    split
    · rename_i restoring
      apply faithful_replayFrames
      rw [view_congr (muted_answerQueries _ answers)]
      exact h.applied ⟨replay, here, by rw [restoring]; exact nofun, by rw [restoring]; exact nofun⟩
    · rename_i draining
      have applied : (e.answerQueries answers).view.Applied source := by
        rw [view_congr (muted_answerQueries _ answers)]
        exact h.applied ⟨replay, here, by rw [draining]; exact nofun, by rw [draining]; exact nofun⟩
      split
      · exact faithful_finishReplay applied
      · exact faithful_replayFrames applied
    · exact h
  · exact h

theorem faithful_settled (h : e.view.Faithful source) : e.settled.view.Faithful source := by
  unfold settled
  split
  · rename_i finished
    exact h.clear (Option.map_eq_some_iff.1 finished)
  · exact h

theorem faithful_again (h : e.view.Faithful source) : e.again.view.Faithful source := by
  unfold again
  split
  · exact faithful_requestSnapshotReplay (e := { e with replayQueued := false }) h
  · exact h

end Replays

section Attaching

theorem faithful_changeSession (h : e.view.Faithful source) (sessionId : Option String) :
    (e.changeSession sessionId).view.Faithful source := by
  unfold changeSession
  split
  · exact h.forget
  · exact h.forget

theorem faithful_attach (h : e.view.Faithful source) (sessionId : Option String) :
    (e.attach sessionId).view.Faithful source := by
  unfold attach
  split
  · split
    · exact faithful_changeSession h none
    · exact faithful_changeSession h _
  · split
    · exact h
    · split
      · exact h
      · exact h

theorem faithful_reattachToDaemon (h : e.view.Faithful source) (sessionId : String) (force : Bool) :
    (e.reattachToDaemon sessionId force).view.Faithful source := by
  unfold reattachToDaemon
  dsimp only
  split
  · exact h.forget
  · exact h

theorem faithful_attached (h : e.view.Faithful source) (i : Nat) (ok : Bool) :
    (e.attached i ok).view.Faithful source := by
  unfold attached
  split
  · exact h
  · split
    · exact h
    · split
      · rw [view_congr (muted_flushPendingInput _)]
        split
        · exact faithful_requestSnapshotReplay h
        · exact h
      · rw [view_congr (muted_noticeFailure _ _)]
        exact h

theorem faithful_setRemotePaneLease (h : e.view.Faithful source) (held : Bool) :
    (e.setRemotePaneLease held).view.Faithful source := by
  unfold setRemotePaneLease
  split
  · exact h
  · rw [view_congr (muted_flushPendingInput _)]
    exact h

theorem faithful_onData (h : e.view.Faithful source) (data : String) : (e.onData data).view.Faithful source := by
  unfold onData
  split
  · exact h
  · rw [view_congr (muted_enqueueInput _ data)]
    split
    · exact faithful_resumeOutputConsumption h
    · exact h

end Attaching

theorem faithful_next (h : e.view.Faithful source) {act : Act} (genuine : act.Genuine source)
    (restored : e.Restored act) : (e.next act).view.Faithful source := by
  cases act with
  | attach sessionId => exact faithful_attach h sessionId
  | reattach sessionId force => exact faithful_reattachToDaemon h sessionId force
  | attached i ok => exact faithful_attached h i ok
  | output frame foreground => exact faithful_writeSequenced h genuine foreground
  | drain budget => exact faithful_flushOutput h budget false
  | flush budget => exact faithful_flushOutput h budget true
  | parsed => exact h
  | exited => exact faithful_markExited h
  | notice text =>
    rw [next, view_notice]
    exact h
  | hide => exact h
  | reveal => exact faithful_resumeOutputConsumption (e := { e with visible := true }) h
  | focus =>
    unfold next
    dsimp only
    split
    · exact h
    · exact faithful_resumeOutputConsumption h
  | park =>
    unfold next
    dsimp only
    split
    · exact faithful_park h
    · exact h
  | lease held => exact faithful_setRemotePaneLease h held
  | adoptLease held => exact h
  | data data => exact faithful_onData h data
  | wrote ok =>
    rw [next, view_congr (muted_wrote _ ok)]
    exact h
  | flushed =>
    rw [next, view_congr (muted_flushed _)]
    exact h
  | snapshot result =>
    unfold next
    dsimp only
    split
    · rename_i replay here
      split
      · exact faithful_replayPane h genuine restored here
      · exact h
    · exact h
  | replayed answers => exact faithful_replayed h answers
  | settled => exact faithful_settled h
  | again => exact faithful_again h

end Steps

theorem faithful_created (source : Source) (paneId : String) (remoteLease : Bool) :
    (created paneId remoteLease).view.Faithful source where
  paired := rfl
  queued _ member := nomatch member
  shows _ _ := View.Shows.of_none rfl
  replaying := fun ⟨_, same, _⟩ => nomatch same
  awaited := nofun

def handed (e : Entry) : Bytes := (e.written.map Written.bytes).flatten

def query : Bytes := [0x1b, 0x5b, 0x36, 0x6e]

def querying : Source := .ofOutput fun _ _ => query

/-- The query comes while a snapshot is on its way that has it, too. -/
def asked : List Act := [.attach (some "s"), .attached 0 true, .output ⟨1, 1, query⟩ false,
  .snapshot (.ok ⟨"s", "p", 1, 1, true, query⟩), .replayed [], .replayed [], .settled]

/-- A pane is hidden and its output parked, and on being shown it gets another snapshot. -/
def parked : List Act := [.attach (some "s"), .attached 0 true, .output ⟨1, 1, query⟩ false,
  .snapshot (.ok ⟨"s", "p", 1, 1, true, query⟩), .replayed [], .replayed [], .settled, .output ⟨1, 2, query⟩ false,
  .drain 2, .hide, .park, .output ⟨1, 3, query⟩ false, .reveal,
  .snapshot (.ok ⟨"s", "p", 1, 3, true, query ++ query ++ query⟩), .replayed [], .replayed [], .settled,
  .output ⟨1, 4, query⟩ true]

end Entry

end VibeLink.Terminal
