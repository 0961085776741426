import VibeLink.Terminal.Snapshots
import Mathlib.Data.List.Induction

/-! What is left of the queued frames after a replay, and whether the replays come to an end. -/

namespace VibeLink.Terminal

open Relational
open VibeLink.Daemon (Bytes)

namespace SequencedOutputFrame

/-- The generations of a pane grow, and in each its frames are numbered. -/
def Upto (frame next : SequencedOutputFrame) : Prop := frame.paneGeneration < next.paneGeneration ∨
  frame.paneGeneration = next.paneGeneration ∧ frame.outputSequence ≤ next.outputSequence

def Ahead (generation last : Nat) (frame : SequencedOutputFrame) : Prop := generation < frame.paneGeneration ∨
  frame.paneGeneration = generation ∧ last + 1 < frame.outputSequence

def Within (frame : SequencedOutputFrame) (taken : TerminalSnapshotResult) : Prop :=
  frame.paneGeneration < taken.paneGeneration ∨
    frame.paneGeneration = taken.paneGeneration ∧ frame.outputSequence ≤ taken.outputSequence

theorem Ahead.upto {generation last : Nat} {frame next : SequencedOutputFrame} (h : frame.Ahead generation last)
    (upto : frame.Upto next) : next.Ahead generation last := by
  unfold Ahead Upto at *
  omega

end SequencedOutputFrame

section Queues

variable {frames : List SequencedOutputFrame} {generation covers last : Nat}

theorem left_ahead (order : frames.Pairwise SequencedOutputFrame.Upto)
    (late : ∀ frame ∈ frames, generation ≤ frame.paneGeneration) : ∃ newest, last ≤ newest ∧
      (passFrames (some generation) covers (some last) frames).outputSequence = some newest ∧
      ∀ frame ∈ (passFrames (some generation) covers (some last) frames).left, frame.Ahead generation newest := by
  induction frames generalizing last with
  | nil => exact ⟨last, Nat.le_refl _, rfl, fun _ member => nomatch member⟩
  | cons frame rest ih =>
    have ih {last : Nat} := @ih last order.of_cons fun other member => late other (List.mem_cons_of_mem _ member)
    rw [passFrames]
    split
    · exact ih
    · split
      · exact ih
      · rename_i uncovered unseen
        split
        · rename_i apart
          have here : generation ≤ frame.paneGeneration := late frame List.mem_cons_self
          have ahead : frame.Ahead generation last := by
            unfold SequencedOutputFrame.Ahead
            simp only [ne_eq, Option.some.injEq, Option.getD_some] at unseen apart
            omega
          refine ⟨last, Nat.le_refl _, rfl, fun other member => ?_⟩
          cases member with
          | head => exact ahead
          | tail _ member => exact ahead.upto (List.rel_of_pairwise_cons order member)
        · rename_i follows
          rw [not_or, not_not, not_not, Option.getD_some] at follows
          obtain ⟨newest, le, same, ahead⟩ := @ih frame.outputSequence
          exact ⟨newest, by omega, same, ahead⟩

theorem left_of_earlier (order : frames.Pairwise SequencedOutputFrame.Upto) {frame : SequencedOutputFrame}
    (member : frame ∈ frames) (earlier : frame.paneGeneration < generation) :
    passFrames (some generation) covers (some last) frames = ⟨[], [], some last, frames⟩ := by
  cases frames with
  | nil => exact nomatch member
  | cons first rest =>
    have before : first.paneGeneration ≤ frame.paneGeneration := by
      cases member with
      | head => exact Nat.le_refl _
      | tail _ member =>
        have upto := List.rel_of_pairwise_cons order member
        unfold SequencedOutputFrame.Upto at upto
        omega
    have other : some first.paneGeneration ≠ some generation := by
      rw [Ne, Option.some.injEq]
      omega
    rw [passFrames, if_neg fun same => other same.1, if_neg fun same => other same.1, if_pos (.inl other)]

theorem left_of_covered
    (covered : ∀ frame ∈ frames, frame.paneGeneration = generation ∧ frame.outputSequence ≤ covers) :
    (passFrames (some generation) covers (some last) frames).left = [] := by
  induction frames with
  | nil => rfl
  | cons frame rest ih =>
    obtain ⟨same, le⟩ := covered frame List.mem_cons_self
    rw [passFrames, if_pos ⟨congrArg some same, le⟩]
    exact ih fun other member => covered other (List.mem_cons_of_mem _ member)

def Fits (frames : List SequencedOutputFrame) : Prop :=
  frames.length ≤ 1 ∨ frameBytes frames ≤ MAX_PENDING_OUTPUT_BYTES

theorem trimFrames_of_fits (fits : Fits frames) : trimFrames frames = frames := by
  cases frames with
  | nil => rfl
  | cons frame rest =>
    cases rest with
    | nil => rfl
    | cons next rest =>
      rw [trimFrames, if_neg]
      exact Nat.not_lt.2 (fits.resolve_left (Nat.not_le.2 (Nat.le_add_left 2 rest.length)))

theorem fits_trimFrames (frames : List SequencedOutputFrame) : Fits (trimFrames frames) := by
  induction frames with
  | nil => exact .inl (Nat.zero_le _)
  | cons frame rest ih =>
    cases rest with
    | nil => exact .inl (Nat.le_refl _)
    | cons next rest =>
      rw [trimFrames]
      split
      · exact ih
      · rename_i few
        exact .inr (Nat.not_lt.1 few)

theorem Fits.front {back : List SequencedOutputFrame} (fits : Fits (frames ++ back)) : Fits frames := by
  unfold Fits frameBytes totalBytes at *
  rw [List.length_append, List.map_append, List.map_append, List.sum_append] at fits
  omega

def requeued (frames : List SequencedOutputFrame) : List SequencedOutputFrame :=
  frames.foldl (fun queue frame => trimFrames (queue ++ [frame])) []

theorem requeued_append {back : List SequencedOutputFrame} (fits : Fits (frames ++ back)) :
    back.foldl (fun queue frame => trimFrames (queue ++ [frame])) frames = frames ++ back := by
  induction back generalizing frames with
  | nil => exact (List.append_nil _).symm
  | cons frame rest ih =>
    rw [List.append_cons] at fits
    rw [List.foldl_cons, trimFrames_of_fits fits.front, ih fits, ← List.append_cons]

theorem requeued_of_fits (fits : Fits frames) : requeued frames = frames := requeued_append fits

theorem requeued_subset (frames : List SequencedOutputFrame) : requeued frames ⊆ frames := by
  induction frames using List.reverseRecOn with
  | nil => exact List.Subset.refl _
  | append_singleton front frame ih =>
    rw [requeued, List.foldl_append]
    exact List.Subset.trans (trimFrames_suffix _).subset (List.append_subset.2
      ⟨List.Subset.trans ih (List.subset_append_left _ _), List.subset_append_right _ _⟩)

end Queues

namespace Entry

/-- What of a pane has to do with asking for replays. -/
structure Asking where
  opened : Bool
  paneId : String
  sessionId : Option String
  revision : Nat
  queued : List SequencedOutputFrame
  paneGeneration : Option Nat
  outputSequence : Option Nat
  again : Bool
  queuedAgain : Bool

def asking (e : Entry) : Asking where
  opened := e.opened
  paneId := e.paneId
  sessionId := e.sessionId
  revision := e.replayRevision
  queued := e.pendingSequencedOutput
  paneGeneration := e.paneGeneration
  outputSequence := e.outputSequence
  again := e.replayAgain
  queuedAgain := e.replayQueued

section Frames

variable (e : Entry) (replay : Replay)

theorem asking_answerQueries (answers : List String) : (e.answerQueries answers).asking = e.asking := by
  have same := congrArg asking (e.muted_answerQueries answers)
  exact same

theorem asking_flushOutput (budget : Nat) (force : Bool) : (e.flushOutput budget force).asking = e.asking := by
  unfold flushOutput
  split <;> rfl

theorem asking_flushAllFrom (fuel : Nat) : (e.flushAllFrom fuel).asking = e.asking := by
  induction fuel generalizing e with
  | zero => rfl
  | succ fuel ih => rw [flushAllFrom, ih, asking_flushOutput]

theorem asking_handedOver (queries output : Bytes) (phase : ReplayPhase) :
    (((e.handOver (.queries queries)).handOver (.output output)).setPhase replay phase).asking = e.asking := rfl

theorem asking_markExited : e.markExited.asking = e.asking := e.asking_flushAllFrom _

theorem asking_finishReplay (alive : Bool) : (e.finishReplay replay alive).asking = e.asking := by
  unfold finishReplay
  dsimp only
  split
  · rfl
  · change (markExited _).asking = _
    rw [asking_markExited]
    rfl

theorem asking_foldl_queueSequencedOutput (frames : List SequencedOutputFrame) :
    (frames.foldl queueSequencedOutput e).asking = { e.asking with
      queued := frames.foldl (fun queue frame => trimFrames (queue ++ [frame])) e.pendingSequencedOutput } := by
  induction frames generalizing e with
  | nil => rfl
  | cons frame rest ih =>
    rw [List.foldl_cons, ih]
    rfl

theorem asking_afterPass (pass : Pass) : (e.afterPass pass).asking = { e.asking with
    queued := requeued pass.left
    outputSequence := pass.outputSequence
    again := e.replayAgain || !pass.left.isEmpty } := by
  unfold afterPass
  split
  · rename_i none
    rw [none, List.isEmpty_nil, Bool.not_true, Bool.or_false]
    rfl
  · rename_i some
    have same := asking_foldl_queueSequencedOutput { e with pendingSequencedOutput := [], outputSequence := pass.outputSequence } pass.left
    have more : pass.left.isEmpty = false := List.isEmpty_eq_false_iff.2 some
    rw [more, Bool.not_false, Bool.or_true]
    change ({ asking (pass.left.foldl _ _) with again := true } : Asking) = _
    rw [same]
    rfl

variable {e} in
theorem queued_congr {e' : Entry} (same : e.muted = e'.muted) :
    e.pendingSequencedOutput = e'.pendingSequencedOutput := by
  have queued := congrArg Entry.pendingSequencedOutput same
  exact queued

theorem queued_requestSnapshotReplay : e.requestSnapshotReplay.pendingSequencedOutput = e.pendingSequencedOutput := by
  unfold requestSnapshotReplay
  split
  · rfl
  · split
    · rfl
    · split <;> rfl

theorem queued_queueOutput (bytes : Bytes) :
    (e.queueOutput bytes).pendingSequencedOutput = e.pendingSequencedOutput := by
  unfold queueOutput handlePendingOutputOverflow
  split
  · split
    · exact queued_requestSnapshotReplay _
    · rfl
  · rfl

theorem queued_writeEntry (bytes : Bytes) (foreground : Bool) :
    (e.writeEntry bytes foreground).pendingSequencedOutput = e.pendingSequencedOutput := by
  unfold writeEntry
  split
  · rfl
  · split
    · exact e.queued_queueOutput bytes
    · split
      · split
        · rfl
        · exact congrArg Asking.queued (asking_flushOutput _ _ _)
      · exact e.queued_queueOutput bytes

theorem queued_resumeOutputConsumption :
    e.resumeOutputConsumption.pendingSequencedOutput = e.pendingSequencedOutput := by
  unfold resumeOutputConsumption
  split
  · rfl
  · split
    · rfl
    · split
      · rfl
      · exact queued_requestSnapshotReplay _

theorem queued_attach (sessionId : Option String) :
    (e.attach sessionId).pendingSequencedOutput = e.pendingSequencedOutput := by
  have changed (sessionId : Option String) :
      (e.changeSession sessionId).pendingSequencedOutput = e.pendingSequencedOutput := by
    unfold changeSession
    split <;> rfl
  unfold attach
  split
  · split
    · exact changed none
    · exact changed _
  · split
    · rfl
    · split <;> rfl

theorem queued_attached (i : Nat) (ok : Bool) :
    (e.attached i ok).pendingSequencedOutput = e.pendingSequencedOutput := by
  unfold attached
  split
  · rfl
  · split
    · rfl
    · split
      · apply (queued_congr (muted_flushPendingInput _)).trans
        split
        · exact queued_requestSnapshotReplay _
        · rfl
      · exact (queued_congr (muted_noticeFailure _ _)).trans rfl

theorem queued_onData (data : String) : (e.onData data).pendingSequencedOutput = e.pendingSequencedOutput := by
  unfold onData
  split
  · rfl
  · apply (queued_congr (muted_enqueueInput _ data)).trans
    split
    · exact e.queued_resumeOutputConsumption
    · rfl

end Frames

section Fits

variable {e : Entry}

theorem fits_of_asking {e' : Entry} {asking : Asking} (h : Fits asking.queued) (same : e'.asking = asking) :
    Fits e'.pendingSequencedOutput := by
  subst same
  exact h

theorem fits_writeSequenced (h : Fits e.pendingSequencedOutput) (frame : SequencedOutputFrame) (foreground : Bool) :
    Fits (e.writeSequenced frame foreground).pendingSequencedOutput := by
  have queued : Fits (e.queueSequencedOutput frame).pendingSequencedOutput := fits_trimFrames _
  unfold writeSequenced
  split
  · exact h
  · split
    · split
      · rw [queued_requestSnapshotReplay]
        exact queued
      · exact queued
    · split
      · exact h
      · split
        · exact h
        · split
          · rw [queued_requestSnapshotReplay]
            exact queued
          · rw [queued_writeEntry]
            exact h

theorem fits_requeued (frames : List SequencedOutputFrame) : Fits (requeued frames) := by
  induction frames using List.reverseRecOn with
  | nil => exact .inl (Nat.zero_le _)
  | append_singleton front frame _ =>
    rw [requeued, List.foldl_append]
    exact fits_trimFrames _

theorem fits_finishReplay (h : Fits e.pendingSequencedOutput) (replay : Replay) (alive : Bool) :
    Fits (e.finishReplay replay alive).pendingSequencedOutput :=
  fits_of_asking h (e.asking_finishReplay replay alive)

theorem fits_replayFrames (h : Fits e.pendingSequencedOutput) (replay : Replay) (covers : Nat) (alive : Bool) :
    Fits (e.replayFrames replay covers alive).pendingSequencedOutput := by
  have passed : Fits (e.afterPass (e.pass covers)).pendingSequencedOutput :=
    fits_of_asking (fits_requeued _) (e.asking_afterPass (e.pass covers))
  unfold replayFrames
  split
  · exact fits_finishReplay h replay alive
  · split
    · exact fits_finishReplay passed replay alive
    · exact passed

theorem fits_replayPane (h : Fits e.pendingSequencedOutput) (replay : Replay)
    (result : Except Unit TerminalSnapshotResult) : Fits (e.replayPane replay result).pendingSequencedOutput := by
  unfold replayPane
  split
  · exact h
  · split
    · exact h
    · split
      · exact h
      · unfold applySnapshot
        dsimp only
        split
        · exact fits_replayFrames (e := { e with pendingOutput := [], paneGeneration := _, outputSequence := _, daemonAttached := _ }) h _ _ _
        · exact h

theorem fits_replayed (h : Fits e.pendingSequencedOutput) (answers : List String) :
    Fits (e.replayed answers).pendingSequencedOutput := by
  have answered : Fits (e.answerQueries answers).pendingSequencedOutput :=
    (queued_congr (e.muted_answerQueries answers)).symm ▸ h
  unfold replayed
  split
  · split
    · exact fits_replayFrames answered _ _ _
    · split
      · exact fits_finishReplay answered _ _
      · exact fits_replayFrames answered _ _ _
    · exact h
  · exact h

theorem fits_next (h : Fits e.pendingSequencedOutput) (act : Act) : Fits (e.next act).pendingSequencedOutput := by
  cases act with
  | attach sessionId => exact (e.queued_attach sessionId).symm ▸ h
  | reattach sessionId force =>
    unfold next reattachToDaemon
    dsimp only
    split <;> exact h
  | attached i ok => exact (e.queued_attached i ok).symm ▸ h
  | output frame foreground => exact fits_writeSequenced h frame foreground
  | drain budget => exact fits_of_asking h (e.asking_flushOutput budget false)
  | flush budget => exact fits_of_asking h (e.asking_flushOutput budget true)
  | exited => exact fits_of_asking h e.asking_markExited
  | parsed | notice _ | hide | adoptLease _ => exact h
  | reveal => exact (queued_resumeOutputConsumption { e with visible := true }).symm ▸ h
  | focus =>
    unfold next
    dsimp only
    split
    · exact h
    · exact e.queued_resumeOutputConsumption.symm ▸ h
  | park =>
    unfold next park
    dsimp only
    split
    · split <;> exact h
    · exact h
  | lease held =>
    unfold next setRemotePaneLease
    dsimp only
    split
    · exact h
    · exact (queued_congr (muted_flushPendingInput _)).symm ▸ h
  | data data => exact (e.queued_onData data).symm ▸ h
  | wrote ok => exact (queued_congr (e.muted_wrote ok)).symm ▸ h
  | flushed => exact (queued_congr e.muted_flushed).symm ▸ h
  | snapshot result =>
    unfold next
    dsimp only
    split
    · split
      · exact fits_replayPane h _ result
      · exact h
    · exact h
  | replayed answers => exact fits_replayed h answers
  | settled =>
    unfold next settled
    dsimp only
    split <;> exact h
  | again =>
    unfold next again
    dsimp only
    split
    · rw [queued_requestSnapshotReplay]
      exact h
    · exact h

theorem fits_run (paneId : String) (remoteLease : Bool) (acts : List Act) :
    Fits (run paneId remoteLease acts).pendingSequencedOutput :=
  run_invariant (I := fun e : Entry => Fits e.pendingSequencedOutput) (fun _ act h _ => fits_next h act)
    (.inl (Nat.zero_le _)) (throughout_of_forall (P := fun _ _ => True) (fun _ _ _ => trivial) _)

end Fits

section Rounds

variable {e : Entry} {replay : Replay} {covers : Nat} {alive : Bool} {asking : Asking} {taken : TerminalSnapshotResult}

/-- The replay that is out is still wanted, and the snapshot is of its pane. -/
def Asks (e : Entry) (taken : TerminalSnapshotResult) : Prop :=
  e.replay = some ⟨taken.sessionId, e.replayRevision, .requested⟩ ∧ e.sessionId = some taken.sessionId ∧
    taken.paneId = e.paneId

def replays (e : Entry) (taken : TerminalSnapshotResult) (a b : List String) : Entry :=
  [Act.snapshot (.ok taken), .replayed a, .replayed b, .settled].foldl next e

def round (taken : TerminalSnapshotResult) (a b : List String) (e : Entry) : Entry := (e.replays taken a b).next .again

namespace Asking

def pass (asking : Asking) (covers : Nat) : Pass :=
  passFrames asking.paneGeneration covers asking.outputSequence asking.queued

def passed (asking : Asking) (covers : Nat) : Asking := { asking with
  queued := requeued (asking.pass covers).left
  outputSequence := (asking.pass covers).outputSequence
  again := asking.again || !(asking.pass covers).left.isEmpty }

def applied (asking : Asking) (taken : TerminalSnapshotResult) : Asking := { asking with
  paneGeneration := some taken.paneGeneration
  outputSequence := some taken.outputSequence }

def replayed (asking : Asking) (taken : TerminalSnapshotResult) : Asking :=
  (asking.applied taken).passed taken.outputSequence

/-- If another replay has been asked for meanwhile, it is to follow. -/
def settled (asking : Asking) : Asking :=
  { asking with again := false, queuedAgain := asking.queuedAgain || asking.again }

end Asking

theorem asking_passed (covers : Nat) (e : Entry) : (e.afterPass (e.pass covers)).asking = e.asking.passed covers :=
  asking_afterPass _ _

def Done (e : Entry) (replay : Replay) (asking : Asking) : Prop :=
  e.replay = some { replay with phase := .settled } ∧ e.asking = asking

/-- What has been handed over is being parsed; after it the replay is over. -/
def Drains (e : Entry) (replay : Replay) (covers : Nat) (alive : Bool) (asking : Asking) : Prop :=
  e.replay = some { replay with phase := .draining covers alive } ∧ e.asking = asking ∧
    (asking.again = true ∨ asking.queued = [])

theorem done_finishReplay (same : e.asking = asking) : (e.finishReplay replay alive).Done replay asking :=
  ⟨rfl, (e.asking_finishReplay replay alive).trans same⟩

theorem passed_none (none : asking.queued = []) : asking.passed covers = asking := by
  unfold Asking.passed Asking.pass
  rw [none]
  change ({ asking with queued := [], again := asking.again || !true } : Asking) = asking
  rw [Bool.not_true, Bool.or_false, ← none]

theorem done_or_drains : (e.replayFrames replay covers alive).Done replay (e.asking.passed covers) ∨
    (e.replayFrames replay covers alive).Drains replay covers alive (e.asking.passed covers) := by
  unfold replayFrames
  split
  · rename_i none
    exact .inl (done_finishReplay (passed_none none).symm)
  · split
    · exact .inl (done_finishReplay (asking_passed covers e))
    · refine .inr ⟨rfl, (asking_handedOver _ _ _ _ _).trans (asking_passed covers e), ?_⟩
      unfold Asking.passed
      cases (e.asking.pass covers).left with
      | nil => exact .inr rfl
      | cons frame rest => exact .inl (Bool.or_true _)

theorem Done.replayed (h : e.Done replay asking) (answers : List String) : (e.replayed answers).Done replay asking := by
  have same : e.replayed answers = e := by
    unfold Entry.replayed
    rw [h.1]
  rw [same]
  exact h

theorem Drains.replayed (h : e.Drains replay covers alive asking) (answers : List String) :
    (e.replayed answers).Done replay asking := by
  have answered : (e.answerQueries answers).asking = asking := (e.asking_answerQueries answers).trans h.2.1
  unfold Entry.replayed
  rw [h.1]
  dsimp only
  split
  · exact done_finishReplay answered
  · rename_i once
    have none : (e.answerQueries answers).pendingSequencedOutput = [] := by
      apply (congrArg Asking.queued answered).trans
      apply h.2.2.resolve_left
      rw [← answered]
      exact once
    unfold replayFrames
    rw [if_pos none]
    exact done_finishReplay answered

theorem done_replayed (answers : List String) :
    ((e.replayFrames replay covers alive).replayed answers).Done replay (e.asking.passed covers) := by
  cases @done_or_drains e replay covers alive with
  | inl done => exact done.replayed answers
  | inr drains => exact drains.replayed answers

theorem done_applySnapshot (a b : List String) :
    (((e.applySnapshot replay taken).replayed a).replayed b).Done replay (e.asking.replayed taken) := by
  unfold applySnapshot
  dsimp only
  split
  · exact (done_replayed a).replayed b
  · have restored : ∀ e : Entry, ∀ covers alive, ((e.setPhase replay (.restoring covers alive)).replayed a).replayed b =
        (((e.setPhase replay (.restoring covers alive)).answerQueries a).replayFrames
          { replay with phase := .restoring covers alive } covers alive).replayed b := fun _ _ _ => rfl
    rw [restored]
    have done := @done_replayed ((setPhase { e with
      pendingOutput := [], paneGeneration := some taken.paneGeneration, outputSequence := some taken.outputSequence
      daemonAttached := true, written := [.snapshot taken.data], overflowed := false } replay
        (.restoring taken.outputSequence taken.alive)).answerQueries a)
      { replay with phase := .restoring taken.outputSequence taken.alive } taken.outputSequence taken.alive b
    rw [asking_answerQueries] at done
    exact done

theorem next_snapshot (asks : e.Asks taken) : e.next (.snapshot (.ok taken)) =
    e.applySnapshot ⟨taken.sessionId, e.replayRevision, .requested⟩ taken := by
  obtain ⟨requested, session, pane⟩ := asks
  rw [next, requested]
  dsimp only
  rw [if_pos rfl, replayPane]
  dsimp only
  rw [if_neg (not_or.2 ⟨not_not_intro session, fun changed => changed rfl⟩),
    if_neg (not_or.2 ⟨fun changed => changed rfl, not_not_intro pane⟩)]

theorem replays_done (asks : e.Asks taken) (a b : List String) : (e.replays taken a b).replay = none ∧
    (e.replays taken a b).asking = (e.asking.replayed taken).settled := by
  have done := @done_applySnapshot e ⟨taken.sessionId, e.replayRevision, .requested⟩ taken a b
  rw [← next_snapshot asks] at done
  have finished : ∀ e : Entry, (e.replay.map Replay.phase) = some .settled → e.next .settled = { e with
      replay := none, replayAgain := false, replayQueued := e.replayQueued || e.replayAgain } := by
    intro e settled
    rw [next, Entry.settled, if_pos settled]
  have last := finished (((e.next (.snapshot (.ok taken))).replayed a).replayed b) (by rw [done.1]; rfl)
  have same : e.replays taken a b = (((e.next (.snapshot (.ok taken))).replayed a).replayed b).next .settled := rfl
  rw [same, last, ← done.2]
  exact ⟨rfl, rfl⟩

theorem round_done (asks : e.Asks taken) (a b : List String)
    (quiet : (e.asking.replayed taken).settled.queuedAgain = false) :
    (e.round taken a b).replay = none ∧ (e.round taken a b).asking = (e.asking.replayed taken).settled := by
  obtain ⟨idle, same⟩ := replays_done asks a b
  have unqueued : (e.replays taken a b).replayQueued = false := (congrArg Asking.queuedAgain same).trans quiet
  have still : e.round taken a b = e.replays taken a b := by
    rw [round, next, Entry.again, unqueued]
    rfl
  rw [still]
  exact ⟨idle, same⟩

theorem round_asks (asks : e.Asks taken) (opened : e.opened) (a b : List String)
    (more : (e.asking.replayed taken).settled.queuedAgain = true) : (e.round taken a b).Asks taken ∧
      (e.round taken a b).asking = { e.asking.replayed taken with again := false, queuedAgain := false } := by
  obtain ⟨idle, same⟩ := replays_done asks a b
  have queued : (e.replays taken a b).replayQueued = true := (congrArg Asking.queuedAgain same).trans more
  have session : (e.replays taken a b).sessionId = some taken.sessionId :=
    (congrArg Asking.sessionId same).trans asks.2.1
  have shown : (e.replays taken a b).opened = true := (congrArg Asking.opened same).trans opened
  have pane : (e.replays taken a b).paneId = e.paneId := congrArg Asking.paneId same
  have asked : e.round taken a b = { e.replays taken a b with
      replayQueued := false
      replay := some ⟨taken.sessionId, (e.replays taken a b).replayRevision, .requested⟩
      replayAgain := false } := by
    rw [round, next, Entry.again, if_pos queued, requestSnapshotReplay]
    simp only [session, shown, idle, not_true, if_false, Option.isSome_none, Bool.false_eq_true]
  rw [asked]
  refine ⟨⟨rfl, session, asks.2.2.trans pane.symm⟩, ?_⟩
  change ({ (e.replays taken a b).asking with again := false, queuedAgain := false } : Asking) = _
  rw [same]
  rfl

theorem replayed_of_earlier (order : asking.queued.Pairwise SequencedOutputFrame.Upto) (fits : Fits asking.queued)
    {frame : SequencedOutputFrame} (member : frame ∈ asking.queued)
    (earlier : frame.paneGeneration < taken.paneGeneration) :
    asking.replayed taken = { asking.applied taken with again := true } := by
  have pass : (asking.applied taken).pass taken.outputSequence = ⟨[], [], some taken.outputSequence, asking.queued⟩ :=
    left_of_earlier order member earlier
  have some : asking.queued.isEmpty = false := List.isEmpty_eq_false_iff.2 (List.ne_nil_of_mem member)
  unfold Asking.replayed Asking.passed
  rw [pass]
  dsimp only
  rw [requeued_of_fits fits, some, Bool.not_false, Bool.or_true]
  rfl

theorem replayed_of_covered (covered : ∀ frame ∈ asking.queued,
    frame.paneGeneration = taken.paneGeneration ∧ frame.outputSequence ≤ taken.outputSequence) :
    (asking.replayed taken).queued = [] ∧ (asking.replayed taken).again = asking.again := by
  have left : ((asking.applied taken).pass taken.outputSequence).left = [] := left_of_covered covered
  unfold Asking.replayed Asking.passed
  rw [left]
  exact ⟨rfl, Bool.or_false _⟩

/-- A replay is out for a queue that has a frame of an earlier generation in it. -/
structure Stuck (e : Entry) (taken : TerminalSnapshotResult) : Prop where
  asks : e.Asks taken
  opened : e.opened
  order : e.pendingSequencedOutput.Pairwise SequencedOutputFrame.Upto
  fits : Fits e.pendingSequencedOutput
  earlier : ∃ frame ∈ e.pendingSequencedOutput, frame.paneGeneration < taken.paneGeneration

theorem Stuck.round (h : e.Stuck taken) (a b : List String) : (e.round taken a b).Stuck taken := by
  obtain ⟨frame, member, earlier⟩ := h.earlier
  have replayed := @replayed_of_earlier e.asking _ h.order h.fits _ member earlier
  obtain ⟨asks, same⟩ := round_asks h.asks h.opened a b (by rw [replayed]; exact Bool.or_true _)
  rw [replayed] at same
  have queued : (e.round taken a b).pendingSequencedOutput = e.pendingSequencedOutput := congrArg Asking.queued same
  have opened : (e.round taken a b).opened = e.opened := congrArg Asking.opened same
  exact ⟨asks, opened.trans h.opened, queued ▸ h.order, queued ▸ h.fits, queued ▸ h.earlier⟩

theorem Stuck.forever (h : e.Stuck taken) (a b : List String) (n : Nat) :
    ((Entry.round taken a b)^[n] e).Stuck taken := by
  induction n generalizing e with
  | zero => exact h
  | succ n ih => exact ih (h.round a b)

theorem requestSnapshotReplay_hidden (hidden : e.opened = false) : e.requestSnapshotReplay = e := by
  unfold requestSnapshotReplay
  split
  · rfl
  · rw [if_pos (by rw [hidden]; exact Bool.false_ne_true)]

theorem ends_of_covered (asks : e.Asks taken) (a b : List String) (covered : ∀ frame ∈ e.pendingSequencedOutput,
    frame.paneGeneration = taken.paneGeneration ∧ frame.outputSequence ≤ taken.outputSequence) :
    ∃ n, ((round taken a b)^[n] e).replay = none := by
  cases more : (e.asking.replayed taken).settled.queuedAgain with
  | false => exact ⟨1, (round_done asks a b more).1⟩
  | true =>
    cases opened : e.opened with
    | false =>
      refine ⟨1, ?_⟩
      obtain ⟨idle, same⟩ := replays_done asks a b
      have hidden : (e.replays taken a b).opened = false := (congrArg Asking.opened same).trans opened
      change (e.replays taken a b).again.replay = none
      unfold Entry.again
      split
      · rw [requestSnapshotReplay_hidden (e := { e.replays taken a b with replayQueued := false }) hidden]
        exact idle
      · exact idle
    | true =>
      obtain ⟨asks', same⟩ := round_asks asks opened a b more
      have none : (e.round taken a b).asking.queued = [] := by
        rw [same]
        exact (@replayed_of_covered e.asking _ covered).1
      have quiet : ((e.round taken a b).asking.replayed taken).settled.queuedAgain = false := by
        have once := @replayed_of_covered (e.round taken a b).asking taken
          (by rw [none]; exact fun _ member => nomatch member)
        change ((e.round taken a b).asking.queuedAgain || ((e.round taken a b).asking.replayed taken).again) = false
        rw [once.2, same]
        rfl
      exact ⟨2, (round_done asks' a b quiet).1⟩

/-- What a replay leaves in the queue is ahead, and once the daemon is quiet the replays come to an end. -/
theorem ahead_iff_late (paneId : String) (remoteLease : Bool) (acts : List Act) (taken : TerminalSnapshotResult)
    (a b : List String) (asks : (run paneId remoteLease acts).Asks taken)
    (order : (run paneId remoteLease acts).pendingSequencedOutput.Pairwise SequencedOutputFrame.Upto) :
    ((∃ last, taken.outputSequence ≤ last ∧
      ((run paneId remoteLease acts).replays taken a b).outputSequence = some last ∧
      ∀ frame ∈ ((run paneId remoteLease acts).replays taken a b).pendingSequencedOutput,
        frame.Ahead taken.paneGeneration last) ∧
      ((∀ frame ∈ (run paneId remoteLease acts).pendingSequencedOutput, frame.Within taken) →
        ∃ n, ((round taken a b)^[n] (run paneId remoteLease acts)).replay = none)) ↔
    ∀ frame ∈ (run paneId remoteLease acts).pendingSequencedOutput, taken.paneGeneration ≤ frame.paneGeneration := by
  have fits := fits_run paneId remoteLease acts
  generalize run paneId remoteLease acts = e at *
  obtain ⟨_, same⟩ := replays_done asks a b
  have queued : (e.replays taken a b).pendingSequencedOutput = (e.asking.replayed taken).queued :=
    congrArg Asking.queued same
  have recorded : (e.replays taken a b).outputSequence = (e.asking.replayed taken).outputSequence :=
    congrArg Asking.outputSequence same
  rw [queued, recorded]
  constructor
  · intro h frame member
    obtain ⟨last, _, _, ahead⟩ := h.1
    apply Nat.not_lt.1
    intro earlier
    rw [@replayed_of_earlier e.asking _ order fits _ member earlier] at ahead
    have later := ahead frame member
    unfold SequencedOutputFrame.Ahead at later
    omega
  · intro late
    constructor
    · obtain ⟨last, le, recorded, ahead⟩ := @left_ahead _ _ taken.outputSequence taken.outputSequence
        order late
      exact ⟨last, le, recorded, fun frame member => ahead frame (requeued_subset _ member)⟩
    · intro within
      apply ends_of_covered asks
      intro frame member
      have upto := within frame member
      have from' := late frame member
      unfold SequencedOutputFrame.Within at upto
      omega

end Rounds

/-- A frame comes before the snapshot of a pane that has been started anew meanwhile. -/
def respawned : List Act := [.attach (some "s"), .attached 0 true, .output ⟨1, 5, [0x61]⟩ false]

def restarted : TerminalSnapshotResult := ⟨"s", "p", 2, 0, true, []⟩

theorem not_always_ends : (run "p" false respawned).Asks restarted ∧
    (run "p" false respawned).pendingSequencedOutput.Pairwise SequencedOutputFrame.Upto ∧
    (∀ frame ∈ (run "p" false respawned).pendingSequencedOutput, frame.Within restarted) ∧
    (⟨1, 5, [0x61]⟩ : SequencedOutputFrame) ∈
      ((run "p" false respawned).replays restarted [] []).pendingSequencedOutput ∧
    ∀ n, ((round restarted [] [])^[n] (run "p" false respawned)).replay ≠ none := by
  have queued : (run "p" false respawned).pendingSequencedOutput = [⟨1, 5, [0x61]⟩] := by decide +kernel
  have asks : (run "p" false respawned).Asks restarted := by
    unfold Asks
    decide +kernel
  have order : (run "p" false respawned).pendingSequencedOutput.Pairwise SequencedOutputFrame.Upto := by
    rw [queued]
    exact List.pairwise_singleton _ _
  have within : ∀ frame ∈ (run "p" false respawned).pendingSequencedOutput, frame.Within restarted := by
    intro frame member
    rw [queued, List.mem_singleton] at member
    rw [member]
    exact .inl (by decide)
  have stuck : (run "p" false respawned).Stuck restarted :=
    ⟨asks, by decide +kernel, order, fits_run _ _ _, ⟨_, by rw [queued]; exact List.mem_singleton_self _, by decide⟩⟩
  refine ⟨asks, order, within, by decide +kernel, fun n none => ?_⟩
  exact nomatch (stuck.forever [] [] n).asks.1.symm.trans none

/-- A frame that the snapshot covers, one that follows, one behind a gap, and one of the next generation. -/
def gapped : List Act := [.attach (some "s"), .attached 0 true, .output ⟨1, 1, [0x61]⟩ false,
  .output ⟨1, 2, [0x61]⟩ false, .output ⟨1, 4, [0x61]⟩ false, .output ⟨2, 1, [0x61]⟩ false]

theorem gapped_ahead : (run "p" false gapped).Asks ⟨"s", "p", 1, 1, true, [0x61]⟩ ∧
    ∀ frame ∈ ((run "p" false gapped).replays ⟨"s", "p", 1, 1, true, [0x61]⟩ [] []).pendingSequencedOutput,
      frame.Ahead 1 2 := by
  have queued : (run "p" false gapped).pendingSequencedOutput =
      [⟨1, 1, [0x61]⟩, ⟨1, 2, [0x61]⟩, ⟨1, 4, [0x61]⟩, ⟨2, 1, [0x61]⟩] := by decide +kernel
  have asks : (run "p" false gapped).Asks ⟨"s", "p", 1, 1, true, [0x61]⟩ := by
    unfold Asks
    decide +kernel
  have order : (run "p" false gapped).pendingSequencedOutput.Pairwise SequencedOutputFrame.Upto := by
    rw [queued]
    unfold SequencedOutputFrame.Upto
    decide
  obtain ⟨last, _, recorded, ahead⟩ := ((ahead_iff_late "p" false gapped _ [] [] asks order).2
    (by rw [queued]; decide)).1
  have same : ((run "p" false gapped).replays ⟨"s", "p", 1, 1, true, [0x61]⟩ [] []).outputSequence = some 2 := by
    decide +kernel
  cases recorded.symm.trans same
  exact ⟨asks, ahead⟩

end Entry

end VibeLink.Terminal
