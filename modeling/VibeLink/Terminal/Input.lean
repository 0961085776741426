import VibeLink.Terminal.Entry
import VibeLink.Relational.Runs

/-! The input of a pane: in which order it is sent, and how often. -/

namespace VibeLink.Terminal

open Relational

section Histories

variable {α : Type} {log before after : List α} {event last : α}

theorem append_singleton_eq_append_cons : log ++ [last] = before ++ event :: after ↔
    (after = [] ∧ before = log ∧ event = last) ∨ ∃ rest, after = rest ++ [last] ∧ log = before ++ event :: rest := by
  constructor
  · intro same
    cases after.eq_nil_or_concat with
    | inl none =>
      rw [none] at same
      obtain ⟨first, second⟩ := List.append_inj' same rfl
      cases second
      exact .inl ⟨none, first.symm, rfl⟩
    | inr some =>
      obtain ⟨rest, other, snoc⟩ := some
      rw [snoc, List.concat_eq_append, ← List.cons_append, ← List.append_assoc] at same
      obtain ⟨first, second⟩ := List.append_inj' same rfl
      cases second
      exact .inr ⟨rest, snoc.trans (List.concat_eq_append ..), first⟩
  · intro cases
    obtain ⟨rfl, rfl, rfl⟩ | ⟨rest, rfl, rfl⟩ := cases
    · rfl
    · rw [List.append_assoc, List.cons_append]

theorem earlier (same : log ++ [last] = before ++ event :: after) (differs : event ≠ last) :
    ∃ rest, after = rest ++ [last] ∧ log = before ++ event :: rest :=
  (append_singleton_eq_append_cons.1 same).resolve_left fun newest => differs newest.2.2

end Histories

def InputEvent.sends : InputEvent → Option PendingInputChunk
  | .sent chunk => some chunk
  | _ => none

/-- What is sent comes in order and again only if it has failed: when a chunk is sent, those that have been accepted before
it are acknowledged. -/
structure InTurn (log : List InputEvent) : Prop where
  ordered : ∀ before after chunk, log = before ++ .sent chunk :: after → .accepted chunk ∈ before ∧
    ∀ other, .accepted other ∈ before → other.number < chunk.number → .acknowledged other ∈ before
  retried : ∀ before after chunk other, log = before ++ .failed chunk :: after →
    after.findSome? InputEvent.sends = some other → other = chunk

def Once (log : List InputEvent) : Prop :=
  ∀ before after chunk, log = before ++ .acknowledged chunk :: after → .sent chunk ∉ after

theorem mem_of_snoc {log : List InputEvent} {event last : InputEvent} (member : event ∈ log ++ [last])
    (ne : event ≠ last) : event ∈ log := by
  cases List.mem_append.1 member with
  | inl before => exact before
  | inr new => exact absurd (List.mem_singleton.1 new) ne

theorem InTurn.snoc {log : List InputEvent} {last : InputEvent} (inTurn : InTurn log)
    (ordered : ∀ chunk, last = .sent chunk → .accepted chunk ∈ log ∧
      ∀ other, .accepted other ∈ log → other.number < chunk.number → .acknowledged other ∈ log)
    (retried : ∀ before after chunk other, log = before ++ .failed chunk :: after →
      after.findSome? InputEvent.sends = none → last.sends = some other → other = chunk) : InTurn (log ++ [last]) where
  ordered before after chunk same := by
    cases append_singleton_eq_append_cons.1 same with
    | inl newest =>
      obtain ⟨_, rfl, sent⟩ := newest
      exact ordered chunk sent.symm
    | inr older =>
      obtain ⟨rest, _, split⟩ := older
      exact inTurn.ordered before rest chunk split
  retried before after chunk other same next := by
    cases append_singleton_eq_append_cons.1 same with
    | inl newest =>
      rw [newest.1] at next
      cases next
    | inr older =>
      obtain ⟨rest, snoc, split⟩ := older
      rw [snoc, List.findSome?_append] at next
      cases found : rest.findSome? InputEvent.sends with
      | none =>
        rw [found] at next
        refine retried before rest chunk other split found ?_
        cases sent : last.sends with
        | none => simp [sent] at next
        | some chunk => simpa [sent] using next
      | some first =>
        rw [found] at next
        cases next
        exact inTurn.retried before rest chunk other split found

theorem InTurn.quiet {log : List InputEvent} {last : InputEvent} (inTurn : InTurn log) (silent : last.sends = none) :
    InTurn (log ++ [last]) :=
  inTurn.snoc (fun _ sent => nomatch (sent ▸ silent : (InputEvent.sent _).sends = none))
    fun _ _ _ _ _ _ next => nomatch silent.symm.trans next

namespace Entry

/-- What there is of a pane's input. -/
structure Typing where
  queue : List PendingInputChunk
  bytes : Nat
  accepted : Nat
  flush : Option Flush
  log : List InputEvent

def typing (e : Entry) : Typing := ⟨e.pendingInput, e.pendingInputBytes, e.accepted, e.inputFlush, e.input⟩

def Typing.Sending (t : Typing) : Prop := ∃ chunk sessionId generation, t.flush = some (.sending chunk sessionId generation)

structure Typing.Kept (t : Typing) : Prop where
  bytes : t.bytes = (t.queue.map PendingInputChunk.bytes).sum
  inTurn : InTurn t.log
  sorted : (t.queue.map PendingInputChunk.number).Pairwise (· < ·)
  counted : ∀ chunk ∈ t.queue, chunk.number < t.accepted
  accepted : ∀ chunk ∈ t.queue, .accepted chunk ∈ t.log
  removed : ∀ chunk, .accepted chunk ∈ t.log → chunk ∈ t.queue ∨ .acknowledged chunk ∈ t.log
  numbered : ∀ chunk, .acknowledged chunk ∈ t.log → chunk.number < t.accepted
  sending : ∀ chunk sessionId generation, t.flush = some (.sending chunk sessionId generation) →
    t.queue.head? = some chunk
  /-- What has failed and has not been sent again is the next. -/
  failed : ∀ before after chunk, t.log = before ++ .failed chunk :: after → after.findSome? InputEvent.sends = none →
    t.queue.head? = some chunk ∧ ¬t.Sending

/-- What has been acknowledged has gone from the queue. -/
structure Typing.Settled (t : Typing) : Prop where
  once : Once t.log
  gone : ∀ chunk, .acknowledged chunk ∈ t.log → chunk ∉ t.queue

namespace Typing

variable {t : Typing} {chunk : PendingInputChunk} {sessionId : String} {generation : Nat} {flush : Option Flush}

theorem mem_of_head (head : t.queue.head? = some chunk) : chunk ∈ t.queue := List.mem_of_head? head

theorem Kept.send (h : t.Kept) (head : t.queue.head? = some chunk) :
    Kept { t with flush := some (.sending chunk sessionId generation), log := t.log ++ [.sent chunk] } where
  bytes := h.bytes
  sorted := h.sorted
  counted := h.counted
  accepted other member := List.mem_append_left _ (h.accepted other member)
  removed other member := (h.removed other (mem_of_snoc member nofun)).imp id (List.mem_append_left _)
  numbered other member := h.numbered other (mem_of_snoc member nofun)
  sending other _ _ same := by
    cases same
    exact head
  failed before after other same none := by
    obtain ⟨rest, snoc, _⟩ := earlier same nofun
    rw [snoc, List.findSome?_append, Option.or_eq_none_iff] at none
    cases none.2
  inTurn := by
    have member := mem_of_head head
    refine h.inTurn.snoc (fun other same => ?_) fun before after other next split none same => ?_
    · cases same
      refine ⟨h.accepted chunk member, fun other came less => (h.removed other came).resolve_left fun inside => ?_⟩
      obtain ⟨rest, queue⟩ := List.head?_eq_some_iff.1 head
      have sorted := h.sorted
      rw [queue, List.map_cons, List.pairwise_cons] at sorted
      rw [queue] at inside
      cases List.mem_cons.1 inside with
      | inl same => exact absurd less (same ▸ Nat.lt_irrefl _)
      | inr later => exact absurd less (Nat.lt_asymm (sorted.1 _ (List.mem_map_of_mem later)))
    · cases same
      exact Option.some.inj (head.symm.trans (h.failed before after other split none).1)

theorem Settled.send (settled : t.Settled) (head : t.queue.head? = some chunk) :
    Settled { t with flush := some (.sending chunk sessionId generation), log := t.log ++ [.sent chunk] } where
  once before after other same := by
    obtain ⟨rest, snoc, split⟩ := earlier same nofun
    rw [snoc, List.mem_append, List.mem_singleton]
    intro again
    cases again with
    | inl earlier => exact settled.once before rest other split earlier
    | inr last =>
      cases last
      refine settled.gone chunk ?_ (mem_of_head head)
      rw [split]
      exact List.mem_append_right _ List.mem_cons_self
  gone other member := settled.gone other (mem_of_snoc member nofun)

theorem Kept.accept (h : t.Kept) (fresh : chunk.number = t.accepted) : Kept { t with
    queue := t.queue ++ [chunk]
    bytes := t.bytes + chunk.bytes
    accepted := t.accepted + 1
    log := t.log ++ [.accepted chunk] } where
  bytes := by
    rw [List.map_append, List.sum_append, ← h.bytes, List.map_singleton, List.sum_singleton]
  inTurn := h.inTurn.quiet rfl
  sorted := by
    rw [List.map_append, List.pairwise_append]
    refine ⟨h.sorted, List.pairwise_singleton _ _, fun number member last final => ?_⟩
    obtain ⟨other, inside, rfl⟩ := List.mem_map.1 member
    cases List.mem_singleton.1 final
    exact fresh ▸ h.counted other inside
  counted other member := by
    cases List.mem_append.1 member with
    | inl before => exact Nat.lt_succ_of_lt (h.counted other before)
    | inr new =>
      cases List.mem_singleton.1 new
      exact fresh ▸ Nat.lt_succ_self _
  accepted other member := by
    cases List.mem_append.1 member with
    | inl before => exact List.mem_append_left _ (h.accepted other before)
    | inr new =>
      cases List.mem_singleton.1 new
      exact List.mem_append_right _ List.mem_cons_self
  removed other member := by
    cases List.mem_append.1 member with
    | inl before => exact (h.removed other before).imp (List.mem_append_left _) (List.mem_append_left _)
    | inr new =>
      cases List.mem_singleton.1 new
      exact .inl (List.mem_append_right _ List.mem_cons_self)
  numbered other member := Nat.lt_succ_of_lt (h.numbered other (mem_of_snoc member nofun))
  sending other sessionId generation same := by
    rw [List.head?_append, h.sending other sessionId generation same]
    rfl
  failed before after other same none := by
    obtain ⟨rest, snoc, split⟩ := earlier same nofun
    rw [snoc, List.findSome?_append, Option.or_eq_none_iff] at none
    obtain ⟨waits, idle⟩ := h.failed before rest other split none.1
    refine ⟨?_, idle⟩
    rw [List.head?_append, waits]
    rfl

theorem Settled.accept (settled : t.Settled) (h : t.Kept) (fresh : chunk.number = t.accepted) : Settled { t with
    queue := t.queue ++ [chunk]
    bytes := t.bytes + chunk.bytes
    accepted := t.accepted + 1
    log := t.log ++ [.accepted chunk] } where
  once before after other same := by
    obtain ⟨rest, snoc, split⟩ := earlier same nofun
    rw [snoc]
    exact fun again => settled.once before rest other split (mem_of_snoc again nofun)
  gone other member := by
    have before := mem_of_snoc member nofun
    intro inside
    cases List.mem_append.1 inside with
    | inl old => exact settled.gone other before old
    | inr new =>
      cases List.mem_singleton.1 new
      exact absurd (h.numbered chunk before) (fresh ▸ Nat.lt_irrefl _)

theorem Kept.overlook (h : t.Kept) (head : t.queue.head? = some chunk) :
    Kept { t with flush := some .over, log := t.log ++ [.acknowledged chunk] } where
  bytes := h.bytes
  sorted := h.sorted
  counted := h.counted
  sending _ _ _ := nofun
  accepted other member := List.mem_append_left _ (h.accepted other member)
  removed other member := (h.removed other (mem_of_snoc member nofun)).imp id (List.mem_append_left _)
  numbered other member := by
    cases List.mem_append.1 member with
    | inl before => exact h.numbered other before
    | inr new =>
      cases List.mem_singleton.1 new
      exact h.counted chunk (mem_of_head head)
  inTurn := h.inTurn.quiet rfl
  failed before after other same none := by
    obtain ⟨rest, snoc, split⟩ := earlier same nofun
    rw [snoc, List.findSome?_append, Option.or_eq_none_iff] at none
    exact ⟨(h.failed before rest other split none.1).1, fun ⟨_, _, _, same⟩ => nomatch same⟩

theorem Kept.acknowledge (h : t.Kept) (sending : t.flush = some (.sending chunk sessionId generation)) : Kept { t with
    queue := t.queue.tail
    bytes := t.bytes - chunk.bytes
    flush := some .over
    log := t.log ++ [.acknowledged chunk] } := by
  obtain ⟨rest, queue⟩ := List.head?_eq_some_iff.1 (h.sending chunk sessionId generation sending)
  have overlooked := h.overlook (h.sending chunk sessionId generation sending)
  have sorted := h.sorted
  have counted := h.counted
  have accepted := overlooked.accepted
  have removed := overlooked.removed
  have bytes := h.bytes
  rw [queue, List.map_cons, List.pairwise_cons] at sorted
  rw [queue, List.map_cons, List.sum_cons] at bytes
  dsimp only at accepted removed
  rw [queue] at counted accepted removed
  simp only [queue, List.tail_cons]
  constructor
  · change t.bytes - chunk.bytes = _
    rw [bytes, Nat.add_sub_cancel_left]
  · exact overlooked.inTurn
  · exact sorted.2
  · exact fun other member => counted other (List.mem_cons_of_mem _ member)
  · exact fun other member => accepted other (List.mem_cons_of_mem _ member)
  · intro other member
    cases removed other member with
    | inr acknowledged => exact .inr acknowledged
    | inl inside =>
      cases List.mem_cons.1 inside with
      | inl same => exact .inr (same ▸ List.mem_append_right _ List.mem_cons_self)
      | inr later => exact .inl later
  · exact overlooked.numbered
  · exact fun _ _ _ => nofun
  · intro before after other same none
    obtain ⟨rest, snoc, split⟩ := earlier same nofun
    rw [snoc, List.findSome?_append, Option.or_eq_none_iff] at none
    exact absurd ⟨chunk, sessionId, generation, sending⟩ (h.failed before rest other split none.1).2

theorem Settled.acknowledge (settled : t.Settled) (h : t.Kept)
    (sending : t.flush = some (.sending chunk sessionId generation)) : Settled { t with
    queue := t.queue.tail
    bytes := t.bytes - chunk.bytes
    flush := some .over
    log := t.log ++ [.acknowledged chunk] } where
  once before after other same := by
    cases append_singleton_eq_append_cons.1 same with
    | inl newest =>
      rw [newest.1]
      exact nofun
    | inr older =>
      obtain ⟨rest, snoc, split⟩ := older
      rw [snoc]
      exact fun again => settled.once before rest other split (mem_of_snoc again nofun)
  gone other member := by
    obtain ⟨rest, queue⟩ := List.head?_eq_some_iff.1 (h.sending chunk sessionId generation sending)
    have sorted := h.sorted
    rw [queue, List.map_cons, List.pairwise_cons] at sorted
    dsimp only
    rw [queue, List.tail_cons]
    intro inside
    cases List.mem_append.1 member with
    | inl before => exact settled.gone other before (queue ▸ List.mem_cons_of_mem _ inside)
    | inr new =>
      cases List.mem_singleton.1 new
      exact Nat.lt_irrefl _ (sorted.1 _ (List.mem_map_of_mem inside))

theorem Kept.fail (h : t.Kept) (head : t.queue.head? = some chunk) :
    Kept { t with flush := some .over, log := t.log ++ [.failed chunk] } where
  bytes := h.bytes
  sorted := h.sorted
  counted := h.counted
  sending _ _ _ := nofun
  accepted other member := List.mem_append_left _ (h.accepted other member)
  removed other member := (h.removed other (mem_of_snoc member nofun)).imp id (List.mem_append_left _)
  numbered other member := h.numbered other (mem_of_snoc member nofun)
  inTurn := h.inTurn.quiet rfl
  failed before after other same none := by
    refine ⟨?_, fun ⟨_, _, _, same⟩ => nomatch same⟩
    cases append_singleton_eq_append_cons.1 same with
    | inl newest =>
      cases newest.2.2
      exact head
    | inr older =>
      obtain ⟨rest, snoc, split⟩ := older
      rw [snoc, List.findSome?_append, Option.or_eq_none_iff] at none
      exact (h.failed before rest other split none.1).1

theorem Settled.fail (settled : t.Settled) : Settled { t with flush := some .over, log := t.log ++ [.failed chunk] } where
  once before after other same := by
    obtain ⟨rest, snoc, split⟩ := earlier same nofun
    rw [snoc]
    exact fun again => settled.once before rest other split (mem_of_snoc again nofun)
  gone other member := settled.gone other (mem_of_snoc member nofun)

theorem Kept.rest (h : t.Kept) (idle : ∀ chunk sessionId generation, flush ≠ some (.sending chunk sessionId generation)) :
    Kept { t with flush } where
  bytes := h.bytes
  inTurn := h.inTurn
  sorted := h.sorted
  counted := h.counted
  accepted := h.accepted
  removed := h.removed
  numbered := h.numbered
  sending chunk sessionId generation same := absurd same (idle chunk sessionId generation)
  failed before after chunk split none :=
    ⟨(h.failed before after chunk split none).1, fun ⟨other, sessionId, generation, same⟩ =>
      idle other sessionId generation same⟩

end Typing

section Elsewhere

variable (e : Entry)

theorem typing_requestSnapshotReplay : e.requestSnapshotReplay.typing = e.typing := by
  unfold requestSnapshotReplay
  split
  · rfl
  · split
    · rfl
    · split
      · rfl
      · rfl

theorem typing_flushOutput (budget : Nat) (force : Bool) : (e.flushOutput budget force).typing = e.typing := by
  rw [flushOutput]
  split
  · rfl
  · rfl

theorem typing_flushAllFrom (fuel : Nat) : (flushAllFrom fuel e).typing = e.typing := by
  induction fuel generalizing e with
  | zero => rfl
  | succ fuel ih => rw [flushAllFrom, ih, typing_flushOutput]

theorem typing_markExited : e.markExited.typing = e.typing := typing_flushAllFrom e _

theorem typing_queueOutput (bytes : Daemon.Bytes) : (e.queueOutput bytes).typing = e.typing := by
  rw [queueOutput]
  split
  · rw [handlePendingOutputOverflow]
    split
    · exact typing_requestSnapshotReplay _
    · rfl
  · rfl

theorem typing_writeEntry (bytes : Daemon.Bytes) (foreground : Bool) :
    (e.writeEntry bytes foreground).typing = e.typing := by
  rw [writeEntry]
  split
  · rfl
  · split
    · exact typing_queueOutput e bytes
    · split
      · split
        · rfl
        · exact typing_flushOutput _ _ _
      · exact typing_queueOutput e bytes

theorem typing_writeSequenced (frame : SequencedOutputFrame) (foreground : Bool) :
    (e.writeSequenced frame foreground).typing = e.typing := by
  rw [writeSequenced]
  split
  · rfl
  · split
    · split
      · exact typing_requestSnapshotReplay _
      · rfl
    · split
      · rfl
      · split
        · rfl
        · split
          · exact typing_requestSnapshotReplay _
          · exact typing_writeEntry _ _ _

theorem typing_park : e.park.typing = e.typing := by
  rw [park]
  split
  · rfl
  · rfl

theorem typing_resumeOutputConsumption : e.resumeOutputConsumption.typing = e.typing := by
  rw [resumeOutputConsumption]
  split
  · rfl
  · split
    · rfl
    · split
      · rfl
      · exact typing_requestSnapshotReplay _

theorem typing_setPhase (replay : Replay) (phase : ReplayPhase) : (e.setPhase replay phase).typing = e.typing := rfl

theorem typing_finishReplay (replay : Replay) (alive : Bool) : (e.finishReplay replay alive).typing = e.typing := by
  rw [finishReplay, typing_setPhase]
  split
  · rfl
  · rw [typing_markExited]
    rfl

theorem typing_foldl_queue (frames : List SequencedOutputFrame) :
    (frames.foldl queueSequencedOutput e).typing = e.typing := by
  induction frames generalizing e with
  | nil => rfl
  | cons frame rest ih => exact ih _

theorem typing_afterPass (pass : Pass) : (e.afterPass pass).typing = e.typing := by
  rw [afterPass]
  split
  · rfl
  · exact typing_foldl_queue _ _

theorem typing_replayFrames (replay : Replay) (covers : Nat) (alive : Bool) :
    (e.replayFrames replay covers alive).typing = e.typing := by
  rw [replayFrames]
  split
  · rw [typing_finishReplay]
  · split
    · rw [typing_finishReplay, typing_afterPass]
    · rw [typing_setPhase]
      exact typing_afterPass e _

theorem typing_replayPane (replay : Replay) (result : Except Unit TerminalSnapshotResult) :
    (e.replayPane replay result).typing = e.typing := by
  cases result with
  | error => rfl
  | ok snapshot =>
    rw [replayPane]
    split
    · rfl
    · split
      · rfl
      · rw [applySnapshot]
        split
        · exact typing_replayFrames _ _ _ _
        · rfl

theorem typing_settled : e.settled.typing = e.typing := by
  rw [settled]
  split
  · rfl
  · rfl

theorem typing_again : e.again.typing = e.typing := by
  rw [again]
  split
  · exact typing_requestSnapshotReplay _
  · rfl

theorem typing_changeSession (sessionId : Option String) : (e.changeSession sessionId).typing = e.typing := by
  rw [changeSession]
  split
  · rfl
  · rfl

theorem typing_attach (sessionId : Option String) : (e.attach sessionId).typing = e.typing := by
  unfold attach
  split
  · cases sessionId with
    | none => exact typing_changeSession e _
    | some session => exact typing_changeSession e _
  · cases sessionId with
    | none => rfl
    | some session =>
      dsimp only
      split
      · rfl
      · rfl

theorem typing_reattachToDaemon (sessionId : String) (force : Bool) :
    (e.reattachToDaemon sessionId force).typing = e.typing := by
  rw [reattachToDaemon]
  split
  · rfl
  · rfl

theorem typing_noticeFailure (text : String) : (e.noticeFailure text).typing = e.typing := by
  rw [noticeFailure]
  split
  · rfl
  · rfl

end Elsewhere

section Steps

variable {e t u : Entry}

/-- What becomes of the input. -/
structure Goes (e t : Entry) : Prop where
  kept : e.typing.Kept → t.typing.Kept
  settled : e.typing.Kept → e.typing.Settled → t.typing.Settled

theorem Goes.of_typing (same : t.typing = e.typing) : e.Goes t := ⟨fun h => same ▸ h, fun _ h => same ▸ h⟩

theorem Goes.trans (first : e.Goes t) (second : t.Goes u) : e.Goes u :=
  ⟨fun h => second.kept (first.kept h), fun h settled => second.settled (first.kept h) (first.settled h settled)⟩

theorem Typing.Settled.rest {t : Typing} {flush : Option Flush} (h : t.Settled) : Settled { t with flush } := ⟨h.once, h.gone⟩

theorem goes_idle {flush : Option Flush}
    (idle : ∀ chunk sessionId generation, flush ≠ some (.sending chunk sessionId generation)) :
    e.Goes { e with inputFlush := flush } := ⟨fun h => h.rest idle, fun _ h => h.rest⟩

theorem goes_flushInputLoop (sessionId : String) (generation : Nat) : e.Goes (e.flushInputLoop sessionId generation) := by
  rw [flushInputLoop]
  split
  · exact goes_idle nofun
  · rename_i chunk rest queue
    have head : e.typing.queue.head? = some chunk := congrArg List.head? queue
    split
    · exact goes_idle nofun
    · exact ⟨fun h => h.send head, fun _ h => h.send head⟩

theorem goes_flushPendingInput : e.Goes e.flushPendingInput := by
  rw [flushPendingInput]
  split
  · exact .of_typing rfl
  · split
    · exact .of_typing rfl
    · exact goes_flushInputLoop _ _

theorem goes_enqueueInput (data : String) : e.Goes (e.enqueueInput data) := by
  rw [enqueueInput]
  split
  · split
    · exact .of_typing rfl
    · exact .of_typing rfl
  · refine Goes.trans ?_ goes_flushPendingInput
    exact ⟨fun h => h.accept rfl, fun h settled => settled.accept h rfl⟩

theorem goes_foldl_enqueueInput (answers : List String) : e.Goes (answers.foldl enqueueInput e) := by
  induction answers generalizing e with
  | nil => exact .of_typing rfl
  | cons answer rest ih => exact (goes_enqueueInput answer).trans ih

theorem goes_flushed : e.Goes e.flushed := by
  have idle : e.Goes { e with inputFlush := none } := goes_idle nofun
  rw [flushed]
  split
  · split
    · exact idle.trans (.of_typing rfl)
    · split
      · exact idle.trans goes_flushPendingInput
      · exact idle
  · exact .of_typing rfl

theorem goes_attached (i : Nat) (ok : Bool) : e.Goes (e.attached i ok) := by
  rw [attached]
  split
  · exact .of_typing rfl
  · split
    · exact .of_typing rfl
    · split
      · refine Goes.trans (.of_typing ?_) goes_flushPendingInput
        split
        · exact typing_requestSnapshotReplay _
        · rfl
      · exact .of_typing (typing_noticeFailure _ _)

theorem goes_answerQueries (answers : List String) : e.Goes (e.answerQueries answers) := by
  rw [answerQueries]
  split
  · exact .of_typing rfl
  · exact goes_foldl_enqueueInput answers

theorem goes_replayed (answers : List String) : e.Goes (e.replayed answers) := by
  have answered : e.Goes (e.answerQueries answers) := goes_answerQueries answers
  rw [replayed]
  split
  · split
    · exact answered.trans (.of_typing (typing_replayFrames _ _ _ _))
    · split
      · exact answered.trans (.of_typing (typing_finishReplay _ _ _))
      · exact answered.trans (.of_typing (typing_replayFrames _ _ _ _))
    · exact .of_typing rfl
  · exact .of_typing rfl

theorem goes_onData (data : String) : e.Goes (e.onData data) := by
  rw [onData]
  split
  · exact .of_typing rfl
  · split
    · exact (Goes.of_typing (typing_resumeOutputConsumption e)).trans (goes_enqueueInput data)
    · exact goes_enqueueInput data

theorem flushInputLoop_flush (flush : Option Flush) (sessionId : String) (generation : Nat) :
    flushInputLoop { e with inputFlush := flush } sessionId generation = e.flushInputLoop sessionId generation := by
  simp only [flushInputLoop]
  split
  · rfl
  · split
    · rfl
    · rfl

/-- The acknowledgement of a write is for the attach it was made in. -/
def Current (e : Entry) : Act → Prop
  | .wrote true => ∀ chunk sessionId generation, e.inputFlush = some (.sending chunk sessionId generation) →
    e.daemonGeneration = generation ∧ e.sessionId = some sessionId
  | _ => True

theorem typing_failed (chunk : PendingInputChunk) : typing { (e.note (.failed chunk)).noticeFailure writeFailedNotice with
    daemonAttached := false, attachingSessionId := none, inputFlush := some .over } =
    { e.typing with flush := some .over, log := e.input ++ [.failed chunk] } := by
  change { ((e.note (.failed chunk)).noticeFailure writeFailedNotice).typing with flush := some .over } = _
  rw [typing_noticeFailure]
  rfl

theorem kept_wrote (h : e.typing.Kept) (ok : Bool) : (e.wrote ok).typing.Kept := by
  rw [wrote]
  split
  · rename_i chunk sessionId generation sending
    have head := h.sending chunk sessionId generation sending
    split
    · split
      · exact h.overlook head
      · rw [← flushInputLoop_flush (some .over)]
        exact (goes_flushInputLoop _ _).kept (h.acknowledge sending)
    · split
      · rw [typing_failed]
        exact h.fail head
      · exact h.fail head
  · exact h

theorem settled_wrote (h : e.typing.Kept) (settled : e.typing.Settled) {ok : Bool} (current : e.Current (.wrote ok)) :
    (e.wrote ok).typing.Settled := by
  rw [wrote]
  split
  · rename_i chunk sessionId generation sending
    have head := h.sending chunk sessionId generation sending
    split
    · rename_i acknowledged
      subst acknowledged
      obtain ⟨sameGeneration, sameSession⟩ := current chunk sessionId generation sending
      split
      · rename_i other
        obtain other | other | other := other
        · exact absurd sameGeneration other
        · exact absurd sameSession other
        · exact absurd head other
      · rw [← flushInputLoop_flush (some .over)]
        exact (goes_flushInputLoop _ _).settled (h.acknowledge sending) (settled.acknowledge h sending)
    · split
      · rw [typing_failed]
        exact settled.fail
      · exact settled.fail
  · exact settled

theorem goes_next (act : Act) (other : ∀ ok, act ≠ .wrote ok) : e.Goes (e.next act) := by
  cases act with
  | attach sessionId => exact .of_typing (typing_attach e sessionId)
  | reattach sessionId force => exact .of_typing (typing_reattachToDaemon e sessionId force)
  | attached i ok => exact goes_attached i ok
  | output frame foreground => exact .of_typing (typing_writeSequenced e frame foreground)
  | drain budget => exact .of_typing (typing_flushOutput e budget false)
  | flush budget => exact .of_typing (typing_flushOutput e budget true)
  | exited => exact .of_typing (typing_markExited e)
  | parsed | notice | hide | adoptLease => exact .of_typing rfl
  | reveal => exact .of_typing (typing_resumeOutputConsumption _)
  | focus =>
    rw [next]
    split
    · exact .of_typing rfl
    · exact .of_typing (typing_resumeOutputConsumption e)
  | park =>
    rw [next]
    split
    · exact .of_typing (typing_park e)
    · exact .of_typing rfl
  | lease held =>
    rw [next, setRemotePaneLease]
    split
    · exact .of_typing rfl
    · exact Goes.trans (t := { e with remoteLease := false }) (.of_typing rfl) goes_flushPendingInput
  | data data => exact goes_onData data
  | wrote ok => exact absurd rfl (other ok)
  | flushed => exact goes_flushed
  | snapshot result =>
    rw [next]
    split
    · split
      · exact .of_typing (typing_replayPane e _ result)
      · exact .of_typing rfl
    · exact .of_typing rfl
  | replayed answers => exact goes_replayed answers
  | settled => exact .of_typing (typing_settled e)
  | again => exact .of_typing (typing_again e)

end Steps

section Runs

variable {e : Entry}

theorem kept_next (h : e.typing.Kept) (act : Act) : (e.next act).typing.Kept := by
  cases Classical.em (∃ ok, act = .wrote ok) with
  | inl wrote =>
    obtain ⟨ok, rfl⟩ := wrote
    exact kept_wrote h ok
  | inr other => exact (goes_next act fun ok same => other ⟨ok, same⟩).kept h

theorem settled_next (h : e.typing.Kept) (settled : e.typing.Settled) {act : Act} (current : e.Current act) :
    (e.next act).typing.Settled := by
  cases Classical.em (∃ ok, act = .wrote ok) with
  | inl wrote =>
    obtain ⟨ok, rfl⟩ := wrote
    exact settled_wrote h settled current
  | inr other => exact (goes_next act fun ok same => other ⟨ok, same⟩).settled h settled

theorem kept_created (paneId : String) (remoteLease : Bool) : (created paneId remoteLease).typing.Kept where
  bytes := rfl
  inTurn := ⟨fun before after chunk same => absurd same (by simp [typing, created]),
    fun before after chunk other same => absurd same (by simp [typing, created])⟩
  sorted := List.Pairwise.nil
  counted _ := nofun
  accepted _ := nofun
  removed _ := nofun
  numbered _ := nofun
  sending _ _ _ := nofun
  failed before after chunk same := absurd same (by simp [typing, created])

theorem settled_created (paneId : String) (remoteLease : Bool) : (created paneId remoteLease).typing.Settled where
  once before after chunk same := absurd same (by simp [typing, created])
  gone _ := nofun

theorem sent_once (paneId : String) (remoteLease : Bool) (acts : List Act)
    (current : Throughout next Current (created paneId remoteLease) acts) :
    InTurn (run paneId remoteLease acts).input ∧ Once (run paneId remoteLease acts).input ∧
    (run paneId remoteLease acts).pendingInputBytes =
      ((run paneId remoteLease acts).pendingInput.map PendingInputChunk.bytes).sum := by
  have settled := run_invariant (I := fun e : Entry => e.typing.Kept ∧ e.typing.Settled)
    (fun _ act h current => ⟨kept_next h.1 act, settled_next h.1 h.2 current⟩)
    ⟨kept_created paneId remoteLease, settled_created paneId remoteLease⟩ current
  exact ⟨settled.1.inTurn, settled.2.once, settled.1.bytes⟩

instance (e : Entry) (act : Act) : Decidable (e.Current act) :=
  match act with
  | .wrote true => match held : e.inputFlush with
    | some (.sending _ sessionId generation) =>
      decidable_of_iff (e.daemonGeneration = generation ∧ e.sessionId = some sessionId)
        ⟨fun same _ _ _ sending => by cases held.symm.trans sending; exact same, fun current => current _ _ _ held⟩
    | some .over => .isTrue fun _ _ _ sending => nomatch held.symm.trans sending
    | none => .isTrue fun _ _ _ sending => nomatch held.symm.trans sending
  | .wrote false => .isTrue trivial
  | .attach _ | .reattach _ _ | .attached _ _ | .output _ _ | .drain _ | .flush _ | .parsed | .exited | .notice _
  | .hide | .reveal | .focus | .park | .lease _ | .adoptLease _ | .data _ | .flushed | .snapshot _ | .replayed _
  | .settled | .again => .isTrue trivial

/-- A write fails, and after the next attach the chunk is sent again. -/
def retrying : List Act := [.attach (some "s"), .attached 0 true, .data "x", .data "y", .wrote false, .flushed,
  .reattach "s" false, .attached 0 true, .wrote true, .wrote true, .flushed]

theorem retrying_sent_once : Throughout next Current (created "p" false) retrying ∧
    InTurn (run "p" false retrying).input ∧ Once (run "p" false retrying).input ∧
    (run "p" false retrying).pendingInputBytes =
      ((run "p" false retrying).pendingInput.map PendingInputChunk.bytes).sum := by
  have current : Throughout next Current (created "p" false) retrying := by decide +kernel
  exact ⟨current, sent_once "p" false retrying current⟩

/-- The pane is attached anew between a write and what the daemon answers. -/
def overtaking : List Act := [.attach (some "s"), .attached 0 true, .data "x", .reattach "s" false, .wrote true,
  .flushed, .attached 0 true]

theorem not_always_once : ¬ ∀ paneId remoteLease acts, Once (run paneId remoteLease acts).input := by
  intro always
  have log : (run "p" false overtaking).input = [.accepted ⟨0, "x", 1⟩, .sent ⟨0, "x", 1⟩] ++
      .acknowledged ⟨0, "x", 1⟩ :: [.sent ⟨0, "x", 1⟩] := by decide +kernel
  exact always "p" false overtaking _ _ _ log List.mem_cons_self

end Runs

end Entry

end VibeLink.Terminal
