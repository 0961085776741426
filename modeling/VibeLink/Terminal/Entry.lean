import VibeLink.Terminal.Queries
import Mathlib.Algebra.Order.Ring.Nat

/-! A pane of the terminal manager (`terminal/TerminalManager.ts`): the output that waits for its emulator, the replays
of snapshots, and the input that waits for the daemon.  The counters of bytes that wait for the emulator are the sums.  What is
handed to the emulator stands here before `terminalOutputAfterLastHardClear` takes from it what it erases itself. -/

namespace VibeLink.Terminal

open VibeLink.Daemon (Bytes)

def MAX_OUTPUT_BYTES_PER_WRITE : Nat := 16 * 1024

def MAX_PENDING_OUTPUT_BYTES : Nat := 8 * 1024 * 1024

def INSTANT_OUTPUT_BYTES : Nat := 4 * 1024

def MAX_PENDING_INPUT_CHUNKS : Nat := 256

def MAX_PENDING_INPUT_BYTES : Nat := 256 * 1024

structure SequencedOutputFrame where
  paneGeneration : Nat
  outputSequence : Nat
  bytes : Bytes
  deriving DecidableEq

structure TerminalSnapshotResult where
  sessionId : String
  paneId : String
  paneGeneration : Nat
  outputSequence : Nat
  alive : Bool
  data : Bytes
  deriving DecidableEq

/-- A chunk of input; the number, by which it is itself, counts those that have been accepted. -/
structure PendingInputChunk where
  number : Nat
  data : String
  bytes : Nat
  deriving DecidableEq

/-- What the emulator is handed. -/
inductive Written
  | snapshot (data : Bytes)
  /-- The queries of frames that the snapshot covers. -/
  | queries (bytes : Bytes)
  | output (bytes : Bytes)
  /-- A text of the manager's own. -/
  | notice (text : String)
  deriving DecidableEq

/-- A call of `attach_pane` that is out. -/
structure Attach where
  generation : Nat
  sessionId : String
  replay : Bool
  deriving DecidableEq

/-- A flush of the input has a chunk out, or is over and about to be cleared away. -/
inductive Flush
  | sending (chunk : PendingInputChunk) (sessionId : String) (generation : Nat)
  | over
  deriving DecidableEq

/-- What has happened to the input: a ghost. -/
inductive InputEvent
  | accepted (chunk : PendingInputChunk)
  | sent (chunk : PendingInputChunk)
  | acknowledged (chunk : PendingInputChunk)
  | failed (chunk : PendingInputChunk)
  deriving DecidableEq

inductive ReplayPhase
  | requested
  /-- The snapshot is being parsed. -/
  | restoring (outputSequence : Nat) (alive : Bool)
  /-- Frames behind it are being parsed. -/
  | draining (outputSequence : Nat) (alive : Bool)
  | settled
  deriving DecidableEq

/-- `replayPromise`; `replayPending` while there is one. -/
structure Replay where
  sessionId : String
  revision : Nat
  phase : ReplayPhase
  deriving DecidableEq

structure Entry where
  paneId : String
  opened : Bool
  visible : Bool
  sessionId : Option String
  daemonAttached : Bool
  attachingSessionId : Option String
  daemonGeneration : Nat
  attaches : List Attach
  attachFailureNoticeWritten : Bool
  remoteLease : Bool
  pendingInput : List PendingInputChunk
  pendingInputBytes : Nat
  inputTrimNoticeWritten : Bool
  inputFlush : Option Flush
  /-- How many chunks have been accepted, and what has become of them: ghosts. -/
  accepted : Nat
  input : List InputEvent
  pendingOutput : List Bytes
  outputWritePending : Bool
  outputParked : Bool
  outputSnapshotStale : Bool
  hiddenOutputParkTimer : Bool
  pendingSequencedOutput : List SequencedOutputFrame
  paneGeneration : Option Nat
  outputSequence : Option Nat
  replay : Option Replay
  replayRevision : Nat
  replayAgain : Bool
  /-- A microtask is to ask for a replay. -/
  replayQueued : Bool
  /-- What the emulator has been handed since it was reset: a ghost. -/
  written : List Written
  /-- Whether an overflow has dropped output that no snapshot has brought back: a ghost. -/
  overflowed : Bool

inductive Act
  | attach (sessionId : Option String)
  | reattach (sessionId : String) (force : Bool)
  | attached (i : Nat) (ok : Bool)
  | output (frame : SequencedOutputFrame) (foreground : Bool)
  | drain (budget : Nat)
  /-- Before the pane's size is sent. -/
  | flush (budget : Nat)
  | parsed
  | exited
  | notice (text : String)
  | hide
  | reveal
  | focus
  | park
  | lease (held : Bool)
  | adoptLease (held : Bool)
  | data (data : String)
  | wrote (ok : Bool)
  | flushed
  | snapshot (result : Except Unit TerminalSnapshotResult)
  | replayed (answers : List String)
  | settled
  | again

def totalBytes (chunks : List Bytes) : Nat := (chunks.map List.length).sum

/-- Whole chunks as far as the budget goes, and the front of the next one. -/
def takeOutput : Nat → List Bytes → Bytes × List Bytes
  | _, [] => ([], [])
  | budget, next :: rest =>
    if budget = 0 then ([], next :: rest)
    else if next.length ≤ budget then
      let (bytes, left) := takeOutput (budget - next.length) rest
      (next ++ bytes, left)
    else (next.take budget, next.drop budget :: rest)

def frameBytes (frames : List SequencedOutputFrame) : Nat := totalBytes (frames.map SequencedOutputFrame.bytes)

/-- The oldest frames go while there are too many bytes, but not the last. -/
def trimFrames : List SequencedOutputFrame → List SequencedOutputFrame
  | frame :: next :: rest =>
    if MAX_PENDING_OUTPUT_BYTES < frameBytes (frame :: next :: rest) then trimFrames (next :: rest)
    else frame :: next :: rest
  | frames => frames

/-- What a pass over the queued frames makes of them: those that the snapshot covers, those that follow, and from the
first that does neither all that are left. -/
structure Pass where
  covered : List Bytes
  live : List Bytes
  outputSequence : Option Nat
  left : List SequencedOutputFrame
  deriving DecidableEq

def Pass.queries (pass : Pass) : Bytes := (terminalQuerySequences pass.covered.flatten).flatten

def passFrames (paneGeneration : Option Nat) (covers : Nat) : Option Nat → List SequencedOutputFrame → Pass
  | outputSequence, [] => ⟨[], [], outputSequence, []⟩
  | outputSequence, frame :: frames =>
    if some frame.paneGeneration = paneGeneration ∧ frame.outputSequence ≤ covers then
      let rest := passFrames paneGeneration covers outputSequence frames
      { rest with covered := frame.bytes :: rest.covered }
    else if some frame.paneGeneration = paneGeneration ∧ frame.outputSequence ≤ outputSequence.getD 0 then
      passFrames paneGeneration covers outputSequence frames
    else if some frame.paneGeneration ≠ paneGeneration ∨ frame.outputSequence ≠ outputSequence.getD 0 + 1 then
      ⟨[], [], outputSequence, frame :: frames⟩
    else
      let rest := passFrames paneGeneration covers (some frame.outputSequence) frames
      { rest with live := frame.bytes :: rest.live }

namespace Entry

def created (paneId : String) (remoteLease : Bool) : Entry where
  paneId
  opened := false
  visible := false
  sessionId := none
  daemonAttached := false
  attachingSessionId := none
  daemonGeneration := 0
  attaches := []
  attachFailureNoticeWritten := false
  remoteLease
  pendingInput := []
  pendingInputBytes := 0
  inputTrimNoticeWritten := false
  inputFlush := none
  accepted := 0
  input := []
  pendingOutput := []
  outputWritePending := false
  outputParked := false
  outputSnapshotStale := false
  hiddenOutputParkTimer := false
  pendingSequencedOutput := []
  paneGeneration := none
  outputSequence := none
  replay := none
  replayRevision := 0
  replayAgain := false
  replayQueued := false
  written := []
  overflowed := false

def handOver (e : Entry) (written : Written) : Entry := { e with written := e.written ++ [written] }

section Input

variable (e : Entry)

def note (event : InputEvent) : Entry := { e with input := e.input ++ [event] }

/-- The next round of the loop, if there is one. -/
def flushInputLoop (sessionId : String) (generation : Nat) : Entry :=
  match e.pendingInput with
  | [] => { e with inputFlush := some .over }
  | chunk :: _ =>
    if e.daemonGeneration ≠ generation ∨ e.sessionId ≠ some sessionId ∨ ¬e.daemonAttached then
      { e with inputFlush := some .over }
    else { e.note (.sent chunk) with inputFlush := some (.sending chunk sessionId generation) }

def flushPendingInput : Entry :=
  match e.sessionId with
  | none => e
  | some sessionId =>
    if e.remoteLease ∨ ¬e.daemonAttached ∨ e.pendingInput = [] ∨ e.inputFlush.isSome then e
    else e.flushInputLoop sessionId e.daemonGeneration

def inputTrimNotice : String := "\r\n\x1b[33m[input buffer full; additional input dropped]\x1b[0m\r\n"

def enqueueInput (data : String) : Entry :=
  let bytes := data.utf8ByteSize
  if MAX_PENDING_INPUT_CHUNKS ≤ e.pendingInput.length ∨ MAX_PENDING_INPUT_BYTES < e.pendingInputBytes + bytes then
    if e.inputTrimNoticeWritten then e
    else { e.handOver (.notice inputTrimNotice) with inputTrimNoticeWritten := true }
  else
    let chunk : PendingInputChunk := ⟨e.accepted, data, bytes⟩
    flushPendingInput { e.note (.accepted chunk) with
      pendingInput := e.pendingInput ++ [chunk]
      pendingInputBytes := e.pendingInputBytes + bytes
      accepted := e.accepted + 1 }

def noticeFailure (text : String) : Entry :=
  if e.attachFailureNoticeWritten then e
  else { e.handOver (.notice text) with attachFailureNoticeWritten := true }

def writeFailedNotice : String := "\r\n\x1b[33m[terminal write failed; input retained for retry]\x1b[0m\r\n"

def wrote (ok : Bool) : Entry :=
  match e.inputFlush with
  | some (.sending chunk sessionId generation) =>
    if ok then
      if e.daemonGeneration ≠ generation ∨ e.sessionId ≠ some sessionId ∨ e.pendingInput.head? ≠ some chunk then
        { e.note (.acknowledged chunk) with inputFlush := some .over }
      else flushInputLoop { e.note (.acknowledged chunk) with
        pendingInput := e.pendingInput.tail
        pendingInputBytes := e.pendingInputBytes - chunk.bytes } sessionId generation
    else if e.daemonGeneration = generation ∧ e.sessionId = some sessionId then
      { (e.note (.failed chunk)).noticeFailure writeFailedNotice with
        daemonAttached := false, attachingSessionId := none, inputFlush := some .over }
    else { e.note (.failed chunk) with inputFlush := some .over }
  | _ => e

def flushed : Entry :=
  match e.inputFlush with
  | some .over =>
    if e.pendingInput = [] then { e with inputFlush := none, inputTrimNoticeWritten := false }
    else if e.daemonAttached then { e with inputFlush := none }.flushPendingInput
    else { e with inputFlush := none }
  | _ => e

end Input

section Output

variable (e : Entry)

def requestSnapshotReplay : Entry :=
  match e.sessionId with
  | none => e
  | some sessionId =>
    if ¬e.opened then e
    else if e.replay.isSome then { e with replayAgain := true }
    else { e with replay := some ⟨sessionId, e.replayRevision, .requested⟩, replayAgain := false }

def handlePendingOutputOverflow : Entry :=
  if e.sessionId.isSome ∧ e.paneGeneration.isSome then
    requestSnapshotReplay { e with pendingOutput := [], overflowed := true }
  else e

def writeTerminalOutput (bytes : Bytes) (trackPending : Bool) : Entry :=
  { e.handOver (.output bytes) with outputWritePending := e.outputWritePending || trackPending }

def flushOutput (budget : Nat) (force : Bool) : Entry :=
  if e.pendingOutput = [] ∨ e.outputWritePending ∧ ¬force then e
  else
    let (bytes, left) := takeOutput budget e.pendingOutput
    { e with pendingOutput := left }.writeTerminalOutput bytes !force

def flushAllFrom : Nat → Entry → Entry
  | 0, e => e
  | fuel + 1, e => flushAllFrom fuel (e.flushOutput MAX_OUTPUT_BYTES_PER_WRITE true)

def flushAllOutput : Entry := flushAllFrom (e.pendingOutput.length + totalBytes e.pendingOutput) e

def exitNotice : String := "\r\n\x1b[31m[process exited]\x1b[0m\r\n"

def markExited : Entry := e.flushAllOutput.handOver (.notice exitNotice)

def queueOutput (bytes : Bytes) : Entry :=
  if MAX_PENDING_OUTPUT_BYTES < totalBytes (e.pendingOutput ++ [bytes]) then
    { e with pendingOutput := e.pendingOutput ++ [bytes] }.handlePendingOutputOverflow
  else { e with pendingOutput := e.pendingOutput ++ [bytes] }

def writeEntry (bytes : Bytes) (foreground : Bool) : Entry :=
  if e.outputParked ∧ e.sessionId.isSome ∧ e.daemonAttached then { e with outputSnapshotStale := true }
  else if ¬e.opened then e.queueOutput bytes
  else if foreground ∧ ¬e.outputWritePending ∧ totalBytes e.pendingOutput + bytes.length ≤ INSTANT_OUTPUT_BYTES then
    if e.pendingOutput = [] then e.writeTerminalOutput bytes true
    else { e with pendingOutput := e.pendingOutput ++ [bytes] }.flushOutput INSTANT_OUTPUT_BYTES false
  else e.queueOutput bytes

def queueSequencedOutput (frame : SequencedOutputFrame) : Entry :=
  { e with pendingSequencedOutput := trimFrames (e.pendingSequencedOutput ++ [frame]) }

def writeSequenced (frame : SequencedOutputFrame) (foreground : Bool) : Entry :=
  if frame.bytes = [] then e
  else if ¬e.opened ∨ e.sessionId = none ∨ ¬e.daemonAttached ∨ e.replay.isSome ∨ e.paneGeneration = none ∨
      e.outputSequence = none then
    if e.opened ∧ e.sessionId.isSome ∧ e.daemonAttached ∧ e.replay = none then
      (e.queueSequencedOutput frame).requestSnapshotReplay
    else e.queueSequencedOutput frame
  else if e.outputParked then { e with outputSnapshotStale := true }
  else if some frame.paneGeneration = e.paneGeneration ∧ frame.outputSequence ≤ e.outputSequence.getD 0 then e
  else if some frame.paneGeneration ≠ e.paneGeneration ∨ frame.outputSequence ≠ e.outputSequence.getD 0 + 1 then
    (e.queueSequencedOutput frame).requestSnapshotReplay
  else { e with outputSequence := some frame.outputSequence }.writeEntry frame.bytes foreground

def scheduleHiddenOutputParking : Entry := { e with hiddenOutputParkTimer := !e.visible }

def park : Entry :=
  if e.visible ∨ e.sessionId = none ∨ ¬e.daemonAttached ∨ e.paneGeneration = none ∨ e.outputSequence = none then
    { e with hiddenOutputParkTimer := false }
  else { e with
    hiddenOutputParkTimer := false
    outputSnapshotStale := e.outputSnapshotStale || !e.pendingOutput.isEmpty || e.outputWritePending
    pendingOutput := []
    outputParked := true }

def resumeOutputConsumption : Entry :=
  if ¬e.outputParked then { e with hiddenOutputParkTimer := false }
  else if ¬e.outputSnapshotStale then { e with hiddenOutputParkTimer := false, outputParked := false }
  else if e.sessionId = none ∨ ¬e.opened ∨ ¬e.daemonAttached then
    { e with hiddenOutputParkTimer := false, outputParked := false, pendingOutput := [] }
  else
    { e with hiddenOutputParkTimer := false, outputParked := false, pendingOutput := [] }.requestSnapshotReplay

end Output

section Replays

variable (e : Entry) (replay : Replay)

def setPhase (phase : ReplayPhase) : Entry := { e with replay := some { replay with phase } }

def finishReplay (alive : Bool) : Entry :=
  let shown := { e with
    outputParked := false
    outputSnapshotStale := false
    hiddenOutputParkTimer := e.hiddenOutputParkTimer || !e.visible }
  (if alive then shown else shown.markExited).setPhase replay .settled

/-- What is left of the frames is queued again, for another replay. -/
def afterPass (pass : Pass) : Entry :=
  if pass.left = [] then { e with pendingSequencedOutput := [], outputSequence := pass.outputSequence }
  else { pass.left.foldl queueSequencedOutput
      { e with pendingSequencedOutput := [], outputSequence := pass.outputSequence } with replayAgain := true }

def pass (covers : Nat) : Pass := passFrames e.paneGeneration covers e.outputSequence e.pendingSequencedOutput

/-- A round over the frames that have been queued.  If it has nothing to hand over, the next one finds nothing. -/
def replayFrames (covers : Nat) (alive : Bool) : Entry :=
  if e.pendingSequencedOutput = [] then e.finishReplay replay alive
  else if (e.pass covers).queries ++ (e.pass covers).live.flatten = [] then
    (e.afterPass (e.pass covers)).finishReplay replay alive
  else (((e.afterPass (e.pass covers)).handOver (.queries (e.pass covers).queries)).handOver
    (.output (e.pass covers).live.flatten)).setPhase replay (.draining covers alive)

def retains (snapshot : TerminalSnapshotResult) : Bool :=
  e.opened && !e.outputSnapshotStale && e.paneGeneration = some snapshot.paneGeneration &&
    e.outputSequence = some snapshot.outputSequence

def applySnapshot (snapshot : TerminalSnapshotResult) : Entry :=
  let applied := { e with
    pendingOutput := []
    paneGeneration := some snapshot.paneGeneration
    outputSequence := some snapshot.outputSequence
    daemonAttached := true }
  if e.retains snapshot then applied.replayFrames replay snapshot.outputSequence snapshot.alive
  else { applied with written := [.snapshot snapshot.data], overflowed := false }.setPhase replay
    (.restoring snapshot.outputSequence snapshot.alive)

def failReplay : Entry :=
  { e with daemonAttached := e.daemonAttached && e.sessionId ≠ some replay.sessionId }.setPhase replay .settled

def replayPane : Except Unit TerminalSnapshotResult → Entry
  | .error _ => e.failReplay replay
  | .ok snapshot =>
    if e.sessionId ≠ some replay.sessionId ∨ e.replayRevision ≠ replay.revision then e.setPhase replay .settled
    else if snapshot.sessionId ≠ replay.sessionId ∨ snapshot.paneId ≠ e.paneId then e.failReplay replay
    else e.applySnapshot replay snapshot

def answerQueries (answers : List String) : Entry := if e.remoteLease then e else answers.foldl enqueueInput e

def replayed (answers : List String) : Entry :=
  match e.replay with
  | some replay =>
    match replay.phase with
    | .restoring covers alive => (e.answerQueries answers).replayFrames replay covers alive
    | .draining covers alive =>
      if (e.answerQueries answers).replayAgain then (e.answerQueries answers).finishReplay replay alive
      else (e.answerQueries answers).replayFrames replay covers alive
    | _ => e
  | none => e

def settled : Entry :=
  if (e.replay.map Replay.phase) = some .settled then
    { e with replay := none, replayAgain := false, replayQueued := e.replayQueued || e.replayAgain }
  else e

def again : Entry :=
  if e.replayQueued then { e with replayQueued := false }.requestSnapshotReplay else e

def capturing : Bool :=
  match e.replay.map Replay.phase with
  | some (.restoring _ _) | some (.draining _ _) => true
  | _ => false

end Replays

section Attaching

variable (e : Entry)

def beginDaemonAttach (sessionId : String) (replay : Bool) : Entry :=
  { e with
    daemonGeneration := e.daemonGeneration + 1
    daemonAttached := false
    attachingSessionId := some sessionId
    attaches := e.attaches ++ [⟨e.daemonGeneration + 1, sessionId, replay⟩] }

def attachFailedNotice : String := "\r\n\x1b[33m[terminal attach failed; input retained for retry]\x1b[0m\r\n"

def attached (i : Nat) (ok : Bool) : Entry :=
  match e.attaches[i]? with
  | none => e
  | some call =>
    if e.daemonGeneration ≠ call.generation ∨ e.sessionId ≠ some call.sessionId then
      { e with attaches := e.attaches.eraseIdx i }
    else if ok then
      let joined := { e with
        attaches := e.attaches.eraseIdx i
        attachingSessionId := none
        daemonAttached := true
        attachFailureNoticeWritten := false }
      (if call.replay then joined.requestSnapshotReplay else joined).flushPendingInput
    else { e with
      attaches := e.attaches.eraseIdx i
      attachingSessionId := none
      daemonAttached := false }.noticeFailure attachFailedNotice

/-- What has been recorded of the pane's output is of another session, or not to be relied on. -/
def forget : Entry :=
  { e with paneGeneration := none, outputSequence := none, replayRevision := e.replayRevision + 1, overflowed := false }

def changeSession (sessionId : Option String) : Entry :=
  if e.sessionId.isSome then { e.forget with
    sessionId
    daemonAttached := false
    daemonGeneration := e.daemonGeneration + 1
    attachingSessionId := none
    hiddenOutputParkTimer := false
    outputParked := false
    outputSnapshotStale := false }
  else { e.forget with sessionId, daemonAttached := false }

def attach (sessionId : Option String) : Entry :=
  if e.sessionId ≠ sessionId then
    match sessionId with
    | none => { e.changeSession none with opened := true }
    | some session => { e.changeSession (some session) with opened := true }.beginDaemonAttach session true
  else
    match sessionId with
    | none => { e with opened := true }
    | some session =>
      if ¬e.daemonAttached ∧ e.attachingSessionId ≠ some session then
        { e with opened := true }.beginDaemonAttach session true
      else { e with opened := true }

def reattachToDaemon (sessionId : String) (force : Bool) : Entry :=
  let replayAlreadyPending := !force && e.sessionId = some sessionId && e.replay.isSome
  if force ∨ e.sessionId ≠ some sessionId then
    { e.forget with sessionId := some sessionId }.beginDaemonAttach sessionId !replayAlreadyPending
  else e.beginDaemonAttach sessionId !replayAlreadyPending

def setRemotePaneLease (held : Bool) : Entry :=
  if held then { e with remoteLease := true } else { e with remoteLease := false }.flushPendingInput

def onData (data : String) : Entry :=
  if e.remoteLease then e
  else (if ¬e.capturing ∧ e.visible then e.resumeOutputConsumption else e).enqueueInput data

end Attaching

def next (e : Entry) : Act → Entry
  | .attach sessionId => e.attach sessionId
  | .reattach sessionId force => e.reattachToDaemon sessionId force
  | .attached i ok => e.attached i ok
  | .output frame foreground => e.writeSequenced frame foreground
  | .drain budget => e.flushOutput budget false
  | .flush budget => e.flushOutput budget true
  | .parsed => { e with outputWritePending := false }
  | .exited => e.markExited
  | .notice text => e.handOver (.notice text)
  | .hide => { e with visible := false }.scheduleHiddenOutputParking
  | .reveal => { e with visible := true }.resumeOutputConsumption
  | .focus => if e.remoteLease then e else e.resumeOutputConsumption
  | .park => if e.hiddenOutputParkTimer then e.park else e
  | .lease held => e.setRemotePaneLease held
  | .adoptLease held => { e with remoteLease := held }
  | .data data => e.onData data
  | .wrote ok => e.wrote ok
  | .flushed => e.flushed
  | .snapshot result => match e.replay with
    | some replay => if replay.phase = .requested then e.replayPane replay result else e
    | none => e
  | .replayed answers => e.replayed answers
  | .settled => e.settled
  | .again => e.again

def run (paneId : String) (remoteLease : Bool) (acts : List Act) : Entry :=
  acts.foldl next (created paneId remoteLease)

end Entry

end VibeLink.Terminal
