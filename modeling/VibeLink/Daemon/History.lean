import VibeLink.Daemon.Rereading
import VibeLink.Daemon.State

/-! The history of a pane on disk, beside its scrollback (`daemon/terminal_history.rs`, and the
reader's loop in `daemon/panes.rs`). -/

namespace VibeLink.Daemon

open VibeLink.Lexing

/-- What has been written, and how long the writer takes it to be. -/
structure TerminalHistoryWriter where
  file : Bytes
  fileLen : Nat
  deriving DecidableEq

namespace TerminalHistoryWriter

/-- `TerminalHistoryWriter::open` -/
def opened (initialSnapshot : Bytes) : TerminalHistoryWriter := ⟨initialSnapshot, initialSnapshot.length⟩

/-- `MAX_HISTORY_FILE_BYTES` is twice the capacity of the ring. -/
def shouldCompact (cap : Nat) (writer : TerminalHistoryWriter) (incomingLen : Nat) : Bool :=
  2 * cap < writer.fileLen + incomingLen

def rewrite (_ : TerminalHistoryWriter) (snapshot : Bytes) : TerminalHistoryWriter :=
  ⟨snapshot, snapshot.length⟩

def record (writer : TerminalHistoryWriter) (bytes : Bytes) (snapshot : Option Bytes) : TerminalHistoryWriter :=
  match snapshot with
  | some snapshot => writer.rewrite snapshot
  | none => ⟨writer.file ++ bytes, writer.fileLen + bytes.length⟩

end TerminalHistoryWriter

def loadPaneHistory (cap : Nat) (file : Bytes) : Bytes :=
  let retained := min file.length cap
  ((ScrollbackRing.new cap).push (file.drop (file.length - retained))).2.snapshot

/-- `Pane::record_output`, as far as it concerns the ring. -/
def ScrollbackRing.record (ring : ScrollbackRing) (bytes : Bytes) : Bool × ScrollbackRing :=
  if (ring.push bytes).1 then (true, (ring.push bytes).2) else (ring.push bytes).2.takeRebased

def ScrollbackRing.spawned (cap : Nat) (restored : Option Bytes) : ScrollbackRing :=
  match restored with
  | some bytes => (ScrollbackRing.new cap).seedProtected bytes
  | none => .new cap

structure RecordedPane where
  scrollback : ScrollbackRing
  history : TerminalHistoryWriter
  deriving DecidableEq

inductive PaneEvent
  | output (bytes : Bytes)
  /-- The GUI's snapshot of the screen. -/
  | rebase (snapshot : Bytes)

namespace RecordedPane

def spawn (cap : Nat) (restored : Option Bytes) : RecordedPane where
  scrollback := .spawned cap restored
  history := .opened (ScrollbackRing.spawned cap restored).snapshot

def output (cap : Nat) (pane : RecordedPane) (bytes : Bytes) : RecordedPane :=
  let captureSnapshot := pane.history.shouldCompact cap bytes.length
  let (reset, scrollback) := pane.scrollback.record bytes
  let snapshot := if captureSnapshot ∨ reset then some scrollback.snapshot else none
  ⟨scrollback, pane.history.record bytes snapshot⟩

def step (cap : Nat) (pane : RecordedPane) : PaneEvent → RecordedPane
  | .output bytes => pane.output cap bytes
  | .rebase snapshot => { pane with scrollback := pane.scrollback.rebase snapshot }

def run (cap : Nat) (restored : Option Bytes) (events : List PaneEvent) : RecordedPane :=
  events.foldl (step cap) (spawn cap restored)

theorem run_snoc (cap : Nat) (restored : Option Bytes) (events : List PaneEvent) (event : PaneEvent) :
    run cap restored (events ++ [event]) = step cap (run cap restored events) event := by
  simp [run]

end RecordedPane

section Window

variable {α : Type} {cap : Nat} {file bytes : List α}

def window (cap : Nat) (bytes : List α) : List α := bytes.drop (bytes.length - cap)

theorem window_of_le (le : bytes.length ≤ cap) : window cap bytes = bytes := by
  rw [window, Nat.sub_eq_zero_of_le le, List.drop_zero]

theorem length_window (cap : Nat) (bytes : List α) : (window cap bytes).length ≤ cap := by
  rw [window, List.length_drop]
  omega

theorem window_append (cap : Nat) (file bytes : List α) :
    window cap (window cap file ++ bytes) = window cap (file ++ bytes) := by
  rw [window, window, window, ← List.drop_append_of_le_length (Nat.sub_le _ _), List.drop_drop,
    List.length_drop]
  congr 1
  simp only [List.length_append]
  omega

end Window

variable {cap : Nat} {restored : Option Bytes} {pane : RecordedPane} {event : PaneEvent} {bytes : Bytes}

theorem loadPaneHistory_eq (cap : Nat) (file : Bytes) :
    loadPaneHistory cap file = ((ScrollbackRing.new cap).clear.push (window cap file)).2.buf := by
  rw [loadPaneHistory, window, show file.length - min file.length cap = file.length - cap by omega]
  rfl

namespace ScrollbackRing

variable {ring : ScrollbackRing}

theorem length_push (ring : ScrollbackRing) (bytes : Bytes) : (ring.push bytes).2.buf.length ≤ ring.cap := by
  rw [push_snd]
  exact length_window ring.cap (ring.stored bytes)

theorem push_of_none (h : findLastClearSpan (ring.detectionBytes bytes) = none) :
    (ring.push bytes).2.buf = window ring.cap (ring.buf ++ bytes) := by
  rw [push_snd, overflow, stored, h]
  rfl

theorem record_eq (ring : ScrollbackRing) (bytes : Bytes) :
    (ring.record bytes).2 = { (ring.push bytes).2 with rebased := (ring.record bytes).2.rebased } := by
  unfold record
  split <;> rfl

theorem buf_record (ring : ScrollbackRing) (bytes : Bytes) :
    (ring.record bytes).2.buf = (ring.push bytes).2.buf := by
  rw [record_eq]

theorem of_record_eq_false (h : (ring.record bytes).1 = false) :
    ring.rebased = false ∧ findLastClearSpan (ring.detectionBytes bytes) = none := by
  unfold record at h
  split at h
  · exact nomatch h
  · rename_i missed
    rw [push_fst, Bool.not_eq_true, Option.isSome_eq_false_iff, Option.isNone_iff_eq_none] at missed
    rw [takeRebased, push_snd] at h
    exact ⟨h, missed⟩

end ScrollbackRing

/-- Without a pending rebase, the ring holds the end of the file. -/
structure Recorded (cap : Nat) (pane : RecordedPane) : Prop where
  cap_eq : pane.scrollback.cap = cap
  full : pane.scrollback.buf.length ≤ cap
  file : pane.scrollback.rebased = false → pane.scrollback.buf = window cap pane.history.file

namespace Recorded

theorem spawn (cap : Nat) (restored : Option Bytes) : Recorded cap (.spawn cap restored) := by
  have full : (ScrollbackRing.spawned cap restored).buf.length ≤ cap := by
    cases restored with
    | none => exact Nat.zero_le cap
    | some bytes => exact (ScrollbackRing.new cap).clear.length_push bytes
  refine ⟨?_, full, fun _ => (window_of_le full).symm⟩
  cases restored with
  | none => rfl
  | some bytes => exact congrArg ScrollbackRing.cap ((ScrollbackRing.new cap).clear.push_snd bytes)

theorem output (recorded : Recorded cap pane) (bytes : Bytes) : Recorded cap (pane.output cap bytes) := by
  have full : (pane.scrollback.record bytes).2.buf.length ≤ cap := by
    rw [ScrollbackRing.buf_record, ← recorded.cap_eq]
    exact pane.scrollback.length_push bytes
  refine ⟨?_, full, fun _ => ?_⟩
  · show (pane.scrollback.record bytes).2.cap = cap
    rw [ScrollbackRing.record_eq, ScrollbackRing.push_snd]
    exact recorded.cap_eq
  · show (pane.scrollback.record bytes).2.buf = _
    simp only [RecordedPane.output]
    split
    · exact (window_of_le full).symm
    · rename_i appended
      have quiet : (pane.scrollback.record bytes).1 = false := by simp_all
      obtain ⟨settled, missed⟩ := ScrollbackRing.of_record_eq_false quiet
      rw [ScrollbackRing.buf_record, ScrollbackRing.push_of_none missed, recorded.cap_eq, recorded.file settled,
        window_append]
      rfl

theorem step (recorded : Recorded cap pane) (event : PaneEvent) : Recorded cap (pane.step cap event) := by
  cases event with
  | output bytes => exact recorded.output bytes
  | rebase snapshot =>
    refine ⟨?_, ?_, fun settled => nomatch settled⟩
    · show (pane.scrollback.clear.push snapshot).2.cap = cap
      rw [ScrollbackRing.push_snd]
      exact recorded.cap_eq
    · show (pane.scrollback.clear.push snapshot).2.buf.length ≤ cap
      rw [← recorded.cap_eq]
      exact pane.scrollback.clear.length_push snapshot

theorem run (cap : Nat) (restored : Option Bytes) (events : List PaneEvent) :
    Recorded cap (.run cap restored events) := by
  induction events using List.reverseRecOn with
  | nil => exact spawn cap restored
  | append_singleton events event ih =>
    rw [RecordedPane.run_snoc]
    exact ih.step event

end Recorded

/-- Whether the ring of a pane that is spawned, and after each event, is one that reads back. -/
def SpawnsWhole (cap : Nat) (restored : Option Bytes) : Prop :=
  ∀ bytes ∈ restored, WholeCut ((ScrollbackRing.new cap).stored bytes) ((ScrollbackRing.new cap).overflow bytes)

/-- What an event drains ends outside of the sequences in front of a clear, or between them; and behind
a restored prefix it forms no clear. -/
def KeepsWhole (restored : Option Bytes) (ring : ScrollbackRing) : PaneEvent → Prop
  | .output bytes => WholeCut (ring.stored bytes) (ring.overflow bytes) ∧ (restored.isSome → JoinsNone ring bytes)
  | .rebase snapshot => WholeCut (ring.clear.stored snapshot) (ring.clear.overflow snapshot)

theorem Rereads.clear (ring : ScrollbackRing) : Rereads ring.clear where
  shaped := .plain fun _ _ => not_occurs_of_plain List.not_mem_nil
  behind := fun protected_ => absurd protected_ (Nat.lt_irrefl 0)
  le := Nat.le_refl 0

/-- What matters of a ring, apart from the flag of a rebase. -/
structure Readable (restored : Option Bytes) (ring : ScrollbackRing) : Prop where
  rereads : Rereads ring
  unbroken : restored = none → Unbroken ring

namespace Readable

variable {ring : ScrollbackRing}

theorem spawn (whole : SpawnsWhole cap restored) : Readable restored (.spawned cap restored) := by
  cases restored with
  | none => exact ⟨.clear (.new cap), fun _ => .clear (.new cap)⟩
  | some bytes =>
    refine ⟨?_, fun absent => nomatch absent⟩
    have pushed := (Rereads.clear (.new cap)).push ((Unbroken.clear (.new cap)).joinsNone bytes) (whole bytes rfl)
    exact ⟨pushed.shaped, fun _ _ _ here => separate_clearSequences.le_length here, Nat.le_refl _⟩

theorem record (readable : Readable restored ring) (bytes : Bytes) (keeps : KeepsWhole restored ring (.output bytes)) :
    Readable restored (ring.record bytes).2 := by
  have joins : JoinsNone ring bytes := by
    cases restored with
    | none => exact (readable.unbroken rfl).joinsNone bytes
    | some restored => exact keeps.2 rfl
  have pushed := readable.rereads.push joins keeps.1
  rw [ScrollbackRing.record_eq]
  refine ⟨⟨pushed.shaped, pushed.behind, pushed.le⟩, fun absent => ?_⟩
  obtain ⟨sent, state, whole, follows, kept, suffix⟩ := (readable.unbroken absent).push bytes
  exact ⟨sent, state, whole, ⟨follows.unprotected, follows.pending⟩, kept, suffix⟩

theorem rebase (snapshot : Bytes) (keeps : KeepsWhole restored ring (.rebase snapshot)) :
    Readable restored (ring.rebase snapshot) := by
  have pushed := (Rereads.clear ring).push ((Unbroken.clear ring).joinsNone snapshot) keeps
  refine ⟨⟨pushed.shaped, pushed.behind, pushed.le⟩, fun _ => ?_⟩
  obtain ⟨sent, state, whole, follows, kept, suffix⟩ := (Unbroken.clear ring).push snapshot
  exact ⟨sent, state, whole, ⟨follows.unprotected, follows.pending⟩, kept, suffix⟩

end Readable

theorem readable_run (events : List PaneEvent) (spawns : SpawnsWhole cap restored)
    (keeps : ∀ before event after, events = before ++ event :: after →
      KeepsWhole restored (RecordedPane.run cap restored before).scrollback event) :
    Readable restored (RecordedPane.run cap restored events).scrollback := by
  induction events using List.reverseRecOn with
  | nil => exact .spawn spawns
  | append_singleton events event ih =>
    have readable := ih fun before event' after e => keeps before event' (after ++ [event]) (by simp [e])
    have here := keeps events event [] rfl
    rw [RecordedPane.run_snoc]
    cases event with
    | output bytes => exact readable.record bytes here
    | rebase snapshot => exact .rebase snapshot here

/-- Where every event keeps the sequences in front of a clear whole and forms no clear, and no rebase
is pending, the file reads back as the ring. -/
theorem history_reads_back (cap : Nat) (restored : Option Bytes) (events : List PaneEvent)
    (spawns : SpawnsWhole cap restored)
    (keeps : ∀ before event after, events = before ++ event :: after →
      KeepsWhole restored (RecordedPane.run cap restored before).scrollback event)
    (settled : (RecordedPane.run cap restored events).scrollback.rebased = false) :
    loadPaneHistory cap (RecordedPane.run cap restored events).history.file =
      (RecordedPane.run cap restored events).scrollback.snapshot := by
  have recorded := Recorded.run cap restored events
  have readable := readable_run events spawns keeps
  rw [loadPaneHistory_eq, ← recorded.file settled]
  exact readable.rereads.shaped.reread recorded.full

/-- A pane that is restored with `old`, and clears the screen in front of `x`. -/
theorem restored_history_reads_back :
    let pane := RecordedPane.run 64 (some [0x6f, 0x6c, 0x64]) [.output [0x1b, 0x5b, 0x32, 0x4a, 0x78]]
    loadPaneHistory 64 pane.history.file = pane.scrollback.snapshot := by
  apply history_reads_back
  · intro bytes member
    cases member
    exact wholeCut_zero _
  · intro before event after e
    cases before with
    | nil =>
      cases e
      refine ⟨wholeCut_zero _, fun _ => ?_⟩
      have none : findLastClearSpan ((ScrollbackRing.spawned 64 (some [0x6f, 0x6c, 0x64])).stored
          [0x1b, 0x5b, 0x32, 0x4a, 0x78]) = none := by decide +kernel
      unfold JoinsNone
      split
      · exact fun start last here => absurd here (findLastClearSpan_eq_none.1 none start last)
      · exact fun _ start last here => absurd here (findLastClearSpan_eq_none.1 none start last)
    | cons first before => simp at e
  · decide +kernel

/-- A pane that is restored with `x` and an ESC and prints `cc`: behind the ESC the first `c` clears and
is dropped, and the second one makes a clear that only the file has.  And a pane without anything
restored whose title, in front of a clear, is cut by the capacity. -/
theorem history_reads_back_otherwise :
    let joined := RecordedPane.run Pane.defaultScrollbackCap (some [0x78, 0x1b]) [.output [0x63, 0x63]]
    let titled : Bytes := [0x1b, 0x5d, 0x30, 0x3b, 0x74, 0x07, 0x1b, 0x5b, 0x32, 0x4a]
    let cut := RecordedPane.run 10 none [.output titled, .output [0x61]]
    (joined.scrollback.rebased = false ∧
      loadPaneHistory Pane.defaultScrollbackCap joined.history.file ≠ joined.scrollback.snapshot) ∧
    cut.scrollback.rebased = false ∧ loadPaneHistory 10 cut.history.file ≠ cut.scrollback.snapshot := by
  decide +kernel

end VibeLink.Daemon
