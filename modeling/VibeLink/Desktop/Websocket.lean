import VibeLink.Relational.Runs
import VibeLink.Binary.Base64
import Mathlib.Algebra.Order.BigOperators.Group.List
import Mathlib.Algebra.Order.Ring.Nat

/-! The output of panes on its way to a client behind a websocket (`app/daemon_client.rs`). -/

namespace VibeLink.Desktop.Websocket

open Relational Binary

def TERMINAL_WS_QUEUE_FRAMES : Nat := 1024
def TERMINAL_WS_QUEUE_MAX_BYTES : Nat := 4 * 1024 * 1024

/-- The output of a pane with its cursor.  Of a pane id that is too long there is no frame. -/
structure OutputFrame where
  paneId : List UInt8
  generation : UInt64
  sequence : UInt64
  data : List UInt8
  short : paneId.length < 65536
  deriving DecidableEq

def frameOutput (frame : OutputFrame) : List UInt8 :=
  bigEndian 2 frame.paneId.length ++ frame.paneId ++ bigEndian 8 frame.generation.toNat ++
    bigEndian 8 frame.sequence.toNat ++ frame.data

/-- A frame on its way, and as a ghost its place among those that were to be delivered. -/
structure Queued where
  frame : OutputFrame
  place : Nat
  deriving DecidableEq

/-- Where `deliver_output` stands. -/
inductive Delivery
  /-- There is room for its bytes. -/
  | checked (frame : OutputFrame)
  /-- It is in the queue, and not yet counted. -/
  | sent (frame : OutputFrame)
  deriving DecidableEq

/-- Where the thread of the websocket stands. -/
inductive Sending
  /-- It has come from the queue, and is still counted. -/
  | taken (queued : Queued)
  | discounted (queued : Queued)
  deriving DecidableEq

structure TerminalWsClient where
  /-- Whether the thread of the websocket still listens to the queue. -/
  connected : Bool
  /-- Whether it is among the clients that output is delivered to. -/
  registered : Bool
  queue : List Queued
  queuedBytes : UInt64
  delivering : Option Delivery
  sending : Option Sending
  /-- What there was to deliver, each with whether there was room: a ghost. -/
  offered : List (OutputFrame × Bool)
  /-- What the client has been sent. -/
  received : List Queued
  deriving DecidableEq

def initial : TerminalWsClient where
  connected := true
  registered := true
  queue := []
  queuedBytes := 0
  delivering := none
  sending := none
  offered := []
  received := []

def OutputFrame.size (frame : OutputFrame) : Nat := (frameOutput frame).length

def saturatingAdd (a b : Nat) : Nat := min (a + b) (2 ^ 64 - 1)

inductive Step
  | offer (frame : OutputFrame)
  | trySend
  | count
  | recv
  | discount
  | send (written : Bool)
  deriving DecidableEq

namespace TerminalWsClient

def next (s : TerminalWsClient) : Step → TerminalWsClient
  | .offer frame => match s.registered, s.delivering with
    | true, none =>
      if TERMINAL_WS_QUEUE_MAX_BYTES < saturatingAdd s.queuedBytes.toNat frame.size then
        { s with offered := s.offered ++ [(frame, false)] }
      else { s with delivering := some (.checked frame) }
    | _, _ => s
  | .trySend => match s.delivering with
    | some (.checked frame) =>
      if s.connected then
        if s.queue.length < TERMINAL_WS_QUEUE_FRAMES then
          { s with
            queue := s.queue ++ [⟨frame, s.offered.length⟩]
            delivering := some (.sent frame)
            offered := s.offered ++ [(frame, true)] }
        else { s with delivering := none, offered := s.offered ++ [(frame, false)] }
      else { s with registered := false, delivering := none, offered := s.offered ++ [(frame, false)] }
    | _ => s
  | .count => match s.delivering with
    | some (.sent frame) =>
      { s with queuedBytes := s.queuedBytes + UInt64.ofNat frame.size, delivering := none }
    | _ => s
  | .recv => match s.connected, s.sending, s.queue with
    | true, none, queued :: queue => { s with queue, sending := some (.taken queued) }
    | _, _, _ => s
  | .discount => match s.sending with
    | some (.taken queued) =>
      { s with
        queuedBytes := s.queuedBytes - UInt64.ofNat queued.frame.size
        sending := some (.discounted queued) }
    | _ => s
  | .send written => match s.sending with
    | some (.discounted queued) =>
      if written then { s with received := s.received ++ [queued], sending := none }
      else { s with connected := false, queue := [], sending := none }
    | _ => s

def run (steps : List Step) : TerminalWsClient := steps.foldl next initial

section Claims

variable (s : TerminalWsClient)

def inHand : List Queued := match s.sending with
  | some (.taken queued) | some (.discounted queued) => [queued]
  | none => []

def stillCounted : List Queued := match s.sending with
  | some (.taken queued) => [queued]
  | _ => []

/-- What is queued, or on its way to the websocket and still counted. -/
def waiting : List Queued := s.stillCounted ++ s.queue

def waitingBytes : Nat := (s.waiting.map fun queued => queued.frame.size).sum

def uncounted : Nat := match s.delivering with
  | some (.sent frame) => frame.size
  | _ => 0

structure Quiescent : Prop where
  connected : s.connected = true
  queue : s.queue = []
  delivering : s.delivering = none
  sending : s.sending = none

/-- The last that there was to deliver of a pane. -/
structure IsLast (pane : List UInt8) (place : Nat) : Prop where
  there : ∃ frame room, s.offered[place]? = some (frame, room) ∧ frame.paneId = pane
  last : ∀ later frame room, place < later → s.offered[later]? = some (frame, room) → frame.paneId ≠ pane

def Receives (place : Nat) : Prop := ∃ queued ∈ s.received, queued.place = place

/-- A frame of the pane has been received behind one that has not, as its cursor tells. -/
def Reveals (pane : List UInt8) : Prop :=
  ∃ earlier frame room, s.offered[earlier]? = some (frame, room) ∧ frame.paneId = pane ∧ ¬s.Receives earlier ∧
    ∃ queued ∈ s.received, queued.frame.paneId = pane ∧ earlier < queued.place

structure Sound : Prop where
  order : (s.received.map Queued.frame).Sublist (s.offered.map Prod.fst)
  bytes : s.connected = true →
    s.queuedBytes.toNat + s.uncounted = s.waitingBytes ∧ s.queuedBytes.toNat ≤ TERMINAL_WS_QUEUE_MAX_BYTES
  noticed : s.Quiescent → ∀ pane place, s.IsLast pane place → s.Receives place ∨ s.Reveals pane

/-- No frame is discounted before it has been counted, and when all is quiet there has been room for the last frame of
each pane, or for one behind one that there was no room for. -/
structure Steady : Prop where
  counted : s.connected = true → ∀ frame, s.delivering = some (.sent frame) → s.waiting ≠ []
  room : s.Quiescent → ∀ pane place, s.IsLast pane place →
    (∃ frame, s.offered[place]? = some (frame, true)) ∨
    ∃ (earlier later : Nat) (frame other : OutputFrame), earlier < later ∧ s.offered[earlier]? = some (frame, false) ∧ frame.paneId = pane ∧
      s.offered[later]? = some (other, true) ∧ other.paneId = pane

end Claims

def accepted (offered : List (OutputFrame × Bool)) : List Queued :=
  offered.zipIdx.filterMap fun x => if x.1.2 then some ⟨x.1.1, x.2⟩ else none

section Accepted

variable {offered : List (OutputFrame × Bool)} {frame : OutputFrame}

theorem accepted_room : accepted (offered ++ [(frame, true)]) = accepted offered ++ [⟨frame, offered.length⟩] := by
  rw [accepted, List.zipIdx_append, List.filterMap_append, accepted, Nat.zero_add]
  rfl

theorem accepted_full : accepted (offered ++ [(frame, false)]) = accepted offered := by
  rw [accepted, List.zipIdx_append, List.filterMap_append, accepted]
  exact List.append_nil _

theorem mem_accepted {queued : Queued} :
    queued ∈ accepted offered ↔ offered[queued.place]? = some (queued.frame, true) := by
  rw [accepted, List.mem_filterMap]
  constructor
  · rintro ⟨⟨⟨frame, room⟩, place⟩, member, same⟩
    rw [List.mem_zipIdx_iff_getElem?] at member
    cases room with
    | true =>
      cases same
      exact member
    | false => cases same
  · intro there
    exact ⟨((queued.frame, true), queued.place), List.mem_zipIdx_iff_getElem?.2 there, rfl⟩

theorem sublist_accepted : ((accepted offered).map Queued.frame).Sublist (offered.map Prod.fst) := by
  induction offered using List.reverseRecOn with
  | nil => exact .refl _
  | append_singleton offered last ih =>
    obtain ⟨frame, room⟩ := last
    rw [List.map_append]
    cases room with
    | true =>
      rw [accepted_room, List.map_append]
      exact ih.append (.refl _)
    | false =>
      rw [accepted_full]
      exact ih.trans (List.sublist_append_left _ _)

end Accepted

structure Accounted (s : TerminalWsClient) : Prop where
  order : ∃ lost, s.received ++ (s.inHand ++ (s.queue ++ lost)) = accepted s.offered ∧ (s.connected = true → lost = [])
  bytes : s.connected = true → s.queuedBytes + UInt64.ofNat s.uncounted = UInt64.ofNat s.waitingBytes
  small : s.connected = true → s.waitingBytes ≤ TERMINAL_WS_QUEUE_MAX_BYTES
  checked : ∀ frame, s.delivering = some (.checked frame) → s.connected = true →
    s.waitingBytes + frame.size ≤ TERMINAL_WS_QUEUE_MAX_BYTES
  sent : ∀ frame, s.delivering = some (.sent frame) → s.connected = true →
    ∀ queued ∈ s.waiting.getLast?, queued.frame = frame

section Steps

variable {s : TerminalWsClient} {frame : OutputFrame} {queued : Queued}

theorem toNat_of_small {bytes : UInt64} {n : Nat} (same : bytes = UInt64.ofNat n)
    (small : n ≤ TERMINAL_WS_QUEUE_MAX_BYTES) : bytes.toNat = n := by
  rw [same]
  exact UInt64.toNat_ofNat_of_lt' (Nat.lt_of_le_of_lt small (by decide))

theorem Accounted.toNat (accounted : s.Accounted) (connected : s.connected = true) (idle : s.uncounted = 0) :
    s.queuedBytes.toNat = s.waitingBytes := by
  have bytes := accounted.bytes connected
  rw [idle] at bytes
  exact toNat_of_small ((UInt64.add_zero _).symm.trans bytes) (accounted.small connected)

theorem Accounted.offer (accounted : s.Accounted) (frame : OutputFrame) : (s.next (.offer frame)).Accounted := by
  simp only [TerminalWsClient.next]
  split
  · rename_i idle
    have nothing : s.uncounted = 0 := by rw [uncounted, idle]
    split
    · refine ⟨?_, accounted.bytes, accounted.small, accounted.checked, accounted.sent⟩
      dsimp only
      rw [accepted_full]
      exact accounted.order
    · rename_i room
      refine ⟨accounted.order, fun connected => ?_, accounted.small, fun next same connected => ?_, nofun⟩
      · have bytes := accounted.bytes connected
        rw [nothing] at bytes
        exact bytes
      · cases same
        rw [accounted.toNat connected nothing, saturatingAdd] at room
        have bound : TERMINAL_WS_QUEUE_MAX_BYTES < 2 ^ 64 - 1 := by decide
        have small : s.waitingBytes + frame.size ≤ TERMINAL_WS_QUEUE_MAX_BYTES := by omega
        exact small
  · exact accounted

theorem Accounted.refuse {registered : Bool} (accounted : s.Accounted) (nothing : s.uncounted = 0) (frame : OutputFrame) :
    Accounted { s with registered, delivering := none, offered := s.offered ++ [(frame, false)] } := by
  refine ⟨?_, fun connected => ?_, accounted.small, nofun, nofun⟩
  · dsimp only
    rw [accepted_full]
    exact accounted.order
  · have bytes := accounted.bytes connected
    rw [nothing] at bytes
    exact bytes

theorem Accounted.accept (accounted : s.Accounted) (connected : s.connected = true) (nothing : s.uncounted = 0)
    (small : s.waitingBytes + frame.size ≤ TERMINAL_WS_QUEUE_MAX_BYTES) :
    Accounted { s with
      queue := s.queue ++ [⟨frame, s.offered.length⟩]
      delivering := some (.sent frame)
      offered := s.offered ++ [(frame, true)] } := by
  generalize queued_ : (⟨frame, s.offered.length⟩ : Queued) = queued
  have size : queued.frame = frame := by rw [← queued_]
  have waits : s.stillCounted ++ (s.queue ++ [queued]) = s.waiting ++ [queued] := by
    rw [waiting, List.append_assoc]
  have grown : ((s.stillCounted ++ (s.queue ++ [queued])).map fun queued => queued.frame.size).sum =
      s.waitingBytes + frame.size := by
    rw [waits, List.map_append, List.sum_append, List.map_singleton, List.sum_singleton, size, waitingBytes]
  refine ⟨?_, fun _ => ?_, fun _ => ?_, nofun, fun next sent _ last there => ?_⟩
  · obtain ⟨lost, order, none_⟩ := accounted.order
    rw [none_ connected, List.append_nil] at order
    refine ⟨[], ?_, fun _ => rfl⟩
    dsimp only
    rw [accepted_room, queued_, ← order, List.append_nil, List.append_assoc, List.append_assoc]
    rfl
  · have bytes := accounted.bytes connected
    rw [nothing] at bytes
    change s.queuedBytes + UInt64.ofNat frame.size = UInt64.ofNat
      ((s.stillCounted ++ (s.queue ++ [queued])).map fun queued => queued.frame.size).sum
    rw [grown, UInt64.ofNat_add, ← bytes]
    exact congrArg (· + _) (UInt64.add_zero _).symm
  · change ((s.stillCounted ++ (s.queue ++ [queued])).map fun queued => queued.frame.size).sum ≤ _
    rw [grown]
    exact small
  · cases sent
    change last ∈ (s.stillCounted ++ (s.queue ++ [queued])).getLast? at there
    rw [waits, List.getLast?_concat] at there
    cases there
    exact size

theorem Accounted.trySend (accounted : s.Accounted) : (s.next .trySend).Accounted := by
  simp only [TerminalWsClient.next]
  split
  · rename_i frame delivering
    have nothing : s.uncounted = 0 := by rw [uncounted, delivering]
    split
    · rename_i connected
      split
      · exact accounted.accept connected nothing (accounted.checked frame delivering connected)
      · exact accounted.refuse nothing frame
    · exact accounted.refuse nothing frame
  · exact accounted

theorem Accounted.count (accounted : s.Accounted) : (s.next .count).Accounted := by
  simp only [TerminalWsClient.next]
  split
  · rename_i frame delivering
    refine ⟨accounted.order, fun connected => ?_, accounted.small, nofun, nofun⟩
    have bytes := accounted.bytes connected
    rw [uncounted, delivering] at bytes
    exact (UInt64.add_zero _).trans bytes
  · exact accounted

theorem Accounted.recv (accounted : s.Accounted) : (s.next .recv).Accounted := by
  simp only [TerminalWsClient.next]
  split
  · rename_i queued queue connected sending there
    have waits : s.waiting = queued :: queue := by
      rw [waiting, stillCounted, sending, there]
      rfl
    have waitingBytes_ : s.waitingBytes = ((queued :: queue).map fun queued => queued.frame.size).sum := by
      rw [waitingBytes, waits]
    refine ⟨?_, fun connected => ?_, fun connected => ?_, fun frame delivering connected => ?_,
      fun frame delivering connected => ?_⟩
    · have order := accounted.order
      rw [inHand, sending, there] at order
      exact order
    · have bytes := accounted.bytes connected
      rw [waitingBytes_] at bytes
      exact bytes
    · have small := accounted.small connected
      rw [waitingBytes_] at small
      exact small
    · have checked := accounted.checked frame delivering connected
      rw [waitingBytes_] at checked
      exact checked
    · have sent := accounted.sent frame delivering connected
      rw [waits] at sent
      exact sent
  · exact accounted

theorem Accounted.discount (accounted : s.Accounted) : (s.next .discount).Accounted := by
  simp only [TerminalWsClient.next]
  split
  · rename_i queued sending
    have waits : s.waiting = queued :: s.queue := by
      rw [waiting, stillCounted, sending]
      rfl
    have waitingBytes_ : s.waitingBytes = queued.frame.size + (s.queue.map fun queued => queued.frame.size).sum := by
      rw [waitingBytes, waits, List.map_cons, List.sum_cons]
    refine ⟨?_, fun connected => ?_, fun connected => ?_, fun frame delivering connected => ?_,
      fun frame delivering connected last there => ?_⟩
    · have order := accounted.order
      rw [inHand, sending] at order
      exact order
    · have bytes := accounted.bytes connected
      rw [waitingBytes_, UInt64.ofNat_add] at bytes
      change s.queuedBytes - UInt64.ofNat queued.frame.size + UInt64.ofNat s.uncounted =
        UInt64.ofNat (s.queue.map fun queued => queued.frame.size).sum
      grind
    · have small := accounted.small connected
      rw [waitingBytes_] at small
      exact Nat.le_trans (Nat.le_add_left _ _) small
    · have checked := accounted.checked frame delivering connected
      rw [waitingBytes_] at checked
      exact Nat.le_trans (Nat.add_le_add_right (Nat.le_add_left _ _) _) checked
    · apply accounted.sent frame delivering connected last
      rw [waits]
      change last ∈ s.queue.getLast? at there
      rw [List.getLast?_cons, there]
      rfl
  · exact accounted

theorem Accounted.send (accounted : s.Accounted) (written : Bool) : (s.next (.send written)).Accounted := by
  simp only [TerminalWsClient.next]
  split
  · rename_i queued sending
    have waits : s.waiting = s.queue := by
      rw [waiting, stillCounted, sending]
      rfl
    have waitingBytes_ : s.waitingBytes = (s.queue.map fun queued => queued.frame.size).sum := by
      rw [waitingBytes, waits]
    obtain ⟨lost, order, none_⟩ := accounted.order
    rw [inHand, sending] at order
    split
    · refine ⟨⟨lost, ?_, none_⟩, fun connected => ?_, fun connected => ?_, fun frame delivering connected => ?_,
        fun frame delivering connected => ?_⟩
      · rw [← order]
        exact List.append_assoc _ _ _
      · have bytes := accounted.bytes connected
        rw [waitingBytes_] at bytes
        exact bytes
      · have small := accounted.small connected
        rw [waitingBytes_] at small
        exact small
      · have checked := accounted.checked frame delivering connected
        rw [waitingBytes_] at checked
        exact checked
      · have sent := accounted.sent frame delivering connected
        rw [waits] at sent
        exact sent
    · exact ⟨⟨[queued] ++ (s.queue ++ lost), order, nofun⟩, nofun, nofun, fun _ _ => nofun, fun _ _ => nofun⟩
  · exact accounted

theorem Accounted.next (accounted : s.Accounted) (step : Step) : (s.next step).Accounted := by
  cases step with
  | offer frame => exact accounted.offer frame
  | trySend => exact accounted.trySend
  | count => exact accounted.count
  | recv => exact accounted.recv
  | discount => exact accounted.discount
  | send written => exact accounted.send written

theorem accounted_run (steps : List Step) : (run steps).Accounted := by
  refine run_invariant (P := fun _ _ => True) (fun _ step accounted _ => accounted.next step) ?_
    (throughout_of_forall (fun _ _ _ => trivial) _)
  exact ⟨⟨[], rfl, fun _ => rfl⟩, fun _ => rfl, fun _ => Nat.zero_le _, nofun, nofun⟩

theorem size_pos (frame : OutputFrame) : 0 < frame.size := by
  rw [OutputFrame.size, frameOutput, List.length_append, List.length_append, length_bigEndian]
  omega

theorem size_le_waitingBytes (member : queued ∈ s.waiting) : queued.frame.size ≤ s.waitingBytes :=
  List.le_sum_of_mem (List.mem_map_of_mem member)

theorem Accounted.uncounted_le (accounted : s.Accounted) (connected : s.connected = true)
    (counted : ∀ frame, s.delivering = some (.sent frame) → s.waiting ≠ []) : s.uncounted ≤ s.waitingBytes := by
  rw [uncounted]
  split
  · rename_i frame delivering
    have last := List.getLast?_eq_some_getLast (counted frame delivering)
    have same := accounted.sent frame delivering connected _ last
    rw [← same]
    exact size_le_waitingBytes (List.getLast_mem _)
  · exact Nat.zero_le _

theorem Accounted.bytes_of_le (accounted : s.Accounted) (connected : s.connected = true)
    (waits : s.uncounted ≤ s.waitingBytes) : s.queuedBytes.toNat + s.uncounted = s.waitingBytes ∧
      s.queuedBytes.toNat ≤ TERMINAL_WS_QUEUE_MAX_BYTES := by
  have bytes := accounted.bytes connected
  have small := accounted.small connected
  obtain ⟨rest, same⟩ := Nat.exists_eq_add_of_le waits
  have counted : s.queuedBytes.toNat = rest := by
    refine toNat_of_small ?_ (by omega)
    rw [same, UInt64.ofNat_add] at bytes
    grind
  omega

theorem Accounted.received_eq (accounted : s.Accounted) (quiescent : s.Quiescent) : s.received = accepted s.offered := by
  obtain ⟨lost, order, none_⟩ := accounted.order
  rw [none_ quiescent.connected, inHand, quiescent.sending, quiescent.queue] at order
  rw [← order]
  exact (List.append_nil _).symm

theorem Accounted.receives_iff (accounted : s.Accounted) (quiescent : s.Quiescent) (place : Nat) :
    s.Receives place ↔ ∃ frame, s.offered[place]? = some (frame, true) := by
  rw [Receives, accounted.received_eq quiescent]
  constructor
  · rintro ⟨queued, member, rfl⟩
    exact ⟨queued.frame, mem_accepted.1 member⟩
  · rintro ⟨frame, there⟩
    exact ⟨⟨frame, place⟩, mem_accepted.2 there, rfl⟩

end Steps

theorem Accounted.reveals_iff {s : TerminalWsClient} (accounted : s.Accounted) (quiescent : s.Quiescent)
    (pane : List UInt8) : s.Reveals pane ↔ ∃ (earlier later : Nat) (frame other : OutputFrame), earlier < later ∧
      s.offered[earlier]? = some (frame, false) ∧ frame.paneId = pane ∧
      s.offered[later]? = some (other, true) ∧ other.paneId = pane := by
  constructor
  · rintro ⟨earlier, frame, room, there, of, missing, queued, received, same, behind⟩
    rw [accounted.receives_iff quiescent] at missing
    rw [accounted.received_eq quiescent] at received
    cases room with
    | true => exact absurd ⟨frame, there⟩ missing
    | false => exact ⟨earlier, queued.place, frame, queued.frame, behind, there, of, mem_accepted.1 received, same⟩
  · rintro ⟨earlier, later, frame, other, behind, there, of, here, same⟩
    refine ⟨earlier, frame, false, there, of, fun received => ?_, ⟨other, later⟩, ?_, same, behind⟩
    · obtain ⟨frame', there'⟩ := (accounted.receives_iff quiescent earlier).1 received
      rw [there] at there'
      cases there'
    · rw [accounted.received_eq quiescent]
      exact mem_accepted.2 here

/-- The client misses nothing unawares just where each frame is counted before it is discounted, and where there is
room for the last frame of each pane or for one behind one that is missing. -/
theorem sound_iff_steady (steps : List Step) : (run steps).Sound ↔ (run steps).Steady := by
  have accounted := accounted_run steps
  generalize run steps = s at accounted
  constructor
  · intro sound
    refine ⟨fun connected frame delivering nothing => ?_, fun quiescent pane place last => ?_⟩
    · have bytes := (sound.bytes connected).1
      rw [uncounted, delivering, waitingBytes, nothing] at bytes
      exact Nat.lt_irrefl 0 (Nat.lt_of_lt_of_le (size_pos frame) (Nat.le_trans (Nat.le_add_left _ _) (Nat.le_of_eq bytes)))
    · rw [← accounted.receives_iff quiescent, ← accounted.reveals_iff quiescent]
      exact sound.noticed quiescent pane place last
  · intro steady
    refine ⟨?_, fun connected => ?_, fun quiescent pane place last => ?_⟩
    · obtain ⟨lost, order, _⟩ := accounted.order
      have sublist := @sublist_accepted s.offered
      rw [← order, List.map_append] at sublist
      exact (List.sublist_append_left _ _).trans sublist
    · exact accounted.bytes_of_le connected (accounted.uncounted_le connected (steady.counted connected))
    · rw [accounted.receives_iff quiescent, accounted.reveals_iff quiescent]
      exact steady.room quiescent pane place last

section Burst

variable (frames : Nat → OutputFrame)

def bursts (n : Nat) : List Step := (List.range n).flatMap fun i => [.offer (frames i), .trySend, .count]

def drains (n : Nat) : List Step := (List.replicate n [Step.recv, .discount, .send true]).flatten

/-- The client when so many frames are queued and so many received. -/
def midway (size queued received : Nat) (last : List (OutputFrame × Bool)) : TerminalWsClient where
  connected := true
  registered := true
  queue := (List.range' received queued).map fun place => ⟨frames place, place⟩
  queuedBytes := UInt64.ofNat (queued * size)
  delivering := none
  sending := none
  offered := (List.range (received + queued)).map (fun place => (frames place, true)) ++ last
  received := (List.range received).map fun place => ⟨frames place, place⟩

variable {frames} {size n : Nat} (same : ∀ i, (frames i).size = size)
  (small : TERMINAL_WS_QUEUE_FRAMES * size ≤ TERMINAL_WS_QUEUE_MAX_BYTES)

include same small

theorem midway_offer (few : n < TERMINAL_WS_QUEUE_FRAMES) : (midway frames size n 0 []).next (.offer (frames n)) =
    { midway frames size n 0 [] with delivering := some (.checked (frames n)) } := by
  have bytes : n * size + size ≤ TERMINAL_WS_QUEUE_MAX_BYTES := by
    rw [← Nat.succ_mul]
    exact Nat.le_trans (Nat.mul_le_mul_right _ few) small
  have counted : (midway frames size n 0 []).queuedBytes.toNat = n * size :=
    toNat_of_small rfl (Nat.le_trans (Nat.le_add_right _ _) bytes)
  have room : ¬TERMINAL_WS_QUEUE_MAX_BYTES <
      saturatingAdd (midway frames size n 0 []).queuedBytes.toNat (frames n).size := by
    rw [counted, same, saturatingAdd, Nat.not_lt]
    exact Nat.le_trans (Nat.min_le_left _ _) bytes
  exact if_neg room

theorem midway_deliver (few : n < TERMINAL_WS_QUEUE_FRAMES) :
    [Step.offer (frames n), .trySend, .count].foldl next (midway frames size n 0 []) =
      midway frames size (n + 1) 0 [] := by
  have length : ((List.range' 0 n).map fun place => (⟨frames place, place⟩ : Queued)).length <
      TERMINAL_WS_QUEUE_FRAMES := by
    rw [List.length_map, List.length_range']
    exact few
  rw [List.foldl_cons, midway_offer same small few]
  simp only [List.foldl_cons, List.foldl_nil, midway, next, if_pos length, if_pos]
  rw [List.append_nil, List.append_nil, List.length_map, List.length_range, Nat.zero_add, Nat.zero_add, same,
    Nat.succ_mul, UInt64.ofNat_add, List.range'_1_concat, List.map_append, List.range_succ, List.map_append, Nat.zero_add]
  rfl

theorem burst_eq (few : n ≤ TERMINAL_WS_QUEUE_FRAMES) : run (bursts frames n) = midway frames size n 0 [] := by
  induction n with
  | zero =>
    rw [midway, Nat.zero_mul]
    rfl
  | succ n ih =>
    have before := ih (Nat.le_of_succ_le few)
    rw [run, bursts] at before ⊢
    rw [List.range_succ, List.flatMap_append, List.flatMap_singleton, List.foldl_append, before,
      midway_deliver same small few]

omit small in
theorem midway_drain (queued received : Nat) (last : List (OutputFrame × Bool)) :
    [Step.recv, .discount, .send true].foldl next (midway frames size (queued + 1) received last) =
      midway frames size queued (received + 1) last := by
  simp only [List.foldl_cons, List.foldl_nil, midway, List.range'_succ, List.map_cons, next]
  rw [if_pos trivial, same, Nat.succ_mul, UInt64.ofNat_add, UInt64.add_sub_cancel, List.range_succ, List.map_append,
    Nat.succ_add_eq_add_succ]
  rfl

omit small in
theorem drain_eq (queued received : Nat) (last : List (OutputFrame × Bool)) :
    (drains queued).foldl next (midway frames size queued received last) =
      midway frames size 0 (received + queued) last := by
  induction queued generalizing received with
  | zero => rfl
  | succ queued ih =>
    rw [drains, List.replicate_succ, List.flatten_cons, List.foldl_append, midway_drain same]
    exact (ih (received + 1)).trans (by rw [Nat.succ_add_eq_add_succ])

omit same in
theorem midway_refuse (frame : OutputFrame)
    (fits : TERMINAL_WS_QUEUE_FRAMES * size + frame.size ≤ TERMINAL_WS_QUEUE_MAX_BYTES) :
    [Step.offer frame, .trySend].foldl next (midway frames size TERMINAL_WS_QUEUE_FRAMES 0 []) =
      midway frames size TERMINAL_WS_QUEUE_FRAMES 0 [(frame, false)] := by
  generalize atCapacity : TERMINAL_WS_QUEUE_FRAMES = n at *
  have counted : (midway frames size n 0 []).queuedBytes.toNat = n * size := toNat_of_small rfl small
  have room : ¬TERMINAL_WS_QUEUE_MAX_BYTES < saturatingAdd (midway frames size n 0 []).queuedBytes.toNat frame.size := by
    rw [counted, saturatingAdd, Nat.not_lt]
    exact Nat.le_trans (Nat.min_le_left _ _) fits
  have offered : (midway frames size n 0 []).next (.offer frame) =
      { midway frames size n 0 [] with delivering := some (.checked frame) } := if_neg room
  have full : ¬((List.range' 0 n).map fun place => (⟨frames place, place⟩ : Queued)).length <
      TERMINAL_WS_QUEUE_FRAMES := by
    rw [List.length_map, List.length_range', atCapacity]
    exact Nat.lt_irrefl n
  rw [List.foldl_cons, offered]
  simp only [List.foldl_cons, List.foldl_nil, midway, next, if_neg full, if_pos]
  rw [List.append_nil]

end Burst

section Tail

def output (i : Nat) : OutputFrame := ⟨[112], 0, UInt64.ofNat (i + 1), [120], by decide⟩

theorem size_output (i : Nat) : (output i).size = 20 := by
  simp only [OutputFrame.size, frameOutput, List.length_append, length_bigEndian]
  rfl

/-- The last byte of a burst comes when the queue is full, and nothing comes behind it. -/
theorem not_every_loss_noticed : ¬∀ steps, (run steps).Sound := by
  intro sound
  have full : TERMINAL_WS_QUEUE_FRAMES * 20 + (output TERMINAL_WS_QUEUE_FRAMES).size ≤ TERMINAL_WS_QUEUE_MAX_BYTES := by
    rw [size_output]
    decide
  have drained := sound (bursts output TERMINAL_WS_QUEUE_FRAMES ++ [.offer (output TERMINAL_WS_QUEUE_FRAMES), .trySend] ++
    drains TERMINAL_WS_QUEUE_FRAMES)
  have state := burst_eq size_output (by decide) (Nat.le_refl TERMINAL_WS_QUEUE_FRAMES)
  rw [run] at state drained
  rw [List.foldl_append, List.foldl_append, state, midway_refuse (by decide) _ full, drain_eq size_output,
    Nat.zero_add] at drained
  generalize TERMINAL_WS_QUEUE_FRAMES = n at drained
  have received (place : Nat) : (midway output 20 0 n [(output n, false)]).Receives place ↔ place < n := by
    constructor
    · rintro ⟨queued, member, rfl⟩
      obtain ⟨place, inside, rfl⟩ := List.mem_map.1 member
      exact List.mem_range.1 inside
    · intro inside
      exact ⟨⟨output place, place⟩, List.mem_map.2 ⟨place, List.mem_range.2 inside, rfl⟩, rfl⟩
  have last : (midway output 20 0 n [(output n, false)]).IsLast [112] n := by
    have length : ((List.range (n + 0)).map fun place => (output place, true)).length = n := by
      rw [List.length_map, List.length_range]
      rfl
    refine ⟨⟨output n, false, ?_, rfl⟩, fun later frame room behind there => ?_⟩
    · rw [midway, List.getElem?_append_right (Nat.le_of_eq length), length, Nat.sub_self]
      rfl
    · rw [midway, List.getElem?_append_right (Nat.le_of_lt (length.trans_lt behind)), length] at there
      obtain ⟨k, rfl⟩ := Nat.exists_eq_add_of_lt behind
      rw [Nat.add_assoc, Nat.add_sub_cancel_left] at there
      cases there
  cases drained.noticed ⟨rfl, rfl, rfl, rfl⟩ [112] n last with
  | inl got => exact Nat.lt_irrefl n ((received n).1 got)
  | inr reveals =>
    obtain ⟨earlier, _, _, _, _, missing, queued, member, _, behind⟩ := reveals
    have inside := (received queued.place).1 ⟨queued, member, rfl⟩
    exact missing ((received earlier).2 (Nat.lt_trans behind inside))

end Tail

end TerminalWsClient

end VibeLink.Desktop.Websocket
