import VibeLink.Binary.Base64
import VibeLink.Remote.Sequences

/-! The encrypted frames of two ends of a connection, numbered and acknowledged (`remote/v2/secure.rs`). -/

universe u

namespace VibeLink.Remote

def MAX_HANDSHAKE_FRAME : Nat := 65535

def MAX_SECURE_PAYLOAD : Nat := 63 * 1024

inductive SecureFrameKind
  | control
  | binary
  | notification
  | terminalInput
  | terminalOutput
  | snapshot
  | event
  deriving DecidableEq

structure SecureFrame where
  sequence : UInt64
  ack : UInt64
  kind : SecureFrameKind
  payload : List UInt8
  deriving DecidableEq

/-- The libraries below: the state of a Noise session with what it writes and reads, and MessagePack. -/
structure Library (σ : Type u) where
  writeMessage : σ → List UInt8 → Option (List UInt8) × σ
  readMessage : σ → List UInt8 → Option (List UInt8) × σ
  encode : SecureFrame → Option (List UInt8)
  decode : List UInt8 → Option SecureFrame

variable {σ : Type u}

structure SecureTransport (σ : Type u) where
  state : σ
  nextSendSequence : UInt64 := 1
  nextReceiveSequence : UInt64 := 1
  lastReceivedSequence : UInt64 := 0
  lastAckedByPeer : UInt64 := 0

namespace SecureTransport

/-- `seal` -/
def seal' (lib : Library σ) (t : SecureTransport σ) (kind : SecureFrameKind) (payload : List UInt8) :
    Except String (List UInt8) × SecureTransport σ :=
  if MAX_SECURE_PAYLOAD < payload.length then (.error "remote-v2 secure payload too large", t)
  else
    match lib.encode ⟨t.nextSendSequence, t.lastReceivedSequence, kind, payload⟩ with
    | none => (.error "encode secure frame", t)
    | some encoded =>
      match lib.writeMessage t.state encoded with
      | (none, state) => (.error "encrypt secure frame", { t with state })
      | (some output, state) =>
        if t.nextSendSequence = 0xffffffffffffffff then
          (.error "remote-v2 send sequence exhausted", { t with state })
        else (.ok output, { t with state, nextSendSequence := t.nextSendSequence + 1 })

/-- `open` -/
def open' (lib : Library σ) (t : SecureTransport σ) (ciphertext : List UInt8) :
    Except String SecureFrame × SecureTransport σ :=
  if ciphertext = [] ∨ MAX_HANDSHAKE_FRAME < ciphertext.length then
    (.error "invalid remote-v2 ciphertext length", t)
  else
    match lib.readMessage t.state ciphertext with
    | (none, state) => (.error "decrypt secure frame", { t with state })
    | (some plaintext, state) =>
      let t := { t with state }
      match lib.decode plaintext with
      | none => (.error "decode secure frame", t)
      | some frame =>
        if frame.sequence ≠ t.nextReceiveSequence then
          (.error s!"remote-v2 sequence gap: expected {t.nextReceiveSequence}, received {frame.sequence}", t)
        else if t.nextSendSequence ≤ frame.ack then
          (.error "remote-v2 peer acknowledged an unsent frame", t)
        else if MAX_SECURE_PAYLOAD < frame.payload.length then (.error "remote-v2 secure payload too large", t)
        else
          let t := { t with lastReceivedSequence := frame.sequence }
          if t.nextReceiveSequence = 0xffffffffffffffff then
            (.error "remote-v2 receive sequence exhausted", t)
          else
            (.ok frame,
              { t with
                nextReceiveSequence := t.nextReceiveSequence + 1
                lastAckedByPeer := max t.lastAckedByPeer frame.ack })

end SecureTransport

inductive Side
  | initiator
  | responder
  deriving DecidableEq

def Side.peer : Side → Side
  | initiator => responder
  | responder => initiator

/-- Two ends, and the ciphertexts on the way to each. -/
structure Connection (σ : Type u) where
  transport : Side → SecureTransport σ
  inbox : Side → List (List UInt8)
  sent : Side → Nat

inductive Act
  | seal' (side : Side) (kind : SecureFrameKind) (payload : List UInt8)
  | open' (side : Side)

namespace Connection

def start (initiator responder : σ) : Connection σ where
  transport
    | .initiator => ⟨initiator, 1, 1, 0, 0⟩
    | .responder => ⟨responder, 1, 1, 0, 0⟩
  inbox _ := []
  sent _ := 0

/-- What is sealed is sent, and what arrives first is opened first. -/
def step (lib : Library σ) (x : Connection σ) : Act → Connection σ
  | .seal' side kind payload =>
    let (answer, transport) := (x.transport side).seal' lib kind payload
    let x := { x with transport := Function.update x.transport side transport }
    match answer with
    | .ok ciphertext =>
      { x with
        inbox := Function.update x.inbox side.peer (x.inbox side.peer ++ [ciphertext])
        sent := Function.update x.sent side (x.sent side + 1) }
    | .error _ => x
  | .open' side =>
    match x.inbox side with
    | [] => x
    | ciphertext :: rest =>
      { x with
        transport := Function.update x.transport side ((x.transport side).open' lib ciphertext).2
        inbox := Function.update x.inbox side rest }

def run (lib : Library σ) (x : Connection σ) (acts : List Act) : Connection σ := acts.foldl (step lib) x

end Connection

/-- An ideal channel from the first session to the second, with the plaintexts and messages that were written
and not yet read. -/
structure Ideal (lib : Library σ) (Link : σ → σ → List (List UInt8 × List UInt8) → Prop) : Prop where
  write : ∀ {x y x' queue plain message}, Link x y queue → lib.writeMessage x plain = (some message, x') →
    Link x' y (queue ++ [(plain, message)])
  refuse : ∀ {x y x' queue plain}, Link x y queue → lib.writeMessage x plain = (none, x') → Link x' y queue
  read : ∀ {x y queue plain message}, Link x y ((plain, message) :: queue) →
    ∃ y', lib.readMessage y message = (some plain, y') ∧ Link x y' queue
  /-- The two directions of a session are apart. -/
  writes : ∀ {x y queue}, Link x y queue → ∀ plain, Link x (lib.writeMessage y plain).2 queue
  reads : ∀ {x y queue}, Link x y queue → ∀ message, Link (lib.readMessage x message).2 y queue
  length : ∀ {x x' plain message}, lib.writeMessage x plain = (some message, x') →
    message ≠ [] ∧ message.length ≤ MAX_HANDSHAKE_FRAME
  decode : ∀ {frame plain}, lib.encode frame = some plain → lib.decode plain = some frame

/-- What comes of a frame to be sealed. -/
inductive Sealing (lib : Library σ) (t : SecureTransport σ) (kind : SecureFrameKind) (payload : List UInt8) :
    Except String (List UInt8) × SecureTransport σ → Prop
  | refused (e : String) : Sealing lib t kind payload (.error e, t)
  | unwritten (e : String) {plain : List UInt8} {state : σ}
      (written : lib.writeMessage t.state plain = (none, state)) :
      Sealing lib t kind payload (.error e, { t with state })
  | exhausted (e : String) {plain message : List UInt8} {state : σ}
      (written : lib.writeMessage t.state plain = (some message, state))
      (limit : t.nextSendSequence = 0xffffffffffffffff) : Sealing lib t kind payload (.error e, { t with state })
  | sealed {plain message : List UInt8} {state : σ} (fits : payload.length ≤ MAX_SECURE_PAYLOAD)
      (encoded : lib.encode ⟨t.nextSendSequence, t.lastReceivedSequence, kind, payload⟩ = some plain)
      (written : lib.writeMessage t.state plain = (some message, state))
      (counts : t.nextSendSequence ≠ 0xffffffffffffffff) :
      Sealing lib t kind payload (.ok message, { t with state, nextSendSequence := t.nextSendSequence + 1 })

theorem sealing (lib : Library σ) (t : SecureTransport σ) (kind : SecureFrameKind) (payload : List UInt8) :
    Sealing lib t kind payload (t.seal' lib kind payload) := by
  unfold SecureTransport.seal'
  split
  · exact .refused _
  · rename_i fits
    split
    · exact .refused _
    · rename_i encoded
      split
      · rename_i written
        exact .unwritten _ written
      · rename_i written
        split
        · rename_i limit
          exact .exhausted _ written limit
        · rename_i counts
          exact .sealed (Nat.not_lt.1 fits) encoded written counts

namespace SecureTransport

variable {lib : Library σ} {t : SecureTransport σ} {ciphertext plain : List UInt8} {frame : SecureFrame}
  {state : σ}

theorem seal'_eq {kind : SecureFrameKind} {payload message : List UInt8} (fits : payload.length ≤ MAX_SECURE_PAYLOAD)
    (encoded : lib.encode ⟨t.nextSendSequence, t.lastReceivedSequence, kind, payload⟩ = some plain)
    (written : lib.writeMessage t.state plain = (some message, state))
    (counts : t.nextSendSequence ≠ 0xffffffffffffffff) :
    t.seal' lib kind payload =
      (.ok message, { t with state := state, nextSendSequence := t.nextSendSequence + 1 }) := by
  rw [seal', if_neg (Nat.not_lt.2 fits), encoded]
  dsimp only
  rw [written]
  dsimp only
  rw [if_neg counts]

theorem open'_eq (nonempty : ciphertext ≠ []) (short : ciphertext.length ≤ MAX_HANDSHAKE_FRAME)
    (read : lib.readMessage t.state ciphertext = (some plain, state)) (decoded : lib.decode plain = some frame)
    (next : frame.sequence = t.nextReceiveSequence) (acked : frame.ack < t.nextSendSequence)
    (fits : frame.payload.length ≤ MAX_SECURE_PAYLOAD)
    (counts : t.nextReceiveSequence ≠ 0xffffffffffffffff) :
    t.open' lib ciphertext = (.ok frame,
      { t with
        state := state
        lastReceivedSequence := frame.sequence
        nextReceiveSequence := t.nextReceiveSequence + 1
        lastAckedByPeer := max t.lastAckedByPeer frame.ack }) := by
  have length : ¬(ciphertext = [] ∨ MAX_HANDSHAKE_FRAME < ciphertext.length) :=
    not_or.2 ⟨nonempty, Nat.not_lt.2 short⟩
  have next' : ¬frame.sequence ≠ t.nextReceiveSequence := not_not_intro next
  have acked' : ¬t.nextSendSequence ≤ frame.ack := UInt64.not_le.2 acked
  have fits' : ¬MAX_SECURE_PAYLOAD < frame.payload.length := Nat.not_lt.2 fits
  rw [open', if_neg length, read]
  simp only [decoded, if_neg next', if_neg acked', if_neg fits', if_neg counts]

end SecureTransport

theorem Side.peer_peer (side : Side) : side.peer.peer = side := by cases side <;> rfl

theorem Side.peer_ne (side : Side) : side.peer ≠ side := by cases side <;> decide

/-- A frame on its way. -/
structure Sealed where
  frame : SecureFrame
  plain : List UInt8
  message : List UInt8

/-- What the sender has sealed and the receiver has not opened: the frames on their way, and behind them what
was written when the numbers were exhausted. -/
structure Flow (lib : Library σ) (Link : σ → σ → List (List UInt8 × List UInt8) → Prop)
    (sender receiver : SecureTransport σ) (inbox : List (List UInt8)) (flight : List Sealed)
    (lost : List (List UInt8 × List UInt8)) : Prop where
  link : Link sender.state receiver.state (flight.map (fun sealed => (sealed.plain, sealed.message)) ++ lost)
  inbox : inbox = flight.map Sealed.message
  encoded : ∀ sealed ∈ flight, lib.encode sealed.frame = some sealed.plain
  length : ∀ sealed ∈ flight, sealed.message ≠ [] ∧ sealed.message.length ≤ MAX_HANDSHAKE_FRAME
  fits : ∀ sealed ∈ flight, sealed.frame.payload.length ≤ MAX_SECURE_PAYLOAD
  acks : ∀ sealed ∈ flight, sealed.frame.ack ≤ sender.lastReceivedSequence
  numbers : flight.map (fun sealed => sealed.frame.sequence.toNat) =
    List.range' receiver.nextReceiveSequence.toNat flight.length
  count : receiver.nextReceiveSequence.toNat + flight.length = sender.nextSendSequence.toNat
  exhausted : lost ≠ [] → sender.nextSendSequence = 0xffffffffffffffff

namespace Flow

variable {lib : Library σ} {Link : σ → σ → List (List UInt8 × List UInt8) → Prop}
  {sender receiver : SecureTransport σ} {inbox : List (List UInt8)} {flight : List Sealed}
  {lost : List (List UInt8 × List UInt8)} {plain message payload : List UInt8} {state : σ}
  {kind : SecureFrameKind}

theorem unwritten (flow : Flow lib Link sender receiver inbox flight lost) (ideal : Ideal lib Link)
    (written : lib.writeMessage sender.state plain = (none, state)) :
    Flow lib Link { sender with state } receiver inbox flight lost :=
  { flow with link := ideal.refuse flow.link written }

theorem exhausts (flow : Flow lib Link sender receiver inbox flight lost) (ideal : Ideal lib Link)
    (written : lib.writeMessage sender.state plain = (some message, state))
    (limit : sender.nextSendSequence = 0xffffffffffffffff) :
    Flow lib Link { sender with state } receiver inbox flight (lost ++ [(plain, message)]) :=
  { flow with
    link := List.append_assoc _ lost _ ▸ ideal.write flow.link written
    exhausted := fun _ => limit }

theorem succ_toNat {n : UInt64} (ne : n ≠ 0xffffffffffffffff) : (n + 1).toNat = n.toNat + 1 := by
  have followed := following_toNat ne
  rwa [following, if_neg ne] at followed

theorem sealed (flow : Flow lib Link sender receiver inbox flight lost) (ideal : Ideal lib Link)
    (fits : payload.length ≤ MAX_SECURE_PAYLOAD)
    (encoded : lib.encode ⟨sender.nextSendSequence, sender.lastReceivedSequence, kind, payload⟩ = some plain)
    (written : lib.writeMessage sender.state plain = (some message, state))
    (counts : sender.nextSendSequence ≠ 0xffffffffffffffff) :
    Flow lib Link { sender with state, nextSendSequence := sender.nextSendSequence + 1 } receiver
      (inbox ++ [message])
      (flight ++ [⟨⟨sender.nextSendSequence, sender.lastReceivedSequence, kind, payload⟩, plain, message⟩]) lost := by
  have none : lost = [] := Decidable.byContradiction fun some => counts (flow.exhausted some)
  cases none
  have link := flow.link
  rw [List.append_nil] at link
  refine ⟨?_, ?_, ?_, ?_, ?_, ?_, ?_, ?_, ?_⟩
  · rw [List.append_nil, List.map_append]
    exact ideal.write link written
  · rw [flow.inbox, List.map_append]
    rfl
  · exact List.forall_mem_append.2 ⟨flow.encoded, List.forall_mem_singleton.2 encoded⟩
  · exact List.forall_mem_append.2 ⟨flow.length, List.forall_mem_singleton.2 (ideal.length written)⟩
  · exact List.forall_mem_append.2 ⟨flow.fits, List.forall_mem_singleton.2 fits⟩
  · exact List.forall_mem_append.2 ⟨flow.acks, List.forall_mem_singleton.2 (UInt64.le_refl _)⟩
  · rw [List.map_append, flow.numbers, List.length_append, List.length_singleton, List.range'_concat,
      Nat.one_mul, flow.count]
    rfl
  · have count := flow.count
    rw [succ_toNat counts, List.length_append, List.length_singleton]
    omega
  · exact fun some => absurd rfl some

theorem receiverWrites (flow : Flow lib Link sender receiver inbox flight lost) (ideal : Ideal lib Link)
    (plain : List UInt8) (next : UInt64) :
    Flow lib Link sender
      { receiver with state := (lib.writeMessage receiver.state plain).2, nextSendSequence := next }
      inbox flight lost :=
  { flow with link := ideal.writes flow.link plain }

theorem senderReads (flow : Flow lib Link sender receiver inbox flight lost) (ideal : Ideal lib Link)
    (message : List UInt8) {last next acked : UInt64} (le : sender.lastReceivedSequence ≤ last) :
    Flow lib Link ⟨(lib.readMessage sender.state message).2, sender.nextSendSequence, next, last, acked⟩ receiver
      inbox flight lost :=
  { flow with
    link := ideal.reads flow.link message
    acks := fun sealed member => UInt64.le_trans (flow.acks sealed member) le }

theorem opened {rest : List (List UInt8)}
    (flow : Flow lib Link sender receiver (message :: rest) flight lost) (ideal : Ideal lib Link)
    (acked : sender.lastReceivedSequence < receiver.nextSendSequence) :
    ∃ frame flight', receiver.open' lib message = (.ok frame,
          ⟨(lib.readMessage receiver.state message).2, receiver.nextSendSequence, receiver.nextReceiveSequence + 1,
            receiver.nextReceiveSequence, max receiver.lastAckedByPeer frame.ack⟩) ∧
      receiver.nextReceiveSequence ≠ 0xffffffffffffffff ∧ frame.ack ≤ sender.lastReceivedSequence ∧
      Flow lib Link sender
        ⟨(lib.readMessage receiver.state message).2, receiver.nextSendSequence, receiver.nextReceiveSequence + 1,
          receiver.nextReceiveSequence, max receiver.lastAckedByPeer frame.ack⟩ rest flight' lost := by
  cases flight with
  | nil => cases flow.inbox
  | cons sealed flight =>
    obtain ⟨here, behind⟩ := List.cons_eq_cons.1 flow.inbox
    have count := flow.count
    have numbers := flow.numbers
    have bound := sender.nextSendSequence.toNat_lt
    rw [List.length_cons] at count
    rw [List.length_cons, List.map_cons, List.range'_succ] at numbers
    obtain ⟨number, numbers⟩ := List.cons_eq_cons.1 numbers
    have counts : receiver.nextReceiveSequence ≠ 0xffffffffffffffff := by
      intro limit
      rw [limit] at count
      change 18446744073709551615 + _ = _ at count
      omega
    obtain ⟨state, read, link⟩ := ideal.read (show Link sender.state receiver.state
      ((sealed.plain, sealed.message) :: _) from flow.link)
    rw [← here] at read
    have length := flow.length sealed List.mem_cons_self
    rw [← here] at length
    have ack := flow.acks sealed List.mem_cons_self
    have next := UInt64.toNat_inj.1 number
    refine ⟨sealed.frame, flight, ?_, counts, ack, ?_⟩
    · rw [SecureTransport.open'_eq length.1 length.2 read (ideal.decode (flow.encoded sealed List.mem_cons_self))
        next (UInt64.lt_of_le_of_lt ack acked) (flow.fits sealed List.mem_cons_self) counts, read, next]
    · rw [read]
      refine ⟨link, behind, ?_, ?_, ?_, ?_, ?_, ?_, flow.exhausted⟩
      · exact fun sealed member => flow.encoded sealed (List.mem_cons_of_mem _ member)
      · exact fun sealed member => flow.length sealed (List.mem_cons_of_mem _ member)
      · exact fun sealed member => flow.fits sealed (List.mem_cons_of_mem _ member)
      · exact fun sealed member => flow.acks sealed (List.mem_cons_of_mem _ member)
      · dsimp only
        rw [succ_toNat counts]
        exact numbers
      · dsimp only
        rw [succ_toNat counts]
        omega

end Flow

/-- What any interleaving of sealing and opening keeps. -/
structure Honest (lib : Library σ) (Link : σ → σ → List (List UInt8 × List UInt8) → Prop) (x : Connection σ) :
    Prop where
  flow : ∀ side, ∃ flight lost,
    Flow lib Link (x.transport side) (x.transport side.peer) (x.inbox side.peer) flight lost
  received : ∀ side, (x.transport side).lastReceivedSequence.toNat + 1 = (x.transport side).nextReceiveSequence.toNat
  sent : ∀ side, x.sent side + 1 = (x.transport side).nextSendSequence.toNat
  acked : ∀ side, (x.transport side).lastAckedByPeer ≤ (x.transport side.peer).lastReceivedSequence

namespace Honest

variable {lib : Library σ} {Link : σ → σ → List (List UInt8 × List UInt8) → Prop} {x : Connection σ}

theorem received_lt (honest : Honest lib Link x) (side : Side) :
    (x.transport side).lastReceivedSequence < (x.transport side.peer).nextSendSequence := by
  obtain ⟨flight, lost, flow⟩ := honest.flow side.peer
  have count := flow.count
  have received := honest.received side
  rw [side.peer_peer] at count
  rw [UInt64.lt_iff_toNat_lt]
  omega

theorem acked_le (honest : Honest lib Link x) (side : Side) :
    (x.transport side).lastAckedByPeer.toNat ≤ x.sent side := by
  have acked := UInt64.le_iff_toNat_le.1 (honest.acked side)
  have less := UInt64.lt_iff_toNat_lt.1 (honest.received_lt side.peer)
  have sent := honest.sent side
  rw [side.peer_peer] at less
  omega

theorem acked_max_le {a b c : UInt64} (h : a ≤ c) (h' : b ≤ c) : max a b ≤ c := by
  change (if a ≤ b then b else a) ≤ c
  split
  · exact h'
  · exact h

theorem le_acked_max (a b : UInt64) : a ≤ max a b := by
  change a ≤ if a ≤ b then b else a
  split
  · assumption
  · exact UInt64.le_refl _

theorem put (honest : Honest lib Link x) {side : Side} {t : SecureTransport σ} {inbox : Side → List (List UInt8)}
    {sent : Side → Nat}
    (own : ∃ flight lost, Flow lib Link t (x.transport side.peer) (inbox side.peer) flight lost)
    (others : ∃ flight lost, Flow lib Link (x.transport side.peer) t (inbox side) flight lost)
    (received : t.lastReceivedSequence.toNat + 1 = t.nextReceiveSequence.toNat)
    (sends : sent side + 1 = t.nextSendSequence.toNat) (same : sent side.peer = x.sent side.peer)
    (acked : t.lastAckedByPeer ≤ (x.transport side.peer).lastReceivedSequence)
    (grows : (x.transport side).lastReceivedSequence ≤ t.lastReceivedSequence) :
    Honest lib Link ⟨Function.update x.transport side t, inbox, sent⟩ := by
  have peer : Function.update x.transport side t side.peer = x.transport side.peer :=
    Function.update_of_ne side.peer_ne _ _
  have self : Function.update x.transport side t side = t := Function.update_self _ _ _
  have sides : ∀ other, other = side ∨ other = side.peer := by
    intro other
    cases side <;> cases other <;> simp [Side.peer]
  refine ⟨fun other => ?_, fun other => ?_, fun other => ?_, fun other => ?_⟩
  all_goals dsimp only
  · cases sides other with
    | inl here =>
      rw [here, self, peer]
      exact own
    | inr there =>
      rw [there, side.peer_peer, self, peer]
      exact others
  · cases sides other with
    | inl here =>
      rw [here, self]
      exact received
    | inr there =>
      rw [there, peer]
      exact honest.received _
  · cases sides other with
    | inl here =>
      rw [here, self]
      exact sends
    | inr there =>
      rw [there, peer]
      exact (congrArg (· + 1) same).trans (honest.sent _)
  · cases sides other with
    | inl here =>
      rw [here, self, peer]
      exact acked
    | inr there =>
      have acked := honest.acked side.peer
      rw [side.peer_peer] at acked
      rw [there, side.peer_peer, self, peer]
      exact UInt64.le_trans acked grows

theorem seals (honest : Honest lib Link x) (ideal : Ideal lib Link) (side : Side) (kind : SecureFrameKind)
    (payload : List UInt8) : Honest lib Link (x.step lib (.seal' side kind payload)) := by
  obtain ⟨flight, lost, own⟩ := honest.flow side
  obtain ⟨flight', lost', others⟩ := honest.flow side.peer
  rw [side.peer_peer] at others
  have same : Function.update x.transport side (x.transport side) = x.transport := Function.update_eq_self _ _
  have cases := sealing lib (x.transport side) kind payload
  simp only [Connection.step]
  generalize (x.transport side).seal' lib kind payload = result at cases ⊢
  cases cases with
  | refused e =>
    dsimp only
    rw [same]
    exact honest
  | @unwritten e plain state written =>
    refine honest.put ⟨_, _, own.unwritten ideal written⟩ ⟨flight', lost', ?_⟩ (honest.received side) (honest.sent side)
      rfl (honest.acked side) (UInt64.le_refl _)
    have receives := others.receiverWrites ideal plain (x.transport side).nextSendSequence
    rwa [written] at receives
  | @exhausted e plain message state written limit =>
    refine honest.put ⟨_, _, own.exhausts ideal written limit⟩ ⟨flight', lost', ?_⟩ (honest.received side)
      (honest.sent side)
      rfl (honest.acked side) (UInt64.le_refl _)
    have receives := others.receiverWrites ideal plain (x.transport side).nextSendSequence
    rwa [written] at receives
  | @sealed plain message state fits encoded written counts =>
    have own := own.sealed ideal fits encoded written counts
    rw [← Function.update_self side.peer (x.inbox side.peer ++ [message]) x.inbox] at own
    refine honest.put ⟨_, _, own⟩ ⟨flight', lost', ?_⟩ (honest.received side) ?_ ?_ (honest.acked side)
      (UInt64.le_refl _)
    · have receives := others.receiverWrites ideal plain ((x.transport side).nextSendSequence + 1)
      rw [written] at receives
      rw [Function.update_of_ne side.peer_ne.symm]
      exact receives
    · have sent := honest.sent side
      rw [Function.update_self]
      exact (congrArg (· + 1) sent).trans (Flow.succ_toNat counts).symm
    · exact Function.update_of_ne side.peer_ne _ _

theorem opens (honest : Honest lib Link x) (ideal : Ideal lib Link) (side : Side) :
    Honest lib Link (x.step lib (.open' side)) ∧
      ∀ message rest, x.inbox side = message :: rest → ((x.transport side).open' lib message).1.isOk := by
  obtain ⟨flight, lost, own⟩ := honest.flow side
  obtain ⟨flight', lost', others⟩ := honest.flow side.peer
  rw [side.peer_peer] at others
  cases inbox : x.inbox side with
  | nil =>
    have stepped : x.step lib (.open' side) = x := by simp only [Connection.step, inbox]
    rw [stepped]
    exact ⟨honest, fun _ _ some => nomatch some⟩
  | cons message rest =>
    rw [inbox] at others
    have acked := honest.received_lt side.peer
    rw [side.peer_peer] at acked
    obtain ⟨frame, flight'', opened, counts, ack, others⟩ := others.opened ideal acked
    have received := honest.received side
    have le : (x.transport side).lastReceivedSequence ≤ (x.transport side).nextReceiveSequence := by
      rw [UInt64.le_iff_toNat_le]
      omega
    constructor
    · have stepped : x.step lib (.open' side) =
          ⟨Function.update x.transport side ((x.transport side).open' lib message).2,
            Function.update x.inbox side rest, x.sent⟩ := by
        simp only [Connection.step, inbox]
      rw [stepped, opened]
      refine honest.put ⟨flight, lost, ?_⟩ ⟨flight'', lost', ?_⟩ (Flow.succ_toNat counts).symm (honest.sent side)
        rfl ?_ le
      · rw [Function.update_of_ne side.peer_ne]
        exact own.senderReads ideal message le
      · rw [Function.update_self]
        exact others
      · exact acked_max_le (honest.acked side) ack
    · intro message' rest' first
      cases first
      rw [opened]
      rfl

theorem step (honest : Honest lib Link x) (ideal : Ideal lib Link) (act : Act) :
    Honest lib Link (x.step lib act) := by
  cases act with
  | seal' side kind payload => exact honest.seals ideal side kind payload
  | open' side => exact (honest.opens ideal side).1

theorem start {initiator responder : σ} (link : Link initiator responder []) (link' : Link responder initiator []) :
    Honest lib Link (.start initiator responder) := by
  have empty : ∀ {sender receiver : σ}, Link sender receiver [] →
      Flow lib Link ⟨sender, 1, 1, 0, 0⟩ ⟨receiver, 1, 1, 0, 0⟩ [] [] [] := by
    intro sender receiver link
    exact ⟨link, rfl, by simp, by simp, by simp, by simp, rfl, rfl, by simp⟩
  refine ⟨fun side => ⟨[], [], ?_⟩, fun side => ?_, fun side => ?_, fun side => ?_⟩
  · cases side with
    | initiator => exact empty link
    | responder => exact empty link'
  · cases side <;> rfl
  · cases side <;> rfl
  · cases side <;> exact UInt64.le_refl _

theorem run (honest : Honest lib Link x) (ideal : Ideal lib Link) (acts : List Act) :
    Honest lib Link (x.run lib acts) := by
  induction acts generalizing x with
  | nil => exact honest
  | cons act acts ih => exact ih (honest.step ideal act)

end Honest

namespace SecureTransport

variable {lib : Library σ} {t : SecureTransport σ} {ciphertext : List UInt8}

def counters (t : SecureTransport σ) : UInt64 × UInt64 × UInt64 :=
  (t.nextReceiveSequence, t.lastReceivedSequence, t.lastAckedByPeer)

def ErrorKeeps (lib : Library σ) (t : SecureTransport σ) (ciphertext : List UInt8) : Prop :=
  (t.open' lib ciphertext).1.isOk = false → (t.open' lib ciphertext).2.counters = t.counters

/-- The next frame has the last number there is, and passes every check. -/
def Overflows (lib : Library σ) (t : SecureTransport σ) (ciphertext : List UInt8) : Prop :=
  t.nextReceiveSequence = 0xffffffffffffffff ∧
    (ciphertext ≠ [] ∧ ciphertext.length ≤ MAX_HANDSHAKE_FRAME) ∧
    ∃ frame, (lib.readMessage t.state ciphertext).1.bind lib.decode = some frame ∧
      frame.sequence = 0xffffffffffffffff ∧ frame.ack < t.nextSendSequence ∧
      frame.payload.length ≤ MAX_SECURE_PAYLOAD

theorem counters_of_error (received : t.lastReceivedSequence ≠ t.nextReceiveSequence) :
    ErrorKeeps lib t ciphertext ↔ ¬Overflows lib t ciphertext := by
  unfold ErrorKeeps open'
  split
  · rename_i bad
    refine iff_of_true (fun _ => rfl) fun overflows => ?_
    cases bad with
    | inl empty => exact overflows.2.1.1 empty
    | inr long => exact Nat.not_le_of_lt long overflows.2.1.2
  · rename_i good
    have good := not_or.1 good
    split
    · rename_i read
      refine iff_of_true (fun _ => rfl) fun ⟨_, _, frame, found, _⟩ => ?_
      rw [read] at found
      cases found
    · rename_i plain state read
      dsimp only
      split
      · rename_i undecoded
        refine iff_of_true (fun _ => rfl) fun ⟨_, _, frame, found, _⟩ => ?_
        rw [read] at found
        cases undecoded.symm.trans found
      · rename_i frame decoded
        have unique : ∀ frame', (lib.readMessage t.state ciphertext).1.bind lib.decode = some frame' →
            frame' = frame := by
          intro frame' found
          rw [read] at found
          exact Option.some.inj (found.symm.trans decoded)
        split
        · rename_i gap
          refine iff_of_true (fun _ => rfl) fun ⟨limit, _, frame', found, last, _⟩ => ?_
          rw [unique frame' found] at last
          exact gap (last.trans limit.symm)
        · rename_i next
          split
          · rename_i ahead
            refine iff_of_true (fun _ => rfl) fun ⟨_, _, frame', found, _, acked, _⟩ => ?_
            rw [unique frame' found] at acked
            exact UInt64.not_le.2 acked ahead
          · rename_i acked
            split
            · rename_i large
              refine iff_of_true (fun _ => rfl) fun ⟨_, _, frame', found, _, _, fits⟩ => ?_
              rw [unique frame' found] at fits
              exact Nat.not_le_of_lt large fits
            · rename_i fits
              have next := Decidable.not_not.1 next
              split
              · rename_i limit
                refine iff_of_false (fun same => ?_) (not_not_intro ?_)
                · have last := congrArg (fun counters => counters.2.1) (same rfl)
                  exact received (last.symm.trans next)
                · refine ⟨limit, ⟨good.1, Nat.not_lt.1 good.2⟩, frame, ?_, next.trans limit,
                    UInt64.not_le.1 acked, Nat.not_lt.1 fits⟩
                  rw [read]
                  exact decoded
              · rename_i counts
                exact iff_of_true (fun failed => nomatch failed) fun overflows => counts overflows.1

end SecureTransport

theorem Sealing.lastAckedByPeer {lib : Library σ} {t : SecureTransport σ} {kind : SecureFrameKind}
    {payload : List UInt8} {result : Except String (List UInt8) × SecureTransport σ}
    (h : Sealing lib t kind payload result) : result.2.lastAckedByPeer = t.lastAckedByPeer := by
  cases h with
  | refused e => rfl
  | unwritten e written => rfl
  | exhausted e written limit => rfl
  | sealed fits encoded written counts => rfl

theorem SecureTransport.lastAckedByPeer_le (lib : Library σ) (t : SecureTransport σ) (ciphertext : List UInt8) :
    t.lastAckedByPeer ≤ (t.open' lib ciphertext).2.lastAckedByPeer := by
  have same := UInt64.le_refl t.lastAckedByPeer
  unfold open'
  split
  · exact same
  · split
    · exact same
    · dsimp only
      split
      · exact same
      · split
        · exact same
        · split
          · exact same
          · split
            · exact same
            · split
              · exact same
              · exact Honest.le_acked_max _ _

theorem Connection.lastAckedByPeer_le (lib : Library σ) (x : Connection σ) (act : Act) (side : Side) :
    (x.transport side).lastAckedByPeer ≤ ((x.step lib act).transport side).lastAckedByPeer := by
  have update : ∀ (other : Side) (t : SecureTransport σ),
      (x.transport other).lastAckedByPeer ≤ t.lastAckedByPeer →
      (x.transport side).lastAckedByPeer ≤ (Function.update x.transport other t side).lastAckedByPeer := by
    intro other t le
    cases Decidable.em (side = other) with
    | inl same =>
      rw [same, Function.update_self]
      exact le
    | inr ne =>
      rw [Function.update_of_ne ne]
      exact UInt64.le_refl _
  cases act with
  | seal' other kind payload =>
    have acked := (sealing lib (x.transport other) kind payload).lastAckedByPeer
    have le := update other ((x.transport other).seal' lib kind payload).2 (by
      rw [acked]
      exact UInt64.le_refl _)
    unfold step
    dsimp only
    split
    · exact le
    · exact le
  | open' other =>
    unfold step
    dsimp only
    split
    · exact UInt64.le_refl _
    · exact update other _ (SecureTransport.lastAckedByPeer_le _ _ _)

/-- What arrives is opened, and what the peer acknowledges grows up to what was sent; and whatever bytes are
opened, an error leaves the counters, unless they are the frame behind the last one that can be counted. -/
structure Connection.Reliable (lib : Library σ) (x : Connection σ) : Prop where
  opens : ∀ side message rest, x.inbox side = message :: rest → ((x.transport side).open' lib message).1.isOk
  grows : ∀ act side, (x.transport side).lastAckedByPeer ≤ ((x.step lib act).transport side).lastAckedByPeer
  sent : ∀ side, (x.transport side).lastAckedByPeer.toNat ≤ x.sent side
  errors : ∀ side ciphertext,
    (x.transport side).ErrorKeeps lib ciphertext ↔ ¬(x.transport side).Overflows lib ciphertext

/-- Two honest ends, in every interleaving of sealing and opening. -/
theorem honest_ends_reliable {lib : Library σ} {Link : σ → σ → List (List UInt8 × List UInt8) → Prop}
    (ideal : Ideal lib Link) {initiator responder : σ} (link : Link initiator responder [])
    (link' : Link responder initiator []) (acts : List Act) :
    ((Connection.start initiator responder).run lib acts).Reliable lib := by
  have honest := (Honest.start link link').run ideal acts
  refine ⟨fun side => (honest.opens ideal side).2, Connection.lastAckedByPeer_le lib _, honest.acked_le,
    fun side ciphertext => ?_⟩
  apply SecureTransport.counters_of_error
  intro same
  have received := honest.received side
  rw [same] at received
  omega

/-- The nonces of a session without a key: what is written carries its nonce instead of a tag. -/
structure Session where
  written : Nat
  read : Nat

namespace Session

open VibeLink.Binary

def fits (nonce : Nat) (plain : List UInt8) : Prop := nonce < 2 ^ 64 - 1 ∧ plain.length + 16 ≤ MAX_HANDSHAKE_FRAME

instance (nonce : Nat) (plain : List UInt8) : Decidable (fits nonce plain) := inferInstanceAs (Decidable (_ ∧ _))

def writeMessage (s : Session) (plain : List UInt8) : Option (List UInt8) × Session :=
  if fits s.written plain then (some (plain ++ bigEndian 16 s.written), { s with written := s.written + 1 })
  else (none, s)

def readMessage (s : Session) (message : List UInt8) : Option (List UInt8) × Session :=
  let plain := message.take (message.length - 16)
  if fits s.read plain ∧ message = plain ++ bigEndian 16 s.read then
    (some plain, { s with read := s.read + 1 })
  else (none, s)

def kindByte : SecureFrameKind → UInt8
  | .control => 0
  | .binary => 1
  | .notification => 2
  | .terminalInput => 3
  | .terminalOutput => 4
  | .snapshot => 5
  | .event => 6

def kindOf : UInt8 → Option SecureFrameKind
  | 0 => some .control
  | 1 => some .binary
  | 2 => some .notification
  | 3 => some .terminalInput
  | 4 => some .terminalOutput
  | 5 => some .snapshot
  | 6 => some .event
  | _ => none

def encode (frame : SecureFrame) : List UInt8 :=
  kindByte frame.kind :: (bigEndian 8 frame.sequence.toNat ++ (bigEndian 8 frame.ack.toNat ++ frame.payload))

def decode : List UInt8 → Option SecureFrame
  | [] => none
  | kind :: bytes =>
    if bytes.length < 16 then none
    else (kindOf kind).map fun kind =>
      ⟨.ofNat (ofBigEndian (bytes.extract 0 8)), .ofNat (ofBigEndian (bytes.extract 8 16)), kind, bytes.drop 16⟩

theorem decode_encode (frame : SecureFrame) : decode (encode frame) = some frame := by
  have kind : kindOf (kindByte frame.kind) = some frame.kind := by cases frame.kind <;> rfl
  have sequence : ofBigEndian ((bigEndian 8 frame.sequence.toNat ++
      (bigEndian 8 frame.ack.toNat ++ frame.payload)).extract 0 8) = frame.sequence.toNat :=
    show ofBigEndian (bigEndian 8 _) = _ from ofBigEndian_bigEndian_of_lt frame.sequence.toNat_lt
  have ack : ofBigEndian ((bigEndian 8 frame.sequence.toNat ++
      (bigEndian 8 frame.ack.toNat ++ frame.payload)).extract 8 16) = frame.ack.toNat :=
    show ofBigEndian (bigEndian 8 _) = _ from ofBigEndian_bigEndian_of_lt frame.ack.toNat_lt
  have length : ¬(bigEndian 8 frame.sequence.toNat ++ (bigEndian 8 frame.ack.toNat ++ frame.payload)).length < 16 := by
    simp only [List.length_append, length_bigEndian]
    omega
  rw [encode, decode, if_neg length, kind, Option.map_some, sequence, ack, UInt64.ofNat_toNat, UInt64.ofNat_toNat]
  rfl

def library : Library Session := ⟨writeMessage, readMessage, fun frame => some (encode frame), decode⟩

/-- The messages have the nonces from the one that is read next to the one that is written next. -/
def Numbered (written : Nat) : Nat → List (List UInt8 × List UInt8) → Prop
  | read, [] => read = written
  | read, (plain, message) :: queue =>
    fits read plain ∧ message = plain ++ bigEndian 16 read ∧ Numbered written (read + 1) queue

def Link (x y : Session) (queue : List (List UInt8 × List UInt8)) : Prop := Numbered x.written y.read queue

theorem Numbered.snoc {written read : Nat} {queue : List (List UInt8 × List UInt8)} {plain : List UInt8}
    (numbered : Numbered written read queue) (room : fits written plain) :
    Numbered (written + 1) read (queue ++ [(plain, plain ++ bigEndian 16 written)]) := by
  induction queue generalizing read with
  | nil =>
    cases numbered
    exact ⟨room, rfl, rfl⟩
  | cons entry queue ih => exact ⟨numbered.1, numbered.2.1, ih numbered.2.2⟩

theorem writeMessage_eq_some {s s' : Session} {plain message : List UInt8}
    (written : s.writeMessage plain = (some message, s')) :
    fits s.written plain ∧ message = plain ++ bigEndian 16 s.written ∧ s' = { s with written := s.written + 1 } := by
  unfold writeMessage at written
  split at written
  · rename_i room
    cases written
    exact ⟨room, rfl, rfl⟩
  · cases written

theorem writeMessage_eq {s : Session} {plain : List UInt8} (room : fits s.written plain) :
    s.writeMessage plain = (some (plain ++ bigEndian 16 s.written), { s with written := s.written + 1 }) :=
  if_pos room

theorem readMessage_eq {s : Session} {plain : List UInt8} (room : fits s.read plain) :
    s.readMessage (plain ++ bigEndian 16 s.read) = (some plain, { s with read := s.read + 1 }) := by
  have taken : (plain ++ bigEndian 16 s.read).take ((plain ++ bigEndian 16 s.read).length - 16) = plain := by
    rw [List.length_append, length_bigEndian, Nat.add_sub_cancel, List.take_left]
  unfold readMessage
  dsimp only
  rw [taken, if_pos ⟨room, rfl⟩]

theorem ideal : Ideal library Link where
  write link written := by
    obtain ⟨room, rfl, rfl⟩ := writeMessage_eq_some written
    exact Numbered.snoc link room
  refuse link written := by
    unfold library writeMessage at written
    dsimp only at written
    split at written
    · cases written
    · cases written
      exact link
  read link := by
    obtain ⟨room, rfl, link⟩ := link
    exact ⟨_, readMessage_eq room, link⟩
  writes link plain := by
    unfold library writeMessage
    dsimp only
    split
    · exact link
    · exact link
  reads link message := by
    unfold library readMessage
    dsimp only
    split
    · exact link
    · exact link
  length written := by
    obtain ⟨room, rfl, _⟩ := writeMessage_eq_some written
    constructor
    · intro empty
      have length := congrArg List.length empty
      rw [List.length_append, length_bigEndian] at length
      cases length
    · rw [List.length_append, length_bigEndian]
      exact room.2
  decode {frame plain} encoded := by
    cases encoded
    exact decode_encode frame

/-- Both ends of a channel in which the initiator has sent a number of frames, all of them opened. -/
def after (n : Nat) : Connection Session where
  transport
    | .initiator => ⟨⟨n, 0⟩, .ofNat (n + 1), 1, 0, 0⟩
    | .responder => ⟨⟨0, n⟩, 1, .ofNat (n + 1), .ofNat n, 0⟩
  inbox _ := []
  sent
    | .initiator => n
    | .responder => 0

def frameAt (n : Nat) : SecureFrame := ⟨.ofNat (n + 1), 0, .control, []⟩

def messageAt (n : Nat) : List UInt8 := encode (frameAt n) ++ bigEndian 16 n

theorem fits_frameAt {n : Nat} (lt : n < 2 ^ 64 - 1) : fits n (encode (frameAt n)) :=
  ⟨lt, by simp [encode, frameAt, MAX_HANDSHAKE_FRAME]⟩

theorem length_messageAt {n : Nat} (room : fits n (encode (frameAt n))) :
    messageAt n ≠ [] ∧ (messageAt n).length ≤ MAX_HANDSHAKE_FRAME :=
  ideal.length (writeMessage_eq (s := ⟨n, 0⟩) room)

theorem number_ne {n : Nat} (lt : n < 2 ^ 64 - 2) : UInt64.ofNat (n + 1) ≠ 0xffffffffffffffff := by
  intro same
  have number := congrArg UInt64.toNat same
  rw [UInt64.toNat_ofNat_of_lt' (show n + 1 < 18446744073709551616 by omega)] at number
  change n + 1 = 18446744073709551615 at number
  omega

theorem seal_after {n : Nat} (lt : n < 2 ^ 64 - 2) :
    ((after n).transport .initiator).seal' library .control [] =
      (.ok (messageAt n), ⟨⟨n + 1, 0⟩, .ofNat (n + 1 + 1), 1, 0, 0⟩) := by
  have room : fits n (encode (frameAt n)) := fits_frameAt (by omega)
  have written : library.writeMessage ((after n).transport .initiator).state (encode (frameAt n)) =
      (some (messageAt n), ⟨n + 1, 0⟩) := writeMessage_eq (s := ⟨n, 0⟩) room
  rw [SecureTransport.seal'_eq (Nat.zero_le _) rfl written (number_ne lt), UInt64.ofNat_add (n + 1) 1]
  rfl

theorem open_after {n : Nat} (lt : n < 2 ^ 64 - 2) :
    ((after n).transport .responder).open' library (messageAt n) =
      (.ok (frameAt n), ⟨⟨0, n + 1⟩, 1, .ofNat (n + 1 + 1), .ofNat (n + 1), 0⟩) := by
  have room : fits n (encode (frameAt n)) := fits_frameAt (by omega)
  have read : library.readMessage ((after n).transport .responder).state (messageAt n) =
      (some (encode (frameAt n)), ⟨0, n + 1⟩) := readMessage_eq room
  have length := length_messageAt room
  have decoded : library.decode (encode (frameAt n)) = some (frameAt n) := decode_encode (frameAt n)
  have acked : (frameAt n).ack < ((after n).transport .responder).nextSendSequence :=
    UInt64.lt_iff_toNat_lt.2 Nat.one_pos
  rw [SecureTransport.open'_eq length.1 length.2 read decoded rfl acked (Nat.zero_le _) (number_ne lt),
    UInt64.ofNat_add (n + 1) 1]
  rfl

theorem round {n : Nat} (lt : n < 2 ^ 64 - 2) :
    ((after n).step library (.seal' .initiator .control [])).step library (.open' .responder) = after (n + 1) := by
  have sealed : (after n).step library (.seal' .initiator .control []) =
      ⟨Function.update (after n).transport .initiator ⟨⟨n + 1, 0⟩, .ofNat (n + 1 + 1), 1, 0, 0⟩,
        Function.update (after n).inbox .responder [messageAt n],
        Function.update (after n).sent .initiator (n + 1)⟩ := by
    unfold Connection.step
    dsimp only
    rw [seal_after lt]
    rfl
  have arrived : Function.update (after n).inbox .responder [messageAt n] .responder = [messageAt n] :=
    Function.update_self _ _ _
  have receiver : Function.update (after n).transport .initiator ⟨⟨n + 1, 0⟩, .ofNat (n + 1 + 1), 1, 0, 0⟩ .responder =
      (after n).transport .responder := Function.update_of_ne (by decide) _ _
  rw [sealed]
  unfold Connection.step
  dsimp only
  rw [arrived]
  dsimp only
  rw [receiver, open_after lt, after, Connection.mk.injEq]
  refine ⟨funext fun side => ?_, funext fun side => ?_, funext fun side => ?_⟩
  · cases side <;> rfl
  · cases side <;> rfl
  · cases side <;> rfl

def rounds (n : Nat) : List Act := (List.replicate n [.seal' .initiator .control [], .open' .responder]).flatten

theorem run_rounds {n : Nat} (le : n ≤ 2 ^ 64 - 2) :
    (Connection.start ⟨0, 0⟩ ⟨0, 0⟩).run library (rounds n) = after n := by
  induction n with
  | zero =>
    rw [rounds, List.replicate_zero, after, Connection.start]
    change Connection.mk _ _ _ = Connection.mk _ _ _
    rw [Connection.mk.injEq]
    refine ⟨funext fun side => ?_, rfl, funext fun side => ?_⟩
    · cases side <;> rfl
    · cases side <;> rfl
  | succ n ih =>
    have split : rounds (n + 1) = rounds n ++ [.seal' .initiator .control [], .open' .responder] := by
      rw [rounds, List.replicate_succ', List.flatten_concat]
      rfl
    rw [split, Connection.run, List.foldl_append]
    have before := ih (Nat.le_of_succ_le le)
    rw [Connection.run] at before
    rw [before]
    exact round (Nat.lt_of_succ_le le)

theorem last_frame_overflows :
    ((after (2 ^ 64 - 2)).transport .responder).Overflows library (messageAt (2 ^ 64 - 2)) := by
  have room : fits (2 ^ 64 - 2) (encode (frameAt (2 ^ 64 - 2))) := fits_frameAt (by decide)
  have read : library.readMessage ((after (2 ^ 64 - 2)).transport .responder).state (messageAt (2 ^ 64 - 2)) =
      (some (encode (frameAt (2 ^ 64 - 2))), ⟨0, 2 ^ 64 - 2 + 1⟩) :=
    readMessage_eq (s := ⟨0, 2 ^ 64 - 2⟩) room
  refine ⟨by decide, length_messageAt room, frameAt (2 ^ 64 - 2), ?_, by decide, by decide, by decide⟩
  rw [read]
  exact decode_encode (frameAt (2 ^ 64 - 2))

end Session

theorem sessions_reliable :
    ((Connection.start ⟨0, 0⟩ ⟨0, 0⟩).run Session.library [.seal' .initiator .terminalInput [1],
      .open' .responder, .seal' .responder .terminalOutput [2], .open' .initiator]).Reliable Session.library ∧
    (((Connection.start ⟨0, 0⟩ ⟨0, 0⟩).run Session.library [.seal' .initiator .terminalInput [1],
      .open' .responder, .seal' .responder .terminalOutput [2], .open' .initiator]).transport
        .initiator).lastAckedByPeer = 1 :=
  have link : Session.Link ⟨0, 0⟩ ⟨0, 0⟩ [] := rfl
  ⟨honest_ends_reliable Session.ideal link link _, by decide +kernel⟩

/-- The error that the numbers are exhausted comes behind the assignment of the number received. -/
theorem last_frame_counted :
    ¬(((Connection.start ⟨0, 0⟩ ⟨0, 0⟩).run Session.library (Session.rounds (2 ^ 64 - 2))).transport
      .responder).ErrorKeeps Session.library (Session.messageAt (2 ^ 64 - 2)) := by
  rw [Session.run_rounds (Nat.le_refl _)]
  intro same
  have received : ((Session.after (2 ^ 64 - 2)).transport .responder).lastReceivedSequence ≠
      ((Session.after (2 ^ 64 - 2)).transport .responder).nextReceiveSequence := by decide
  exact (SecureTransport.counters_of_error received).1 same Session.last_frame_overflows

end VibeLink.Remote
