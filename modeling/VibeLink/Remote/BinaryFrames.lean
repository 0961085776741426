import VibeLink.Binary.Base64

/-! The binary frames of protocol version 2 (`remote/v2/wire.rs`). -/

namespace VibeLink.Remote

open VibeLink.Binary

def PROTOCOL_VERSION : UInt16 := 2

def BINARY_HEADER_BYTES : Nat := 28

def MAX_BINARY_PAYLOAD_BYTES : Nat := 60 * 1024

def FLAG_FINAL : UInt16 := (1 : UInt16) <<< 0
def FLAG_KEYFRAME : UInt16 := (1 : UInt16) <<< 1
def FLAG_RESYNC : UInt16 := (1 : UInt16) <<< 2
def FLAG_DROPPED_BEFORE : UInt16 := (1 : UInt16) <<< 3
def KNOWN_FLAGS : UInt16 := FLAG_FINAL ||| FLAG_KEYFRAME ||| FLAG_RESYNC ||| FLAG_DROPPED_BEFORE

inductive BinaryChannel
  | terminalOutput
  | terminalSnapshot
  | browserScreencast
  | screenshot
  | file
  | attachment
  | emulator
  deriving DecidableEq

namespace BinaryChannel

def toByte : BinaryChannel → UInt8
  | terminalOutput => 1
  | terminalSnapshot => 2
  | browserScreencast => 3
  | screenshot => 4
  | file => 5
  | attachment => 6
  | emulator => 7

def latestFrameWins : BinaryChannel → Bool
  | browserScreencast | emulator => true
  | _ => false

def tryFrom (value : UInt8) : Except String BinaryChannel :=
  match value with
  | 1 => .ok terminalOutput
  | 2 => .ok terminalSnapshot
  | 3 => .ok browserScreencast
  | 4 => .ok screenshot
  | 5 => .ok file
  | 6 => .ok attachment
  | 7 => .ok emulator
  | _ => .error s!"unknown remote-v2 binary channel {value}"

theorem tryFrom_eq_ok {value : UInt8} {channel : BinaryChannel} :
    tryFrom value = .ok channel ↔ value = channel.toByte := by
  constructor
  · intro h
    unfold tryFrom at h
    split at h <;> cases h <;> rfl
  · intro h
    cases channel <;> rw [h] <;> rfl

end BinaryChannel

structure BinaryFrame where
  channel : BinaryChannel
  flags : UInt16
  streamId : UInt64
  sequence : UInt64
  droppedBefore : UInt32
  payload : List UInt8
  deriving DecidableEq

namespace BinaryFrame

def validate (frame : BinaryFrame) : Except String Unit :=
  if frame.streamId = 0 ∨ frame.sequence = 0 then
    .error "remote-v2 binary stream and sequence must be non-zero"
  else if frame.flags &&& ~~~KNOWN_FLAGS ≠ 0 then
    .error "remote-v2 binary frame contains unknown flags"
  else if MAX_BINARY_PAYLOAD_BYTES < frame.payload.length then
    .error "remote-v2 binary payload exceeds the encrypted frame limit"
  else if 0 < frame.droppedBefore then
    if !frame.channel.latestFrameWins ∨ frame.flags &&& FLAG_DROPPED_BEFORE = 0 then
      .error "drop accounting is only valid for latest-frame channels"
    else .ok ()
  else if frame.flags &&& FLAG_DROPPED_BEFORE ≠ 0 then
    .error "drop flag requires a non-zero dropped count"
  else .ok ()

def encode (frame : BinaryFrame) : Except String (List UInt8) := do
  frame.validate
  let payloadLen ←
    if frame.payload.length < UInt32.size then .ok frame.payload.length else .error "binary payload length"
  return PROTOCOL_VERSION.toUInt8 :: frame.channel.toByte ::
    (bigEndian 2 frame.flags.toNat ++
      (bigEndian 8 frame.streamId.toNat ++
        (bigEndian 8 frame.sequence.toNat ++
          (bigEndian 4 frame.droppedBefore.toNat ++ (bigEndian 4 payloadLen ++ frame.payload)))))

def decode (encoded : List UInt8) : Except String BinaryFrame :=
  if encoded.length < BINARY_HEADER_BYTES then .error "remote-v2 binary frame is truncated"
  else if encoded.getD 0 0 ≠ PROTOCOL_VERSION.toUInt8 then .error "remote-v2 binary protocol mismatch"
  else do
    let channel ← BinaryChannel.tryFrom (encoded.getD 1 0)
    let flags := UInt16.ofNat (ofBigEndian (encoded.extract 2 4))
    let streamId := UInt64.ofNat (ofBigEndian (encoded.extract 4 12))
    let sequence := UInt64.ofNat (ofBigEndian (encoded.extract 12 20))
    let droppedBefore := UInt32.ofNat (ofBigEndian (encoded.extract 20 24))
    let payloadLen := ofBigEndian (encoded.extract 24 28)
    if MAX_BINARY_PAYLOAD_BYTES < payloadLen ∨ encoded.length ≠ BINARY_HEADER_BYTES + payloadLen then
      .error "invalid remote-v2 binary payload length"
    else do
      let frame := ⟨channel, flags, streamId, sequence, droppedBefore, encoded.drop BINARY_HEADER_BYTES⟩
      frame.validate
      return frame

def bytes (frame : BinaryFrame) : List UInt8 :=
  PROTOCOL_VERSION.toUInt8 :: frame.channel.toByte ::
    (bigEndian 2 frame.flags.toNat ++
      (bigEndian 8 frame.streamId.toNat ++
        (bigEndian 8 frame.sequence.toNat ++
          (bigEndian 4 frame.droppedBefore.toNat ++
            (bigEndian 4 frame.payload.length ++ frame.payload)))))

theorem length_bytes (frame : BinaryFrame) :
    frame.bytes.length = BINARY_HEADER_BYTES + frame.payload.length := by
  simp only [bytes, List.length_cons, List.length_append, length_bigEndian, BINARY_HEADER_BYTES]
  omega

theorem validate_eq_ok {frame : BinaryFrame} :
    frame.validate = .ok () ↔
      frame.streamId ≠ 0 ∧ frame.sequence ≠ 0 ∧ frame.flags &&& ~~~KNOWN_FLAGS = 0 ∧
        frame.payload.length ≤ MAX_BINARY_PAYLOAD_BYTES ∧
        (0 < frame.droppedBefore → frame.channel.latestFrameWins) ∧
        (frame.flags &&& FLAG_DROPPED_BEFORE ≠ 0 ↔ 0 < frame.droppedBefore) := by
  unfold validate
  split
  · rename_i zero
    apply iff_of_false (by simp)
    intro h
    exact zero.elim h.1 h.2.1
  · rename_i nonzero
    have nonzero := not_or.1 nonzero
    split
    · simp_all
    · split
      · rename_i large
        apply iff_of_false (by simp)
        intro h
        exact Nat.not_le_of_lt large h.2.2.2.1
      · split
        · split
          · rename_i refused
            apply iff_of_false (by simp)
            intro h
            cases refused with
            | inl lossless => simp_all
            | inr unflagged => simp_all
          · simp_all
        · split
          · simp_all
          · simp_all

theorem payload_le_of_validate {frame : BinaryFrame} (valid : frame.validate = .ok ()) :
    frame.payload.length ≤ MAX_BINARY_PAYLOAD_BYTES := (validate_eq_ok.1 valid).2.2.2.1

theorem encode_eq_ok {frame : BinaryFrame} {encoded : List UInt8} :
    frame.encode = .ok encoded ↔ frame.validate = .ok () ∧ encoded = frame.bytes := by
  constructor
  · intro h
    cases valid : frame.validate with
    | error e =>
      rw [encode, valid] at h
      cases h
    | ok =>
      have small : frame.payload.length < UInt32.size :=
        Nat.lt_of_le_of_lt (payload_le_of_validate valid) (by decide)
      rw [encode, valid, if_pos small] at h
      cases h
      exact ⟨rfl, rfl⟩
  · intro ⟨valid, e⟩
    have small : frame.payload.length < UInt32.size :=
      Nat.lt_of_le_of_lt (payload_le_of_validate valid) (by decide)
    rw [encode, valid, if_pos small, e]
    rfl

theorem split_header {encoded : List UInt8} (long : BINARY_HEADER_BYTES ≤ encoded.length) :
    encoded = encoded.getD 0 0 :: encoded.getD 1 0 ::
      (encoded.extract 2 4 ++
        (encoded.extract 4 12 ++
          (encoded.extract 12 20 ++
            (encoded.extract 20 24 ++ (encoded.extract 24 28 ++ encoded.drop BINARY_HEADER_BYTES))))) := by
  have field : ∀ i width, encoded.extract i (i + width) ++ encoded.drop (i + width) = encoded.drop i := by
    intro i width
    rw [List.extract_eq_take_drop, Nat.add_sub_cancel_left, ← List.drop_drop, List.take_append_drop]
  rw [BINARY_HEADER_BYTES, field 24 4, field 20 4, field 12 8, field 4 8, field 2 2]
  cases encoded with
  | nil => cases long
  | cons version encoded =>
    cases encoded with
    | nil => simp [BINARY_HEADER_BYTES] at long
    | cons channel encoded => rfl

theorem eq_bytes_of_decode {encoded : List UInt8} {frame : BinaryFrame} (h : decode encoded = .ok frame) :
    frame.validate = .ok () ∧ encoded = frame.bytes := by
  unfold decode at h
  split at h
  · cases h
  · rename_i long
    split at h
    · cases h
    · rename_i version
      cases tried : BinaryChannel.tryFrom (encoded.getD 1 0) with
      | error e =>
        rw [tried] at h
        cases h
      | ok channel =>
        rw [tried] at h
        replace h := show (if _ then _ else _) = _ from h
        split at h
        · cases h
        · rename_i length
          have width : ∀ i width, i + width ≤ BINARY_HEADER_BYTES →
              (encoded.extract i (i + width)).length = width := by
            intro i width le
            rw [List.extract_eq_take_drop, List.length_take, List.length_drop]
            omega
          have flags : (encoded.extract 2 4).length = 2 := width 2 2 (by decide)
          have streamId : (encoded.extract 4 12).length = 8 := width 4 8 (by decide)
          have sequence : (encoded.extract 12 20).length = 8 := width 12 8 (by decide)
          have droppedBefore : (encoded.extract 20 24).length = 4 := width 20 4 (by decide)
          have payloadLen : (encoded.extract 24 28).length = 4 := width 24 4 (by decide)
          have payload : (encoded.drop BINARY_HEADER_BYTES).length = ofBigEndian (encoded.extract 24 28) := by
            rw [List.length_drop]
            omega
          dsimp only [bind, Except.bind] at h
          split at h
          · cases h
          · rename_i valid
            cases h
            refine ⟨valid, ?_⟩
            conv_lhs => rw [split_header (Nat.le_of_not_lt long)]
            rw [bytes, Decidable.not_not.1 version, BinaryChannel.tryFrom_eq_ok.1 tried, payload]
            dsimp only
            rw [UInt16.toNat_ofNat_of_lt' (ofBigEndian_lt_of_length flags),
              UInt64.toNat_ofNat_of_lt' (ofBigEndian_lt_of_length streamId),
              UInt64.toNat_ofNat_of_lt' (ofBigEndian_lt_of_length sequence),
              UInt32.toNat_ofNat_of_lt' (ofBigEndian_lt_of_length droppedBefore),
              bigEndian_ofBigEndian_of_length flags, bigEndian_ofBigEndian_of_length streamId,
              bigEndian_ofBigEndian_of_length sequence, bigEndian_ofBigEndian_of_length droppedBefore,
              bigEndian_ofBigEndian_of_length payloadLen]

theorem decode_bytes {frame : BinaryFrame} (valid : frame.validate = .ok ()) :
    decode frame.bytes = .ok frame := by
  have small := payload_le_of_validate valid
  have long : ¬frame.bytes.length < BINARY_HEADER_BYTES := by
    rw [length_bytes]
    omega
  have version : ¬frame.bytes.getD 0 0 ≠ PROTOCOL_VERSION.toUInt8 := not_not_intro rfl
  have channel : BinaryChannel.tryFrom (frame.bytes.getD 1 0) = .ok frame.channel :=
    BinaryChannel.tryFrom_eq_ok.2 rfl
  have flags : ofBigEndian (frame.bytes.extract 2 4) = frame.flags.toNat :=
    show ofBigEndian (bigEndian 2 _) = _ from ofBigEndian_bigEndian_of_lt frame.flags.toNat_lt
  have streamId : ofBigEndian (frame.bytes.extract 4 12) = frame.streamId.toNat :=
    show ofBigEndian (bigEndian 8 _) = _ from ofBigEndian_bigEndian_of_lt frame.streamId.toNat_lt
  have sequence : ofBigEndian (frame.bytes.extract 12 20) = frame.sequence.toNat :=
    show ofBigEndian (bigEndian 8 _) = _ from ofBigEndian_bigEndian_of_lt frame.sequence.toNat_lt
  have droppedBefore : ofBigEndian (frame.bytes.extract 20 24) = frame.droppedBefore.toNat :=
    show ofBigEndian (bigEndian 4 _) = _ from ofBigEndian_bigEndian_of_lt frame.droppedBefore.toNat_lt
  have payloadLen : ofBigEndian (frame.bytes.extract 24 28) = frame.payload.length :=
    show ofBigEndian (bigEndian 4 _) = _ from
      ofBigEndian_bigEndian_of_lt (Nat.lt_of_le_of_lt small (by decide))
  have payload : frame.bytes.drop BINARY_HEADER_BYTES = frame.payload := rfl
  have length : ¬(MAX_BINARY_PAYLOAD_BYTES < frame.payload.length ∨
      frame.bytes.length ≠ BINARY_HEADER_BYTES + frame.payload.length) := by
    rw [length_bytes]
    omega
  rw [decode, if_neg long, if_neg version, channel]
  simp only [flags, streamId, sequence, droppedBefore, payloadLen, payload, bind, Except.bind, if_neg length,
    UInt16.ofNat_toNat, UInt64.ofNat_toNat, UInt32.ofNat_toNat, valid]
  rfl

/-- The format is canonical: the sender and the receiver agree on every frame and every string. -/
theorem decode_eq_ok_iff_encode (frame : BinaryFrame) (encoded : List UInt8) :
    (decode encoded = .ok frame ↔ frame.encode = .ok encoded) ∧
      ((∃ encoded, frame.encode = .ok encoded) ↔ frame.validate = .ok ()) := by
  constructor
  · constructor
    · intro h
      exact encode_eq_ok.2 (eq_bytes_of_decode h)
    · intro h
      obtain ⟨valid, rfl⟩ := encode_eq_ok.1 h
      exact decode_bytes valid
  · constructor
    · intro ⟨encoded, h⟩
      exact (encode_eq_ok.1 h).1
    · intro valid
      exact ⟨frame.bytes, encode_eq_ok.2 ⟨valid, rfl⟩⟩

end BinaryFrame

end VibeLink.Remote
