import VibeLink.Binary.Base64
import Mathlib.Tactic.Common

/-! The frames in which the daemon and its clients send their messages (`protocol.rs`). -/

universe u

namespace VibeLink.Daemon

open VibeLink.Binary

variable {μ : Type u}

def MAX_FRAME_LEN : Nat := 16 * 1024 * 1024

def READ_CHUNK_LEN : Nat := 64 * 1024

/-- MessagePack, of one type of messages. -/
structure Codec (μ : Type u) where
  toVec : μ → Option (List UInt8)
  fromSlice : List UInt8 → Option μ

inductive FrameError
  | encode
  | decode
  | unexpectedEof
  | frameTooLarge (len : UInt32)
  deriving DecidableEq

/-- What is written of a message. -/
def writeFrame (codec : Codec μ) (msg : μ) : Except FrameError (List UInt8) :=
  match codec.toVec msg with
  | none => .error .encode
  | some bytes =>
    if MAX_FRAME_LEN < bytes.length then .error (.frameTooLarge (.ofNat bytes.length))
    else .ok (bigEndian 4 (UInt32.ofNat bytes.length).toNat ++ bytes)

/-- The bytes, and what is left of the reader; at its end the reader is empty. -/
def readExact (len : Nat) (reader : List UInt8) : Except FrameError (List UInt8) × List UInt8 :=
  if reader.length < len then (.error .unexpectedEof, []) else (.ok (reader.take len), reader.drop len)

def readChunks (remaining : Nat) (bytes reader : List UInt8) : Except FrameError (List UInt8) × List UInt8 :=
  if _ : 0 < remaining then
    let chunkLen := min remaining READ_CHUNK_LEN
    match readExact chunkLen reader with
    | (.error e, reader) => (.error e, reader)
    | (.ok chunk, reader) => readChunks (remaining - chunkLen) (bytes ++ chunk) reader
  else (.ok bytes, reader)
  termination_by remaining
  decreasing_by
    simp only [READ_CHUNK_LEN]
    omega

def readFrame (codec : Codec μ) (reader : List UInt8) : Except FrameError μ × List UInt8 :=
  match readExact 4 reader with
  | (.error e, reader) => (.error e, reader)
  | (.ok lenBuf, reader) =>
    let len := UInt32.ofNat (ofBigEndian lenBuf)
    if MAX_FRAME_LEN < len.toNat then (.error (.frameTooLarge len), reader)
    else
      match readChunks len.toNat [] reader with
      | (.error e, reader) => (.error e, reader)
      | (.ok bytes, reader) =>
        match codec.fromSlice bytes with
        | none => (.error .decode, reader)
        | some msg => (.ok msg, reader)

/-- One frame behind the other. -/
def writeFrames (codec : Codec μ) : List μ → Except FrameError (List UInt8)
  | [] => .ok []
  | msg :: messages => do
    let frame ← writeFrame codec msg
    let frames ← writeFrames codec messages
    return frame ++ frames

def readFrames (codec : Codec μ) : Nat → List UInt8 → Except FrameError (List μ) × List UInt8
  | 0, reader => (.ok [], reader)
  | count + 1, reader =>
    match readFrame codec reader with
    | (.error e, reader) => (.error e, reader)
    | (.ok msg, reader) =>
      match readFrames codec count reader with
      | (.error e, reader) => (.error e, reader)
      | (.ok messages, reader) => (.ok (msg :: messages), reader)

/-- What is encoded is decoded. -/
def Codec.Lawful (codec : Codec μ) : Prop :=
  ∀ msg bytes, codec.toVec msg = some bytes → codec.fromSlice bytes = some msg

variable {codec : Codec μ} {msg : μ} {messages : List μ} {bytes frame written rest : List UInt8}

theorem readExact_append (bytes rest : List UInt8) : readExact bytes.length (bytes ++ rest) = (.ok bytes, rest) := by
  have long : ¬(bytes ++ rest).length < bytes.length := by
    rw [List.length_append]
    omega
  rw [readExact, if_neg long, List.take_left, List.drop_left]

theorem readChunks_append (front bytes rest : List UInt8) :
    readChunks bytes.length front (bytes ++ rest) = (.ok (front ++ bytes), rest) := by
  induction length : bytes.length using Nat.strongRecOn generalizing front bytes with
  | _ remaining ih =>
    rw [readChunks]
    split
    · rename_i some
      have taken : (bytes.take (min remaining READ_CHUNK_LEN)).length = min remaining READ_CHUNK_LEN := by
        rw [List.length_take]
        omega
      have chunk := readExact_append (bytes.take (min remaining READ_CHUNK_LEN))
        (bytes.drop (min remaining READ_CHUNK_LEN) ++ rest)
      rw [← List.append_assoc, List.take_append_drop, taken] at chunk
      have left := ih (remaining - min remaining READ_CHUNK_LEN) (by
          simp only [READ_CHUNK_LEN]
          omega)
        (front ++ bytes.take (min remaining READ_CHUNK_LEN)) (bytes.drop (min remaining READ_CHUNK_LEN)) (by
          rw [List.length_drop, length])
      dsimp only
      rw [chunk]
      dsimp only
      rw [left, List.append_assoc, List.take_append_drop]
    · rename_i none
      have empty : bytes = [] := List.length_eq_zero_iff.1 (by omega)
      rw [empty, List.append_nil, List.nil_append]

theorem writeFrame_eq_ok : writeFrame codec msg = .ok frame ↔
    ∃ bytes, codec.toVec msg = some bytes ∧ bytes.length ≤ MAX_FRAME_LEN ∧
      frame = bigEndian 4 bytes.length ++ bytes := by
  have exact : ∀ {bytes : List UInt8}, bytes.length ≤ MAX_FRAME_LEN →
      (UInt32.ofNat bytes.length).toNat = bytes.length := fun fits =>
    UInt32.toNat_ofNat_of_lt' (Nat.lt_of_le_of_lt fits (by decide))
  unfold writeFrame
  constructor
  · intro written
    split at written
    · cases written
    · rename_i bytes encoded
      split at written
      · cases written
      · rename_i fits
        have fits := Nat.not_lt.1 fits
        cases written
        exact ⟨bytes, encoded, fits, by rw [exact fits]⟩
  · intro ⟨bytes, encoded, fits, framed⟩
    rw [encoded]
    dsimp only
    rw [if_neg (Nat.not_lt.2 fits), exact fits, framed]

theorem readFrame_append (lawful : codec.Lawful) (written : writeFrame codec msg = .ok frame) (rest : List UInt8) :
    readFrame codec (frame ++ rest) = (.ok msg, rest) := by
  obtain ⟨bytes, encoded, fits, framed⟩ := writeFrame_eq_ok.1 written
  have prefixed := readExact_append (bigEndian 4 bytes.length) (bytes ++ rest)
  have number : (UInt32.ofNat (ofBigEndian (bigEndian 4 bytes.length))).toNat = bytes.length := by
    have small : bytes.length < 2 ^ 32 := Nat.lt_of_le_of_lt fits (by decide)
    rw [ofBigEndian_bigEndian_of_lt small, UInt32.toNat_ofNat_of_lt' small]
  rw [length_bigEndian] at prefixed
  rw [readFrame, framed, List.append_assoc, prefixed]
  dsimp only
  rw [number, if_neg (Nat.not_lt.2 fits), readChunks_append]
  dsimp only
  rw [List.nil_append, lawful msg bytes encoded]

theorem readFrames_append (lawful : codec.Lawful) (framed : writeFrames codec messages = .ok written)
    (rest : List UInt8) : readFrames codec messages.length (written ++ rest) = (.ok messages, rest) := by
  induction messages generalizing written with
  | nil =>
    cases framed
    rfl
  | cons msg messages ih =>
    cases first : writeFrame codec msg with
    | error e =>
      rw [writeFrames, first] at framed
      cases framed
    | ok frame =>
      cases others : writeFrames codec messages with
      | error e =>
        rw [writeFrames, first, others] at framed
        cases framed
      | ok frames =>
        rw [writeFrames, first, others] at framed
        cases framed
        rw [List.length_cons, readFrames, List.append_assoc, readFrame_append lawful first]
        dsimp only
        rw [ih others]

/-- What is written is read back message by message, up to the end and no further; and the reader takes what
the writer takes, and refuses what it refuses. -/
theorem frames_read_back (lawful : codec.Lawful) :
    (∀ (messages : List μ) (written rest : List UInt8), writeFrames codec messages = .ok written →
      readFrames codec messages.length (written ++ rest) = (.ok messages, rest)) ∧
    (∀ (msg : μ) (frame rest : List UInt8), writeFrame codec msg = .ok frame →
      readFrame codec (frame ++ rest) = (.ok msg, rest)) ∧
    (∀ (len : UInt32) (rest : List UInt8), MAX_FRAME_LEN < len.toNat →
      readFrame codec (bigEndian 4 len.toNat ++ rest) = (.error (.frameTooLarge len), rest)) ∧
    readFrame codec [] = (.error .unexpectedEof, []) := by
  refine ⟨fun _ _ rest framed => readFrames_append lawful framed rest,
    fun _ _ rest written => readFrame_append lawful written rest, fun len rest large => ?_, rfl⟩
  have prefixed := readExact_append (bigEndian 4 len.toNat) rest
  rw [length_bigEndian] at prefixed
  rw [readFrame, prefixed]
  dsimp only
  rw [ofBigEndian_bigEndian_of_lt len.toNat_lt, UInt32.ofNat_toNat, if_pos large]

/-! ### A stream that breaks off -/

theorem readExact_short {len : Nat} (short : rest.length < len) : readExact len rest = (.error .unexpectedEof, []) :=
  if_pos short

theorem readChunks_short (remaining : Nat) (front reader : List UInt8) (short : reader.length < remaining) :
    readChunks remaining front reader = (.error .unexpectedEof, []) := by
  induction remaining using Nat.strongRecOn generalizing front reader with
  | _ remaining ih =>
    rw [readChunks, dif_pos (Nat.zero_lt_of_lt short)]
    dsimp only
    by_cases broken : reader.length < min remaining READ_CHUNK_LEN
    · rw [readExact_short broken]
    · rw [readExact, if_neg broken]
      refine ih _ ?_ _ _ ?_
      · simp only [READ_CHUNK_LEN]
        omega
      · rw [List.length_drop]
        omega

theorem readFrame_short (written : writeFrame codec msg = .ok frame) {part : List UInt8} (cut : part <+: frame)
    (short : part.length < frame.length) : readFrame codec part = (.error .unexpectedEof, []) := by
  obtain ⟨bytes, _, fits, rfl⟩ := writeFrame_eq_ok.1 written
  have number : (UInt32.ofNat (ofBigEndian (bigEndian 4 bytes.length))).toNat = bytes.length := by
    have small : bytes.length < 2 ^ 32 := Nat.lt_of_le_of_lt fits (by decide)
    rw [ofBigEndian_bigEndian_of_lt small, UInt32.toNat_ofNat_of_lt' small]
  by_cases broken : part.length < 4
  · rw [readFrame, readExact_short broken]
  · have header : bigEndian 4 bytes.length <+: part :=
      List.prefix_of_prefix_length_le (List.prefix_append _ _) cut (by rw [length_bigEndian]; exact Nat.not_lt.1 broken)
    obtain ⟨body, rfl⟩ := header
    rw [List.length_append, List.length_append, Nat.add_lt_add_iff_left] at short
    have read := readExact_append (bigEndian 4 bytes.length) body
    rw [length_bigEndian] at read
    rw [readFrame, read]
    dsimp only
    rw [number, if_neg (Nat.not_lt.2 fits), readChunks_short _ _ _ short]

/-- Of a stream that breaks off anywhere, the frames that have come whole are read, and the next read finds the
end of the stream. -/
theorem readFrames_of_cut (lawful : codec.Lawful) {part : List UInt8} (framed : writeFrames codec messages = .ok written)
    (cut : part <+: written) : ∃ count whole rest, part = whole ++ rest ∧ count ≤ messages.length ∧
      writeFrames codec (messages.take count) = .ok whole ∧
      readFrames codec count part = (.ok (messages.take count), rest) ∧
      readFrame codec rest = (.error .unexpectedEof, []) := by
  induction messages generalizing written part with
  | nil =>
    cases framed
    rw [List.prefix_nil.1 cut]
    exact ⟨0, [], [], rfl, Nat.le_refl _, rfl, rfl, rfl⟩
  | cons msg messages ih =>
    cases first : writeFrame codec msg with
    | error e =>
      rw [writeFrames, first] at framed
      cases framed
    | ok frame =>
      cases others : writeFrames codec messages with
      | error e =>
        rw [writeFrames, first, others] at framed
        cases framed
      | ok frames =>
        rw [writeFrames, first, others] at framed
        cases framed
        by_cases short : part.length < frame.length
        · exact ⟨0, [], part, rfl, Nat.zero_le _, rfl, rfl,
            readFrame_short first (List.prefix_of_prefix_length_le cut (List.prefix_append _ _) short.le) short⟩
        · obtain ⟨later, rfl⟩ := List.prefix_of_prefix_length_le (List.prefix_append _ _) cut (Nat.not_lt.1 short)
          obtain ⟨count, whole, rest, rfl, bound, behind, read, broken⟩ :=
            ih others ((List.prefix_append_right_inj _).1 cut)
          refine ⟨count + 1, frame ++ whole, rest, (List.append_assoc ..).symm, Nat.succ_le_succ bound, ?_, ?_, broken⟩
          · rw [List.take_succ_cons, writeFrames, first, behind]
            rfl
          · rw [readFrames, readFrame_append lawful first]
            dsimp only
            rw [read, List.take_succ_cons]

/-- Messages of one byte each. -/
def byteCodec : Codec UInt8 := ⟨fun byte => some [byte], List.head?⟩

theorem byteCodec_lawful : byteCodec.Lawful := by
  intro msg bytes encoded
  cases encoded
  rfl

/-- The second frame breaks off in its header. -/
theorem bytes_break_off : ∃ count whole rest, [0, 0, 0, 1, 7, 0, 0] = whole ++ rest ∧ count ≤ 2 ∧
    writeFrames byteCodec ([7, 8].take count) = .ok whole ∧
    readFrames byteCodec count [0, 0, 0, 1, 7, 0, 0] = (.ok ([7, 8].take count), rest) ∧
    readFrame byteCodec rest = (.error .unexpectedEof, []) := by
  have written : writeFrames byteCodec [7, 8] = .ok [0, 0, 0, 1, 7, 0, 0, 0, 1, 8] := by decide
  exact readFrames_of_cut byteCodec_lawful written (by decide)

theorem bytes_read_back :
    writeFrames byteCodec [7, 8] = .ok [0, 0, 0, 1, 7, 0, 0, 0, 1, 8] ∧
      readFrames byteCodec 2 [0, 0, 0, 1, 7, 0, 0, 0, 1, 8] = (.ok [7, 8], []) := by
  have lawful : byteCodec.Lawful := by
    intro msg bytes encoded
    cases encoded
    rfl
  have written : writeFrames byteCodec [7, 8] = .ok [0, 0, 0, 1, 7, 0, 0, 0, 1, 8] := by decide
  exact ⟨written, (frames_read_back lawful).1 [7, 8] _ [] written⟩

end VibeLink.Daemon
