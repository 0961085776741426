import Mathlib.Data.List.Induction
import VibeLink.Lexing.Finding

/-! The end of an output stream that is kept of a run (`daemon/automation/runner.rs`). -/

namespace VibeLink.Automation

open Lexing

def maxCaptureBytes : Nat := 256 * 1024

def maxStreamBytes : Nat := maxCaptureBytes / 2

structure BoundedCapture where
  bytes : List UInt8
  truncated : Bool

namespace BoundedCapture

def default : BoundedCapture := ⟨[], false⟩

def append (capture : BoundedCapture) (chunk : List UInt8) : BoundedCapture :=
  if maxStreamBytes ≤ chunk.length then ⟨chunk.drop (chunk.length - maxStreamBytes), true⟩
  else
    let bytes := capture.bytes ++ chunk
    if maxStreamBytes < bytes.length then ⟨bytes.drop (bytes.length - maxStreamBytes), true⟩
    else ⟨bytes, capture.truncated⟩

def appendAll (chunks : List (List UInt8)) : BoundedCapture := chunks.foldl append default

variable {capture : BoundedCapture} {chunk : List UInt8} {chunks : List (List UInt8)}

theorem bytes_append (capture : BoundedCapture) (chunk : List UInt8) :
    (capture.append chunk).bytes = (capture.bytes ++ chunk).rtake maxStreamBytes := by
  unfold append
  generalize maxStreamBytes = limit
  by_cases fills : limit ≤ chunk.length
  · rw [if_pos fills]
    exact (rtake_append_of_le capture.bytes fills).symm
  · rw [if_neg fills]
    dsimp only
    by_cases exceeds : limit < (capture.bytes ++ chunk).length
    · rw [if_pos exceeds]
      rfl
    · rw [if_neg exceeds]
      exact (rtake_of_length_le (Nat.le_of_not_lt exceeds)).symm

theorem truncated_append (capture : BoundedCapture) (chunk : List UInt8) : (capture.append chunk).truncated = true ↔
    capture.truncated = true ∨ maxStreamBytes ≤ chunk.length ∨ maxStreamBytes < capture.bytes.length + chunk.length := by
  unfold append
  generalize maxStreamBytes = limit
  by_cases fills : limit ≤ chunk.length
  · rw [if_pos fills]
    exact iff_of_true rfl (.inr (.inl fills))
  · rw [if_neg fills]
    dsimp only
    rw [← List.length_append]
    by_cases exceeds : limit < (capture.bytes ++ chunk).length
    · rw [if_pos exceeds]
      exact iff_of_true rfl (.inr (.inr exceeds))
    · rw [if_neg exceeds]
      exact (or_iff_left (not_or.2 ⟨fills, exceeds⟩)).symm

theorem bytes_appendAll (chunks : List (List UInt8)) :
    (appendAll chunks).bytes = chunks.flatten.rtake maxStreamBytes := by
  induction chunks using List.reverseRecOn with
  | nil => rfl
  | append_singleton chunks chunk ih =>
    rw [appendAll, List.foldl_append]
    change ((appendAll chunks).append chunk).bytes = _
    rw [bytes_append, ih, rtake_append_rtake, List.flatten_append, List.flatten_singleton]

theorem truncated_appendAll (chunks : List (List UInt8)) : (appendAll chunks).truncated = true ↔
    maxStreamBytes < chunks.flatten.length ∨ ∃ chunk ∈ chunks, chunk.length = maxStreamBytes := by
  induction chunks using List.reverseRecOn with
  | nil => simp [appendAll, default]
  | append_singleton chunks chunk ih =>
    have last : (appendAll (chunks ++ [chunk])).truncated = ((appendAll chunks).append chunk).truncated := by
      rw [appendAll, List.foldl_append]
      rfl
    have among : (∃ c ∈ chunks ++ [chunk], c.length = maxStreamBytes) ↔
        (∃ c ∈ chunks, c.length = maxStreamBytes) ∨ chunk.length = maxStreamBytes := by
      simp only [List.mem_append, List.mem_singleton, or_and_right, exists_or, exists_eq_left]
    rw [last, truncated_append, ih, bytes_appendAll, length_rtake, List.flatten_append, List.flatten_singleton,
      List.length_append, among]
    generalize maxStreamBytes = limit
    by_cases alone : ∃ c ∈ chunks, c.length = limit
    · simp only [alone, or_true, true_or]
    · simp only [alone, or_false, false_or]
      omega

/-- The end of the stream is kept, and it is said whether something is missing, unless a chunk fills the capture exactly
and there is no other byte. -/
theorem captures_iff (chunks : List (List UInt8)) :
    ((appendAll chunks).bytes = chunks.flatten.rtake maxStreamBytes ∧
      ((appendAll chunks).truncated = true ↔ maxStreamBytes < chunks.flatten.length)) ↔
    ¬(chunks.flatten.length = maxStreamBytes ∧ ∃ chunk ∈ chunks, chunk.length = maxStreamBytes) := by
  rw [truncated_appendAll, and_iff_right (bytes_appendAll chunks)]
  constructor
  · rintro exact_ ⟨full, alone⟩
    exact absurd (exact_.1 (.inr alone)) (by rw [full]; exact Nat.lt_irrefl _)
  · intro other
    refine or_iff_left_of_imp fun filled => ?_
    obtain ⟨chunk, member, fills⟩ := filled
    have within : chunk.length ≤ chunks.flatten.length := (List.sublist_flatten_of_mem member).length_le
    rw [fills] at within
    exact Nat.lt_of_le_of_ne within fun full => other ⟨full.symm, chunk, member, fills⟩

/-- One chunk that is as long as the capture is kept whole and said to be cut. -/
theorem full_chunk_truncated : (appendAll [List.replicate maxStreamBytes 0]).truncated = true ∧
    ¬maxStreamBytes < [List.replicate maxStreamBytes (0 : UInt8)].flatten.length := by
  constructor
  · rw [truncated_appendAll]
    exact .inr ⟨_, List.mem_singleton_self _, List.length_replicate⟩
  · rw [List.flatten_singleton, List.length_replicate]
    exact Nat.lt_irrefl _

end BoundedCapture

end VibeLink.Automation
