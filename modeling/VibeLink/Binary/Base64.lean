import Mathlib.Data.List.Basic
import Mathlib.Tactic.Common
import Mathlib.Data.List.Induction
import Mathlib.Algebra.Order.Ring.Nat

/-! Base64 with padding. -/

namespace VibeLink.Binary

/-- `=` -/
abbrev padding : UInt8 := 61

def sextet (byte : UInt8) : Option Nat :=
  let n := byte.toNat
  if 65 ≤ n ∧ n ≤ 90 then some (n - 65)
  else if 97 ≤ n ∧ n ≤ 122 then some (n - 71)
  else if 48 ≤ n ∧ n ≤ 57 then some (n + 4)
  else if n = 43 then some 62
  else if n = 47 then some 63
  else none

def ofGroup (a b c d : UInt8) : Option (List UInt8) := do
  let a ← sextet a
  let b ← sextet b
  let c ← sextet c
  let d ← sextet d
  return [UInt8.ofNat (a * 4 + b / 16), UInt8.ofNat (b % 16 * 16 + c / 4), UInt8.ofNat (c % 4 * 64 + d)]

/-- The last group may end in padding; the bits that it does not use are zero. -/
def ofLastGroup (a b c d : UInt8) : Option (List UInt8) :=
  if d = padding then do
    let a ← sextet a
    let b ← sextet b
    if c = padding then
      if b % 16 = 0 then return [UInt8.ofNat (a * 4 + b / 16)] else none
    else
      let c ← sextet c
      if c % 4 = 0 then return [UInt8.ofNat (a * 4 + b / 16), UInt8.ofNat (b % 16 * 16 + c / 4)] else none
  else ofGroup a b c d

def ofBase64 : List UInt8 → Option (List UInt8)
  | [] => some []
  | [a, b, c, d] => ofLastGroup a b c d
  | a :: b :: c :: d :: rest => do
    let bytes ← ofGroup a b c d
    let more ← ofBase64 rest
    return bytes ++ more
  | _ => none

/-- A decoder reads groups of four characters one after another, as long as there is no padding. -/
structure IsBase64Decoder (decode : List UInt8 → Option (List UInt8)) : Prop where
  nil : decode [] = some []
  append {front rest bytes more : List UInt8} : front.length % 4 = 0 → padding ∉ front → decode front = some bytes →
    decode rest = some more → decode (front ++ rest) = some (bytes ++ more)

theorem ofLastGroup_eq {a b c d : UInt8} (full : d ≠ padding) : ofLastGroup a b c d = ofGroup a b c d := if_neg full

theorem ofBase64_group (a b c : UInt8) {d : UInt8} (full : d ≠ padding) (rest : List UInt8) :
    ofBase64 (a :: b :: c :: d :: rest) = (ofGroup a b c d).bind fun bytes => (ofBase64 rest).map (bytes ++ ·) := by
  cases rest with
  | nil =>
    show ofLastGroup a b c d = _
    rw [ofLastGroup_eq full]
    cases ofGroup a b c d with
    | none => rfl
    | some bytes => exact congrArg some (List.append_nil bytes).symm
  | cons e rest =>
    rw [ofBase64]
    · cases ofGroup a b c d with
      | none => rfl
      | some bytes => cases ofBase64 (e :: rest) <;> rfl
    · exact List.cons_ne_nil e rest

theorem isBase64Decoder_ofBase64 : IsBase64Decoder ofBase64 where
  nil := rfl
  append {front rest bytes more} groups plain decoded decoded' := by
    induction front using ofBase64.induct generalizing bytes with
    | case1 =>
      cases decoded
      exact decoded'
    | case2 a b c d =>
      have full : d ≠ padding := fun is => plain (by simp [is])
      rw [ofBase64, ofLastGroup_eq full] at decoded
      show ofBase64 (a :: b :: c :: d :: rest) = _
      rw [ofBase64_group a b c full, decoded, decoded']
      rfl
    | case3 a b c d front _ ih =>
      have full : d ≠ padding := fun is => plain (by simp [is])
      rw [ofBase64_group a b c full] at decoded
      have ⟨first, is, decoded⟩ := Option.bind_eq_some_iff.mp decoded
      have ⟨second, is', same⟩ := Option.map_eq_some_iff.mp decoded
      have after := ih (by simp only [List.length_cons] at groups; omega) (fun there => plain (by simp [there])) is'
      show ofBase64 (a :: b :: c :: d :: (front ++ rest)) = _
      rw [ofBase64_group a b c full, is, after, ← same, List.append_assoc]
      rfl
    | case4 front short short' long =>
      rw [ofBase64] at decoded
      · cases decoded
      · exact short
      · exact short'
      · exact long

end VibeLink.Binary

/-! Numbers of a fixed width as bytes, the most significant first. -/

namespace VibeLink.Binary

/-- The last `width` bytes of a number. -/
def bigEndian : Nat → Nat → List UInt8
  | 0, _ => []
  | width + 1, n => bigEndian width (n / 256) ++ [UInt8.ofNat (n % 256)]

def ofBigEndian (bytes : List UInt8) : Nat := bytes.foldl (fun n byte => n * 256 + byte.toNat) 0

@[simp] theorem length_bigEndian (width n : Nat) : (bigEndian width n).length = width := by
  induction width generalizing n with
  | zero => rfl
  | succ width ih => rw [bigEndian, List.length_append, ih, List.length_singleton]

theorem ofBigEndian_snoc (bytes : List UInt8) (byte : UInt8) :
    ofBigEndian (bytes ++ [byte]) = ofBigEndian bytes * 256 + byte.toNat := by
  rw [ofBigEndian, List.foldl_append]
  rfl

theorem ofBigEndian_bigEndian (width n : Nat) : ofBigEndian (bigEndian width n) = n % 256 ^ width := by
  induction width generalizing n with
  | zero => exact (Nat.mod_one n).symm
  | succ width ih =>
    have byte : (UInt8.ofNat (n % 256)).toNat = n % 256 := by simp
    rw [bigEndian, ofBigEndian_snoc, ih, byte, Nat.pow_succ', Nat.mod_mul]
    omega

theorem ofBigEndian_lt (bytes : List UInt8) : ofBigEndian bytes < 256 ^ bytes.length := by
  induction bytes using List.reverseRecOn with
  | nil => exact Nat.one_pos
  | append_singleton bytes byte ih =>
    have lt := byte.toNat_lt
    rw [ofBigEndian_snoc, List.length_append, List.length_singleton, Nat.pow_succ]
    omega

theorem bigEndian_ofBigEndian (bytes : List UInt8) : bigEndian bytes.length (ofBigEndian bytes) = bytes := by
  induction bytes using List.reverseRecOn with
  | nil => rfl
  | append_singleton bytes byte ih =>
    have lt := byte.toNat_lt
    have high : (ofBigEndian bytes * 256 + byte.toNat) / 256 = ofBigEndian bytes := by omega
    have low : (ofBigEndian bytes * 256 + byte.toNat) % 256 = byte.toNat := by omega
    rw [ofBigEndian_snoc, List.length_append, List.length_singleton, bigEndian, high, low, ih,
      UInt8.ofNat_toNat]

theorem ofBigEndian_bigEndian_of_lt {width n : Nat} (lt : n < 256 ^ width) :
    ofBigEndian (bigEndian width n) = n := by
  rw [ofBigEndian_bigEndian, Nat.mod_eq_of_lt lt]

theorem bigEndian_ofBigEndian_of_length {width : Nat} {bytes : List UInt8} (length : bytes.length = width) :
    bigEndian width (ofBigEndian bytes) = bytes := by
  rw [← length, bigEndian_ofBigEndian]

theorem ofBigEndian_lt_of_length {width : Nat} {bytes : List UInt8} (length : bytes.length = width) :
    ofBigEndian bytes < 256 ^ width :=
  length ▸ ofBigEndian_lt bytes

end VibeLink.Binary
