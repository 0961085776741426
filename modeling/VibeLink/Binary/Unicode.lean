import Mathlib.Data.List.Basic
import Mathlib.Tactic.Common

/-! Texts as bytes: UTF-8 and what of a text can be read off its bytes. -/

namespace VibeLink.Binary

def utf8 (text : List Char) : List UInt8 := text.flatMap String.utf8EncodeChar

/-- The text that bytes are the strict encoding of, if there is one. -/
def ofUtf8 (bytes : List UInt8) : Option (List Char) := bytes.toByteArray.utf8Decode?.map Array.toList

@[simp] theorem utf8_nil : utf8 [] = [] := rfl

theorem utf8_cons (c : Char) (text : List Char) : utf8 (c :: text) = String.utf8EncodeChar c ++ utf8 text := rfl

@[simp] theorem utf8_append (text more : List Char) : utf8 (text ++ more) = utf8 text ++ utf8 more :=
  List.flatMap_append

theorem ofUtf8_eq_some {bytes : List UInt8} {text : List Char} : ofUtf8 bytes = some text ↔ utf8 text = bytes := by
  constructor
  · intro decoded
    have ⟨chars, valid, same⟩ := Option.map_eq_some_iff.mp decoded
    have encoded := ByteArray.utf8Encode_get_utf8Decode? (b := bytes.toByteArray) (h := by simp [valid])
    simp only [valid, Option.get_some, same] at encoded
    exact List.toByteArray_inj.mp encoded
  · intro encoded
    have decoded := List.utf8Decode?_utf8Encode (l := text)
    rw [← encoded, ofUtf8]
    exact congrArg (Option.map Array.toList) decoded

@[simp] theorem ofUtf8_utf8 (text : List Char) : ofUtf8 (utf8 text) = some text := ofUtf8_eq_some.mpr rfl

theorem utf8_prefix {text whole : List Char} : utf8 text <+: utf8 whole ↔ text <+: whole := by
  constructor
  · intro ⟨rest, same⟩
    refine List.isPrefix_of_utf8Encode_append_eq_utf8Encode rest.toByteArray ?_
    have joined := congrArg List.toByteArray same
    rwa [List.toByteArray_append] at joined
  · intro ⟨rest, same⟩
    exact ⟨utf8 rest, by rw [← same, utf8_append]⟩

section Ascii

variable {c : Char}

theorem encodeChar_ascii (ascii : c.toNat < 0x80) : String.utf8EncodeChar c = [UInt8.ofNat c.toNat] :=
  if_pos (Nat.le_of_lt_succ ascii)

theorem le_of_mem_encodeChar (other : ¬c.toNat < 0x80) {byte : UInt8} (member : byte ∈ String.utf8EncodeChar c) :
    0x80 ≤ byte.toNat := by
  have small : ¬c.val.toNat ≤ 0x7f := fun le => other (Nat.lt_succ_of_le le)
  simp only [String.utf8EncodeChar, if_neg small] at member
  split at member
  · simp only [List.mem_cons, List.not_mem_nil, or_false] at member
    cases member <;> subst byte <;> simp <;> omega
  · split at member
    · simp only [List.mem_cons, List.not_mem_nil, or_false] at member
      obtain same | same | same := member <;> subst byte <;> simp <;> omega
    · simp only [List.mem_cons, List.not_mem_nil, or_false] at member
      obtain same | same | same | same := member <;> subst byte <;> simp <;> omega

theorem mem_encodeChar {d : Char} (ascii : c.toNat < 0x80) :
    UInt8.ofNat c.toNat ∈ String.utf8EncodeChar d ↔ c = d := by
  have value {c : Char} (ascii : c.toNat < 0x80) : (UInt8.ofNat c.toNat).toNat = c.toNat :=
    UInt8.toNat_ofNat_of_lt' (Nat.lt_trans ascii (by decide))
  by_cases also : d.toNat < 0x80
  · rw [encodeChar_ascii also, List.mem_singleton]
    constructor
    · intro same
      have values := congrArg UInt8.toNat same
      rw [value ascii, value also] at values
      exact Char.toNat_inj.mp values
    · intro same
      rw [same]
  · refine iff_of_false (fun member => ?_) (fun same => also (same ▸ ascii))
    have large := le_of_mem_encodeChar also member
    rw [value ascii] at large
    omega

theorem mem_utf8 (ascii : c.toNat < 0x80) (text : List Char) : UInt8.ofNat c.toNat ∈ utf8 text ↔ c ∈ text := by
  induction text with
  | nil => simp
  | cons d text ih => rw [utf8_cons, List.mem_append, List.mem_cons, mem_encodeChar ascii, ih]

theorem head_utf8 {c : Char} (ascii : c.toNat < 0x80) {text : List Char}
    (head : (utf8 text).head? = some (UInt8.ofNat c.toNat)) : ∃ rest, text = c :: rest := by
  have starts : utf8 [c] <+: utf8 text := by
    rw [utf8_cons, encodeChar_ascii ascii, utf8_nil, List.append_nil]
    cases encoded : utf8 text with
    | nil => simp [encoded] at head
    | cons byte bytes =>
      rw [encoded, List.head?_cons, Option.some_inj] at head
      exact ⟨bytes, by rw [head]; rfl⟩
  have ⟨rest, same⟩ := utf8_prefix.mp starts
  exact ⟨rest, same.symm⟩

end Ascii

end VibeLink.Binary

/-! Texts as units of sixteen bits, and these as bytes, the less significant first. -/

