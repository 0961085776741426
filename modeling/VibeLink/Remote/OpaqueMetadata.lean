import VibeLink.Coordinator.Json
import VibeLink.Relational.Outcome
import Mathlib.Data.List.Infix

/-! What a notification may say of an entity (`validate_opaque_value` in `remote/v2/wire.rs`). -/

namespace VibeLink.Remote

open Coordinator (Json)
open Relational

def contentBearing : List String := ["prompt", "result", "text", "content", "terminal", "token", "secret", "path"]

def isForbidden (key : String) : Bool := contentBearing.any fun forbidden => decide (forbidden.toList <:+: key.toLower.toList)

def shallow (depth : Nat) (rest : Except String Unit) : Except String Unit :=
  if 4 < depth then .error "remote-v2 notification metadata is too deeply nested" else rest

mutual

def validateOpaqueValue (depth : Nat) : Json → Except String Unit
  | .null | .bool _ | .num _ => shallow depth (.ok ())
  | .str s => shallow depth
    (if s.utf8ByteSize ≤ 128 then .ok () else .error "remote-v2 notification metadata string is too large")
  | .arr items => shallow depth
    (if items.length ≤ 16 then validateOpaqueItems (depth + 1) items
    else .error "remote-v2 notification metadata array is too large")
  | .obj fields => shallow depth
    (if fields.length ≤ 16 then validateOpaqueFields (depth + 1) fields
    else .error "remote-v2 notification metadata object is too large")

def validateOpaqueItems (depth : Nat) : List Json → Except String Unit
  | [] => .ok ()
  | value :: items => do
    validateOpaqueValue depth value
    validateOpaqueItems depth items

def validateOpaqueFields (depth : Nat) : List (String × Json) → Except String Unit
  | [] => .ok ()
  | (key, value) :: fields => do
    if isForbidden key then .error "remote-v2 notification metadata contains content-bearing field" else
    validateOpaqueValue depth value
    validateOpaqueFields depth fields

end

/-! ### What is accepted -/

/-- A value stands at some depth in another one. -/
inductive Nested : Json → Nat → Json → Prop
  | here {value : Json} : Nested value 0 value
  | item {items : List Json} {item value : Json} {depth : Nat} : item ∈ items → Nested item depth value →
      Nested (.arr items) (depth + 1) value
  | field {fields : List (String × Json)} {key : String} {item value : Json} {depth : Nat} : (key, item) ∈ fields →
      Nested item depth value → Nested (.obj fields) (depth + 1) value

def Opaque : Json → Prop
  | .null | .bool _ | .num _ => True
  | .str s => s.utf8ByteSize ≤ 128
  | .arr items => items.length ≤ 16
  | .obj fields => fields.length ≤ 16 ∧ ∀ field ∈ fields, isForbidden field.1 = false

def OpaqueFrom (depth : Nat) (value : Json) : Prop :=
  ∀ deeper inner, Nested value deeper inner → depth + deeper ≤ 4 ∧ Opaque inner

section Accepted

variable {depth : Nat} {value : Json} {items : List Json} {fields : List (String × Json)}

theorem shallow_eq_ok {rest : Except String Unit} : shallow depth rest = .ok () ↔ depth ≤ 4 ∧ rest = .ok () := by
  unfold shallow
  split
  · exact iff_of_false (fun is => by cases is) (fun is => by omega)
  · exact (and_iff_right (by omega)).symm

theorem ite_eq_ok {p : Prop} [Decidable p] {rest : Except String Unit} {error : String} :
    (if p then rest else .error error) = .ok () ↔ p ∧ rest = .ok () := by
  split
  · rename_i yes
    exact (and_iff_right yes).symm
  · rename_i no
    exact iff_of_false (fun is => by cases is) (fun is => no is.1)

theorem opaqueFrom_scalar (scalar : ∀ deeper inner, Nested value deeper inner → deeper = 0 ∧ inner = value) :
    OpaqueFrom depth value ↔ depth ≤ 4 ∧ Opaque value := by
  constructor
  · exact fun all => all 0 value .here
  · intro here deeper inner nested
    have ⟨top, same⟩ := scalar deeper inner nested
    rw [top, same]
    exact here

theorem opaqueFrom_arr : OpaqueFrom depth (.arr items) ↔
    depth ≤ 4 ∧ items.length ≤ 16 ∧ ∀ item ∈ items, OpaqueFrom (depth + 1) item := by
  constructor
  · intro all
    have here := all 0 _ .here
    refine ⟨here.1, here.2, fun item member deeper inner nested => ?_⟩
    have within := all (deeper + 1) inner (.item member nested)
    exact ⟨by omega, within.2⟩
  · intro ⟨le, size, each⟩ deeper inner nested
    cases nested with
    | here => exact ⟨le, size⟩
    | @item _ item _ deeper member nested =>
      have within := each item member deeper inner nested
      exact ⟨by omega, within.2⟩

theorem opaqueFrom_obj : OpaqueFrom depth (.obj fields) ↔
    depth ≤ 4 ∧ fields.length ≤ 16 ∧ ∀ field ∈ fields, isForbidden field.1 = false ∧ OpaqueFrom (depth + 1) field.2 := by
  constructor
  · intro all
    have ⟨le, size, keys⟩ := all 0 _ .here
    refine ⟨le, size, fun field member => ⟨keys field member, fun deeper inner nested => ?_⟩⟩
    have within := all (deeper + 1) inner (.field member nested)
    exact ⟨by omega, within.2⟩
  · intro ⟨le, size, each⟩ deeper inner nested
    cases nested with
    | here => exact ⟨le, size, fun field member => (each field member).1⟩
    | @field _ key item _ deeper member nested =>
      have within := (each (key, item) member).2 deeper inner nested
      exact ⟨by omega, within.2⟩

mutual

theorem validateOpaqueValue_iff (depth : Nat) : ∀ value, validateOpaqueValue depth value = .ok () ↔ OpaqueFrom depth value
  | .null | .bool _ | .num _ => by
    rw [validateOpaqueValue, shallow_eq_ok, opaqueFrom_scalar fun _ _ nested => by cases nested; exact ⟨rfl, rfl⟩]
    exact and_congr_right' (iff_of_true rfl trivial)
  | .str s => by
    rw [validateOpaqueValue, shallow_eq_ok, ite_eq_ok, opaqueFrom_scalar fun _ _ nested => by cases nested; exact ⟨rfl, rfl⟩]
    exact and_congr_right' (and_iff_left rfl)
  | .arr items => by rw [validateOpaqueValue, shallow_eq_ok, ite_eq_ok, opaqueFrom_arr, validateOpaqueItems_iff (depth + 1) items]
  | .obj fields => by rw [validateOpaqueValue, shallow_eq_ok, ite_eq_ok, opaqueFrom_obj, validateOpaqueFields_iff (depth + 1) fields]

theorem validateOpaqueItems_iff (depth : Nat) : ∀ items, validateOpaqueItems depth items = .ok () ↔
    ∀ item ∈ items, OpaqueFrom depth item
  | [] => iff_of_true rfl fun _ member => absurd member List.not_mem_nil
  | value :: items => by
    rw [validateOpaqueItems, bind_eq_ok, List.forall_mem_cons, ← validateOpaqueValue_iff depth value,
      ← validateOpaqueItems_iff depth items]
    exact ⟨fun ⟨_, first, rest⟩ => ⟨first, rest⟩, fun ⟨first, rest⟩ => ⟨(), first, rest⟩⟩

theorem validateOpaqueFields_iff (depth : Nat) : ∀ fields, validateOpaqueFields depth fields = .ok () ↔
    ∀ field ∈ fields, isForbidden field.1 = false ∧ OpaqueFrom depth field.2
  | [] => iff_of_true rfl fun _ member => absurd member List.not_mem_nil
  | (key, value) :: fields => by
    rw [validateOpaqueFields, List.forall_mem_cons, ← validateOpaqueValue_iff depth value, ← validateOpaqueFields_iff depth fields]
    cases isForbidden key with
    | true => exact iff_of_false (fun done => by cases done) (fun done => by cases done.1.1)
    | false =>
      rw [if_neg Bool.false_ne_true, bind_eq_ok]
      exact ⟨fun ⟨_, first, rest⟩ => ⟨⟨rfl, first⟩, rest⟩, fun ⟨first, rest⟩ => ⟨(), first.2, rest⟩⟩

end

/-- Accepted are exactly the values with no forbidden key, nothing too deep and nothing too large in them. -/
theorem accepted_iff (value : Json) : validateOpaqueValue 0 value = .ok () ↔
    ∀ depth inner, Nested value depth inner → depth ≤ 4 ∧ Opaque inner := by
  rw [validateOpaqueValue_iff]
  unfold OpaqueFrom
  simp only [Nat.zero_add]

end Accepted

end VibeLink.Remote
