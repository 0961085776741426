import Mathlib.Tactic.Common

namespace VibeLink.Coordinator

/-- `serde_json::Value`.  A number keeps its literal: nothing here computes with it. -/
inductive Json where
  | null
  | bool (b : Bool)
  | num (literal : String)
  | str (s : String)
  | arr (items : List Json)
  | obj (fields : List (String × Json))

namespace Json

def lookup (name : String) : List (String × Json) → Option Json
  | [] => none
  | (field, v) :: fields => if field = name then some v else lookup name fields

def assign (name : String) (v : Json) : List (String × Json) → List (String × Json)
  | [] => [(name, v)]
  | (field, old) :: fields =>
    if field = name then (name, v) :: fields else (field, old) :: assign name v fields

def get : Json → String → Option Json
  | .obj fields, name => lookup name fields
  | _, _ => none

def asStr : Json → Option String
  | .str s => some s
  | _ => none

def asBool : Json → Option Bool
  | .bool b => some b
  | _ => none

def getStr (value : Json) (name : String) : Option String := (value.get name).bind asStr

def getBool (value : Json) (name : String) : Option Bool := (value.get name).bind asBool

/-- `value[name] = v`; the code assigns only to objects. -/
def set : Json → String → Json → Json
  | .obj fields, name, v => .obj (assign name v fields)
  | value, _, _ => value

def strings : List Json → Option (List String)
  | [] => some []
  | .str s :: items => (strings items).map (s :: ·)
  | _ :: _ => none

def nat (n : Nat) : Json := .num (toString n)

def option (encode : α → Json) : Option α → Json
  | none => .null
  | some a => encode a

theorem lookup_assign (name other : String) (v : Json) (fields : List (String × Json)) :
    lookup other (assign name v fields) = if other = name then some v else lookup other fields := by
  induction fields with
  | nil => by_cases h : name = other <;> simp [assign, lookup, h, eq_comm]
  | cons field fields ih =>
    obtain ⟨field, old⟩ := field
    by_cases hf : field = name
    · subst hf
      by_cases h : field = other
      · simp [assign, lookup, h]
      · simp [assign, lookup, h, Ne.symm h]
    · by_cases h : field = other
      · subst h; simp [assign, lookup, hf]
      · simp [assign, lookup, hf, h, ih]

theorem get_set_of_ne {name other : String} (h : other ≠ name) (value v : Json) :
    (value.set name v).get other = value.get other := by
  cases value with
  | obj fields => simp [set, get, lookup_assign, h]
  | _ => rfl

@[simp] theorem getStr_set_of_ne {name other : String} (h : other ≠ name) (value v : Json) :
    (value.set name v).getStr other = value.getStr other := by
  simp only [getStr, get_set_of_ne h]

mutual

def same : Json → Json → Bool
  | .null, .null => true
  | .bool a, .bool b => a == b
  | .num a, .num b => a == b
  | .str a, .str b => a == b
  | .arr a, .arr b => sameItems a b
  | .obj a, .obj b => sameFields a b
  | _, _ => false

def sameItems : List Json → List Json → Bool
  | [], [] => true
  | a :: as, b :: bs => a.same b && sameItems as bs
  | _, _ => false

def sameFields : List (String × Json) → List (String × Json) → Bool
  | [], [] => true
  | (name, a) :: as, (name', b) :: bs => name == name' && a.same b && sameFields as bs
  | _, _ => false

end

mutual

theorem same_iff : ∀ a b : Json, a.same b ↔ a = b
  | .null, b => by cases b <;> simp [same]
  | .bool a, b => by cases b <;> simp [same]
  | .num a, b => by cases b <;> simp [same]
  | .str a, b => by cases b <;> simp [same]
  | .arr a, b => by cases b <;> simp [same, sameItems_iff a]
  | .obj a, b => by cases b <;> simp [same, sameFields_iff a]

theorem sameItems_iff : ∀ as bs : List Json, sameItems as bs ↔ as = bs
  | [], bs => by cases bs <;> simp [sameItems]
  | a :: as, bs => by cases bs <;> simp [sameItems, same_iff a, sameItems_iff as]

theorem sameFields_iff : ∀ as bs : List (String × Json), sameFields as bs ↔ as = bs
  | [], bs => by cases bs <;> simp [sameFields]
  | (name, a) :: as, bs => by
    cases bs with
    | nil => simp [sameFields]
    | cons b bs => simp [sameFields, same_iff a, sameFields_iff as, Prod.ext_iff]

end

instance decidableEqJson : DecidableEq Json := fun a b => decidable_of_iff _ (same_iff a b)

end Json

end VibeLink.Coordinator
