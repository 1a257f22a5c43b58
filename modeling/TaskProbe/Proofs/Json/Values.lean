import TaskProbe.Decimal.Bounds
import TaskProbe.Proofs.Keyed

/-!
# Kinds of JSON values

How deep a value nests, what its numbers are, and that its objects are in order. Order is what every
object has that is made of fields, so it is no restriction of the values that a program handles.
-/

namespace TaskProbe.Json

/-! ## Depth -/

mutual

/-- How deep arrays and objects nest in a value. -/
def Value.depth : Value → Nat
  | .array xs => depthOfItems xs + 1
  | .object fields => depthOfFields fields + 1
  | _ => 0

/-- The greatest depth of an item. -/
def depthOfItems : List Value → Nat
  | [] => 0
  | x :: xs => max x.depth (depthOfItems xs)

/-- The greatest depth of a value in a field. -/
def depthOfFields : List (String × Value) → Nat
  | [] => 0
  | (_, v) :: fields => max v.depth (depthOfFields fields)

end

theorem depthOfItems_le_iff {n : Nat} : ∀ {xs : List Value},
    depthOfItems xs ≤ n ↔ ∀ x ∈ xs, x.depth ≤ n
  | [] => by simp [depthOfItems]
  | x :: xs => by
    rw [depthOfItems, Nat.max_le, depthOfItems_le_iff, List.forall_mem_cons]

theorem depthOfFields_le_iff {n : Nat} : ∀ {fields : List (String × Value)},
    depthOfFields fields ≤ n ↔ ∀ f ∈ fields, f.2.depth ≤ n
  | [] => by simp [depthOfFields]
  | (k, v) :: fields => by
    rw [depthOfFields, Nat.max_le, depthOfFields_le_iff, List.forall_mem_cons]

/-! ## Numbers and keys -/

/-- All numbers in the value are integers of 64 bits, signed or unsigned. -/
inductive Value.Integral : Value → Prop where
  | null : Integral .null
  | bool (b : Bool) : Integral (.bool b)
  | int {n : Int} (hmin : minInt64 ≤ n) (hmax : n ≤ maxUInt64) : Integral (.number (.int n))
  | string (s : String) : Integral (.string s)
  | array {xs : List Value} (h : ∀ x ∈ xs, Integral x) : Integral (.array xs)
  | object {fields : List (String × Value)} (h : ∀ f ∈ fields, Integral f.2) :
      Integral (.object fields)

/-- All objects in the value have their fields in strictly ascending order of the keys. -/
inductive Value.Ordered : Value → Prop where
  | null : Ordered .null
  | bool (b : Bool) : Ordered (.bool b)
  | number (n : Number) : Ordered (.number n)
  | string (s : String) : Ordered (.string s)
  | array {xs : List Value} (h : ∀ x ∈ xs, Ordered x) : Ordered (.array xs)
  | object {fields : List (String × Value)} (ha : Keyed.Ascending fields)
      (h : ∀ f ∈ fields, Ordered f.2) : Ordered (.object fields)

end TaskProbe.Json
