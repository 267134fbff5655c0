import Polydialect.Proofs.Rereading

/-!
# Values that are not too deep

A reader opens a bounded number of containers and gives nothing for a value that needs more, though
its text is written. Values without binary numbers are read as they were as long as they stay within
the bound (`Json.Within.reread?_eq`).
-/

namespace Polydialect.Json

/-- A value without binary numbers that opens at most `depth` containers, its integers of 64
bits. -/
inductive Within : Nat → Json → Prop where
  | null (depth : Nat) : Within depth .null
  | bool (depth : Nat) (b : Bool) : Within depth (.bool b)
  | integer (depth : Nat) {n : Int} : -(Number.maxInt64 + 1 : Int) ≤ n → n < UInt64.size →
    Within depth (.integer n)
  | string (depth : Nat) (s : String) : Within depth (.string s)
  | array {depth : Nat} {items : List Json} : (∀ j ∈ items, Within depth j) →
    Within (depth + 1) (.array items)
  | object {depth : Nat} {members : List (String × Json)} : (∀ p ∈ members, Within depth p.2) →
    Within (depth + 1) (.object members)

theorem Within.reread?_eq {depth : Nat} {j : Json} (h : Within depth j) :
    reread? depth j = some j := by
  induction h with
  | null | bool => rfl
  | integer depth hmin hmax => exact reread?_integer depth hmin hmax
  | string depth s => exact reread?_string depth s
  | array _ ih =>
    rw [reread?_array, mapM_eq_self_iff.2 ih]
    rfl
  | object _ ih =>
    rw [reread?_object, mapM_eq_self_iff.2 fun p hp => by rw [ih p hp]; rfl]
    rfl

/-- An object inside of an object and so on, as many of them as it says. -/
def nested : Nat → Json
  | 0 => .null
  | n + 1 => .object [("a", nested n)]

/-- Of objects inside of each other too many are not read at all. -/
theorem reread?_nested {depth n : Nat} (h : depth < n) : reread? depth (nested n) = none := by
  induction n generalizing depth with
  | zero => exact absurd h (Nat.not_lt_zero _)
  | succ n ih =>
    cases depth with
    | zero => rfl
    | succ depth => rw [nested, reread?_single, ih (Nat.lt_of_succ_lt_succ h), Option.map_none]

theorem isCanonical_nested (n : Nat) : (nested n).IsCanonical := by
  induction n with
  | zero => rfl
  | succ n ih => exact isCanonical_object.2 ⟨List.pairwise_singleton _ _, List.forall_mem_singleton.2 ih⟩

end Polydialect.Json
