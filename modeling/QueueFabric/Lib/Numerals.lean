import Mathlib

/-!
Positional numerals, the most significant digit first, as a scan from left to right
builds them up.
-/

namespace Numerals

/-- The value of digits that follow others of the value `before`. -/
def value (base before : Nat) (digits : List Nat) : Nat :=
  digits.foldl (fun value digit => value * base + digit) before

@[simp] theorem value_nil (base before : Nat) : value base before [] = before := rfl

@[simp] theorem value_cons (base before digit : Nat) (digits : List Nat) :
    value base before (digit :: digits) = value base (before * base + digit) digits := rfl

theorem value_append (base before : Nat) (first second : List Nat) :
    value base before (first ++ second) = value base (value base before first) second :=
  List.foldl_append

theorem le_value {base : Nat} (positive : 0 < base) (before : Nat) (digits : List Nat) :
    before ≤ value base before digits := by
  induction digits generalizing before with
  | nil => exact Nat.le_refl before
  | cons digit rest ih =>
      have grown := Nat.le_mul_of_pos_right before positive
      have later := ih (before * base + digit)
      rw [value_cons]
      omega

theorem value_eq_ofDigits (base : Nat) (digits : List Nat) :
    value base 0 digits = Nat.ofDigits base digits.reverse := by
  induction digits using List.reverseRecOn with
  | nil => rfl
  | append_singleton early digit ih =>
      rw [value_append, ih, List.reverse_append, List.reverse_singleton, List.singleton_append,
        Nat.ofDigits_cons, value_cons, value_nil]
      simp [Nat.mul_comm, Nat.add_comm]

/-- The digits of a number spell it. -/
theorem value_digits (base number : Nat) :
    value base 0 (Nat.digits base number).reverse = number := by
  rw [value_eq_ofDigits, List.reverse_reverse, Nat.ofDigits_digits]

/-- The digits at fixed places, leading zeros included, spell what is left of the number. -/
theorem value_places (base number places : Nat) :
    value base 0 ((List.range places).map fun index =>
      number / base ^ (places - 1 - index) % base) = number % base ^ places := by
  induction places generalizing number with
  | zero => simp [Nat.mod_one]
  | succ places ih =>
      have early : (List.range places).map (fun index =>
          number / base ^ (places + 1 - 1 - index) % base) =
          (List.range places).map (fun index =>
            number / base / base ^ (places - 1 - index) % base) := by
        refine List.map_congr_left fun index listed => ?_
        have bound := List.mem_range.mp listed
        have shift : places + 1 - 1 - index = places - 1 - index + 1 := by omega
        rw [shift, Nat.div_div_eq_div_mul, Nat.pow_succ, Nat.mul_comm]
      rw [List.range_succ, List.map_append, value_append, early, ih]
      simp only [List.map_cons, List.map_nil, value_cons, value_nil, Nat.add_sub_cancel,
        Nat.sub_self, Nat.pow_zero, Nat.div_one]
      rw [Nat.pow_succ, Nat.mul_comm (base ^ places) base, Nat.mod_mul, Nat.mul_comm,
        Nat.add_comm]

end Numerals
