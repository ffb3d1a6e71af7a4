-- Calculating with whole numbers of a fixed width. A step that nobody checks
-- gives the exact number as long as the width holds it, and overflows
-- otherwise. A ratio is rounded to the nearest whole number by whole ones.
import Checkout.Money
import Mathlib.Algebra.Order.Round
import Mathlib.Data.Rat.Floor
import Mathlib.Tactic.FieldSimp
import Mathlib.Tactic.Positivity

namespace Checkout

/-! ## Steps in a fixed width -/

namespace Width

def unsigned8 : Width := ⟨false, 8⟩
def signed128 : Width := ⟨true, 128⟩

/-- What a step comes to that nobody checks. -/
def unchecked (w : Width) (op : Overflow) (n : Int) : Except Overflow Int :=
  if w.Holds n then .ok n else .error op

variable {w : Width} {n : Int}

theorem unchecked_ok (op : Overflow) (h : w.Holds n) : w.unchecked op n = .ok n := if_pos h

theorem unchecked_bind {α : Type} (op : Overflow) (f : Int → Except Overflow α) (h : w.Holds n) :
    (w.unchecked op n >>= f) = f n := by
  rw [unchecked_ok op h]
  rfl

theorem signed64_holds_iff : signed64.Holds n ↔ Fits n := by
  have hdepth : (signed64.depth : Int) = 9223372036854775808 := by decide
  have hlargest : (signed64.largest : Int) = 9223372036854775807 := by decide
  unfold Holds
  rw [hdepth, hlargest]

theorem signed128_holds (h : n.natAbs < 2 ^ 127) : signed128.Holds n := by
  have hdepth : signed128.depth = 2 ^ 127 := by decide
  have hlargest : signed128.largest = 2 ^ 127 - 1 := by decide
  unfold Holds
  rw [hdepth, hlargest]
  omega

end Width

/-- Two numbers of 64 bits have a product of less than 128. -/
theorem natAbs_mul_le {a b : Int} (ha : Fits a) (hb : Fits b) : (a * b).natAbs ≤ 2 ^ 126 := by
  have hab : a.natAbs * b.natAbs ≤ 2 ^ 63 * 2 ^ 63 := Nat.mul_le_mul (by omega) (by omega)
  rw [Int.natAbs_mul]
  omega

/-! ## Rounding -/

/-- A ratio rounded to the nearest whole number, halves up. -/
theorem round_ratio (num : Int) {den : Nat} (h : 0 < den) :
    round ((num : ℚ) / den) = (2 * num + den) / (2 * den) := by
  have hne : (den : ℚ) ≠ 0 := by positivity
  have hsum : (num : ℚ) / den + 1 / 2 = ((2 * num + den : Int) : ℚ) / ((2 * den : Nat) : ℚ) := by
    push_cast
    field_simp
  rw [round_eq, hsum, Rat.floor_intCast_div_natCast]
  push_cast
  rfl

end Checkout
