-- Amounts that 64 bits hold are calculated without loss.
import Checkout.Money

namespace Checkout.Money

/-- One amount on top of another, held within what 64 bits can say. -/
def plus (a b : Money) : Money := saturated (a.cents + b.cents)

/-- An amount taken away instead of given. -/
def opposite (a : Money) : Money := saturated (-a.cents)

theorem saturated_cents {n : Int} (h : Fits n) : (saturated n).cents = n := by
  rw [saturated, dif_pos h]

@[simp] theorem saturated_of_cents (m : Money) : saturated m.cents = m :=
  ext (saturated_cents m.fits)

theorem ofCents?_fits {n : Int} (h : Fits n) : ofCents? n = some (saturated n) :=
  ofCents?_eq_some_iff.mpr (saturated_cents h)

theorem ofCents?_not_fits {n : Int} (h : ¬ Fits n) : ofCents? n = none := dif_neg h

theorem isNegative_eq_false {m : Money} (h : 0 ≤ m.cents) : m.isNegative = false := by
  simpa [isNegative] using h

@[simp] theorem zero_cents : zero.cents = 0 := rfl

theorem lt_iff (a b : Money) : a < b ↔ a.cents < b.cents := Iff.rfl

theorem saturated_cents_eq (n : Int) :
    (saturated n).cents = max (-9223372036854775808) (min n 9223372036854775807) := by
  by_cases h : Fits n
  · rw [saturated_cents h]
    omega
  · rw [saturated, dif_neg h]
    split <;> dsimp only <;> omega

/-- The amount held between nothing and an upper bound. -/
theorem clamp_cents (m : Money) {upper : Money} (h : 0 ≤ upper.cents) :
    (m.clamp .zero upper).cents = min (max m.cents 0) upper.cents := by
  unfold clamp
  simp only [lt_iff, zero_cents]
  split
  · rw [zero_cents]
    omega
  · split <;> omega

end Checkout.Money
