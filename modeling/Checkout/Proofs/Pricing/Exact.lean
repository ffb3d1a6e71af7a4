-- Prices, discounts and totals are the exact numbers. A step of the calculation
-- that gets too large is always one that is checked.
import Checkout.Proofs.Number.Calculation
import Checkout.Proofs.Pricing
import Mathlib.Algebra.BigOperators.Group.List.Basic

namespace Checkout

/-! ## Percentages, one step after another -/

/-- Why a calculation cannot go on. -/
inductive Breach where
  | overflow (op : Overflow)
  /-- The lower bound of a range lies above the upper one. -/
  | emptyRange
deriving DecidableEq, Repr

namespace Money

/-- A percentage of an amount as it is calculated in 128 bits, where nothing is checked. -/
def percentageSteps (m : Money) (percent : Int) : Except Overflow Money := do
  let scaled ← Width.signed128.unchecked .multiply (m.cents * percent)
  let size ← Width.signed128.unchecked .negate scaled.natAbs
  let raised ← Width.signed128.unchecked .add (size + 50)
  let whole := raised.tdiv 100
  if scaled < 0 then return saturated (← Width.signed128.unchecked .negate (-whole))
  else return saturated whole

/-- None of the steps overflows. -/
theorem percentageSteps_eq (m : Money) {percent : Int} (h : Fits percent) :
    m.percentageSteps percent = .ok (m.percentage percent) := by
  have hsize := natAbs_mul_le m.fits h
  unfold percentageSteps percentage roundHundredths
  generalize m.cents * percent = n at hsize
  have hwide {k : Int} (hk : k.natAbs ≤ 2 ^ 126 + 50) : Width.signed128.Holds k :=
    Width.signed128_holds (by omega)
  have hwhole : ((n.natAbs : Int) + 50).tdiv 100 = ((n.natAbs + 50) / 100 : Nat) := by
    rw [Int.tdiv_eq_ediv_of_nonneg (by omega)]
    rfl
  rw [Width.unchecked_bind _ _ (hwide (by omega)), Width.unchecked_bind _ _ (hwide (by omega)),
    Width.unchecked_bind _ _ (hwide (by omega)), hwhole]
  by_cases hneg : n < 0
  · simp only [if_pos hneg]
    rw [Width.unchecked_bind _ _ (hwide (by omega))]
    rfl
  · simp only [if_neg hneg]
    rfl

end Money

/-! ## Discounts -/

/-- What a coupon takes off a subtotal: nothing below zero, and no more than there is. -/
def Coupon.exactDiscount (c : Coupon) (subtotal : Int) : Int :=
  let off := match c.kind with
    | .fixedAmount => c.discount
    | .percentage => round ((subtotal * c.discount : Int) / 100 : ℚ)
  min (max off 0) subtotal

/-- A discount as it is calculated. Holding it between two bounds needs them in their order. -/
def Coupon.discountSteps (c : Coupon) (subtotal : Money) : Except Breach Money := do
  let full ← match c.kind with
    | .fixedAmount => .ok (Money.saturated c.discount)
    | .percentage => (subtotal.percentageSteps c.discount).mapError .overflow
  let upper := if subtotal.isNegative then Money.zero else subtotal
  if upper < .zero then .error .emptyRange else return full.clamp .zero upper

theorem Coupon.discountSteps_eq (c : Coupon) (subtotal : Money) (h : Fits c.discount) :
    c.discountSteps subtotal = .ok (c.discountFor subtotal) := by
  have hupper : ¬ (if subtotal.isNegative then Money.zero else subtotal) < .zero := by
    by_cases h : subtotal.isNegative = true
    · rw [if_pos h]
      decide
    · rw [if_neg h, Money.lt_iff]
      simpa [Money.isNegative] using h
  unfold discountSteps discountFor CouponKind.discountFor
  rw [subtotal.percentageSteps_eq h]
  cases c.kind with
  | fixedAmount => simp only [bind, Except.bind, if_neg hupper]; rfl
  | percentage => simp only [bind, Except.bind, Except.mapError, if_neg hupper]; rfl

theorem Money.clamp_saturated (n : Int) {upper : Money} (h : 0 ≤ upper.cents) :
    ((saturated n).clamp .zero upper).cents = min (max n 0) upper.cents := by
  have hfits := upper.fits
  rw [clamp_cents _ h, saturated_cents_eq]
  omega

/-- Rounding away from zero and rounding up differ below zero only. -/
theorem max_roundHundredths (n : Int) :
    max (Money.roundHundredths n) 0 = max (round ((n : ℚ) / 100)) 0 := by
  have hround : round ((n : ℚ) / 100) = (2 * n + 100) / 200 := by
    exact_mod_cast round_ratio n (show 0 < 100 by decide)
  rw [hround, Money.roundHundredths]
  split <;> omega

theorem Coupon.discountFor_cents (c : Coupon) {subtotal : Money} (h : 0 ≤ subtotal.cents) :
    (c.discountFor subtotal).cents = c.exactDiscount subtotal.cents := by
  unfold discountFor CouponKind.discountFor exactDiscount
  simp only [Money.isNegative_eq_false h, Bool.false_eq_true, if_false]
  cases c.kind with
  | fixedAmount => exact Money.clamp_saturated _ h
  | percentage =>
    rw [← max_roundHundredths]
    exact Money.clamp_saturated _ h

/-! ## Lines -/

namespace PricedLine

variable {l : PricedLine} {line : NewOrderLine} {unitPrice : Money} {coupon : Option Coupon}

/-- The line stands at its exact price, and adding up its amounts again does not overflow. -/
structure Prices (l : PricedLine) (line : NewOrderLine) (unitPrice : Money)
    (coupon : Option Coupon) : Prop where
  discount : l.discount.cents =
    (coupon.map (·.exactDiscount (unitPrice.cents * line.quantity))).getD 0
  sum : l.lineTotal.cents + l.discount.cents = unitPrice.cents * line.quantity
  discount_nonneg : 0 ≤ l.discount.cents
  lineTotal_nonneg : 0 ≤ l.lineTotal.cents
  subtotal : l.subtotal.map Money.cents = .ok (unitPrice.cents * line.quantity)
  productId : l.productId = line.productId
  quantity : l.quantity = line.quantity
  unitPrice : l.unitPrice = unitPrice
  couponId : l.couponId = coupon.map (·.id)

theorem discountBy_cents (coupon : Option Coupon) {subtotal : Money} (h : 0 ≤ subtotal.cents) :
    (discountBy coupon subtotal).cents =
      (coupon.map (·.exactDiscount subtotal.cents)).getD 0 := by
  cases coupon with
  | none => rfl
  | some c => exact c.discountFor_cents h

theorem exists_prices (coupon : Option Coupon) (h0 : 0 ≤ unitPrice.cents * line.quantity)
    (hroom : unitPrice.cents * line.quantity ≤ 9223372036854775807) :
    ∃ l, price line unitPrice coupon = .ok l ∧ l.Prices line unitPrice coupon := by
  have hfits : Fits (unitPrice.cents * line.quantity) := by omega
  have hsub := Money.saturated_cents hfits
  obtain ⟨hd0, hd⟩ := discountBy_bounds coupon (hsub ▸ h0)
  have hdiscount := discountBy_cents coupon (hsub ▸ h0)
  rw [hsub] at hd hdiscount
  refine ⟨_, price_ok coupon h0 hfits, ?_⟩
  generalize discountBy coupon _ = discount at hd0 hd hdiscount
  have htotal : (Money.saturated (unitPrice.cents * line.quantity - discount.cents)).cents =
      unitPrice.cents * line.quantity - discount.cents := Money.saturated_cents (by omega)
  have hsum : unitPrice.cents * line.quantity - discount.cents + discount.cents =
      unitPrice.cents * line.quantity := by omega
  constructor
  case discount => exact hdiscount
  case sum => rw [htotal, hsum]
  case discount_nonneg => exact hd0
  case lineTotal_nonneg => rw [htotal]; omega
  case subtotal =>
    rw [PricedLine.subtotal, Money.add, Money.checkedAdd, htotal, hsum, Money.ofCents?_fits hfits]
    exact congrArg Except.ok hsub
  all_goals rfl

theorem price_eq_too_large_iff (h0 : 0 ≤ unitPrice.cents * line.quantity) :
    price line unitPrice coupon = .error (.invalid (.lineTooLarge line.quantity unitPrice)) ↔
      9223372036854775807 < unitPrice.cents * line.quantity := by
  constructor
  · intro h
    by_contra hroom
    obtain ⟨l, hl, -⟩ := exists_prices coupon h0 (Int.not_lt.mp hroom)
    rw [hl] at h
    cases h
  · intro h
    exact price_too_large coupon (by omega)

/-- The line was priced from a number of pieces at a price that is not negative. -/
def Priced (l : PricedLine) : Prop :=
  ∃ line unitPrice coupon, 0 ≤ unitPrice.cents ∧ 1 ≤ line.quantity ∧
    price line unitPrice coupon = .ok l

theorem Priced.proper (h : l.Priced) : OrderTotals.Proper l := by
  obtain ⟨line, unitPrice, coupon, hprice, hquantity, h⟩ := h
  have h0 : 0 ≤ unitPrice.cents * line.quantity := Int.mul_nonneg hprice (by omega)
  by_cases hroom : unitPrice.cents * line.quantity ≤ 9223372036854775807
  · obtain ⟨l', hl', hprices⟩ := exists_prices coupon h0 hroom
    rw [h] at hl'
    cases hl'
    refine ⟨hprices.discount_nonneg, hprices.lineTotal_nonneg, ?_⟩
    rw [hprices.sum]
    omega
  · rw [price_eq_too_large_iff h0 |>.mpr (by omega)] at h
    cases h

end PricedLine

/-! ## Totals -/

namespace OrderTotals

variable {lines : List PricedLine}

/-- The totals are the sums of what stands in the lines. -/
structure Sums (t : OrderTotals) (lines : List PricedLine) : Prop where
  full : t.full.cents = fullOf lines
  discount : t.discount.cents = discountOf lines
  final : t.final.cents = (lines.map (·.lineTotal.cents)).sum
  final_nonneg : 0 ≤ t.final.cents
  final_le_full : t.final.cents ≤ t.full.cents

theorem fullOf_eq (lines : List PricedLine) :
    fullOf lines = (lines.map (·.lineTotal.cents)).sum + discountOf lines :=
  List.sum_map_add

theorem exists_sums (h : ∀ l ∈ lines, Proper l) (hroom : fullOf lines ≤ 9223372036854775807) :
    ∃ t, ofLines lines = .ok t ∧ t.Sums lines := by
  obtain ⟨hd0, hd⟩ := totals_bounds h
  have hfull := fullOf_eq lines
  refine ⟨_, (ofLines_eq h).trans (if_pos hroom), ?_⟩
  constructor
  · exact Money.saturated_cents (by omega)
  · exact Money.saturated_cents (by omega)
  · rw [Money.saturated_cents (by omega)]
    omega
  · rw [Money.saturated_cents (by omega)]
    omega
  · rw [Money.saturated_cents (by omega), Money.saturated_cents (by omega)]
    omega

theorem ofLines_eq_too_large_iff (h : ∀ l ∈ lines, Proper l) :
    ofLines lines = .error (.invalid .totalTooLarge) ↔ 9223372036854775807 < fullOf lines := by
  rw [ofLines_eq h]
  split
  · simp_all
  · simp_all

end OrderTotals

/-! ## The law -/

/-- A line is priced exactly unless 64 bits cannot hold its subtotal, and an order is totalled
exactly unless they cannot hold the sum of its subtotals; either is then a fault of the request.
No step that goes unchecked overflows, and discounts are never held between bounds that are out of
order. -/
theorem prices_and_totals_are_exact :
    (∀ (line : NewOrderLine) (unitPrice : Money) (coupon : Option Coupon),
      0 ≤ unitPrice.cents → 1 ≤ line.quantity →
      (PricedLine.price line unitPrice coupon =
          .error (.invalid (.lineTooLarge line.quantity unitPrice)) ↔
        9223372036854775807 < unitPrice.cents * line.quantity) ∧
      (unitPrice.cents * line.quantity ≤ 9223372036854775807 →
        ∃ l, PricedLine.price line unitPrice coupon = .ok l ∧ l.Prices line unitPrice coupon)) ∧
    (∀ lines : List PricedLine, (∀ l ∈ lines, l.Priced) →
      (OrderTotals.ofLines lines = .error (.invalid .totalTooLarge) ↔
        9223372036854775807 < OrderTotals.fullOf lines) ∧
      (OrderTotals.fullOf lines ≤ 9223372036854775807 →
        ∃ t, OrderTotals.ofLines lines = .ok t ∧ t.Sums lines)) ∧
    ∀ (c : Coupon) (subtotal : Money), Fits c.discount →
      c.discountSteps subtotal = .ok (c.discountFor subtotal) := by
  refine ⟨?_, ?_, ?_⟩
  · intro line unitPrice coupon hprice hquantity
    have h0 : 0 ≤ unitPrice.cents * line.quantity := Int.mul_nonneg hprice (by omega)
    exact ⟨PricedLine.price_eq_too_large_iff h0, PricedLine.exists_prices coupon h0⟩
  · intro lines h
    have hproper : ∀ l ∈ lines, OrderTotals.Proper l := fun l hl => (h l hl).proper
    exact ⟨OrderTotals.ofLines_eq_too_large_iff hproper, OrderTotals.exists_sums hproper⟩
  · intro c subtotal hfits
    exact c.discountSteps_eq subtotal hfits

/-- Half of 3.33, three pieces at 5.00 without a coupon, and the lowest percentage of the highest
amount. -/
theorem two_lines_are_priced_and_totalled :
    (∃ l, PricedLine.price ⟨1, 1, some 7⟩ ⟨333, by decide⟩
        (some ⟨7, 1, .percentage, 50, .used, 1⟩) = .ok l ∧ l.discount.cents = 167) ∧
    (∃ t, OrderTotals.ofLines
        [⟨1, 1, ⟨333, by decide⟩, some 7, ⟨167, by decide⟩, ⟨166, by decide⟩⟩,
          ⟨2, 3, ⟨500, by decide⟩, none, .zero, ⟨1500, by decide⟩⟩] = .ok t ∧
      t.final.cents = 1666) ∧
    Coupon.discountSteps ⟨7, 1, .percentage, -9223372036854775808, .used, 1⟩
        ⟨9223372036854775807, by decide⟩ = .ok .zero := by
  obtain ⟨prices, totals, steps⟩ := prices_and_totals_are_exact
  refine ⟨?_, ?_, ?_⟩
  · obtain ⟨-, h⟩ := prices ⟨1, 1, some 7⟩ ⟨333, by decide⟩
      (some ⟨7, 1, .percentage, 50, .used, 1⟩) (by decide) (by decide)
    obtain ⟨l, hprice, hl⟩ := h (by decide)
    exact ⟨l, hprice, hl.discount.trans (by decide +kernel)⟩
  · have hfirst : PricedLine.Priced
        ⟨1, 1, ⟨333, by decide⟩, some 7, ⟨167, by decide⟩, ⟨166, by decide⟩⟩ :=
      ⟨⟨1, 1, some 7⟩, ⟨333, by decide⟩, some ⟨7, 1, .percentage, 50, .used, 1⟩, by decide,
        by decide, rfl⟩
    have hsecond : PricedLine.Priced
        ⟨2, 3, ⟨500, by decide⟩, none, .zero, ⟨1500, by decide⟩⟩ :=
      ⟨⟨2, 3, none⟩, ⟨500, by decide⟩, none, by decide, by decide, rfl⟩
    obtain ⟨-, h⟩ := totals _
      (List.forall_mem_cons.mpr ⟨hfirst, List.forall_mem_singleton.mpr hsecond⟩)
    obtain ⟨t, htotal, ht⟩ := h (by decide)
    exact ⟨t, htotal, ht.final⟩
  · exact steps _ _ (by decide)

end Checkout
