-- Prices of lines and totals of orders: a line is priced exactly if 64 bits
-- hold its subtotal, and an order is totalled exactly if they hold the sum of
-- its subtotals. A discount never takes more than there is.
import Checkout.Pricing
import Checkout.Proofs.Money
import Mathlib.Algebra.Ring.Int.Defs

namespace Checkout

/-! ## Discounts -/

theorem discountFor_bounds (kind : CouponKind) (number : Int) {subtotal : Money}
    (h : 0 ≤ subtotal.cents) :
    0 ≤ (kind.discountFor number subtotal).cents ∧
      (kind.discountFor number subtotal).cents ≤ subtotal.cents := by
  have hclamp (m : Money) :
      0 ≤ (m.clamp .zero subtotal).cents ∧ (m.clamp .zero subtotal).cents ≤ subtotal.cents := by
    rw [m.clamp_cents h]
    omega
  unfold CouponKind.discountFor
  simp only [Money.isNegative_eq_false h, Bool.false_eq_true, if_false]
  exact hclamp _

/-! ## One line -/

namespace PricedLine

variable {line : NewOrderLine} {unitPrice : Money}

/-- What a coupon, if there is one, takes off a subtotal. -/
def discountBy (coupon : Option Coupon) (subtotal : Money) : Money :=
  (coupon.map (·.discountFor subtotal)).getD .zero

theorem discountBy_bounds (coupon : Option Coupon) {subtotal : Money} (h : 0 ≤ subtotal.cents) :
    0 ≤ (discountBy coupon subtotal).cents ∧
      (discountBy coupon subtotal).cents ≤ subtotal.cents := by
  cases coupon with
  | none => exact ⟨Int.le_refl 0, h⟩
  | some c => exact discountFor_bounds c.kind c.discount h

/-- A line is priced once its discount can be taken off its subtotal. -/
theorem price_of_left (coupon : Option Coupon) (left : Money)
    (hfits : Fits (unitPrice.cents * line.quantity))
    (hleft : (Money.saturated (unitPrice.cents * line.quantity)).sub
      (discountBy coupon (.saturated (unitPrice.cents * line.quantity))) = .ok left) :
    price line unitPrice coupon =
      .ok { productId := line.productId
            quantity := line.quantity
            unitPrice
            couponId := coupon.map (·.id)
            discount := discountBy coupon (.saturated (unitPrice.cents * line.quantity))
            lineTotal := left } := by
  have hmul : unitPrice.checkedMul line.quantity =
      some (.saturated (unitPrice.cents * line.quantity)) := Money.ofCents?_fits hfits
  unfold price
  rw [hmul]
  cases coupon with
  | none =>
    have hzero : (Money.saturated (unitPrice.cents * line.quantity)).sub .zero = .ok left := hleft
    simp only [bind, Except.bind, hzero]
    rfl
  | some c =>
    have hdiscount : (Money.saturated (unitPrice.cents * line.quantity)).sub
        (c.discountFor (.saturated (unitPrice.cents * line.quantity))) = .ok left := hleft
    simp only [bind, Except.bind, hdiscount]
    rfl

theorem price_ok (coupon : Option Coupon) (h0 : 0 ≤ unitPrice.cents * line.quantity)
    (hfits : Fits (unitPrice.cents * line.quantity)) :
    price line unitPrice coupon =
      let discount := discountBy coupon (.saturated (unitPrice.cents * line.quantity))
      .ok { productId := line.productId
            quantity := line.quantity
            unitPrice
            couponId := coupon.map (·.id)
            discount
            lineTotal := .saturated (unitPrice.cents * line.quantity - discount.cents) } := by
  have hsub : (Money.saturated (unitPrice.cents * line.quantity)).cents =
      unitPrice.cents * line.quantity := Money.saturated_cents hfits
  obtain ⟨hd0, hd⟩ := discountBy_bounds coupon (hsub ▸ h0)
  rw [hsub] at hd
  apply price_of_left coupon _ hfits
  rw [Money.sub, Money.checkedSub, hsub, Money.ofCents?_fits (by omega)]
  rfl

theorem price_too_large (coupon : Option Coupon) (h : ¬ Fits (unitPrice.cents * line.quantity)) :
    price line unitPrice coupon = .error (.invalid (.lineTooLarge line.quantity unitPrice)) := by
  have hmul : unitPrice.checkedMul line.quantity = none := Money.ofCents?_not_fits h
  simp only [price, hmul, bind, Except.bind]

end PricedLine

/-! ## A whole order -/

namespace OrderTotals

/-- A line whose amounts are not negative and whose subtotal 64 bits hold. -/
structure Proper (l : PricedLine) : Prop where
  discount_nonneg : 0 ≤ l.discount.cents
  lineTotal_nonneg : 0 ≤ l.lineTotal.cents
  subtotal_fits : Fits (l.lineTotal.cents + l.discount.cents)

/-- The sum of what the lines would cost without their coupons. -/
def fullOf (lines : List PricedLine) : Int :=
  (lines.map fun l => l.lineTotal.cents + l.discount.cents).sum

def discountOf (lines : List PricedLine) : Int := (lines.map (·.discount.cents)).sum

theorem totals_bounds {lines : List PricedLine} (h : ∀ l ∈ lines, Proper l) :
    0 ≤ discountOf lines ∧ discountOf lines ≤ fullOf lines := by
  induction lines with
  | nil => exact ⟨Int.le_refl 0, Int.le_refl 0⟩
  | cons l lines ih =>
    have ih := ih fun x hx => h x (List.mem_cons_of_mem l hx)
    have hl := h l List.mem_cons_self
    have := hl.discount_nonneg
    have := hl.lineTotal_nonneg
    simp only [discountOf, fullOf, List.map_cons, List.sum_cons] at ih ⊢
    omega

theorem addLine_eq {l : PricedLine} (full discount : Money) (h : Proper l)
    (h0 : 0 ≤ discount.cents) (hle : discount.cents ≤ full.cents) :
    addLine (full, discount) l =
      if full.cents + (l.lineTotal.cents + l.discount.cents) ≤ 9223372036854775807 then
        .ok (.saturated (full.cents + (l.lineTotal.cents + l.discount.cents)),
          .saturated (discount.cents + l.discount.cents))
      else .error (.invalid .totalTooLarge) := by
  obtain ⟨hd, ht, hs⟩ := h
  have hsub : Fault.ofOverflow l.subtotal =
      .ok (.saturated (l.lineTotal.cents + l.discount.cents)) := by
    rw [PricedLine.subtotal, Money.add, Money.checkedAdd, Money.ofCents?_fits hs]
    rfl
  simp only [addLine, hsub, bind, Except.bind, addWithin, Money.checkedAdd,
    Money.saturated_cents hs]
  by_cases hroom : full.cents + (l.lineTotal.cents + l.discount.cents) ≤ 9223372036854775807
  · rw [Money.ofCents?_fits (by omega), Money.ofCents?_fits (by omega), if_pos hroom]
    rfl
  · rw [Money.ofCents?_not_fits (by omega), if_neg hroom]

theorem foldlM_addLine {lines : List PricedLine} (full discount : Money)
    (h : ∀ l ∈ lines, Proper l) (h0 : 0 ≤ discount.cents) (hle : discount.cents ≤ full.cents) :
    lines.foldlM addLine (full, discount) =
      if full.cents + fullOf lines ≤ 9223372036854775807 then
        .ok (.saturated (full.cents + fullOf lines), .saturated (discount.cents + discountOf lines))
      else .error (.invalid .totalTooLarge) := by
  induction lines generalizing full discount with
  | nil =>
    have := full.fits
    simp only [List.foldlM_nil, fullOf, discountOf, List.map_nil, List.sum_nil, Int.add_zero,
      Money.saturated_of_cents]
    rw [if_pos (by omega)]
    rfl
  | cons l lines ih =>
    have hrest : ∀ x ∈ lines, Proper x := fun x hx => h x (List.mem_cons_of_mem l hx)
    have hl := h l List.mem_cons_self
    have hd := hl.discount_nonneg
    have ht := hl.lineTotal_nonneg
    obtain ⟨hb0, hb⟩ := totals_bounds hrest
    have hf : fullOf (l :: lines) = l.lineTotal.cents + l.discount.cents + fullOf lines := rfl
    have hdis : discountOf (l :: lines) = l.discount.cents + discountOf lines := rfl
    rw [List.foldlM_cons, addLine_eq full discount hl h0 hle, hf, hdis]
    by_cases hroom : full.cents + (l.lineTotal.cents + l.discount.cents) ≤ 9223372036854775807
    · have hfull : (Money.saturated (full.cents + (l.lineTotal.cents + l.discount.cents))).cents =
          full.cents + (l.lineTotal.cents + l.discount.cents) :=
        Money.saturated_cents (by omega)
      have hdisc : (Money.saturated (discount.cents + l.discount.cents)).cents =
          discount.cents + l.discount.cents := Money.saturated_cents (by omega)
      rw [if_pos hroom]
      simp only [bind, Except.bind]
      rw [ih _ _ hrest (by omega) (by omega), hfull, hdisc]
      simp only [Int.add_assoc]
    · rw [if_neg hroom, if_neg (by omega)]
      rfl

/-- An order is totalled exactly if 64 bits hold the sum of its subtotals. -/
theorem ofLines_eq {lines : List PricedLine} (h : ∀ l ∈ lines, Proper l) :
    ofLines lines =
      if fullOf lines ≤ 9223372036854775807 then
        .ok { full := .saturated (fullOf lines)
              discount := .saturated (discountOf lines)
              final := .saturated (fullOf lines - discountOf lines) }
      else .error (.invalid .totalTooLarge) := by
  obtain ⟨hb0, hb⟩ := totals_bounds h
  simp only [ofLines, foldlM_addLine .zero .zero h (Int.le_refl 0) (Int.le_refl 0),
    Money.zero_cents, Int.zero_add]
  by_cases hroom : fullOf lines ≤ 9223372036854775807
  · have hsub : Fault.ofOverflow ((Money.saturated (fullOf lines)).sub
        (.saturated (discountOf lines))) =
        .ok (.saturated (fullOf lines - discountOf lines)) := by
      rw [Money.sub, Money.checkedSub, Money.saturated_cents (by omega),
        Money.saturated_cents (by omega), Money.ofCents?_fits (by omega)]
      rfl
    rw [if_pos hroom, if_pos hroom]
    simp only [bind, Except.bind, hsub]
    rfl
  · rw [if_neg hroom, if_neg hroom]
    rfl

end OrderTotals

end Checkout
