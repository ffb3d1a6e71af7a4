-- Buying more never costs less. A discount grows with what it is taken off,
-- and never faster than that, across every place where cents are rounded and
-- at every bound that holds it.
import Checkout.Proofs.Pricing.Exact

namespace Checkout

/-! ## Rounding -/

namespace Money

theorem roundHundredths_mono {m n : Int} (h : m ≤ n) : roundHundredths m ≤ roundHundredths n := by
  simp only [roundHundredths]
  split <;> split <;> omega

theorem roundHundredths_nonpos {n : Int} (h : n ≤ 0) : roundHundredths n ≤ 0 := by
  simp only [roundHundredths]
  split <;> omega

theorem roundHundredths_whole (k : Int) : roundHundredths (100 * k) = k := by
  simp only [roundHundredths]
  split <;> omega

/-- From zero on, a whole one more is a whole one more when it is rounded. Below zero that fails,
as the halves on either side of zero are rounded away from each other. -/
theorem roundHundredths_add_whole {n k : Int} (hn : 0 ≤ n) (hk : 0 ≤ k) :
    roundHundredths (n + 100 * k) = roundHundredths n + k := by
  simp only [roundHundredths]
  rw [if_neg (by omega), if_neg (by omega)]
  omega

end Money

/-! ## Discounts -/

namespace Coupon

variable {s t : Money}

/-- Nothing is taken off where there is nothing. -/
theorem discountFor_of_neg (c : Coupon) (h : s.cents < 0) : (c.discountFor s).cents = 0 := by
  have hneg : s.isNegative = true := by simpa [Money.isNegative] using h
  unfold discountFor CouponKind.discountFor
  rw [hneg, if_pos rfl, Money.clamp_cents _ (by simp)]
  simp only [Money.zero_cents]
  omega

theorem discountFor_percentage (number : Int) (h : 0 ≤ s.cents) :
    (CouponKind.percentage.discountFor number s).cents =
      min (max (Money.roundHundredths (s.cents * number)) 0) s.cents := by
  unfold CouponKind.discountFor
  simp only [Money.isNegative_eq_false h, Bool.false_eq_true, if_false]
  exact Money.clamp_saturated _ h

/-- What a percentage takes off grows no faster than what it is taken off. Above a hundred it takes
all there is, and below zero nothing, so that rounding counts in between only. -/
theorem percentage_growth (number : Int) {low high : Int} (h0 : 0 ≤ low) (h : low ≤ high) :
    min (max (Money.roundHundredths (low * number)) 0) low ≤
        min (max (Money.roundHundredths (high * number)) 0) high ∧
      min (max (Money.roundHundredths (high * number)) 0) high -
        min (max (Money.roundHundredths (low * number)) 0) low ≤ high - low := by
  rcases lt_or_ge number 0 with hneg | hpos
  · have hlow := Money.roundHundredths_nonpos
      (Int.mul_nonpos_of_nonneg_of_nonpos h0 (by omega : number ≤ 0))
    have hhigh := Money.roundHundredths_nonpos
      (Int.mul_nonpos_of_nonneg_of_nonpos (by omega : 0 ≤ high) (by omega : number ≤ 0))
    omega
  have hmono := Money.roundHundredths_mono (Int.mul_le_mul_of_nonneg_right h hpos)
  rcases le_or_gt number 100 with hwhole | hbeyond
  · have hgain : high * number ≤ low * number + 100 * (high - low) := by
      have := Int.mul_le_mul_of_nonneg_left hwhole (by omega : 0 ≤ high - low)
      rw [Int.sub_mul] at this
      omega
    have hstep := Money.roundHundredths_mono hgain
    rw [Money.roundHundredths_add_whole (Int.mul_nonneg h0 hpos) (by omega)] at hstep
    omega
  · have hall {k : Int} (hk : 0 ≤ k) : k ≤ Money.roundHundredths (k * number) := by
      have := Money.roundHundredths_mono
        (Int.mul_le_mul_of_nonneg_left (by omega : 100 ≤ number) hk)
      rwa [Int.mul_comm, Money.roundHundredths_whole] at this
    have := hall h0
    have := hall (by omega : 0 ≤ high)
    omega

/-- A discount grows with the subtotal, and no faster. -/
theorem discountFor_growth (c : Coupon) (h : s ≤ t) :
    c.discountFor s ≤ c.discountFor t ∧
      (c.discountFor t).cents - (c.discountFor s).cents ≤ t.cents - s.cents := by
  have hcents : s.cents ≤ t.cents := h
  change (c.discountFor s).cents ≤ (c.discountFor t).cents ∧ _
  rcases lt_or_ge s.cents 0 with hs | hs
  · rw [c.discountFor_of_neg hs]
    rcases lt_or_ge t.cents 0 with ht | ht
    · rw [c.discountFor_of_neg ht]
      omega
    · have := discountFor_bounds c.kind c.discount ht
      unfold discountFor
      omega
  have ht : 0 ≤ t.cents := by omega
  cases hkind : c.kind with
  | fixedAmount =>
    rw [c.discountFor_cents hs, c.discountFor_cents ht]
    simp only [exactDiscount, hkind]
    omega
  | percentage =>
    unfold discountFor
    rw [hkind, discountFor_percentage _ hs, discountFor_percentage _ ht]
    exact percentage_growth c.discount hs hcents

/-- A higher percentage takes no less off. -/
theorem percentage_mono (subtotal : Money) {few many : Int} (h : few ≤ many) :
    CouponKind.percentage.discountFor few subtotal ≤
      CouponKind.percentage.discountFor many subtotal := by
  change (CouponKind.percentage.discountFor few subtotal).cents ≤
    (CouponKind.percentage.discountFor many subtotal).cents
  rcases lt_or_ge subtotal.cents 0 with hneg | hpos
  · have hnone (number : Int) : (CouponKind.percentage.discountFor number subtotal).cents = 0 :=
      discountFor_of_neg ⟨0, 0, .percentage, number, .unused, 0⟩ hneg
    rw [hnone, hnone]
  · have hmono := Money.roundHundredths_mono (Int.mul_le_mul_of_nonneg_left h hpos)
    rw [discountFor_percentage _ hpos, discountFor_percentage _ hpos]
    omega

end Coupon

/-! ## Lines -/

namespace PricedLine

variable {line : NewOrderLine} {unitPrice : Money}

/-- With a coupon or without one, what is taken off grows with the subtotal, and no faster. -/
theorem discountBy_growth (coupon : Option Coupon) {s t : Money} (h : s ≤ t) :
    discountBy coupon s ≤ discountBy coupon t ∧
      (discountBy coupon t).cents - (discountBy coupon s).cents ≤ t.cents - s.cents := by
  cases coupon with
  | none =>
    have hcents : s.cents ≤ t.cents := h
    refine ⟨Int.le_refl 0, ?_⟩
    simpa [discountBy] using hcents
  | some c => exact c.discountFor_growth h

theorem discountBy_of_neg (coupon : Option Coupon) {subtotal : Money} (h : subtotal.cents < 0) :
    (discountBy coupon subtotal).cents = 0 := by
  cases coupon with
  | none => rfl
  | some c => exact c.discountFor_of_neg h

/-- A line is priced whenever 64 bits hold its subtotal, be it below zero. -/
theorem exists_price (coupon : Option Coupon) (hfits : Fits (unitPrice.cents * line.quantity)) :
    ∃ l, price line unitPrice coupon = .ok l ∧
      l.discount = discountBy coupon (.saturated (unitPrice.cents * line.quantity)) ∧
      l.lineTotal.cents = unitPrice.cents * line.quantity - l.discount.cents := by
  have hsub := Money.saturated_cents hfits
  rcases lt_or_ge (unitPrice.cents * line.quantity) 0 with hneg | hpos
  · have hnone := discountBy_of_neg coupon (hsub ▸ hneg)
    refine ⟨_, price_of_left coupon (.saturated (unitPrice.cents * line.quantity)) hfits ?_,
      rfl, ?_⟩
    · rw [Money.sub, Money.checkedSub, hsub, hnone, Int.sub_zero, Money.ofCents?_fits hfits]
      rfl
    · rw [hsub, hnone, Int.sub_zero]
  · obtain ⟨hd0, hd⟩ := discountBy_bounds coupon (hsub ▸ hpos)
    rw [hsub] at hd
    refine ⟨_, price_ok coupon hpos hfits, rfl, Money.saturated_cents ?_⟩
    omega

/-- More pieces at one price, with one coupon or none, come to no smaller discount and to no
smaller total. -/
theorem price_mono {few many : NewOrderLine} (coupon : Option Coupon) (hprice : 0 ≤ unitPrice.cents)
    (hquantity : few.quantity ≤ many.quantity) (hfew : Fits (unitPrice.cents * few.quantity))
    (hmany : Fits (unitPrice.cents * many.quantity)) :
    ∃ l l', price few unitPrice coupon = .ok l ∧ price many unitPrice coupon = .ok l' ∧
      l.discount ≤ l'.discount ∧ l.lineTotal ≤ l'.lineTotal := by
  obtain ⟨l, hl, hdiscount, htotal⟩ := exists_price coupon hfew
  obtain ⟨l', hl', hdiscount', htotal'⟩ := exists_price coupon hmany
  have hsubtotal : Money.saturated (unitPrice.cents * few.quantity) ≤
      Money.saturated (unitPrice.cents * many.quantity) := by
    change Money.cents _ ≤ Money.cents _
    rw [Money.saturated_cents hfew, Money.saturated_cents hmany]
    exact Int.mul_le_mul_of_nonneg_left hquantity hprice
  obtain ⟨hmono, hslope⟩ := discountBy_growth coupon hsubtotal
  rw [Money.saturated_cents hfew, Money.saturated_cents hmany, ← hdiscount, ← hdiscount'] at hslope
  refine ⟨l, l', hl, hl', ?_, ?_⟩
  · rw [hdiscount, hdiscount']
    exact hmono
  · change l.lineTotal.cents ≤ l'.lineTotal.cents
    omega

end PricedLine

/-! ## The law -/

/-- A discount grows with the subtotal and never by more than the subtotal does, whatever the
coupon says, be it a valid one or not. So more pieces at one price never cost less, as long as
64 bits hold what they cost without the coupon. And a higher percentage takes no less off. -/
theorem buying_more_never_costs_less :
    (∀ (c : Coupon) (s t : Money), s ≤ t →
      c.discountFor s ≤ c.discountFor t ∧
      (c.discountFor t).cents - (c.discountFor s).cents ≤ t.cents - s.cents) ∧
    (∀ (few many : NewOrderLine) (unitPrice : Money) (coupon : Option Coupon),
      0 ≤ unitPrice.cents → few.quantity ≤ many.quantity →
      Fits (unitPrice.cents * few.quantity) → Fits (unitPrice.cents * many.quantity) →
      ∃ l l', PricedLine.price few unitPrice coupon = .ok l ∧
        PricedLine.price many unitPrice coupon = .ok l' ∧
        l.discount ≤ l'.discount ∧ l.lineTotal ≤ l'.lineTotal) ∧
    ∀ (few many : Int) (subtotal : Money), few ≤ many →
      CouponKind.percentage.discountFor few subtotal ≤
        CouponKind.percentage.discountFor many subtotal := by
  refine ⟨?_, ?_, ?_⟩
  · intro c s t h
    exact c.discountFor_growth h
  · intro few many unitPrice coupon hprice hquantity hfew hmany
    exact PricedLine.price_mono coupon hprice hquantity hfew hmany
  · intro few many subtotal h
    exact Coupon.percentage_mono subtotal h

/-- At 99 percent one cent is free and so are 50, where 51 are the first to cost a cent. Two pieces
of 50 cents cost no less than one. And 99 percent take no less off than 98. -/
theorem one_more_cent_is_never_a_loss :
    (Coupon.discountFor ⟨7, 1, .percentage, 99, .used, 1⟩ ⟨50, by decide⟩).cents = 50 ∧
    (Coupon.discountFor ⟨7, 1, .percentage, 99, .used, 1⟩ ⟨51, by decide⟩).cents = 50 ∧
    Coupon.discountFor ⟨7, 1, .percentage, 99, .used, 1⟩ ⟨50, by decide⟩ ≤
      Coupon.discountFor ⟨7, 1, .percentage, 99, .used, 1⟩ ⟨51, by decide⟩ ∧
    (∃ l l', PricedLine.price ⟨1, 1, some 7⟩ ⟨50, by decide⟩
        (some ⟨7, 1, .percentage, 99, .used, 1⟩) = .ok l ∧
      PricedLine.price ⟨1, 2, some 7⟩ ⟨50, by decide⟩
        (some ⟨7, 1, .percentage, 99, .used, 1⟩) = .ok l' ∧
      l.discount ≤ l'.discount ∧ l.lineTotal ≤ l'.lineTotal) ∧
    CouponKind.percentage.discountFor 98 ⟨50, by decide⟩ ≤
      CouponKind.percentage.discountFor 99 ⟨50, by decide⟩ := by
  obtain ⟨discounts, lines, percentages⟩ := buying_more_never_costs_less
  refine ⟨by decide, by decide, ?_, ?_, ?_⟩
  · exact (discounts _ _ _ (by decide)).1
  · exact lines _ _ _ _ (by decide) (by decide) (by decide) (by decide)
  · exact percentages _ _ _ (by decide)

end Checkout
