-- When there is no objection to an order: exactly if everything that it names
-- is there and good, and the stock, the 64 bits and the points suffice for
-- all of its lines together.
import Checkout.Proofs.Store.Placing
import Mathlib.Algebra.Order.BigOperators.Group.List
import Mathlib.Algebra.Order.Group.Int

namespace Checkout

open Store

/-- The order is well formed, and asks the tables for nothing that they do not have. -/
structure NewOrder.Admissible (order : NewOrder) (t : Tables) : Prop where
  well_formed : order.WellFormed
  user : order.userId ∈ t.keys User
  coupon : ∀ l ∈ order.lines, ∀ id ∈ l.couponId,
    ∃ c ∈ t.coupons, c.id = id ∧ c.ownerId = order.userId ∧ c.status = .unused
  product : ∀ l ∈ order.lines,
    ∃ p ∈ t.products, p.id = l.productId ∧ p.deleted = false ∧
      askedOf order.lines l.productId ≤ p.stock
  full_fits : t.fullTotal order.lines ≤ 9223372036854775807
  due_covered : t.dueTotal order.lines ≤ (t.pointsOf order.userId).cents

namespace Store

variable {t : Tables}

/-! ## Stock for all lines together -/

theorem askedOf_append (lines more : List NewOrderLine) (id : Id) :
    askedOf (lines ++ more) id = askedOf lines id + askedOf more id :=
  tally_append _ _ lines more

theorem askedOf_cons (line : NewOrderLine) (lines : List NewOrderLine) (id : Id) :
    askedOf (line :: lines) id = (if id = line.productId then line.quantity else 0) +
      askedOf lines id := by
  rw [askedOf, tally_cons]
  by_cases hid : id = line.productId
  · simp [hid, askedOf]
  · simp [hid, Ne.symm hid, askedOf]

theorem askedOf_eq_zero {lines : List NewOrderLine} {id : Id} (h : ∀ l ∈ lines, l.productId ≠ id) :
    askedOf lines id = 0 :=
  tally_eq_zero _ fun l hl => by simpa using h l hl

/-- A product of an id is for sale, and has so much of it in stock. -/
def HasStock (t : Tables) (id : Id) (quantity : Int) : Prop :=
  ∃ p : Product, t.find? id = some p ∧ p.deleted = false ∧ quantity ≤ p.stock

theorem stockObjection_eq_none_iff {earlier : List NewOrderLine} {line : NewOrderLine} :
    line.stockObjection t earlier = none ↔
      HasStock t line.productId (askedOf earlier line.productId + line.quantity) := by
  constructor
  · exact stockObjection_eq_none
  · rintro ⟨p, hp, hd, hle⟩
    have hsale : (!p.deleted) = true := by simp [hd]
    simp only [NewOrderLine.stockObjection, hp, Option.filter_some, hsale, if_true]
    rw [if_pos (by omega)]

/-- Each line finds enough stock after those before it exactly if there is enough for all. The
last line that names a product speaks for all lines that do. -/
theorem objectionToStock_eq_none_iff (lines earlier : List NewOrderLine)
    (h : ∀ l ∈ lines, 0 ≤ l.quantity) :
    objectionToLines (NewOrderLine.stockObjection t) earlier lines = none ↔
      ∀ l ∈ lines, HasStock t l.productId (askedOf (earlier ++ lines) l.productId) := by
  induction lines generalizing earlier with
  | nil => simp [objectionToLines]
  | cons line lines ih =>
    have hrest : ∀ l ∈ lines, 0 ≤ l.quantity := fun l hl => h l (List.mem_cons_of_mem line hl)
    have hsplit : earlier ++ [line] ++ lines = earlier ++ line :: lines := by simp
    rw [objectionToLines, Option.or_eq_none_iff, stockObjection_eq_none_iff,
      ih (earlier ++ [line]) hrest, List.forall_mem_cons, hsplit]
    have htotal : askedOf (earlier ++ line :: lines) line.productId =
        askedOf earlier line.productId + line.quantity + askedOf lines line.productId := by
      rw [askedOf_append, askedOf_cons, if_pos rfl]
      omega
    constructor
    · rintro ⟨⟨p, hp, hd, hle⟩, hlines⟩
      refine ⟨?_, hlines⟩
      by_cases hlater : ∃ l ∈ lines, l.productId = line.productId
      · obtain ⟨l, hl, hid⟩ := hlater
        rw [← hid]
        exact hlines l hl
      · refine ⟨p, hp, hd, ?_⟩
        rw [htotal, askedOf_eq_zero fun l hl hid => hlater ⟨l, hl, hid⟩]
        omega
    · rintro ⟨⟨p, hp, hd, hle⟩, hlines⟩
      refine ⟨⟨p, hp, hd, ?_⟩, hlines⟩
      have := askedOf_nonneg hrest line.productId
      omega

/-! ## Coupons -/

theorem couponObjection_eq_none_iff {userId : Id} {line : NewOrderLine} :
    line.couponObjection t userId = none ↔
      ∀ id ∈ line.couponId, ∃ c : Coupon, t.find? id = some c ∧ c.ownerId = userId := by
  constructor
  · exact couponObjection_eq_none
  · intro h
    cases hid : line.couponId with
    | none => simp [NewOrderLine.couponObjection, hid]
    | some id =>
      obtain ⟨c, hc, ho⟩ := h id hid
      simp [NewOrderLine.couponObjection, hid, hc, ho, Option.filter_some]

theorem priceObjection_eq_none_iff {line : NewOrderLine} :
    line.priceObjection t = none ↔
      (∀ c ∈ t.couponOf line, c.isUsed = false) ∧ Fits (t.subtotalOf line) := by
  constructor
  · exact priceObjection_eq_none
  · rintro ⟨hunused, hfits⟩
    have hnone : (t.couponOf line).filter (·.isUsed) = none := by
      rw [Option.filter_eq_none_iff]
      intro c hc
      simp [hunused c hc]
    simp only [NewOrderLine.priceObjection, hnone, if_pos hfits]

theorem find?_coupon_iff (hn : (t.keys Coupon).Nodup) (id : Id) (c : Coupon) :
    t.find? id = some c ↔ c ∈ t.coupons ∧ c.id = id := by
  constructor
  · exact Tables.find?_eq_some
  · rintro ⟨hm, rfl⟩
    exact Tables.find?_of_mem hn hm

theorem find?_product_iff (hn : (t.keys Product).Nodup) (id : Id) (p : Product) :
    t.find? id = some p ↔ p ∈ t.products ∧ p.id = id := by
  constructor
  · exact Tables.find?_eq_some
  · rintro ⟨hm, rfl⟩
    exact Tables.find?_of_mem hn hm

theorem isUsed_eq_false_iff (c : Coupon) : c.isUsed = false ↔ c.status = .unused := by
  cases hs : c.status <;> simp [Coupon.isUsed, hs]

/-! ## The order as a whole -/

theorem subtotalOf_le_fullTotal {lines : List NewOrderLine} (h : ∀ l ∈ lines, 0 ≤ t.subtotalOf l) :
    ∀ l ∈ lines, t.subtotalOf l ≤ t.fullTotal lines := by
  intro l hl
  apply List.single_le_sum _ _ (List.mem_map_of_mem hl)
  rintro subtotal hs
  obtain ⟨line, hline, rfl⟩ := List.mem_map.mp hs
  exact h line hline

theorem placingObjection_eq_none_iff {order : NewOrder} (hnum : t.Numbered) (hstock : t.Stocked)
    (hw : order.WellFormed) : order.placingObjection t = none ↔ order.Admissible t := by
  have hquantity : ∀ l ∈ order.lines, 0 ≤ l.quantity := fun l hl => by
    have := (hw.quantity_in_range l hl).1
    omega
  have hsubtotal : ∀ l ∈ order.lines, 0 ≤ t.subtotalOf l :=
    fun l hl => subtotalOf_nonneg hstock (hquantity l hl)
  simp only [NewOrder.placingObjection, Option.or_eq_none_iff, objectionToLines_const,
    objectionToStock_eq_none_iff order.lines [] hquantity, couponObjection_eq_none_iff,
    priceObjection_eq_none_iff, List.nil_append, ite_eq_left_iff, reduceCtorEq, imp_false,
    not_not, Tables.has_iff, HasStock, find?_coupon_iff hnum.coupons.nodup,
    find?_product_iff hnum.products.nodup]
  constructor
  · rintro ⟨huser, howned, hstocked, hpriced, hfull, hdue⟩
    refine ⟨hw, huser, ?_, ?_, hfull, hdue⟩
    · intro l hl id hid
      obtain ⟨c, ⟨hm, rfl⟩, ho⟩ := howned l hl id hid
      have hc : t.couponOf l = some c := by
        rw [Tables.couponOf, hid, Option.bind_some]
        exact Tables.find?_of_mem hnum.coupons.nodup hm
      exact ⟨c, hm, rfl, ho, (isUsed_eq_false_iff c).mp ((hpriced l hl).1 c hc)⟩
    · intro l hl
      obtain ⟨p, ⟨hm, hid⟩, hd, hle⟩ := hstocked l hl
      exact ⟨p, hm, hid, hd, hle⟩
  · rintro ⟨-, huser, hcoupon, hproduct, hfull, hdue⟩
    refine ⟨huser, ?_, ?_, ?_, hfull, hdue⟩
    · intro l hl id hid
      obtain ⟨c, hm, hcid, ho, -⟩ := hcoupon l hl id hid
      exact ⟨c, ⟨hm, hcid⟩, ho⟩
    · intro l hl
      obtain ⟨p, hm, hid, hd, hle⟩ := hproduct l hl
      exact ⟨p, ⟨hm, hid⟩, hd, hle⟩
    · intro l hl
      constructor
      · intro c hc
        obtain ⟨id, hid, hfind⟩ := Option.bind_eq_some_iff.mp hc
        obtain ⟨other, hm, hcid, -, hs⟩ := hcoupon l hl id hid
        rw [(find?_coupon_iff hnum.coupons.nodup id other).mpr ⟨hm, hcid⟩] at hfind
        cases hfind
        exact (isUsed_eq_false_iff c).mpr hs
      · have := hsubtotal l hl
        have := subtotalOf_le_fullTotal hsubtotal l hl
        constructor <;> omega

/-- There is no objection to an order exactly if it can be placed. -/
theorem objection_eq_none_iff (order : NewOrder) (hnum : t.Numbered) (hstock : t.Stocked) :
    order.objection t = none ↔ order.Admissible t := by
  rw [NewOrder.objection, Option.or_eq_none_iff, NewOrder.shapeObjection_eq_none_iff]
  constructor
  · rintro ⟨hw, hfine⟩
    exact (placingObjection_eq_none_iff hnum hstock hw).mp hfine
  · intro h
    exact ⟨h.well_formed, (placingObjection_eq_none_iff hnum hstock h.well_formed).mpr h⟩

end Store

/-! ## What an admissible order comes to -/

namespace NewOrder.Admissible

variable {t : Tables} {order : NewOrder} (h : order.Admissible t)
include h

theorem quantity_nonneg : ∀ l ∈ order.lines, 0 ≤ l.quantity := by
  intro l hl
  have := (h.well_formed.quantity_in_range l hl).1
  omega

theorem subtotal_nonneg (hstock : t.Stocked) : ∀ l ∈ order.lines, 0 ≤ t.subtotalOf l :=
  fun l hl => subtotalOf_nonneg hstock (h.quantity_nonneg l hl)

theorem subtotal_fits (hstock : t.Stocked) : ∀ l ∈ order.lines, Fits (t.subtotalOf l) := by
  intro l hl
  have := h.subtotal_nonneg hstock l hl
  have := subtotalOf_le_fullTotal (h.subtotal_nonneg hstock) l hl
  have := h.full_fits
  constructor <;> omega

theorem due_bounds (hstock : t.Stocked) :
    0 ≤ t.dueTotal order.lines ∧ t.dueTotal order.lines ≤ 9223372036854775807 := by
  have := dueTotal_bounds (h.subtotal_nonneg hstock) (h.subtotal_fits hstock)
  have := h.full_fits
  omega

/-- The total of the order is exact. -/
theorem due_cents (hstock : t.Stocked) :
    (Money.saturated (t.dueTotal order.lines)).cents = t.dueTotal order.lines := by
  have := h.due_bounds hstock
  exact Money.saturated_cents (by omega)

/-- The debit of the order is exact. -/
theorem debit_cents (hstock : t.Stocked) :
    (Money.saturated (t.dueTotal order.lines)).opposite.cents = -t.dueTotal order.lines := by
  have := h.due_bounds hstock
  rw [Money.opposite, h.due_cents hstock]
  exact Money.saturated_cents (by omega)

theorem points_left (hstock : t.Stocked) : ((t.pointsOf order.userId).plus
      (Money.saturated (t.dueTotal order.lines)).opposite).cents =
    (t.pointsOf order.userId).cents - t.dueTotal order.lines := by
  have := h.due_bounds hstock
  have := h.due_covered
  have := (t.pointsOf order.userId).fits
  rw [Money.plus, h.debit_cents hstock]
  exact Money.saturated_cents (by omega)

theorem totals_cents (hstock : t.Stocked) :
    (Money.saturated (t.fullTotal order.lines)).cents = t.fullTotal order.lines ∧
      (Money.saturated (t.discountTotal order.lines)).cents = t.discountTotal order.lines := by
  have hdue := dueTotal_bounds (h.subtotal_nonneg hstock) (h.subtotal_fits hstock)
  have hfull := h.full_fits
  rw [dueTotal_eq] at hdue
  exact ⟨Money.saturated_cents (by omega), Money.saturated_cents (by omega)⟩

/-- No product is asked for beyond its stock, by all lines together. -/
theorem asked_le_stock (hn : (t.keys Product).Nodup) (hnonneg : ∀ p ∈ t.products, 0 ≤ p.stock) :
    ∀ p ∈ t.products, askedOf order.lines p.id ≤ p.stock := by
  intro p hp
  by_cases hasked : ∃ l ∈ order.lines, l.productId = p.id
  · obtain ⟨l, hl, hid⟩ := hasked
    obtain ⟨other, hm, hother, -, hle⟩ := h.product l hl
    have hsame : other = p := List.inj_on_of_nodup_map hn hm hp (hother.trans hid)
    rw [hid, hsame] at hle
    exact hle
  · rw [askedOf_eq_zero fun l hl hid => hasked ⟨l, hl, hid⟩]
    exact hnonneg p hp

theorem product_mem : ∀ l ∈ order.lines, l.productId ∈ t.keys Product := by
  intro l hl
  obtain ⟨p, hm, hid, -⟩ := h.product l hl
  exact hid ▸ List.mem_map_of_mem hm

theorem coupon_mem : ∀ l ∈ order.lines, ∀ id ∈ l.couponId, id ∈ t.keys Coupon := by
  intro l hl id hid
  obtain ⟨c, hm, hcid, -⟩ := h.coupon l hl id hid
  exact hcid ▸ List.mem_map_of_mem hm

end NewOrder.Admissible

end Checkout
