-- Independent work commutes. What comes of creating, cancelling or confirming
-- an order, and of a charge, depends on the rows of one user and of the
-- products that are named, and changes no others. So two of these for
-- different users and products may be done in either order.
import Checkout.Proofs.Shop.Coupons
import Checkout.Proofs.Shop.Trade

namespace Checkout

open Store Service

variable {t t' : Tables}

/-! ## Whose rows are changed -/

namespace Store.Tables

theorem placing_within {order : NewOrder} (hn : (t.keys Coupon).Nodup)
    (hfine : order.Admissible t) :
    (t.placing order).Within t order.userId (order.lines.map (·.productId)) where
  stock id hid := by
    have hnone : askedOf order.lines id = 0 :=
      askedOf_eq_zero fun l hl hsame => hid (hsame ▸ List.mem_map_of_mem hl)
    exact neg_eq_zero.mpr hnone
  coupon c hc hid := by
    obtain ⟨l, hl, hlid⟩ := List.mem_filterMap.mp hid
    obtain ⟨other, hother, hsame, howner, -⟩ := hfine.coupon l hl c.id hlid
    exact List.inj_on_of_nodup_map hn hother hc hsame ▸ howner
  posting p hp := by
    cases hp
    rfl
  order _ h := nomatch h

theorem cancelling_within (hn : (t.keys Order).Nodup) (hcounted : t.CouponsCounted) {o : Order}
    (ho : t.find? o.id = some o) :
    (t.cancelling o).Within t o.userId ((t.linesOf o.id).map (·.productId)) where
  stock id hid := by
    refine tally_eq_zero _ fun l hl => beq_false_of_ne fun hsame => hid ?_
    exact hsame ▸ List.mem_map_of_mem hl
  coupon c hc hid := by
    obtain ⟨l, hl, hlid⟩ := List.mem_filterMap.mp hid
    obtain ⟨hline, hown⟩ := mem_linesOf.mp hl
    obtain ⟨other, hother, hsame, howner⟩ := hcounted.owner c hc l hline hlid
    have hm : o ∈ t.orders := (find?_eq_some ho).1
    rw [← howner, List.inj_on_of_nodup_map hn hother hm (hsame.trans hown)]
  posting p hp := by
    cases hp
    rfl
  order move hmove := by
    cases hmove
    exact ⟨o, ho, rfl⟩

theorem moving_within {o : Order} (ho : t.find? o.id = some o) (status : OrderStatus)
    (goods : List Id) : (Effect.moving o.id status).Within t o.userId goods :=
  { Effect.nothing_within t o.userId goods with
    order := fun move hmove => by
      cases hmove
      exact ⟨o, ho, rfl⟩ }

theorem booking_within (t : Tables) (p : Posting) (goods : List Id) :
    (Effect.booking p).Within t p.userId goods :=
  { Effect.nothing_within t p.userId goods with
    posting := fun other hother => by
      cases hother
      rfl }

end Store.Tables

namespace Trade

/-! ## What the upshot depends on -/

section Depends

variable {trade : Trade} {userId : Id} (huser : trade.user? t = some userId)
include huser

/-- What is done keeps to the user and the products that it concerns. -/
theorem upshot_within (hk : t.Kept) (hcounted : t.CouponsCounted) :
    (trade.upshot t).effect.Within t userId (trade.goods t) := by
  have hnothing := Effect.nothing_within t userId (trade.goods t)
  cases trade with
  | create order =>
    cases huser
    rw [upshot]
    cases ho : order.objection t with
    | some f => exact hnothing
    | none =>
      exact Tables.placing_within hk.numbered.coupons.nodup
        ((objection_eq_none_iff order hk.numbered hk.stocked).mp ho)
  | cancel id =>
    obtain ⟨o, ho, rfl⟩ := Option.map_eq_some_iff.mp huser
    obtain rfl : o.id = id := (Tables.find?_eq_some ho).2
    rw [upshot]
    cases hv : t.visible? o.id with
    | none => exact hnothing
    | some seen =>
      obtain rfl : o = seen := Option.some.inj (ho.symm.trans (visible?_eq_some.mp hv).1)
      simp only
      split
      · exact hnothing
      · split
        · exact Tables.cancelling_within hk.numbered.orders.nodup hcounted ho
        · exact hnothing
  | confirm id =>
    obtain ⟨o, ho, rfl⟩ := Option.map_eq_some_iff.mp huser
    obtain rfl : o.id = id := (Tables.find?_eq_some ho).2
    rw [upshot]
    cases hv : t.visible? o.id with
    | none => exact hnothing
    | some seen =>
      simp only
      split
      · exact Tables.moving_within ho .confirmed _
      · exact hnothing
  | charge user amount =>
    cases huser
    rw [upshot]
    split
    · split
      · exact hnothing
      · split
        · exact Tables.booking_within t _ _
        · exact hnothing
    · exact hnothing

/-- Where the rows of the user and of the products look the same, the same comes of it. -/
theorem upshot_same (h : t.SameTo userId (trade.goods t) t') :
    trade.upshot t' = trade.upshot t := by
  cases trade with
  | create order =>
    cases huser
    rw [upshot, upshot, h.objection]
    cases ho : order.objection t with
    | some f => rfl
    | none =>
      have hprices := h.samePrices_of_fine ho
      simp only [Tables.placing, placement_same hprices 0 0, hprices.dueTotal, h.pointsOf]
  | cancel id =>
    obtain ⟨o, ho, rfl⟩ := Option.map_eq_some_iff.mp huser
    obtain rfl : o.id = id := (Tables.find?_eq_some ho).2
    obtain ⟨hfind, hlines⟩ := h.order o.id o ho rfl
    have hseen : t'.visible? o.id = t.visible? o.id := by
      rw [Tables.visible?, Tables.visible?, hfind, ho]
    rw [upshot, upshot, hseen]
    cases hv : t.visible? o.id with
    | none => rfl
    | some seen =>
      obtain rfl : o = seen := Option.some.inj (ho.symm.trans (visible?_eq_some.mp hv).1)
      simp only [Tables.cancelling, hlines, h.pointsOf]
  | confirm id =>
    obtain ⟨o, ho, rfl⟩ := Option.map_eq_some_iff.mp huser
    have hseen : t'.visible? id = t.visible? id := by
      rw [Tables.visible?, Tables.visible?, (h.order id o ho rfl).1, ho]
    rw [upshot, upshot, hseen]
  | charge user amount =>
    cases huser
    rw [upshot, upshot, h.balance]

end Depends

/-! ## Two at a time -/

/-- Two trades concern different users, and different products. -/
structure Independent (t : Tables) (a b : Trade) : Prop where
  users : ∃ u v, a.user? t = some u ∧ b.user? t = some v ∧ u ≠ v
  goods : ∀ id ∈ a.goods t, id ∉ b.goods t

/-- Each of the two is answered in the same way whether or not the other one is done before, and in
either order they leave the same books, whenever they are done. -/
structure Commute (t : Tables) (a b : Trade) : Prop where
  first : ∀ now later afterwards : Surroundings,
    (a.play afterwards (b.play later t).2).1 = (a.play now t).1
  second : ∀ now soon later : Surroundings,
    (b.play soon (a.play now t).2).1 = (b.play later t).1
  books : ∀ now soon later afterwards : Surroundings,
    (b.play soon (a.play now t).2).2.SameBooks (t.keys Order)
      (a.play afterwards (b.play later t).2).2

/-- What is done first goes unnoticed. -/
theorem Independent.comes {a b : Trade} (h : Independent t a b) (hk : t.Kept)
    (hcounted : t.CouponsCounted) (now soon : Surroundings) :
    (b.upshot t).Comes (a.play now t).2 (b.play soon (a.play now t).2) := by
  obtain ⟨u, v, ha, hb, huv⟩ := h.users
  have hfirst := a.comes hk now
  have hsame : b.upshot (a.play now t).2 = b.upshot t :=
    upshot_same hb (hfirst.makes.sameTo (upshot_within ha hk hcounted) huv.symm
      fun id hid hmem => h.goods id hmem hid)
  exact hsame ▸ b.comes hfirst.kept soon

theorem Independent.symm {a b : Trade} (h : Independent t a b) : Independent t b a := by
  obtain ⟨u, v, ha, hb, huv⟩ := h.users
  exact ⟨⟨v, u, hb, ha, huv.symm⟩, fun id hid hmem => h.goods id hmem hid⟩

theorem Independent.commute {a b : Trade} (h : Independent t a b) (hk : t.Kept)
    (hcounted : t.CouponsCounted) : Commute t a b where
  first now later afterwards :=
    (h.symm.comes hk hcounted later afterwards).reply.trans (a.comes hk now).reply.symm
  second now soon later :=
    (h.comes hk hcounted now soon).reply.trans (b.comes hk later).reply.symm
  books now soon later afterwards := by
    obtain ⟨u, v, ha, hb, huv⟩ := h.users
    exact Effect.sameBooks (upshot_within ha hk hcounted) (upshot_within hb hk hcounted) huv
      (a.comes hk now).makes (h.comes hk hcounted now soon).makes (b.comes hk later).makes
      (h.symm.comes hk hcounted later afterwards).makes

end Trade

/-! ## The law -/

/-- After any run, creating, cancelling or confirming an order and charging a balance, for different
users and different products, come to the same in either order. -/
theorem independent_work_commutes (deeds : List Deed) (a b : Trade)
    (h : Trade.Independent (Shop.after deeds).tables a b) :
    Trade.Commute (Shop.after deeds).tables a b :=
  h.commute (Shop.kept_after deeds) (couponsCounted_after deeds)

namespace TwoBuyers

def price : Money := .saturated 100

/-- Two users have points, and the first one has ordered tea with a coupon. -/
def deeds : List Deed :=
  [.start (.createUser "ann"), .proceed 0 .quiet, .start (.createUser "bob"), .proceed 1 .quiet,
    .start (.charge 1 price), .proceed 2 .quiet, .start (.charge 2 price), .proceed 3 .quiet,
    .start (.createProduct ⟨"tea", price, 2⟩ (by decide)), .proceed 4 .quiet,
    .start (.createProduct ⟨"milk", price, 1⟩ (by decide)), .proceed 5 .quiet,
    .start (.issueCoupon ⟨1, .fixedAmount, 10⟩), .proceed 6 .quiet,
    .start (.createOrder ⟨1, [⟨1, 1, some 1⟩], none⟩), .proceed 7 .quiet]

/-- The first user gives the tea back. -/
def tea : Trade := .cancel 1

/-- The second user orders milk. -/
def milk : Trade := .create ⟨2, [⟨2, 1, none⟩], none⟩

end TwoBuyers

open TwoBuyers in
/-- Both are done, and it makes no difference which one comes first. -/
theorem tea_and_milk_in_either_order :
    Trade.Independent (Shop.after deeds).tables tea milk ∧
      (tea.play .quiet (Shop.after deeds).tables).1.isOk = true ∧
      (milk.play .quiet (Shop.after deeds).tables).1.isOk = true ∧
      Trade.Commute (Shop.after deeds).tables tea milk := by
  have h : Trade.Independent (Shop.after deeds).tables tea milk :=
    ⟨⟨1, 2, by decide +kernel, by decide +kernel, by decide⟩, by decide +kernel⟩
  have hcommute := independent_work_commutes deeds tea milk h
  exact ⟨h, by decide +kernel, by decide +kernel, hcommute⟩

end Checkout
