-- Stock and coupons are accounted for by the live orders, whatever changes. An
-- order that is placed adds its lines to the account, one that is cancelled
-- takes them out of it, and nothing else moves either side.
import Checkout.Proofs.Store.Cancelling
import Checkout.Proofs.Store.Keeping.Rows

namespace Checkout.Store

variable {t t' : Tables}

/-! ## The lines of live orders -/

/-- Orders changed in place are as live as before if none is cancelled or revived. -/
theorem isLive_map_orders {f : Order → Order} (hid : ∀ o ∈ t.orders, (f o).id = o.id)
    (hs : ∀ o ∈ t.orders, ((f o).status != .cancelled) = (o.status != .cancelled)) (id : Id) :
    Tables.isLive { t with orders := t.orders.map f } id = t.isLive id := by
  rw [Tables.isLive, Tables.isLive, List.any_map, Bool.eq_iff_iff, List.any_eq_true,
    List.any_eq_true]
  refine exists_congr fun o => and_congr_right fun ho => ?_
  rw [Function.comp_apply, hid o ho, hs o ho]

theorem isLive_place (order : NewOrder) (now : Moment) {id : Id} (h : id ∈ t.keys Order)
    (hn : Counted (t.keys Order)) : (t.place order now).isLive id = t.isLive id := by
  have hne : (t.placedOrder order).id ≠ id := by
    rintro rfl
    exact Tables.nextId_notMem hn h
  change (t.orders ++ [t.placedOrder order]).any _ = t.isLive id
  simp [Tables.isLive, hne]

theorem isLive_placed (order : NewOrder) (now : Moment) :
    (t.place order now).isLive (t.nextId Order) = true := by
  apply List.any_eq_true.mpr
  exact ⟨t.placedOrder order, List.mem_append_right _ (List.mem_singleton.mpr rfl), by
    simp [Tables.placedOrder]⟩

theorem isLive_cancel (order : Order) (id : Id) :
    (t.cancel order).isLive id = (t.isLive id && id != order.id) := by
  change (t.orders.map _).any _ = _
  rw [List.any_map, Tables.isLive]
  by_cases hid : id = order.id
  · subst hid
    rw [bne_self_eq_false, Bool.and_false, List.any_eq_false]
    intro o _
    by_cases ho : o.id = order.id <;> simp [ho]
  · have hne : (id != order.id) = true := by simpa using hid
    rw [hne, Bool.and_true]
    apply List.any_congr rfl
    intro o
    by_cases ho : o.id = order.id
    · simp [ho, Ne.symm hid]
    · simp [ho]

section LiveTally

variable (meets : OrderLine → Bool) (figure : OrderLine → Int)

theorem liveTally_congr (hlines : t'.lines = t.lines) (hlive : ∀ id, t'.isLive id = t.isLive id) :
    t'.liveTally meets figure = t.liveTally meets figure := by
  simp only [Tables.liveTally, hlines, hlive]

theorem liveTally_place (hnum : t.Numbered) (hlink : t.Linked) (order : NewOrder) (now : Moment) :
    (t.place order now).liveTally meets figure =
      t.liveTally meets figure + tally meets figure (t.placedLines order) := by
  change tally _ figure (t.lines ++ t.placedLines order) = _
  rw [tally_append]
  congr 1
  · apply tally_congr _ fun _ _ => rfl
    intro l hl
    rw [isLive_place order now (hlink.line_order l hl) hnum.orders]
  · apply tally_congr _ fun _ _ => rfl
    intro l hl
    obtain ⟨i, hi, rfl⟩ := List.mem_mapIdx.mp hl
    rw [isLive_placed order now, Bool.and_true]

theorem liveTally_cancel {order : Order} (hlive : t.isLive order.id = true) :
    (t.cancel order).liveTally meets figure =
      t.liveTally meets figure - tally meets figure (t.linesOf order.id) := by
  have hlines : tally meets figure (t.linesOf order.id) =
      tally (fun l => (meets l && t.isLive l.orderId) && l.orderId == order.id) figure t.lines := by
    rw [Tables.linesOf, tally_filter]
    apply tally_congr _ fun _ _ => rfl
    intro l _
    by_cases hid : l.orderId = order.id
    · rw [hid, hlive, Bool.and_true]
    · rw [beq_false_of_ne hid, Bool.and_false, Bool.and_false]
  have hrest : (t.cancel order).liveTally meets figure =
      tally (fun l => (meets l && t.isLive l.orderId) && !(l.orderId == order.id)) figure
        t.lines := by
    change tally _ figure t.lines = _
    apply tally_congr _ fun _ _ => rfl
    intro l _
    rw [isLive_cancel, Bool.and_assoc]
    rfl
  have hall := tally_split (fun l => meets l && t.isLive l.orderId) (·.orderId == order.id) figure
    t.lines
  rw [hlines, hrest, Tables.liveTally]
  omega

end LiveTally

theorem heldOf_placedLines (order : NewOrder) (id : Id) :
    heldOf (t.placedLines order) id = askedOf order.lines id := by
  apply tally_mapIdx <;> exact fun _ _ => rfl

theorem committed_place (hnum : t.Numbered) (hlink : t.Linked) (order : NewOrder) (now : Moment)
    (id : Id) : (t.place order now).committed id = t.committed id + askedOf order.lines id := by
  rw [← heldOf_placedLines (t := t)]
  exact liveTally_place _ _ hnum hlink order now

theorem committed_cancel {order : Order} (hlive : t.isLive order.id = true) (id : Id) :
    (t.cancel order).committed id = t.committed id - heldOf (t.linesOf order.id) id :=
  liveTally_cancel _ _ hlive

/-- How many lines of a new order name a coupon. -/
theorem namings_placedLines (order : NewOrder) (id : Id) :
    tally (fun l : OrderLine => l.couponId == some id) (fun _ => 1) (t.placedLines order) =
      ((order.lines.filterMap (·.couponId)).count id : Int) := by
  rw [count_filterMap]
  apply tally_mapIdx <;> exact fun _ _ => rfl

theorem liveUses_place (hnum : t.Numbered) (hlink : t.Linked) (order : NewOrder) (now : Moment)
    (id : Id) : (t.place order now).liveUses id =
      t.liveUses id + ((order.lines.filterMap (·.couponId)).count id : Int) := by
  rw [← namings_placedLines (t := t)]
  exact liveTally_place _ _ hnum hlink order now

theorem liveUses_cancel {order : Order} (hlive : t.isLive order.id = true) (id : Id) :
    (t.cancel order).liveUses id =
      t.liveUses id - (((t.linesOf order.id).filterMap (·.couponId)).count id : Int) := by
  rw [count_filterMap]
  exact liveTally_cancel _ _ hlive

/-- A row of a table that no line can name yet. -/
theorem committed_next (hnum : t.Numbered) (hlink : t.Linked) :
    t.committed (t.nextId Product) = 0 := by
  apply tally_eq_zero
  intro l hl
  have hne : l.productId ≠ t.nextId Product := by
    intro hid
    have hmem := hlink.line_product l hl
    rw [hid] at hmem
    exact Tables.nextId_notMem hnum.products hmem
  simp [hne]

theorem liveUses_next (hnum : t.Numbered) (hlink : t.Linked) :
    t.liveUses (t.nextId Coupon) = 0 := by
  apply tally_eq_zero
  intro l hl
  have hne : l.couponId ≠ some (t.nextId Coupon) := by
    intro hid
    have hmem := hlink.line_coupon l hl _ hid
    exact Tables.nextId_notMem hnum.coupons hmem
  simp [hne]

/-! ## Stock -/

namespace Tables.Stocked

theorem of_same (h : t.Stocked) (hp : t'.products = t.products)
    (hc : ∀ id, t'.committed id = t.committed id) : t'.Stocked where
  price_nonneg := hp ▸ h.price_nonneg
  stock_nonneg := hp ▸ h.stock_nonneg
  stock_fits := by
    rw [hp]
    intro p hm
    rw [hc]
    exact h.stock_fits p hm

theorem append (h : t.Stocked) (hnum : t.Numbered) (hlink : t.Linked) {p : NewProduct}
    (hvalid : p.isValid = true) (hfits : Fits p.stock) : (t.append (t.newProduct p)).Stocked := by
  simp only [NewProduct.isValid, Money.isNegative, Bool.and_eq_true, Bool.not_eq_true',
    decide_eq_false_iff_not, decide_eq_true_eq] at hvalid
  have hnone : (t.append (t.newProduct p)).committed (t.newProduct p).id = 0 :=
    committed_next hnum hlink
  have hstock : (t.newProduct p).stock = p.stock := rfl
  refine ⟨forall_mem_concat h.price_nonneg (Int.not_lt.mp hvalid.1),
    forall_mem_concat h.stock_nonneg hvalid.2, forall_mem_concat h.stock_fits ?_⟩
  rw [hnone]
  omega

theorem withdraw (h : t.Stocked) (id : Id) : (t.withdraw id).Stocked := by
  have hsame : ∀ p ∈ (t.withdraw id).products, ∃ q ∈ t.products,
      p.id = q.id ∧ p.price = q.price ∧ p.stock = q.stock := by
    intro p hp
    obtain ⟨q, hq, rfl⟩ := List.mem_map.mp hp
    refine ⟨q, hq, ?_⟩
    split <;> exact ⟨rfl, rfl, rfl⟩
  refine ⟨fun p hp => ?_, fun p hp => ?_, fun p hp => ?_⟩ <;>
    obtain ⟨q, hq, hid, hprice, hstock⟩ := hsame p hp
  · rw [hprice]
    exact h.price_nonneg q hq
  · rw [hstock]
    exact h.stock_nonneg q hq
  · rw [hstock, hid]
    exact h.stock_fits q hq

theorem place (h : t.Stocked) (hnum : t.Numbered) (hlink : t.Linked) {order : NewOrder}
    (now : Moment) (hfine : order.Admissible t) : (t.place order now).Stocked := by
  have hasked := hfine.asked_le_stock hnum.products.nodup h.stock_nonneg
  refine ⟨fun p hp => ?_, fun p hp => ?_, fun p hp => ?_⟩ <;>
    obtain ⟨q, hq, rfl⟩ := List.mem_map.mp hp
  · exact h.price_nonneg q hq
  · have := hasked q hq
    simp only
    omega
  · have := h.stock_fits q hq
    rw [committed_place hnum hlink]
    simp only
    omega

theorem cancel (h : t.Kept) {order : Order} (hlive : t.isLive order.id = true) :
    (t.cancel order).Stocked := by
  refine ⟨fun p hp => ?_, fun p hp => ?_, fun p hp => ?_⟩ <;>
    obtain ⟨q, hq, rfl⟩ := List.mem_map.mp hp
  · exact h.stocked.price_nonneg q hq
  · have := h.stocked.stock_nonneg q hq
    have := heldOf_nonneg (returnable_linesOf h hlive).quantity q.id
    simp only
    omega
  · have := h.stocked.stock_fits q hq
    rw [committed_cancel hlive]
    simp only
    omega

end Tables.Stocked

/-! ## Coupons -/

namespace Tables.CouponsHeld

theorem of_same (h : t.CouponsHeld) (hc : t'.coupons = t.coupons)
    (hu : ∀ id, t'.liveUses id = t.liveUses id) : t'.CouponsHeld := by
  intro c hm
  rw [hu]
  exact h c (hc ▸ hm)

theorem append (h : t.CouponsHeld) (hnum : t.Numbered) (hlink : t.Linked) (c : NewCoupon) :
    (t.append (t.newCoupon c)).CouponsHeld :=
  forall_mem_concat h (liveUses_next hnum hlink)

theorem place (h : t.CouponsHeld) (hnum : t.Numbered) (hlink : t.Linked) {order : NewOrder}
    (now : Moment) (hfine : order.Admissible t) : (t.place order now).CouponsHeld := by
  intro d hd
  obtain ⟨c, hc, rfl⟩ := List.mem_map.mp hd
  rw [switched_id, liveUses_place hnum hlink, h c hc]
  by_cases hmem : c.id ∈ order.lines.filterMap (·.couponId)
  · obtain ⟨l, hl, hid⟩ := List.mem_filterMap.mp hmem
    obtain ⟨other, hm, hsame, -, hs⟩ := hfine.coupon l hl c.id hid
    obtain rfl : other = c := List.inj_on_of_nodup_map hnum.coupons.nodup hm hc hsame
    rw [if_pos hmem, (isUsed_eq_false_iff other).mpr hs,
      List.count_eq_one_of_mem hfine.well_formed.coupons_nodup hmem]
    rfl
  · rw [if_neg hmem, List.count_eq_zero_of_not_mem hmem]
    omega

theorem cancel (h : t.Kept) {order : Order} (hlive : t.isLive order.id = true) :
    (t.cancel order).CouponsHeld := by
  have hreturn := returnable_linesOf h hlive
  intro d hd
  obtain ⟨c, hc, rfl⟩ := List.mem_map.mp hd
  change Tables.liveUses (t.cancel order) (if c.id ∈ (t.linesOf order.id).filterMap (·.couponId)
    then c.switched .unused else c).id = _
  rw [switched_id, liveUses_cancel hlive, h.coupons c hc]
  by_cases hmem : c.id ∈ (t.linesOf order.id).filterMap (·.couponId)
  · obtain ⟨other, hfind, hu⟩ := hreturn.coupon c.id hmem
    rw [find?_coupon_iff h.numbered.coupons.nodup] at hfind
    obtain rfl : other = c :=
      List.inj_on_of_nodup_map h.numbered.coupons.nodup hfind.1 hc hfind.2
    rw [if_pos hmem, hu, List.count_eq_one_of_mem hreturn.coupons_nodup hmem]
    rfl
  · rw [if_neg hmem, List.count_eq_zero_of_not_mem hmem]
    omega

end Tables.CouponsHeld

end Checkout.Store
