-- What is given back. Stock, coupons and points that an order took come back
-- only when an order is cancelled that can be seen, and then only what that
-- order took. Every other change leaves them where they are, or takes more.
import Checkout.Proofs.Store.Change

namespace Checkout.Store

/-- Nothing has been given back: no product has more in stock, no coupon in use was touched, and
nobody was refunded. -/
structure Tables.ReturnsNothing (t t' : Tables) : Prop where
  stock : ∀ p ∈ t.products, ∃ p' ∈ t'.products, p'.id = p.id ∧ p'.stock ≤ p.stock
  coupons : ∀ coupon ∈ t.coupons, coupon.isUsed = true → coupon ∈ t'.coupons
  refunds : t'.history.filter (·.kind == .refund) = t.history.filter (·.kind == .refund)

namespace Tables.ReturnsNothing

variable {t t' : Tables}

/-- Products, coupons and history are the same, or longer at the end but for refunds. -/
theorem of_longer (hproducts : t.products <+: t'.products) (hcoupons : t.coupons <+: t'.coupons)
    (hhistory : t'.history = t.history) : t.ReturnsNothing t' where
  stock p hp := ⟨p, hproducts.subset hp, rfl, Int.le_refl _⟩
  coupons _ hcoupon _ := hcoupons.subset hcoupon
  refunds := by rw [hhistory]

theorem refl (t : Tables) : t.ReturnsNothing t := of_longer List.prefix_rfl List.prefix_rfl rfl

/-- An entry that is no refund leaves the refunds as they are. -/
theorem refunds_book (t : Tables) (userId : Id) {kind : LedgerKind} (hkind : kind ≠ .refund)
    (change : Money) (orderId : Option Id) :
    (t.book userId kind change orderId).history.filter (·.kind == .refund) =
      t.history.filter (·.kind == .refund) := by
  simp [book, List.filter_append, hkind]

theorem charge (t : Tables) (userId : Id) (amount : Money) :
    t.ReturnsNothing (t.book userId .charge amount none) where
  stock p hp := ⟨p, hp, rfl, Int.le_refl _⟩
  coupons _ hcoupon _ := hcoupon
  refunds := refunds_book t userId (by decide) amount none

/-- An order only takes. The coupons that it uses up were not in use. -/
theorem place (hk : t.Kept) {order : NewOrder} (now : Moment) (hfine : order.Admissible t) :
    t.ReturnsNothing (t.place order now) where
  stock p hp := by
    refine ⟨_, List.mem_map_of_mem hp, rfl, ?_⟩
    have hasked : 0 ≤ askedOf order.lines p.id := tally_nonneg _ fun l hl => by
      have := (hfine.well_formed.quantity_in_range l hl).1
      omega
    simp only
    omega
  coupons coupon hcoupon hused := by
    refine List.mem_map.mpr ⟨coupon, hcoupon, if_neg fun hmem => ?_⟩
    obtain ⟨line, hline, hnamed⟩ := List.mem_filterMap.mp hmem
    obtain ⟨other, hother, hid, -, hfree⟩ := hfine.coupon line hline coupon.id hnamed
    obtain rfl : other = coupon :=
      List.inj_on_of_nodup_map hk.numbered.coupons.nodup hother hcoupon hid
    rw [Coupon.isUsed, hfree] at hused
    cases hused
  refunds := refunds_book _ order.userId (by decide) _ _

/-- A product that is taken off sale keeps its stock. -/
theorem withdraw (t : Tables) (id : Id) : t.ReturnsNothing (t.withdraw id) where
  stock p hp := by
    refine ⟨_, List.mem_map_of_mem hp, ?_⟩
    split <;> exact ⟨rfl, Int.le_refl _⟩
  coupons _ hcoupon _ := hcoupon
  refunds := rfl

end Tables.ReturnsNothing

/-- A change gives nothing back, or it cancels an order that can be seen. -/
theorem Change.returns {α : Type} {q : Query α} {a : α} {t t' : Tables} {now : Moment}
    (hk : t.Kept) (h : Change now t q a t') :
    t.ReturnsNothing t' ∨ ∃ o ∈ t.orders, o.archived = false ∧ t' = t.cancel o := by
  cases h with
  | cancelled ho =>
    obtain ⟨hfind, hshown⟩ := visible?_eq_some.mp ho
    exact .inr ⟨_, (Tables.find?_eq_some hfind).1, hshown, rfl⟩
  | charged amount => exact .inl (.charge t _ amount)
  | placed order hfine => exact .inl (.place hk now hfine)
  | stocked new => exact .inl (.of_longer (List.prefix_append _ _) List.prefix_rfl rfl)
  | issued new => exact .inl (.of_longer List.prefix_rfl (List.prefix_append _ _) rfl)
  | still | joined | confirmed | archived | opened | keyed | completed | failed =>
    exact .inl (.of_longer List.prefix_rfl List.prefix_rfl rfl)

end Checkout.Store
