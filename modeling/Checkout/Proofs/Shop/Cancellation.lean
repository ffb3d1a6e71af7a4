-- What cancelling an order does. It gives back exactly what the creation took,
-- whatever happened since, and nothing can be in its way but a balance that
-- would outgrow its 64 bits.
import Checkout.Proofs.Shop.Creation
import Checkout.Proofs.Shop.Origin

namespace Checkout

open Store Service

/-! ## The effect in figures -/

/-- How the tables differ once an order has been cancelled that was asked for as `new`. -/
structure Cancelled (t : Tables) (order : Order) (new : NewOrder) (t' : Tables) : Prop where
  users : t'.users = t.users
  products : t'.products = t.products.map fun p =>
    { p with stock := p.stock + askedOf new.lines p.id }
  coupons_used : ∀ c ∈ t.coupons, c.id ∈ new.lines.filterMap (·.couponId) → c.status = .used
  coupons : t'.coupons = t.coupons.map fun c =>
    if c.id ∈ new.lines.filterMap (·.couponId) then
      { c with status := .unused, version := c.version + 1 }
    else c
  balances : t'.balances.map (fun b => (b.userId, b.amount.cents)) = t.balances.map fun b =>
    (b.userId, if b.userId = order.userId then b.amount.cents + order.finalTotal.cents
      else b.amount.cents)
  history : ∃ e : LedgerEntry, t'.history = t.history ++ [e] ∧ e.userId = order.userId ∧
    e.kind = .refund ∧ e.amount = order.finalTotal ∧
    e.balanceAfter.cents = (t.pointsOf order.userId).cents + order.finalTotal.cents ∧
    e.orderId = some order.id
  orders : t'.orders = t.orders.map fun o =>
    if o.id = order.id then { order with status := .cancelled } else o
  lines : t'.lines = t.lines
  payments : t'.payments = t.payments

variable {t : Tables}

/-- Lines that name the same goods hold the same stock and the same coupons. -/
theorem heldOf_eq_askedOf {lines : List OrderLine} {origin : NewOrder × PlacedOrder}
    (h : lines.map OrderLine.goods = goodsOf origin) : heldOf lines = askedOf origin.1.lines := by
  funext id
  have hheld : heldOf lines id = tally (·.2.1 == id) (·.2.2.1) (lines.map OrderLine.goods) := by
    rw [tally_map]
    rfl
  rw [hheld, h, goodsOf, tally_map]
  rfl

theorem coupons_eq {lines : List OrderLine} {origin : NewOrder × PlacedOrder}
    (h : lines.map OrderLine.goods = goodsOf origin) :
    lines.filterMap (·.couponId) = origin.1.lines.filterMap (·.couponId) := by
  have hnamed : lines.filterMap (·.couponId) =
      (lines.map OrderLine.goods).filterMap (·.2.2.2) := by
    rw [List.filterMap_map]
    rfl
  rw [hnamed, h, goodsOf, List.filterMap_map]
  rfl

/-- Cancelling a live order has the effect in figures. -/
theorem cancelled_cancel (hk : t.Kept) {order : Order} (ho : t.find? order.id = some order)
    (hs : order.status ≠ .cancelled)
    (hroom : (t.pointsOf order.userId).cents + order.finalTotal.cents ≤ 9223372036854775807)
    {origin : NewOrder × PlacedOrder}
    (horigin : (t.linesOf order.id).map OrderLine.goods = goodsOf origin) :
    Cancelled t order origin.1 (t.cancel order) := by
  have hm : order ∈ t.orders := (Tables.find?_eq_some ho).1
  have hreturn := returnable_linesOf hk (isLive_of_find? ho hs)
  obtain ⟨b, hb⟩ := hk.numbered.exists_balance (hk.linked.order_user order hm)
  have hplus : ((t.pointsOf order.userId).plus order.finalTotal).cents =
      (t.pointsOf order.userId).cents + order.finalTotal.cents := by
    have := hk.ledgered.nonneg b (Tables.find?_eq_some hb).1
    have := hk.linked.order_total order hm
    rw [pointsOf_eq hb] at hroom ⊢
    exact Money.saturated_cents (by omega)
  refine {
    users := rfl
    products := ?_
    coupons_used := ?_
    coupons := ?_
    balances := ?_
    history := ⟨_, rfl, rfl, rfl, rfl, hplus, rfl⟩
    orders := ?_
    lines := rfl
    payments := rfl }
  · rw [← heldOf_eq_askedOf horigin]
    rfl
  · intro c hc hid
    rw [← coupons_eq horigin] at hid
    obtain ⟨other, hfind, hu⟩ := hreturn.coupon c.id hid
    rw [find?_coupon_iff hk.numbered.coupons.nodup] at hfind
    obtain rfl : other = c :=
      List.inj_on_of_nodup_map hk.numbered.coupons.nodup hfind.1 hc hfind.2
    simpa [Coupon.isUsed] using hu
  · rw [← coupons_eq horigin]
    rfl
  · change (t.balances.map _).map _ = _
    rw [List.map_map]
    apply List.map_congr_left
    intro d hd
    by_cases hid : d.userId = order.userId
    · have hfind : t.find? order.userId = some d :=
        hid ▸ Tables.find?_of_mem hk.numbered.balances_nodup hd
      rw [pointsOf_eq hfind] at hplus
      simp [hid, hplus]
    · simp [hid]
  · change t.orders.map _ = _
    apply List.map_congr_left
    intro o hmo
    by_cases hid : o.id = order.id
    · rw [List.inj_on_of_nodup_map hk.numbered.orders.nodup hmo hm hid]
    · rw [if_neg hid, if_neg hid]

/-! ## The call -/

/-- A change of an order that is announced once it is stored comes to what the store answers. -/
theorem announced_finish (q : Query Order) (event : Order → Event) (around : Surroundings)
    (t : Tables) :
    (do
      let order ← Call.query q
      Call.publish (event order)
      return order : Call Order).run.finish around t = q.answer around.conditions t := by
  change Flow.finish around (.ask q _) t = _
  unfold Flow.finish
  cases q.answer around.conditions t with
  | mk answer after => cases answer <;> rfl

/-- Cancelling an order needs it to be seen and not cancelled, and room on a balance. -/
theorem cancel_finish (hk : t.Kept) (id : Id) (around : Surroundings) :
    (Service.Orders.cancel id).run.finish around.mended t =
      match t.visible? id with
      | none => (.error (.notFound (.order id)), t)
      | some o =>
        if o.status = .cancelled then (.error (.invalidStatus id .cancelled), t)
        else if (t.pointsOf o.userId).cents + o.finalTotal.cents ≤ 9223372036854775807 then
          (.ok { o with status := .cancelled }, t.cancel o)
        else (.error (.invalid (.balanceTooLarge .refund o.finalTotal)), t) := by
  have hflow : (Service.Orders.cancel id).run.finish around.mended t =
      (Query.cancelOrder id).answer (.calm around.now) t :=
    announced_finish (.cancelOrder id) .orderCancelled around.mended t
  rw [hflow, Query.answer, Query.work, cancel_calm id around.now hk]
  cases t.visible? id with
  | none => rfl
  | some o =>
    by_cases hs : o.status = .cancelled
    · simp only [if_pos hs]
    · by_cases hroom : (t.pointsOf o.userId).cents + o.finalTotal.cents ≤ 9223372036854775807
      · simp only [if_neg hs, if_pos hroom]
      · simp only [if_neg hs, if_neg hroom]

/-! ## Straight after the creation -/

theorem pointsOf_book (hnum : t.Numbered) {userId : Id} (hu : userId ∈ t.keys User)
    (kind : LedgerKind) (change : Money) (orderId : Option Id) :
    (t.book userId kind change orderId).pointsOf userId = (t.pointsOf userId).plus change := by
  obtain ⟨b, hb⟩ := hnum.exists_balance hu
  obtain ⟨hm, hid⟩ : b ∈ t.balances ∧ b.userId = userId := Tables.find?_eq_some hb
  have hrow : ({ b with amount := b.amount.plus change } : Balance) ∈
      (t.book userId kind change orderId).balances :=
    List.mem_map.mpr ⟨b, hm, if_pos hid⟩
  have hfind : (t.book userId kind change orderId).find? userId =
      some ({ b with amount := b.amount.plus change } : Balance) :=
    hid ▸ Tables.find?_of_mem (hnum.book userId kind change orderId).balances_nodup hrow
  rw [pointsOf_eq hfind, pointsOf_eq hb]

/-- Goods taken and given back are what they were, but for the versions of the coupons. -/
structure Restored (t t' : Tables) : Prop where
  products : t'.products = t.products
  balances : t'.balances = t.balances
  coupons : t'.coupons.map (fun c => (c.id, c.ownerId, c.kind, c.discount, c.status)) =
    t.coupons.map fun c => (c.id, c.ownerId, c.kind, c.discount, c.status)

theorem restored_of_placed_cancelled {t t₁ t₂ : Tables} {order : NewOrder} {now : Moment}
    {placed : PlacedOrder} (hfine : order.Admissible t) (hn : (t.keys Coupon).Nodup)
    (h₁ : Placed t order now placed t₁) (h₂ : Cancelled t₁ placed.order order t₂) :
    Restored t t₂ := by
  refine ⟨?_, ?_, ?_⟩
  · rw [h₂.products, h₁.products, List.map_map]
    conv_rhs => rw [← List.map_id t.products]
    apply List.map_congr_left
    intro p _
    simp
  · have hinjective : Function.Injective fun b : Balance => (b.userId, b.amount.cents) := by
      rintro ⟨u, m⟩ ⟨u', m'⟩ h
      simp only [Prod.mk.injEq] at h
      rw [h.1, Money.ext h.2]
    apply List.map_injective_iff.mpr hinjective
    have hpairs : t₂.balances.map (fun b => (b.userId, b.amount.cents)) =
        (t₁.balances.map fun b => (b.userId, b.amount.cents)).map fun pair =>
          (pair.1, if pair.1 = order.userId then pair.2 + t.dueTotal order.lines else pair.2) := by
      rw [h₂.balances, h₁.order_user, h₁.order_totals.2.2, List.map_map]
      rfl
    rw [hpairs, h₁.balances, List.map_map]
    apply List.map_congr_left
    intro b _
    by_cases hid : b.userId = order.userId <;> simp [hid]
  · rw [h₂.coupons, h₁.coupons, List.map_map, List.map_map]
    apply List.map_congr_left
    intro c hc
    by_cases hid : c.id ∈ order.lines.filterMap (·.couponId)
    · obtain ⟨l, hl, hlid⟩ := List.mem_filterMap.mp hid
      obtain ⟨other, hm, hsame, -, hunused⟩ := hfine.coupon l hl c.id hlid
      obtain rfl : other = c := List.inj_on_of_nodup_map hn hm hc hsame
      simp only [Function.comp_apply, if_pos hid, hunused]
    · simp only [Function.comp_apply, if_neg hid]

theorem cancel_placed (hk : t.Kept) {origins : List (NewOrder × PlacedOrder)}
    (htraced : Traced t origins) {order : NewOrder} (hfine : order.Admissible t) (now : Moment)
    (around : Surroundings) :
    let t₁ := t.place order now
    let (answer, t₂) := (Service.Orders.cancel (t.nextId Order)).run.finish around.mended t₁
    answer.isOk = true ∧ Restored t t₂ := by
  have hk₁ : (t.place order now).Kept := hk.place now hfine
  have hfind : (t.place order now).find? (t.nextId Order) = some (t.placedOrder order) :=
    Tables.find?_of_mem hk₁.numbered.orders.nodup
      (List.mem_append_right t.orders (List.mem_singleton.mpr rfl))
  have hvisible : (t.place order now).visible? (t.nextId Order) = some (t.placedOrder order) :=
    visible?_eq_some.mpr ⟨hfind, rfl⟩
  -- The balance goes back to what it was, so there is room.
  have hroom : ((t.place order now).pointsOf (t.placedOrder order).userId).cents +
      (t.placedOrder order).finalTotal.cents ≤ 9223372036854775807 := by
    have htaken : ((t.takeStock order.lines).switchCoupons
        (order.lines.filterMap (·.couponId)) .used).Numbered :=
      (hk.numbered.moveStock _).switchCoupons _ _
    have hpoints : (t.place order now).pointsOf order.userId =
        (t.pointsOf order.userId).plus (Money.saturated (t.dueTotal order.lines)).opposite :=
      pointsOf_book htaken hfine.user .debit _ (some (t.nextId Order))
    have hfits := (t.pointsOf order.userId).fits
    simp only [Tables.placedOrder]
    rw [hpoints, hfine.points_left hk.stocked, hfine.due_cents hk.stocked]
    omega
  have horigin := (htraced.place order now).goods_linesOf hk₁.numbered.orders.nodup
    (List.mem_append_right origins (List.mem_singleton.mpr rfl))
  have hpending : (t.placedOrder order).status ≠ .cancelled := by simp [Tables.placedOrder]
  have hcancelled := cancelled_cancel hk₁ hfind hpending hroom horigin
  simp only [cancel_finish hk₁, hvisible, if_neg hpending, if_pos hroom]
  exact ⟨rfl, restored_of_placed_cancelled hfine hk.numbered.coupons.nodup
    (placed_place hk.stocked hfine hk.numbered now) hcancelled⟩

/-- Every order that there is was asked for. -/
theorem Traced.exists_origin {origins : List (NewOrder × PlacedOrder)} (h : Traced t origins)
    {o : Order} (ho : o ∈ t.orders) : ∃ origin ∈ origins, origin.2.order.id = o.id := by
  have hmem : o.id ∈ t.orders.map (·.id) := List.mem_map_of_mem ho
  rw [h.orders] at hmem
  exact List.mem_map.mp hmem

/-! ## The law -/

/-- After any run, cancelling an order that is seen and not cancelled gives back exactly what was
taken when it was asked for, unless a balance would outgrow its 64 bits. An order that is not
there or cancelled is left alone, and so are the tables. An order that is cancelled straight after
it was created leaves all goods and balances as they were. -/
theorem cancelling_gives_back_what_was_taken (deeds : List Deed) (id : Id) (order : NewOrder)
    (around later : Surroundings) :
    let t := (Shop.after deeds).tables
    let origins := originsIn (Shop.after deeds).record
    (let (answer, t') := (Service.Orders.cancel id).run.finish around.mended t
     match t.visible? id with
     | none => answer = .error (.notFound (.order id)) ∧ t' = t
     | some o =>
       if o.status = .cancelled then answer = .error (.invalidStatus id .cancelled) ∧ t' = t
       else if (t.pointsOf o.userId).cents + o.finalTotal.cents ≤ 9223372036854775807 then
         answer = .ok { o with status := .cancelled } ∧
           (∃ origin ∈ origins, origin.2.order.id = id) ∧
           ∀ origin ∈ origins, origin.2.order.id = id → Cancelled t o origin.1 t'
       else answer = .error (.invalid (.balanceTooLarge .refund o.finalTotal)) ∧ t' = t) ∧
      let (created, t₁) := (Service.Orders.create order).run.finish around.mended t
      match created with
      | .error _ => t₁ = t
      | .ok placed =>
        let (answer, t₂) := (Service.Orders.cancel placed.order.id).run.finish later.mended t₁
        answer.isOk = true ∧ Restored t t₂ := by
  intro t origins
  have hk : t.Kept := Shop.kept_after deeds
  have htraced : Traced t origins := traced_after deeds
  constructor
  · rw [cancel_finish hk]
    cases ho : t.visible? id with
    | none => exact ⟨rfl, rfl⟩
    | some o =>
      obtain ⟨hfind, -⟩ := visible?_eq_some.mp ho
      obtain ⟨hm, rfl⟩ : o ∈ t.orders ∧ o.id = id := Tables.find?_eq_some hfind
      by_cases hs : o.status = .cancelled
      · simp only [if_pos hs, and_self]
      by_cases hroom : (t.pointsOf o.userId).cents + o.finalTotal.cents ≤ 9223372036854775807
      · simp only [if_neg hs, if_pos hroom]
        refine ⟨trivial, htraced.exists_origin hm, fun origin horigin hid => ?_⟩
        have hgoods := htraced.goods_linesOf hk.numbered.orders.nodup horigin
        rw [hid] at hgoods
        exact cancelled_cancel hk hfind hs hroom hgoods
      · simp only [if_neg hs, if_neg hroom, and_self]
  · rw [create_finish hk]
    cases ho : order.objection t with
    | some f => rfl
    | none =>
      have hfine := (objection_eq_none_iff order hk.numbered hk.stocked).mp ho
      exact cancel_placed hk htraced hfine around.now later

end Checkout
