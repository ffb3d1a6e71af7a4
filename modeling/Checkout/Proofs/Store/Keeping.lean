-- Whatever a query changes, the tables are in order afterwards if they were
-- before.
import Checkout.Proofs.Store.Change
import Checkout.Proofs.Store.Keeping.Ledger

namespace Checkout.Store

variable {t t' : Tables}

namespace Tables.Kept

theorem empty : Tables.empty.Kept where
  numbered := ⟨rfl, rfl, rfl, rfl, rfl, rfl, rfl, rfl⟩
  linked := by constructor <;> exact fun _ h => nomatch h
  stocked := by constructor <;> exact fun _ h => nomatch h
  coupons := fun _ h => nomatch h
  ledgered := by constructor <;> exact fun _ h => nomatch h
  accounted := by constructor <;> exact fun _ h => nomatch h

variable (h : t.Kept)
include h

theorem join (name : String) : (t.join name).Kept where
  numbered := h.numbered.join name
  linked := h.linked.join name
  stocked := h.stocked.of_same rfl fun _ => rfl
  coupons := h.coupons.of_same rfl fun _ => rfl
  ledgered := h.ledgered.join h.numbered h.linked name
  accounted := h.accounted.join h.numbered h.linked name

theorem charge {userId : Id} {b : Balance} {amount : Money} (hb : t.find? userId = some b)
    (hpos : 0 < amount.cents) (hroom : b.amount.cents + amount.cents ≤ 9223372036854775807) :
    (t.book userId .charge amount none).Kept := by
  have h0 := h.ledgered.nonneg b (Tables.find?_eq_some hb).1
  exact {
    numbered := h.numbered.book _ _ _ _
    linked := h.linked.book _ _ (h.numbered.balances ▸ Tables.mem_keys_of_find? hb) (by simp)
    stocked := h.stocked.of_same rfl fun _ => rfl
    coupons := h.coupons.of_same rfl fun _ => rfl
    ledgered := h.ledgered.book h.numbered .charge none hb (by omega) hroom
    accounted := h.accounted.charge h.numbered hb hpos h0 hroom }

theorem append_product {p : NewProduct} (hvalid : p.isValid = true) (hfits : Fits p.stock) :
    (t.append (t.newProduct p)).Kept where
  numbered := { h.numbered with products := counted_concat h.numbered.products rfl }
  linked := h.linked.append_product _
  stocked := h.stocked.append h.numbered h.linked hvalid hfits
  coupons := h.coupons.of_same rfl fun _ => rfl
  ledgered := h.ledgered.of_same rfl rfl rfl
  accounted := h.accounted.of_same rfl rfl rfl

theorem append_coupon (c : NewCoupon) : (t.append (t.newCoupon c)).Kept where
  numbered := { h.numbered with coupons := counted_concat h.numbered.coupons rfl }
  linked := h.linked.append_coupon _
  stocked := h.stocked.of_same rfl fun _ => rfl
  coupons := h.coupons.append h.numbered h.linked c
  ledgered := h.ledgered.of_same rfl rfl rfl
  accounted := h.accounted.of_same rfl rfl rfl

theorem place {order : NewOrder} (now : Moment) (hfine : order.Admissible t) :
    (t.place order now).Kept where
  numbered := h.numbered.place order now
  linked := h.linked.place now h.stocked hfine
  stocked := h.stocked.place h.numbered h.linked now hfine
  coupons := h.coupons.place h.numbered h.linked now hfine
  ledgered := h.ledgered.place h.numbered h.stocked now hfine
  accounted := h.accounted.place h.numbered h.linked h.stocked now hfine

theorem cancel {order : Order} (ho : t.find? order.id = some order)
    (hs : order.status ≠ .cancelled)
    (hroom : (t.pointsOf order.userId).cents + order.finalTotal.cents ≤ 9223372036854775807) :
    (t.cancel order).Kept := by
  have hm : order ∈ t.orders := (Tables.find?_eq_some ho).1
  have hlive := isLive_of_find? ho hs
  exact {
    numbered := h.numbered.cancel order
    linked := h.linked.cancel hm
    stocked := .cancel h hlive
    coupons := .cancel h hlive
    ledgered := h.ledgered.cancel h.numbered h.linked hm hroom
    accounted := .cancel h hm hs hroom }

/-- Orders changed in place, with none cancelled or revived. -/
theorem map_orders {f : Order → Order} (hf : SameAccount f) (hl : SameLife t f) :
    Kept { t with orders := t.orders.map f } := by
  have hlive := isLive_map_orders (fun o _ => hf.id o) hl
  exact {
    numbered := h.numbered.map_orders hf.id
    linked := h.linked.map_orders hf
    stocked := h.stocked.of_same rfl fun _ => liveTally_congr _ _ rfl hlive
    coupons := h.coupons.of_same rfl fun _ => liveTally_congr _ _ rfl hlive
    ledgered := h.ledgered.of_same rfl rfl rfl
    accounted := h.accounted.map_orders hf hl }

/-- Nothing else depends on the payments. -/
theorem with_payments {payments : List Payment} (hp : Counted (payments.map Payment.id)) :
    Kept { t with payments } where
  numbered := { h.numbered with payments := hp }
  linked := { h.linked with }
  stocked := h.stocked.of_same rfl fun _ => rfl
  coupons := h.coupons.of_same rfl fun _ => rfl
  ledgered := h.ledgered.of_same rfl rfl rfl
  accounted := h.accounted.of_same rfl rfl rfl

theorem map_payments {f : Payment → Payment} (hf : ∀ p, (f p).id = p.id) :
    Kept { t with payments := t.payments.map f } :=
  h.with_payments (counted_map h.numbered.payments hf)

theorem withdraw (id : Id) : (t.withdraw id).Kept := by
  have hid : ∀ p : Product, (if p.id = id then { p with deleted := true } else p).id = p.id := by
    intro p
    split <;> rfl
  exact {
    numbered := h.numbered.map_products hid
    linked := h.linked.map_products hid
    stocked := h.stocked.withdraw id
    coupons := h.coupons.of_same rfl fun _ => rfl
    ledgered := h.ledgered.of_same rfl rfl rfl
    accounted := h.accounted.of_same rfl rfl rfl }

end Tables.Kept

/-- Every change keeps the tables in order. -/
theorem Change.kept {α : Type} {q : Query α} {a : α} {now : Moment} (h : Change now t q a t')
    (hk : t.Kept) : t'.Kept := by
  cases h with
  | still => exact hk
  | joined name => exact hk.join name
  | charged amount hb hpos hroom => exact hk.charge hb hpos hroom
  | stocked p hvalid hfits => exact hk.append_product hvalid hfits
  | issued c => exact hk.append_coupon c
  | placed order hfine => exact hk.place now hfine
  | confirmed ho hs =>
    have hfind := (visible?_eq_some.mp ho).1
    exact hk.map_orders (.setStatus _ _)
      (.setStatus hk.numbered.orders.nodup hfind (by simp [hs]) (by simp))
  | @cancelled id o ho hs hroom =>
    have hfind := (visible?_eq_some.mp ho).1
    obtain rfl : o.id = id := (Tables.find?_eq_some hfind).2
    exact hk.cancel hfind hs hroom
  | archived ho hs => exact hk.map_orders (.archive _) (.archive t _)
  | opened p => exact hk.with_payments (counted_concat hk.numbered.payments rfl)
  | keyed key =>
    refine hk.map_payments fun p => ?_
    split <;> rfl
  | completed =>
    refine hk.map_payments fun p => ?_
    split <;> rfl
  | failed reason =>
    refine hk.map_payments fun p => ?_
    split <;> rfl

end Checkout.Store
