-- Every change leaves the rows numbered from one, and every name in them the
-- name of a row that is there.
import Checkout.Proofs.Store.Admission

namespace Checkout.Store

variable {t : Tables}

/-! ## Rows changed in place -/

/-- A change of an order that leaves alone what other rows and the accounts rely on. -/
structure SameAccount (f : Order → Order) : Prop where
  id : ∀ o, (f o).id = o.id
  user : ∀ o, (f o).userId = o.userId
  total : ∀ o, (f o).finalTotal = o.finalTotal

theorem SameAccount.setStatus (id : Id) (status : OrderStatus) :
    SameAccount fun o => if o.id = id then { o with status } else o := by
  refine ⟨fun o => ?_, fun o => ?_, fun o => ?_⟩ <;> split <;> rfl

theorem SameAccount.archive (id : Id) :
    SameAccount fun o => if o.id = id then { o with archived := true } else o := by
  refine ⟨fun o => ?_, fun o => ?_, fun o => ?_⟩ <;> split <;> rfl

theorem map_keys {α β : Type} {f : α → α} {key : α → β} (h : ∀ a, key (f a) = key a)
    (rows : List α) : (rows.map f).map key = rows.map key := by
  rw [List.map_map]
  exact List.map_congr_left fun a _ => h a

theorem map_concat {α β : Type} (key : α → β) (rows : List α) (row : α) :
    (rows ++ [row]).map key = rows.map key ++ [key row] := by
  rw [List.map_append]
  rfl

theorem switched_id (ids : List Id) (status : CouponStatus) (c : Coupon) :
    (if c.id ∈ ids then c.switched status else c).id = c.id := by
  split <;> rfl

theorem booked_userId (userId : Id) (change : Money) (b : Balance) :
    (if b.userId = userId then { b with amount := b.amount.plus change } else b).userId =
      b.userId := by
  split <;> rfl

theorem mem_keys_concat {α β : Type} {key : α → β} {rows : List α} {row : α} {b : β}
    (h : b ∈ rows.map key) : b ∈ (rows ++ [row]).map key := by
  rw [List.map_append]
  exact List.mem_append_left _ h

/-- What holds of the rows that there are and of the one that is added holds of all. -/
theorem forall_mem_concat {α : Type} {P : α → Prop} {rows : List α} {row : α}
    (h : ∀ r ∈ rows, P r) (hrow : P row) : ∀ r ∈ rows ++ [row], P r :=
  List.forall_mem_append.mpr ⟨h, List.forall_mem_singleton.mpr hrow⟩

/-! ## Numbers -/

/-- A row added under the next id. -/
theorem counted_concat {α : Type} {key : α → Id} {rows : List α} {row : α}
    (h : Counted (rows.map key)) (hrow : key row = (rows.length : Int) + 1) :
    Counted ((rows ++ [row]).map key) := by
  have hnext := h.concat
  rw [List.length_map] at hnext
  rwa [map_concat, hrow]

theorem counted_map {α : Type} {key : α → Id} {f : α → α} {rows : List α}
    (h : Counted (rows.map key)) (hf : ∀ a, key (f a) = key a) :
    Counted ((rows.map f).map key) := by
  rwa [map_keys hf]

namespace Tables.Numbered

variable (h : t.Numbered)
include h

theorem join (name : String) : (t.join name).Numbered := by
  have husers : (t.join name).keys User = t.keys User ++ [t.nextId User] :=
    map_concat User.id t.users _
  have hbalances : (t.join name).keys Balance = t.keys Balance ++ [t.nextId User] :=
    map_concat Balance.userId t.balances _
  refine { h with users := counted_concat h.users rfl, balances := ?_ }
  rw [hbalances, husers, h.balances]

theorem book (userId : Id) (kind : LedgerKind) (change : Money) (orderId : Option Id) :
    (t.book userId kind change orderId).Numbered := by
  refine { h with balances := ?_, history := counted_concat h.history rfl }
  change (t.balances.map _).map Balance.userId = t.users.map User.id
  rw [map_keys (booked_userId userId change)]
  exact h.balances

theorem map_products {f : Product → Product} (hf : ∀ p, (f p).id = p.id) :
    Numbered { t with products := t.products.map f } :=
  { h with products := counted_map h.products hf }

theorem map_coupons {f : Coupon → Coupon} (hf : ∀ c, (f c).id = c.id) :
    Numbered { t with coupons := t.coupons.map f } :=
  { h with coupons := counted_map h.coupons hf }

theorem map_orders {f : Order → Order} (hf : ∀ o, (f o).id = o.id) :
    Numbered { t with orders := t.orders.map f } :=
  { h with orders := counted_map h.orders hf }

theorem moveStock (change : Id → Int) : (t.moveStock change).Numbered :=
  h.map_products fun _ => rfl

theorem switchCoupons (ids : List Id) (status : CouponStatus) :
    (t.switchCoupons ids status).Numbered :=
  h.map_coupons (switched_id ids status)

theorem setStatus (id : Id) (status : OrderStatus) : (t.setStatus id status).Numbered :=
  h.map_orders (SameAccount.setStatus id status).id

theorem place (order : NewOrder) (now : Moment) : (t.place order now).Numbered := by
  have hpaid : Numbered (((t.takeStock order.lines).switchCoupons
      (order.lines.filterMap (·.couponId)) .used).book order.userId .debit
      (Money.saturated (t.dueTotal order.lines)).opposite (some (t.nextId Order))) :=
    ((h.moveStock _).switchCoupons _ _).book _ _ _ _
  refine { hpaid with orders := counted_concat h.orders rfl, lines := ?_, payments := ?_ }
  · change Counted ((t.lines ++ t.placedLines order).map OrderLine.id)
    have hids : (t.placedLines order).map OrderLine.id =
        (List.range order.lines.length).map fun i : Nat =>
          ((t.lines.map OrderLine.id).length : Int) + 1 + i := by
      apply List.ext_getElem
      · simp [Tables.placedLines]
      · intro i _ _
        simp [Tables.placedLines, Tables.nextId, Row.rows]
    rw [List.map_append, hids]
    exact h.lines.append _
  · change Counted ((t.payments ++ (t.placedPayment order now).toList).map Payment.id)
    cases hd : order.payment with
    | none =>
      simp only [Tables.placedPayment, hd, Option.map_none, Option.toList_none, List.append_nil]
      exact h.payments
    | some details =>
      simp only [Tables.placedPayment, hd, Option.map_some, Option.toList_some]
      exact counted_concat h.payments rfl

theorem cancel (order : Order) : (t.cancel order).Numbered :=
  (((h.moveStock _).switchCoupons _ _).book _ _ _ _).setStatus _ _

end Tables.Numbered

/-! ## Names of other rows -/

namespace Tables.Linked

variable (h : t.Linked)
include h

theorem join (name : String) : (t.join name).Linked :=
  { h with
    order_user := fun o ho => mem_keys_concat (h.order_user o ho)
    entry_user := fun e he => mem_keys_concat (h.entry_user e he) }

theorem append_product (p : Product) : (t.append p).Linked :=
  { h with line_product := fun l hl => mem_keys_concat (h.line_product l hl) }

theorem append_coupon (c : Coupon) : (t.append c).Linked :=
  { h with line_coupon := fun l hl id hid => mem_keys_concat (h.line_coupon l hl id hid) }

theorem book {userId : Id} (kind : LedgerKind) (change : Money) {orderId : Option Id}
    (huser : userId ∈ t.keys User) (horder : ∀ id ∈ orderId, id ∈ t.keys Order) :
    (t.book userId kind change orderId).Linked :=
  { h with
    entry_user := forall_mem_concat h.entry_user huser
    entry_order := forall_mem_concat h.entry_order horder }

theorem map_products {f : Product → Product} (hf : ∀ p, (f p).id = p.id) :
    Linked { t with products := t.products.map f } := by
  refine { h with line_product := fun l hl => ?_ }
  change l.productId ∈ (t.products.map f).map Product.id
  rw [map_keys hf]
  exact h.line_product l hl

theorem map_coupons {f : Coupon → Coupon} (hf : ∀ c, (f c).id = c.id) :
    Linked { t with coupons := t.coupons.map f } := by
  refine { h with line_coupon := fun l hl id hid => ?_ }
  change id ∈ (t.coupons.map f).map Coupon.id
  rw [map_keys hf]
  exact h.line_coupon l hl id hid

theorem map_orders {f : Order → Order} (hf : SameAccount f) :
    Linked { t with orders := t.orders.map f } := by
  have hkeys : ∀ {id : Id}, id ∈ t.keys Order →
      id ∈ Tables.keys Order { t with orders := t.orders.map f } := by
    intro id hid
    change id ∈ (t.orders.map f).map Order.id
    rw [map_keys hf.id]
    exact hid
  refine { h with
    order_user := ?_
    order_total := ?_
    line_order := fun l hl => hkeys (h.line_order l hl)
    entry_order := fun e he id hid => hkeys (h.entry_order e he id hid) }
  · intro o ho
    obtain ⟨original, hm, rfl⟩ := List.mem_map.mp ho
    rw [hf.user]
    exact h.order_user original hm
  · intro o ho
    obtain ⟨original, hm, rfl⟩ := List.mem_map.mp ho
    rw [hf.total]
    exact h.order_total original hm

theorem moveStock (change : Id → Int) : (t.moveStock change).Linked :=
  h.map_products fun _ => rfl

theorem switchCoupons (ids : List Id) (status : CouponStatus) :
    (t.switchCoupons ids status).Linked :=
  h.map_coupons (switched_id ids status)

theorem setStatus (id : Id) (status : OrderStatus) : (t.setStatus id status).Linked :=
  h.map_orders (SameAccount.setStatus id status)

/-- The order goes in first, and then its lines, which may name it. -/
theorem append_order {o : Order} (huser : o.userId ∈ t.keys User)
    (htotal : 0 ≤ o.finalTotal.cents) : Linked { t with orders := t.orders ++ [o] } :=
  { h with
    order_user := forall_mem_concat h.order_user huser
    order_total := forall_mem_concat h.order_total htotal
    line_order := fun l hl => mem_keys_concat (h.line_order l hl)
    entry_order := fun e he id hid => mem_keys_concat (h.entry_order e he id hid) }

theorem append_lines (lines : List OrderLine) (horder : ∀ l ∈ lines, l.orderId ∈ t.keys Order)
    (hproduct : ∀ l ∈ lines, l.productId ∈ t.keys Product)
    (hcoupon : ∀ l ∈ lines, ∀ id ∈ l.couponId, id ∈ t.keys Coupon)
    (hquantity : ∀ l ∈ lines, 1 ≤ l.quantity ∧ l.quantity ≤ largestQuantity) :
    Linked { t with lines := t.lines ++ lines } :=
  { h with
    line_order := List.forall_mem_append.mpr ⟨h.line_order, horder⟩
    line_product := List.forall_mem_append.mpr ⟨h.line_product, hproduct⟩
    line_coupon := List.forall_mem_append.mpr ⟨h.line_coupon, hcoupon⟩
    line_quantity := List.forall_mem_append.mpr ⟨h.line_quantity, hquantity⟩ }

/-- What the lines of a new order name is what was asked for. -/
theorem place {order : NewOrder} (now : Moment) (hstock : t.Stocked) (hfine : order.Admissible t) :
    (t.place order now).Linked := by
  have htaken := (h.moveStock fun id => -askedOf order.lines id).switchCoupons
    (order.lines.filterMap (·.couponId)) .used
  have htotal : 0 ≤ (t.placedOrder order).finalTotal.cents := by
    rw [Tables.placedOrder, hfine.due_cents hstock]
    exact (hfine.due_bounds hstock).1
  have hnew : t.nextId Order ∈ (t.orders ++ [t.placedOrder order]).map Order.id := by
    simp [Tables.placedOrder]
  have hnamed : ∀ id ∈ some (t.nextId Order),
      id ∈ (t.orders ++ [t.placedOrder order]).map Order.id :=
    fun id hid => Option.some.inj hid ▸ hnew
  have hline : ∀ l ∈ t.placedLines order, ∃ new ∈ order.lines, l.orderId = t.nextId Order ∧
      l.productId = new.productId ∧ l.couponId = new.couponId ∧ l.quantity = new.quantity := by
    intro l hl
    obtain ⟨i, hi, rfl⟩ := List.mem_mapIdx.mp hl
    exact ⟨order.lines[i], List.getElem_mem hi, rfl, rfl, rfl, rfl⟩
  have hordered := htaken.append_order (o := t.placedOrder order) hfine.user htotal
  have hbooked := hordered.book .debit (Money.saturated (t.dueTotal order.lines)).opposite
    hfine.user hnamed
  have hstored := hbooked.append_lines (t.placedLines order)
    (fun l hl => by
      obtain ⟨new, -, hid, -⟩ := hline l hl
      rw [hid]
      exact hnew)
    (fun l hl => by
      obtain ⟨new, hm, -, hid, -⟩ := hline l hl
      change l.productId ∈ (t.takeStock order.lines).keys Product
      rw [hid, keys_takeStock]
      exact hfine.product_mem new hm)
    (fun l hl id hid => by
      obtain ⟨new, hm, -, -, hcoupon, -⟩ := hline l hl
      change id ∈ (t.switchCoupons (order.lines.filterMap (·.couponId)) .used).keys Coupon
      rw [keys_switchCoupons]
      exact hfine.coupon_mem new hm id (hcoupon ▸ hid))
    (fun l hl => by
      obtain ⟨new, hm, -, -, -, hquantity⟩ := hline l hl
      rw [hquantity]
      exact hfine.well_formed.quantity_in_range new hm)
  exact { hstored with }

theorem cancel {order : Order} (horder : order ∈ t.orders) : (t.cancel order).Linked := by
  refine (((h.moveStock _).switchCoupons _ _).book .refund order.finalTotal ?_ ?_).setStatus _ _
  · exact h.order_user order horder
  · intro id hid
    obtain rfl : order.id = id := by simpa using hid
    exact List.mem_map_of_mem horder

end Tables.Linked

end Checkout.Store
