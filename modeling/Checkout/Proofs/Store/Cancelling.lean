-- Cancelling an order, step by step. None of the steps can fail for an order
-- that is seen and not yet cancelled: what it holds was taken out of the same
-- tables, and nobody else has put it back.
import Checkout.Proofs.Store.Accounts
import Checkout.Proofs.Store.Catalog
import Checkout.Proofs.Store.Kept
import Checkout.Proofs.Store.Placing
import Checkout.Proofs.Store.Progress

namespace Checkout.Store

variable {t : Tables}

/-! ## What a list of lines holds -/

/-- How much of a product one line holds. -/
def partOf (line : OrderLine) (product : Id) : Int :=
  if product = line.productId then line.quantity else 0

theorem heldOf_cons (line : OrderLine) (lines : List OrderLine) (id : Id) :
    heldOf (line :: lines) id = partOf line id + heldOf lines id := by
  rw [heldOf, tally_cons, partOf]
  by_cases hid : id = line.productId
  · simp [hid, heldOf]
  · simp [hid, Ne.symm hid, heldOf]

theorem heldOf_nonneg {lines : List OrderLine} (h : ∀ l ∈ lines, 0 ≤ l.quantity) (id : Id) :
    0 ≤ heldOf lines id :=
  tally_nonneg _ h

theorem keys_moveStock (change : Id → Int) :
    (t.moveStock change).keys Product = t.keys Product := by
  simp [Tables.keys, Tables.moveStock, Row.rows, Row.key, Function.comp_def]

/-- The order of the lines plays no part in what they hold. -/
theorem return_perm {lines lines' : List OrderLine} (h : lines.Perm lines')
    (status : CouponStatus) :
    (t.moveStock (heldOf lines)).switchCoupons (lines.filterMap (·.couponId)) status =
      (t.moveStock (heldOf lines')).switchCoupons (lines'.filterMap (·.couponId)) status := by
  have hheld : heldOf lines = heldOf lines' := funext fun id => tally_perm _ _ h
  have hids := fun id => (h.filterMap (·.couponId)).mem_iff (a := id)
  simp only [Tables.switchCoupons, hheld, hids]

/-! ## All lines are given back -/

/-- Lines that can be given back: their products are there and have room for them, and their
coupons are there and in use, each for one of them. -/
structure Returnable (t : Tables) (lines : List OrderLine) : Prop where
  quantity : ∀ l ∈ lines, 0 ≤ l.quantity
  product : ∀ l ∈ lines, l.productId ∈ t.keys Product
  stock_nonneg : ∀ p ∈ t.products, 0 ≤ p.stock
  stock_fits : ∀ p ∈ t.products, p.stock + heldOf lines p.id ≤ 9223372036854775807
  coupon : ∀ id ∈ lines.filterMap (·.couponId), ∃ c : Coupon, t.find? id = some c ∧ c.isUsed = true
  coupons_nodup : (lines.filterMap (·.couponId)).Nodup

theorem Returnable.perm {lines lines' : List OrderLine} (h : Returnable t lines)
    (hp : lines.Perm lines') : Returnable t lines' where
  quantity l hl := h.quantity l (hp.mem_iff.mpr hl)
  product l hl := h.product l (hp.mem_iff.mpr hl)
  stock_nonneg := h.stock_nonneg
  stock_fits p hm := by
    have := h.stock_fits p hm
    rwa [heldOf, tally_perm _ _ hp] at this
  coupon id hid := h.coupon id ((hp.filterMap _).mem_iff.mpr hid)
  coupons_nodup := (hp.filterMap _).nodup_iff.mp h.coupons_nodup

/-- The tables after one line has been given back. -/
def Tables.putBack (t : Tables) (line : OrderLine) : Tables :=
  (t.moveStock (partOf line)).switchCoupons line.couponId.toList .unused

theorem keys_putBack_product (line : OrderLine) : (t.putBack line).keys Product = t.keys Product :=
  keys_moveStock (partOf line)

theorem keys_putBack_coupon (line : OrderLine) : (t.putBack line).keys Coupon = t.keys Coupon :=
  keys_switchCoupons line.couponId.toList .unused

/-- The rest of the lines can be given back once the first one has been. -/
theorem Returnable.tail {line : OrderLine} {lines : List OrderLine}
    (h : Returnable t (line :: lines)) : Returnable (t.putBack line) lines := by
  have hq := h.quantity line List.mem_cons_self
  refine ⟨fun l hl => h.quantity l (List.mem_cons_of_mem line hl), ?_, ?_, ?_, ?_, ?_⟩
  · intro l hl
    rw [keys_putBack_product]
    exact h.product l (List.mem_cons_of_mem line hl)
  · intro p hp
    obtain ⟨q, hm, rfl⟩ := List.mem_map.mp hp
    have := h.stock_nonneg q hm
    simp only [partOf]
    split <;> omega
  · intro p hp
    obtain ⟨q, hm, rfl⟩ := List.mem_map.mp hp
    have := h.stock_fits q hm
    rw [heldOf_cons] at this
    simp only
    omega
  · intro id hid
    have hall : id ∈ (line :: lines).filterMap (·.couponId) := by
      rw [List.filterMap_cons]
      split
      · exact hid
      · exact List.mem_cons_of_mem _ hid
    obtain ⟨c, hc, hu⟩ := h.coupon id hall
    have hother : c.id ∉ line.couponId.toList := by
      intro hmem
      obtain rfl : c.id = id := (Tables.find?_eq_some hc).2
      have hfirst : line.couponId = some c.id := by simpa using hmem
      have hnodup := h.coupons_nodup
      rw [List.filterMap_cons_some hfirst, List.nodup_cons] at hnodup
      exact hnodup.1 hid
    refine ⟨c, ?_, hu⟩
    change (t.switchCoupons line.couponId.toList .unused).find? id = some c
    rw [find?_switchCoupons, hc, Option.map_some, if_neg hother]
  · have hnodup := h.coupons_nodup
    rw [List.filterMap_cons] at hnodup
    split at hnodup
    · exact hnodup
    · exact (List.nodup_cons.mp hnodup).2

theorem restoreFor_calm (coupon : Option Id) (now : Moment) (hn : (t.keys Coupon).Nodup)
    (hc : ∀ id ∈ coupon, ∃ c : Coupon, t.find? id = some c ∧ c.isUsed = true) :
    Orders.restoreFor coupon (.calm now) t =
      .ok ((), t.switchCoupons coupon.toList .unused) := by
  cases coupon with
  | none => simp [Orders.restoreFor, Tables.switchCoupons_nil]
  | some id =>
    obtain ⟨c, hfind, hu⟩ := hc id rfl
    simp only [Orders.restoreFor, Work.bind_run, Coupons.restore_calm now hn hfind hu,
      Work.pure_run, Option.toList_some]

/-- One line after another is one change of the stock and one of the coupons. -/
theorem putBack_return {line : OrderLine} {lines : List OrderLine}
    (h : ((line :: lines).filterMap (·.couponId)).Nodup) :
    ((t.putBack line).moveStock (heldOf lines)).switchCoupons (lines.filterMap (·.couponId))
        .unused =
      (t.moveStock (heldOf (line :: lines))).switchCoupons
        ((line :: lines).filterMap (·.couponId)) .unused := by
  have hstock : (t.moveStock (partOf line)).moveStock (heldOf lines) =
      t.moveStock (heldOf (line :: lines)) := by
    rw [Tables.moveStock_moveStock]
    congr 1
    funext id
    exact (heldOf_cons line lines id).symm
  have hids : (line :: lines).filterMap (·.couponId) =
      line.couponId.toList ++ lines.filterMap (·.couponId) := by
    rw [List.filterMap_cons]
    cases line.couponId <;> rfl
  rw [hids, List.nodup_append] at h
  rw [hids, ← hstock, ← switchCoupons_switchCoupons_ne _ .unused fun id h2 h1 =>
    h.2.2 id h1 id h2 rfl]
  rfl

theorem giveBack_calm (lines : List OrderLine) (now : Moment) (hn : (t.keys Product).Nodup)
    (hc : (t.keys Coupon).Nodup) (h : Returnable t lines) :
    Orders.giveBack lines (.calm now) t =
      .ok ((), (t.moveStock (heldOf lines)).switchCoupons (lines.filterMap (·.couponId))
        .unused) := by
  induction lines generalizing t with
  | nil =>
    rw [List.filterMap_nil, Tables.switchCoupons_nil]
    exact congrArg (fun t => Except.ok ((), t)) t.moveStock_zero.symm
  | cons line lines ih =>
    obtain ⟨p, hp⟩ : ∃ p : Product, t.find? line.productId = some p :=
      Tables.exists_of_mem_keys (h.product line List.mem_cons_self)
    obtain ⟨hm, hid⟩ : p ∈ t.products ∧ p.id = line.productId := Tables.find?_eq_some hp
    have hq := h.quantity line List.mem_cons_self
    have h0 := h.stock_nonneg p hm
    have hfits := h.stock_fits p hm
    have hrest := heldOf_nonneg (fun l hl => h.quantity l (List.mem_cons_of_mem line hl)) p.id
    rw [heldOf_cons, partOf, if_pos hid] at hfits
    have hrestore : Products.restore line.productId line.quantity (.calm now) t =
        .ok ({ p with stock := p.stock + line.quantity }, t.moveStock (partOf line)) :=
      Products.restore_calm line.quantity now hn hp (by omega) (by omega)
    have hcoupon := restoreFor_calm (t := t.moveStock (partOf line)) line.couponId now hc
      fun id hid => h.coupon id (List.mem_filterMap.mpr ⟨line, List.mem_cons_self, hid⟩)
    have hlines := ih (t := t.putBack line) (by rwa [keys_putBack_product])
      (by rwa [keys_putBack_coupon]) h.tail
    rw [putBack_return h.coupons_nodup] at hlines
    simp only [Orders.giveBack, Work.bind_run, hrestore, hcoupon]
    exact hlines

/-! ## The lines of a live order -/

theorem fetchLines_calm (id : Id) (now : Moment) :
    ∃ lines, Orders.fetchLines id (.calm now) t = .ok (lines, t) ∧ lines.Perm (t.linesOf id) := by
  refine ⟨_, ?_, List.mergeSort_perm (t.linesOf id) fun a b => a.lineNo ≤ b.lineNo⟩
  simp only [Orders.fetchLines, Work.bind_run, Work.select_calm, Work.pure_run]
  rfl

theorem isLive_of_find? {id : Id} {o : Order} (ho : t.find? id = some o)
    (hs : o.status ≠ .cancelled) : t.isLive id = true := by
  obtain ⟨hm, hid⟩ : o ∈ t.orders ∧ o.id = id := Tables.find?_eq_some ho
  exact List.any_eq_true.mpr ⟨o, hm, by simp [hid, hs]⟩

theorem mem_linesOf {id : Id} {l : OrderLine} :
    l ∈ t.linesOf id ↔ l ∈ t.lines ∧ l.orderId = id := by
  simp [Tables.linesOf]

/-- What the lines of a live order come to is part of what those of all live orders come to. -/
theorem tally_linesOf_le {id : Id} (meets : OrderLine → Bool) {figure : OrderLine → Int}
    (h : ∀ l ∈ t.lines, 0 ≤ figure l) (hlive : t.isLive id = true) :
    tally meets figure (t.linesOf id) ≤ t.liveTally meets figure := by
  rw [Tables.linesOf, tally_filter]
  apply tally_le_of_imp _ h
  intro l _ hl
  simp only [Bool.and_eq_true, beq_iff_eq] at hl ⊢
  exact ⟨hl.1, hl.2 ▸ hlive⟩

/-- Everything that a live order took can be given back. -/
theorem returnable_linesOf {id : Id} (h : t.Kept) (hlive : t.isLive id = true) :
    Returnable t (t.linesOf id) := by
  have hquantity : ∀ l ∈ t.lines, 0 ≤ l.quantity := fun l hl => by
    have := (h.linked.line_quantity l hl).1
    omega
  have hcount : ∀ c, (((t.linesOf id).filterMap (·.couponId)).count c : Int) ≤ t.liveUses c := by
    intro c
    rw [count_filterMap]
    exact tally_linesOf_le _ (fun _ _ => by decide) hlive
  have hcoupon : ∀ c ∈ (t.linesOf id).filterMap (·.couponId), ∃ row : Coupon,
      t.find? c = some row ∧ row.isUsed = true ∧ t.liveUses c = 1 := by
    intro c hc
    obtain ⟨l, hl, hlc⟩ := List.mem_filterMap.mp hc
    obtain ⟨row, hrow⟩ : ∃ row : Coupon, t.find? c = some row :=
      Tables.exists_of_mem_keys (h.linked.line_coupon l (mem_linesOf.mp hl).1 c hlc)
    obtain ⟨hm, rfl⟩ : row ∈ t.coupons ∧ row.id = c := Tables.find?_eq_some hrow
    have huses := h.coupons row hm
    have hle := hcount row.id
    have hpos := List.count_pos_iff.mpr hc
    cases hu : row.isUsed
    · simp only [hu, Bool.false_eq_true, if_false] at huses
      omega
    · exact ⟨row, hrow, hu, by simpa [hu] using huses⟩
  refine ⟨?_, ?_, h.stocked.stock_nonneg, ?_, ?_, ?_⟩
  · exact fun l hl => hquantity l (mem_linesOf.mp hl).1
  · exact fun l hl => h.linked.line_product l (mem_linesOf.mp hl).1
  · intro p hp
    have : heldOf (t.linesOf id) p.id ≤ t.committed p.id := tally_linesOf_le _ hquantity hlive
    have := h.stocked.stock_fits p hp
    omega
  · intro c hc
    obtain ⟨row, hrow, hu, -⟩ := hcoupon c hc
    exact ⟨row, hrow, hu⟩
  · rw [List.nodup_iff_count_le_one]
    intro c
    by_cases hc : c ∈ (t.linesOf id).filterMap (·.couponId)
    · obtain ⟨row, -, -, huses⟩ := hcoupon c hc
      have := hcount c
      omega
    · rw [List.count_eq_zero_of_not_mem hc]
      exact Nat.zero_le 1

/-! ## The whole order -/

/-- An order that is seen and not cancelled can be cancelled as long as its total has room on
the balance of its user. -/
theorem cancel_calm (id : Id) (now : Moment) (h : t.Kept) :
    Orders.cancel id (.calm now) t =
      match t.visible? id with
      | none => .error (.notFound (.order id))
      | some o =>
        if o.status = .cancelled then .error (.invalidStatus id .cancelled)
        else if (t.pointsOf o.userId).cents + o.finalTotal.cents ≤ 9223372036854775807 then
          .ok ({ o with status := .cancelled }, t.cancel o)
        else .error (.invalid (.balanceTooLarge .refund o.finalTotal)) := by
  simp only [Orders.cancel, Work.bind_run, Orders.fetchVisible_calm]
  cases ho : t.visible? id with
  | none => rfl
  | some o =>
    obtain ⟨hfind, -⟩ := visible?_eq_some.mp ho
    obtain ⟨hm, rfl⟩ : o ∈ t.orders ∧ o.id = id := Tables.find?_eq_some hfind
    by_cases hs : o.status = .cancelled
    · simp only [hs, if_true, Work.bind_run, Work.fail_run]
    have hlive := isLive_of_find? hfind hs
    obtain ⟨lines, hfetch, hperm⟩ := fetchLines_calm (t := t) o.id now
    have hgive := giveBack_calm lines now h.numbered.products.nodup h.numbered.coupons.nodup
      ((returnable_linesOf h hlive).perm hperm.symm)
    rw [return_perm hperm] at hgive
    simp only [if_neg hs, hfetch, hgive, Work.bind_run]
    generalize hreturned : (t.moveStock (heldOf (t.linesOf o.id))).switchCoupons
      ((t.linesOf o.id).filterMap (·.couponId)) .unused = returned
    obtain ⟨b, hb⟩ := h.numbered.exists_balance (h.linked.order_user o hm)
    have hbalance : returned.find? o.userId = some b := hreturned ▸ hb
    have hbalances : (returned.keys Balance).Nodup := by
      rw [← hreturned]
      exact h.numbered.balances_nodup
    have hcredit := Balances.credit_calm .refund (some o.id) now hbalances hbalance
      (h.linked.order_total o hm) (h.ledgered.nonneg b (Tables.find?_eq_some hb).1)
    simp only [Balances.refund, hcredit, pointsOf_eq hb]
    by_cases hroom : b.amount.cents + o.finalTotal.cents ≤ 9223372036854775807
    · simp only [if_pos hroom]
      have horders :
          ((returned.book o.userId .refund o.finalTotal (some o.id)).keys Order).Nodup := by
        rw [← hreturned]
        exact h.numbered.orders.nodup
      have hvisible : (returned.book o.userId .refund o.finalTotal (some o.id)).visible? o.id =
          some o := by
        rw [← hreturned]
        exact ho
      simp only [Orders.transition_calm o.status .cancelled now horders hvisible, if_true,
        Work.pure_run]
      rw [← hreturned]
      rfl
    · simp only [if_neg hroom]

end Checkout.Store
