-- What the units of work on products and coupons come to.
import Checkout.Proofs.Store.Calm
import Checkout.Proofs.Store.Effects

namespace Checkout.Store

/-! ## Products -/

theorem Products.insert_calm (p : NewProduct) (now : Moment) (t : Tables) :
    Products.insert p (.calm now) t =
      if p.isValid then .ok (t.newProduct p, t.append (t.newProduct p))
      else .error (.invalid .negativePriceOrStock) := by
  cases h : p.isValid
  · simp [Products.insert, h]
  · simp only [Products.insert, h, Bool.not_true, Bool.false_eq_true, if_false, if_true,
      Work.insertAndGet_calm, Work.pure_run]
    rfl

section Stock

variable {t : Tables} {id : Id} {p : Product}

theorem replace_eq_moveStock (quantity : Int) (hn : (t.keys Product).Nodup)
    (hp : t.find? id = some p) :
    t.replace id { p with stock := p.stock + quantity } =
      t.moveStock fun product => if product = id then quantity else 0 := by
  rw [Tables.replace_eq_amend (fun p => { p with stock := p.stock + quantity }) hn hp]
  unfold Tables.amend Tables.moveStock
  change { t with products := t.products.map _ } = _
  congr 1
  apply List.map_congr_left
  intro other _
  by_cases hid : other.id = id
  · simp only [Row.key, hid, if_true]
  · simp only [Row.key, hid, if_false, Int.add_zero]

/-- Stock is reserved exactly if the product is for sale and has enough of it. -/
theorem Products.reserve_calm (quantity : Int) (now : Moment) (hn : (t.keys Product).Nodup)
    (hfits : ∀ p ∈ t.products, Fits p.stock) (hq : 0 ≤ quantity) :
    Products.reserve id quantity (.calm now) t =
      match (t.find? id : Option Product).filter (!·.deleted) with
      | none => .error (.notFound (.product id))
      | some p =>
        if quantity ≤ p.stock then
          .ok ({ p with stock := p.stock - quantity },
            t.moveStock fun product => if product = id then -quantity else 0)
        else .error (.insufficientStock id quantity p.stock) := by
  simp only [Products.reserve, Work.bind_run, Work.update_calm, fetchActive]
  cases hp : (t.find? id : Option Product) with
  | none => simp [Work.fetch_calm, hp]
  | some p =>
    have hfit : Fits p.stock := hfits p (Tables.find?_eq_some hp).1
    by_cases hd : p.deleted = true
    · simp [Option.filter_some, Work.fetch_calm, hp, hd]
    · by_cases hle : quantity ≤ p.stock
      · have hkept :
            (decide (0 ≤ p.stock - quantity) && decide (Fits (p.stock - quantity))) = true := by
          simp only [Bool.and_eq_true, decide_eq_true_eq]
          omega
        have hsale : (!p.deleted) = true := by simpa using hd
        simp only [Option.filter_some, hsale, decide_eq_true hle, Bool.and_self, if_pos hle,
          withStock, Work.bind_run, Work.constrain_run, hkept, Work.pure_run, if_true]
        rw [← replace_eq_moveStock (-quantity) hn hp]
        rfl
      · simp [Option.filter_some, Work.fetch_calm, hp, hd, hle]

/-- What fits is put back, whether or not the product is deleted. -/
theorem Products.restore_calm (quantity : Int) (now : Moment) (hn : (t.keys Product).Nodup)
    (hp : t.find? id = some p) (h0 : 0 ≤ p.stock + quantity) (hfits : Fits (p.stock + quantity)) :
    Products.restore id quantity (.calm now) t =
      .ok ({ p with stock := p.stock + quantity },
        t.moveStock fun product => if product = id then quantity else 0) := by
  have hkept : (decide (0 ≤ p.stock + quantity) && decide (Fits (p.stock + quantity))) = true := by
    simp only [Bool.and_eq_true, decide_eq_true_eq]
    exact ⟨h0, hfits⟩
  simp only [Products.restore, Work.bind_run, Work.update_calm, hp, Option.filter_some, if_true,
    withStock, Work.constrain_run, hkept, Work.pure_run, Work.orFail_some]
  rw [replace_eq_moveStock quantity hn hp]

end Stock

/-- A product that is off sale stays so. -/
theorem Products.delete_calm (id : Id) (now : Moment) (t : Tables) (hn : (t.keys Product).Nodup) :
    ∃ count, Products.delete id (.calm now) t = .ok (count, t.withdraw id) := by
  simp only [Products.delete, Work.bind_run, Work.change_calm]
  have hsame : (∀ p ∈ t.products, p.id = id → p.deleted = true) → t.withdraw id = t := by
    intro hall
    unfold Tables.withdraw
    rw [List.map_congr_left (g := fun p => p), List.map_id']
    intro p hp
    split
    · rw [← hall p hp ‹_›]
    · rfl
  cases hp : (t.find? id : Option Product) with
  | none =>
    refine ⟨0, ?_⟩
    have hnone : id ∉ t.keys Product := Tables.find?_eq_none_iff.mp hp
    rw [hsame fun p hm hid => absurd (hid ▸ List.mem_map_of_mem hm) hnone]
    simp
  | some p =>
    by_cases hd : p.deleted = true
    · refine ⟨0, ?_⟩
      rw [hsame fun other hm hid => ?_]
      · simp [Option.filter_some, hd]
      · have hfound : (t.find? other.id : Option Product) = some other := Tables.find?_of_mem hn hm
        rw [hid, hp] at hfound
        cases hfound
        exact hd
    · refine ⟨1, ?_⟩
      simp only [Option.filter_some, hd, Bool.not_false, if_true, Work.pure_run]
      exact congrArg (fun t => Except.ok (1, t))
        (Tables.replace_eq_amend (fun p : Product => { p with deleted := true }) hn hp)

/-! ## Coupons -/

theorem Coupons.issue_calm (c : NewCoupon) (now : Moment) (t : Tables) :
    Coupons.issue c (.calm now) t =
      match (t.find? c.ownerId : Option User) with
      | none => .error (.notFound (.user c.ownerId))
      | some _ =>
        if c.isValid then .ok (t.newCoupon c, t.append (t.newCoupon c))
        else .error (.invalid (.couponDiscount c.kind c.discount)) := by
  simp only [Coupons.issue, Work.bind_run, Work.fetch_calm]
  cases ho : (t.find? c.ownerId : Option User) with
  | none => simp
  | some user =>
    simp only [Option.filter_some, if_true, Work.orFail_some, Coupons.insert]
    cases h : c.isValid
    · simp
    · simp only [Bool.not_true, Bool.false_eq_true, if_false, if_true, Work.insertAndGet_calm,
        Work.pure_run]
      rfl

section Status

variable {t : Tables} {id : Id} {c : Coupon}

theorem Coupons.swap_calm (status : CouponStatus) (now : Moment) (hn : (t.keys Coupon).Nodup)
    (hc : t.find? id = some c) :
    Coupons.swap c status (.calm now) t =
      .ok (c.switched status, t.switchCoupons [id] status) := by
  obtain rfl : c.id = id := (Tables.find?_eq_some hc).2
  simp only [Coupons.swap, Work.bind_run, Work.update_calm, hc, Option.filter_some,
    beq_self_eq_true, if_true, Work.pure_run, Work.orFail_some]
  rw [Tables.switchCoupons]
  simp only [List.mem_singleton]
  exact congrArg (fun t => Except.ok (c.switched status, t))
    (Tables.replace_eq_amend (·.switched status) hn hc)

/-- A coupon can be used up by its owner as long as it is not in use. -/
theorem Coupons.consume_calm (now : Moment) (hn : (t.keys Coupon).Nodup)
    (hc : t.find? id = some c) :
    Coupons.consume id c.ownerId (.calm now) t =
      if c.isUsed then .error (.alreadyUsed id)
      else .ok (c.switched .used, t.switchCoupons [id] .used) := by
  simp only [Coupons.consume, fetchOwned, fetch, Work.bind_run, Work.fetch_calm, hc,
    Option.filter_some, beq_self_eq_true, if_true, Work.orFail_some]
  cases hu : c.isUsed
  · simp only [Bool.false_eq_true, if_false, swap_calm .used now hn hc]
  · simp

theorem Coupons.restore_calm (now : Moment) (hn : (t.keys Coupon).Nodup)
    (hc : t.find? id = some c) (hu : c.isUsed = true) :
    Coupons.restore id (.calm now) t =
      .ok (c.switched .unused, t.switchCoupons [id] .unused) := by
  simp only [Coupons.restore, fetch, Work.bind_run, Work.fetch_calm, hc, Option.filter_some,
    if_true, Work.orFail_some, hu, swap_calm .unused now hn hc]

end Status

end Checkout.Store
