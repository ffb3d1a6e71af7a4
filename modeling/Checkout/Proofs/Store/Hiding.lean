-- What is hidden from those who ask. Whatever the medium is like, an archived
-- order is missing for every query that names it. A coupon of another user is
-- turned down where it is looked for, before anything is taken for the order,
-- so that an order that names it comes to the same as if it were not there.
import Checkout.Proofs.Store.Progress

namespace Checkout.Store

namespace Tables

/-- The tables without an order, its lines and its payments. -/
def withoutOrder (t : Tables) (id : Id) : Tables :=
  { t with
    orders := t.orders.filter (·.id != id)
    lines := t.lines.filter (·.orderId != id)
    payments := t.payments.filter (·.orderId != id) }

/-- The tables without a coupon. -/
def withoutCoupon (t : Tables) (id : Id) : Tables :=
  { t with coupons := t.coupons.filter (·.id != id) }

theorem find?_withoutOrder (t : Tables) (id : Id) :
    ((t.withoutOrder id).find? id : Option Order) = none := by
  simp [find?, withoutOrder, Row.rows, Row.key]

theorem find?_withoutCoupon (t : Tables) (id : Id) :
    ((t.withoutCoupon id).find? id : Option Coupon) = none := by
  simp [find?, withoutCoupon, Row.rows, Row.key]

theorem find?_withoutCoupon_ne (t : Tables) {id other : Id} (h : other ≠ id) :
    ((t.withoutCoupon id).find? other : Option Coupon) = t.find? other := by
  change (t.coupons.filter (·.id != id)).find? (·.id == other) = t.coupons.find? (·.id == other)
  rw [List.find?_filter]
  congr 1
  funext c
  by_cases hc : c.id = other <;> simp [hc, h]

end Tables

variable {t : Tables} {c : Conditions}

/-! ## Rows that are not found -/

theorem Work.fetch_run {α : Type} [Row α] (id : Id) (visible : α → Bool) (c : Conditions)
    (t : Tables) :
    Work.fetch id visible c t =
      if ((t.find? id).filter visible).any (c.medium.isDamaged (Row.table α) <| Row.key ·) then
        .error (.storage (.damaged (Enumeration.word (Row.table α))))
      else .ok ((t.find? id).filter visible, t) := by
  cases h : (t.find? id).filter visible with
  | none => simp [fetch, reading, h]
  | some row =>
    simp only [fetch, bind_run, view_run, h, reading, Option.toList_some, List.any_cons,
      List.any_nil, Bool.or_false, Option.any_some]
    by_cases hdamaged : c.medium.isDamaged (Row.table α) (Row.key row) = true
    · simp only [if_pos hdamaged]
    · simp only [if_neg hdamaged, pure_run, List.head?_cons]

/-- What cannot be seen cannot be damaged. -/
theorem Work.fetch_hidden {α : Type} [Row α] {id : Id} {visible : α → Bool}
    (h : (t.find? id).filter visible = none) (c : Conditions) :
    Work.fetch id visible c t = .ok (none, t) := by
  rw [fetch_run, h]
  rfl

theorem Work.fetch_readable {α : Type} [Row α] {id : Id} (visible : α → Bool)
    (h : c.medium.isDamaged (Row.table α) id = false) (t : Tables) :
    Work.fetch id visible c t = .ok ((t.find? id).filter visible, t) := by
  have hfine : ((t.find? id).filter visible).any
      (c.medium.isDamaged (Row.table α) <| Row.key ·) = false := by
    cases hfound : (t.find? id).filter visible with
    | none => rfl
    | some row =>
      obtain ⟨hfind, -⟩ := Option.filter_eq_some_iff.mp hfound
      rw [Option.any_some, (Tables.find?_eq_some hfind).2, h]
  rw [fetch_run, hfine]
  rfl

/-- A row that is the same in both tables is read in the same way. -/
theorem Work.fetch_same {α : Type} [Row α] {id : Id} {t' : Tables}
    (h : (t'.find? id : Option α) = t.find? id) (visible : α → Bool) (c : Conditions) :
    (∃ f, Work.fetch id visible c t = .error f ∧ Work.fetch id visible c t' = .error f) ∨
      Work.fetch id visible c t = .ok ((t.find? id).filter visible, t) ∧
        Work.fetch id visible c t' = .ok ((t.find? id).filter visible, t') := by
  rw [fetch_run, fetch_run, h]
  split
  · exact .inl ⟨_, rfl, rfl⟩
  · exact .inr ⟨rfl, rfl⟩

/-! ## Orders out of sight -/

/-- The order that a query names, if it needs to see it. -/
def Query.needs? {α : Type} : Query α → Option Id
  | .confirmOrder id | .cancelOrder id | .archiveOrder id => some id
  | .openPayment p => some p.orderId
  | _ => none

section Unseen

variable {id : Id} (h : t.visible? id = none) (c : Conditions)
include h

theorem Orders.fetch_unseen : Orders.fetch id c t = .ok (none, t) := Work.fetch_hidden h c

theorem Orders.fetchVisible_unseen :
    Orders.fetchVisible id c t = .error (.notFound (.order id)) := by
  simp only [fetchVisible, Work.bind_run, fetch_unseen h c, Work.orFail_none]

/-- No write is tried, so the medium has no say. -/
theorem Orders.transition_unseen (source target : OrderStatus) :
    Orders.transition id source target c t = .ok (none, t) := by
  have hnone : (t.find? id : Option Order).filter
      (fun o => o.status == source && !o.archived) = none := by
    rw [Tables.visible?, Option.filter_eq_none_iff] at h
    rw [Option.filter_eq_none_iff]
    intro o ho hboth
    exact h o ho (Bool.and_eq_true_iff.mp hboth).2
  simp [transition, Work.update, Work.change, hnone, Work.reading]

/-- An order out of sight is missing for every query that needs to see it. -/
theorem Query.work_unseen {α : Type} {q : Query α} (hq : q.needs? = some id) :
    q.work c t = .error (.notFound (.order id)) := by
  cases q
  case confirmOrder other =>
    cases hq
    simp only [work, Orders.confirm, Orders.rejectTransition, Work.bind_run,
      Orders.transition_unseen h, Orders.fetchVisible_unseen h]
  case cancelOrder other =>
    cases hq
    simp only [work, Orders.cancel, Work.bind_run, Orders.fetchVisible_unseen h]
  case archiveOrder other =>
    cases hq
    simp only [work, Orders.archive, Work.bind_run, Orders.fetchVisible_unseen h]
  case openPayment p =>
    cases hq
    simp only [work, Payments.openFor, Work.bind_run, Orders.fetchVisible_unseen h]
  all_goals cases hq

end Unseen

/-- No list of orders has one that is out of sight. -/
theorem Orders.ofUser_visible {userId : Id} {orders : List Order} {t' : Tables}
    (h : Orders.ofUser userId c t = .ok (orders, t')) :
    ∀ o ∈ orders, o ∈ t.orders ∧ o.archived = false := by
  simp only [ofUser, Work.select, Work.bind_run, Work.view_run, Work.reading] at h
  split at h
  · next rows after hread =>
    split at hread
    · cases hread
    · cases hread
      cases h
      intro o ho
      obtain ⟨hmem, hmeets⟩ := List.mem_filter.mp (List.mem_reverse.mp ho)
      exact ⟨hmem, by simpa using (Bool.and_eq_true_iff.mp hmeets).2⟩
  · cases h

/-! ## Coupons of others -/

/-- A coupon of somebody else is missing, be it there or not. -/
theorem Coupons.fetchOwned_foreign {id userId : Id}
    (hforeign : ∀ coupon : Coupon, t.find? id = some coupon → coupon.ownerId ≠ userId)
    (hreadable : c.medium.isDamaged .coupons id = false) :
    Coupons.fetchOwned id userId c t = .error (.notFound (.coupon id)) := by
  have hnone : (((t.find? id : Option Coupon).filter fun _ => true).filter
      (·.ownerId == userId)) = none := by
    rw [Option.filter_eq_none_iff]
    intro coupon hcoupon
    simpa using hforeign coupon (Option.filter_eq_some_iff.mp hcoupon).1
  have hfetch := Work.fetch_readable (α := Coupon) (fun _ => true) hreadable t
  simp only [fetchOwned, fetch, Work.bind_run, hfetch, hnone, Work.orFail_none]

/-- Any other coupon is found in the same way. -/
theorem Coupons.fetchOwned_withoutCoupon_ne {id other : Id} (userId : Id) (h : other ≠ id)
    (c : Conditions) (t : Tables) :
    (∃ f, Coupons.fetchOwned other userId c t = .error f ∧
      Coupons.fetchOwned other userId c (t.withoutCoupon id) = .error f) ∨
    ∃ coupon, Coupons.fetchOwned other userId c t = .ok (coupon, t) ∧
      Coupons.fetchOwned other userId c (t.withoutCoupon id) =
        .ok (coupon, t.withoutCoupon id) := by
  simp only [fetchOwned, fetch, Work.bind_run]
  obtain ⟨f, hf, hf'⟩ | ⟨hok, hok'⟩ :=
    Work.fetch_same (t.find?_withoutCoupon_ne h) (fun _ : Coupon => true) c
  · exact .inl ⟨f, by simp only [hf], by simp only [hf']⟩
  · simp only [hok, hok']
    cases ((t.find? other : Option Coupon).filter fun _ => true).filter (·.ownerId == userId) with
    | none => exact .inl ⟨_, rfl, rfl⟩
    | some coupon => exact .inr ⟨coupon, rfl, rfl⟩

namespace Orders

/-- The check fails at the coupon of somebody else or before it, for the same reason as if that
coupon were not there. -/
theorem checkCoupons_foreign {id userId : Id} {ids : List Id} (hid : id ∈ ids)
    (hforeign : ∀ coupon : Coupon, t.find? id = some coupon → coupon.ownerId ≠ userId)
    (hreadable : c.medium.isDamaged .coupons id = false) :
    ∃ f, checkCoupons userId ids c t = .error f ∧
      checkCoupons userId ids c (t.withoutCoupon id) = .error f := by
  induction ids with
  | nil => cases hid
  | cons first ids ih =>
    simp only [checkCoupons, Work.bind_run]
    by_cases hfirst : first = id
    · subst hfirst
      rw [Coupons.fetchOwned_foreign hforeign hreadable, Coupons.fetchOwned_foreign
        (fun coupon h => by rw [t.find?_withoutCoupon] at h; cases h) hreadable]
      exact ⟨_, rfl, rfl⟩
    · obtain ⟨f, hf, hf'⟩ | ⟨coupon, hok, hok'⟩ :=
        Coupons.fetchOwned_withoutCoupon_ne userId hfirst c t
      · rw [hf, hf']
        exact ⟨f, rfl, rfl⟩
      · rw [hok, hok']
        exact ih ((List.mem_cons.mp hid).resolve_left (Ne.symm hfirst))

/-- No order is placed with a coupon of somebody else, and the reason tells nothing of it. -/
theorem place_foreign {order : NewOrder} {id : Id}
    (hid : id ∈ order.lines.filterMap (·.couponId))
    (hforeign : ∀ coupon : Coupon, t.find? id = some coupon → coupon.ownerId ≠ order.userId)
    (hreadable : c.medium.isDamaged .coupons id = false) :
    ∃ f, place order c t = .error f ∧ place order c (t.withoutCoupon id) = .error f := by
  have huser : ((t.withoutCoupon id).find? order.userId : Option User) = t.find? order.userId :=
    rfl
  obtain ⟨f, hf, hf'⟩ := checkCoupons_foreign hid hforeign hreadable
  simp only [place, Users.fetch, Work.bind_run]
  obtain ⟨g, hg, hg'⟩ | ⟨hok, hok'⟩ := Work.fetch_same huser (fun _ : User => true) c
  · exact ⟨g, by simp only [hg], by simp only [hg']⟩
  · simp only [hok, hok']
    cases (t.find? order.userId : Option User).filter fun _ => true with
    | none => exact ⟨_, rfl, rfl⟩
    | some user =>
      simp only [Work.orFail_some, hf, hf']
      exact ⟨f, rfl, rfl⟩

end Orders

end Checkout.Store
