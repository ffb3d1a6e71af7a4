-- All that the answer to a query can have done to the tables. Each kind of
-- change comes with what was checked before it, so that what holds of the
-- tables at any time can be shown change by change.
import Checkout.Proofs.Store.Admission
import Checkout.Proofs.Store.Cancelling
import Checkout.Proofs.Store.Honest
import Checkout.Store.Query

namespace Checkout.Store

/-- The query does not ask for more than the code that asks it makes sure of: a new order is well
formed, and the stock of a new product is a number of 64 bits. -/
def Query.Proper {α : Type} : Query α → Prop
  | .placeOrder new => new.WellFormed
  | .createProduct p => Fits p.stock
  | _ => True

/-- An answer that tells of no change: one to a query that only reads, or one that says that there
was nothing to change. -/
def Query.changesNothing {α : Type} : Query α → α → Bool
  | .user _, _ | .balance _, _ | .history _, _ | .product _, _ | .coupon _, _ | .order _, _
  | .orderLines _, _ | .ordersOfUser _, _ | .payment _, _ | .paymentWithKey _, _
  | .paymentsOfOrder _, _ | .stalePayments _, _ => true
  | .assignKey _ _, a => a.isNone
  | .completePayment _, a => a.isNone
  | .failPayment _ _, a => a.isNone
  | _, _ => false

/-- What an answer that tells of no change says about the tables. Those whose rows are damaged may
be missing among the stale payments. -/
def Query.Tells (t : Tables) : {α : Type} → Query α → α → Prop
  | _, .user id, a => a = t.find? id
  | _, .balance userId, a => a = t.find? userId
  | _, .history userId, a => a = t.entriesOf userId
  | _, .product id, a => a = (t.find? id).filter (!·.deleted)
  | _, .coupon id, a => a = t.find? id
  | _, .order id, a => a = t.visible? id
  | _, .orderLines id, a => a = (t.linesOf id).mergeSort fun a b => a.lineNo ≤ b.lineNo
  | _, .ordersOfUser userId, a =>
    a = (t.orders.filter fun o => o.userId == userId && !o.archived).reverse
  | _, .payment id, a => a = t.find? id
  | _, .paymentWithKey key, a => a = (t.payments.filter (·.transactionKey == some key)).head?
  | _, .paymentsOfOrder id, a => a = t.payments.filter (·.orderId == id)
  | _, .stalePayments cutoff, a => a.Sublist (t.payments.filter (Payments.isStale cutoff))
  | _, .assignKey id _, _ => (t.find? id : Option Payment).filter
      (fun p => p.status == .pending && p.transactionKey.isNone) = none
  | _, .completePayment id, _ => (t.find? id : Option Payment).filter (·.status == .pending) = none
  | _, .failPayment id _, _ => (t.find? id : Option Payment).filter (·.status == .pending) = none
  | _, _, _ => True

/-- What the answer to a query has done to the tables, and what held before. -/
inductive Change (now : Moment) (t : Tables) : {α : Type} → Query α → α → Tables → Prop where
  | still {α : Type} {q : Query α} {a : α} (h : q.changesNothing a = true) (htells : q.Tells t a) :
    Change now t q a t
  | joined (name : String) (hfree : t.users.any (·.name == name) = false) :
    Change now t (.createUser name) (t.newUser name) (t.join name)
  | charged {userId : Id} {b : Balance} (amount : Money) (hb : t.find? userId = some b)
      (hpos : 0 < amount.cents) (hroom : b.amount.cents + amount.cents ≤ 9223372036854775807) :
    Change now t (.charge userId amount) { b with amount := b.amount.plus amount }
      (t.book userId .charge amount none)
  | stocked (p : NewProduct) (hvalid : p.isValid = true) (hfits : Fits p.stock) :
    Change now t (.createProduct p) (t.newProduct p) (t.append (t.newProduct p))
  | issued (c : NewCoupon) (howner : c.ownerId ∈ t.keys User) (hvalid : c.isValid = true) :
    Change now t (.issueCoupon c) (t.newCoupon c) (t.append (t.newCoupon c))
  | placed (order : NewOrder) (hfine : order.Admissible t) :
    Change now t (.placeOrder order) (t.placement order now) (t.place order now)
  | confirmed {id : Id} {o : Order} (ho : t.visible? id = some o) (hs : o.status = .pending) :
    Change now t (.confirmOrder id) { o with status := .confirmed } (t.setStatus id .confirmed)
  | cancelled {id : Id} {o : Order} (ho : t.visible? id = some o) (hs : o.status ≠ .cancelled)
      (hroom : (t.pointsOf o.userId).cents + o.finalTotal.cents ≤ 9223372036854775807) :
    Change now t (.cancelOrder id) { o with status := .cancelled } (t.cancel o)
  | archived {id : Id} {o : Order} (ho : t.visible? id = some o)
      (hs : o.status.isTerminal = true) :
    Change now t (.archiveOrder id) { o with archived := true } (t.archive id)
  | opened {o : Order} (p : NewPayment) (ho : t.visible? p.orderId = some o)
      (hs : o.status = .pending)
      (hopen : (t.payments.any fun other => other.orderId == p.orderId && other.isOpen) = false)
      (huser : p.userId ∈ t.keys User) :
    Change now t (.openPayment p) (t.newPayment p now) (t.append (t.newPayment p now))
  | keyed {id : Id} {p : Payment} (key : String) (hp : t.find? id = some p)
      (hs : p.status = .pending) (hkey : p.transactionKey = none)
      (hfree : t.payments.any (·.transactionKey == some key) = false) :
    Change now t (.assignKey id key) (some { p with transactionKey := some key })
      (t.giveKey id key)
  | completed {id : Id} {p : Payment} (hp : t.find? id = some p) (hs : p.status = .pending) :
    Change now t (.completePayment id)
      (some { p with status := .completed, failureReason := none, completedAt := some now })
      (t.settle id .completed none (some now))
  | failed {id : Id} {p : Payment} (reason : String) (hp : t.find? id = some p)
      (hs : p.status = .pending) :
    Change now t (.failPayment id reason)
      (some { p with status := .failed, failureReason := some reason, completedAt := none })
      (t.settle id .failed (some reason) none)

variable {t t' : Tables} {now : Moment}

/-- Some work that was done is work that there was no objection to. -/
theorem judged_eq_ok {α : Type} {objection : Option Fault} {outcome a : α}
    (h : judged objection outcome = .ok a) : objection = none ∧ a = outcome := by
  cases objection with
  | some f => cases h
  | none =>
    cases h
    exact ⟨rfl, rfl⟩

/-! ## Queries that only read -/

theorem fetch_still {α : Type} [Row α] {id : Id} {visible : α → Bool} {a : Option α}
    (h : Work.fetch id visible (.calm now) t = .ok (a, t')) :
    t = t' ∧ a = (t.find? id).filter visible := by
  rw [Work.fetch_calm] at h
  cases h
  exact ⟨rfl, rfl⟩

theorem select_still {α : Type} [Row α] {meets : α → Bool} {rows : List α}
    (h : Work.select meets (.calm now) t = .ok (rows, t')) :
    t = t' ∧ rows = (Row.rows t).filter meets := by
  rw [Work.select_calm] at h
  cases h
  exact ⟨rfl, rfl⟩

theorem arrange_still {α β : Type} [Row α] {meets : α → Bool} {arrange : List α → β} {b : β}
    (h : (do return arrange (← Work.select meets) : Work β) (.calm now) t = .ok (b, t')) :
    t = t' ∧ b = arrange ((Row.rows t).filter meets) := by
  rw [Work.bind_run, Work.select_calm] at h
  cases h
  exact ⟨rfl, rfl⟩

/-! ## Users and goods -/

theorem createUser_change {name : String} {user : User}
    (h : Users.insert name (.calm now) t = .ok (user, t')) :
    Change now t (.createUser name) user t' := by
  rw [Users.insert_calm] at h
  split at h
  · cases h
  · cases h
    exact .joined name (Bool.eq_false_iff.mpr ‹_›)

theorem charge_change {userId : Id} {amount : Money} {b : Balance} (hk : t.Kept)
    (h : Balances.charge userId amount (.calm now) t = .ok (b, t')) :
    Change now t (.charge userId amount) b t' := by
  rw [Balances.charge_calm userId amount now hk.numbered.balances_nodup hk.ledgered.nonneg] at h
  split at h
  · split at h
    · cases h
    · split at h
      · cases h
        exact .charged amount ‹_› (of_decide_eq_true ‹amount.isPositive = true›) ‹_›
      · cases h
  · cases h

theorem createProduct_change {p : NewProduct} {product : Product} (hfits : Fits p.stock)
    (h : Products.insert p (.calm now) t = .ok (product, t')) :
    Change now t (.createProduct p) product t' := by
  rw [Products.insert_calm] at h
  split at h
  · cases h
    exact .stocked p ‹_› hfits
  · cases h

theorem issueCoupon_change {c : NewCoupon} {coupon : Coupon}
    (h : Coupons.issue c (.calm now) t = .ok (coupon, t')) :
    Change now t (.issueCoupon c) coupon t' := by
  rw [Coupons.issue_calm] at h
  split at h
  · cases h
  · split at h
    · cases h
      exact .issued c (Tables.mem_keys_of_find? ‹_›) ‹_›
    · cases h

/-! ## Orders -/

theorem placeOrder_change {new : NewOrder} {placed : PlacedOrder} (hk : t.Kept)
    (hw : new.WellFormed) (h : Orders.place new (.calm now) t = .ok (placed, t')) :
    Change now t (.placeOrder new) placed t' := by
  rw [place_calm new now hk.numbered hk.linked hk.stocked hw] at h
  obtain ⟨hfine, hsame⟩ := judged_eq_ok h
  cases hsame
  exact .placed new ((placingObjection_eq_none_iff hk.numbered hk.stocked hw).mp hfine)

theorem confirm_change {id : Id} {order : Order} (hk : t.Kept)
    (h : Orders.confirm id (.calm now) t = .ok (order, t')) :
    Change now t (.confirmOrder id) order t' := by
  rw [Orders.confirm_calm id now hk.numbered.orders.nodup] at h
  split at h
  · cases h
  · split at h
    · cases h
      exact .confirmed ‹_› ‹_›
    · cases h

theorem cancel_change {id : Id} {order : Order} (hk : t.Kept)
    (h : Orders.cancel id (.calm now) t = .ok (order, t')) :
    Change now t (.cancelOrder id) order t' := by
  rw [cancel_calm id now hk] at h
  split at h
  · cases h
  · split at h
    · cases h
    · split at h
      · cases h
        exact .cancelled ‹_› ‹_› ‹_›
      · cases h

theorem archive_change {id : Id} {order : Order} (hk : t.Kept)
    (h : Orders.archive id (.calm now) t = .ok (order, t')) :
    Change now t (.archiveOrder id) order t' := by
  rw [Orders.archive_calm id now hk.numbered.orders.nodup] at h
  split at h
  · cases h
  · split at h
    · cases h
      exact .archived ‹_› ‹_›
    · cases h

/-! ## Payments -/

theorem openPayment_change {p : NewPayment} {payment : Payment}
    (h : Payments.openFor p (.calm now) t = .ok (payment, t')) :
    Change now t (.openPayment p) payment t' := by
  rw [Payments.openFor_calm p now t] at h
  split at h
  · cases h
  · split at h
    · cases h
    · split at h
      · cases h
      · split at h
        · cases h
          exact .opened p ‹_› (not_not.mp ‹_›) (Bool.eq_false_iff.mpr ‹_›) (Tables.has_iff.mp ‹_›)
        · cases h

theorem assignKey_change {id : Id} {key : String} {a : Option Payment} (hk : t.Kept)
    (h : Payments.assignKey id key (.calm now) t = .ok (a, t')) :
    Change now t (.assignKey id key) a t' := by
  rw [Payments.assignKey_calm id key now hk.numbered.payments.nodup] at h
  split at h
  · cases h
    exact .still rfl ‹_›
  · split at h
    · cases h
    · cases h
      obtain ⟨hfind, hopen⟩ := Option.filter_eq_some_iff.mp ‹_›
      simp only [Bool.and_eq_true, beq_iff_eq, Option.isNone_iff_eq_none] at hopen
      exact .keyed key hfind hopen.1 hopen.2 (Bool.eq_false_iff.mpr ‹_›)

/-- A payment is settled if it is there and pending. Otherwise nothing happens. -/
theorem settle_cases {id : Id} {status : PaymentStatus} {reason : Option String}
    {completedAt : Option Moment} {a : Option Payment} (hn : (t.keys Payment).Nodup)
    (h : Payments.settle id status reason completedAt (.calm now) t = .ok (a, t')) :
    (a = none ∧ t' = t ∧ (t.find? id : Option Payment).filter (·.status == .pending) = none) ∨
      ∃ p : Payment, t.find? id = some p ∧ p.status = .pending ∧
      a = some { p with status, failureReason := reason, completedAt } ∧
      t' = t.settle id status reason completedAt := by
  rw [Payments.settle_calm id status reason completedAt now hn] at h
  split at h
  · cases h
    exact .inl ⟨rfl, rfl, ‹_›⟩
  · cases h
    obtain ⟨hfind, hs⟩ := Option.filter_eq_some_iff.mp ‹_›
    exact .inr ⟨_, hfind, by simpa using hs, rfl, rfl⟩

theorem complete_change {id : Id} {a : Option Payment} (hk : t.Kept)
    (h : Payments.settle id .completed none (some now) (.calm now) t = .ok (a, t')) :
    Change now t (.completePayment id) a t' := by
  obtain ⟨rfl, rfl, hnone⟩ | ⟨p, hp, hs, rfl, rfl⟩ := settle_cases hk.numbered.payments.nodup h
  · exact .still rfl hnone
  · exact .completed hp hs

theorem fail_change {id : Id} {reason : String} {a : Option Payment} (hk : t.Kept)
    (h : Payments.settle id .failed (some reason) none (.calm now) t = .ok (a, t')) :
    Change now t (.failPayment id reason) a t' := by
  obtain ⟨rfl, rfl, hnone⟩ | ⟨p, hp, hs, rfl, rfl⟩ := settle_cases hk.numbered.payments.nodup h
  · exact .still rfl hnone
  · exact .failed reason hp hs

/-! ## Any query -/

/-- The payments that are listed as stale are stale ones. -/
theorem stale_tells (c : Conditions) (cutoff : Moment) :
    (t.payments.filter fun p =>
      Payments.isStale cutoff p && !c.medium.isDamaged .payments p.id).Sublist
        (t.payments.filter (Payments.isStale cutoff)) := by
  refine List.monotone_filter_right t.payments fun p hp => ?_
  exact (Bool.and_eq_true_iff.mp hp).1

/-- Whatever a query answers, the tables have changed in one of the ways above. -/
theorem Query.change {α : Type} {q : Query α} {c : Conditions} {a : α} (hc : c.medium.Honest)
    (hq : q.Proper) (hk : t.Kept) (h : q.work c t = .ok (a, t')) : Change c.now t q a t' := by
  have hfetch : ∀ {β : Type} [Row β] {id : Id} {visible : β → Bool} {found : Option β},
      Work.fetch id visible c t = .ok (found, t') →
        t = t' ∧ found = (t.find? id).filter visible :=
    fun h => fetch_still ((Work.Faithful.fetch _ _).calm hc h)
  have hseen : ∀ {β : Type} [Row β] {id : Id} {found : Option β},
      Work.fetch id (fun _ => true) c t = .ok (found, t') → t = t' ∧ found = t.find? id := by
    intro β _ id found h
    obtain ⟨hsame, hfound⟩ := hfetch h
    refine ⟨hsame, hfound.trans ?_⟩
    cases (t.find? id : Option β) <;> rfl
  have hselect : ∀ {β : Type} [Row β] {meets : β → Bool} {rows : List β},
      Work.select meets c t = .ok (rows, t') → t = t' ∧ rows = (Row.rows t).filter meets :=
    fun h => select_still ((Work.Faithful.select _).calm hc h)
  have harrange : ∀ {β γ : Type} [Row β] {meets : β → Bool} {arrange : List β → γ} {found : γ},
      (do return arrange (← Work.select meets) : Work γ) c t = .ok (found, t') →
        t = t' ∧ found = arrange ((Row.rows t).filter meets) :=
    fun h => arrange_still ((Work.Faithful.bind (.select _) fun _ => .pure _).calm hc h)
  cases q
  case user id => exact (hseen h).1 ▸ .still rfl (hseen h).2
  case balance id => exact (hseen h).1 ▸ .still rfl (hseen h).2
  case product id => exact (hfetch h).1 ▸ .still rfl (hfetch h).2
  case coupon id => exact (hseen h).1 ▸ .still rfl (hseen h).2
  case order id => exact (hfetch h).1 ▸ .still rfl (hfetch h).2
  case payment id => exact (hseen h).1 ▸ .still rfl (hseen h).2
  case orderLines id => exact (harrange h).1 ▸ .still rfl (harrange h).2
  case ordersOfUser userId => exact (harrange h).1 ▸ .still rfl (harrange h).2
  case paymentWithKey key => exact (harrange h).1 ▸ .still rfl (harrange h).2
  case history userId => exact (hselect h).1 ▸ .still rfl (hselect h).2
  case paymentsOfOrder id => exact (hselect h).1 ▸ .still rfl (hselect h).2
  case stalePayments cutoff =>
    cases h
    exact .still rfl (stale_tells c cutoff)
  case createUser name => exact createUser_change ((Users.insert_faithful name).calm hc h)
  case charge userId amount =>
    exact charge_change hk ((Balances.charge_faithful userId amount).calm hc h)
  case createProduct p => exact createProduct_change hq ((Products.insert_faithful p).calm hc h)
  case issueCoupon coupon => exact issueCoupon_change ((Coupons.issue_faithful coupon).calm hc h)
  case placeOrder new => exact placeOrder_change hk hq ((Orders.place_faithful new).calm hc h)
  case confirmOrder id => exact confirm_change hk ((Orders.confirm_faithful id).calm hc h)
  case cancelOrder id => exact cancel_change hk ((Orders.cancel_faithful id).calm hc h)
  case archiveOrder id => exact archive_change hk ((Orders.archive_faithful id).calm hc h)
  case openPayment p => exact openPayment_change ((Payments.openFor_faithful p).calm hc h)
  case assignKey id key =>
    exact assignKey_change hk ((Payments.assignKey_faithful id key).calm hc h)
  case completePayment id =>
    exact complete_change hk
      ((Work.Faithful.bind .now fun _ => Payments.settle_faithful id _ _ _).calm hc h)
  case failPayment id reason =>
    exact fail_change hk ((Payments.settle_faithful id _ _ _).calm hc h)

end Checkout.Store
