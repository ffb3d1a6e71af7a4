-- One open payment for each order. A call that pays for an order looks at it
-- in one unit of work and opens the payment in another, with any steps of
-- other calls in between. What it saw of the order still holds by then, since
-- who is to pay for an order, and how much, never changes; that the order is
-- pending and has no open payment is checked again when the payment is opened.
import Checkout.Proofs.Shop.Grounds
import Checkout.Proofs.Shop.Moves
import Checkout.Proofs.Shop.Payments

namespace Checkout

open Store Service

/-! ## What stays of an order -/

/-- The order is the same, for the same user and at the same price. -/
structure Order.SameTerms (o o' : Order) : Prop where
  id : o'.id = o.id
  user : o'.userId = o.userId
  total : o'.finalTotal = o.finalTotal

namespace Order.SameTerms

variable {o o' o'' : Order}

theorem refl (o : Order) : o.SameTerms o := ⟨rfl, rfl, rfl⟩

theorem trans (h : o.SameTerms o') (h' : o'.SameTerms o'') : o.SameTerms o'' :=
  ⟨h'.id.trans h.id, h'.user.trans h.user, h'.total.trans h.total⟩

end Order.SameTerms

variable {t t' : Tables} {record : List (Nat × Act)}

/-- Every order is still there, on the same terms. -/
theorem OrderChange.terms {act : Act} {orders : List Order} (h : OrderChange t act orders) :
    ∀ o ∈ t.orders, ∃ o' ∈ orders, o.SameTerms o' := by
  intro o ho
  cases h with
  | same => exact ⟨o, ho, .refl o⟩
  | placed => exact ⟨o, List.mem_append_left _ ho, .refl o⟩
  | moved | archived =>
    refine ⟨_, List.mem_map_of_mem ho, ?_⟩
    split <;> exact ⟨rfl, rfl, rfl⟩

theorem Act.seen?_eq_none {act : Act} (h : act.succeeded = false) : act.seen? = none := by
  unfold seen?
  split
  · cases h
  · rfl

/-- An order that was looked up is there. -/
theorem change_seen {α : Type} {q : Query α} {a : α} {now : Moment} (h : Change now t q a t')
    {o : Order} (hseen : (Act.asked q (.ok a)).seen? = some o) : o ∈ t'.orders := by
  cases h with
  | still _ htells =>
    cases q
    case order id =>
      obtain rfl : a = some o := hseen
      exact (Tables.find?_eq_some (visible?_eq_some.mp htells.symm).1).1
    all_goals cases hseen
  | _ => cases hseen

/-! ## Open payments -/

/-- How many payments of an order may still complete, or have. -/
def Store.Tables.openPayments (t : Tables) (orderId : Id) : Nat :=
  t.payments.countP fun p => p.orderId == orderId && p.isOpen

/-- Where payments stay with their order, and none is opened again, no more are open. -/
theorem openPayments_map_le {change : Payment → Payment}
    (h : t'.payments = t.payments.map change)
    (horder : ∀ p ∈ t.payments, (change p).orderId = p.orderId)
    (hopen : ∀ p ∈ t.payments, (change p).isOpen = true → p.isOpen = true) (orderId : Id) :
    t'.openPayments orderId ≤ t.openPayments orderId := by
  rw [Tables.openPayments, h, List.countP_map, Tables.openPayments]
  refine List.countP_mono_left fun p hp hnow => ?_
  simp only [Function.comp_apply, Bool.and_eq_true, horder p hp] at hnow ⊢
  exact ⟨hnow.1, hopen p hp hnow.2⟩

theorem openPayments_giveKey (id : Id) (key : String) (orderId : Id) :
    (t.giveKey id key).openPayments orderId ≤ t.openPayments orderId := by
  refine openPayments_map_le (t := t) rfl (fun p _ => ?_) (fun p _ hopen => ?_) orderId
  · split <;> rfl
  · split at hopen <;> exact hopen

/-- A payment that is settled was open before. -/
theorem openPayments_settle (hk : t.Kept) {id : Id} {p : Payment} (hp : t.find? id = some p)
    (hs : p.status = .pending) (status : PaymentStatus) (reason : Option String)
    (completedAt : Option Moment) (orderId : Id) :
    (t.settle id status reason completedAt).openPayments orderId ≤ t.openPayments orderId := by
  obtain ⟨hm, rfl⟩ : p ∈ t.payments ∧ p.id = id := Tables.find?_eq_some hp
  refine openPayments_map_le (t := t) rfl (fun q _ => ?_) (fun q hq hopen => ?_) orderId
  · split <;> rfl
  · split at hopen
    · rw [payment_eq_of_id hk hm hq ‹_›, Payment.isOpen, hs]
      rfl
    · exact hopen

/-- One more payment is no more than one, if its order had no open one. -/
theorem openPayments_concat {p : Payment} (h : t'.payments = t.payments ++ [p])
    (hnone : t.openPayments p.orderId = 0) (hsingle : ∀ orderId, t.openPayments orderId ≤ 1)
    (orderId : Id) : t'.openPayments orderId ≤ 1 := by
  have hcount : t'.openPayments orderId = t.openPayments orderId +
      if p.orderId = orderId ∧ p.isOpen = true then 1 else 0 := by
    simp [Tables.openPayments, h, List.countP_append, List.countP_singleton]
  rw [hcount]
  split
  · next hsame => rw [← hsame.1, hnone]
  · exact hsingle orderId

/-- A payment is only opened for an order that has no open one. -/
theorem openPayments_change {α : Type} {q : Query α} {a : α} {now : Moment} (hk : t.Kept)
    (hlinked : ∀ p ∈ t.payments, p.orderId ∈ t.keys Order) (h : Change now t q a t')
    (hsingle : ∀ orderId, t.openPayments orderId ≤ 1) (orderId : Id) :
    t'.openPayments orderId ≤ 1 := by
  cases h with
  | placed order =>
    have hpayments : (t.place order now).payments =
        t.payments ++ (t.placedPayment order now).toList := rfl
    cases hplaced : t.placedPayment order now with
    | none =>
      rw [hplaced, Option.toList_none, List.append_nil] at hpayments
      rw [Tables.openPayments, hpayments]
      exact hsingle orderId
    | some p =>
      rw [hplaced, Option.toList_some] at hpayments
      refine openPayments_concat hpayments ?_ hsingle orderId
      -- no payment there can be one of a new order
      obtain ⟨details, -, rfl⟩ := Option.map_eq_some_iff.mp hplaced
      refine List.countP_eq_zero.mpr fun q hq hopen => ?_
      rw [Bool.and_eq_true, beq_iff_eq] at hopen
      have horder : q.orderId = t.nextId Order := hopen.1
      exact Tables.nextId_notMem hk.numbered.orders (horder ▸ hlinked q hq)
  | @opened o p ho hs hopen huser =>
    refine openPayments_concat (p := t.newPayment p now) rfl ?_ hsingle orderId
    exact List.countP_eq_zero.mpr (List.any_eq_false.mp hopen)
  | @keyed id p key => exact (openPayments_giveKey id key orderId).trans (hsingle orderId)
  | completed hp hs => exact (openPayments_settle hk hp hs _ _ _ orderId).trans (hsingle orderId)
  | failed reason hp hs =>
    exact (openPayments_settle hk hp hs _ _ _ orderId).trans (hsingle orderId)
  | _ => exact hsingle orderId

/-! ## What is kept up -/

/-- The payment is one of the order, by its user and in full. -/
structure Payment.PaysFor (p : Payment) (o : Order) : Prop where
  id : o.id = p.orderId
  user : o.userId = p.userId
  amount : p.amount = o.finalTotal

theorem Payment.PaysFor.onward {p : Payment} {o o' : Order} (h : p.PaysFor o)
    (hsame : o.SameTerms o') : p.PaysFor o' :=
  ⟨hsame.id.trans h.id, hsame.user.trans h.user, h.amount.trans hsame.total.symm⟩

/-- A payment is opened for an order that was looked up before. -/
def OpensSeen (earlier : List (Nat × Act)) (entry : Nat × Act) : Prop :=
  ∀ new ∈ entry.2.opens?, ∃ order details,
    (∃ old ∈ earlier, old.2.seen? = some order) ∧ new = .forOrder order details

/-- Each payment is for its order in full, and no order has two that are open. -/
structure PaidOnce (t : Tables) (record : List (Nat × Act)) : Prop where
  /-- The terms on which an order was ever seen are those that it has. -/
  seen : ∀ entry ∈ record, ∀ order, entry.2.seen? = some order → ∃ o ∈ t.orders, order.SameTerms o
  matched : ∀ p ∈ t.payments, ∃ o ∈ t.orders, p.PaysFor o
  single : ∀ orderId, t.openPayments orderId ≤ 1

namespace PaidOnce

theorem empty : PaidOnce .empty [] where
  seen := fun _ h => nomatch h
  matched := fun _ h => nomatch h
  single := fun _ => Nat.zero_le 1

theorem linked (h : PaidOnce t record) : ∀ p ∈ t.payments, p.orderId ∈ t.keys Order := by
  intro p hp
  obtain ⟨o, ho, hpays⟩ := h.matched p hp
  exact hpays.id ▸ List.mem_map_of_mem ho

/-- Each payment is still for its order, and a new one is for the order as it was seen. -/
theorem matched_change {α : Type} {q : Query α} {a : α} {now : Moment} (h : PaidOnce t record)
    (hchange : Change now t q a t') {call : Nat}
    (hopens : OpensSeen record (call, .asked q (.ok a))) :
    ∀ p ∈ t'.payments, ∃ o ∈ t'.orders, p.PaysFor o := by
  have honward : ∀ {p : Payment} {o : Order}, o ∈ t.orders → p.PaysFor o →
      ∃ o' ∈ t'.orders, p.PaysFor o' := by
    intro p o ho hpays
    obtain ⟨o', ho', hsame⟩ := (change_orders hchange).terms o ho
    exact ⟨o', ho', hpays.onward hsame⟩
  have hold : ∀ p ∈ t.payments, ∃ o' ∈ t'.orders, p.PaysFor o' := by
    intro p hp
    obtain ⟨o, ho, hpays⟩ := h.matched p hp
    exact honward ho hpays
  intro p hp
  cases hchange with
  | placed order =>
    rcases List.mem_append.mp hp with hp | hp
    · exact hold p hp
    · obtain ⟨details, -, rfl⟩ := Option.map_eq_some_iff.mp (Option.mem_toList.mp hp)
      exact ⟨t.placedOrder order, List.mem_append_right _ (List.mem_singleton_self _),
        rfl, rfl, rfl⟩
  | opened new =>
    rcases List.mem_append.mp hp with hp | hp
    · exact hold p hp
    · rw [List.mem_singleton.mp hp]
      obtain ⟨order, details, ⟨entry, he, hseen⟩, rfl⟩ := hopens new rfl
      obtain ⟨o, ho, hterms⟩ := h.seen entry he order hseen
      exact ⟨o, ho, hterms.id, hterms.user, hterms.total.symm⟩
  | keyed | completed | failed =>
    obtain ⟨other, ho, rfl⟩ := List.mem_map.mp hp
    obtain ⟨o, ho, hpays⟩ := hold other ho
    refine ⟨o, ho, ?_⟩
    split <;> exact ⟨hpays.id, hpays.user, hpays.amount⟩
  | _ => exact hold p hp

theorem change {α : Type} {q : Query α} {a : α} {now : Moment} (h : PaidOnce t record)
    (hk : t.Kept) (hchange : Change now t q a t') (call : Nat)
    (hopens : OpensSeen record (call, .asked q (.ok a))) :
    PaidOnce t' (record ++ [(call, .asked q (.ok a))]) where
  seen entry he order hseen := by
    rcases List.mem_append.mp he with he | he
    · obtain ⟨o, ho, hterms⟩ := h.seen entry he order hseen
      obtain ⟨o', ho', hsame⟩ := (change_orders hchange).terms o ho
      exact ⟨o', ho', hterms.trans hsame⟩
    · rw [List.mem_singleton.mp he] at hseen
      exact ⟨order, change_seen hchange hseen, .refl order⟩
  matched := h.matched_change hchange hopens
  single := openPayments_change hk h.linked hchange h.single

theorem noted (h : PaidOnce t record) (call : Nat) {act : Act} (hact : act.succeeded = false) :
    PaidOnce t (record ++ [(call, act)]) where
  seen entry he order hseen := by
    rcases List.mem_append.mp he with he | he
    · exact h.seen entry he order hseen
    · rw [List.mem_singleton.mp he, Act.seen?_eq_none hact] at hseen
      cases hseen
  matched := h.matched
  single := h.single

end PaidOnce

theorem paidOnce_after (deeds : List Deed) :
    PaidOnce (Shop.after deeds).tables (Shop.after deeds).record := by
  have hopens : Throughout OpensSeen (Shop.after deeds).record := by
    refine (Shop.grounded_after deeds).acts.mono fun earlier entry hentry new hnew => ?_
    obtain ⟨running, -, hrule⟩ := hentry
    obtain ⟨order, details, ⟨act, hact, hseen⟩, hsame⟩ := hrule.opens new hnew
    exact ⟨order, details, ⟨(entry.1, act), mem_actsOf.mp hact, hseen⟩, hsame⟩
  revert hopens
  apply Shop.holds_after (P := fun t record => Throughout OpensSeen record → PaidOnce t record)
    fun _ => .empty
  intro t t' record record' hk h hadvance hopens
  cases hadvance with
  | waited => exact h hopens
  | answered call hchange =>
    obtain ⟨hearlier, hlast⟩ := hopens.of_concat
    exact (h hearlier).change hk hchange call hlast
  | noted call hact => exact (h hopens.of_concat.1).noted call hact
  | withdrew id => exact ⟨(h hopens).seen, (h hopens).matched, (h hopens).single⟩

/-! ## What payments are opened on -/

/-- An order that can be paid for: it is in sight and pending. It was so before, or is new. -/
def Payable (t t' : Tables) (orderId : Id) : Prop :=
  ∃ o, t'.visible? orderId = some o ∧ o.status = .pending ∧
    (t.visible? orderId = some o ∨ orderId ∉ t.keys Order)

/-- A payment that was not there is pending, and its order can be paid for. -/
theorem change_opened {α : Type} {q : Query α} {a : α} {now : Moment} (hk : t.Kept) (hk' : t'.Kept)
    (h : Change now t q a t') :
    ∀ p ∈ t'.payments, (∀ q ∈ t.payments, q.id ≠ p.id) →
      p.status = .pending ∧ Payable t t' p.orderId := by
  intro p hp hnew
  cases h with
  | placed order =>
    rcases List.mem_append.mp hp with hp | hp
    · exact absurd rfl (hnew p hp)
    · obtain ⟨details, -, rfl⟩ := Option.map_eq_some_iff.mp (Option.mem_toList.mp hp)
      have hplaced : t.placedOrder order ∈ (t.place order now).orders :=
        List.mem_append_right _ (List.mem_singleton_self _)
      have hfind := Tables.find?_of_mem hk'.numbered.orders.nodup hplaced
      exact ⟨rfl, t.placedOrder order, visible?_eq_some.mpr ⟨hfind, rfl⟩, rfl,
        .inr (Tables.nextId_notMem hk.numbered.orders)⟩
  | @opened o new ho hs =>
    rcases List.mem_append.mp hp with hp | hp
    · exact absurd rfl (hnew p hp)
    · rw [List.mem_singleton.mp hp]
      exact ⟨rfl, o, ho, hs, .inl ho⟩
  | keyed | completed | failed =>
    obtain ⟨other, ho, rfl⟩ := List.mem_map.mp hp
    refine absurd ?_ (hnew other ho)
    split <;> rfl
  | _ => exact absurd rfl (hnew p hp)

theorem opened_by_step {s : Shop} (hs : s.InOrder) (deed : Deed) :
    ∀ p ∈ (s.step deed).tables.payments, (∀ q ∈ s.tables.payments, q.id ≠ p.id) →
      p.status = .pending ∧ Payable s.tables (s.step deed).tables p.orderId := by
  have hk' := (hs.step deed).kept
  have hadvance := (Shop.step_advance hs deed).1
  revert hk' hadvance
  generalize (s.step deed).tables = t', (s.step deed).record = record'
  intro hk' hadvance
  cases hadvance with
  | answered call hchange => exact change_opened hs.kept hk' hchange
  | waited | noted | withdrew => exact fun p hp hnew => absurd rfl (hnew p hp)

/-- What is so of the payments of orders in any run. -/
structure Shop.PaysEachOrderOnce (deeds : List Deed) : Prop where
  single : ∀ orderId, (after deeds).tables.openPayments orderId ≤ 1
  matched : ∀ p ∈ (after deeds).tables.payments, ∃ o ∈ (after deeds).tables.orders, p.PaysFor o
  /-- A payment that a further deed stores is opened for an order in sight that is pending. -/
  opened : ∀ deed, ∀ p ∈ (after (deeds ++ [deed])).tables.payments,
    (∀ q ∈ (after deeds).tables.payments, q.id ≠ p.id) →
      p.status = .pending ∧
      Payable (after deeds).tables (after (deeds ++ [deed])).tables p.orderId

/-- However the steps of calls interleave, no order ever has two payments that may complete or
have, and each payment is for a pending order in sight, in full and by its user. -/
theorem an_order_has_one_open_payment_at_most (deeds : List Deed) :
    Shop.PaysEachOrderOnce deeds where
  single := (paidOnce_after deeds).single
  matched := (paidOnce_after deeds).matched
  opened deed := by
    rw [Shop.after_concat]
    exact opened_by_step (Shop.inOrder_after deeds) deed

/-- Two calls that pay for an order find it without an open payment. The first one that opens a
payment gets it; the other is refused. -/
example :
    let price : Money := .saturated 100
    let quiet : Surroundings :=
      ⟨0, .sound, .sound, .ok ⟨"key", .pending, none⟩, .error (.rejected "unknown")⟩
    let request : PayOrderRequest := ⟨1, price, ⟨"VISA", "1234-5678-9012-3456", "http://shop"⟩⟩
    let s := Shop.after <|
      [.start (.createUser "ann"), .proceed 0 quiet, .start (.charge 1 price), .proceed 1 quiet,
        .start (.createProduct ⟨"tea", price, 1⟩ (by decide)), .proceed 2 quiet,
        .start (.createOrder ⟨1, [⟨1, 1, none⟩], none⟩), .proceed 3 quiet,
        .start (.payOrder 1 request), .start (.payOrder 1 request), .proceed 4 quiet,
        .proceed 5 quiet, .proceed 4 quiet, .proceed 5 quiet, .proceed 4 quiet, .proceed 4 quiet]
    s.tables.payments.map (·.status) = [.pending] ∧ s.tables.openPayments 1 = 1 := by
  decide +kernel

end Checkout
