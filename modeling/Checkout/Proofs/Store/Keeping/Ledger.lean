-- Every balance is what its history comes to, and the history is paid for by
-- the orders, whatever changes. A booking moves a balance and its history by
-- the same amount; orders that are placed or cancelled move with one booking.
import Checkout.Proofs.Store.Keeping.Goods

namespace Checkout.Store

variable {t t' : Tables}

/-! ## Histories -/

open Tables (Chained lastBalance)

theorem lastBalance_cons (before : Int) (e : LedgerEntry) (es : List LedgerEntry) :
    lastBalance before (e :: es) = lastBalance e.balanceAfter.cents es := by
  cases es <;> simp [lastBalance, List.getLast?_cons]

theorem lastBalance_concat (before : Int) (es : List LedgerEntry) (e : LedgerEntry) :
    lastBalance before (es ++ [e]) = e.balanceAfter.cents := by
  simp [lastBalance]

/-- An entry continues a history if it starts from its last balance. -/
theorem chained_concat {before : Int} {es : List LedgerEntry} {e : LedgerEntry}
    (h : Chained before es) (he : e.balanceAfter.cents = lastBalance before es + e.amount.cents) :
    Chained before (es ++ [e]) := by
  induction es generalizing before with
  | nil => exact ⟨he, trivial⟩
  | cons first es ih =>
    rw [lastBalance_cons] at he
    exact ⟨h.1, ih h.2 he⟩

theorem entriesOf_next (hnum : t.Numbered) (hlink : t.Linked) :
    t.entriesOf (t.nextId User) = [] := by
  rw [Tables.entriesOf, List.filter_eq_nil_iff]
  intro e he hid
  have hmem := hlink.entry_user e he
  rw [beq_iff_eq.mp hid] at hmem
  exact Tables.nextId_notMem hnum.users hmem

theorem entriesFor_next (hnum : t.Numbered) (hlink : t.Linked) (kind : LedgerKind) :
    t.entriesFor kind (t.nextId Order) = [] := by
  rw [Tables.entriesFor, List.map_eq_nil_iff, List.filter_eq_nil_iff]
  intro e he hboth
  simp only [Bool.and_eq_true, beq_iff_eq] at hboth
  have hmem := hlink.entry_order e he _ hboth.2
  exact Tables.nextId_notMem hnum.orders hmem

section Booking

variable (userId : Id) (kind : LedgerKind) (change : Money) (orderId : Option Id)

theorem entriesOf_book_of_ne {other : Id} (h : userId ≠ other) :
    (t.book userId kind change orderId).entriesOf other = t.entriesOf other := by
  change (t.history ++ [_]).filter _ = _
  rw [List.filter_append, List.filter_cons_of_neg (by simpa using h), List.filter_nil,
    List.append_nil]
  rfl

theorem entriesOf_book : (t.book userId kind change orderId).entriesOf userId =
    t.entriesOf userId ++
      [{ id := t.nextId LedgerEntry, userId, kind, amount := change,
         balanceAfter := (t.pointsOf userId).plus change, orderId }] := by
  change (t.history ++ [_]).filter _ = _
  rw [List.filter_append, List.filter_cons_of_pos (by simp), List.filter_nil]
  rfl

theorem entriesFor_book (kind' : LedgerKind) (other : Id) :
    (t.book userId kind change orderId).entriesFor kind' other = t.entriesFor kind' other ++
      if kind = kind' ∧ orderId = some other then [(userId, change.cents)] else [] := by
  change ((t.history ++ [_]).filter _).map _ = _
  rw [List.filter_append, List.map_append]
  congr 1
  by_cases h : kind = kind' ∧ orderId = some other
  · simp [h]
  · rw [if_neg h]
    simpa using h

theorem chargesOf_book (other : Id) :
    (t.book userId kind change orderId).chargesOf other = t.chargesOf other +
      if userId = other ∧ kind = .charge then change.cents else 0 := by
  change tally _ _ (t.history ++ [_]) = _
  rw [tally_append, tally_cons, tally_nil, Int.add_zero]
  simp [Tables.chargesOf]

/-- A booking moves no balance but that of its user. -/
theorem forall_balances_book {P : Balance → Prop} {b : Balance} (hn : (t.keys Balance).Nodup)
    (hb : t.find? userId = some b) (hown : P { b with amount := b.amount.plus change })
    (hrest : ∀ c ∈ t.balances, c.userId ≠ userId → P c) :
    ∀ d ∈ (t.book userId kind change orderId).balances, P d := by
  obtain ⟨hm, hid⟩ : b ∈ t.balances ∧ b.userId = userId := Tables.find?_eq_some hb
  intro d hd
  obtain ⟨c, hc, rfl⟩ := List.mem_map.mp hd
  by_cases hsame : c.userId = userId
  · obtain rfl : c = b := List.inj_on_of_nodup_map hn hc hm (hsame.trans hid.symm)
    rwa [if_pos hsame]
  · rw [if_neg hsame]
    exact hrest c hc hsame

end Booking

/-! ## Balances and their histories -/

namespace Tables.Ledgered

theorem of_same (h : t.Ledgered) (hu : t'.users = t.users) (hb : t'.balances = t.balances)
    (hh : t'.history = t.history) : t'.Ledgered where
  nonneg := hb ▸ h.nonneg
  chained := by
    rw [hu]
    simpa only [Tables.entriesOf, hh] using h.chained
  last := by
    rw [hb]
    simpa only [Tables.entriesOf, hh] using h.last

theorem join (h : t.Ledgered) (hnum : t.Numbered) (hlink : t.Linked) (name : String) :
    (t.join name).Ledgered := by
  have hnone := entriesOf_next hnum hlink
  refine ⟨forall_mem_concat h.nonneg (Int.le_refl 0), forall_mem_concat h.chained ?_,
    forall_mem_concat h.last ?_⟩
  · change Chained 0 (t.entriesOf (t.nextId User))
    rw [hnone]
    trivial
  · change lastBalance 0 (t.entriesOf (t.nextId User)) = 0
    rw [hnone]
    rfl

/-- A booking that leaves the balance in range keeps it in step with its history. -/
theorem book (h : t.Ledgered) (hnum : t.Numbered) {userId : Id} {b : Balance} (kind : LedgerKind)
    {change : Money} (orderId : Option Id) (hb : t.find? userId = some b)
    (h0 : 0 ≤ b.amount.cents + change.cents)
    (hfits : b.amount.cents + change.cents ≤ 9223372036854775807) :
    (t.book userId kind change orderId).Ledgered := by
  have hafter : (b.amount.plus change).cents = b.amount.cents + change.cents :=
    Money.saturated_cents (by omega)
  obtain ⟨hm, hid⟩ : b ∈ t.balances ∧ b.userId = userId := Tables.find?_eq_some hb
  have hn := hnum.balances_nodup
  have hlast := h.last b hm
  rw [hid] at hlast
  refine ⟨?_, fun u hu => ?_, ?_⟩
  · exact forall_balances_book _ _ _ _ hn hb (hafter ▸ h0) fun c hc _ => h.nonneg c hc
  · by_cases hsame : userId = u.id
    · rw [← hsame, entriesOf_book]
      refine chained_concat (hsame ▸ h.chained u hu) ?_
      rw [hlast, pointsOf_eq hb, hafter]
    · rw [entriesOf_book_of_ne _ _ _ _ hsame]
      exact h.chained u hu
  · refine forall_balances_book _ _ _ _ hn hb ?_ fun c hc hne => ?_
    · rw [hid, entriesOf_book, lastBalance_concat, pointsOf_eq hb]
    · rw [entriesOf_book_of_ne _ _ _ _ (Ne.symm hne)]
      exact h.last c hc

theorem place (h : t.Ledgered) (hnum : t.Numbered) (hstock : t.Stocked) {order : NewOrder}
    (now : Moment) (hfine : order.Admissible t) : (t.place order now).Ledgered := by
  obtain ⟨b, hb⟩ := hnum.exists_balance hfine.user
  have hdebit := hfine.debit_cents hstock
  have hbounds := hfine.due_bounds hstock
  have hcovered := hfine.due_covered
  rw [pointsOf_eq hb] at hcovered
  have hfits := b.amount.fits
  exact (h.book hnum .debit (some (t.nextId Order)) hb (by omega) (by omega)).of_same rfl rfl rfl

theorem cancel (h : t.Ledgered) (hnum : t.Numbered) (hlink : t.Linked) {order : Order}
    (hm : order ∈ t.orders)
    (hroom : (t.pointsOf order.userId).cents + order.finalTotal.cents ≤ 9223372036854775807) :
    (t.cancel order).Ledgered := by
  obtain ⟨b, hb⟩ := hnum.exists_balance (hlink.order_user order hm)
  have hnonneg := h.nonneg b (Tables.find?_eq_some hb).1
  have htotal := hlink.order_total order hm
  rw [pointsOf_eq hb] at hroom
  exact (h.book hnum .refund (some order.id) hb (by omega) hroom).of_same rfl rfl rfl

end Tables.Ledgered

/-! ## Orders and what they cost -/

/-- A change of the orders that cancels none and revives none. -/
def SameLife (t : Tables) (f : Order → Order) : Prop :=
  ∀ o ∈ t.orders, ((f o).status != .cancelled) = (o.status != .cancelled)

theorem SameLife.setStatus {id : Id} {o : Order} {status : OrderStatus}
    (hn : (t.keys Order).Nodup) (ho : t.find? id = some o) (hs : o.status ≠ .cancelled)
    (hstatus : status ≠ .cancelled) :
    SameLife t fun o => if o.id = id then { o with status } else o := by
  intro other hm
  obtain ⟨hmo, hid⟩ : o ∈ t.orders ∧ o.id = id := Tables.find?_eq_some ho
  by_cases hsame : other.id = id
  · obtain rfl : other = o := List.inj_on_of_nodup_map hn hm hmo (hsame.trans hid.symm)
    simp only [if_pos hsame]
    exact (bne_iff_ne.mpr hstatus).trans (bne_iff_ne.mpr hs).symm
  · simp only [if_neg hsame]

theorem SameLife.archive (t : Tables) (id : Id) :
    SameLife t fun o => if o.id = id then { o with archived := true } else o := by
  intro o _
  by_cases hid : o.id = id
  · simp only [if_pos hid]
  · simp only [if_neg hid]

/-- What the orders cost that are counted and not cancelled, in cents. -/
def Tables.costOf (t : Tables) (counts : Order → Bool) : Int :=
  tally (fun o => counts o && o.status != .cancelled) (·.finalTotal.cents) t.orders

theorem costOf_map_orders {f : Order → Order} (hf : SameAccount f) (hl : SameLife t f)
    {counts : Order → Bool} (hcounts : ∀ o ∈ t.orders, counts (f o) = counts o) :
    Tables.costOf { t with orders := t.orders.map f } counts = t.costOf counts := by
  rw [Tables.costOf, tally_map]
  apply tally_congr
  · intro o ho
    rw [hcounts o ho, hl o ho]
  · intro o _
    rw [hf.total]

theorem spentBy_map_orders {f : Order → Order} (hf : SameAccount f) (hl : SameLife t f)
    (userId : Id) :
    Tables.spentBy { t with orders := t.orders.map f } userId = t.spentBy userId := by
  have hcounts : ∀ o ∈ t.orders, ((f o).userId == userId) = (o.userId == userId) := by
    intro o _
    rw [hf.user]
  exact costOf_map_orders hf hl hcounts

theorem spentBy_place (order : NewOrder) (now : Moment) (userId : Id) :
    (t.place order now).spentBy userId = t.spentBy userId +
      if order.userId = userId then (Money.saturated (t.dueTotal order.lines)).cents else 0 := by
  change tally _ _ (t.orders ++ [t.placedOrder order]) = _
  rw [tally_append, tally_cons, tally_nil, Int.add_zero]
  simp [Tables.spentBy, Tables.placedOrder]

/-- An order that is cancelled no longer counts. -/
theorem costOf_cancel {order : Order} (hn : (t.keys Order).Nodup) (hm : order ∈ t.orders)
    (hs : order.status ≠ .cancelled) (counts : Order → Bool) :
    (t.cancel order).costOf counts =
      t.costOf counts - if counts order then order.finalTotal.cents else 0 := by
  have hsplit := tally_split (fun o => counts o && o.status != .cancelled)
    (·.id == order.id) (·.finalTotal.cents) t.orders
  have hone := tally_single (l := t.orders) Order.id
    (fun o => counts o && o.status != .cancelled) (·.finalTotal.cents) hn hm
  have hrest : (t.cancel order).costOf counts =
      tally (fun o => (counts o && o.status != .cancelled) && !(o.id == order.id))
        (·.finalTotal.cents) t.orders := by
    change tally _ _ (t.orders.map _) = _
    rw [tally_map]
    apply tally_congr
    · intro o _
      by_cases hid : o.id = order.id <;> simp [hid]
    · intro o _
      split <;> rfl
  simp only [bne_iff_ne.mpr hs, Bool.and_true] at hone
  rw [hrest, Tables.costOf]
  omega

theorem spentBy_cancel {order : Order} (hn : (t.keys Order).Nodup) (hm : order ∈ t.orders)
    (hs : order.status ≠ .cancelled) (userId : Id) :
    (t.cancel order).spentBy userId = t.spentBy userId -
      if order.userId = userId then order.finalTotal.cents else 0 := by
  have hcost := costOf_cancel hn hm hs fun o => o.userId == userId
  simp only [beq_iff_eq] at hcost
  exact hcost

namespace Tables.Accounted

theorem of_same (h : t.Accounted) (ho : t'.orders = t.orders) (hb : t'.balances = t.balances)
    (hh : t'.history = t.history) : t'.Accounted where
  debit := by
    rw [ho]
    simpa only [Tables.entriesFor, hh] using h.debit
  refund := by
    rw [ho]
    simpa only [Tables.entriesFor, hh] using h.refund
  sum := by
    rw [hb]
    simpa only [Tables.chargesOf, Tables.spentBy, hh, ho] using h.sum

theorem join (h : t.Accounted) (hnum : t.Numbered) (hlink : t.Linked) (name : String) :
    (t.join name).Accounted := by
  have hnew := nextId_notMem hnum.users
  -- Nobody has that id yet, so nothing was charged to it or spent by it.
  have hcharges : t.chargesOf (t.nextId User) = 0 := by
    apply tally_eq_zero
    intro e he
    have hne : e.userId ≠ t.nextId User := fun hid => hnew (hid ▸ hlink.entry_user e he)
    simp [hne]
  have hspent : t.spentBy (t.nextId User) = 0 := by
    apply tally_eq_zero
    intro o ho
    have hne : o.userId ≠ t.nextId User := fun hid => hnew (hid ▸ hlink.order_user o ho)
    simp [hne]
  refine ⟨h.debit, h.refund, forall_mem_concat h.sum ?_⟩
  change 0 = t.chargesOf (t.nextId User) - t.spentBy (t.nextId User)
  rw [hcharges, hspent]
  rfl

theorem map_orders (h : t.Accounted) {f : Order → Order} (hf : SameAccount f) (hl : SameLife t f) :
    Accounted { t with orders := t.orders.map f } := by
  refine ⟨fun o ho => ?_, fun o ho => ?_, fun b hb => ?_⟩
  · obtain ⟨original, hm, rfl⟩ := List.mem_map.mp ho
    rw [hf.id, hf.user, hf.total]
    exact h.debit original hm
  · obtain ⟨original, hm, rfl⟩ := List.mem_map.mp ho
    have hsame : (f original).status = .cancelled ↔ original.status = .cancelled := by
      have := hl original hm
      rw [Bool.eq_iff_iff, bne_iff_ne, bne_iff_ne] at this
      exact not_iff_not.mp this
    rw [hf.id, hf.user, hf.total]
    simp only [hsame]
    exact h.refund original hm
  · rw [spentBy_map_orders hf hl]
    exact h.sum b hb

/-- The sum stays right over a booking that the charges or the orders move with. -/
theorem sum_book (h : t.Accounted) (hnum : t.Numbered) {userId : Id} {b : Balance}
    (kind : LedgerKind) {change : Money} (orderId : Option Id) (hb : t.find? userId = some b)
    (hafter : (b.amount.plus change).cents = b.amount.cents + change.cents)
    (hbalances : t'.balances = (t.book userId kind change orderId).balances)
    (hmoved : ∀ u, t'.chargesOf u - t'.spentBy u =
      t.chargesOf u - t.spentBy u + if userId = u then change.cents else 0) :
    ∀ d ∈ t'.balances, d.amount.cents = t'.chargesOf d.userId - t'.spentBy d.userId := by
  obtain ⟨hm, hid⟩ : b ∈ t.balances ∧ b.userId = userId := Tables.find?_eq_some hb
  rw [hbalances]
  refine forall_balances_book _ _ _ _ hnum.balances_nodup hb ?_ fun c hc hne => ?_
  · rw [hafter, h.sum b hm, hmoved, if_pos hid.symm]
  · rw [h.sum c hc, hmoved, if_neg (Ne.symm hne), Int.add_zero]

theorem charge (h : t.Accounted) (hnum : t.Numbered) {userId : Id} {b : Balance} {amount : Money}
    (hb : t.find? userId = some b) (hpos : 0 < amount.cents) (h0 : 0 ≤ b.amount.cents)
    (hroom : b.amount.cents + amount.cents ≤ 9223372036854775807) :
    (t.book userId .charge amount none).Accounted := by
  refine ⟨fun o ho => ?_, fun o ho => ?_, ?_⟩
  · rw [entriesFor_book, if_neg (by simp), List.append_nil]
    exact h.debit o ho
  · rw [entriesFor_book, if_neg (by simp), List.append_nil]
    exact h.refund o ho
  · refine h.sum_book hnum .charge none hb (Money.saturated_cents (by omega)) rfl fun u => ?_
    rw [chargesOf_book]
    simp only [and_true]
    change _ - t.spentBy u = _
    omega

theorem place (h : t.Accounted) (hnum : t.Numbered) (hlink : t.Linked) (hstock : t.Stocked)
    {order : NewOrder} (now : Moment) (hfine : order.Admissible t) :
    (t.place order now).Accounted := by
  obtain ⟨b, hb⟩ := hnum.exists_balance hfine.user
  have hcents := hfine.due_cents hstock
  have hdebit := hfine.debit_cents hstock
  have hentries : ∀ kind other, (t.place order now).entriesFor kind other =
      t.entriesFor kind other ++
        if LedgerKind.debit = kind ∧ some (t.nextId Order) = some other then
          [(order.userId, -t.dueTotal order.lines)] else [] := by
    intro kind other
    rw [← hdebit]
    exact entriesFor_book order.userId .debit _ _ kind other
  refine ⟨forall_mem_concat (fun o ho => ?_) ?_, forall_mem_concat (fun o ho => ?_) ?_, ?_⟩
  · have hother : t.nextId Order ≠ o.id := fun hid =>
      nextId_notMem hnum.orders (hid ▸ List.mem_map_of_mem ho)
    rw [hentries, if_neg fun heq => hother (Option.some.inj heq.2), List.append_nil]
    exact h.debit o ho
  · rw [hentries, show (t.placedOrder order).id = t.nextId Order from rfl,
      entriesFor_next hnum hlink, if_pos ⟨rfl, rfl⟩, Tables.placedOrder, hcents]
    rfl
  · rw [hentries, if_neg (by simp), List.append_nil]
    exact h.refund o ho
  · rw [hentries, if_neg (by simp), List.append_nil]
    exact entriesFor_next hnum hlink .refund
  · have hafter : (b.amount.plus (Money.saturated (t.dueTotal order.lines)).opposite).cents =
        b.amount.cents + (Money.saturated (t.dueTotal order.lines)).opposite.cents := by
      rw [← pointsOf_eq hb, hfine.points_left hstock, hdebit, Int.sub_eq_add_neg]
    refine h.sum_book hnum .debit (some (t.nextId Order)) hb hafter rfl fun u => ?_
    have hcharges := chargesOf_book (t := t) order.userId .debit
      (Money.saturated (t.dueTotal order.lines)).opposite (some (t.nextId Order)) u
    rw [if_neg (by simp), Int.add_zero] at hcharges
    change (t.book order.userId _ _ _).chargesOf u - _ = _
    rw [hcharges, spentBy_place, hcents, hdebit]
    split <;> omega

theorem cancel (h : t.Kept) {order : Order} (hm : order ∈ t.orders) (hs : order.status ≠ .cancelled)
    (hroom : (t.pointsOf order.userId).cents + order.finalTotal.cents ≤ 9223372036854775807) :
    (t.cancel order).Accounted := by
  obtain ⟨b, hb⟩ := h.numbered.exists_balance (h.linked.order_user order hm)
  obtain ⟨hmb, hid⟩ : b ∈ t.balances ∧ b.userId = order.userId := Tables.find?_eq_some hb
  have hafter : (b.amount.plus order.finalTotal).cents =
      b.amount.cents + order.finalTotal.cents := by
    have := h.ledgered.nonneg b hmb
    have := h.linked.order_total order hm
    rw [pointsOf_eq hb] at hroom
    exact Money.saturated_cents (by omega)
  have hentries : ∀ kind other, (t.cancel order).entriesFor kind other =
      t.entriesFor kind other ++ if LedgerKind.refund = kind ∧ some order.id = some other then
        [(order.userId, order.finalTotal.cents)] else [] :=
    fun kind other => entriesFor_book order.userId .refund _ _ kind other
  have hsame : ∀ o ∈ t.orders, o.id = order.id → o = order := fun o ho hid =>
    List.inj_on_of_nodup_map h.numbered.orders.nodup ho hm hid
  have haccount := SameAccount.setStatus order.id .cancelled
  refine ⟨fun o ho => ?_, fun o ho => ?_, ?_⟩
  · obtain ⟨original, hold, rfl⟩ := List.mem_map.mp ho
    rw [haccount.id, haccount.user, haccount.total, hentries, if_neg (by simp), List.append_nil]
    exact h.accounted.debit original hold
  · obtain ⟨original, hold, rfl⟩ := List.mem_map.mp ho
    rw [haccount.id, haccount.user, haccount.total, hentries, h.accounted.refund original hold]
    by_cases hid : original.id = order.id
    · obtain rfl := hsame original hold hid
      simp [hs]
    · have hne : order.id ≠ original.id := Ne.symm hid
      simp [hid, hne]
  · refine h.accounted.sum_book h.numbered .refund (some order.id) hb hafter rfl fun u => ?_
    have hcharges := chargesOf_book (t := t) order.userId .refund order.finalTotal
      (some order.id) u
    rw [if_neg (by simp), Int.add_zero] at hcharges
    change (t.book order.userId _ _ _).chargesOf u - _ = _
    rw [hcharges, spentBy_cancel h.numbered.orders.nodup hm hs]
    split <;> omega

end Tables.Accounted

end Checkout.Store
