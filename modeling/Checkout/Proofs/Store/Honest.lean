-- A medium that refuses writes and spoils rows can only make a unit of work
-- fail, and says so. Anything else that comes of it comes of it on a medium
-- that does what it is told, as long as no write is lost in silence.
import Checkout.Proofs.Store.Calm

namespace Checkout.Store

/-- No write is ignored without a word. -/
def Medium.Honest (m : Medium) : Prop := ∀ d ∈ m.disturbances, d.2 = .refused

theorem Medium.Honest.sound : Medium.sound.Honest := by
  simp [Honest, Medium.sound]

theorem Medium.Honest.disturbance? {m : Medium} (h : m.Honest) (table : TableName) (write : Write) :
    m.disturbance? table write = none ∨ m.disturbance? table write = some .refused := by
  unfold Medium.disturbance?
  cases hd : m.disturbances.find? (·.1 == (table, write)) with
  | none => exact .inl rfl
  | some d => exact .inr (congrArg some (h d (List.mem_of_find?_eq_some hd)))

namespace Work

variable {α β : Type}

/-- Whatever the work comes to on an honest medium, it comes to on a calm one, unless the store
fails. -/
structure Faithful (w : Work α) : Prop where
  outcome : ∀ {c t}, c.medium.Honest →
    w c t = w (.calm c.now) t ∨ ∃ cause, w c t = .error (.storage cause)

namespace Faithful

/-- What succeeds does the same on a calm medium. -/
theorem calm {w : Work α} (hw : Faithful w) {c : Conditions} {t : Tables} {r : α × Tables}
    (hc : c.medium.Honest) (h : w c t = .ok r) : w (.calm c.now) t = .ok r := by
  rcases hw.outcome (t := t) hc with hsame | ⟨cause, hfailed⟩
  · exact hsame.symm.trans h
  · rw [hfailed] at h
    cases h

/-! ## Work without rows -/

theorem pure (a : α) : Faithful (pure a) := ⟨fun _ => .inl rfl⟩

theorem fail (f : Fault) : Faithful (fail f : Work α) := ⟨fun _ => .inl rfl⟩

theorem view (look : Tables → α) : Faithful (view look) := ⟨fun _ => .inl rfl⟩

theorem modify (change : Tables → Tables) : Faithful (modify change) := ⟨fun _ => .inl rfl⟩

theorem now : Faithful now := ⟨fun _ => .inl rfl⟩

theorem orFail (f : Fault) (a : Option α) : Faithful (orFail f a) := by
  cases a <;> exact ⟨fun _ => .inl rfl⟩

theorem ofExcept (r : Except Fault α) : Faithful (ofExcept r) := by
  cases r <;> exact ⟨fun _ => .inl rfl⟩

theorem constrain (α : Type) [Row α] (kept : Bool) : Faithful (constrain α kept) := by
  cases kept <;> exact ⟨fun _ => .inl rfl⟩

theorem bind {w : Work α} {next : α → Work β} (hw : Faithful w)
    (hnext : ∀ a, Faithful (next a)) : Faithful (w >>= next) := by
  refine ⟨fun {c t} hc => ?_⟩
  rw [bind_run, bind_run]
  rcases hw.outcome (t := t) hc with hsame | ⟨cause, hfailed⟩
  · rw [hsame]
    cases w (.calm c.now) t with
    | error f => exact .inl rfl
    | ok at' => exact (hnext at'.1).outcome hc
  · rw [hfailed]
    exact .inr ⟨cause, rfl⟩

/-- Failures of the store keep their word. -/
theorem mapFault {w : Work α} (hw : Faithful w) {f : Fault → Fault}
    (hf : ∀ cause, ∃ cause', f (.storage cause) = .storage cause') : Faithful (mapFault w f) := by
  refine ⟨fun {c t} hc => ?_⟩
  rw [mapFault_run, mapFault_run]
  rcases hw.outcome (t := t) hc with hsame | ⟨cause, hfailed⟩
  · rw [hsame]
    exact .inl rfl
  · obtain ⟨cause', hcause⟩ := hf cause
    rw [hfailed]
    exact .inr ⟨cause', congrArg Except.error hcause⟩

/-- A check before some work can only make it fail. -/
theorem guard {broken : Prop} [Decidable broken] (f : Fault) {w : Work α}
    (hw : Faithful w) : Faithful (if broken then (do let _ : Unit ← Work.fail f; w) else w) := by
  split
  · exact .bind (.fail f) fun _ => hw
  · exact hw

/-! ## Rows -/

variable [Row α]

theorem reading (rows : List α) : Faithful (reading rows) := by
  refine ⟨fun {c t} hc => ?_⟩
  rw [reading_calm]
  unfold Work.reading
  split
  · exact .inr ⟨_, rfl⟩
  · exact .inl rfl

theorem writing (write : Write) {act : Work (Option β)} (hact : Faithful act) :
    Faithful (writing α write act) := by
  refine ⟨fun {c t} hc => ?_⟩
  simp only [Work.writing, bind_run, disturbance_calm]
  simp only [disturbance]
  rcases hc.disturbance? (Row.table α) write with hd | hd
  · rw [hd]
    exact hact.outcome hc
  · rw [hd]
    exact .inr ⟨_, rfl⟩

theorem select (meets : α → Bool) : Faithful (select meets) :=
  .bind (.view _) fun _ => .reading _

theorem fetch (id : Id) (visible : α → Bool) : Faithful (fetch id visible) :=
  .bind (.view _) fun _ => .bind (.reading _) fun _ => .pure _

theorem change (id : Id) (meets : α → Bool) {make : α → Work α} (hmake : ∀ a, Faithful (make a)) :
    Faithful (change id meets make) := by
  refine .bind (.view _) fun found => ?_
  split
  · exact .pure _
  · exact .writing .update <| .bind (hmake _) fun _ => .bind (.modify _) fun _ => .pure _

theorem update (id : Id) (meets : α → Bool) {make : α → Work α} (hmake : ∀ a, Faithful (make a)) :
    Faithful (update id meets make) :=
  .bind (.change id meets hmake) fun _ => .bind (.reading _) fun _ => .pure _

theorem insert {make : Id → Work α} (hmake : ∀ id, Faithful (make id)) : Faithful (insert make) :=
  .writing .insert <| .bind (.view _) fun _ => .bind (hmake _) fun _ =>
    .bind (.modify _) fun _ => .pure _

theorem insertAndGet {make : Id → Work α} (hmake : ∀ id, Faithful (make id)) :
    Faithful (insertAndGet make) :=
  .bind (.insert hmake) fun _ => .orFail _ _

end Faithful

end Work

/-! ## Users and balances -/

theorem Users.insert_faithful (name : String) : (Users.insert name).Faithful := by
  refine .bind (.insertAndGet fun id => .bind (.view _) fun users => ?_) fun _ =>
    .bind (.insert fun _ => .pure _) fun _ => .pure _
  exact .guard _ (.pure _)

namespace Balances

variable (userId : Id)

theorem fetchFor_faithful : (fetchFor userId).Faithful :=
  .bind (.fetch userId _) fun _ => .orFail _ _

theorem append_faithful (kind : LedgerKind) (amount balanceAfter : Money) (orderId : Option Id) :
    (append userId kind amount balanceAfter orderId).Faithful :=
  .bind (.insert fun _ => .pure _) fun _ => .pure _

theorem withAmount_faithful (b : Balance) (amount : Option Money) :
    (withAmount b amount).Faithful := by
  cases amount with
  | some amount => exact .bind (.constrain Balance _) fun _ => .pure _
  | none => exact .fail _

theorem debit_faithful (amount : Money) (orderId : Option Id) :
    (debit userId amount orderId).Faithful := by
  refine .guard _ (.bind (.update userId _ fun b => withAmount_faithful b _) fun updated => ?_)
  cases updated with
  | some b =>
    exact .bind (.ofExcept _) fun _ => .bind (append_faithful _ _ _ _ _) fun _ => .pure _
  | none => exact .bind (fetchFor_faithful userId) fun _ => .fail _

theorem credit_faithful (kind : LedgerKind) (amount : Money) (orderId : Option Id) :
    (credit userId kind amount orderId).Faithful := by
  refine .guard _ (.bind (.update userId _ fun b => withAmount_faithful b _) fun updated => ?_)
  cases updated with
  | some b => exact .bind (append_faithful _ _ _ _ _) fun _ => .pure _
  | none => exact .bind (fetchFor_faithful userId) fun _ => .fail _

theorem charge_faithful (amount : Money) : (charge userId amount).Faithful :=
  .guard _ (credit_faithful userId .charge amount none)

end Balances

/-! ## Products and coupons -/

namespace Products

theorem insert_faithful (p : NewProduct) : (insert p).Faithful :=
  .guard _ (.insertAndGet fun _ => .pure _)

theorem withStock_faithful (p : Product) (stock : Int) : (withStock p stock).Faithful :=
  .bind (.constrain Product _) fun _ => .pure _

theorem reserve_faithful (id : Id) (quantity : Int) : (reserve id quantity).Faithful := by
  refine .bind (.update id _ fun p => withStock_faithful p _) fun updated => ?_
  cases updated with
  | some p => exact .pure _
  | none =>
    refine .bind (.fetch id _) fun found => ?_
    cases found <;> exact .fail _

theorem restore_faithful (id : Id) (quantity : Int) : (restore id quantity).Faithful :=
  .bind (.update id _ fun p => withStock_faithful p _) fun _ => .orFail _ _

theorem delete_faithful (id : Id) : (delete id).Faithful :=
  .bind (.change id _ fun _ => .pure _) fun _ => .pure _

end Products

namespace Coupons

theorem insert_faithful (c : NewCoupon) : (insert c).Faithful :=
  .guard _ (.insertAndGet fun _ => .pure _)

theorem issue_faithful (c : NewCoupon) : (issue c).Faithful :=
  .bind (.fetch c.ownerId _) fun _ => .bind (.orFail _ _) fun _ => insert_faithful c

theorem fetchOwned_faithful (id ownerId : Id) : (fetchOwned id ownerId).Faithful :=
  .bind (.fetch id _) fun _ => .orFail _ _

theorem swap_faithful (read : Coupon) (status : CouponStatus) : (swap read status).Faithful :=
  .bind (.update read.id _ fun _ => .pure _) fun _ => .orFail _ _

theorem consume_faithful (id ownerId : Id) : (consume id ownerId).Faithful :=
  .bind (fetchOwned_faithful id ownerId) fun coupon => .guard _ (swap_faithful coupon .used)

theorem restore_faithful (id : Id) : (restore id).Faithful := by
  refine .bind (.fetch id _) fun _ => .bind (.orFail _ _) fun coupon => ?_
  split
  · exact swap_faithful coupon .unused
  · exact .pure _

end Coupons

/-! ## Orders and payments -/

theorem Payments.insert_faithful (p : NewPayment) : (Payments.insert p).Faithful :=
  .insertAndGet fun _ => .bind (.view _) fun _ => .bind (.view _) fun _ =>
    .bind (.constrain Payment _) fun _ => .bind .now fun _ => .pure _

namespace Orders

theorem insert_faithful (userId : Id) (totals : OrderTotals) : (insert userId totals).Faithful :=
  .insertAndGet fun _ => .bind (.view _) fun _ => .bind (.constrain Order _) fun _ => .pure _

theorem insertLine_faithful (orderId : Id) (lineNo : Int) (line : PricedLine) :
    (insertLine orderId lineNo line).Faithful :=
  .insertAndGet fun _ => .bind (.view _) fun _ => .bind (.constrain OrderLine _) fun _ => .pure _

theorem fetchVisible_faithful (id : Id) : (fetchVisible id).Faithful :=
  .bind (.fetch id _) fun _ => .orFail _ _

theorem fetchLines_faithful (id : Id) : (fetchLines id).Faithful :=
  .bind (.select _) fun _ => .pure _

theorem transition_faithful (id : Id) (source target : OrderStatus) :
    (transition id source target).Faithful :=
  .update id _ fun _ => .pure _

theorem rejectTransition_faithful (id : Id) : (rejectTransition id).Faithful :=
  .bind (fetchVisible_faithful id) fun _ => .fail _

theorem checkCoupons_faithful (userId : Id) (ids : List Id) :
    (checkCoupons userId ids).Faithful := by
  induction ids with
  | nil => exact .pure _
  | cons id ids ih => exact .bind (Coupons.fetchOwned_faithful id userId) fun _ => ih

theorem reserveAll_faithful (lines : List NewOrderLine) : (reserveAll lines).Faithful := by
  induction lines with
  | nil => exact .pure _
  | cons line lines ih =>
    exact .bind (Products.reserve_faithful _ _) fun _ => .bind ih fun _ => .pure _

theorem consumeFor_faithful (userId : Id) (coupon : Option Id) :
    (consumeFor userId coupon).Faithful := by
  cases coupon with
  | none => exact .pure _
  | some id => exact .bind (.mapFault (Coupons.consume_faithful id userId) fun cause => ⟨cause, rfl⟩) fun _ => .pure _

theorem priceAll_faithful (userId : Id) (lines : List (NewOrderLine × Money)) :
    (priceAll userId lines).Faithful := by
  induction lines with
  | nil => exact .pure _
  | cons line lines ih =>
    exact .bind (consumeFor_faithful userId _) fun _ => .bind (.ofExcept _) fun _ =>
      .bind ih fun _ => .pure _

theorem insertLines_faithful (orderId : Id) (lineNo : Int) (lines : List PricedLine) :
    (insertLines orderId lineNo lines).Faithful := by
  induction lines generalizing lineNo with
  | nil => exact .pure _
  | cons line lines ih =>
    exact .bind (insertLine_faithful _ _ _) fun _ => .bind (ih (lineNo + 1)) fun _ => .pure _

theorem payWith_faithful (order : Order) (details : Option PaymentDetails) :
    (payWith order details).Faithful := by
  cases details with
  | none => exact .pure _
  | some details => exact .bind (Payments.insert_faithful _) fun _ => .pure _

theorem place_faithful (order : NewOrder) : (place order).Faithful :=
  .bind (.fetch order.userId _) fun _ => .bind (.orFail _ _) fun _ =>
  .bind (checkCoupons_faithful _ _) fun _ => .bind (reserveAll_faithful _) fun _ =>
  .bind (priceAll_faithful _ _) fun _ => .bind (.ofExcept _) fun _ =>
  .bind (insert_faithful _ _) fun _ => .bind (Balances.debit_faithful _ _ _) fun _ =>
  .bind (insertLines_faithful _ _ _) fun _ => .bind (payWith_faithful _ _) fun _ => .pure _

theorem confirm_faithful (id : Id) : (confirm id).Faithful := by
  refine .bind (transition_faithful id _ _) fun moved => ?_
  cases moved with
  | some order => exact .pure _
  | none => exact rejectTransition_faithful id

theorem restoreFor_faithful (coupon : Option Id) : (restoreFor coupon).Faithful := by
  cases coupon with
  | none => exact .pure _
  | some id => exact .bind (Coupons.restore_faithful id) fun _ => .pure _

theorem giveBack_faithful (lines : List OrderLine) : (giveBack lines).Faithful := by
  induction lines with
  | nil => exact .pure _
  | cons line lines ih =>
    exact .bind (Products.restore_faithful _ _) fun _ => .bind (restoreFor_faithful _) fun _ => ih

theorem cancel_faithful (id : Id) : (cancel id).Faithful := by
  refine .bind (fetchVisible_faithful id) fun order => .guard _ ?_
  refine .bind (fetchLines_faithful id) fun lines => .bind (giveBack_faithful lines) fun _ =>
    .bind (Balances.credit_faithful _ _ _ _) fun _ =>
    .bind (transition_faithful _ _ _) fun moved => ?_
  cases moved with
  | some order => exact .pure _
  | none => exact rejectTransition_faithful id

theorem archive_faithful (id : Id) : (archive id).Faithful :=
  .bind (fetchVisible_faithful id) fun _ => .guard _ <|
    .bind (.update id _ fun _ => .pure _) fun _ => .orFail _ _

end Orders

namespace Payments

theorem openFor_faithful (p : NewPayment) : (openFor p).Faithful :=
  .bind (Orders.fetchVisible_faithful _) fun _ => .guard _ <|
    .bind (.view _) fun _ => .guard _ (insert_faithful p)

theorem assignKey_faithful (id : Id) (key : String) : (assignKey id key).Faithful :=
  .update id _ fun _ => .bind (.view _) fun _ => .guard _ (.pure _)

theorem settle_faithful (id : Id) (status : PaymentStatus) (reason : Option String)
    (completedAt : Option Moment) : (settle id status reason completedAt).Faithful :=
  .update id _ fun _ => .pure _

end Payments

end Checkout.Store
