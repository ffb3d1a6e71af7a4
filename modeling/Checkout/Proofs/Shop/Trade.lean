-- What comes of trading. Creating, cancelling or confirming an order and
-- charging a balance each have an upshot that can be read off the tables
-- before: what is answered, and how the rows change.
import Checkout.Proofs.Shop.Redelivery
import Checkout.Proofs.Store.Footprint

namespace Checkout

open Store Service

/-! ## Effects -/

/-- An order is moved on. -/
def Effect.moving (id : Id) (status : OrderStatus) : Effect :=
  { nothing with move := some (id, status) }

/-- An amount is booked. -/
def Effect.booking (p : Posting) : Effect := { nothing with posting := some p }

namespace Store.Tables

/-- What placing an order does. -/
def placing (t : Tables) (order : NewOrder) : Effect :=
  let change := (Money.saturated (t.dueTotal order.lines)).opposite
  { stock := fun id => -askedOf order.lines id
    coupons := order.lines.filterMap (·.couponId)
    status := .used
    posting := some ⟨order.userId, .debit, change, (t.pointsOf order.userId).plus change⟩
    move := none }

/-- What cancelling an order does. -/
def cancelling (t : Tables) (o : Order) : Effect :=
  { stock := heldOf (t.linesOf o.id)
    coupons := (t.linesOf o.id).filterMap (·.couponId)
    status := .unused
    posting := some ⟨o.userId, .refund, o.finalTotal, (t.pointsOf o.userId).plus o.finalTotal⟩
    move := some (o.id, .cancelled) }

variable {t : Tables}

theorem placing_makes (hnum : t.Numbered) (order : NewOrder) (now : Moment) :
    (t.placing order).Makes t (t.place order now) where
  users := rfl
  products := rfl
  coupons := rfl
  balances := rfl
  history := ⟨_, rfl, rfl⟩
  orders := by
    refine ⟨[t.placedOrder order], ?_, ?_⟩
    · rw [show (t.placing order).onOrder = id from rfl, List.map_id]
      rfl
    · simpa [placedOrder] using nextId_notMem hnum.orders
  lines := by
    refine ⟨t.placedLines order, rfl, fun l hl => ?_⟩
    obtain ⟨i, hi, rfl⟩ := List.mem_mapIdx.mp hl
    exact nextId_notMem hnum.orders

theorem cancelling_makes (t : Tables) (o : Order) : (t.cancelling o).Makes t (t.cancel o) where
  users := rfl
  products := rfl
  coupons := rfl
  balances := rfl
  history := ⟨_, rfl, rfl⟩
  orders := ⟨[], (List.append_nil _).symm, by simp⟩
  lines := ⟨[], (List.append_nil _).symm, by simp⟩

theorem moving_makes (t : Tables) (id : Id) (status : OrderStatus) :
    (Effect.moving id status).Makes t (t.setStatus id status) :=
  { Effect.nothing_makes t with
    orders := ⟨[], (List.append_nil _).symm, by simp⟩ }

theorem booking_makes (t : Tables) (userId : Id) (kind : LedgerKind) (change : Money)
    (orderId : Option Id) :
    (Effect.booking ⟨userId, kind, change, (t.pointsOf userId).plus change⟩).Makes t
      (t.book userId kind change orderId) :=
  { Effect.nothing_makes t with
    balances := rfl
    history := ⟨_, rfl, rfl⟩ }

end Store.Tables

/-! ## Trades -/

/-- Something that is done about an order or about points. -/
inductive Trade where
  | create (order : NewOrder)
  | cancel (id : Id)
  | confirm (id : Id)
  | charge (userId : Id) (amount : Money)
deriving DecidableEq, Repr

namespace Trade

/-- What is answered to a trade. -/
inductive Reply where
  | placed (p : PlacedOrder)
  | order (o : Order)
  | balance (b : Balance)
deriving DecidableEq, Repr

/-- What is answered, and what happens to the tables. -/
structure Upshot where
  reply : Except Fault Reply
  effect : Effect

/-- Nothing happens, for a reason. -/
def Upshot.refused (f : Fault) : Upshot := ⟨.error f, .nothing⟩

def op : Trade → Operation
  | .create order => .createOrder order
  | .cancel id => .cancelOrder id
  | .confirm id => .confirmOrder id
  | .charge userId amount => .charge userId amount

/-- What an answer tells. The ids and the time of a new order are left out. -/
def reply : (trade : Trade) → trade.op.Answer → Except Fault Reply
  | .create _, answer => Except.map (fun p : PlacedOrder => .placed p.anonymous) answer
  | .cancel _, answer => Except.map .order answer
  | .confirm _, answer => Except.map .order answer
  | .charge _ _, answer => Except.map .balance answer

/-- Does all of it, with nothing else in between. -/
def play (around : Surroundings) (t : Tables) (trade : Trade) : Except Fault Reply × Tables :=
  let (answer, t') := trade.op.flow.finish around.mended t
  (trade.reply answer, t')

/-- The user whom it concerns. An order that is not there concerns nobody. -/
def user? (t : Tables) : Trade → Option Id
  | .create order => some order.userId
  | .cancel id | .confirm id => (t.find? id : Option Order).map (·.userId)
  | .charge userId _ => some userId

/-- The products whose stock it looks at or moves. -/
def goods (t : Tables) : Trade → List Id
  | .create order => order.lines.map (·.productId)
  | .cancel id => (t.linesOf id).map (·.productId)
  | .confirm _ | .charge _ _ => []

/-- What comes of it, read off the tables before. -/
def upshot (t : Tables) : Trade → Upshot
  | .create order =>
    match order.objection t with
    | some f => .refused f
    | none => ⟨.ok (.placed (t.placement order 0).anonymous), t.placing order⟩
  | .cancel id =>
    match t.visible? id with
    | none => .refused (.notFound (.order id))
    | some o =>
      if o.status = .cancelled then .refused (.invalidStatus id .cancelled)
      else if (t.pointsOf o.userId).cents + o.finalTotal.cents ≤ 9223372036854775807 then
        ⟨.ok (.order { o with status := .cancelled }), t.cancelling o⟩
      else .refused (.invalid (.balanceTooLarge .refund o.finalTotal))
  | .confirm id =>
    match t.visible? id with
    | none => .refused (.notFound (.order id))
    | some o =>
      if o.status = .pending then
        ⟨.ok (.order { o with status := .confirmed }), .moving id .confirmed⟩
      else .refused (.invalidStatus id o.status)
  | .charge userId amount =>
    if amount.isPositive then
      match (t.find? userId : Option Balance) with
      | none => .refused (.notFound (.balanceOf userId))
      | some b =>
        if b.amount.cents + amount.cents ≤ 9223372036854775807 then
          ⟨.ok (.balance { b with amount := b.amount.plus amount }),
            .booking ⟨userId, .charge, amount, b.amount.plus amount⟩⟩
        else .refused (.invalid (.balanceTooLarge .charge amount))
    else .refused (.invalid (.chargeMustBePositive amount))

/-- What was done comes to an upshot, and leaves the tables in order. -/
structure Upshot.Comes (x : Upshot) (t : Tables) (result : Except Fault Reply × Tables) :
    Prop where
  reply : result.1 = x.reply
  makes : x.effect.Makes t result.2
  kept : result.2.Kept

end Trade

/-! ## What is done comes to the upshot -/

variable {t t' : Tables}

/-- A charge needs to be positive, and room on a balance that is there. -/
theorem charge_finish (hk : t.Kept) (userId : Id) (amount : Money) (around : Surroundings) :
    (Accounts.charge userId amount).run.finish around.mended t =
      if amount.isPositive then
        match (t.find? userId : Option Balance) with
        | none => (.error (.notFound (.balanceOf userId)), t)
        | some b =>
          if b.amount.cents + amount.cents ≤ 9223372036854775807 then
            (.ok { b with amount := b.amount.plus amount }, t.book userId .charge amount none)
          else (.error (.invalid (.balanceTooLarge .charge amount)), t)
      else (.error (.invalid (.chargeMustBePositive amount)), t) := by
  have hcharge := Balances.charge_calm userId amount around.now hk.numbered.balances_nodup
    hk.ledgered.nonneg
  cases hpos : amount.isPositive
  · simp only [Accounts.charge, hpos, Bool.not_false, if_true, Bool.false_eq_true, if_false]
    rfl
  · simp only [Accounts.charge, hpos, Bool.not_true, Bool.false_eq_true, if_false, if_true]
    change (Query.charge userId amount).answer (.calm around.now) t = _
    rw [Query.answer, Query.work, hcharge, if_pos hpos]
    cases (t.find? userId : Option Balance) with
    | none => rfl
    | some b =>
      by_cases hroom : b.amount.cents + amount.cents ≤ 9223372036854775807
      · simp only [if_pos hroom]
      · simp only [if_neg hroom]

namespace Trade

section Finish

variable {trade : Trade} {around : Surroundings} {answer : trade.op.Answer}

theorem comes_of_finish {x : Upshot} (h : trade.op.flow.finish around.mended t = (answer, t'))
    (hreply : trade.reply answer = x.reply) (hmakes : x.effect.Makes t t') (hkept : t'.Kept) :
    x.Comes t (trade.play around t) := by
  simp only [play, h]
  exact ⟨hreply, hmakes, hkept⟩

theorem refused_of_finish {f : Fault} (h : trade.op.flow.finish around.mended t = (answer, t))
    (hreply : trade.reply answer = .error f) (hk : t.Kept) :
    (Upshot.refused f).Comes t (trade.play around t) :=
  comes_of_finish h hreply (Effect.nothing_makes t) hk

end Finish

theorem create_comes (hk : t.Kept) (order : NewOrder) (around : Surroundings) :
    ((create order).upshot t).Comes t ((create order).play around t) := by
  have hfinish := create_finish hk order around
  rw [upshot]
  cases ho : order.objection t with
  | some f =>
    rw [ho] at hfinish
    exact refused_of_finish hfinish rfl hk
  | none =>
    rw [ho] at hfinish
    have hfine := (objection_eq_none_iff order hk.numbered hk.stocked).mp ho
    have hsame : (t.placement order around.now).anonymous = (t.placement order 0).anonymous :=
      placement_same ⟨fun _ _ => rfl, fun _ _ => rfl⟩ 0 around.now
    exact comes_of_finish hfinish (congrArg (fun p => Except.ok (Reply.placed p)) hsame)
      (Tables.placing_makes hk.numbered order around.now) (hk.place around.now hfine)

theorem cancel_comes (hk : t.Kept) (id : Id) (around : Surroundings) :
    ((cancel id).upshot t).Comes t ((cancel id).play around t) := by
  have hfinish := cancel_finish hk id around
  rw [upshot]
  cases ho : t.visible? id with
  | none =>
    rw [ho] at hfinish
    exact refused_of_finish hfinish rfl hk
  | some o =>
    simp only [ho] at hfinish ⊢
    split at hfinish
    · next hs =>
      rw [if_pos hs]
      exact refused_of_finish hfinish rfl hk
    · next hs =>
      rw [if_neg hs]
      split at hfinish
      · next hroom =>
        rw [if_pos hroom]
        have hchange : Change around.now t (.cancelOrder id) _ (t.cancel o) :=
          .cancelled ho hs hroom
        exact comes_of_finish hfinish rfl (Tables.cancelling_makes t o) (hchange.kept hk)
      · next hroom =>
        rw [if_neg hroom]
        exact refused_of_finish hfinish rfl hk

theorem confirm_comes (hk : t.Kept) (id : Id) (around : Surroundings) :
    ((confirm id).upshot t).Comes t ((confirm id).play around t) := by
  have hfinish := Service.Orders.confirm_finish hk id around
  rw [upshot]
  cases ho : t.visible? id with
  | none =>
    rw [ho] at hfinish
    exact refused_of_finish hfinish rfl hk
  | some o =>
    simp only [ho] at hfinish ⊢
    split at hfinish
    · next hs =>
      rw [if_pos hs]
      have hchange : Change around.now t (.confirmOrder id) _ (t.setStatus id .confirmed) :=
        .confirmed ho hs
      exact comes_of_finish hfinish rfl (Tables.moving_makes t id .confirmed) (hchange.kept hk)
    · next hs =>
      rw [if_neg hs]
      exact refused_of_finish hfinish rfl hk

theorem charge_comes (hk : t.Kept) (userId : Id) (amount : Money) (around : Surroundings) :
    ((charge userId amount).upshot t).Comes t ((charge userId amount).play around t) := by
  have hfinish := charge_finish hk userId amount around
  rw [upshot]
  split at hfinish
  · next hpos =>
    rw [if_pos hpos]
    cases hb : (t.find? userId : Option Balance) with
    | none =>
      rw [hb] at hfinish
      exact refused_of_finish hfinish rfl hk
    | some b =>
      simp only [hb] at hfinish ⊢
      split at hfinish
      · next hroom =>
        rw [if_pos hroom]
        have hmakes := Tables.booking_makes t userId .charge amount none
        rw [pointsOf_eq hb] at hmakes
        exact comes_of_finish hfinish rfl hmakes
          (hk.charge hb (of_decide_eq_true hpos) hroom)
      · next hroom =>
        rw [if_neg hroom]
        exact refused_of_finish hfinish rfl hk
  · next hpos =>
    rw [if_neg hpos]
    exact refused_of_finish hfinish rfl hk

/-- Every trade comes to its upshot, whenever it is done. -/
theorem comes (hk : t.Kept) (trade : Trade) (around : Surroundings) :
    (trade.upshot t).Comes t (trade.play around t) := by
  cases trade with
  | create order => exact create_comes hk order around
  | cancel id => exact cancel_comes hk id around
  | confirm id => exact confirm_comes hk id around
  | charge userId amount => exact charge_comes hk userId amount around

end Trade

end Checkout
