-- Everything that can be asked of the shop. Whatever a call does, it places
-- only orders that it has checked, and keeps to the business of its operation.
import Checkout.Proofs.Store.Change
import Checkout.Service.Accounts
import Checkout.Service.Payments
import Checkout.Service.Settlement

namespace Checkout.Service

/-! ## Operations -/

/-- Something that is asked of the shop. -/
inductive Operation where
  | createUser (name : String)
  | user (id : Id)
  | balance (userId : Id)
  | charge (userId : Id) (amount : Money)
  | history (userId : Id)
  | points (userId : Id)
  /-- The stock comes as a number of 64 bits. -/
  | createProduct (p : NewProduct) (fits : Fits p.stock)
  | product (id : Id)
  | issueCoupon (c : NewCoupon)
  | coupon (id : Id)
  | createOrder (order : NewOrder)
  | order (id : Id)
  | orderForUser (userId id : Id)
  | ordersOfUser (userId : Id)
  | orderDetails (userId id : Id)
  | confirmOrder (id : Id)
  | confirmForUser (userId id : Id)
  | cancelOrder (id : Id)
  | cancelForUser (userId id : Id)
  | archiveOrder (id : Id)
  | placeOrder (order : NewOrder)
  | payOrder (userId : Id) (request : PayOrderRequest)
  | handleCallback (callback : PaymentCallback)
  | expireStale (cutoff : Moment)
  | settle (event : Event)

namespace Operation

/-- What the answer to an operation is. -/
def Answer : Operation → Type
  | .createUser _ => Except Fault User
  | .user _ => Except Fault User
  | .balance _ => Except Fault Balance
  | .charge _ _ => Except Fault Balance
  | .history _ => Except Fault (List LedgerEntry)
  | .points _ => Except Fault PointsSummary
  | .createProduct _ _ => Except Fault Product
  | .product _ => Except Fault (Option Product)
  | .issueCoupon _ => Except Fault Coupon
  | .coupon _ => Except Fault (Option Coupon)
  | .createOrder _ => Except Fault PlacedOrder
  | .order _ => Except Fault Order
  | .orderForUser _ _ => Except Fault Order
  | .ordersOfUser _ => Except Fault (List Order)
  | .orderDetails _ _ => Except Fault OrderDetails
  | .confirmOrder _ => Except Fault Order
  | .confirmForUser _ _ => Except Fault Order
  | .cancelOrder _ => Except Fault Order
  | .cancelForUser _ _ => Except Fault Order
  | .archiveOrder _ => Except Fault Order
  | .placeOrder _ => Except Fault PlacedOrder
  | .payOrder _ _ => Except Fault Payment
  | .handleCallback _ => Except Fault CallbackOutcome
  | .expireStale _ => Except Fault (List Payment)
  | .settle _ => Option Order

/-- What is done for an operation. -/
def flow : (op : Operation) → Flow op.Answer
  | .createUser name => Accounts.createUser name
  | .user id => Accounts.user id
  | .balance userId => Accounts.balance userId
  | .charge userId amount => Accounts.charge userId amount
  | .history userId => Accounts.history userId
  | .points userId => Accounts.points userId
  | .createProduct p _ => Call.query (.createProduct p)
  | .product id => Call.query (.product id)
  | .issueCoupon c => Call.query (.issueCoupon c)
  | .coupon id => Call.query (.coupon id)
  | .createOrder new => Orders.create new
  | .order id => Orders.fetch id
  | .orderForUser userId id => Orders.fetchForUser userId id
  | .ordersOfUser userId => Orders.ofUser userId
  | .orderDetails userId id => Orders.detailsForUser userId id
  | .confirmOrder id => Orders.confirm id
  | .confirmForUser userId id => Orders.confirmForUser userId id
  | .cancelOrder id => Orders.cancel id
  | .cancelForUser userId id => Orders.cancelForUser userId id
  | .archiveOrder id => Orders.archive id
  | .placeOrder new => Payments.placeOrder new
  | .payOrder userId request => Payments.payOrder userId request
  | .handleCallback callback => Payments.handleCallback callback
  | .expireStale cutoff => Payments.expireStale cutoff
  | .settle event => Settlement.handle event

end Operation

/-! ## The business of an operation -/

/-- What an operation has to do with, beside what any may do. -/
inductive Business where
  | plain
  /-- Orders are confirmed, cancelled and archived. -/
  | moving
  /-- Payments are opened and settled. -/
  | paying
deriving DecidableEq

namespace Business

def mayAsk {α : Type} (b : Business) : Store.Query α → Bool
  | .confirmOrder _ | .cancelOrder _ | .archiveOrder _ => b == .moving
  | .openPayment _ | .assignKey _ _ | .completePayment _ | .failPayment _ _ => b == .paying
  | _ => true

def mayPublish (b : Business) : Event → Bool
  | .orderConfirmed _ | .orderCancelled _ => b == .moving
  | .paymentCompleted _ | .paymentFailed _ _ => b == .paying

end Business

def Operation.business : Operation → Business
  | .confirmOrder _ | .confirmForUser _ _ | .cancelOrder _ | .cancelForUser _ _
  | .archiveOrder _ | .settle _ => .moving
  | .placeOrder _ | .payOrder _ _ | .handleCallback _ | .expireStale _ => .paying
  | _ => .plain

/-! ## What a flow may do -/

/-- Every query that the flow may ever ask is a proper one, and all that it does is part of a
business. -/
def Flow.Proper {α : Type} (b : Business) : Flow α → Prop
  | .done _ => True
  | .ask query next => (b.mayAsk query = true ∧ query.Proper) ∧ ∀ r, (next r).Proper b
  | .requestPayment _ _ next => b = .paying ∧ ∀ r, (next r).Proper b
  | .fetchTransaction _ _ next => b = .paying ∧ ∀ r, (next r).Proper b
  | .publish event next => b.mayPublish event = true ∧ next.Proper b

theorem Flow.Proper.bind {α β : Type} {b : Business} {f : Flow α} {next : α → Flow β}
    (hf : f.Proper b) (hnext : ∀ a, (next a).Proper b) : (f >>= next).Proper b := by
  induction f with
  | done a => exact hnext a
  | ask query rest ih => exact ⟨hf.1, fun r => ih r (hf.2 r)⟩
  | requestPayment user request rest ih => exact ⟨hf.1, fun r => ih r (hf.2 r)⟩
  | fetchTransaction user key rest ih => exact ⟨hf.1, fun r => ih r (hf.2 r)⟩
  | publish event rest ih => exact ⟨hf.1, ih hf.2⟩

/-- What holds of a proper flow holds of the call that it is. -/
structure Call.Proper {α : Type} (b : Business) (c : Call α) : Prop where
  flow : Flow.Proper b c.run

namespace Call.Proper

variable {α β : Type} {b : Business}

theorem pure (a : α) : Call.Proper b (pure a) := ⟨trivial⟩

theorem fail (f : Fault) : Call.Proper b (fail f : Call α) := ⟨trivial⟩

theorem ofExcept (r : Except Fault α) : Call.Proper b (ofExcept r) := ⟨trivial⟩

theorem orFail (f : Fault) (a : Option α) : Call.Proper b (orFail f a) := by
  cases a
  · exact fail f
  · exact pure _

theorem query {q : Store.Query α} (hmay : b.mayAsk q = true) (hq : q.Proper) :
    Call.Proper b (query q) :=
  ⟨⟨hmay, hq⟩, fun _ => trivial⟩

theorem attempt {q : Store.Query α} (hmay : b.mayAsk q = true) (hq : q.Proper) :
    Call.Proper b (attempt q) :=
  ⟨⟨hmay, hq⟩, fun _ => trivial⟩

theorem publish {event : Event} (hmay : b.mayPublish event = true) :
    Call.Proper b (publish event) :=
  ⟨hmay, trivial⟩

theorem requestPayment (user : Id) (request : Gateway.PaymentRequest) :
    Call.Proper .paying (requestPayment user request) :=
  ⟨rfl, fun _ => trivial⟩

theorem fetchTransaction (user : Id) (key : String) :
    Call.Proper .paying (fetchTransaction user key) :=
  ⟨rfl, fun _ => trivial⟩

theorem bind {c : Call α} {next : α → Call β} (hc : Call.Proper b c)
    (hnext : ∀ a, Call.Proper b (next a)) : Call.Proper b (c >>= next) := by
  refine ⟨Flow.Proper.bind hc.flow fun r => ?_⟩
  cases r with
  | ok a => exact (hnext a).flow
  | error f => trivial

/-- A check before a call does not ask anything. -/
theorem guard {broken : Prop} [Decidable broken] (f : Fault) {c : Call α} (hc : Call.Proper b c) :
    Call.Proper b (if broken then (do let _ : Unit ← Call.fail f; c) else c) := by
  split
  · exact bind (fail f) fun _ => hc
  · exact hc

end Call.Proper

/-! ## The calls -/

variable {b : Business}

theorem Accounts.createUser_proper (name : String) : Call.Proper b (Accounts.createUser name) :=
  .guard _ (.query rfl trivial)

theorem Accounts.user_proper (id : Id) : Call.Proper b (Accounts.user id) :=
  .bind (.query rfl trivial) fun _ => .orFail _ _

theorem Accounts.balance_proper (userId : Id) : Call.Proper b (Accounts.balance userId) :=
  .bind (.query rfl trivial) fun _ => .orFail _ _

theorem Accounts.charge_proper (userId : Id) (amount : Money) :
    Call.Proper b (Accounts.charge userId amount) :=
  .guard _ (.query rfl trivial)

theorem Accounts.points_proper (userId : Id) : Call.Proper b (Accounts.points userId) :=
  .bind (Accounts.balance_proper userId) fun _ => .bind (.query rfl trivial) fun _ => .pure _

namespace Orders

/-- An order is placed only after it has passed the check. -/
theorem create_proper (order : NewOrder) : Call.Proper b (create order) := by
  unfold create
  rw [NewOrder.validate_eq]
  cases h : order.shapeObjection with
  | some f => exact ⟨trivial⟩
  | none => exact .query rfl (order.shapeObjection_eq_none_iff.mp h)

theorem fetch_proper (id : Id) : Call.Proper b (fetch id) :=
  .bind (.query rfl trivial) fun _ => .orFail _ _

theorem fetchForUser_proper (userId id : Id) : Call.Proper b (fetchForUser userId id) :=
  .bind (.query rfl trivial) fun _ => .orFail _ _

theorem confirm_proper (id : Id) : Call.Proper .moving (confirm id) :=
  .bind (.query rfl trivial) fun _ => .bind (.publish rfl) fun _ => .pure _

theorem cancel_proper (id : Id) : Call.Proper .moving (cancel id) :=
  .bind (.query rfl trivial) fun _ => .bind (.publish rfl) fun _ => .pure _

theorem confirmForUser_proper (userId id : Id) : Call.Proper .moving (confirmForUser userId id) :=
  .bind (fetchForUser_proper userId id) fun _ => confirm_proper id

theorem cancelForUser_proper (userId id : Id) : Call.Proper .moving (cancelForUser userId id) :=
  .bind (fetchForUser_proper userId id) fun _ => cancel_proper id

theorem detailsForUser_proper (userId id : Id) : Call.Proper b (detailsForUser userId id) :=
  .bind (fetchForUser_proper userId id) fun _ => .bind (.query rfl trivial) fun _ =>
    .bind (.query rfl trivial) fun _ => .pure _

end Orders

namespace Payments

theorem latest_proper (payment : Payment) : Call.Proper .paying (latest payment) := by
  refine .bind (.attempt rfl trivial) fun r => ?_
  split <;> exact .pure _

theorem markFailed_proper (payment : Payment) (reason : String) :
    Call.Proper .paying (markFailed payment reason) := by
  refine .bind (.attempt rfl trivial) fun r => ?_
  split
  · exact .pure _
  · exact latest_proper payment
  · exact .pure _

theorem noteKey_proper (payment : Payment) (key : String) :
    Call.Proper .paying (noteKey payment key) := by
  refine .bind (.attempt rfl trivial) fun r => ?_
  split
  · exact .pure _
  · exact latest_proper payment
  · exact .pure _

theorem initiate_proper (payment : Payment) (details : PaymentDetails) :
    Call.Proper .paying (initiate payment details) := by
  refine .bind (.requestPayment _ _) fun r => ?_
  split
  · exact markFailed_proper payment _
  · split
    · exact markFailed_proper payment _
    · exact noteKey_proper payment _

theorem placeOrder_proper (order : NewOrder) : Call.Proper .paying (placeOrder order) := by
  refine .bind (Orders.create_proper order) fun placed => ?_
  split
  · exact .bind (initiate_proper _ _) fun _ => .pure _
  · exact .pure _

theorem payOrder_proper (userId : Id) (request : PayOrderRequest) :
    Call.Proper .paying (payOrder userId request) :=
  .bind (.ofExcept _) fun _ => .bind (Orders.fetchForUser_proper _ _) fun _ =>
    .guard _ <| .guard _ <| .bind (.query rfl trivial) fun _ => initiate_proper _ _

theorem complete_proper (payment : Payment) : Call.Proper .paying (complete payment) := by
  refine .bind (.fetchTransaction _ _) fun _ =>
    .guard _ <| .bind (.query rfl trivial) fun found => ?_
  split
  · exact .bind (.publish rfl) fun _ => .pure _
  · exact .pure _

theorem fail_proper (payment : Payment) (reason : String) :
    Call.Proper .paying (fail payment reason) := by
  refine .bind (.query rfl trivial) fun found => ?_
  split
  · exact .bind (.publish rfl) fun _ => .pure _
  · exact .pure _

theorem handleCallback_proper (callback : PaymentCallback) :
    Call.Proper .paying (handleCallback callback) := by
  refine .bind (.query rfl trivial) fun _ => .bind (.orFail _ _) fun payment => ?_
  split
  · exact .pure _
  · refine .guard _ ?_
    split
    · exact .pure _
    · exact complete_proper payment
    · exact fail_proper payment _

theorem expireAll_proper (payments : List Payment) : Call.Proper .paying (expireAll payments) := by
  induction payments with
  | nil => exact .pure _
  | cons payment payments ih =>
    refine .bind (.query rfl trivial) fun found => ?_
    split
    · exact .bind (.publish rfl) fun _ => .bind ih fun _ => .pure _
    · exact ih

theorem expireStale_proper (cutoff : Moment) : Call.Proper .paying (expireStale cutoff) :=
  .bind (.query rfl trivial) fun payments => expireAll_proper payments

end Payments

namespace Settlement

theorem persist_proper {call : Call Order} (h : Call.Proper .moving call) (left : Nat) :
    Flow.Proper .moving (persist call left) := by
  induction left with
  | zero => trivial
  | succ left ih =>
    refine Flow.Proper.bind h.flow fun r => ?_
    cases r with
    | ok order => trivial
    | error f =>
      simp only
      split
      · exact ih
      · trivial

theorem handle_proper (event : Event) : Flow.Proper .moving (handle event) := by
  cases event with
  | paymentCompleted payment => exact persist_proper (Orders.confirm_proper _) _
  | paymentFailed payment reason => exact persist_proper (Orders.cancel_proper _) _
  | orderConfirmed order => trivial
  | orderCancelled order => trivial

end Settlement

/-- Whatever is asked of the shop, only proper queries come of it, and only its own business. -/
theorem Operation.flow_proper (op : Operation) : op.flow.Proper op.business := by
  cases op
  case createUser name => exact (Accounts.createUser_proper name).flow
  case user id => exact (Accounts.user_proper id).flow
  case balance userId => exact (Accounts.balance_proper userId).flow
  case charge userId amount => exact (Accounts.charge_proper userId amount).flow
  case history userId => exact ⟨⟨rfl, trivial⟩, fun _ => trivial⟩
  case points userId => exact (Accounts.points_proper userId).flow
  case createProduct p fits => exact ⟨⟨rfl, fits⟩, fun _ => trivial⟩
  case product id => exact ⟨⟨rfl, trivial⟩, fun _ => trivial⟩
  case issueCoupon c => exact ⟨⟨rfl, trivial⟩, fun _ => trivial⟩
  case coupon id => exact ⟨⟨rfl, trivial⟩, fun _ => trivial⟩
  case createOrder order => exact (Orders.create_proper order).flow
  case order id => exact (Orders.fetch_proper id).flow
  case orderForUser userId id => exact (Orders.fetchForUser_proper userId id).flow
  case ordersOfUser userId => exact ⟨⟨rfl, trivial⟩, fun _ => trivial⟩
  case orderDetails userId id => exact (Orders.detailsForUser_proper userId id).flow
  case confirmOrder id => exact (Orders.confirm_proper id).flow
  case confirmForUser userId id => exact (Orders.confirmForUser_proper userId id).flow
  case cancelOrder id => exact (Orders.cancel_proper id).flow
  case cancelForUser userId id => exact (Orders.cancelForUser_proper userId id).flow
  case archiveOrder id => exact ⟨⟨rfl, trivial⟩, fun _ => trivial⟩
  case placeOrder order => exact (Payments.placeOrder_proper order).flow
  case payOrder userId request => exact (Payments.payOrder_proper userId request).flow
  case handleCallback callback => exact (Payments.handleCallback_proper callback).flow
  case expireStale cutoff => exact (Payments.expireStale_proper cutoff).flow
  case settle event => exact Settlement.handle_proper event

end Checkout.Service
