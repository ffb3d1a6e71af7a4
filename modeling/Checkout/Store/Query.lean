-- What can be asked of the store. Each query is one unit of work; nothing
-- else ever touches the tables.
import Checkout.Store.Placement

namespace Checkout.Store

/-- A query that gives a value of a type. -/
inductive Query : Type → Type where
  | createUser (name : String) : Query User
  | user (id : Id) : Query (Option User)
  | balance (userId : Id) : Query (Option Balance)
  | charge (userId : Id) (amount : Money) : Query Balance
  | history (userId : Id) : Query (List LedgerEntry)
  | createProduct (p : NewProduct) : Query Product
  | product (id : Id) : Query (Option Product)
  | issueCoupon (c : NewCoupon) : Query Coupon
  | coupon (id : Id) : Query (Option Coupon)
  | placeOrder (order : NewOrder) : Query PlacedOrder
  | order (id : Id) : Query (Option Order)
  | orderLines (id : Id) : Query (List OrderLine)
  | ordersOfUser (userId : Id) : Query (List Order)
  | confirmOrder (id : Id) : Query Order
  | cancelOrder (id : Id) : Query Order
  | archiveOrder (id : Id) : Query Order
  | openPayment (p : NewPayment) : Query Payment
  | payment (id : Id) : Query (Option Payment)
  | paymentWithKey (key : String) : Query (Option Payment)
  | paymentsOfOrder (orderId : Id) : Query (List Payment)
  | assignKey (id : Id) (key : String) : Query (Option Payment)
  | completePayment (id : Id) : Query (Option Payment)
  | failPayment (id : Id) (reason : String) : Query (Option Payment)
  | stalePayments (cutoff : Moment) : Query (List Payment)

/-- The unit of work that answers a query. -/
def Query.work {α : Type} : Query α → Work α
  | .createUser name => Users.insert name
  | .user id => Users.fetch id
  | .balance userId => Balances.fetch userId
  | .charge userId amount => Balances.charge userId amount
  | .history userId => Balances.history userId
  | .createProduct p => Products.insert p
  | .product id => Products.fetchActive id
  | .issueCoupon c => Coupons.issue c
  | .coupon id => Coupons.fetch id
  | .placeOrder o => Orders.place o
  | .order id => Orders.fetch id
  | .orderLines id => Orders.fetchLines id
  | .ordersOfUser userId => Orders.ofUser userId
  | .confirmOrder id => Orders.confirm id
  | .cancelOrder id => Orders.cancel id
  | .archiveOrder id => Orders.archive id
  | .openPayment p => Payments.openFor p
  | .payment id => Payments.fetch id
  | .paymentWithKey key => Payments.withKey key
  | .paymentsOfOrder orderId => Payments.ofOrder orderId
  | .assignKey id key => Payments.assignKey id key
  | .completePayment id => Payments.complete id
  | .failPayment id reason => Payments.fail id reason
  | .stalePayments cutoff => Payments.stale cutoff

/-- Answers a query. A failed one leaves the tables as they are. -/
def Query.answer {α : Type} (q : Query α) (c : Conditions) (t : Tables) :
    Except Fault α × Tables :=
  match q.work c t with
  | .ok (a, t) => (.ok a, t)
  | .error f => (.error f, t)

end Checkout.Store
