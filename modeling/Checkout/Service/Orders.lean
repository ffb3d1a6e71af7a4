-- The calls on orders. A change of an order is published once it is stored.
import Checkout.Order.Validation
import Checkout.Service.Flow

namespace Checkout.Service.Orders

/-- Checks an order and places it. Nothing is said to the payment processor yet. -/
def create (order : NewOrder) : Call PlacedOrder := do
  Call.ofExcept order.validate
  Call.query (.placeOrder order)

def fetch (id : Id) : Call Order := do
  Call.orFail (.notFound (.order id)) (← Call.query (.order id))

/-- An order of a user. One of somebody else counts as missing. -/
def fetchForUser (userId id : Id) : Call Order := do
  Call.orFail (.notFound (.order id)) ((← Call.query (.order id)).filter (·.userId == userId))

def ofUser (userId : Id) : Call (List Order) := Call.query (.ordersOfUser userId)

def confirm (id : Id) : Call Order := do
  let order ← Call.query (.confirmOrder id)
  Call.publish (.orderConfirmed order)
  return order

def cancel (id : Id) : Call Order := do
  let order ← Call.query (.cancelOrder id)
  Call.publish (.orderCancelled order)
  return order

def confirmForUser (userId id : Id) : Call Order := do
  let _ ← fetchForUser userId id
  confirm id

def cancelForUser (userId id : Id) : Call Order := do
  let _ ← fetchForUser userId id
  cancel id

/-- Hides an order that is confirmed or cancelled from every reader. -/
def archive (id : Id) : Call Order := Call.query (.archiveOrder id)

/-- An order of a user with its lines and payments. -/
def detailsForUser (userId id : Id) : Call OrderDetails := do
  let order ← fetchForUser userId id
  let lines ← Call.query (.orderLines id)
  let payments ← Call.query (.paymentsOfOrder id)
  return { order, lines, payments }

end Checkout.Service.Orders
