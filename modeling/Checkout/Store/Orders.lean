-- Orders and their lines. An archived order is passed over by everything
-- but its own lines.
import Checkout.Pricing
import Checkout.Store.Work

namespace Checkout.Store

namespace Orders

def insert (userId : Id) (totals : OrderTotals) : Work Order := do
  Work.insertAndGet fun id => do
    Work.constrain Order (!totals.final.isNegative && (← Work.view fun t => t.has User userId))
    return ({ id, userId, fullTotal := totals.full, discountTotal := totals.discount,
              finalTotal := totals.final, status := .pending, archived := false } : Order)

/-- The quantity of a line is in range, its total is not negative, what it names is there, and
its number is free. -/
def lineKeepsRules (t : Tables) (orderId lineNo : Id) (line : PricedLine) : Bool :=
  (1 ≤ line.quantity && line.quantity ≤ largestQuantity) && !line.lineTotal.isNegative &&
    t.has Order orderId && t.has Product line.productId && line.couponId.all (t.has Coupon ·) &&
    !t.lines.any fun l => l.orderId == orderId && l.lineNo == lineNo

def insertLine (orderId : Id) (lineNo : Int) (line : PricedLine) : Work OrderLine := do
  Work.insertAndGet fun id => do
    Work.constrain OrderLine (← Work.view fun t => lineKeepsRules t orderId lineNo line)
    return ({ id, orderId, lineNo, productId := line.productId, quantity := line.quantity,
              unitPrice := line.unitPrice, couponId := line.couponId, discount := line.discount,
              lineTotal := line.lineTotal } : OrderLine)

def fetch (id : Id) : Work (Option Order) := Work.fetch id (!·.archived)

/-- The order, which must be there. -/
def fetchVisible (id : Id) : Work Order := do
  Work.orFail (.notFound (.order id)) (← fetch id)

/-- The lines of an order by their numbers. -/
def fetchLines (id : Id) : Work (List OrderLine) := do
  let lines ← Work.select fun l : OrderLine => l.orderId == id
  return lines.mergeSort fun a b => a.lineNo ≤ b.lineNo

/-- The orders of a user, newest first. -/
def ofUser (userId : Id) : Work (List Order) := do
  return (← Work.select fun o : Order => o.userId == userId && !o.archived).reverse

/-- Moves an order on, if it has the status that it is to leave. -/
def transition (id : Id) (source target : OrderStatus) : Work (Option Order) :=
  Work.update id (fun o : Order => o.status == source && !o.archived)
    fun o => return { o with status := target }

/-- Puts an order out of sight. -/
def hide (id : Id) : Work (Option Order) :=
  Work.update id (fun o : Order => !o.archived) fun o => return { o with archived := true }

end Orders

end Checkout.Store
