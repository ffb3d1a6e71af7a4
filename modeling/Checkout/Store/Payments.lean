-- Payments. Only a pending payment can be settled, and only one without a
-- key can be given one, so each of these happens once.
import Checkout.Store.Work

namespace Checkout.Store

namespace Payments

def insert (p : NewPayment) : Work Payment := do
  Work.insertAndGet fun id => do
    Work.constrain Payment
      ((← Work.view fun t => t.has Order p.orderId) && (← Work.view fun t => t.has User p.userId))
    return ({ id, orderId := p.orderId, userId := p.userId, amount := p.amount,
              cardType := p.cardType, cardNo := p.cardNo, callbackUrl := p.callbackUrl,
              status := .pending, transactionKey := none, failureReason := none,
              completedAt := none, createdAt := ← Work.now } : Payment)

def fetch (id : Id) : Work (Option Payment) := Work.fetch id fun _ => true

/-- The payment with a transaction key. -/
def withKey (key : String) : Work (Option Payment) := do
  return (← Work.select fun p : Payment => p.transactionKey == some key).head?

/-- The payments of an order, oldest first. -/
def ofOrder (orderId : Id) : Work (List Payment) := Work.select (·.orderId == orderId)

/-- The order has a payment that may still complete, or has. -/
def hasOpen (orderId : Id) : Work Bool :=
  Work.view fun t => t.payments.any fun p => p.orderId == orderId && p.isOpen

/-- Gives a pending payment the key of its transaction. No other payment may have that key. -/
def assignKey (id : Id) (key : String) : Work (Option Payment) :=
  Work.update id (fun p : Payment => p.status == .pending && p.transactionKey.isNone) fun p => do
    if (← Work.view Tables.payments).any (·.transactionKey == some key) then
      Work.fail (.invalid (.keyTaken key))
    return { p with transactionKey := some key }

/-- Settles a pending payment. -/
def settle (id : Id) (status : PaymentStatus) (reason : Option String)
    (completedAt : Option Moment) : Work (Option Payment) :=
  Work.update id (fun p : Payment => p.status == .pending)
    fun p => return { p with status, failureReason := reason, completedAt }

/-- Marks a pending payment as paid at this time. -/
def complete (id : Id) : Work (Option Payment) := do
  settle id .completed none (some (← Work.now))

/-- Marks a pending payment as failed. -/
def fail (id : Id) (reason : String) : Work (Option Payment) := settle id .failed (some reason) none

/-- A payment is pending and older than a point in time. One whose row is damaged has no age. -/
def isStale (cutoff : Moment) (p : Payment) : Bool :=
  p.status == .pending && p.createdAt.isBefore cutoff

/-- The pending payments that are older than a point in time. -/
def stale (cutoff : Moment) : Work (List Payment) := fun c t =>
  .ok (t.payments.filter fun p => isStale cutoff p && !c.medium.isDamaged .payments p.id, t)

/-- Makes a payment older, or younger. Says how many were changed. -/
def backdate (id : Id) (age : Int) : Work Nat := do
  let created := (← Work.now) - age
  let changed ← Work.change id (fun _ : Payment => true)
    fun p => return { p with createdAt := created }
  return changed.toList.length

end Payments

end Checkout.Store
