-- What a unit of work can do to the tables. Each change is a function on the
-- tables as a whole, and touches the rows that it names and no others.
import Checkout.Proofs.Money
import Checkout.Proofs.Store.Rows
import Checkout.Proofs.Tally

namespace Checkout

/-- How much of a product the lines of a new order ask for. -/
def askedOf (lines : List NewOrderLine) (product : Id) : Int :=
  tally (·.productId == product) (·.quantity) lines

/-- How much of a product the lines of an order hold. -/
def heldOf (lines : List OrderLine) (product : Id) : Int :=
  tally (·.productId == product) (·.quantity) lines

/-- A coupon as it stands after a change of its status. -/
def Coupon.switched (c : Coupon) (status : CouponStatus) : Coupon :=
  { c with status, version := c.version + 1 }

namespace Store.Tables

/-! ## Changes -/

/-- A user of a name as it is stored. -/
def newUser (t : Tables) (name : String) : User := { id := t.nextId User, name }

/-- The tables after a user has been added, with an empty balance. -/
def join (t : Tables) (name : String) : Tables :=
  { t with
    users := t.users ++ [t.newUser name]
    balances := t.balances ++ [{ userId := t.nextId User, amount := .zero }] }

/-- A product as it is stored. -/
def newProduct (t : Tables) (p : NewProduct) : Product :=
  { id := t.nextId Product, name := p.name, price := p.price, stock := p.stock, deleted := false }

/-- A coupon as it is stored. -/
def newCoupon (t : Tables) (c : NewCoupon) : Coupon :=
  { id := t.nextId Coupon, ownerId := c.ownerId, kind := c.kind, discount := c.discount,
    status := .unused, version := 0 }

/-- A payment as it is stored. -/
def newPayment (t : Tables) (p : NewPayment) (now : Moment) : Payment :=
  { id := t.nextId Payment, orderId := p.orderId, userId := p.userId, amount := p.amount
    cardType := p.cardType, cardNo := p.cardNo, callbackUrl := p.callbackUrl, status := .pending
    transactionKey := none, failureReason := none, completedAt := none, createdAt := now }

/-- The tables after the stock of each product has moved by so much. -/
def moveStock (t : Tables) (change : Id → Int) : Tables :=
  { t with products := t.products.map fun p => { p with stock := p.stock + change p.id } }

/-- The tables after coupons have changed their status. -/
def switchCoupons (t : Tables) (ids : List Id) (status : CouponStatus) : Tables :=
  { t with coupons := t.coupons.map fun c => if c.id ∈ ids then c.switched status else c }

/-- The tables after a product has been taken off sale. -/
def withdraw (t : Tables) (id : Id) : Tables :=
  { t with products := t.products.map fun p => if p.id = id then { p with deleted := true } else p }

/-- The points that a user can spend. -/
def pointsOf (t : Tables) (userId : Id) : Money :=
  ((t.find? userId : Option Balance).map (·.amount)).getD .zero

/-- The tables after the balance of a user has changed by an amount, with the entry for it. -/
def book (t : Tables) (userId : Id) (kind : LedgerKind) (change : Money) (orderId : Option Id) :
    Tables :=
  { t with
    balances := t.balances.map fun b =>
      if b.userId = userId then { b with amount := b.amount.plus change } else b
    history := t.history ++
      [{ id := t.nextId LedgerEntry, userId, kind, amount := change,
         balanceAfter := (t.pointsOf userId).plus change, orderId }] }

/-- The tables after an order has another status. -/
def setStatus (t : Tables) (id : Id) (status : OrderStatus) : Tables :=
  { t with orders := t.orders.map fun o => if o.id = id then { o with status } else o }

/-- The tables after an order has been put out of sight. -/
def archive (t : Tables) (id : Id) : Tables :=
  { t with orders := t.orders.map fun o => if o.id = id then { o with archived := true } else o }

/-- The lines of an order, as they stand in their table. -/
def linesOf (t : Tables) (orderId : Id) : List OrderLine :=
  t.lines.filter (·.orderId == orderId)

/-- The tables after all that an order took has been given back. -/
def cancel (t : Tables) (order : Order) : Tables :=
  let lines := t.linesOf order.id
  let returned := (t.moveStock (heldOf lines)).switchCoupons (lines.filterMap (·.couponId)) .unused
  let paid := returned.book order.userId .refund order.finalTotal (some order.id)
  paid.setStatus order.id .cancelled

/-- The tables after a payment has been settled. -/
def settle (t : Tables) (id : Id) (status : PaymentStatus) (reason : Option String)
    (completedAt : Option Moment) : Tables :=
  { t with
    payments := t.payments.map fun p =>
      if p.id = id then { p with status, failureReason := reason, completedAt } else p }

/-- The tables after a payment has been given the key of its transaction. -/
def giveKey (t : Tables) (id : Id) (key : String) : Tables :=
  { t with
    payments := t.payments.map fun p =>
      if p.id = id then { p with transactionKey := some key } else p }

/-! ## Several changes after one another -/

theorem moveStock_moveStock (t : Tables) (first second : Id → Int) :
    (t.moveStock first).moveStock second = t.moveStock fun id => first id + second id := by
  simp only [moveStock, List.map_map, Function.comp_def, Int.add_assoc]

theorem moveStock_zero (t : Tables) : (t.moveStock fun _ => 0) = t := by
  simp [moveStock]

theorem switchCoupons_nil (t : Tables) (status : CouponStatus) :
    t.switchCoupons [] status = t := by
  simp [switchCoupons]

end Store.Tables

end Checkout
