-- What holds of the tables at any time. Rows are numbered from one, what
-- they name is there, and stock, coupons and balances are accounted for by
-- the lines of the orders that are not cancelled.
import Checkout.Proofs.Store.Effects

namespace Checkout.Store.Tables

/-! ## Accounts of the tables -/

/-- The order takes part in what is sold: it is there and not cancelled, seen or archived. -/
def isLive (t : Tables) (orderId : Id) : Bool :=
  t.orders.any fun o => o.id == orderId && o.status != .cancelled

/-- The sum of a figure over those lines of live orders that meet a condition. -/
def liveTally (t : Tables) (meets : OrderLine → Bool) (figure : OrderLine → Int) : Int :=
  tally (fun l => meets l && t.isLive l.orderId) figure t.lines

/-- How much of a product the lines of live orders hold. -/
def committed (t : Tables) (product : Id) : Int :=
  t.liveTally (·.productId == product) (·.quantity)

/-- How many lines of live orders name a coupon. -/
def liveUses (t : Tables) (coupon : Id) : Int :=
  t.liveTally (·.couponId == some coupon) fun _ => 1

/-- The history of a user's balance, oldest entry first. -/
def entriesOf (t : Tables) (userId : Id) : List LedgerEntry :=
  t.history.filter (·.userId == userId)

/-- The entries of a kind that an order has in the history, each as its user and its cents. -/
def entriesFor (t : Tables) (kind : LedgerKind) (orderId : Id) : List (Id × Int) :=
  (t.history.filter fun e => e.kind == kind && e.orderId == some orderId).map fun e =>
    (e.userId, e.amount.cents)

/-- All that a user was ever charged, in cents. -/
def chargesOf (t : Tables) (userId : Id) : Int :=
  tally (fun e => e.userId == userId && e.kind == .charge) (·.amount.cents) t.history

/-- What the live orders of a user cost, in cents. -/
def spentBy (t : Tables) (userId : Id) : Int :=
  tally (fun o => o.userId == userId && o.status != .cancelled) (·.finalTotal.cents) t.orders

/-! ## The invariants -/

/-- The rows of each table are numbered from one, and every user has one balance. -/
structure Numbered (t : Tables) : Prop where
  users : Counted (t.keys User)
  balances : t.keys Balance = t.keys User
  history : Counted (t.keys LedgerEntry)
  products : Counted (t.keys Product)
  coupons : Counted (t.keys Coupon)
  orders : Counted (t.keys Order)
  lines : Counted (t.keys OrderLine)
  payments : Counted (t.keys Payment)

theorem Numbered.balances_nodup {t : Tables} (h : t.Numbered) : (t.keys Balance).Nodup := by
  rw [h.balances]
  exact h.users.nodup

theorem Numbered.exists_balance {t : Tables} (h : t.Numbered) {userId : Id}
    (hu : userId ∈ t.keys User) : ∃ b : Balance, t.find? userId = some b :=
  exists_of_mem_keys (h.balances ▸ hu)

/-- What a row names is there, and what rows count and cost is in range. -/
structure Linked (t : Tables) : Prop where
  order_user : ∀ o ∈ t.orders, o.userId ∈ t.keys User
  order_total : ∀ o ∈ t.orders, 0 ≤ o.finalTotal.cents
  line_order : ∀ l ∈ t.lines, l.orderId ∈ t.keys Order
  line_product : ∀ l ∈ t.lines, l.productId ∈ t.keys Product
  line_coupon : ∀ l ∈ t.lines, ∀ id ∈ l.couponId, id ∈ t.keys Coupon
  line_quantity : ∀ l ∈ t.lines, 1 ≤ l.quantity ∧ l.quantity ≤ largestQuantity
  entry_user : ∀ e ∈ t.history, e.userId ∈ t.keys User
  entry_order : ∀ e ∈ t.history, ∀ id ∈ e.orderId, id ∈ t.keys Order

/-- No price and no stock is negative, and what orders hold could all be put back. -/
structure Stocked (t : Tables) : Prop where
  price_nonneg : ∀ p ∈ t.products, 0 ≤ p.price.cents
  stock_nonneg : ∀ p ∈ t.products, 0 ≤ p.stock
  stock_fits : ∀ p ∈ t.products, p.stock + t.committed p.id ≤ 9223372036854775807

theorem Linked.committed_nonneg {t : Tables} (h : t.Linked) (product : Id) :
    0 ≤ t.committed product :=
  tally_nonneg _ fun l hl => by
    have := (h.line_quantity l hl).1
    omega

/-- A coupon is in use exactly if one line of a live order names it, and then no other does. -/
def CouponsHeld (t : Tables) : Prop :=
  ∀ c ∈ t.coupons, t.liveUses c.id = if c.isUsed then 1 else 0

/-- Each entry of a history adds its amount to the balance before it. -/
def Chained (before : Int) : List LedgerEntry → Prop
  | [] => True
  | e :: es => e.balanceAfter.cents = before + e.amount.cents ∧ Chained e.balanceAfter.cents es

/-- The balance after the last entry of a history, or the one before the first entry. -/
def lastBalance (before : Int) (es : List LedgerEntry) : Int :=
  (es.getLast?.map (·.balanceAfter.cents)).getD before

/-- No balance is negative, and each is what its history comes to. -/
structure Ledgered (t : Tables) : Prop where
  nonneg : ∀ b ∈ t.balances, 0 ≤ b.amount.cents
  chained : ∀ u ∈ t.users, Chained 0 (t.entriesOf u.id)
  last : ∀ b ∈ t.balances, lastBalance 0 (t.entriesOf b.userId) = b.amount.cents

/-- Every order has been paid for, and given back if it is cancelled, by one entry each, and
nothing else has been spent. -/
structure Accounted (t : Tables) : Prop where
  debit : ∀ o ∈ t.orders, t.entriesFor .debit o.id = [(o.userId, -o.finalTotal.cents)]
  refund : ∀ o ∈ t.orders, t.entriesFor .refund o.id =
    if o.status = .cancelled then [(o.userId, o.finalTotal.cents)] else []
  sum : ∀ b ∈ t.balances, b.amount.cents = t.chargesOf b.userId - t.spentBy b.userId

/-- All that the units of work keep up. -/
structure Kept (t : Tables) : Prop where
  numbered : t.Numbered
  linked : t.Linked
  stocked : t.Stocked
  coupons : t.CouponsHeld
  ledgered : t.Ledgered
  accounted : t.Accounted

end Checkout.Store.Tables
