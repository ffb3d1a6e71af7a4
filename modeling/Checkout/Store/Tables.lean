-- The tables of the shop. Rows stand in the order of their ids, which count
-- up from one: no row is ever taken out.
import Checkout.Payment
import Checkout.Product
import Checkout.Coupon

namespace Checkout.Store

inductive TableName where
  | users
  | balances
  | history
  | products
  | coupons
  | orders
  | lines
  | payments
deriving DecidableEq, Repr

instance : Enumeration TableName where
  kind := "table"
  all := [.users, .balances, .history, .products, .coupons, .orders, .lines, .payments]
  word
    | .users => "users"
    | .balances => "balances"
    | .history => "balance_history"
    | .products => "products"
    | .coupons => "coupons"
    | .orders => "orders"
    | .lines => "order_lines"
    | .payments => "payments"

/-- All that the shop stores. -/
structure Tables where
  users : List User
  balances : List Balance
  history : List LedgerEntry
  products : List Product
  coupons : List Coupon
  orders : List Order
  lines : List OrderLine
  payments : List Payment
deriving DecidableEq, Repr

def Tables.empty : Tables := ⟨[], [], [], [], [], [], [], []⟩

/-- A kind of row, with its table and the number that names it there. -/
class Row (α : Type) where
  table : TableName
  rows : Tables → List α
  /-- The same tables with other rows of this kind. -/
  withRows : List α → Tables → Tables
  key : α → Id

instance : Row User where
  table := .users
  rows := Tables.users
  withRows rs t := { t with users := rs }
  key := User.id

instance : Row Balance where
  table := .balances
  rows := Tables.balances
  withRows rs t := { t with balances := rs }
  key := Balance.userId

instance : Row LedgerEntry where
  table := .history
  rows := Tables.history
  withRows rs t := { t with history := rs }
  key := LedgerEntry.id

instance : Row Product where
  table := .products
  rows := Tables.products
  withRows rs t := { t with products := rs }
  key := Product.id

instance : Row Coupon where
  table := .coupons
  rows := Tables.coupons
  withRows rs t := { t with coupons := rs }
  key := Coupon.id

instance : Row Order where
  table := .orders
  rows := Tables.orders
  withRows rs t := { t with orders := rs }
  key := Order.id

instance : Row OrderLine where
  table := .lines
  rows := Tables.lines
  withRows rs t := { t with lines := rs }
  key := OrderLine.id

instance : Row Payment where
  table := .payments
  rows := Tables.payments
  withRows rs t := { t with payments := rs }
  key := Payment.id

namespace Tables

variable {α : Type} [Row α]

/-- The row of a key. -/
def find? (t : Tables) (id : Id) : Option α := (Row.rows t : List α).find? (Row.key · == id)

/-- There is a row of a key. -/
def has (α : Type) [Row α] (t : Tables) (id : Id) : Bool := (t.find? id : Option α).isSome

/-- The next free id. -/
def nextId (α : Type) [Row α] (t : Tables) : Id := (Row.rows t : List α).length + 1

/-- The tables with a row at the end. -/
def append (t : Tables) (row : α) : Tables := Row.withRows (Row.rows t ++ [row]) t

/-- The tables with the row of a key replaced. -/
def replace (t : Tables) (id : Id) (row : α) : Tables :=
  Row.withRows ((Row.rows t).map fun r => if Row.key r == id then row else r) t

/-- There is a row of a key in the table of a name. -/
def hasIn (t : Tables) (id : Id) : TableName → Bool
  | .users => t.has User id
  | .balances => t.has Balance id
  | .history => t.has LedgerEntry id
  | .products => t.has Product id
  | .coupons => t.has Coupon id
  | .orders => t.has Order id
  | .lines => t.has OrderLine id
  | .payments => t.has Payment id

end Tables

end Checkout.Store
