-- Products and their stock.
import Checkout.Account

namespace Checkout

/-- A product for sale. A deleted one stays in its table, so that stock can go back to it, but
nobody can order it. -/
structure Product where
  id : Id
  name : String
  price : Money
  stock : Int
  deleted : Bool
deriving DecidableEq, Repr

structure NewProduct where
  name : String
  price : Money
  stock : Int
deriving DecidableEq, Repr

/-- Neither the price nor the stock is negative. -/
def NewProduct.isValid (p : NewProduct) : Bool := !p.price.isNegative && 0 ≤ p.stock

end Checkout
