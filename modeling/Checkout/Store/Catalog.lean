-- Products with their stock, and coupons. Stock is reserved and given back
-- by conditional updates; a coupon changes its status only if nobody changed
-- it since it was read.
import Checkout.Store.Work

namespace Checkout.Store

namespace Products

def insert (p : NewProduct) : Work Product := do
  if !p.isValid then Work.fail (.invalid .negativePriceOrStock)
  Work.insertAndGet fun id => do
    return ({ id, name := p.name, price := p.price, stock := p.stock, deleted := false } : Product)

/-- A product that is not deleted. -/
def fetchActive (id : Id) : Work (Option Product) := Work.fetch id (!·.deleted)

/-- A product with another stock, which is not negative and fits its 64 bits. -/
def withStock (p : Product) (stock : Int) : Work Product := do
  Work.constrain Product (0 ≤ stock && decide (Fits stock))
  return { p with stock }

/-- Takes a quantity of a product out of its stock. -/
def reserve (id : Id) (quantity : Int) : Work Product := do
  let updated ← Work.update id (fun p : Product => !p.deleted && quantity ≤ p.stock)
    fun p => withStock p (p.stock - quantity)
  match updated with
  | some p => return p
  | none =>
    match ← fetchActive id with
    | some p => Work.fail (.insufficientStock id quantity p.stock)
    | none => Work.fail (.notFound (.product id))

/-- Puts a quantity back into the stock of a product, deleted or not. -/
def restore (id : Id) (quantity : Int) : Work Product := do
  let updated ← Work.update id (fun _ : Product => true) fun p => withStock p (p.stock + quantity)
  Work.orFail (.notFound (.product id)) updated

/-- Deletes a product. Says how many were deleted. -/
def delete (id : Id) : Work Nat := do
  let changed ← Work.change id (fun p : Product => !p.deleted)
    fun p => return { p with deleted := true }
  return changed.toList.length

end Products

namespace Coupons

def insert (c : NewCoupon) : Work Coupon := do
  if !c.isValid then Work.fail (.invalid (.couponDiscount c.kind c.discount))
  Work.insertAndGet fun id => do
    return ({ id, ownerId := c.ownerId, kind := c.kind, discount := c.discount,
              status := .unused, version := 0 } : Coupon)

def fetch (id : Id) : Work (Option Coupon) := Work.fetch id fun _ => true

/-- A coupon of an owner. One of somebody else counts as missing. -/
def fetchOwned (id ownerId : Id) : Work Coupon := do
  Work.orFail (.notFound (.coupon id)) ((← fetch id).filter (·.ownerId == ownerId))

/-- Gives a coupon another status, unless it was changed since it was read. -/
def swap (read : Coupon) (status : CouponStatus) : Work Coupon := do
  let updated ← Work.update read.id (fun c : Coupon => c.version == read.version)
    fun c => return { c with status, version := c.version + 1 }
  Work.orFail (.versionConflict read.id) updated

/-- Uses up a coupon of its owner. -/
def consume (id ownerId : Id) : Work Coupon := do
  let coupon ← fetchOwned id ownerId
  if coupon.isUsed then Work.fail (.alreadyUsed id)
  swap coupon .used

/-- Makes a used coupon good again. One that is not in use stays as it is. -/
def restore (id : Id) : Work Coupon := do
  let coupon ← Work.orFail (.notFound (.coupon id)) (← fetch id)
  if coupon.isUsed then swap coupon .unused else return coupon

/-- Gives a coupon to a user. -/
def issue (c : NewCoupon) : Work Coupon := do
  let owner : Option User ← Work.fetch c.ownerId fun _ => true
  let _ ← Work.orFail (.notFound (.user c.ownerId)) owner
  insert c

end Coupons

end Checkout.Store
