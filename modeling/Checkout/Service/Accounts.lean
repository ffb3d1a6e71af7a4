-- The calls on users and their points.
import Checkout.Service.Flow

namespace Checkout.Service.Accounts

/-- Creates a user. Blanks around the name do not count. -/
def createUser (name : String) : Call User := do
  let name := Text.trim name
  if name.isEmpty then Call.fail (.invalid .noUserName)
  Call.query (.createUser name)

def user (id : Id) : Call User := do
  Call.orFail (.notFound (.user id)) (← Call.query (.user id))

def balance (userId : Id) : Call Balance := do
  Call.orFail (.notFound (.user userId)) (← Call.query (.balance userId))

/-- Tops a balance up by a positive amount. -/
def charge (userId : Id) (amount : Money) : Call Balance := do
  if !amount.isPositive then Call.fail (.invalid (.chargeMustBePositive amount))
  Call.query (.charge userId amount)

def history (userId : Id) : Call (List LedgerEntry) := Call.query (.history userId)

/-- The balance of a user and then its history, in two queries. -/
def points (userId : Id) : Call PointsSummary := do
  let balance ← balance userId
  let history ← history userId
  return { balance, history }

end Checkout.Service.Accounts
