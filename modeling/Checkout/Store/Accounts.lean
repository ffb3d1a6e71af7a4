-- Users, balances and the history of each balance. A debit never takes more
-- than there is, and a credit never more than 64 bits hold, so a balance
-- cannot leave its range.
import Checkout.Store.Work

namespace Checkout.Store

namespace Users

/-- Adds a user under a name that nobody has, with an empty balance. -/
def insert (name : String) : Work User := do
  let user ← Work.insertAndGet fun id => do
    if (← Work.view Tables.users).any (·.name == name) then
      Work.fail (.invalid (.userNameTaken name))
    return ({ id, name } : User)
  let _ ← Work.insert fun _ => return ({ userId := user.id, amount := .zero } : Balance)
  return user

def fetch (id : Id) : Work (Option User) := Work.fetch id fun _ => true

end Users

namespace Balances

def fetch (userId : Id) : Work (Option Balance) := Work.fetch userId fun _ => true

/-- The balance of a user, who must have one. -/
def fetchFor (userId : Id) : Work Balance := do
  Work.orFail (.notFound (.balanceOf userId)) (← fetch userId)

/-- Adds an entry to the history of a user. -/
def append (userId : Id) (kind : LedgerKind) (amount balanceAfter : Money)
    (orderId : Option Id) : Work Unit := do
  let _ ← Work.insert fun id => do
    return ({ id, userId, kind, amount, balanceAfter, orderId } : LedgerEntry)

/-- A balance with another amount, which may not be negative. -/
def withAmount (b : Balance) (amount : Option Money) : Work Balance := do
  match amount with
  | some amount =>
    Work.constrain Balance (!amount.isNegative)
    return { b with amount }
  | none => Work.fail (.storage (.constraint "balances"))

/-- Takes an amount from a balance that covers it. -/
def debit (userId : Id) (amount : Money) (orderId : Option Id) : Work Balance := do
  if amount.isNegative then Work.fail (.invalid (.negativeDebit amount))
  let updated ← Work.update userId (fun b : Balance => amount ≤ b.amount)
    fun b => withAmount b (b.amount.checkedSub amount)
  match updated with
  | some b =>
    let taken ← Work.ofExcept (Fault.ofOverflow amount.neg)
    append userId .debit taken b.amount orderId
    return b
  | none => Work.fail (.insufficientBalance userId amount (← fetchFor userId).amount)

/-- A balance can take an amount on top. -/
def hasRoomFor (amount : Money) (b : Balance) : Bool :=
  b.amount.cents ≤ 9223372036854775807 - amount.cents

/-- Adds an amount to a balance that has room for it. -/
def credit (userId : Id) (kind : LedgerKind) (amount : Money) (orderId : Option Id) :
    Work Balance := do
  if amount.isNegative then Work.fail (.invalid (.negativeCredit amount))
  let updated ← Work.update userId (hasRoomFor amount)
    fun b => withAmount b (b.amount.checkedAdd amount)
  match updated with
  | some b =>
    append userId kind amount b.amount orderId
    return b
  | none =>
    let _ ← fetchFor userId
    Work.fail (.invalid (.balanceTooLarge kind amount))

/-- Gives back what was taken for an order. -/
def refund (userId : Id) (amount : Money) (orderId : Id) : Work Balance :=
  credit userId .refund amount (some orderId)

/-- Tops a balance up. -/
def charge (userId : Id) (amount : Money) : Work Balance := do
  if !amount.isPositive then Work.fail (.invalid (.chargeNotPositive amount))
  credit userId .charge amount none

/-- All changes of a balance, oldest first. -/
def history (userId : Id) : Work (List LedgerEntry) := Work.select (·.userId == userId)

end Balances

end Checkout.Store
