-- A payment processor that follows a script. It plays a cue for each call,
-- and does the usual thing when the script runs out: it takes every request,
-- and knows the transactions that it began.
import Checkout.Rehearsal.Cue
import Checkout.Text.Digits

namespace Checkout.Rehearsal

open Gateway (PaymentRequest Receipt Transaction Attempt)

/-- The processor: what it was asked, what it will do, and what it keeps. -/
structure Script where
  /-- How many requests there were. -/
  requests : Nat
  lastRequest : Option PaymentRequest
  /-- The keys that it was asked about, in order. -/
  lookUps : List String
  requestCues : List (Cue Receipt)
  lookUpCues : List (Cue Transaction)
  refusesRequests : Bool
  refusesLookUps : Bool
  transactions : List Transaction
deriving DecidableEq, Repr

namespace Script

def blank : Script :=
  { requests := 0
    lastRequest := none
    lookUps := []
    requestCues := []
    lookUpCues := []
    refusesRequests := false
    refusesLookUps := false
    transactions := [] }

def outage : Gateway.Fault := .transport "simulated outage"

/-- The transaction of a key. -/
def transaction? (s : Script) (key : String) : Option Transaction :=
  s.transactions.find? (·.transactionKey == key)

/-- Keeps a transaction, in place of one with the same key. -/
def keep (s : Script) (t : Transaction) : Script :=
  { s with
    transactions := s.transactions.filter (·.transactionKey != t.transactionKey) ++ [t] }

/-- Changes the transaction of a key, if there is one. -/
def amend (s : Script) (key : String) (status : TransactionStatus) (amount : Option Money)
    (orderId : Option Id) : Bool × Script :=
  match s.transaction? key with
  | none => (false, s)
  | some t =>
    let amount := amount.getD t.amount
    let orderId := orderId.getD t.orderId
    (true, s.keep { t with status, amount, orderId })

/-- The script with more cues at its end. -/
def extend (s : Script) (requests : List (Cue Receipt)) (lookUps : List (Cue Transaction)) :
    Script :=
  { s with requestCues := s.requestCues ++ requests, lookUpCues := s.lookUpCues ++ lookUps }

/-- The transaction that an accepted request begins. -/
def begun (request : PaymentRequest) (receipt : Receipt) : Transaction :=
  { transactionKey := receipt.transactionKey
    orderId := request.orderId
    cardType := request.cardType
    cardNo := request.cardNo
    amount := request.amount
    status := receipt.status
    reason := receipt.reason }

/-- The receipt that the processor writes by itself. -/
def usualReceipt (s : Script) (request : PaymentRequest) : Receipt :=
  { transactionKey := "TX-" ++ Text.intText request.orderId ++ "-" ++ Text.natText s.requests
    status := .pending
    reason := none }

/-- An attempt that is refused at once. -/
def refusal {α : Type} (s : Script) : Attempt Script α := ⟨some .zero, .error outage, s, s⟩

/-- One attempt at a request. -/
def requestPayment (_user : Id) (request : PaymentRequest) (s : Script) : Attempt Script Receipt :=
  let s := { s with requests := s.requests + 1, lastRequest := some request }
  if s.refusesRequests then s.refusal
  else
    let cue := s.requestCues.head?.getD .usual
    let s := { s with requestCues := s.requestCues.drop 1 }
    match cue.outcome with
    | .usual =>
      let receipt := s.usualReceipt request
      ⟨cue.delay, .ok receipt, s.keep (begun request receipt), s⟩
    | .stated receipt => ⟨cue.delay, .ok receipt, s.keep (begun request receipt), s⟩
    | .failing fault => ⟨cue.delay, .error fault, s, s⟩

/-- What the processor knows about a key. -/
def known (s : Script) (key : String) : Except Gateway.Fault Transaction :=
  match s.transaction? key with
  | some t => .ok t
  | none => .error (.rejected (key ++ " not found"))

/-- One attempt at a look-up. -/
def fetchTransaction (_user : Id) (key : String) (s : Script) : Attempt Script Transaction :=
  let s := { s with lookUps := s.lookUps ++ [key] }
  if s.refusesLookUps then s.refusal
  else
    let cue := s.lookUpCues.head?.getD .usual
    let s := { s with lookUpCues := s.lookUpCues.drop 1 }
    match cue.outcome with
    | .usual => ⟨cue.delay, s.known key, s, s⟩
    | .stated t => ⟨cue.delay, .ok t, s, s⟩
    | .failing fault => ⟨cue.delay, .error fault, s, s⟩

def processor : Gateway.Processor Script := ⟨requestPayment, fetchTransaction⟩

end Script

end Checkout.Rehearsal
