-- Where the keys of payments come from. A call gives a payment a key only after
-- it has asked the processor for that payment, and was given a receipt with
-- this key that does not speak of a failure. If the processor is reached over a
-- network, some reply has brought that receipt.
import Checkout.Proofs.Gateway.Replies
import Checkout.Proofs.Shop.Grounds
import Checkout.Proofs.Shop.Payments

namespace Checkout

open Store Service

/-! ## A receipt before each key -/

/-- The processor was asked for the payment, and took it under this key. -/
structure TakenUnder (acts : List Act) (p : Payment) (key : String) : Prop where
  receipt : ∃ details receipt,
    .requested p.userId (Payments.requestFor p details) (.ok receipt) ∈ acts ∧
      receipt.transactionKey = key ∧ receipt.status ≠ .failed

namespace Service.Payments

variable {past : List Act} {payment : Payment}

/-! ### Asking for a payment -/

end Service.Payments

/-- A request that was made for a payment is one for what became of it, too. -/
theorem TakenUnder.onward {acts : List Act} {p q : Payment} {key : String}
    (h : TakenUnder acts p key) (hbecomes : p.Becomes q) : TakenUnder acts q key := by
  obtain ⟨details, receipt, hasked, hkey, hstatus⟩ := h.receipt
  refine ⟨details, receipt, ?_, hkey, hstatus⟩
  unfold Payments.requestFor at hasked ⊢
  rw [hbecomes.userId_eq, hbecomes.orderId_eq, hbecomes.amount_eq]
  exact hasked

variable {σ : Type}

end Checkout
