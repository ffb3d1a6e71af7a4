-- What a masked card number still tells: whether the details are complete, and
-- how they look in a log. Details that look the same are the same to all but
-- the processor.
import Checkout.Gateway.Log
import Checkout.Order.Validation
import Checkout.Proofs.Text
import Checkout.Service.Payments

namespace Checkout

/-! ## Masks -/

namespace Card

/-- A star stands for a digit, so a masked number is blank where the number is. -/
theorem all_isBlank_maskedChars (cs : List Char) :
    (maskedChars cs).all Text.isBlank = cs.all Text.isBlank := by
  induction cs with
  | nil => rfl
  | cons c cs ih =>
    rw [maskedChars, List.all_cons, List.all_cons, ih]
    split
    · rename_i hdigit
      simp only [Bool.and_eq_true] at hdigit
      rw [Text.isBlank_of_isDigit hdigit.1]
      rfl
    · rfl

theorem isAllBlank_masked (cardNo : String) :
    Text.isAllBlank (masked cardNo) = Text.isAllBlank cardNo := by
  simp [Text.isAllBlank, masked, all_isBlank_maskedChars]

end Card

/-! ## Details that look the same -/

/-- The details differ at most in the card number, and that looks the same once it is masked. -/
structure PaymentDetails.Resembles (d d' : PaymentDetails) : Prop where
  cardType : d'.cardType = d.cardType
  maskedCardNo : d'.maskedCardNo = d.maskedCardNo
  callbackUrl : d'.callbackUrl = d.callbackUrl

/-- The requests differ at most in the card number, and that looks the same once it is masked. -/
structure Gateway.PaymentRequest.Resembles (r r' : Gateway.PaymentRequest) : Prop where
  rest : { r' with cardNo := r.cardNo } = r
  masked : Card.masked r'.cardNo = Card.masked r.cardNo

namespace PaymentDetails.Resembles

variable {d d' : PaymentDetails}

theorem refl (d : PaymentDetails) : d.Resembles d := ⟨rfl, rfl, rfl⟩

/-- The same details are missing. -/
theorem missing_eq (h : d.Resembles d') : d'.missing = d.missing := by
  have hblank : Text.isAllBlank d'.cardNo = Text.isAllBlank d.cardNo := by
    rw [← Card.isAllBlank_masked d'.cardNo, ← Card.isAllBlank_masked d.cardNo]
    exact congrArg Text.isAllBlank h.maskedCardNo
  simp only [missing, List.filter_cons, List.filter_nil, h.cardType, h.callbackUrl, hblank]
  grind

theorem validate_eq (h : d.Resembles d') : d'.validate = d.validate := by
  rw [validate, validate, h.missing_eq]

theorem logText_eq (h : d.Resembles d') : d'.logText = d.logText := by
  rw [logText, logText, h.cardType, h.maskedCardNo, h.callbackUrl]

/-- The same payment is stored. -/
theorem forOrder_eq (h : d.Resembles d') (o : Order) :
    NewPayment.forOrder o d' = NewPayment.forOrder o d := by
  rw [NewPayment.forOrder, NewPayment.forOrder, h.cardType, h.maskedCardNo, h.callbackUrl]

theorem requestFor (h : d.Resembles d') (p : Payment) :
    (Service.Payments.requestFor p d).Resembles (Service.Payments.requestFor p d') := by
  refine ⟨?_, h.maskedCardNo⟩
  simp only [Service.Payments.requestFor, h.cardType, h.callbackUrl]

end PaymentDetails.Resembles

/-- Requests that look the same look so in a log. -/
theorem Gateway.PaymentRequest.Resembles.logText_eq {r r' : Gateway.PaymentRequest}
    (h : r.Resembles r') : r'.logText = r.logText := by
  rw [← h.rest]
  rfl

end Checkout
