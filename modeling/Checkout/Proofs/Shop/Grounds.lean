-- On what grounds payments are opened, completed and failed. A payment is
-- opened for an order as the store showed it. It is completed only for a
-- report that names its order, and only after the processor, asked in the same
-- call, has said that it was paid.
import Checkout.Proofs.Shop.Absence

namespace Checkout

open Store Service

/-! ## Acts with consequences -/

namespace Act

/-- The payment that was to be opened. -/
def opens? : Act → Option NewPayment
  | .asked (.openPayment new) _ => some new
  | _ => none

/-- The payment that was to be completed. -/
def completes? : Act → Option Id
  | .asked (.completePayment id) _ => some id
  | _ => none

/-- The order that was looked up by its id, as it was found. -/
def seen? : Act → Option Order
  | .asked (.order _) (.ok found) => found
  | _ => none

end Act

/-- The report that the operation takes. -/
def Service.Operation.callback? : Operation → Option PaymentCallback
  | .handleCallback callback => some callback
  | _ => none

theorem Service.Operation.eq_handleCallback {op : Operation} {callback : PaymentCallback}
    (h : op.callback? = some callback) : op = .handleCallback callback := by
  unfold callback? at h
  split at h <;> cases h
  rfl

/-! ## The grounds of a report -/

/-- The payment was found by the key of the report. It was pending, and the report names its
order. -/
structure Found (callback : PaymentCallback) (acts : List Act) (p : Payment) : Prop where
  asked : .asked (.paymentWithKey callback.transactionKey) (.ok (some p)) ∈ acts
  pending : p.status = .pending
  order : callback.orderId = p.orderId

/-- The report is of a success, and so says the processor about the payment that was found. -/
structure Vouched (callback : PaymentCallback) (acts : List Act) (p : Payment) : Prop where
  found : Found callback acts p
  success : callback.status = .success
  word : ∃ transaction, .lookedUp p.userId (p.transactionKey.getD "") (.ok transaction) ∈ acts ∧
    Payments.vouchesFor transaction p = true

/-- What an operation does to payments has its grounds in what it was told before. -/
structure Grounded (op : Operation) (past : List Act) (act : Act) : Prop where
  opens : ∀ new ∈ act.opens?, ∃ order details, (∃ earlier ∈ past, earlier.seen? = some order) ∧
    new = .forOrder order details
  completes : ∀ id ∈ act.completes?, ∃ callback p, op.callback? = some callback ∧ p.id = id ∧
    Vouched callback past p
  reports : ∀ callback ∈ op.callback?, act.isIdle = true ∨
    (∃ p, Found callback past p ∧ callback.status = .failed) ∨ ∃ p, Vouched callback past p

/-- Nothing is said of what came of a call. -/
abbrev Whatever {α : Type} (_acts : List Act) (_answer : α) : Prop := True

variable {callback : PaymentCallback} {acts : List Act} {p : Payment}

theorem Found.mono {acts' : List Act} (h : Found callback acts p) (hsub : acts ⊆ acts') :
    Found callback acts' p :=
  ⟨hsub h.asked, h.pending, h.order⟩

theorem Found.concat (h : Found callback acts p) (act : Act) : Found callback (acts ++ [act]) p :=
  h.mono (List.subset_append_left _ _)

theorem Vouched.mono {acts' : List Act} (h : Vouched callback acts p) (hsub : acts ⊆ acts') :
    Vouched callback acts' p := by
  obtain ⟨transaction, hword, hvouches⟩ := h.word
  exact ⟨h.found.mono hsub, h.success, transaction, hsub hword, hvouches⟩

theorem Vouched.concat (h : Vouched callback acts p) (act : Act) :
    Vouched callback (acts ++ [act]) p :=
  h.mono (List.subset_append_left _ _)

namespace Grounded

variable {op : Operation} {past : List Act} {act : Act}

/-- What opens and completes nothing needs no grounds, unless it is done for a report. -/
theorem of_plain (hop : op.callback? = none) (hopens : act.opens? = none)
    (hcompletes : act.completes? = none) : Grounded op past act where
  opens new h := by simp [hopens] at h
  completes id h := by simp [hcompletes] at h
  reports callback h := by simp [hop] at h

theorem of_idle (hidle : act.isIdle = true) (hopens : act.opens? = none)
    (hcompletes : act.completes? = none) : Grounded op past act where
  opens new h := by simp [hopens] at h
  completes id h := by simp [hcompletes] at h
  reports _ _ := .inl hidle

theorem of_failed (h : Found callback past p) (hfailed : callback.status = .failed)
    (hopens : act.opens? = none) (hcompletes : act.completes? = none) :
    Grounded (.handleCallback callback) past act where
  opens new hnew := by simp [hopens] at hnew
  completes id hid := by simp [hcompletes] at hid
  reports _ hsame := .inr (.inl ⟨p, Option.some.inj hsame ▸ ⟨h, hfailed⟩⟩)

theorem of_vouched (h : Vouched callback past p) (hopens : act.opens? = none)
    (hcompletes : ∀ id, act.completes? = some id → p.id = id) :
    Grounded (.handleCallback callback) past act where
  opens new hnew := by simp [hopens] at hnew
  completes id hid := ⟨callback, p, rfl, hcompletes id hid, h⟩
  reports _ hsame := .inr (.inr ⟨p, Option.some.inj hsame ▸ h⟩)

end Grounded

/-- In any other business payments are neither opened nor completed. -/
theorem Service.Business.allows_groundless {b : Business} (hb : b ≠ .paying) {act : Act}
    (h : b.allows act = true) : act.opens? = none ∧ act.completes? = none := by
  cases act with
  | asked query answer =>
    cases query
    case openPayment new => exact absurd (beq_iff_eq.mp h) hb
    case completePayment id => exact absurd (beq_iff_eq.mp h) hb
    all_goals exact ⟨rfl, rfl⟩
  | requested user request answer => exact ⟨rfl, rfl⟩
  | lookedUp user key answer => exact ⟨rfl, rfl⟩
  | published event => exact ⟨rfl, rfl⟩

theorem unpaid_grounded (op : Operation) (hb : op.business ≠ .paying) :
    op.flow.Obeys (Grounded op) Whatever [] := by
  have hop : op.callback? = none := by
    cases op
    case handleCallback callback => exact absurd rfl hb
    all_goals rfl
  refine op.flow_proper.obeys (fun _ => True) (fun past act _ hallows => ?_) trivial
  obtain ⟨hopens, hcompletes⟩ := Business.allows_groundless hb hallows
  exact ⟨.of_plain hop hopens hcompletes, trivial⟩

namespace Service.Payments

/-! ## Asking for a payment -/

section Initiation

variable {op : Operation} {past : List Act} {payment : Payment} (hop : op.callback? = none)
include hop

theorem latest_grounded : Call.Obeys (Grounded op) Whatever past (latest payment) := by
  refine .attempt_bind (fun r => .of_plain hop rfl rfl) fun r => ?_
  split <;> exact .pure trivial

theorem markFailed_grounded (reason : String) :
    Call.Obeys (Grounded op) Whatever past (markFailed payment reason) := by
  refine .attempt_bind (fun r => .of_plain hop rfl rfl) fun r => ?_
  split
  · exact .pure trivial
  · exact latest_grounded hop
  · exact .pure trivial

theorem noteKey_grounded (key : String) :
    Call.Obeys (Grounded op) Whatever past (noteKey payment key) := by
  refine .attempt_bind (fun r => .of_plain hop rfl rfl) fun r => ?_
  split
  · exact .pure trivial
  · exact latest_grounded hop
  · exact .pure trivial

theorem initiate_grounded (details : PaymentDetails) :
    Call.Obeys (Grounded op) Whatever past (initiate payment details) := by
  refine .requestPayment_bind (fun r => .of_plain hop rfl rfl) fun r => ?_
  split
  · exact markFailed_grounded hop _
  · split
    · exact markFailed_grounded hop _
    · exact noteKey_grounded hop _

end Initiation

theorem placeOrder_grounded (order : NewOrder) :
    Call.Obeys (Grounded (.placeOrder order)) Whatever [] (placeOrder order) := by
  refine .bind Whatever ?_ (fun past placed _ => ?_) fun _ _ _ => trivial
  · exact .ofExcept_bind (fun _ _ => .query (fun r => .of_plain rfl rfl rfl) fun _ => trivial)
      fun _ _ => trivial
  · split
    · exact .bind Whatever (initiate_grounded rfl _) (fun _ _ _ => .pure trivial)
        fun _ _ _ => trivial
    · exact .pure trivial

/-- A payment is opened for the order as it was looked up before. -/
theorem payOrder_grounded (userId : Id) (request : PayOrderRequest) :
    Call.Obeys (Grounded (.payOrder userId request)) Whatever [] (payOrder userId request) := by
  have hop : (Operation.payOrder userId request).callback? = none := rfl
  refine .ofExcept_bind (fun _ _ => ?_) fun _ _ => trivial
  refine .bind (fun acts r => ∀ order, r = .ok order → ∃ act ∈ acts, act.seen? = some order) ?_
    (fun past order hseen => ?_) fun _ _ _ => trivial
  · refine .query_bind (fun r => .of_plain rfl rfl rfl) (fun found => ?_) fun f => by simp
    cases hfound : found.filter (·.userId == userId) with
    | none => exact ⟨fun order h => by cases h⟩
    | some order =>
      refine .pure fun other hother => ?_
      cases hother
      obtain ⟨rfl, -⟩ := Option.filter_eq_some_iff.mp hfound
      exact ⟨.asked (.order request.orderId) (.ok (some order)), by simp, rfl⟩
  · refine .guard (fun _ => trivial) fun _ => .guard (fun _ => trivial) fun _ => ?_
    refine .query_bind (fun r => ?_) (fun _ => initiate_grounded hop _) fun _ => trivial
    exact {
      opens := fun new hnew =>
        ⟨order, request.payment, hseen order rfl, (Option.some.inj hnew).symm⟩
      completes := fun id hid => by simp [Act.completes?] at hid
      reports := fun callback h => by simp [hop] at h }

/-! ## Reports -/

section Reports

variable {callback : PaymentCallback} {past : List Act} {payment : Payment}

theorem complete_grounded (hfound : Found callback past payment)
    (hsuccess : callback.status = .success) :
    Call.Obeys (Grounded (.handleCallback callback)) Whatever past (complete payment) := by
  refine .fetchTransaction_bind (fun r => .of_idle rfl rfl rfl) (fun transaction => ?_)
    fun _ => trivial
  refine .guard (fun _ => trivial) fun hvouches => ?_
  have hvouched : Vouched callback (past ++
      [.lookedUp payment.userId (payment.transactionKey.getD "") (.ok transaction)]) payment :=
    ⟨hfound.concat _, hsuccess, transaction, by simp, by simpa using hvouches⟩
  refine .query_bind (fun r => ?_) (fun completed => ?_) fun _ => trivial
  · exact .of_vouched hvouched rfl fun id hid => Option.some.inj hid
  · split
    · exact .publish_bind (.of_vouched (hvouched.concat _) rfl nofun) (.pure trivial)
    · exact .pure trivial

theorem fail_grounded (hfound : Found callback past payment) (hfailed : callback.status = .failed)
    (reason : String) :
    Call.Obeys (Grounded (.handleCallback callback)) Whatever past (fail payment reason) := by
  refine .query_bind (fun r => .of_failed hfound hfailed rfl rfl) (fun failed => ?_)
    fun _ => trivial
  split
  · exact .publish_bind (.of_failed (hfound.concat _) hfailed rfl rfl) (.pure trivial)
  · exact .pure trivial

theorem handleCallback_grounded (callback : PaymentCallback) :
    Call.Obeys (Grounded (.handleCallback callback)) Whatever [] (handleCallback callback) := by
  refine .query_bind (fun r => ?_) (fun found => ?_) fun _ => trivial
  · cases r <;> exact .of_idle rfl rfl rfl
  refine .orFail_bind (fun payment hpayment => ?_) fun _ => trivial
  subst hpayment
  split
  · exact .pure trivial
  next hopen =>
  refine .guard (fun _ => trivial) fun horder => ?_
  have hfound : Found callback
      ([] ++ [.asked (.paymentWithKey callback.transactionKey) (.ok (some payment))]) payment :=
    ⟨by simp, by simpa [PaymentStatus.isTerminal] using hopen, not_not.mp horder⟩
  split
  · exact .pure trivial
  · exact complete_grounded hfound ‹_›
  · exact fail_grounded hfound ‹_› _

end Reports

theorem expireAll_grounded {op : Operation} {past : List Act} (hop : op.callback? = none)
    (payments : List Payment) :
    Call.Obeys (Grounded op) Whatever past (expireAll payments) := by
  induction payments generalizing past with
  | nil => exact .pure trivial
  | cons payment payments ih =>
    refine .query_bind (fun r => .of_plain hop rfl rfl) (fun found => ?_) fun _ => trivial
    split
    · exact .publish_bind (.of_plain hop rfl rfl)
        (.bind Whatever ih (fun _ _ _ => .pure trivial) fun _ _ _ => trivial)
    · exact ih

theorem expireStale_grounded (cutoff : Moment) :
    Call.Obeys (Grounded (.expireStale cutoff)) Whatever [] (expireStale cutoff) :=
  .query_bind (fun _ => .of_plain rfl rfl rfl) (fun payments => expireAll_grounded rfl payments)
    fun _ => trivial

end Service.Payments

/-- Whatever is asked of the shop, payments are opened and completed on good grounds only. -/
theorem Service.Operation.grounded (op : Operation) : op.flow.Obeys (Grounded op) Whatever [] := by
  by_cases hb : op.business = .paying
  · cases op
    case placeOrder order => exact (Payments.placeOrder_grounded order).flow
    case payOrder userId request => exact (Payments.payOrder_grounded userId request).flow
    case handleCallback callback => exact (Payments.handleCallback_grounded callback).flow
    case expireStale cutoff => exact (Payments.expireStale_grounded cutoff).flow
    all_goals cases hb
  · exact unpaid_grounded op hb

theorem Shop.grounded_after (deeds : List Deed) :
    (after deeds).Following Grounded fun _ => Whatever :=
  following_after Operation.grounded deeds

end Checkout
