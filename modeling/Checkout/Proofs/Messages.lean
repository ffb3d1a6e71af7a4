-- Messages survive the wire: what is written as a request, a report or a
-- message of the payment processor is read back as the same value. Amounts
-- are written as text, so the lowest one, whose text is refused, is left out.
import Checkout.Account.Json
import Checkout.Gateway.Json
import Checkout.Payment.Json
import Checkout.Proofs.Money.Json

namespace Checkout

namespace Json

/-! ## Single values -/

/-- What is written has no decimals, and the value is read back from it. -/
structure Carries {α : Type} (write : α → Json) (read : Json → Option α) (a : α) : Prop where
  plain : (write a).Plain
  read_back : read (write a) = some a

section Values

variable {α : Type} {write : α → Json} {read : Json → Option α} {a : α}

theorem carries_string (s : String) : Carries .string string? s := ⟨.string s, rfl⟩

theorem carries_int64 {n : Int} (h : Fits n) : Carries .integer int64? n :=
  ⟨.integer h, by rw [int64?, if_pos h]⟩

theorem carries_word [Enumeration α] (h : Enumeration.ofWord? (Enumeration.word a) = some a) :
    Carries word word? a :=
  ⟨.string _, h⟩

theorem carries_money {m : Money} (h : m ≠ Money.lowest) :
    Carries Money.toJson Money.ofJson? m :=
  ⟨.string _, Money.ofJson?_toJson h⟩

/-- A value that is never written as null may be left out. -/
theorem carries_nullable (hnull : ∀ a, write a ≠ .null) {o : Option α}
    (h : ∀ a ∈ o, Carries write read a) : Carries (ofOption write) (nullable? read) o := by
  cases o with
  | none => exact ⟨.null, rfl⟩
  | some a =>
    refine ⟨(h a rfl).plain, ?_⟩
    rw [ofOption, nullable?, (h a rfl).read_back]
    · rfl
    · exact hnull a

theorem carries_list {as : List α} (h : ∀ a ∈ as, Carries write read a) :
    Carries (list write) (list? read) as := by
  constructor
  · apply Plain.array
    intro j hj
    obtain ⟨a, ha, rfl⟩ := List.mem_map.mp hj
    exact (h a ha).plain
  · rw [list, list?]
    induction as with
    | nil => rfl
    | cons a as ih =>
      have hrest := ih fun b hb => h b (List.mem_cons_of_mem a hb)
      simp [List.mapM_cons, (h a List.mem_cons_self).read_back, hrest]

end Values

theorem carries_optionString (s : Option String) : Carries optionString (nullable? string?) s :=
  carries_nullable (by simp) fun s _ => carries_string s

theorem carries_optionInt {n : Option Int} (h : ∀ i ∈ n, Fits i) :
    Carries optionInt (nullable? int64?) n :=
  carries_nullable (by simp) fun i hi => carries_int64 (h i hi)

/-! ## Records -/

theorem distinctNames_iff (ms : List (String × Json)) :
    distinctNames ms = true ↔ (ms.map (·.1)).Nodup := by
  induction ms with
  | nil => simp [distinctNames]
  | cons m ms ih =>
    have hfresh : ms.all (·.1 != m.1) = true ↔ m.1 ∉ ms.map (·.1) := by
      rw [List.all_eq_true, List.mem_map, not_exists]
      exact forall_congr' fun n => by simp
    rw [distinctNames, Bool.and_eq_true, hfresh, ih, List.map_cons, List.nodup_cons]

/-- A record whose members are all named is taken as it is. -/
@[simp] theorem record?_object {ms : List (String × Json)} {names : List String}
    (hnames : ms.map (·.1) = names) (hdistinct : names.Nodup) :
    record? (.object ms) names = some ⟨ms, false⟩ := by
  have hknown : ms.filter (fun m => names.contains m.1) = ms := by
    rw [List.filter_eq_self]
    intro m hm
    rw [List.contains_iff_mem, ← hnames]
    exact List.mem_map_of_mem hm
  unfold record?
  simp only [hknown, (distinctNames_iff ms).mpr (hnames ▸ hdistinct), if_true]

@[simp] theorem Record.get?_cons (k name : String) (j : Json) (ms : List (String × Json))
    (listed : Bool) :
    (Record.mk ((k, j) :: ms) listed).get? name =
      if k = name then some j else (Record.mk ms listed).get? name := by
  unfold Record.get?
  by_cases h : k = name <;> simp [h]

attribute [simp] Record.required Record.optional Record.defaulted Record.nullable

end Json

open Json

/-! ## Requests -/

theorem ChargeRequest.carries {r : ChargeRequest} (h : r.amount ≠ Money.lowest) :
    Carries toJson ofJson? r := by
  have amount := carries_money h
  constructor
  · exact .object (by simp [amount.plain])
  · simp [toJson, ofJson?, amount.read_back]

/-- All its numbers fit 64 bits. -/
def NewOrderLine.Sendable (l : NewOrderLine) : Prop :=
  Fits l.productId ∧ Fits l.quantity ∧ ∀ c ∈ l.couponId, Fits c

instance (l : NewOrderLine) : Decidable l.Sendable :=
  inferInstanceAs (Decidable (Fits l.productId ∧ Fits l.quantity ∧ ∀ c ∈ l.couponId, Fits c))

theorem NewOrderLine.carries {l : NewOrderLine} (h : l.Sendable) : Carries toJson ofJson? l := by
  obtain ⟨hproduct, hquantity, hcoupon⟩ := h
  have product := carries_int64 hproduct
  have quantity := carries_int64 hquantity
  have coupon := carries_optionInt hcoupon
  constructor
  · exact .object (by simp [product.plain, quantity.plain, coupon.plain])
  · simp [toJson, ofJson?, product.read_back, quantity.read_back, coupon.read_back]

theorem PaymentDetails.carries (d : PaymentDetails) : Carries toJson ofJson? d := by
  constructor
  · exact .object (by simp [jsonMembers, Plain.string])
  · simp [toJson, ofJson?, jsonMembers, ofRecord?, string?]

theorem OrderRequest.carries {r : OrderRequest} (h : ∀ l ∈ r.lines, l.Sendable) :
    Carries toJson ofJson? r := by
  have lines := carries_list fun l hl => NewOrderLine.carries (h l hl)
  have hnull (d : PaymentDetails) : d.toJson ≠ .null := by simp [PaymentDetails.toJson]
  have payment := carries_nullable hnull (o := r.payment) fun d _ => PaymentDetails.carries d
  constructor
  · exact .object (by simp [lines.plain, payment.plain])
  · simp [toJson, ofJson?, lines.read_back, payment.read_back]

/-- The payment details are read from among the other members. -/
theorem PayOrderRequest.carries {r : PayOrderRequest} (horder : Fits r.orderId)
    (hamount : r.amount ≠ Money.lowest) : Carries toJson ofJson? r := by
  have order := carries_int64 horder
  have amount := carries_money hamount
  constructor
  · exact .object (by
      simp [order.plain, amount.plain, PaymentDetails.jsonMembers, Plain.string])
  · have hsound : r.toJson.sound deepest = true := by
      simp [toJson, PaymentDetails.jsonMembers, Money.toJson, sound, soundMembers, deepest]
    rw [ofJson?, hsound]
    simp [toJson, PaymentDetails.jsonMembers, PaymentDetails.ofRecord?, string?, order.read_back,
      amount.read_back]

/-! ## The processor -/

theorem TransactionStatus.carries (s : TransactionStatus) : Carries word word? s :=
  carries_word (by cases s <;> decide)

theorem PaymentCallback.carries {c : PaymentCallback} (horder : Fits c.orderId)
    (hamount : c.amount ≠ Money.lowest) : Carries toJson ofJson? c := by
  have order := carries_int64 horder
  have amount := carries_money hamount
  have status := c.status.carries
  have reason := carries_optionString c.reason
  constructor
  · exact .object (by
      simp [order.plain, amount.plain, status.plain, reason.plain, Plain.string])
  · simp [toJson, ofJson?, string?, order.read_back, amount.read_back, status.read_back,
      reason.read_back]

namespace Gateway

theorem PaymentRequest.carries {r : PaymentRequest} (horder : Fits r.orderId)
    (hamount : r.amount ≠ Money.lowest) : Carries toJson ofJson? r := by
  have order := carries_int64 horder
  have amount := carries_money hamount
  constructor
  · exact .object (by simp [order.plain, amount.plain, Plain.string])
  · simp [toJson, ofJson?, string?, order.read_back, amount.read_back]

theorem Receipt.carries (r : Receipt) : Carries toJson ofJson? r := by
  have status := r.status.carries
  have reason := carries_optionString r.reason
  constructor
  · exact .object (by simp [status.plain, reason.plain, Plain.string])
  · simp [toJson, ofJson?, string?, status.read_back, reason.read_back]

theorem Transaction.carries {t : Transaction} (horder : Fits t.orderId)
    (hamount : t.amount ≠ Money.lowest) : Carries toJson ofJson? t := by
  have order := carries_int64 horder
  have amount := carries_money hamount
  have status := t.status.carries
  have reason := carries_optionString t.reason
  constructor
  · exact .object (by
      simp [order.plain, amount.plain, status.plain, reason.plain, Plain.string])
  · simp [toJson, ofJson?, string?, order.read_back, amount.read_back, status.read_back,
      reason.read_back]

theorem Meta.carries (m : Meta) : Carries toJson ofJson? m := by
  have result : Carries word word? m.result := carries_word (by cases m.result <;> decide)
  have code := carries_optionString m.errorCode
  have message := carries_optionString m.message
  constructor
  · exact .object (by simp [result.plain, code.plain, message.plain])
  · simp [toJson, ofJson?, result.read_back, code.read_back, message.read_back]

/-- An answer of the processor is read back if its data is. -/
theorem Envelope.carries {α : Type} {write : α → Json} {read : Json → Option α}
    (hnull : ∀ a, write a ≠ .null) {e : Envelope α} (h : ∀ a ∈ e.data, Carries write read a) :
    Carries (toJson write) (ofJson? read) e := by
  have header := e.header.carries
  have data := carries_nullable hnull h
  constructor
  · exact .object (by simp [header.plain, data.plain])
  · simp [toJson, ofJson?, header.read_back, data.read_back]

end Gateway

/-! ## The law -/

/-- The value is read back from the text that it is sent as. -/
def Survives {α : Type} (write : α → Json) (read : Json → Option α) (a : α) : Prop :=
  (ofText? (write a).text).bind read = some a

theorem Json.Carries.survives {α : Type} {write : α → Json} {read : Json → Option α} {a : α}
    (h : Carries write read a) : Survives write read a := by
  rw [Survives, h.plain.ofText?_text]
  exact h.read_back

/-- Every request, every report and every message to and from the processor is read back as the
value that it was written from, if its numbers fit 64 bits and no amount is the lowest one. -/
theorem messages_survive_the_wire :
    (∀ r : ChargeRequest, r.amount ≠ Money.lowest →
      Survives ChargeRequest.toJson ChargeRequest.ofJson? r) ∧
    (∀ l : NewOrderLine, l.Sendable → Survives NewOrderLine.toJson NewOrderLine.ofJson? l) ∧
    (∀ r : OrderRequest, (∀ l ∈ r.lines, l.Sendable) →
      Survives OrderRequest.toJson OrderRequest.ofJson? r) ∧
    (∀ d : PaymentDetails, Survives PaymentDetails.toJson PaymentDetails.ofJson? d) ∧
    (∀ r : PayOrderRequest, Fits r.orderId → r.amount ≠ Money.lowest →
      Survives PayOrderRequest.toJson PayOrderRequest.ofJson? r) ∧
    (∀ c : PaymentCallback, Fits c.orderId → c.amount ≠ Money.lowest →
      Survives PaymentCallback.toJson PaymentCallback.ofJson? c) ∧
    (∀ r : Gateway.PaymentRequest, Fits r.orderId → r.amount ≠ Money.lowest →
      Survives Gateway.PaymentRequest.toJson Gateway.PaymentRequest.ofJson? r) ∧
    (∀ e : Gateway.Envelope Gateway.Receipt,
      Survives (Gateway.Envelope.toJson Gateway.Receipt.toJson)
        (Gateway.Envelope.ofJson? Gateway.Receipt.ofJson?) e) ∧
    ∀ e : Gateway.Envelope Gateway.Transaction,
      (∀ t ∈ e.data, Fits t.orderId ∧ t.amount ≠ Money.lowest) →
      Survives (Gateway.Envelope.toJson Gateway.Transaction.toJson)
        (Gateway.Envelope.ofJson? Gateway.Transaction.ofJson?) e := by
  refine ⟨?_, ?_, ?_, ?_, ?_, ?_, ?_, ?_, ?_⟩
  · intro r h
    exact (ChargeRequest.carries h).survives
  · intro l h
    exact (NewOrderLine.carries h).survives
  · intro r h
    exact (OrderRequest.carries h).survives
  · intro d
    exact d.carries.survives
  · intro r horder hamount
    exact (PayOrderRequest.carries horder hamount).survives
  · intro c horder hamount
    exact (PaymentCallback.carries horder hamount).survives
  · intro r horder hamount
    exact (Gateway.PaymentRequest.carries horder hamount).survives
  · intro e
    have hnull (r : Gateway.Receipt) : r.toJson ≠ .null := by simp [Gateway.Receipt.toJson]
    exact (Gateway.Envelope.carries hnull fun r _ => r.carries).survives
  · intro e h
    have hnull (t : Gateway.Transaction) : t.toJson ≠ .null := by
      simp [Gateway.Transaction.toJson]
    exact (Gateway.Envelope.carries hnull fun t ht =>
      Gateway.Transaction.carries (h t ht).1 (h t ht).2).survives

/-- Numbers at both ends, quotes and control characters, members that are left out. -/
theorem messages_at_the_limits_survive :
    Survives ChargeRequest.toJson ChargeRequest.ofJson?
      ⟨⟨-9223372036854775807, by decide⟩⟩ ∧
    Survives NewOrderLine.toJson NewOrderLine.ofJson?
      ⟨-9223372036854775808, 9223372036854775807, none⟩ ∧
    Survives OrderRequest.toJson OrderRequest.ofJson?
      ⟨[⟨1, 2, some 9223372036854775807⟩, ⟨3, -4, none⟩], some ⟨"\"", "\\ \n \x01", "é/"⟩⟩ ∧
    Survives PayOrderRequest.toJson PayOrderRequest.ofJson?
      ⟨-9223372036854775808, ⟨9223372036854775807, by decide⟩, ⟨"VISA", "", "\x1f"⟩⟩ ∧
    Survives PaymentCallback.toJson PaymentCallback.ofJson?
      ⟨"TX-1", 1, "", "", ⟨-1, by decide⟩, .failed, some "\t"⟩ ∧
    Survives Gateway.PaymentRequest.toJson Gateway.PaymentRequest.ofJson?
      ⟨0, "VISA", "1234-5678", ⟨0, by decide⟩, "http://shop/cb"⟩ ∧
    Survives (Gateway.Envelope.toJson Gateway.Transaction.toJson)
      (Gateway.Envelope.ofJson? Gateway.Transaction.ofJson?)
      ⟨⟨.success, none, some ""⟩,
        some ⟨"TX-1", -9223372036854775808, "", "", ⟨1, by decide⟩, .pending, none⟩⟩ := by
  obtain ⟨charge, line, order, -, pay, callback, request, -, transaction⟩ :=
    messages_survive_the_wire
  refine ⟨?_, ?_, ?_, ?_, ?_, ?_, ?_⟩
  · exact charge _ (by decide)
  · exact line _ (by decide)
  · exact order _ (by decide)
  · exact pay _ (by decide) (by decide)
  · exact callback _ (by decide) (by decide)
  · exact request _ (by decide) (by decide)
  · exact transaction _ (by decide)

end Checkout
