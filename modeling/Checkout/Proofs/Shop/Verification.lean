-- What the processor reports is believed only after it was asked itself.
-- A payment is completed by a report of success that bears its key and names
-- its order, after the processor has confirmed the order and the amount in the
-- same call. Any other report, unless it tells of a failure, leaves no trace.
import Checkout.Proofs.Shop.Grounds
import Checkout.Proofs.Shop.Payments

namespace Checkout

open Store Service

variable {t t' : Tables} {record : List (Nat × Act)}

/-! ## Payments that were found by their key -/

/-- The key by which a payment was looked up, and the payment that was found. -/
def Act.foundBy? : Act → Option (String × Payment)
  | .asked (.paymentWithKey key) (.ok (some p)) => some (key, p)
  | _ => none

theorem Act.foundBy?_eq_none {act : Act} (h : act.succeeded = false) : act.foundBy? = none := by
  unfold foundBy?
  split
  · cases h
  · rfl

/-- A payment that was found by a key bears that key, and is still there. -/
def KeysFound (t : Tables) (record : List (Nat × Act)) : Prop :=
  ∀ entry ∈ record, ∀ key p, entry.2.foundBy? = some (key, p) →
    p.transactionKey = some key ∧ ∃ q ∈ t.payments, p.Becomes q

theorem change_foundBy {α : Type} {query : Query α} {a : α} {now : Moment}
    (h : Change now t query a t') {key : String} {p : Payment}
    (hfound : (Act.asked query (.ok a)).foundBy? = some (key, p)) :
    p.transactionKey = some key ∧ p ∈ t'.payments := by
  cases h with
  | still _ htells =>
    cases query
    case paymentWithKey other =>
      cases a with
      | none => cases hfound
      | some found =>
        cases hfound
        have hmem := List.mem_filter.mp (List.mem_of_mem_head? (Option.mem_def.mpr htells.symm))
        exact ⟨beq_iff_eq.mp hmem.2, hmem.1⟩
    all_goals cases hfound
  | _ => cases hfound

theorem keysFound_after (deeds : List Deed) :
    KeysFound (Shop.after deeds).tables (Shop.after deeds).record := by
  apply Shop.holds_after fun _ h => nomatch h
  intro t t' record record' hk h hadvance
  cases hadvance with
  | waited => exact h
  | @answered α query a _ now call hchange =>
    intro entry he key p hfound
    rcases List.mem_append.mp he with he | he
    · obtain ⟨hkey, q, hq, hbecomes⟩ := h entry he key p hfound
      obtain ⟨q', hq', hlater⟩ := (change_payments hchange).becomes hk q hq
      exact ⟨hkey, q', hq', hbecomes.trans hlater⟩
    · rw [List.mem_singleton.mp he] at hfound
      obtain ⟨hkey, hp⟩ := change_foundBy hchange hfound
      exact ⟨hkey, p, hp, .refl p⟩
  | @noted call act hact =>
    intro entry he key p hfound
    rcases List.mem_append.mp he with he | he
    · exact h entry he key p hfound
    · rw [List.mem_singleton.mp he, Act.foundBy?_eq_none hact] at hfound
      cases hfound
  | withdrew id => exact h

/-! ## What a report is worth -/

/-- The report is of a success, bears the key of the payment and names its order. When the
processor was asked about that key, it told of a success for the same order and amount. -/
structure Backed (callback : PaymentCallback) (acts : List Act) (p : Payment) : Prop where
  key : p.transactionKey = some callback.transactionKey
  order : callback.orderId = p.orderId
  success : callback.status = .success
  word : ∃ transaction, .lookedUp p.userId callback.transactionKey (.ok transaction) ∈ acts ∧
    transaction.status = .success ∧ transaction.orderId = p.orderId ∧
    transaction.amount = p.amount

/-- The report is of a failure, bears the key of the payment and names its order. The payment was
pending when it was found. -/
structure ReportedFailed (callback : PaymentCallback) (acts : List Act) (p : Payment) : Prop where
  key : p.transactionKey = some callback.transactionKey
  order : callback.orderId = p.orderId
  failed : callback.status = .failed
  pending : ∃ found : Payment, found.id = p.id ∧ found.status = .pending ∧
    .asked (.paymentWithKey callback.transactionKey) (.ok (some found)) ∈ acts

variable {callback : PaymentCallback} {acts : List Act} {call : Nat} {p q : Payment}

/-- Whatever becomes of the payment, the processor still stands behind the report. -/
theorem Backed.onward (h : Backed callback acts p) (hbecomes : p.Becomes q) :
    Backed callback acts q where
  key := hbecomes.keyed _ h.key
  order := h.order.trans hbecomes.orderId_eq.symm
  success := h.success
  word := by
    rw [hbecomes.userId_eq, hbecomes.orderId_eq, hbecomes.amount_eq]
    exact h.word

namespace KeysFound

variable (h : KeysFound t record)
include h

theorem of_found (hfound : Found callback (actsOf call record) p) :
    p.transactionKey = some callback.transactionKey ∧ ∃ q ∈ t.payments, p.Becomes q :=
  h _ (mem_actsOf.mp hfound.asked) _ _ rfl

/-- What the processor vouched for is there, and backed. -/
theorem backed (hvouched : Vouched callback (actsOf call record) p) :
    ∃ q ∈ t.payments, q.id = p.id ∧ Backed callback (actsOf call record) q := by
  obtain ⟨hkey, q, hq, hbecomes⟩ := h.of_found hvouched.found
  obtain ⟨transaction, hword, hvouches⟩ := hvouched.word
  simp only [Payments.vouchesFor, Bool.and_eq_true, beq_iff_eq] at hvouches
  obtain ⟨⟨hstatus, horder⟩, hamount⟩ := hvouches
  rw [hkey, Option.getD_some] at hword
  have hbacked : Backed callback (actsOf call record) p :=
    ⟨hkey, hvouched.found.order, hvouched.success, transaction, hword, hstatus, horder, hamount⟩
  exact ⟨q, hq, hbecomes.id_eq, hbacked.onward hbecomes⟩

theorem reportedFailed (hfound : Found callback (actsOf call record) p)
    (hfailed : callback.status = .failed) :
    ∃ q ∈ t.payments, ReportedFailed callback (actsOf call record) q := by
  obtain ⟨hkey, q, hq, hbecomes⟩ := h.of_found hfound
  exact ⟨q, hq, {
    key := hbecomes.keyed _ hkey
    order := hfound.order.trans hbecomes.orderId_eq.symm
    failed := hfailed
    pending := ⟨p, hbecomes.id_eq.symm, hfound.pending, hfound.asked⟩ }⟩

end KeysFound

/-! ## Completion -/

theorem Act.completes?_of_settling? {act : Act} {id : Id} {got : Option Payment}
    (h : act.settling? = some ⟨id, .completed, got⟩) : act.completes? = some id := by
  unfold settling? at h
  split at h <;> cases h
  rfl

/-- A payment is completed only by the query that is there for it. -/
theorem PaymentChange.completed {act : Act} {payments : List Payment}
    (h : PaymentChange t act payments) (hk : t.Kept) (hp : p ∈ payments)
    (hs : p.status = .completed) : p ∈ t.payments ∨ act.completes? = some p.id := by
  cases h with
  | same => exact .inl hp
  | missed => exact .inl hp
  | @added new _ _ _ hnew =>
    rcases List.mem_append.mp hp with hp | hp
    · exact .inl hp
    · rw [List.mem_singleton.mp hp, hnew] at hs
      cases hs
  | @keyed given key _ _ hgiven hpending =>
    obtain ⟨q, hq, rfl⟩ := List.mem_map.mp hp
    split at hs
    · obtain rfl := payment_eq_of_id hk hgiven hq ‹_›
      rw [hpending] at hs
      cases hs
    · rw [if_neg ‹_›]
      exact .inl hq
  | @settled settled status reason completedAt hsettling _ hsettled _ _ =>
    obtain ⟨q, hq, rfl⟩ := List.mem_map.mp hp
    by_cases hid : q.id = settled.id
    · rw [if_pos hid] at hs ⊢
      obtain rfl : status = .completed := hs
      exact .inr (Act.completes?_of_settling? (hid ▸ hsettling))
    · rw [if_neg hid]
      exact .inl hq

/-- The deed is a step of a call that takes a report, and the processor stands behind it. -/
def Shop.BackedStep (s : Shop) (deed : Deed) (p : Payment) : Prop :=
  ∃ call around callback rest, deed = .proceed call around ∧
    s.calls[call]? = some ⟨.handleCallback callback, rest⟩ ∧
    Backed callback (actsOf call s.record) p

/-- A call that has to complete a payment takes a report that is backed for it. -/
theorem backed_of_completes (deeds : List Deed) {running : Running} {act : Act} {id : Id}
    (hc : (Shop.after deeds).calls[call]? = some running)
    (hrule : Grounded running.op (actsOf call (Shop.after deeds).record) act)
    (hcompletes : act.completes? = some id) :
    ∃ callback rest, (Shop.after deeds).calls[call]? = some ⟨.handleCallback callback, rest⟩ ∧
      ∃ q ∈ (Shop.after deeds).tables.payments, q.id = id ∧
        Backed callback (actsOf call (Shop.after deeds).record) q := by
  obtain ⟨callback, found, hop, rfl, hvouched⟩ := hrule.completes id hcompletes
  obtain ⟨op, rest⟩ := running
  obtain rfl := Operation.eq_handleCallback hop
  exact ⟨callback, rest, hc, (keysFound_after deeds).backed hvouched⟩

/-- A payment that is completed now was so before, or the last deed was a backed one. -/
theorem completed_after (deeds : List Deed) (deed : Deed) :
    ∀ p ∈ (Shop.after (deeds ++ [deed])).tables.payments, p.status = .completed →
      p ∈ (Shop.after deeds).tables.payments ∨ (Shop.after deeds).BackedStep deed p := by
  intro p hp hs
  have hkept := Shop.kept_after deeds
  have hkept' := Shop.kept_after (deeds ++ [deed])
  have hlater := becomes_after deeds [deed]
  rw [Shop.after_concat] at hp hkept' hlater
  cases deed with
  | start op => exact .inl hp
  | withdraw product around =>
    rcases Shop.withdraw_cases hkept product around with hsame | hsame
    · exact .inl (hsame ▸ hp)
    · rw [hsame] at hp
      exact .inl hp
  | proceed call around =>
    rcases (Shop.after deeds).proceed_cases call around with
      hsame | ⟨running, act, rest, tables, hc, hf, hnext⟩
    · rw [Shop.step, hsame] at hp
      exact .inl hp
    rw [Shop.step, hnext] at hp hkept' hlater
    have hproper := (Shop.inOrder_after deeds).proper running (List.mem_of_getElem? hc)
    have hrule := (((Shop.grounded_after deeds).rest call running hc).step hf).1
    obtain ⟨-, ⟨β, query, a, rfl, hchange⟩ | ⟨-, rfl⟩⟩ :=
      Shop.flow_step_cases hkept hproper hf
    · rcases (change_payments hchange).completed hkept hp hs with hbefore | hcompletes
      · exact .inl hbefore
      · obtain ⟨callback, rest, hcall, q, hq, hid, hbacked⟩ :=
          backed_of_completes deeds hc hrule hcompletes
        obtain ⟨p', hp', hnow⟩ := hlater q hq
        -- the payment that was completed is what has become of the one that was backed
        obtain rfl := payment_eq_of_id hkept' hp hp' (hnow.id_eq.trans hid)
        exact .inr ⟨call, around, callback, rest, rfl, hcall, hbacked.onward hnow⟩
    · exact .inl hp

/-! ## Reports that nothing stands behind -/

/-- Something stands behind the report: the processor, or it tells of a failure of a payment that
is pending. -/
def Shop.Heeds (s : Shop) (call : Nat) (callback : PaymentCallback) : Prop :=
  ∃ p ∈ s.tables.payments, Backed callback (actsOf call s.record) p ∨
    ReportedFailed callback (actsOf call s.record) p

/-- What is done for a report is idle unless something stands behind the report. -/
theorem idle_or_heeds (deeds : List Deed) {callback : PaymentCallback}
    {rest : Flow (Operation.handleCallback callback).Answer}
    (hc : (Shop.after deeds).calls[call]? = some ⟨.handleCallback callback, rest⟩) :
    ∀ act ∈ actsOf call (Shop.after deeds).record,
      act.isIdle = true ∨ (Shop.after deeds).Heeds call callback := by
  intro act hact
  have hkeys := keysFound_after deeds
  obtain ⟨earlier, later, hsplit⟩ := List.append_of_mem (mem_actsOf.mp hact)
  obtain ⟨running, hr, hrule⟩ := (Shop.grounded_after deeds).acts earlier _ later hsplit
  cases hr.symm.trans hc
  -- what the call knew before it did this it still knows
  have hsub : actsOf call earlier ⊆ actsOf call (Shop.after deeds).record :=
    hsplit ▸ actsOf_subset_append call earlier _
  rcases hrule.reports callback rfl with hidle | ⟨p, hfound, hfailed⟩ | ⟨p, hvouched⟩
  · exact .inl hidle
  · obtain ⟨q, hq, hreported⟩ := hkeys.reportedFailed (hfound.mono hsub) hfailed
    exact .inr ⟨q, hq, .inr hreported⟩
  · obtain ⟨q, hq, -, hbacked⟩ := hkeys.backed (hvouched.mono hsub)
    exact .inr ⟨q, hq, .inl hbacked⟩

/-- What is so of the reports in any run. -/
structure Shop.BelievesOnlyTheProcessor (deeds : List Deed) : Prop where
  /-- A payment that a further deed completes is completed by a call that takes a report, and the
  processor stands behind that report. -/
  completed : ∀ deed, ∀ p ∈ (after (deeds ++ [deed])).tables.payments, p.status = .completed →
    p ∈ (after deeds).tables.payments ∨ (after deeds).BackedStep deed p
  /-- A report that nothing stands behind, and that is not one of a failure of a pending payment,
  leaves no trace. -/
  ignored : ∀ call callback rest,
    (after deeds).calls[call]? = some ⟨.handleCallback callback, rest⟩ →
    ¬ (after deeds).Heeds call callback → Traceless deeds call

/-- However the steps of calls interleave, and whatever reports are forged or repeated, no payment
is completed without the word of the processor, and a report without it changes nothing. -/
theorem no_payment_completes_without_the_word_of_the_processor (deeds : List Deed) :
    Shop.BelievesOnlyTheProcessor deeds where
  completed := completed_after deeds
  ignored call _ _ hc hnone :=
    Shop.traceless_after deeds call fun act hact =>
      (idle_or_heeds deeds hc act hact).resolve_right hnone

/-- A report of success for a payment that the processor, when it is asked, puts at another amount.
The payment stays pending, and all that was done for the report is idle. -/
example :
    let price : Money := .saturated 100
    let quiet : Surroundings := ⟨0, .sound, .sound, .ok ⟨"key", .pending, none⟩,
      .ok ⟨"key", 1, "VISA", "1234", .saturated 1, .success, none⟩⟩
    let order : NewOrder := ⟨1, [⟨1, 1, none⟩], some ⟨"VISA", "1234", "http://shop"⟩⟩
    let s := Shop.after <|
      [.start (.createUser "ann"), .proceed 0 quiet, .start (.charge 1 price), .proceed 1 quiet,
        .start (.createProduct ⟨"tea", price, 1⟩ (by decide)), .proceed 2 quiet,
        .start (.placeOrder order)] ++ List.replicate 3 (.proceed 3 quiet) ++
      [.start (.handleCallback ⟨"key", 1, "VISA", "1234", price, .success, none⟩),
        .proceed 4 quiet, .proceed 4 quiet, .proceed 4 quiet]
    s.tables.payments.map (·.status) = [.pending] ∧
      (actsOf 4 s.record).map (·.isIdle) = [true, true] := by
  decide +kernel

end Checkout
