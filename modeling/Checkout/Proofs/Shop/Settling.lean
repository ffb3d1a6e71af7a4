-- What each call on payments does about settling them. It settles only
-- payments that the store has told it of, it announces at once what it is to
-- announce, and what it answers is what came of its settling updates.
import Checkout.Proofs.Shop.Conduct

namespace Checkout

open Store Service

/-! ## Acts on payments -/

/-- A settling update that was executed. It gives the payment as it is then, if it matched. -/
structure Settlement where
  id : Id
  status : PaymentStatus
  outcome : Option Payment

namespace Act

/-- The settling update that was executed, if it was one. -/
def settling? : Act → Option Settlement
  | .asked (.completePayment id) (.ok outcome) => some ⟨id, .completed, outcome⟩
  | .asked (.failPayment id _) (.ok outcome) => some ⟨id, .failed, outcome⟩
  | _ => none

/-- The payment that was to be changed. -/
def target? : Act → Option Id
  | .asked (.assignKey id _) _ => some id
  | .asked (.completePayment id) _ => some id
  | .asked (.failPayment id _) _ => some id
  | _ => none

/-- The payments that the store told of. -/
def told : Act → List Payment
  | .asked (.placeOrder _) (.ok placed) => placed.payment.toList
  | .asked (.openPayment _) (.ok payment) => [payment]
  | .asked (.paymentWithKey _) (.ok found) => found.toList
  | .asked (.stalePayments _) (.ok payments) => payments
  | _ => []

/-- The event that a payment was settled. -/
def news? : Act → Option Event
  | .asked (.completePayment _) (.ok (some payment)) => some (.paymentCompleted payment)
  | .asked (.failPayment _ reason) (.ok (some payment)) => some (.paymentFailed payment reason)
  | _ => none

/-- What was announced of a payment. -/
def tells? : Act → Option Event
  | .published (.paymentCompleted payment) => some (.paymentCompleted payment)
  | .published (.paymentFailed payment reason) => some (.paymentFailed payment reason)
  | _ => none

/-- A payment was to be completed. -/
def completes : Act → Bool
  | .asked (.completePayment _) _ => true
  | _ => false

/-- The store failed. -/
def failed : Act → Bool
  | .asked _ (.error _) => true
  | _ => false

end Act

/-- The settling updates that were executed. -/
def settlings (acts : List Act) : List Settlement := acts.filterMap Act.settling?

/-- All payments that the store told of. -/
def toldIn (acts : List Act) : List Payment := acts.flatMap Act.told

/-- The event that the last act still has to be followed by. -/
def newsIn (acts : List Act) : Option Event := acts.getLast?.bind Act.news?

section Concat

variable (acts : List Act) (act : Act)

@[simp] theorem settlings_concat :
    settlings (acts ++ [act]) = settlings acts ++ act.settling?.toList := by
  simp only [settlings, List.filterMap_append]
  cases h : act.settling? <;> simp [h]

@[simp] theorem toldIn_concat : toldIn (acts ++ [act]) = toldIn acts ++ act.told := by
  simp [toldIn]

@[simp] theorem newsIn_concat : newsIn (acts ++ [act]) = act.news? := by
  simp [newsIn]

end Concat

/-! ## What the calls keep to -/

/-- The operation announces what it settles. One that asks for a payment does not: whoever it
answers hears of it. -/
def Service.Operation.announces : Operation → Bool
  | .handleCallback _ | .expireStale _ => true
  | _ => false

/-- Only payments are changed that the store has told of. What is to be announced is announced
next, and nothing else is. Only who announces it completes a payment. -/
structure Diligent (op : Operation) (past : List Act) (act : Act) : Prop where
  informed : ∀ id, act.target? = some id → ∃ payment ∈ toldIn past, payment.id = id
  announces : op.announces = true → ∀ event, newsIn past = some event → act = .published event
  genuine : ∀ event, act.tells? = some event → newsIn past = some event
  completes : act.completes = true → op.announces = true

/-- What a callback answers to a settling update. -/
def Settlement.word (s : Settlement) : CallbackOutcome :=
  match s.outcome, s.status with
  | none, _ => .duplicate
  | some _, .completed => .completed
  | some _, _ => .failed

/-- A callback makes one settling update at most, and answers what came of it. -/
def CallbackReport (acts : List Act) (r : Except Fault CallbackOutcome) : Prop :=
  (settlings acts = [] ∧ r ≠ .ok .completed ∧ r ≠ .ok .failed) ∨
    ∃ s, settlings acts = [s] ∧ r = .ok s.word

/-- Who asks for a payment makes one settling update at most, and gets the payment as it was
settled by that. If the update did not match, it is read again, and this is what is given then. -/
def InitiationReport (acts : List Act) (got? : Option Payment) : Prop :=
  settlings acts = [] ∨ ∃ s got, settlings acts = [s] ∧ got? = some got ∧
    ((s.outcome = some got) ∨ (s.outcome = none ∧ ∃ earlier answer,
      acts = earlier ++ [.asked (.payment s.id) answer] ∧
        ∀ stored, answer = .ok (some stored) → got = stored))

/-- A sweep that gets to its end gives what its settling updates gave, in that order. -/
def SweepReport (acts : List Act) (r : Except Fault (List Payment)) : Prop :=
  match r with
  | .ok payments => payments = (settlings acts).filterMap (·.outcome)
  | .error _ => ∃ act ∈ acts, act.failed = true

/-- What an operation answers, given all that was done for it. -/
def Reports : (op : Operation) → List Act → op.Answer → Prop
  | .handleCallback _, acts, r => CallbackReport acts r
  | .placeOrder _, acts, r => InitiationReport acts (r.toOption.bind (·.payment))
  | .payOrder _ _, acts, r => InitiationReport acts r.toOption
  | .expireStale _, acts, r => SweepReport acts r
  | _, acts, _ => settlings acts = []

/-- An operation answers what came of it, and has nothing left to announce. -/
structure Settles (op : Operation) (acts : List Act) (answer : op.Answer) : Prop where
  reports : Reports op acts answer
  announced : op.announces = true → newsIn acts = none

namespace Diligent

variable {op : Operation} {past : List Act} {act : Act}

/-- Nothing is to be announced. -/
theorem of_quiet (htarget : ∀ id, act.target? = some id → ∃ payment ∈ toldIn past, payment.id = id)
    (hquiet : newsIn past = none) (htells : act.tells? = none)
    (hcompletes : act.completes = true → op.announces = true) : Diligent op past act where
  informed := htarget
  announces _ event hnews := by simp [hquiet] at hnews
  genuine event h := by simp [htells] at h
  completes := hcompletes

/-- Nobody announces anything. -/
theorem of_silent (htarget : ∀ id, act.target? = some id → ∃ payment ∈ toldIn past, payment.id = id)
    (hop : op.announces = false) (htells : act.tells? = none) (hcompletes : act.completes = false) :
    Diligent op past act where
  informed := htarget
  announces h := by simp [hop] at h
  genuine event h := by simp [htells] at h
  completes h := by simp [hcompletes] at h

/-- What is to be announced is announced. -/
theorem of_news {event : Event} (hnews : newsIn past = some event) :
    Diligent op past (.published event) where
  informed _ h := nomatch h
  announces _ other h := by rw [Option.some.inj (hnews.symm.trans h)]
  genuine other h := by
    rw [hnews]
    cases event <;> first | exact h | cases h
  completes h := nomatch h

end Diligent

/-- What has to do with payments is not done in any other business. -/
theorem Service.Business.allows_unpaid {b : Business} (hb : b ≠ .paying) {act : Act}
    (h : b.allows act = true) :
    act.settling? = none ∧ act.target? = none ∧ act.tells? = none ∧ act.completes = false := by
  cases act with
  | asked query answer =>
    cases query <;> first
      | exact ⟨rfl, rfl, rfl, rfl⟩
      | exact absurd (beq_iff_eq.mp h) hb
  | requested user request answer => exact ⟨rfl, rfl, rfl, rfl⟩
  | lookedUp user key answer => exact ⟨rfl, rfl, rfl, rfl⟩
  | published event =>
    cases event <;> first
      | exact ⟨rfl, rfl, rfl, rfl⟩
      | exact absurd (beq_iff_eq.mp h) hb

/-- An operation in another business settles nothing. -/
theorem unpaid_obeys (op : Operation) (hb : op.business ≠ .paying)
    (hop : op.announces = false) :
    op.flow.Obeys (Diligent op) (fun acts _ => settlings acts = []) [] := by
  apply op.flow_proper.obeys (fun acts => settlings acts = []) _ rfl
  intro past act hpast hallows
  obtain ⟨hsettling, htarget, htells, hcompletes⟩ := Business.allows_unpaid hb hallows
  refine ⟨.of_silent (fun id hid => ?_) hop htells hcompletes, ?_⟩
  · rw [htarget] at hid
    cases hid
  · simp [hpast, hsettling]

/-! ## Asking for a payment -/

namespace Service.Payments

section Initiation

variable {op : Operation} {past : List Act} {payment : Payment} (hop : op.announces = false)
include hop

/-- What is read again is given, if it was found. -/
theorem latest_obeys : Call.Obeys (Diligent op) (fun acts r => ∃ got answer,
    r = .ok got ∧ acts = past ++ [.asked (.payment payment.id) answer] ∧
      ∀ stored, answer = .ok (some stored) → got = stored) past (latest payment) := by
  refine .attempt_bind (fun r => .of_silent (fun _ h => nomatch h) hop rfl rfl) fun r => ?_
  split
  · next stored =>
    exact .pure ⟨stored, _, rfl, rfl, fun _ h => by cases h; rfl⟩
  · next hother =>
    exact .pure ⟨payment, _, rfl, rfl, fun stored h => absurd h (hother stored)⟩

theorem markFailed_obeys (hnone : settlings past = [])
    (hknown : ∃ known ∈ toldIn past, known.id = payment.id) (reason : String) :
    Call.Obeys (Diligent op) (fun acts r => ∃ got, r = .ok got ∧ InitiationReport acts (some got))
      past (markFailed payment reason) := by
  refine .attempt_bind (fun r => .of_silent (fun id h => ?_) hop rfl rfl) fun r => ?_
  · cases h
    exact hknown
  · split
    · next failed =>
      exact .pure ⟨failed, rfl, .inr ⟨⟨payment.id, .failed, some failed⟩, failed,
        by simp [hnone, Act.settling?], rfl, .inl rfl⟩⟩
    · refine (latest_obeys hop).imp fun acts r hr => ?_
      obtain ⟨got, answer, rfl, rfl, hstored⟩ := hr
      refine ⟨got, rfl, .inr ⟨⟨payment.id, .failed, none⟩, got, ?_, rfl,
        .inr ⟨rfl, _, answer, rfl, hstored⟩⟩⟩
      rw [settlings_concat, settlings_concat, hnone]
      rfl
    · exact .pure ⟨payment, rfl, .inl (by simp [hnone, Act.settling?])⟩

theorem noteKey_obeys (hnone : settlings past = [])
    (hknown : ∃ known ∈ toldIn past, known.id = payment.id) (key : String) :
    Call.Obeys (Diligent op) (fun acts r => ∃ got, r = .ok got ∧ InitiationReport acts (some got))
      past (noteKey payment key) := by
  refine .attempt_bind (fun r => .of_silent (fun id h => ?_) hop rfl rfl) fun r => ?_
  · cases h
    exact hknown
  · split
    · next updated => exact .pure ⟨updated, rfl, .inl (by simp [hnone, Act.settling?])⟩
    · refine (latest_obeys hop).imp fun acts r hr => ?_
      obtain ⟨got, answer, rfl, rfl, -⟩ := hr
      refine ⟨got, rfl, .inl ?_⟩
      rw [settlings_concat, settlings_concat, hnone]
      rfl
    · exact .pure ⟨payment, rfl, .inl (by simp [hnone, Act.settling?])⟩

theorem initiate_obeys (hnone : settlings past = [])
    (hknown : ∃ known ∈ toldIn past, known.id = payment.id) (details : PaymentDetails) :
    Call.Obeys (Diligent op) (fun acts r => ∃ got, r = .ok got ∧ InitiationReport acts (some got))
      past (initiate payment details) := by
  refine .requestPayment_bind (fun r => .of_silent (fun _ h => nomatch h) hop rfl rfl) fun r => ?_
  have hnone' : settlings (past ++ [.requested payment.userId (requestFor payment details) r]) =
      [] := by
    simp [hnone, Act.settling?]
  have hknown' : ∃ known ∈ toldIn (past ++
      [.requested payment.userId (requestFor payment details) r]), known.id = payment.id := by
    simpa [Act.told] using hknown
  split
  · exact markFailed_obeys hop hnone' hknown' _
  · split
    · exact markFailed_obeys hop hnone' hknown' _
    · exact noteKey_obeys hop hnone' hknown' _

end Initiation

theorem payOrder_obeys (userId : Id) (request : PayOrderRequest) :
    Call.Obeys (Diligent (.payOrder userId request))
      (fun acts r => InitiationReport acts r.toOption) [] (payOrder userId request) := by
  have hop : (Operation.payOrder userId request).announces = false := rfl
  refine .ofExcept_bind (fun _ _ => ?_) fun f _ => .inl rfl
  refine .bind (fun acts _ => settlings acts = []) ?_ (fun acts order hnone => ?_)
    fun acts f hnone => .inl hnone
  · refine .query_bind (fun r => .of_silent (fun _ h => nomatch h) hop rfl rfl) (fun found => ?_)
      fun f => rfl
    cases found.filter (·.userId == userId) <;> exact ⟨rfl⟩
  · refine .guard (fun _ => .inl hnone) fun _ => .guard (fun _ => .inl hnone) fun _ => ?_
    refine .query_bind (fun r => .of_silent (fun _ h => nomatch h) hop rfl rfl) (fun payment => ?_)
      fun f => .inl ?_
    · refine (initiate_obeys hop ?_ ?_ request.payment).imp fun acts r hr => ?_
      · rw [settlings_concat, hnone]
        rfl
      · rw [toldIn_concat]
        exact ⟨payment, List.mem_append_right _ (List.mem_singleton.mpr rfl), rfl⟩
      · obtain ⟨got, rfl, hreport⟩ := hr
        exact hreport
    · rw [settlings_concat, hnone]
      rfl

theorem placeOrder_obeys (order : NewOrder) :
    Call.Obeys (Diligent (.placeOrder order))
      (fun acts r => InitiationReport acts (r.toOption.bind (·.payment))) []
      (placeOrder order) := by
  have hop : (Operation.placeOrder order).announces = false := rfl
  refine .bind (fun acts r => settlings acts = [] ∧
    ∀ placed, r = .ok placed → ∀ payment ∈ placed.payment, payment ∈ toldIn acts) ?_ ?_ ?_
  · refine .ofExcept_bind (fun _ _ => ?_) fun f _ => ⟨rfl, fun _ h => nomatch h⟩
    refine .query (fun r => .of_silent (fun _ h => nomatch h) hop rfl rfl) fun r => ⟨?_, ?_⟩
    · cases r <;> rfl
    · rintro placed rfl payment hp
      simpa [toldIn, Act.told] using hp
  · rintro acts placed ⟨hnone, htold⟩
    split
    · next payment details hp hd =>
      refine .bind _ (initiate_obeys hop hnone ⟨payment, htold placed rfl payment hp, rfl⟩ details)
        (fun acts got hgot => ?_) fun acts f hf => ?_
      · obtain ⟨_, hsame, hreport⟩ := hgot
        cases hsame
        exact .pure hreport
      · obtain ⟨_, hsame, -⟩ := hf
        cases hsame
    · exact .pure (.inl hnone)
  · exact fun acts f h => .inl h.1

/-! ## Callbacks -/

section Callbacks

variable {callback : PaymentCallback}

/-- What has settled nothing, and has nothing to announce, says neither. -/
theorem settles_nothing (acts : List Act) {act : Act} {r : Except Fault CallbackOutcome}
    (hacts : settlings acts = []) (hact : act.settling? = none) (hnews : act.news? = none)
    (hcompleted : r ≠ .ok .completed) (hfailed : r ≠ .ok .failed) :
    Settles (.handleCallback callback) (acts ++ [act]) r := by
  refine ⟨.inl ⟨?_, hcompleted, hfailed⟩, fun _ => ?_⟩
  · rw [settlings_concat, hacts, hact]
    rfl
  · rw [newsIn_concat, hnews]

variable {past : List Act} {payment : Payment} (hnone : settlings past = [])
  (hquiet : newsIn past = none) (hknown : payment ∈ toldIn past)
include hnone hquiet hknown

/-- A settling update that matched is announced, and one that did not makes a duplicate. -/
theorem settle_obeys {q : Query (Option Payment)} (status : PaymentStatus)
    {event : Payment → Event} {word : CallbackOutcome}
    (htarget : ∀ r, (Act.asked q r).target? = some payment.id)
    (hsettling : ∀ outcome,
      (Act.asked q (.ok outcome)).settling? = some ⟨payment.id, status, outcome⟩)
    (hnews : ∀ p, (Act.asked q (.ok (some p))).news? = some (event p))
    (hmissed : ∀ f, (Act.asked q (.error f)).settling? = none ∧
      (Act.asked q (.error f)).news? = none)
    (hword : ∀ p, (Settlement.mk payment.id status (some p)).word = word)
    (hduplicate : (Act.asked q (.ok none)).news? = none) :
    Call.Obeys (Diligent (.handleCallback callback)) (Settles (.handleCallback callback)) past
      (do match ← Call.query q with
          | some settled =>
            Call.publish (event settled)
            return word
          | none => return .duplicate) := by
  refine .query_bind (fun r => .of_quiet (fun id h => ?_) hquiet rfl fun _ => rfl)
    (fun outcome => ?_)
    fun f => settles_nothing _ hnone (hmissed f).1 (hmissed f).2 nofun nofun
  · rw [htarget] at h
    cases h
    exact ⟨payment, hknown, rfl⟩
  · cases outcome with
    | some settled =>
      refine .publish_bind (.of_news ?_)
        (.pure ⟨.inr ⟨⟨payment.id, status, some settled⟩, ?_, congrArg _ (hword settled).symm⟩,
          fun _ => ?_⟩)
      · rw [newsIn_concat, hnews]
      · rw [settlings_concat, settlings_concat, hnone, hsettling]
        rfl
      · rw [newsIn_concat]
        rfl
    | none =>
      refine .pure ⟨.inr ⟨⟨payment.id, status, none⟩, ?_, rfl⟩, fun _ => ?_⟩
      · rw [settlings_concat, hnone, hsettling]
        rfl
      · rw [newsIn_concat, hduplicate]

theorem complete_obeys : Call.Obeys (Diligent (.handleCallback callback))
    (Settles (.handleCallback callback)) past (complete payment) := by
  refine .fetchTransaction_bind
    (fun r => .of_quiet (fun _ h => nomatch h) hquiet rfl fun h => nomatch h)
    (fun transaction => ?_)
    fun f => settles_nothing _ hnone rfl rfl nofun nofun
  refine .guard (fun _ => settles_nothing _ hnone rfl rfl nofun nofun) fun _ => ?_
  refine settle_obeys ?_ ?_ ?_ .completed (fun _ => rfl) (fun _ => rfl) (fun _ => rfl)
    (fun _ => ⟨rfl, rfl⟩) (fun _ => rfl) rfl
  · rw [settlings_concat, hnone]
    rfl
  · rw [newsIn_concat]
    rfl
  · rw [toldIn_concat]
    exact List.mem_append_left _ hknown

theorem fail_obeys (reason : String) : Call.Obeys (Diligent (.handleCallback callback))
    (Settles (.handleCallback callback)) past (fail payment reason) :=
  settle_obeys hnone hquiet hknown .failed (fun _ => rfl) (fun _ => rfl)
    (fun _ => rfl) (fun _ => ⟨rfl, rfl⟩) (fun _ => rfl) rfl

end Callbacks

theorem handleCallback_obeys (callback : PaymentCallback) :
    Call.Obeys (Diligent (.handleCallback callback)) (Settles (.handleCallback callback)) []
      (handleCallback callback) := by
  refine .query_bind (fun r => .of_quiet (fun _ h => nomatch h) rfl rfl fun h => nomatch h)
    (fun found => ?_) fun f => settles_nothing [] rfl rfl rfl nofun nofun
  refine .orFail_bind (fun payment hfound => ?_)
    fun _ => settles_nothing [] rfl rfl rfl nofun nofun
  subst hfound
  split
  · exact .pure (settles_nothing [] rfl rfl rfl nofun nofun)
  · refine .guard (fun _ => settles_nothing [] rfl rfl rfl nofun nofun) fun _ => ?_
    have hknown : payment ∈ toldIn ([] ++
        [.asked (.paymentWithKey callback.transactionKey) (.ok (some payment))]) :=
      List.mem_singleton.mpr rfl
    split
    · exact .pure (settles_nothing [] rfl rfl rfl nofun nofun)
    · exact complete_obeys rfl rfl hknown
    · exact fail_obeys rfl rfl hknown _

/-! ## Sweeps -/

/-- The payments of a sweep were told, and each that still matches is announced and given. -/
theorem expireAll_obeys {cutoff : Moment} (payments : List Payment) {past : List Act}
    (hquiet : newsIn past = none) (hknown : payments ⊆ toldIn past) :
    Call.Obeys (Diligent (.expireStale cutoff)) (fun acts r => newsIn acts = none ∧
      match r with
      | .ok expired => (settlings acts).filterMap (·.outcome) =
          (settlings past).filterMap (·.outcome) ++ expired
      | .error _ => ∃ act ∈ acts, act.failed = true) past (expireAll payments) := by
  induction payments generalizing past with
  | nil => exact .pure ⟨hquiet, by simp⟩
  | cons payment payments ih =>
    have hrest : ∀ act : Act, payments ⊆ toldIn (past ++ [act]) := by
      intro act
      rw [toldIn_concat]
      exact List.subset_append_of_subset_left _ fun p hp => hknown (List.mem_cons_of_mem _ hp)
    refine .query_bind (fun r => .of_quiet (fun id h => ?_) hquiet rfl fun h => nomatch h)
      (fun outcome => ?_) fun f => ⟨?_, ?_⟩
    · cases h
      exact ⟨payment, hknown List.mem_cons_self, rfl⟩
    · cases outcome with
      | some failed =>
        refine .publish_bind (.of_news ?_) ?_
        · rw [newsIn_concat]
          rfl
        · refine .bind _ (ih ?_ ?_) (fun acts expired hrest => ?_) fun acts f hrest => hrest
          · rw [newsIn_concat]
            rfl
          · intro p hp
            rw [toldIn_concat]
            exact List.mem_append_left _ (hrest _ hp)
          · refine .pure ⟨hrest.1, ?_⟩
            have hgave := hrest.2
            simp only [settlings_concat] at hgave
            simpa [Act.settling?] using hgave
      | none =>
        refine (ih ?_ (hrest _)).imp fun acts r hr => ?_
        · rw [newsIn_concat]
          rfl
        · refine ⟨hr.1, ?_⟩
          have hgave := hr.2
          simp only [settlings_concat] at hgave
          simpa [Act.settling?] using hgave
    · rw [newsIn_concat]
      rfl
    · exact ⟨_, List.mem_append_right _ (List.mem_singleton.mpr rfl), rfl⟩

theorem expireStale_obeys (cutoff : Moment) :
    Call.Obeys (Diligent (.expireStale cutoff)) (Settles (.expireStale cutoff)) []
      (expireStale cutoff) := by
  refine .query_bind (fun r => .of_quiet (fun _ h => nomatch h) rfl rfl fun h => nomatch h)
    (fun payments => ?_) fun f => ⟨⟨_, List.mem_singleton.mpr rfl, rfl⟩, fun _ => rfl⟩
  refine (expireAll_obeys payments rfl ?_).imp fun acts r hr => ⟨?_, fun _ => hr.1⟩
  · simp [toldIn, Act.told]
  · cases r with
    | ok expired => exact hr.2.symm
    | error f => exact hr.2

end Service.Payments

/-! ## All operations -/

theorem obeys_all (op : Operation) : op.flow.Obeys (Diligent op) (Settles op) [] := by
  have hunpaid : op.business ≠ .paying → op.announces = false →
      op.flow.Obeys (Diligent op) (fun acts _ => settlings acts = []) [] := unpaid_obeys op
  cases op
  case placeOrder order =>
    exact (Payments.placeOrder_obeys order).flow.imp fun acts r hr => ⟨hr, nofun⟩
  case payOrder userId request =>
    exact (Payments.payOrder_obeys userId request).flow.imp fun acts r hr => ⟨hr, nofun⟩
  case handleCallback callback => exact (Payments.handleCallback_obeys callback).flow
  case expireStale cutoff => exact (Payments.expireStale_obeys cutoff).flow
  all_goals exact (hunpaid nofun rfl).imp fun acts r hr => ⟨hr, nofun⟩

/-- However the steps of calls interleave, each call is diligent, and answers what came of it. -/
theorem diligent_after (deeds : List Deed) : (Shop.after deeds).Following Diligent Settles :=
  Shop.following_after obeys_all deeds

end Checkout
