-- What each call announces. What a call has changed and is to announce it
-- announces as its very next step, and nothing else is ever announced. So at
-- any time, all that was announced or is announced next is what the calls
-- have brought about, each thing once.
import Checkout.Proofs.Shop.Moves
import Checkout.Proofs.Shop.Settling

namespace Checkout

open Store Service

/-! ## What is to be announced -/

/-- The event that was announced. -/
def Act.announced? : Act → Option Event
  | .published event => some event
  | _ => none

namespace Service.Operation

/-- The event that an act calls for. A change of an order is announced by whoever made it, and a
settled payment by who is to announce it. -/
def tidings? (op : Operation) : Act → Option Event
  | .asked (.confirmOrder _) (.ok o) => some (.orderConfirmed o)
  | .asked (.cancelOrder _) (.ok o) => some (.orderCancelled o)
  | act => if op.announces then act.news? else none

/-- The event that the last act still has to be followed by. -/
def due? (op : Operation) (acts : List Act) : Option Event := acts.getLast?.bind op.tidings?

@[simp] theorem due?_concat (op : Operation) (acts : List Act) (act : Act) :
    op.due? (acts ++ [act]) = op.tidings? act := by
  simp [due?]

/-- What moves no order and settles no payment calls for nothing. -/
theorem tidings?_eq_none (op : Operation) {act : Act} (hmove : act.move? = none)
    (hnews : act.news? = none) : op.tidings? act = none := by
  unfold tidings?
  split
  · cases hmove
  · cases hmove
  · simp [hnews]

end Service.Operation

/-- What is due is announced, and nothing else. -/
def Prompt (op : Operation) (past : List Act) (act : Act) : Prop := act.announced? = op.due? past

/-- Nothing is due. -/
def Quits (op : Operation) (acts : List Act) (_answer : op.Answer) : Prop := op.due? acts = none

/-! ## Calls on orders -/

namespace Service

variable {op : Operation} {past : List Act} {α : Type}

/-- The call is prompt, and leaves nothing to announce. -/
abbrev Call.Prompt (op : Operation) (past : List Act) (c : Call α) : Prop :=
  Call.Obeys (Checkout.Prompt op) (fun acts _ => op.due? acts = none) past c

/-- An operation that does not announce payments has nothing to announce but what it moves. -/
theorem due?_unmoved (hop : op.announces = false) {act : Act} (hmove : act.move? = none) :
    op.due? (past ++ [act]) = none := by
  rw [Operation.due?_concat]
  unfold Operation.tidings?
  split
  · cases hmove
  · cases hmove
  · simp [hop]

/-- An operation in no business of its own announces nothing. -/
theorem plain_prompt (hop : op.announces = false) (hb : op.business = .plain) :
    op.flow.Obeys (Prompt op) (Quits op) [] := by
  have hproper := op.flow_proper
  rw [hb] at hproper
  refine hproper.obeys (fun acts => op.due? acts = none) (fun past act hpast hallows => ?_) rfl
  obtain ⟨hmove, hsilent⟩ : act.move? = none ∧ act.announced? = none := by
    cases act with
    | asked query answer => cases query <;> first | exact ⟨rfl, rfl⟩ | cases hallows
    | requested user request answer => exact ⟨rfl, rfl⟩
    | lookedUp user key answer => exact ⟨rfl, rfl⟩
    | published event => cases event <;> cases hallows
  exact ⟨hsilent.trans hpast.symm, due?_unmoved hop hmove⟩

section Orders

variable (id : Id) (hpast : op.due? past = none)
include hpast

omit id in
/-- A change of an order is announced as soon as it is stored. -/
theorem announced_prompt {q : Query Order} {tells : Order → Event}
    (hok : ∀ order, op.tidings? (.asked q (.ok order)) = some (tells order))
    (herror : ∀ f, op.tidings? (.asked q (.error f)) = none) :
    Call.Prompt op past (do
      let order ← Call.query q
      Call.publish (tells order)
      return order) := by
  refine .query_bind (fun r => hpast.symm) (fun order => ?_) fun f => ?_
  · refine .publish_bind ?_ (.pure ?_)
    · rw [Prompt, Operation.due?_concat, hok]
      rfl
    · rw [Operation.due?_concat, Operation.tidings?_eq_none _ rfl rfl]
  · rw [Operation.due?_concat, herror]

theorem Orders.confirm_prompt : Call.Prompt op past (Orders.confirm id) :=
  announced_prompt hpast (fun _ => rfl) fun f => by simp [Operation.tidings?, Act.news?]

theorem Orders.cancel_prompt : Call.Prompt op past (Orders.cancel id) :=
  announced_prompt hpast (fun _ => rfl) fun f => by simp [Operation.tidings?, Act.news?]

theorem Orders.fetchForUser_prompt (hop : op.announces = false) (userId : Id) :
    Call.Prompt op past (Orders.fetchForUser userId id) := by
  refine .query_bind (fun r => hpast.symm) (fun found => ?_) fun f => due?_unmoved hop rfl
  cases found.filter (·.userId == userId) <;> exact ⟨due?_unmoved hop rfl⟩

theorem Orders.confirmForUser_prompt (hop : op.announces = false) (userId : Id) :
    Call.Prompt op past (Orders.confirmForUser userId id) :=
  .bind _ (Orders.fetchForUser_prompt id hpast hop userId)
    (fun _ _ h => Orders.confirm_prompt id h) fun _ _ h => h

theorem Orders.cancelForUser_prompt (hop : op.announces = false) (userId : Id) :
    Call.Prompt op past (Orders.cancelForUser userId id) :=
  .bind _ (Orders.fetchForUser_prompt id hpast hop userId)
    (fun _ _ h => Orders.cancel_prompt id h) fun _ _ h => h

end Orders

theorem Settlement.handle_prompt (event : Event) :
    (Operation.settle event).flow.Obeys (Prompt (.settle event)) (Quits (.settle event)) [] := by
  cases event with
  | paymentCompleted payment =>
    exact persist_obeys (fun _ h => h) (fun _ h => Orders.confirm_prompt _ h) _ (.inl rfl)
  | paymentFailed payment reason =>
    exact persist_obeys (fun _ h => h) (fun _ h => Orders.cancel_prompt _ h) _ (.inl rfl)
  | orderConfirmed order => rfl
  | orderCancelled order => rfl

/-! ## Asking for a payment -/

namespace Payments

section Initiation

variable (hop : op.announces = false)
include hop

theorem latest_prompt (hpast : op.due? past = none) (payment : Payment) :
    Call.Prompt op past (latest payment) := by
  refine .attempt_bind (fun r => hpast.symm) fun r => ?_
  split <;> exact .pure (due?_unmoved hop rfl)

theorem markFailed_prompt (hpast : op.due? past = none) (payment : Payment) (reason : String) :
    Call.Prompt op past (markFailed payment reason) := by
  refine .attempt_bind (fun r => hpast.symm) fun r => ?_
  split
  · exact .pure (due?_unmoved hop rfl)
  · exact latest_prompt hop (due?_unmoved hop rfl) payment
  · exact .pure (due?_unmoved hop rfl)

theorem noteKey_prompt (hpast : op.due? past = none) (payment : Payment) (key : String) :
    Call.Prompt op past (noteKey payment key) := by
  refine .attempt_bind (fun r => hpast.symm) fun r => ?_
  split
  · exact .pure (due?_unmoved hop rfl)
  · exact latest_prompt hop (due?_unmoved hop rfl) payment
  · exact .pure (due?_unmoved hop rfl)

theorem initiate_prompt (hpast : op.due? past = none) (payment : Payment)
    (details : PaymentDetails) : Call.Prompt op past (initiate payment details) := by
  refine .requestPayment_bind (fun r => hpast.symm) fun r => ?_
  have hasked : op.due? (past ++ [.requested payment.userId (requestFor payment details) r]) =
      none := due?_unmoved hop rfl
  split
  · exact markFailed_prompt hop hasked payment _
  · split
    · exact markFailed_prompt hop hasked payment _
    · exact noteKey_prompt hop hasked payment _

end Initiation

theorem placeOrder_prompt (order : NewOrder) :
    Call.Prompt (.placeOrder order) [] (placeOrder order) := by
  have hop : (Operation.placeOrder order).announces = false := rfl
  refine .bind (fun acts _ => (Operation.placeOrder order).due? acts = none) ?_
    (fun acts placed hpast => ?_) fun _ _ h => h
  · exact .ofExcept_bind (fun _ _ => .query (fun _ => rfl) fun _ => due?_unmoved hop rfl)
      fun _ _ => rfl
  · split
    · exact .bind _ (initiate_prompt hop hpast _ _) (fun _ _ h => .pure h) fun _ _ h => h
    · exact .pure hpast

theorem payOrder_prompt (userId : Id) (request : PayOrderRequest) :
    Call.Prompt (.payOrder userId request) [] (payOrder userId request) := by
  have hop : (Operation.payOrder userId request).announces = false := rfl
  refine .ofExcept_bind (fun _ _ => ?_) fun _ _ => rfl
  refine .bind _ (Orders.fetchForUser_prompt _ rfl hop userId) (fun acts order hpast => ?_)
    fun _ _ h => h
  refine .guard (fun _ => hpast) fun _ => .guard (fun _ => hpast) fun _ => ?_
  exact .query_bind (fun _ => hpast.symm)
    (fun payment => initiate_prompt hop (due?_unmoved hop rfl) payment _)
    fun _ => due?_unmoved hop rfl

/-! ## Callbacks and sweeps -/

/-- Who is to announce payments has nothing to announce but those that were settled. -/
theorem due?_unsettled {act : Act} (hmove : act.move? = none) (hnews : act.news? = none) :
    op.due? (past ++ [act]) = none := by
  rw [Operation.due?_concat, op.tidings?_eq_none hmove hnews]

theorem due?_settled (hop : op.announces = true) {act : Act} {event : Event}
    (hmove : act.move? = none) (hnews : act.news? = some event) : op.due? (past ++ [act]) = some event := by
  rw [Operation.due?_concat]
  unfold Operation.tidings?
  split
  · cases hmove
  · cases hmove
  · simp [hop, hnews]

section Callbacks

variable {callback : PaymentCallback} (hpast : (Operation.handleCallback callback).due? past = none)
  (payment : Payment)
include hpast

theorem complete_prompt : Call.Prompt (.handleCallback callback) past (complete payment) := by
  have hquiet : ∀ {past act}, act.move? = none → act.news? = none →
      (Operation.handleCallback callback).due? (past ++ [act]) = none := due?_unsettled
  refine .fetchTransaction_bind (fun _ => hpast.symm) (fun transaction => ?_) fun f => hquiet rfl rfl
  refine .guard (fun _ => hquiet rfl rfl) fun _ => ?_
  refine .query_bind (fun _ => (hquiet rfl rfl).symm) (fun outcome => ?_) fun _ => hquiet rfl rfl
  cases outcome with
  | some completed =>
    exact .publish_bind (due?_settled rfl rfl rfl).symm (.pure (hquiet rfl rfl))
  | none => exact .pure (hquiet rfl rfl)

theorem fail_prompt (reason : String) :
    Call.Prompt (.handleCallback callback) past (fail payment reason) := by
  have hop : (Operation.handleCallback callback).announces = true := rfl
  refine .query_bind (fun _ => hpast.symm) (fun outcome => ?_) fun _ => due?_unsettled rfl rfl
  cases outcome with
  | some failed =>
    exact .publish_bind (due?_settled hop rfl rfl).symm (.pure (due?_unsettled rfl rfl))
  | none => exact .pure (due?_unsettled rfl rfl)

end Callbacks

theorem handleCallback_prompt (callback : PaymentCallback) :
    Call.Prompt (.handleCallback callback) [] (handleCallback callback) := by
  have hquiet : ∀ {past : List Act} {act : Act}, act.move? = none → act.news? = none →
      (Operation.handleCallback callback).due? (past ++ [act]) = none := due?_unsettled
  refine .query_bind (fun _ => rfl) (fun found => ?_) fun _ => hquiet rfl rfl
  refine .orFail_bind (fun payment _ => ?_) fun _ => hquiet rfl rfl
  split
  · exact .pure (hquiet rfl rfl)
  · refine .guard (fun _ => hquiet rfl rfl) fun _ => ?_
    split
    · exact .pure (hquiet rfl rfl)
    · exact complete_prompt (hquiet rfl rfl) payment
    · exact fail_prompt (hquiet rfl rfl) payment _

theorem expireAll_prompt {cutoff : Moment} (payments : List Payment)
    (hpast : (Operation.expireStale cutoff).due? past = none) :
    Call.Prompt (.expireStale cutoff) past (expireAll payments) := by
  have hop : (Operation.expireStale cutoff).announces = true := rfl
  induction payments generalizing past with
  | nil => exact .pure hpast
  | cons payment payments ih =>
    refine .query_bind (fun _ => hpast.symm) (fun outcome => ?_) fun _ => due?_unsettled rfl rfl
    cases outcome with
    | some failed =>
      exact .publish_bind (due?_settled hop rfl rfl).symm
        (.bind _ (ih (due?_unsettled rfl rfl)) (fun _ _ h => .pure h) fun _ _ h => h)
    | none => exact ih (due?_unsettled rfl rfl)

theorem expireStale_prompt (cutoff : Moment) :
    Call.Prompt (.expireStale cutoff) [] (expireStale cutoff) :=
  .query_bind (fun _ => rfl) (fun payments => expireAll_prompt payments (due?_unsettled rfl rfl))
    fun _ => due?_unsettled rfl rfl

end Payments

end Service

/-! ## All operations -/

theorem prompt_all (op : Operation) : op.flow.Obeys (Prompt op) (Quits op) [] := by
  cases op
  case confirmOrder id => exact (Orders.confirm_prompt id rfl).flow
  case confirmForUser userId id => exact (Orders.confirmForUser_prompt id rfl rfl userId).flow
  case cancelOrder id => exact (Orders.cancel_prompt id rfl).flow
  case cancelForUser userId id => exact (Orders.cancelForUser_prompt id rfl rfl userId).flow
  case archiveOrder id => exact fun _ => ⟨rfl, due?_unmoved rfl rfl⟩
  case placeOrder order => exact (Payments.placeOrder_prompt order).flow
  case payOrder userId request => exact (Payments.payOrder_prompt userId request).flow
  case handleCallback callback => exact (Payments.handleCallback_prompt callback).flow
  case expireStale cutoff => exact (Payments.expireStale_prompt cutoff).flow
  case settle event => exact Settlement.handle_prompt event
  all_goals exact plain_prompt rfl rfl

/-- However the steps of calls interleave, each call announces at once what it is to. -/
theorem prompt_after (deeds : List Deed) : (Shop.after deeds).Following Prompt Quits :=
  Shop.following_after prompt_all deeds

end Checkout
