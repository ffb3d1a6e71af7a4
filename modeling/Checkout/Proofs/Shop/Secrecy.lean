-- Card numbers stay between the user and the processor. If the card numbers in
-- a run are replaced by others that look the same once they are masked, then
-- nothing but the requests to the processor shows it: neither the tables nor
-- the answers nor the events nor the logs.
import Checkout.Proofs.Card
import Checkout.Proofs.Shop.Announcements

namespace Checkout

open Store Service

/-! ## Related side by side -/

section Pairs

variable {α β : Type*} {R : α → β → Prop} {as : List α} {bs : List β}

/-- There is something on both sides, or on neither. -/
theorem rel_cases {a? : Option α} {b? : Option β} (h : Option.Rel R a? b?) :
    (a? = none ∧ b? = none) ∨ ∃ a b, a? = some a ∧ b? = some b ∧ R a b := by
  cases h with
  | none => exact .inl ⟨rfl, rfl⟩
  | some hab => exact .inr ⟨_, _, rfl, rfl, hab⟩

theorem forall₂_getElem? (h : List.Forall₂ R as bs) (n : Nat) : Option.Rel R as[n]? bs[n]? := by
  induction h generalizing n with
  | nil => exact .none
  | cons hab h ih =>
    cases n with
    | zero => exact .some hab
    | succ n => exact ih n

theorem forall₂_set (h : List.Forall₂ R as bs) (n : Nat) {a : α} {b : β} (hab : R a b) :
    List.Forall₂ R (as.set n a) (bs.set n b) := by
  induction h generalizing n with
  | nil => exact .nil
  | cons hfirst h ih =>
    cases n with
    | zero => exact .cons hab h
    | succ n => exact .cons hfirst (ih n)

theorem eq_of_forall₂ {as' : List α} (h : List.Forall₂ (fun a a' => a' = a) as as') : as' = as := by
  rw [← List.forall₂_eq_eq_eq]
  exact List.Forall₂.flip h

end Pairs

/-! ## Orders and operations that look the same -/

/-- The orders differ at most in the card number, and that looks the same. -/
structure NewOrder.Resembles (order order' : NewOrder) : Prop where
  userId : order'.userId = order.userId
  lines : order'.lines = order.lines
  payment : Option.Rel PaymentDetails.Resembles order.payment order'.payment

structure PayOrderRequest.Resembles (request request' : PayOrderRequest) : Prop where
  orderId : request'.orderId = request.orderId
  amount : request'.amount = request.amount
  payment : request.payment.Resembles request'.payment

namespace NewOrder.Resembles

variable {order order' : NewOrder}

theorem validate_eq (h : order.Resembles order') : order'.validate = order.validate := by
  rw [validate, validate, h.lines]
  rcases rel_cases h.payment with ⟨hnone, hnone'⟩ | ⟨d, d', hsome, hsome', hdetails⟩
  · rw [hnone, hnone']
  · simp only [hsome, hsome', hdetails.validate_eq]

/-- The same order is placed, down to its payment. -/
theorem place_eq (h : order.Resembles order') :
    Store.Orders.place order' = Store.Orders.place order := by
  have hpay : ∀ stored, Store.Orders.payWith stored order'.payment =
      Store.Orders.payWith stored order.payment := by
    intro stored
    rcases rel_cases h.payment with ⟨hnone, hnone'⟩ | ⟨d, d', hsome, hsome', hdetails⟩
    · rw [hnone, hnone']
    · rw [hsome, hsome', Store.Orders.payWith, Store.Orders.payWith, hdetails.forOrder_eq]
  unfold Store.Orders.place
  simp only [h.userId, h.lines, hpay]

end NewOrder.Resembles

/-- The queries are the same, or place orders that look the same. -/
inductive Store.Query.Resembles : {α : Type} → Query α → Query α → Prop where
  | refl {α : Type} (q : Query α) : q.Resembles q
  | placeOrder {order order' : NewOrder} (h : order.Resembles order') :
    (Query.placeOrder order).Resembles (.placeOrder order')

theorem Store.Query.Resembles.answer_eq {α : Type} {q q' : Query α} (h : q.Resembles q')
    (c : Conditions) (t : Tables) : q'.answer c t = q.answer c t := by
  cases h with
  | refl q => rfl
  | placeOrder h => simp only [Query.answer, Query.work, h.place_eq]

inductive Service.Operation.Resembles : Operation → Operation → Prop where
  | refl (op : Operation) : op.Resembles op
  | createOrder {order order' : NewOrder} (h : order.Resembles order') :
    (Operation.createOrder order).Resembles (.createOrder order')
  | placeOrder {order order' : NewOrder} (h : order.Resembles order') :
    (Operation.placeOrder order).Resembles (.placeOrder order')
  | payOrder (userId : Id) {request request' : PayOrderRequest} (h : request.Resembles request') :
    (Operation.payOrder userId request).Resembles (.payOrder userId request')

/-! ## Flows that look the same -/

/-- The request that was sent to the processor. -/
def Act.request? : Act → Option Gateway.PaymentRequest
  | .requested _ request _ => some request
  | _ => none

/-- Both acts were the same, but for the card number in a request to the processor. -/
inductive Act.Resembles : Act → Act → Prop where
  | asked {α : Type} {q q' : Query α} (h : q.Resembles q') (answer : Except Fault α) :
    (Act.asked q answer).Resembles (.asked q' answer)
  | requested (user : Id) {r r' : Gateway.PaymentRequest} (h : r.Resembles r')
    (answer : Except Gateway.Fault Gateway.Receipt) :
    (Act.requested user r answer).Resembles (.requested user r' answer)
  | lookedUp (user : Id) (key : String) (answer : Except Gateway.Fault Gateway.Transaction) :
    (Act.lookedUp user key answer).Resembles (.lookedUp user key answer)
  | published (event : Event) : (Act.published event).Resembles (.published event)

namespace Service.Flow

/-- Whatever they are told, both flows do acts that look the same, and end with the same value. -/
inductive Resembles : {α α' : Type} → Flow α → Flow α' → Prop where
  | done {α : Type} (a : α) : (Flow.done a).Resembles (.done a)
  | ask {α α' β : Type} {q q' : Query β} {next : Except Fault β → Flow α}
    {next' : Except Fault β → Flow α'} (hq : q.Resembles q')
    (h : ∀ r, (next r).Resembles (next' r)) : (Flow.ask q next).Resembles (.ask q' next')
  | requestPayment {α α' : Type} (user : Id) {r r' : Gateway.PaymentRequest}
    {next : Except Gateway.Fault Gateway.Receipt → Flow α}
    {next' : Except Gateway.Fault Gateway.Receipt → Flow α'} (hr : r.Resembles r')
    (h : ∀ receipt, (next receipt).Resembles (next' receipt)) :
    (Flow.requestPayment user r next).Resembles (.requestPayment user r' next')
  | fetchTransaction {α α' : Type} (user : Id) (key : String)
    {next : Except Gateway.Fault Gateway.Transaction → Flow α}
    {next' : Except Gateway.Fault Gateway.Transaction → Flow α'}
    (h : ∀ transaction, (next transaction).Resembles (next' transaction)) :
    (Flow.fetchTransaction user key next).Resembles (.fetchTransaction user key next')
  | publish {α α' : Type} (event : Event) {next : Flow α} {next' : Flow α'}
    (h : next.Resembles next') : (Flow.publish event next).Resembles (.publish event next')

/-- The value that a flow has ended with. -/
def answer? {α : Type} : Flow α → Option ((β : Type) × β)
  | .done a => some ⟨α, a⟩
  | _ => none

namespace Resembles

variable {α α' β : Type} {f : Flow α} {f' : Flow α'}

theorem refl (f : Flow α) : f.Resembles f := by
  induction f with
  | done a => exact .done a
  | ask query next ih => exact .ask (.refl query) ih
  | requestPayment user request next ih => exact .requestPayment user ⟨rfl, rfl⟩ ih
  | fetchTransaction user key next ih => exact .fetchTransaction user key ih
  | publish event next ih => exact .publish event ih

/-- Values of different types cannot be told apart here, so that the induction goes through. -/
theorem bind_heq (hf : f.Resembles f') {next : α → Flow β} {next' : α' → Flow β}
    (hnext : ∀ a a', HEq a a' → (next a).Resembles (next' a')) :
    (f >>= next).Resembles (f' >>= next') := by
  induction hf with
  | done a => exact hnext a a .rfl
  | ask hq h ih => exact .ask hq fun r => ih r hnext
  | requestPayment user hr h ih => exact .requestPayment user hr fun r => ih r hnext
  | fetchTransaction user key h ih => exact .fetchTransaction user key fun r => ih r hnext
  | publish event h ih => exact .publish event (ih hnext)

theorem bind {f' : Flow α} (hf : f.Resembles f') {next next' : α → Flow β}
    (hnext : ∀ a, (next a).Resembles (next' a)) : (f >>= next).Resembles (f' >>= next') :=
  hf.bind_heq fun _ _ h => eq_of_heq h ▸ hnext _

theorem answer?_eq (h : f.Resembles f') : f'.answer? = f.answer? := by
  cases h <;> rfl

/-- Both flows have a step to make, or none. -/
theorem step (h : f.Resembles f') (around : Surroundings) (t : Tables) :
    (f.step around t = none ∧ f'.step around t = none) ∨
      ∃ (act act' : Act) (rest : Flow α) (rest' : Flow α') (t' : Tables),
        f.step around t = some (act, rest, t') ∧ f'.step around t = some (act', rest', t') ∧
          act.Resembles act' ∧ rest.Resembles rest' := by
  cases h with
  | done a => exact .inl ⟨rfl, rfl⟩
  | @ask _ _ q q' next next' hq h =>
    let answered := q.answer around.conditions t
    refine .inr ⟨.asked q answered.1, .asked q' answered.1, next answered.1, next' answered.1,
      answered.2, rfl, ?_, .asked hq _, h _⟩
    rw [Flow.step, hq.answer_eq]
  | requestPayment user hr h => exact .inr ⟨_, _, _, _, _, rfl, rfl, .requested user hr _, h _⟩
  | fetchTransaction user key h => exact .inr ⟨_, _, _, _, _, rfl, rfl, .lookedUp user key _, h _⟩
  | publish event h => exact .inr ⟨_, _, _, _, _, rfl, rfl, .published event, h⟩

end Resembles

end Service.Flow

/-! ## Calls that look the same -/

namespace Service.Call

variable {α β : Type}

/-- What holds of flows that look the same holds of the calls that they are. -/
structure Resembles (c c' : Call α) : Prop where
  flow : Flow.Resembles c.run c'.run

namespace Resembles

variable {c c' : Call α} {next next' : α → Call β}

theorem refl (c : Call α) : c.Resembles c := ⟨.refl c.run⟩

theorem bind (hc : c.Resembles c') (hnext : ∀ a, (next a).Resembles (next' a)) :
    (c >>= next).Resembles (c' >>= next') := by
  refine ⟨hc.flow.bind fun r => ?_⟩
  cases r with
  | ok a => exact (hnext a).flow
  | error f => exact .done _

theorem guard {broken : Prop} [Decidable broken] (f : Fault) {c c' : Call α}
    (h : c.Resembles c') :
    Resembles (if broken then (do let _ : Unit ← Call.fail f; c) else c)
      (if broken then (do let _ : Unit ← Call.fail f; c') else c') := by
  split
  · exact .bind (.refl _) fun _ => h
  · exact h

end Resembles

end Service.Call

namespace Service

theorem Orders.create_resembles {order order' : NewOrder} (h : order.Resembles order') :
    (Orders.create order).Resembles (Orders.create order') := by
  unfold Orders.create
  rw [h.validate_eq]
  exact .bind (.refl _) fun _ => ⟨.ask (.placeOrder h) fun _ => .done _⟩

namespace Payments

theorem initiate_resembles {d d' : PaymentDetails} (h : d.Resembles d') (payment : Payment) :
    (initiate payment d).Resembles (initiate payment d') :=
  .bind ⟨.requestPayment _ (h.requestFor payment) fun _ => .done _⟩ fun _ => .refl _

theorem placeOrder_resembles {order order' : NewOrder} (h : order.Resembles order') :
    (placeOrder order).Resembles (placeOrder order') := by
  refine .bind (Orders.create_resembles h) fun placed => ?_
  cases placed.payment with
  | none => exact .refl _
  | some payment =>
    rcases rel_cases h.payment with ⟨hnone, hnone'⟩ | ⟨d, d', hsome, hsome', hdetails⟩
    · rw [hnone, hnone']
      exact .refl _
    · rw [hsome, hsome']
      exact .bind (initiate_resembles hdetails payment) fun _ => .refl _

/-- The details show in the check, in the payment that is opened and in the request. -/
theorem payOrder_resembles (userId : Id) {request request' : PayOrderRequest}
    (h : request.Resembles request') :
    (payOrder userId request).Resembles (payOrder userId request') := by
  unfold payOrder
  rw [h.payment.validate_eq, h.orderId, h.amount]
  refine .bind (.refl _) fun _ => .bind (.refl _) fun order => .guard _ (.guard _ ?_)
  rw [h.payment.forOrder_eq]
  exact .bind (.refl _) fun payment => initiate_resembles h.payment payment

end Payments

theorem Operation.Resembles.flow {op op' : Operation} (h : op.Resembles op') :
    op.flow.Resembles op'.flow := by
  cases h with
  | refl op => exact .refl _
  | createOrder h => exact (Orders.create_resembles h).flow
  | placeOrder h => exact (Payments.placeOrder_resembles h).flow
  | payOrder userId h => exact (Payments.payOrder_resembles userId h).flow

/-- The payment details that an operation comes with. -/
def Operation.details? : Operation → Option PaymentDetails
  | .createOrder new => new.payment
  | .placeOrder new => new.payment
  | .payOrder _ request => some request.payment
  | _ => none

theorem Operation.Resembles.details? {op op' : Operation} (h : op.Resembles op') :
    Option.Rel PaymentDetails.Resembles op.details? op'.details? := by
  cases h with
  | refl op =>
    cases op.details? with
    | none => exact .none
    | some d => exact .some (.refl d)
  | createOrder h => exact h.payment
  | placeOrder h => exact h.payment
  | payOrder userId h => exact .some h.payment

end Service

/-! ## Runs that look the same -/

/-- The same happens in both, but for card numbers that look the same. -/
inductive Deed.Resembles : Deed → Deed → Prop where
  | start {op op' : Operation} (h : op.Resembles op') :
    (Deed.start op).Resembles (.start op')
  | proceed (call : Nat) (around : Surroundings) :
    (Deed.proceed call around).Resembles (.proceed call around)
  | withdraw (product : Id) (around : Surroundings) :
    (Deed.withdraw product around).Resembles (.withdraw product around)

theorem Deed.Resembles.refl (deed : Deed) : deed.Resembles deed := by
  cases deed with
  | start op => exact .start (.refl op)
  | proceed call around => exact .proceed call around
  | withdraw product around => exact .withdraw product around

/-- What a log shows of the payment details of a call that is made. -/
def Deed.logText? : Deed → Option String
  | .start op => op.details?.map PaymentDetails.logText
  | _ => none

theorem Deed.Resembles.logText?_eq {deed deed' : Deed} (h : deed.Resembles deed') :
    deed'.logText? = deed.logText? := by
  cases h with
  | start h =>
    rcases rel_cases h.details? with ⟨hnone, hnone'⟩ | ⟨d, d', hsome, hsome', hdetails⟩
    · rw [logText?, logText?, hnone, hnone']
    · rw [logText?, logText?, hsome, hsome', Option.map_some, Option.map_some, hdetails.logText_eq]
  | proceed call around => rfl
  | withdraw product around => rfl

namespace Shop

/-- What each call was answered, if it has ended. -/
def answers (s : Shop) : List (Option ((α : Type) × α)) := s.calls.map (·.rest.answer?)

/-- What the processor was sent, by the number of the call. -/
def sent (s : Shop) : List (Nat × Gateway.PaymentRequest) :=
  s.record.filterMap fun entry => entry.2.request?.map (entry.1, ·)

/-- Both shops have done the same and will, but for card numbers that look the same. -/
structure Resembles (s s' : Shop) : Prop where
  tables : s'.tables = s.tables
  calls : List.Forall₂ (fun r r' => r.rest.Resembles r'.rest) s.calls s'.calls
  record : List.Forall₂ (fun e e' => e'.1 = e.1 ∧ e.2.Resembles e'.2) s.record s'.record

namespace Resembles

variable {s s' : Shop}

theorem start (h : s.Resembles s') {op op' : Operation} (hop : op.Resembles op') :
    (s.step (.start op)).Resembles (s'.step (.start op')) :=
  ⟨h.tables, List.rel_append h.calls (.cons hop.flow .nil), h.record⟩

theorem proceed (h : s.Resembles s') (call : Nat) (around : Surroundings) :
    (s.proceed call around).Resembles (s'.proceed call around) := by
  unfold Shop.proceed
  rcases rel_cases (forall₂_getElem? h.calls call) with ⟨hnone, hnone'⟩ |
    ⟨running, running', hsome, hsome', hrest⟩
  · rw [hnone, hnone']
    exact h
  rw [hsome, hsome', h.tables]
  rcases hrest.step around s.tables with ⟨hdone, hdone'⟩ | ⟨act, act', rest, rest', t, hstep,
    hstep', hact, hlater⟩
  · simp only [hdone, hdone']
    exact h
  · simp only [hstep, hstep']
    exact ⟨rfl, forall₂_set h.calls call hlater,
      List.rel_append h.record (.cons ⟨rfl, hact⟩ .nil)⟩

theorem withdraw (h : s.Resembles s') (product : Id) (around : Surroundings) :
    (s.step (.withdraw product around)).Resembles (s'.step (.withdraw product around)) := by
  simp only [step]
  rw [h.tables]
  split
  · exact ⟨rfl, h.calls, h.record⟩
  · exact h

theorem step (h : s.Resembles s') {deed deed' : Deed} (hdeed : deed.Resembles deed') :
    (s.step deed).Resembles (s'.step deed') := by
  cases hdeed with
  | start hop => exact h.start hop
  | proceed call around => exact h.proceed call around
  | withdraw product around => exact h.withdraw product around

theorem answers_eq (h : s.Resembles s') : s'.answers = s.answers :=
  eq_of_forall₂ (List.rel_map (fun _ _ hrest => hrest.answer?_eq) h.calls)

theorem published_eq (h : s.Resembles s') : s'.published = s.published := by
  refine eq_of_forall₂ (List.rel_filterMap ?_ h.record)
  rintro ⟨call, act⟩ ⟨call', act'⟩ ⟨rfl, hact⟩
  cases hact with
  | published event => exact .some rfl
  | asked | requested | lookedUp => exact .none

theorem sent (h : s.Resembles s') :
    List.Forall₂ (fun e e' => e'.1 = e.1 ∧ e.2.Resembles e'.2) s.sent s'.sent := by
  refine List.rel_filterMap ?_ h.record
  rintro ⟨call, act⟩ ⟨call', act'⟩ ⟨rfl, hact⟩
  cases hact with
  | requested user hr answer => exact .some ⟨rfl, hr⟩
  | asked | lookedUp | published => exact .none

end Resembles

theorem resembles_after {deeds deeds' : List Deed} (h : List.Forall₂ Deed.Resembles deeds deeds') :
    (after deeds).Resembles (after deeds') :=
  List.rel_foldl (fun _ _ hs _ _ hdeed => hs.step hdeed) ⟨rfl, .nil, .nil⟩ h

/-- The shops cannot be told apart but for the card numbers that the processor was sent. -/
structure ShowsSame (s s' : Shop) : Prop where
  tables : s'.tables = s.tables
  answers : s'.answers = s.answers
  published : s'.published = s.published
  sent : List.Forall₂ (fun e e' => e'.1 = e.1 ∧ e.2.Resembles e'.2) s.sent s'.sent
  logged : s'.sent.map (·.2.logText) = s.sent.map (·.2.logText)
  /-- The store and the processor were asked the same at each step, and answered the same. -/
  record : List.Forall₂ (fun e e' => e'.1 = e.1 ∧ e.2.Resembles e'.2) s.record s'.record

theorem Resembles.showsSame {s s' : Shop} (h : s.Resembles s') : s.ShowsSame s' where
  tables := h.tables
  answers := h.answers_eq
  published := h.published_eq
  sent := h.sent
  logged := eq_of_forall₂ (List.rel_map (fun _ _ hsent => hsent.2.logText_eq) h.sent)
  record := h.record

end Shop

/-! ## The law -/

/-- If card numbers are replaced by others that look the same once they are masked, then at no time
can the shops be told apart but for the card numbers that the processor was sent, and the payment
details of each call look the same in the logs. -/
theorem card_numbers_go_to_the_processor_alone {deeds deeds' : List Deed}
    (h : List.Forall₂ Deed.Resembles deeds deeds') :
    (∀ n, (Shop.after (deeds.take n)).ShowsSame (Shop.after (deeds'.take n))) ∧
      deeds'.map Deed.logText? = deeds.map Deed.logText? :=
  ⟨fun n => (Shop.resembles_after (List.forall₂_take n h)).showsSame,
    eq_of_forall₂ (List.rel_map (fun _ _ hdeed => hdeed.logText?_eq) h)⟩

namespace TwoCards

def price : Money := .saturated 100

/-- The processor does not answer for the first payment, and takes the second one. -/
def around (answers : Bool) : Surroundings :=
  ⟨0, .sound, .sound, if answers then .ok ⟨"key", .pending, none⟩ else .error (.rejected "busy"),
    .error (.rejected "unknown")⟩

def details (cardNo : String) : PaymentDetails := ⟨"VISA", cardNo, "http://shop"⟩

/-- A user and a product, and points to pay with. -/
def setup : List Deed :=
  [.start (.createUser "ann"), .proceed 0 (around true), .start (.charge 1 price),
    .proceed 1 (around true), .start (.createProduct ⟨"tea", price, 1⟩ (by decide)),
    .proceed 2 (around true)]

def goOn (call : Nat) (answers : Bool) (steps : Nat) : List Deed :=
  List.replicate steps (.proceed call (around answers))

/-- A user orders with a card, and pays with it again. -/
def purchase (cardNo : String) : List Deed :=
  setup ++ .start (.placeOrder ⟨1, [⟨1, 1, none⟩], some (details cardNo)⟩) ::
    (goOn 3 false 3 ++ .start (.payOrder 1 ⟨1, price, details cardNo⟩) :: goOn 4 true 4)

def visa : String := "4000-1234-5678-1451"

def master : String := "5500-8765-4321-1451"

theorem details_resemble : (details visa).Resembles (details master) :=
  ⟨rfl, by decide +kernel, rfl⟩

theorem purchases_resemble : List.Forall₂ Deed.Resembles (purchase visa) (purchase master) := by
  have same (deeds : List Deed) : List.Forall₂ Deed.Resembles deeds deeds :=
    List.forall₂_same.mpr fun deed _ => .refl deed
  have place := Deed.Resembles.start
    (.placeOrder ⟨rfl, rfl, .some details_resemble⟩ : Operation.Resembles
      (.placeOrder ⟨1, [⟨1, 1, none⟩], some (details visa)⟩)
      (.placeOrder ⟨1, [⟨1, 1, none⟩], some (details master)⟩))
  have pay := Deed.Resembles.start
    (.payOrder 1 ⟨rfl, rfl, details_resemble⟩ : Operation.Resembles
      (.payOrder 1 ⟨1, price, details visa⟩) (.payOrder 1 ⟨1, price, details master⟩))
  exact List.rel_append (same _) (.cons place (List.rel_append (same _) (.cons pay (same _))))

end TwoCards

open TwoCards in
/-- Both purchases come to the same, while the processor was sent another card number. -/
theorem one_card_for_another :
    List.Forall₂ Deed.Resembles (purchase visa) (purchase master) ∧
      (∀ n, (Shop.after ((purchase visa).take n)).ShowsSame
        (Shop.after ((purchase master).take n))) ∧
      (purchase master).map Deed.logText? = (purchase visa).map Deed.logText? ∧
      (Shop.after (purchase visa)).sent.map (·.2.cardNo) = [visa, visa] ∧
      (Shop.after (purchase master)).sent.map (·.2.cardNo) = [master, master] ∧
      (Shop.after (purchase master)).tables.payments.map (fun p => (p.cardNo, p.status)) =
        [("****-****-****-1451", .failed), ("****-****-****-1451", .pending)] := by
  have hlaw := card_numbers_go_to_the_processor_alone purchases_resemble
  exact ⟨purchases_resemble, hlaw.1, hlaw.2, by decide +kernel, by decide +kernel,
    by decide +kernel⟩

end Checkout
