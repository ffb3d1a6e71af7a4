-- No processor can fail or alter an order. A call that asks for a payment opens
-- it first, as it would without any processor, and succeeds if that did. What
-- the processor answers, and in what state the circuit breaker is, shows only
-- in three fields of that one payment.
import Checkout.Proofs.Shop.Answering

namespace Checkout

open Store Service

/-! ## What is done before the processor is asked -/

/-- The act was a question to the store. -/
def Act.isAsked : Act → Bool
  | .asked _ _ => true
  | _ => false

namespace Stage

variable {σ σ' α : Type} {s : Stage σ} {s' : Stage σ'}

/-- Two stages that differ at most in whom the shop deals with. -/
structure Alike (s : Stage σ) (s' : Stage σ') : Prop where
  tables : s'.tables = s.tables
  medium : s'.medium = s.medium
  clock : s'.clock = s.clock
  events : s'.events = s.events

theorem Alike.ask (h : s.Alike s') (query : Query α) :
    (s'.ask query).1 = (s.ask query).1 ∧ (s.ask query).2.Alike (s'.ask query).2 := by
  unfold Stage.ask
  rw [h.tables, h.medium, h.clock]
  exact ⟨rfl, rfl, h.medium, congrArg (· + 1) h.clock, h.events⟩

/-- A flow that only asks the store does the same for any processor, and nobody hears of it. -/
theorem Alike.play {f : Flow α} {past : List Act} {outcome : List Act → α → Prop}
    (h : s.Alike s') (hasks : f.Obeys (fun _ act => act.isAsked = true) outcome past) :
    (s'.play f).1 = (s.play f).1 ∧ (s.play f).2.Alike (s'.play f).2 ∧
      (s.play f).2.events = s.events := by
  induction f generalizing s s' past with
  | done a => exact ⟨rfl, h, rfl⟩
  | ask query next ih =>
    obtain ⟨hanswer, hlater⟩ := h.ask query
    rw [play_ask, play_ask, hanswer]
    exact ih _ hlater (hasks _).2
  | requestPayment user request next => cases (hasks (.error (.rejected ""))).1
  | fetchTransaction user key next => cases (hasks (.error (.rejected ""))).1
  | publish event next => cases hasks.1

theorem Ready.play (hs : s.Ready) {b : Business} {f : Flow α} (hp : f.Proper b) :
    (s.play f).2.Ready := by
  have hobeys : f.Obeys (fun _ _ => True) (fun _ _ => True) [] := hp.obeys_anything
  obtain ⟨acts, -, hleaves⟩ := play_obeys hs.kept (hs.sound ▸ .sound) hp hobeys
  exact ⟨hleaves.kept, hleaves.medium.trans hs.sound⟩

end Stage

/-! ## Calls that open a payment -/

/-- The payment that was opened. -/
def Act.opened? : Act → Option Payment
  | .asked (.placeOrder _) (.ok placed) => placed.payment
  | .asked (.openPayment _) (.ok payment) => some payment
  | _ => none

theorem change_fresh {α : Type} {q : Query α} {a : α} {now : Moment} {t t' : Tables}
    (h : Change now t q a t') :
    ∀ p, (Act.asked q (.ok a)).opened? = some p → p ∈ t'.payments ∧ p.Fresh := by
  intro p hp
  cases h with
  | still hstill =>
    cases q
    case placeOrder order => cases hstill
    case openPayment new => cases hstill
    all_goals cases hp
  | placed order =>
    refine ⟨List.mem_append_right _ (Option.mem_toList.mpr hp), ?_⟩
    obtain ⟨details, -, rfl⟩ := Option.map_eq_some_iff.mp hp
    exact ⟨rfl, rfl⟩
  | opened new =>
    cases hp
    exact ⟨List.mem_append_right _ (List.mem_singleton_self _), rfl, rfl⟩
  | _ => cases hp

namespace Service.Call

variable {α β : Type}

/-- The call only asks the store. -/
abbrev OnlyAsks (past : List Act) (c : Call α) : Prop :=
  Call.Obeys (fun _ act => act.isAsked = true) (fun _ _ => True) past c

/-- If a payment is due by the answer of the call, it is there, and nothing was said about it. -/
structure Opens (c : Call α) (due : α → Option (Payment × PaymentDetails)) : Prop where
  fresh : ∀ {σ : Type} {s : Stage σ}, s.Ready → ∀ {a : α} {p : Payment} {details : PaymentDetails},
    (s.run c).1 = .ok a → due a = some (p, details) →
      p ∈ (s.run c).2.tables.payments ∧ p.Fresh

variable {due : β → Option (Payment × PaymentDetails)}

theorem Opens.bind {b : Business} {c : Call α} {next : α → Call β} (hc : Call.Proper b c)
    (hnext : ∀ a, Opens (next a) due) : Opens (c >>= next) due := by
  refine ⟨fun {σ s} hs {a p details} hanswer hdue => ?_⟩
  have hlater : (s.run c).2.Ready := hs.play hc.flow
  rw [s.run_bind] at hanswer ⊢
  generalize s.run c = ended at hlater hanswer ⊢
  obtain ⟨answer, after⟩ := ended
  cases answer with
  | ok first => exact (hnext first).fresh hlater hanswer hdue
  | error f => cases hanswer

theorem Opens.fail (f : Fault) {next : α → Call β} : Opens (Call.fail f >>= next) due :=
  ⟨fun _ _ _ _ hanswer => nomatch hanswer⟩

theorem Opens.guard {broken : Prop} [Decidable broken] {f : Fault} {c : Call β}
    (hc : Opens c due) : Opens (if broken then (do let _ : Unit ← Call.fail f; c) else c) due := by
  split
  · exact .fail f
  · exact hc

theorem Opens.query {q : Query β} (hq : q.Proper)
    (hdue : ∀ a p details, due a = some (p, details) → (Act.asked q (.ok a)).opened? = some p) :
    Opens (Call.query q) due := by
  refine ⟨fun {σ s} hs {a p details} hanswer hpays => ?_⟩
  have hrun : s.run (Call.query q) = s.ask q := rfl
  rw [hrun, hs.ask_eq] at hanswer ⊢
  unfold Query.answer at hanswer ⊢
  cases hw : q.work (.calm s.clock) s.tables with
  | error f =>
    rw [hw] at hanswer
    cases hanswer
  | ok result =>
    rw [hw] at hanswer
    cases hanswer
    exact change_fresh (Query.change .sound hq hs.kept hw) p (hdue _ p details hpays)

end Service.Call

namespace Service.Payments

/-- Opens a payment as asked by a user, and says nothing of it to the processor yet. -/
def openPayment (userId : Id) (request : PayOrderRequest) : Call Payment := do
  Call.ofExcept request.payment.validate
  let order ← Orders.fetchForUser userId request.orderId
  if order.status ≠ .pending then Call.fail (.invalidStatus request.orderId order.status)
  if request.amount ≠ order.finalTotal then
    Call.fail (.invalid (.amountDiffers request.amount order.finalTotal))
  Call.query (.openPayment (.forOrder order request.payment))

/-- Makes a call, and asks for the payment that is due by its answer, if one is. -/
def asking {α : Type} (opening : Call α) (due : α → Option (Payment × PaymentDetails))
    (put : α → Payment → α) : Call α := do
  let a ← opening
  match due a with
  | some (p, details) => return put a (← initiate p details)
  | none => return a

/-- What is due for an order that was placed: the payment for it, if it came with details. -/
def dueFor (order : NewOrder) (placed : PlacedOrder) : Option (Payment × PaymentDetails) :=
  match placed.payment, order.payment with
  | some payment, some details => some (payment, details)
  | _, _ => none

theorem placeOrder_eq_asking (order : NewOrder) :
    placeOrder order = asking (Orders.create order) (dueFor order)
      fun placed payment => { placed with payment := some payment } := by
  unfold placeOrder asking dueFor
  congr 1
  funext placed
  cases placed.payment <;> cases order.payment <;> rfl

theorem payOrder_eq_asking (userId : Id) (request : PayOrderRequest) :
    payOrder userId request = asking (openPayment userId request)
      (fun payment => some (payment, request.payment)) fun _ payment => payment := by
  unfold payOrder asking openPayment
  simp only [bind_assoc, bind_pure]
  congr 1
  funext _
  congr 1
  funext order
  split <;> split <;> simp [bind_assoc]

end Service.Payments

/-! ## Asking for what was opened -/

/-- What is so of the part of a call before the processor is asked. -/
structure Preliminary {α : Type} (opening : Call α) (due : α → Option (Payment × PaymentDetails)) :
    Prop where
  proper : Call.Proper .paying opening
  asks : Call.OnlyAsks [] opening
  opens : Call.Opens opening due

namespace Service.Payments

theorem create_preliminary (order : NewOrder) :
    Preliminary (Orders.create order) (dueFor order) where
  proper := Orders.create_proper order
  asks := .ofExcept_bind (fun _ _ => .query (fun _ => rfl) fun _ => trivial) fun _ _ => trivial
  opens := by
    unfold Orders.create
    rw [NewOrder.validate_eq]
    cases hs : order.shapeObjection with
    | some f => exact .fail f
    | none =>
      refine .query (q := .placeOrder order) (order.shapeObjection_eq_none_iff.mp hs) ?_
      intro placed p details hdue
      unfold dueFor at hdue
      split at hdue
      · next payment _ hpayment _ =>
        cases hdue
        exact hpayment
      · cases hdue

theorem openPayment_preliminary (userId : Id) (request : PayOrderRequest) :
    Preliminary (openPayment userId request) fun payment => some (payment, request.payment) where
  proper := .bind (.ofExcept _) fun _ => .bind (Orders.fetchForUser_proper _ _) fun _ =>
    .guard _ <| .guard _ <| .query rfl trivial
  asks := by
    refine .ofExcept_bind (fun _ _ => ?_) fun _ _ => trivial
    refine .bind (fun _ _ => True) ?_ (fun past order _ => ?_) fun _ _ _ => trivial
    · refine .query_bind (fun _ => rfl) (fun found => ?_) fun _ => trivial
      cases found.filter (·.userId == userId) <;> exact ⟨trivial⟩
    · exact .guard (fun _ => trivial) fun _ => .guard (fun _ => trivial) fun _ =>
        .query (fun _ => rfl) fun _ => trivial
  opens := by
    refine .bind (b := .paying) (.ofExcept _) fun _ =>
      .bind (b := .paying) (Orders.fetchForUser_proper _ _) fun order =>
        .guard <| .guard <| .query trivial ?_
    intro payment p details hdue
    cases hdue
    rfl

end Service.Payments

namespace Stage

open Service.Payments (asking openPayment)

variable {σ σ' α : Type} {s : Stage σ} {s' : Stage σ'} {opening : Call α}
  {due : α → Option (Payment × PaymentDetails)} (put : α → Payment → α)

/-- A call that ends without a payment that is due has just been made. -/
theorem run_asking_undue (h : ∀ a, (s.run opening).1 = .ok a → due a = none) :
    s.run (asking opening due put) = s.run opening := by
  unfold asking
  rw [run_bind]
  generalize s.run opening = ended at h ⊢
  obtain ⟨answer, after⟩ := ended
  cases answer with
  | error f => rfl
  | ok a => simp only [h a rfl]; rfl

/-- Otherwise the payment is asked for, and is given and stored as the answer leaves it. -/
theorem run_asking_due (hs : s.Ready) (hfirst : Preliminary opening due) {a : α} {p : Payment}
    {details : PaymentDetails} (hanswer : (s.run opening).1 = .ok a)
    (hdue : due a = some (p, details)) :
    let opened := (s.run opening).2
    let p' := p.answered opened.tables.payments (opened.replyFor p details)
    let ended := s.run (asking opening due put)
    ended.1 = .ok (put a p') ∧ ended.2.tables = opened.tables.put p' ∧
      ended.2.events = opened.events := by
  have hready : (s.run opening).2.Ready := hs.play hfirst.proper.flow
  obtain ⟨hp, hfresh⟩ := hfirst.opens.fresh hs hanswer hdue
  have hsettles := initiate_settles hready hp hfresh details
  unfold asking
  rw [run_bind]
  generalize s.run opening = ended at *
  obtain ⟨answer, opened⟩ := ended
  obtain rfl : answer = .ok a := hanswer
  simp only [hdue]
  rw [run_bind]
  generalize opened.run (Payments.initiate p details) = paid at *
  obtain ⟨answer, after⟩ := paid
  obtain rfl := hsettles.answer
  exact ⟨rfl, hsettles.tables, hsettles.events⟩

/-- A payment is due for each order that is placed with payment details. -/
theorem run_create_due (hs : s.Ready) {order : NewOrder} {placed : PlacedOrder}
    (h : (s.run (Service.Orders.create order)).1 = .ok placed) :
    (Service.Payments.dueFor order placed).isSome = order.payment.isSome := by
  unfold Service.Orders.create at h
  rw [NewOrder.validate_eq] at h
  cases hshape : order.shapeObjection with
  | some f =>
    rw [hshape] at h
    cases h
  | none =>
    have hplace := place_calm order s.clock hs.kept.numbered hs.kept.linked hs.kept.stocked
      (order.shapeObjection_eq_none_iff.mp hshape)
    rw [hshape] at h
    change (s.ask (.placeOrder order)).1 = .ok placed at h
    rw [hs.ask_eq, Query.answer, Query.work, hplace] at h
    cases ho : order.placingObjection s.tables with
    | some f =>
      rw [ho] at h
      cases h
    | none =>
      rw [ho] at h
      cases h
      cases hd : order.payment <;>
        simp [Service.Payments.dueFor, Tables.placement, Tables.placedPayment, hd]

/-! ## The law -/

/-- What is so of a call that asks for a payment, next to the part of it that opens the payment, and
next to the same call with another processor. -/
structure Unswayed (s : Stage σ) (s' : Stage σ') (opening whole : Call α)
    (due : α → Option (Payment × PaymentDetails)) (put : α → Payment → α) : Prop where
  accepted : (s.run whole).1.toBool = (s.run opening).1.toBool
  silent : (s.run whole).2.events = s.events
  undue : (∀ a, (s.run opening).1 = .ok a → due a = none) → s.run whole = s.run opening
  /-- The payment that is due ends as the guarded call for it left it. It is given so to the caller
  and stored so, and nothing else has changed since it was opened. -/
  answered : ∀ a p details, (s.run opening).1 = .ok a → due a = some (p, details) →
    let opened := (s.run opening).2
    let p' := p.answered opened.tables.payments (opened.replyFor p details)
    p.Fresh ∧ (s.run whole).1 = .ok (put a p') ∧ p' ∈ (s.run whole).2.tables.payments ∧
      (s.run whole).2.tables = opened.tables.put p'
  /-- With another processor all ends in the same way, but for what it can show in. -/
  alike :
    let id? := ((s.run opening).1.toOption.bind due).map (·.1.id)
    (s'.run whole).2.tables.aside id? = (s.run whole).2.tables.aside id?

theorem toOption_eq_some {answer : Except Fault α} {a : α} :
    answer.toOption = some a ↔ answer = .ok a := by
  cases answer <;> simp [Except.toOption]

theorem unswayed (hs : s.Ready) (halike : s.Alike s') (h : Preliminary opening due) :
    s.Unswayed s' opening (asking opening due put) due put := by
  have hs' : s'.Ready := ⟨halike.tables ▸ hs.kept, halike.medium.trans hs.sound⟩
  obtain ⟨hanswer, hopened, hevents⟩ :
      (s'.run opening).1 = (s.run opening).1 ∧ (s.run opening).2.Alike (s'.run opening).2 ∧
        (s.run opening).2.events = s.events := halike.play h.asks.flow
  have hready : (s.run opening).2.Ready := hs.play h.proper.flow
  have hready' : (s'.run opening).2.Ready := hs'.play h.proper.flow
  cases hdue : (s.run opening).1.toOption.bind due with
  | none =>
    have hnone : ∀ a, (s.run opening).1 = .ok a → due a = none := by
      intro a ha
      rw [ha] at hdue
      exact hdue
    have hsame := run_asking_undue put hnone
    have hsame' := run_asking_undue put (hanswer ▸ hnone)
    exact {
      accepted := by rw [hsame]
      silent := by rw [hsame, hevents]
      undue := fun _ => hsame
      answered := fun a p details ha hp => by rw [hnone a ha] at hp; cases hp
      alike := by rw [hsame, hsame', hopened.tables] }
  | some found =>
    obtain ⟨p, details⟩ := found
    obtain ⟨a, ha, hp⟩ := Option.bind_eq_some_iff.mp hdue
    replace ha : (s.run opening).1 = .ok a := toOption_eq_some.mp ha
    obtain ⟨hmem, hfresh⟩ := h.opens.fresh hs ha hp
    obtain ⟨hgiven, hput, hquiet⟩ := run_asking_due put hs h ha hp
    obtain ⟨-, hput', -⟩ := run_asking_due put hs' h (hanswer.trans ha) hp
    exact {
      accepted := by rw [hgiven, ha]; rfl
      silent := hquiet.trans hevents
      undue := fun hnone => by rw [hnone a ha] at hp; cases hp
      answered := fun b q details' hb hq => by
        cases ha.symm.trans hb
        cases hp.symm.trans hq
        exact ⟨hfresh, hgiven, hput ▸ Tables.mem_put hmem Payment.answered_id, hput⟩
      alike := by
        have hmem' : p ∈ (s'.run opening).2.tables.payments := hopened.tables ▸ hmem
        simp only [hdue, Option.map_some]
        rw [hput, hput',
          Tables.aside_put hready.kept hmem Payment.answered_id Payment.bare_answered,
          Tables.aside_put hready'.kept hmem' Payment.answered_id Payment.bare_answered,
          hopened.tables] }

end Stage

namespace Shop

open Service.Payments (openPayment dueFor)

/-- The stage for a call that is made when nobody else is at the shop. -/
def stage {σ : Type} (s : Shop) (now : Moment) (other : Counterparty σ) : Stage σ :=
  ⟨s.tables, .sound, now, [], other⟩

/-- What is so of all calls that ask for a payment, whoever they ask. -/
structure Unswayed {σ σ' : Type} (s : Shop) (now : Moment) (c : Counterparty σ)
    (c' : Counterparty σ') : Prop where
  placed : ∀ order, (s.stage now c).Unswayed (s.stage now c') (Service.Orders.create order)
    (Service.Payments.placeOrder order) (dueFor order)
    fun placed payment => { placed with payment := some payment }
  /-- A payment is due for each order that comes with payment details. -/
  due : ∀ order placed, ((s.stage now c).run (Service.Orders.create order)).1 = .ok placed →
    (dueFor order placed).isSome = order.payment.isSome
  paid : ∀ userId request, (s.stage now c).Unswayed (s.stage now c') (openPayment userId request)
    (Service.Payments.payOrder userId request) (fun payment => some (payment, request.payment))
    fun _ payment => payment

end Shop

/-- After any run, whatever the processor does and however the circuit breaker stands, a call that
asks for a payment succeeds exactly if the payment can be opened. The processor shows only in how
that one payment ends. -/
theorem no_processor_can_fail_or_alter_an_order {σ σ' : Type} (deeds : List Deed) (now : Moment)
    (c : Counterparty σ) (c' : Counterparty σ') : (Shop.after deeds).Unswayed now c c' := by
  have hready : ((Shop.after deeds).stage now c).Ready := ⟨Shop.kept_after deeds, rfl⟩
  have halike : ((Shop.after deeds).stage now c).Alike ((Shop.after deeds).stage now c') :=
    ⟨rfl, rfl, rfl, rfl⟩
  refine ⟨fun order => ?_, fun order placed => Stage.run_create_due hready,
    fun userId request => ?_⟩
  · rw [Payments.placeOrder_eq_asking]
    exact Stage.unswayed _ hready halike (Payments.create_preliminary order)
  · rw [Payments.payOrder_eq_asking]
    exact Stage.unswayed _ hready halike (Payments.openPayment_preliminary userId request)

/-- A processor that never answers, and one that declines without a reason. -/
example :
    let price : Money := .saturated 100
    let quiet : Surroundings :=
      ⟨0, .sound, .sound, .ok ⟨"key", .pending, none⟩, .error (.rejected "unknown")⟩
    let s := Shop.after
      [.start (.createUser "ann"), .proceed 0 quiet, .start (.charge 1 price), .proceed 1 quiet,
        .start (.createProduct ⟨"tea", price, 1⟩ (by decide)), .proceed 2 quiet]
    let guard : Gateway.Guard := ⟨⟨"gateway", .default, .fresh⟩, .default, .ofMilliseconds 500⟩
    let playing (attempt : Gateway.Attempt Unit Gateway.Receipt) : Stage Unit :=
      s.stage 0 ⟨⟨fun _ _ _ => attempt, fun _ _ _ => ⟨none, .error (.rejected ""), (), ()⟩⟩, (),
        guard, .zero⟩
    let order : NewOrder := ⟨1, [⟨1, 1, none⟩], some ⟨"VISA", "1234", "http://shop"⟩⟩
    let hung := (playing ⟨none, .error (.rejected ""), (), ()⟩).run (Payments.placeOrder order)
    let declined := (playing ⟨some .zero, .ok ⟨"key", .failed, none⟩, (), ()⟩).run
      (Payments.placeOrder order)
    hung.2.tables.payments.map (·.failureReason) = [some Payments.fallbackReason] ∧
      declined.2.tables.payments.map (·.failureReason) = [some Payments.declinedReason] ∧
      hung.2.tables.aside (some 1) = declined.2.tables.aside (some 1) := by
  decide +kernel

end Checkout
