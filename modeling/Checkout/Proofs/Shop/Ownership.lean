-- What belongs to somebody else looks absent. What a user asks about the order
-- of another user, and an order that names another user's coupon, comes to the
-- same as if that were not there: the same answer, and nothing done. However
-- its steps interleave with others, such a call only ever looks for the order.
import Checkout.Proofs.Shop.Opening
import Checkout.Proofs.Shop.Stage
import Checkout.Proofs.Store.Hiding

namespace Checkout

open Store Service

/-! ## Asking about an order -/

namespace Service.Operation

/-- The user who asks, and the order that is named. -/
def about? : Operation → Option (Id × Id)
  | .orderForUser userId id | .orderDetails userId id | .confirmForUser userId id
  | .cancelForUser userId id => some (userId, id)
  | .payOrder userId request => some (userId, request.orderId)
  | _ => none

/-- The flow looks for the order first, and ends there with an answer that is always the same if
the order is not one of the user's. -/
structure LooksFirst {α : Type} (userId id : Id) (f : Flow α) (a : α)
    (next : Except Fault (Option Order) → Flow α) : Prop where
  flow : f = .ask (.order id) next
  away : ∀ found : Option Order, found.filter (·.userId == userId) = none →
    next (.ok found) = .done a
  failed : ∀ fault, ∃ b, next (.error fault) = .done b

theorem looksFirst_bind {α : Type} (userId id : Id) (next : Order → Call α) :
    ∃ rest, LooksFirst userId id (Service.Orders.fetchForUser userId id >>= next).run
      (.error (.notFound (.order id))) rest := by
  refine ⟨_, rfl, fun found hfound => ?_, fun fault => ⟨.error fault, rfl⟩⟩
  change (Call.orFail (.notFound (.order id)) (found.filter (·.userId == userId)) >>= next).run = _
  rw [hfound]
  rfl

variable {op : Operation} {userId id : Id}

/-- Whoever asks about an order has to own it, whatever else is asked. Incomplete payment details
are turned down before. -/
theorem looks_first (h : op.about? = some (userId, id)) :
    (∃ a, op.flow = .done a) ∨ ∃ a next, LooksFirst userId id op.flow a next := by
  cases op
  case orderForUser user order =>
    cases h
    obtain ⟨rest, hrest⟩ := looksFirst_bind userId id pure
    rw [bind_pure] at hrest
    exact .inr ⟨_, rest, hrest⟩
  case orderDetails user order =>
    cases h
    exact .inr ⟨_, looksFirst_bind userId id _⟩
  case confirmForUser user order =>
    cases h
    exact .inr ⟨_, looksFirst_bind userId id _⟩
  case cancelForUser user order =>
    cases h
    exact .inr ⟨_, looksFirst_bind userId id _⟩
  case payOrder user request =>
    cases h
    simp only [flow, Payments.payOrder]
    cases request.payment.validate with
    | error f => exact .inl ⟨.error f, rfl⟩
    | ok a => exact .inr ⟨_, looksFirst_bind userId request.orderId _⟩
  all_goals cases h

end Service.Operation

/-! ## Calls played alone -/

namespace Stage

variable {σ α : Type} {s : Stage σ}

/-- The same stage with other tables. -/
def upon (s : Stage σ) (t : Tables) : Stage σ := { s with tables := t }

/-- The flow is answered as if the tables were these others, and nothing comes of it: no change, no
event, and no word to the processor. -/
structure Overlooks (s : Stage σ) (f : Flow α) (without : Tables) : Prop where
  answer : (s.play f).1 = ((s.upon without).play f).1
  tables : (s.play f).2.tables = s.tables
  events : (s.play f).2.events = s.events
  processor : (s.play f).2.other.state = s.other.state
  guard : (s.play f).2.other.guard = s.other.guard

/-- What came of the flow is its answer, whether or not it has looked for something. -/
theorem overlooks_of_idle {f : Flow α} {a : α} {without : Tables} {after other : Stage σ}
    (h : s.play f = (a, after)) (hidle : after = s ∨ after = s.tick)
    (hwithout : (s.upon without).play f = (a, other)) : s.Overlooks f without := by
  rcases hidle with rfl | rfl
  all_goals refine ⟨by rw [h, hwithout], ?_, ?_, ?_, ?_⟩ <;> rw [h] <;> rfl

/-- An order that is not one of the user's is looked for, and that is all. -/
theorem play_looksFirst {userId id : Id} {f : Flow α} {a : α}
    {next : Except Fault (Option Order) → Flow α}
    (hf : Operation.LooksFirst userId id f a next)
    (hreadable : s.medium.isDamaged .orders id = false)
    (hforeign : ∀ o : Order, s.tables.find? id = some o → o.userId ≠ userId) :
    s.play f = (a, s.tick) := by
  have hfetch : Store.Orders.fetch id ⟨s.clock, s.medium⟩ s.tables =
      .ok (s.tables.visible? id, s.tables) :=
    Work.fetch_readable (α := Order) _ hreadable s.tables
  have hnone : (s.tables.visible? id).filter (·.userId == userId) = none := by
    rw [Option.filter_eq_none_iff]
    intro o ho
    simpa using hforeign o (visible?_eq_some.mp ho).1
  have hask : s.ask (.order id) = (.ok (s.tables.visible? id), s.tick) := by
    simp only [ask, Query.answer, Query.work, hfetch]
    rfl
  rw [hf.flow, play_ask, hask, hf.away _ hnone]
  rfl

theorem overlooks_order {op : Operation} {userId : Id} {o : Order}
    (habout : op.about? = some (userId, o.id)) (hk : s.tables.Kept) (ho : o ∈ s.tables.orders)
    (hforeign : o.userId ≠ userId) (hreadable : s.medium.isDamaged .orders o.id = false) :
    s.Overlooks op.flow (s.tables.withoutOrder o.id) := by
  rcases Operation.looks_first habout with ⟨a, hdone⟩ | ⟨a, next, hlooks⟩
  · rw [hdone]
    exact overlooks_of_idle rfl (.inl rfl) rfl
  · have hfind : s.tables.find? o.id = some o := Tables.find?_of_mem hk.numbered.orders.nodup ho
    have hplay := play_looksFirst hlooks hreadable fun other hother =>
      Option.some.inj (hfind.symm.trans hother) ▸ hforeign
    have hplay' : (s.upon (s.tables.withoutOrder o.id)).play op.flow = _ :=
      play_looksFirst hlooks hreadable fun other hother => by
        rw [upon, Tables.find?_withoutOrder] at hother
        cases hother
    exact overlooks_of_idle hplay (.inr rfl) hplay'

/-- An order that cannot be placed leaves everything as it is. -/
theorem play_create_failed {order : NewOrder} {f : Fault}
    (hf : Store.Orders.place order ⟨s.clock, s.medium⟩ s.tables = .error f) :
    s.play (Operation.createOrder order).flow =
      match order.validate with
      | .ok _ => (.error f, s.tick)
      | .error fault => (.error fault, s) := by
  have hask : s.ask (.placeOrder order) = (.error f, s.tick) := by
    simp only [ask, Query.answer, Query.work, hf]
    rfl
  simp only [Operation.flow, Service.Orders.create]
  cases order.validate with
  | error fault => rfl
  | ok a => exact hask

theorem overlooks_coupon {order : NewOrder} {coupon : Coupon} (hk : s.tables.Kept)
    (hcoupon : coupon ∈ s.tables.coupons)
    (hnamed : coupon.id ∈ order.lines.filterMap (·.couponId))
    (hforeign : coupon.ownerId ≠ order.userId)
    (hreadable : s.medium.isDamaged .coupons coupon.id = false) :
    s.Overlooks (Operation.createOrder order).flow (s.tables.withoutCoupon coupon.id) := by
  have hfind : s.tables.find? coupon.id = some coupon :=
    Tables.find?_of_mem hk.numbered.coupons.nodup hcoupon
  obtain ⟨f, hf, hf'⟩ := Store.Orders.place_foreign (c := ⟨s.clock, s.medium⟩) hnamed
    (fun other hother => Option.some.inj (hfind.symm.trans hother) ▸ hforeign) hreadable
  have hplay := play_create_failed hf
  have hplay' := play_create_failed (s := s.upon (s.tables.withoutCoupon coupon.id)) hf'
  cases hvalid : order.validate with
  | error fault =>
    rw [hvalid] at hplay hplay'
    exact overlooks_of_idle hplay (.inl rfl) hplay'
  | ok checked =>
    rw [hvalid] at hplay hplay'
    exact overlooks_of_idle hplay (.inr rfl) hplay'

end Stage

/-! ## Calls among others -/

/-- Whoever asks about an order looks for it, and does anything else only with an order that was
found to be theirs. -/
def OwnFirst (op : Operation) (past : List Act) (act : Act) : Prop :=
  ∀ userId id, op.about? = some (userId, id) → (∃ r, act = .asked (.order id) r) ∨
    ∃ o : Order, .asked (.order id) (.ok (some o)) ∈ past ∧ o.userId = userId

theorem Service.Operation.ownFirst (op : Operation) :
    op.flow.Obeys (OwnFirst op) Whatever [] := by
  cases habout : op.about? with
  | none =>
    have hrule (past : List Act) (act : Act) : OwnFirst op past act := by simp [OwnFirst, habout]
    exact op.flow_proper.obeys (fun _ => True) (fun past act _ _ => ⟨hrule past act, trivial⟩)
      trivial
  | some about =>
    obtain ⟨userId, id⟩ := about
    rcases op.looks_first habout with ⟨a, hdone⟩ | ⟨a, next, hlooks⟩
    · rw [hdone]
      trivial
    have hproper := op.flow_proper
    rw [hlooks.flow] at hproper ⊢
    intro r
    refine ⟨fun user order h => ?_, ?_⟩
    · cases habout.symm.trans h
      exact .inl ⟨r, rfl⟩
    cases r with
    | error fault =>
      obtain ⟨b, hb⟩ := hlooks.failed fault
      rw [hb]
      trivial
    | ok found =>
      cases hfound : found.filter (·.userId == userId) with
      | none =>
        rw [hlooks.away found hfound]
        trivial
      | some o =>
        obtain ⟨rfl, howner⟩ := Option.filter_eq_some_iff.mp hfound
        -- once the order is known to be the user's, all that follows is allowed
        refine ((hproper.2 (.ok (some o))).obeys
          (fun past => .asked (.order id) (.ok (some o)) ∈ past) (fun past act hpast _ => ?_)
          (List.mem_append_right _ (List.mem_singleton_self _))).imp fun _ _ _ => trivial
        refine ⟨fun user order h => ?_, List.mem_append_left _ hpast⟩
        cases habout.symm.trans h
        exact .inr ⟨o, hpast, beq_iff_eq.mp howner⟩

/-- The order that was looked up, with the id that it was looked up by. -/
def Act.found? : Act → Option (Id × Order)
  | .asked (.order id) (.ok found) => found.map (id, ·)
  | _ => none

theorem change_found {α : Type} {q : Query α} {a : α} {now : Moment} {t t' : Tables}
    (h : Change now t q a t') {id : Id} {o : Order}
    (hfound : (Act.asked q (.ok a)).found? = some (id, o)) : o.id = id := by
  cases h with
  | still _ htells =>
    cases q
    case order asked =>
      obtain ⟨found, hsome, hsame⟩ := Option.map_eq_some_iff.mp hfound
      cases hsame
      rw [hsome] at htells
      exact (Tables.find?_eq_some (visible?_eq_some.mp htells.symm).1).2
    all_goals cases hfound
  | _ => cases hfound

namespace Shop

variable {deeds : List Deed} {call : Nat}

/-- An order that was looked up has the id that it was looked up by. -/
theorem id_of_seen {id : Id} {o : Order}
    (h : (call, .asked (.order id) (.ok (some o))) ∈ (after deeds).record) : o.id = id := by
  obtain ⟨earlier, around, later, running, rest, -, hcall, hstep⟩ := step_of_mem_record h
  have hs := inOrder_after earlier
  obtain ⟨-, ⟨β, q, a, hact, hchange⟩ | ⟨hfailed, -⟩⟩ :=
    flow_step_cases hs.kept (hs.proper running (List.mem_of_getElem? hcall)) hstep
  · have hfound := congrArg Act.found? hact
    exact change_found hchange hfound.symm
  · cases hfailed

/-- A call about the order of somebody else has looked for it, and done nothing else. -/
theorem acts_about_foreign {op : Operation} {userId : Id} {o : Order}
    (hop : (after deeds).opOf? call = some op) (habout : op.about? = some (userId, o.id))
    (ho : o ∈ (after deeds).tables.orders) (hforeign : o.userId ≠ userId) :
    ∀ act ∈ actsOf call (after deeds).record, ∃ r, act = .asked (.order o.id) r := by
  intro act hact
  have hfollowing : (after deeds).Following OwnFirst fun _ => Whatever :=
    following_after Operation.ownFirst deeds
  obtain ⟨earlier, later, hsplit⟩ := List.append_of_mem (mem_actsOf.mp hact)
  obtain ⟨running, hrunning, hrule⟩ := hfollowing.acts earlier (call, act) later hsplit
  cases hop.symm.trans (opOf?_of_call hrunning)
  rcases hrule userId o.id habout with hasked | ⟨seen, hseen, howner⟩
  · exact hasked
  · have hrecord : (call, .asked (.order o.id) (.ok (some seen))) ∈ (after deeds).record := by
      rw [hsplit]
      exact List.mem_append_left _ (mem_actsOf.mp hseen)
    obtain ⟨now, hnow, hterms⟩ := (paidOnce_after deeds).seen _ hrecord seen rfl
    have hid : now.id = o.id := hterms.id.trans (id_of_seen hrecord)
    have hn : (after deeds).tables.orders.map (·.id) |>.Nodup :=
      (kept_after deeds).numbered.orders.nodup
    obtain rfl := List.inj_on_of_nodup_map hn hnow ho hid
    exact absurd (hterms.user.trans howner) hforeign

/-- In a run, a call about an order that is somebody else's leaves no trace, and the processor does
not hear of it. -/
structure PassesOver (deeds : List Deed) (call : Nat) : Prop where
  traceless : Traceless deeds call
  apart : ∀ act ∈ actsOf call (after deeds).record, act.contacts = false

theorem passesOver_foreign {op : Operation} {userId : Id} {o : Order}
    (hop : (after deeds).opOf? call = some op) (habout : op.about? = some (userId, o.id))
    (ho : o ∈ (after deeds).tables.orders) (hforeign : o.userId ≠ userId) :
    PassesOver deeds call := by
  have hacts := acts_about_foreign hop habout ho hforeign
  refine ⟨traceless_after deeds call fun act hact => ?_, fun act hact => ?_⟩
  · obtain ⟨r, rfl⟩ := hacts act hact
    cases r <;> rfl
  · obtain ⟨r, rfl⟩ := hacts act hact
    rfl

/-- After a run, what belongs to one user looks absent to any other one. A row that cannot be read is
another matter, since whoever comes across it hears of that. -/
structure Discreet (deeds : List Deed) : Prop where
  orders : ∀ {σ : Type} (s : Stage σ), s.tables = (after deeds).tables → ∀ o ∈ s.tables.orders,
    s.medium.isDamaged .orders o.id = false → ∀ (op : Operation) (userId : Id),
      op.about? = some (userId, o.id) → o.userId ≠ userId →
        s.Overlooks op.flow (s.tables.withoutOrder o.id)
  coupons : ∀ {σ : Type} (s : Stage σ), s.tables = (after deeds).tables →
    ∀ coupon ∈ s.tables.coupons, s.medium.isDamaged .coupons coupon.id = false →
      ∀ order : NewOrder, coupon.id ∈ order.lines.filterMap (·.couponId) →
        coupon.ownerId ≠ order.userId →
          s.Overlooks (Operation.createOrder order).flow (s.tables.withoutCoupon coupon.id)
  /-- The steps of the call and of others may come in any order. -/
  interleaved : ∀ o ∈ (after deeds).tables.orders, ∀ (call : Nat) (userId : Id),
    ((after deeds).opOf? call).bind Operation.about? = some (userId, o.id) → o.userId ≠ userId →
      PassesOver deeds call

end Shop

/-! ## The law -/

/-- After any run, whoever asks about the order of somebody else, or orders with somebody else's
coupon, is answered as if that were not there, and nothing comes of it. -/
theorem what_belongs_to_others_looks_absent (deeds : List Deed) : Shop.Discreet deeds where
  orders _ hs _ ho hreadable _ _ habout hforeign :=
    Stage.overlooks_order habout (hs ▸ Shop.kept_after deeds) ho hforeign hreadable
  coupons _ hs _ hcoupon hreadable _ hnamed hforeign :=
    Stage.overlooks_coupon (hs ▸ Shop.kept_after deeds) hcoupon hnamed hforeign hreadable
  interleaved o ho call userId hasked hforeign := by
    obtain ⟨op, hop, habout⟩ := Option.bind_eq_some_iff.mp hasked
    exact Shop.passesOver_foreign hop habout ho hforeign

namespace TwoUsers

def price : Money := .saturated 100

/-- The first user orders with a coupon, and the second one tries to cancel that. -/
def deeds : List Deed :=
  [.start (.createUser "ann"), .proceed 0 .quiet, .start (.createUser "bob"), .proceed 1 .quiet,
    .start (.charge 1 price), .proceed 2 .quiet,
    .start (.createProduct ⟨"tea", price, 2⟩ (by decide)), .proceed 3 .quiet,
    .start (.issueCoupon ⟨1, .fixedAmount, 10⟩), .proceed 4 .quiet,
    .start (.createOrder ⟨1, [⟨1, 1, some 1⟩], none⟩), .proceed 5 .quiet,
    .start (.cancelForUser 2 1), .proceed 6 .quiet, .proceed 6 .quiet]

def order : Order := ⟨1, 1, price, .saturated 10, .saturated 90, .pending, false⟩

def coupon : Coupon := ⟨1, 1, .fixedAmount, 10, .used, 1⟩

def stage : Stage Unit :=
  ⟨(Shop.after deeds).tables, .sound, 0, [],
    ⟨⟨fun _ _ _ => ⟨none, .error (.rejected ""), (), ()⟩,
      fun _ _ _ => ⟨none, .error (.rejected ""), (), ()⟩⟩, (),
      ⟨⟨"gateway", .default, .fresh⟩, .default, .ofMilliseconds 500⟩, .zero⟩⟩

end TwoUsers

open TwoUsers in
/-- The second user can neither cancel the order nor use the coupon, and cannot tell that they are
there. -/
theorem one_user_sees_nothing_of_another :
    order ∈ stage.tables.orders ∧ coupon ∈ stage.tables.coupons ∧
      stage.Overlooks (Operation.cancelForUser 2 1).flow (stage.tables.withoutOrder 1) ∧
      stage.Overlooks (Operation.createOrder ⟨2, [⟨1, 1, some 1⟩], none⟩).flow
        (stage.tables.withoutCoupon 1) ∧
      Shop.PassesOver deeds 6 := by
  have horder : order ∈ stage.tables.orders := by decide +kernel
  have hcoupon : coupon ∈ stage.tables.coupons := by decide +kernel
  have hdiscreet := what_belongs_to_others_looks_absent deeds
  have hstage : stage.tables = (Shop.after deeds).tables := by rw [stage]
  refine ⟨horder, hcoupon, ?_, ?_, ?_⟩
  · exact hdiscreet.orders stage hstage order horder (by decide) (.cancelForUser 2 1) 2
      (by decide) (by decide)
  · exact hdiscreet.coupons stage hstage coupon hcoupon (by decide) ⟨2, [⟨1, 1, some 1⟩], none⟩
      (by decide) (by decide)
  · exact hdiscreet.interleaved order (hstage ▸ horder) 6 2 (by decide +kernel) (by decide)

end Checkout
