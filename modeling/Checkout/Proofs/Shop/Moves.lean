-- How orders move on. An order is pending at first, then it is confirmed or
-- cancelled, and none ever moves back. Only those operations move an order
-- whose business it is, and a settlement only as its event calls for.
import Checkout.Proofs.Shop.Conduct

namespace Checkout

open Store Service

/-! ## What moves an order -/

/-- How far an order has come. -/
def OrderStatus.rank : OrderStatus → Nat
  | .pending => 0
  | .confirmed => 1
  | .cancelled => 2

/-- The order that a payment event is about, and what is to become of it. -/
def Event.verdict? : Event → Option (Id × OrderStatus)
  | .paymentCompleted p => some (p.orderId, .confirmed)
  | .paymentFailed p _ => some (p.orderId, .cancelled)
  | _ => none

namespace Act

/-- The order that was to be moved, and what was to become of it. -/
def move? : Act → Option (Id × OrderStatus)
  | .asked (.confirmOrder id) _ => some (id, .confirmed)
  | .asked (.cancelOrder id) _ => some (id, .cancelled)
  | _ => none

/-- An order was to be put out of sight. -/
def archives : Act → Bool
  | .asked (.archiveOrder _) _ => true
  | _ => false

/-- An order could not be cancelled, because a balance would have outgrown its 64 bits. -/
def overflows : Act → Bool
  | .asked (.cancelOrder _) (.error (.invalid (.balanceTooLarge _ _))) => true
  | _ => false

end Act

/-- The event that the operation settles an order for. -/
def Service.Operation.event? : Operation → Option Event
  | .settle event => some event
  | _ => none

/-- What the operation does to orders is its business. A settlement moves only the order of its
event, and as the event calls for. -/
structure Guided (op : Operation) (_past : List Act) (act : Act) : Prop where
  moves : ∀ move, act.move? = some move →
    op.business = .moving ∧ ∀ event ∈ op.event?, event.verdict? = some move
  archives : act.archives = true → op.business = .moving ∧ op.event? = none

/-- A settlement has tried what its event calls for. -/
def Carried (op : Operation) (acts : List Act) (_answer : op.Answer) : Prop :=
  ∀ event ∈ op.event?, ∀ move, event.verdict? = some move → ∃ act ∈ acts, act.move? = some move

namespace Guided

variable {op : Operation} {past : List Act} {act : Act} {event : Event}

theorem of_still (hmove : act.move? = none) (harchives : act.archives = false) :
    Guided op past act where
  moves move h := by simp [hmove] at h
  archives h := by simp [harchives] at h

theorem of_verdict (hmove : act.move? = event.verdict?) (harchives : act.archives = false) :
    Guided (.settle event) past act where
  moves move h := by
    refine ⟨rfl, fun other hother => ?_⟩
    cases hother
    exact hmove.symm.trans h
  archives h := by simp [harchives] at h

end Guided

/-! ## Settlements -/

/-- What a call tries each time is tried if it is made at least once. After that it is ready to be
made again. -/
theorem persist_obeys {rule : List Act → Act → Prop} {ready tried : List Act → Prop}
    {call : Call Order} (hready : ∀ acts, tried acts → ready acts)
    (hcall : ∀ past, ready past → Call.Obeys rule (fun acts _ => tried acts) past call)
    (left : Nat) {past : List Act} (hpast : tried past ∨ ready past ∧ 0 < left) :
    (Settlement.persist call left).Obeys rule (fun acts _ => tried acts) past := by
  induction left generalizing past with
  | zero =>
    rcases hpast with hpast | ⟨-, hleft⟩
    · exact hpast
    · cases hleft
  | succ left ih =>
    unfold Settlement.persist
    have hfirst : ready past := hpast.elim (hready past) And.left
    refine (hcall past hfirst).flow.bind fun acts r hr => ?_
    cases r with
    | ok order => exact hr
    | error f =>
      simp only
      split
      · exact ih (.inl hr)
      · exact hr

section Orders

variable {event : Event} {id : Id} {past : List Act}

/-- A move that the event calls for, and that is announced once it is stored. -/
theorem announced_guided {q : Query Order} {tells : Order → Event} {move : Id × OrderStatus}
    (hverdict : event.verdict? = some move) (hmove : ∀ r, (Act.asked q r).move? = some move)
    (harchives : ∀ r, (Act.asked q r).archives = false) :
    Call.Obeys (Guided (.settle event)) (fun acts _ => ∃ act ∈ acts, act.move? = some move) past
      (do
        let order ← Call.query q
        Call.publish (tells order)
        return order) := by
  refine .query_bind (fun r => ?_) (fun order => ?_) fun f => ?_
  · exact .of_verdict ((hmove r).trans hverdict.symm) (harchives r)
  · refine .publish_bind (.of_still rfl rfl) (.pure ?_)
    exact ⟨.asked q (.ok order), by simp, hmove _⟩
  · exact ⟨.asked q (.error f), by simp, hmove _⟩

theorem confirm_guided (hverdict : event.verdict? = some (id, .confirmed)) :
    Call.Obeys (Guided (.settle event))
      (fun acts _ => ∃ act ∈ acts, act.move? = some (id, .confirmed)) past
      (Service.Orders.confirm id) :=
  announced_guided hverdict (fun _ => rfl) fun _ => rfl

theorem cancel_guided (hverdict : event.verdict? = some (id, .cancelled)) :
    Call.Obeys (Guided (.settle event))
      (fun acts _ => ∃ act ∈ acts, act.move? = some (id, .cancelled)) past
      (Service.Orders.cancel id) :=
  announced_guided hverdict (fun _ => rfl) fun _ => rfl

end Orders

theorem settle_guided (event : Event) :
    (Operation.settle event).flow.Obeys (Guided (.settle event)) (Carried (.settle event)) [] := by
  have hattempts : 0 < Settlement.attempts := by decide
  have hcarried : ∀ {move : Id × OrderStatus}, event.verdict? = some move →
      ∀ {acts : List Act} {answer : Option Order}, (∃ act ∈ acts, act.move? = some move) →
        Carried (.settle event) acts answer := by
    rintro move hverdict acts answer htried other hother found hfound
    cases hother
    cases hverdict.symm.trans hfound
    exact htried
  cases event with
  | paymentCompleted p =>
    exact (persist_obeys (fun _ _ => trivial)
      (fun _ _ => confirm_guided rfl) _ (.inr ⟨trivial, hattempts⟩)).imp
      fun acts answer => hcarried rfl
  | paymentFailed p reason =>
    exact (persist_obeys (fun _ _ => trivial)
      (fun _ _ => cancel_guided rfl) _ (.inr ⟨trivial, hattempts⟩)).imp
      fun acts answer => hcarried rfl
  | orderConfirmed order => exact fun other hother move hmove => by cases hother; cases hmove
  | orderCancelled order => exact fun other hother move hmove => by cases hother; cases hmove

/-! ## All operations -/

/-- Orders are moved and archived in one business only. -/
theorem Service.Business.allows_moving {b : Business} {act : Act} (h : b.allows act = true) :
    (∀ move, act.move? = some move → b = .moving) ∧ (act.archives = true → b = .moving) := by
  cases act with
  | asked query answer =>
    cases query
    case confirmOrder id => exact ⟨fun _ _ => beq_iff_eq.mp h, nofun⟩
    case cancelOrder id => exact ⟨fun _ _ => beq_iff_eq.mp h, nofun⟩
    case archiveOrder id => exact ⟨nofun, fun _ => beq_iff_eq.mp h⟩
    all_goals exact ⟨nofun, nofun⟩
  | requested user request answer => exact ⟨nofun, nofun⟩
  | lookedUp user key answer => exact ⟨nofun, nofun⟩
  | published event => exact ⟨nofun, nofun⟩

theorem guided_all (op : Operation) : op.flow.Obeys (Guided op) (Carried op) [] := by
  have hother : op.event? = none → op.flow.Obeys (Guided op) (Carried op) [] := by
    intro hop
    refine (op.flow_proper.obeys (fun _ => True) (fun past act _ hallows => ?_) trivial).imp
      fun acts answer _ event hevent => by simp [hop] at hevent
    obtain ⟨hmoves, harchives⟩ := Business.allows_moving hallows
    refine ⟨⟨fun move hmove => ⟨hmoves move hmove, ?_⟩, fun h => ⟨harchives h, hop⟩⟩, trivial⟩
    simp [hop]
  cases op
  case settle event => exact settle_guided event
  all_goals exact hother rfl

theorem guided_after (deeds : List Deed) : (Shop.after deeds).Following Guided Carried :=
  Shop.following_after guided_all deeds

/-! ## What a change does to the orders -/

/-- What an act leaves of the orders, and what was so before. -/
inductive OrderChange (t : Tables) (act : Act) : List Order → Prop where
  | same : OrderChange t act t.orders
  | placed {o : Order} (hs : o.status = .pending) (hshown : o.archived = false) :
    OrderChange t act (t.orders ++ [o])
  | moved {o : Order} {status : OrderStatus} (hmove : act.move? = some (o.id, status))
      (ho : o ∈ t.orders) (hrank : o.status.rank ≤ status.rank) :
    OrderChange t act
      (t.orders.map fun other => if other.id = o.id then { other with status } else other)
  | archived (id : Id) (harchives : act.archives = true) :
    OrderChange t act
      (t.orders.map fun other => if other.id = id then { other with archived := true } else other)

variable {t t' : Tables}

theorem change_orders {α : Type} {q : Query α} {a : α} {now : Moment} (h : Change now t q a t') :
    OrderChange t (.asked q (.ok a)) t'.orders := by
  cases h with
  | placed order => exact .placed rfl rfl
  | confirmed ho hs =>
    obtain ⟨hm, rfl⟩ := Tables.find?_eq_some (visible?_eq_some.mp ho).1
    exact .moved rfl hm (by simp [hs, OrderStatus.rank])
  | @cancelled _ o ho hs =>
    obtain ⟨hm, rfl⟩ := Tables.find?_eq_some (visible?_eq_some.mp ho).1
    refine .moved (o := o) rfl hm ?_
    cases o.status <;> simp [OrderStatus.rank]
  | archived => exact .archived _ rfl
  | _ => exact .same

namespace OrderChange

variable {act : Act} {orders : List Order}

/-- Every order is still there, and has not moved back. -/
theorem onward (h : OrderChange t act orders) (hk : t.Kept) : ∀ o ∈ t.orders,
    ∃ o' ∈ orders, o'.id = o.id ∧ o.status.rank ≤ o'.status.rank := by
  intro o ho
  cases h with
  | same => exact ⟨o, ho, rfl, Nat.le_refl _⟩
  | placed => exact ⟨o, List.mem_append_left _ ho, rfl, Nat.le_refl _⟩
  | @moved moved status _ hm hrank =>
    refine ⟨_, List.mem_map_of_mem ho, ?_⟩
    split
    · obtain rfl := List.inj_on_of_nodup_map hk.numbered.orders.nodup ho hm ‹_›
      exact ⟨rfl, hrank⟩
    · exact ⟨rfl, Nat.le_refl _⟩
  | archived id =>
    refine ⟨_, List.mem_map_of_mem ho, ?_⟩
    split <;> exact ⟨rfl, Nat.le_refl _⟩

/-- An order that is no longer pending was so before, or was just moved. -/
theorem origin (h : OrderChange t act orders) : ∀ o' ∈ orders, o'.status ≠ .pending →
    (∃ o ∈ t.orders, o.id = o'.id ∧ o.status = o'.status) ∨
      act.move? = some (o'.id, o'.status) := by
  intro o' ho' hs'
  cases h with
  | same => exact .inl ⟨o', ho', rfl, rfl⟩
  | placed hs =>
    rcases List.mem_append.mp ho' with ho' | ho'
    · exact .inl ⟨o', ho', rfl, rfl⟩
    · rw [List.mem_singleton.mp ho'] at hs'
      exact absurd hs hs'
  | @moved moved status hmove =>
    obtain ⟨o, ho, rfl⟩ := List.mem_map.mp ho'
    by_cases hid : o.id = moved.id
    · rw [if_pos hid, hid]
      exact .inr hmove
    · rw [if_neg hid]
      exact .inl ⟨o, ho, rfl, rfl⟩
  | archived id =>
    obtain ⟨o, ho, rfl⟩ := List.mem_map.mp ho'
    left
    refine ⟨o, ho, ?_⟩
    split <;> exact ⟨rfl, rfl⟩

/-- Orders are put out of sight only by archiving them. -/
theorem shown (h : OrderChange t act orders) (harchives : act.archives = false)
    (hshown : ∀ o ∈ t.orders, o.archived = false) : ∀ o ∈ orders, o.archived = false := by
  intro o ho
  cases h with
  | same => exact hshown o ho
  | placed _ hnew =>
    rcases List.mem_append.mp ho with ho | ho
    · exact hshown o ho
    · rw [List.mem_singleton.mp ho]
      exact hnew
  | moved =>
    obtain ⟨o, hot, rfl⟩ := List.mem_map.mp ho
    split <;> exact hshown o hot
  | archived id h => simp [harchives] at h

end OrderChange

/-! ## On a sound medium -/

section Sound

variable {o : Order} (hk : t.Kept) (ho : t.visible? o.id = some o) (now : Moment)
include hk ho

/-- An order that is seen is no longer pending after it was to be confirmed. -/
theorem confirm_moves {answer : Except Fault Order}
    (h : (Query.confirmOrder o.id).answer (.calm now) t = (answer, t')) :
    ∃ o' ∈ t'.orders, o'.id = o.id ∧ OrderStatus.confirmed.rank ≤ o'.status.rank := by
  have hm : o ∈ t.orders := (Tables.find?_eq_some (visible?_eq_some.mp ho).1).1
  unfold Query.answer at h
  simp only [Query.work, Store.Orders.confirm_calm o.id now hk.numbered.orders.nodup, ho] at h
  by_cases hs : o.status = .pending
  · simp only [if_pos hs] at h
    cases h
    have hset : ({ o with status := .confirmed } : Order) ∈ (t.setStatus o.id .confirmed).orders :=
      List.mem_map.mpr ⟨o, hm, if_pos rfl⟩
    exact ⟨_, hset, rfl, Nat.le_refl _⟩
  · simp only [if_neg hs] at h
    cases h
    refine ⟨o, hm, rfl, ?_⟩
    revert hs
    cases o.status <;> simp [OrderStatus.rank]

/-- An order that is seen is cancelled after it was to be, unless a balance has no room for it. -/
theorem cancel_moves {answer : Except Fault Order}
    (h : (Query.cancelOrder o.id).answer (.calm now) t = (answer, t')) :
    (Act.asked (.cancelOrder o.id) answer).overflows = true ∨
      ∃ o' ∈ t'.orders, o'.id = o.id ∧ OrderStatus.cancelled.rank ≤ o'.status.rank := by
  have hm : o ∈ t.orders := (Tables.find?_eq_some (visible?_eq_some.mp ho).1).1
  unfold Query.answer at h
  simp only [Query.work, cancel_calm o.id now hk, ho] at h
  by_cases hs : o.status = .cancelled
  · simp only [if_pos hs] at h
    cases h
    exact .inr ⟨o, hm, rfl, by simp [hs]⟩
  by_cases hroom : (t.pointsOf o.userId).cents + o.finalTotal.cents ≤ 9223372036854775807
  · simp only [if_neg hs, if_pos hroom] at h
    cases h
    have hset : ({ o with status := .cancelled } : Order) ∈ (t.cancel o).orders :=
      List.mem_map.mpr ⟨o, hm, if_pos rfl⟩
    exact .inr ⟨_, hset, rfl, Nat.le_refl _⟩
  · simp only [if_neg hs, if_neg hroom] at h
    cases h
    exact .inl rfl

end Sound

/-- An order is moved by one of two queries. -/
theorem asked_of_move {α : Type} {flow rest : Flow α} {around : Surroundings} {act : Act}
    (h : flow.step around t = some (act, rest, t')) {id : Id} {status : OrderStatus}
    (hmove : act.move? = some (id, status)) :
    (∃ answer, status = .confirmed ∧ act = .asked (.confirmOrder id) answer ∧
      (Query.confirmOrder id).answer around.conditions t = (answer, t')) ∨
    (∃ answer, status = .cancelled ∧ act = .asked (.cancelOrder id) answer ∧
      (Query.cancelOrder id).answer around.conditions t = (answer, t')) := by
  cases flow with
  | ask query next =>
    unfold Flow.step at h
    cases query
    case confirmOrder other =>
      cases h
      cases hmove
      exact .inl ⟨_, rfl, rfl, rfl⟩
    case cancelOrder other =>
      cases h
      cases hmove
      exact .inr ⟨_, rfl, rfl, rfl⟩
    all_goals
      cases h
      cases hmove
  | done a => cases h
  | requestPayment user request next =>
    cases h
    cases hmove
  | fetchTransaction user key next =>
    cases h
    cases hmove
  | publish event next =>
    cases h
    cases hmove

/-- On a sound medium an order that is seen moves as far as it was to move, unless it was to be
cancelled and a balance has no room for it. -/
theorem moved_by_step {α : Type} {flow rest : Flow α} {around : Surroundings} {act : Act}
    (hk : t.Kept) (hshown : ∀ o ∈ t.orders, o.archived = false)
    (hsound : around.medium = .sound) (h : flow.step around t = some (act, rest, t'))
    {id : Id} {status : OrderStatus} (hmove : act.move? = some (id, status))
    (hid : id ∈ t.keys Order) :
    act.overflows = true ∨ ∃ o ∈ t'.orders, o.id = id ∧ status.rank ≤ o.status.rank := by
  have hcalm : around.conditions = .calm around.now := by
    unfold Surroundings.conditions
    rw [hsound]
    rfl
  obtain ⟨o, ho⟩ := Tables.exists_of_mem_keys hid
  obtain ⟨hm, rfl⟩ : o ∈ t.orders ∧ o.id = id := Tables.find?_eq_some ho
  have hvisible : t.visible? o.id = some o := visible?_eq_some.mpr ⟨ho, hshown o hm⟩
  rcases asked_of_move h hmove with ⟨answer, rfl, rfl, hasked⟩ | ⟨answer, rfl, rfl, hasked⟩
  · rw [hcalm] at hasked
    exact .inr (confirm_moves hk hvisible around.now hasked)
  · rw [hcalm] at hasked
    exact cancel_moves hk hvisible around.now hasked

end Checkout
