-- What is announced mirrors what was done. Each order that is confirmed or
-- cancelled, each payment that is completed and each that a report or a sweep
-- fails is announced once, by the call that did it, with the row as it was
-- stored; and nothing else is announced.
import Checkout.Proofs.Shop.Agreement
import Checkout.Proofs.Shop.Lifecycle
import Checkout.Proofs.Shop.Tidings
import Checkout.Proofs.Shop.Turn

namespace Checkout

open Store Service

/-! ## What was announced, and what is announced next -/

/-- The event that the flow announces as its next step. -/
def Service.Flow.due? {α : Type} : Flow α → Option Event
  | .publish event _ => some event
  | _ => none

/-- What a call that is prompt announces next is what is due. -/
theorem Service.Flow.Obeys.due?_eq {op : Operation} {past : List Act} {f : Flow op.Answer}
    (h : f.Obeys (Prompt op) (Quits op) past) : f.due? = op.due? past := by
  cases f with
  | done a => exact h.symm
  | ask query next => exact (h (.error (.overflow .add))).1
  | requestPayment user request next => exact (h (.error (.notPermitted ""))).1
  | fetchTransaction user key next => exact (h (.error (.notPermitted ""))).1
  | publish event next => exact h.1

namespace Shop

/-- All that was announced, each event with the call that announced it. -/
def published (s : Shop) : List (Nat × Event) :=
  s.record.filterMap fun entry => entry.2.announced?.map (entry.1, ·)

/-- The event that the call of a number announces as its next step. -/
def dueOf? (s : Shop) (call : Nat) : Option Event := s.calls[call]?.bind (·.rest.due?)

/-- All that is announced next, each event with its call. -/
def due (s : Shop) : List (Nat × Event) :=
  (List.range s.calls.length).filterMap fun call => (s.dueOf? call).map (call, ·)

/-- All that was announced or is announced next. -/
def announcements (s : Shop) : List (Nat × Event) := s.published ++ s.due

/-- All that the calls have done and are to announce. -/
def tidings (s : Shop) : List (Nat × Event) :=
  s.record.filterMap fun entry =>
    ((s.opOf? entry.1).bind (·.tidings? entry.2)).map (entry.1, ·)

end Shop

/-- Where a function changes at one number, so does what it gives for all numbers. -/
theorem filterMap_range_change {β : Type} {n number : Nat} (hnumber : number < n)
    {f g : Nat → Option β} (h : ∀ other, other ≠ number → g other = f other) :
    ∃ others, ((List.range n).filterMap f).Perm ((f number).toList ++ others) ∧
      ((List.range n).filterMap g).Perm ((g number).toList ++ others) := by
  have hsplit : (List.range n).Perm (number :: (List.range n).erase number) :=
    List.perm_cons_erase (List.mem_range.mpr hnumber)
  have hcons : ∀ (f : Nat → Option β) (l : List Nat),
      (number :: l).filterMap f = (f number).toList ++ l.filterMap f := by
    intro f l
    cases hf : f number <;> simp [hf]
  have hsame : ((List.range n).erase number).filterMap g =
      ((List.range n).erase number).filterMap f := by
    apply List.filterMap_congr
    intro other hother
    exact h other ((List.nodup_range.mem_erase_iff.mp hother).1)
  refine ⟨((List.range n).erase number).filterMap f, ?_, ?_⟩
  · rw [← hcons]
    exact hsplit.filterMap f
  · rw [← hsame, ← hcons]
    exact hsplit.filterMap g

namespace Shop

/-! ## One step more -/

section Step

variable {s : Shop} {call : Nat} {running : Running} {rest : Flow running.op.Answer} {act : Act}
  (hcall : s.calls[call]? = some running) (tables : Tables)
include hcall

theorem tidings_step :
    Shop.tidings ⟨tables, s.calls.set call { running with rest }, s.record ++ [(call, act)]⟩ =
      s.tidings ++ ((running.op.tidings? act).map (call, ·)).toList := by
  unfold tidings
  simp only [opOf?_step hcall, List.filterMap_append]
  cases ht : running.op.tidings? act <;> simp [opOf?_of_call hcall, ht]

variable (rest) in
/-- By a step of a call, what the other calls announce next stays the same. -/
theorem due_step (record : List (Nat × Act)) :
    let s' : Shop := ⟨tables, s.calls.set call { running with rest }, record⟩
    ∃ others, s.due.Perm (((s.dueOf? call).map (call, ·)).toList ++ others) ∧
      s'.due.Perm ((rest.due?.map (call, ·)).toList ++ others) := by
  intro s'
  have hlt : call < s.calls.length := (List.getElem?_eq_some_iff.mp hcall).1
  have hnow : s'.dueOf? call = rest.due? := by
    have hself : s'.calls[call]? = some { running with rest } := List.getElem?_set_self hlt
    rw [dueOf?, hself, Option.bind_some]
  have hothers : ∀ other, other ≠ call →
      (s'.dueOf? other).map (other, ·) = (s.dueOf? other).map (other, ·) := by
    intro other hother
    have hsame : s'.calls[other]? = s.calls[other]? := List.getElem?_set_ne (Ne.symm hother)
    rw [dueOf?, hsame, dueOf?]
  have hlength : s'.calls.length = s.calls.length := List.length_set
  obtain ⟨others, hdue, hdue'⟩ := filterMap_range_change hlt hothers
  rw [hnow, ← hlength] at hdue'
  exact ⟨others, hdue, hdue'⟩

end Step

theorem published_step (s : Shop) (tables : Tables) (calls : List Running) (call : Nat) (act : Act) :
    Shop.published ⟨tables, calls, s.record ++ [(call, act)]⟩ =
      s.published ++ (act.announced?.map (call, ·)).toList := by
  unfold published
  rw [List.filterMap_append]
  cases ha : act.announced? <;> simp [ha]

section Announced

variable {deeds : List Deed}

/-- What a call announces next is what its last act calls for. -/
theorem dueOf?_eq {call : Nat} {running : Running}
    (hcall : (after deeds).calls[call]? = some running) :
    (after deeds).dueOf? call = running.op.due? (actsOf call (after deeds).record) := by
  rw [dueOf?, hcall]
  exact ((prompt_after deeds).rest call running hcall).due?_eq

/-- Calls that are new have nothing to announce, and nothing is known of them. -/
theorem announcements_aside {s' : Shop} (hrecord : s'.record = (after deeds).record)
    (more : List Running) (hcalls : s'.calls = (after deeds).calls ++ more)
    (hfresh : ∀ running ∈ more, running.rest = running.op.flow) :
    s'.published = (after deeds).published ∧ s'.due = (after deeds).due ∧
      s'.tidings = (after deeds).tidings := by
  have hold : ∀ call, call < (after deeds).calls.length →
      s'.calls[call]? = (after deeds).calls[call]? := by
    intro call hlt
    rw [hcalls, List.getElem?_append_left hlt]
  refine ⟨by rw [published, hrecord, published], ?_, ?_⟩
  · have hnew : ((List.range more.length).map ((after deeds).calls.length + ·)).filterMap
        (fun call => (s'.dueOf? call).map (call, ·)) = [] := by
      rw [List.filterMap_eq_nil_iff]
      intro call hc
      obtain ⟨i, hi, rfl⟩ := List.mem_map.mp hc
      have hi : i < more.length := List.mem_range.mp hi
      have hlast : s'.calls[(after deeds).calls.length + i]? = some more[i] := by
        rw [hcalls, List.getElem?_append_right (Nat.le_add_right _ _)]
        simp [hi]
      have hquiet : more[i].rest.due? = none := by
        rw [hfresh _ (List.getElem_mem hi)]
        exact (prompt_all more[i].op).due?_eq
      simp [dueOf?, hlast, hquiet]
    unfold due
    rw [hcalls, List.length_append, List.range_add, List.filterMap_append, hnew, List.append_nil]
    apply List.filterMap_congr
    intro call hc
    rw [dueOf?, hold call (List.mem_range.mp hc), dueOf?]
  · unfold tidings
    rw [hrecord]
    apply List.filterMap_congr
    intro entry he
    obtain ⟨earlier, later, hsplit⟩ := List.append_of_mem he
    obtain ⟨running, hcall, -⟩ := (prompt_after deeds).acts earlier entry later hsplit
    rw [opOf?, hold entry.1 (List.getElem?_eq_some_iff.mp hcall).1, opOf?]

/-- A step of a call announces what was due, or nothing if nothing was, and what it brings about is
due next. -/
theorem announcements_step {call : Nat} {around : Surroundings} {running : Running} {act : Act}
    {rest : Flow running.op.Answer} {tables : Tables}
    (hcall : (after deeds).calls[call]? = some running)
    (hstep : running.rest.step around (after deeds).tables = some (act, rest, tables))
    (h : (after deeds).announcements.Perm (after deeds).tidings) :
    (Shop.announcements ⟨tables, (after deeds).calls.set call { running with rest },
      (after deeds).record ++ [(call, act)]⟩).Perm
        ((after deeds).tidings ++ ((running.op.tidings? act).map (call, ·)).toList) := by
  obtain ⟨hrule, hrest⟩ := ((prompt_after deeds).rest call running hcall).step hstep
  have hbefore : (after deeds).dueOf? call = act.announced? := (dueOf?_eq hcall).trans hrule.symm
  have hafter : rest.due? = running.op.tidings? act := by
    rw [hrest.due?_eq, Operation.due?_concat]
  obtain ⟨others, hdue, hdue'⟩ :=
    due_step rest hcall tables ((after deeds).record ++ [(call, act)])
  rw [hbefore] at hdue
  rw [hafter] at hdue'
  rw [announcements, published_step]
  generalize (act.announced?.map (call, ·)).toList = said at hdue ⊢
  generalize ((running.op.tidings? act).map (call, ·)).toList = new at hdue' ⊢
  -- what was due is said now, and the rest stays due beside what is new
  have hearlier : ((after deeds).published ++ said ++ others).Perm (after deeds).announcements := by
    rw [List.append_assoc, announcements]
    exact hdue.symm.append_left _
  have hswap : ((after deeds).published ++ said ++ (new ++ others)).Perm
      ((after deeds).published ++ said ++ others ++ new) := by
    rw [List.append_assoc _ others new]
    exact List.perm_append_comm.append_left _
  have hdone := (hdue'.append_left ((after deeds).published ++ said)).trans
    (hswap.trans (hearlier.append_right new))
  exact hdone.trans (h.append_right new)

end Announced

end Shop

/-- After any run, what was announced or is announced next is what the calls have done, each thing
once. -/
theorem announcements_perm (deeds : List Deed) :
    (Shop.after deeds).announcements.Perm (Shop.after deeds).tidings := by
  induction deeds using List.reverseRecOn with
  | nil => exact .refl []
  | append_singleton deeds deed ih =>
    have hturn := Shop.turn_after deeds deed
    generalize Shop.after (deeds ++ [deed]) = s' at hturn
    cases hturn with
    | step hcall hstep =>
      rw [Shop.tidings_step hcall]
      exact Shop.announcements_step hcall hstep ih
    | aside hrecord _ _ more hcalls hfresh =>
      obtain ⟨hpublished, hdue, htidings⟩ := Shop.announcements_aside hrecord more hcalls hfresh
      rw [Shop.announcements, hpublished, hdue, htidings]
      exact ih

/-! ## How orders and payments stand -/

/-- How an order or a payment stands. -/
inductive Standing where
  | order (id : Id) (status : OrderStatus)
  | payment (id : Id) (status : PaymentStatus)
deriving DecidableEq

/-- It is not where everything begins. -/
def Standing.isNews : Standing → Bool
  | .order _ status => status != .pending
  | .payment _ status => status != .pending

namespace Store.Tables

/-- So it stands in the tables. -/
def Shows (t : Tables) : Standing → Prop
  | .order id status => ∃ o ∈ t.orders, o.id = id ∧ o.status = status
  | .payment id status => ∃ p ∈ t.payments, p.id = id ∧ p.status = status

/-- So it stood at some time, as far as the tables tell. -/
def Passed (t : Tables) : Standing → Prop
  | .order id status => ∃ o ∈ t.orders, o.id = id ∧ status.rank ≤ o.status.rank
  | .payment id status => ∃ p ∈ t.payments, p.id = id ∧ p.status = status

/-- It depends on the orders and the payments alone. -/
theorem shows_congr {t t' : Tables} (horders : t'.orders = t.orders)
    (hpayments : t'.payments = t.payments) (standing : Standing) :
    t'.Shows standing ↔ t.Shows standing := by
  cases standing with
  | order id status => rw [Shows, Shows, horders]
  | payment id status => rw [Shows, Shows, hpayments]

theorem Shows.passed {t : Tables} {standing : Standing} (h : t.Shows standing) :
    t.Passed standing := by
  cases standing with
  | order id status =>
    obtain ⟨o, ho, hid, rfl⟩ := h
    exact ⟨o, ho, hid, Nat.le_refl _⟩
  | payment id status => exact h

end Store.Tables

namespace Event

/-- How the order or the payment stands that the event is about. -/
def standing : Event → Standing
  | .paymentCompleted p => .payment p.id .completed
  | .paymentFailed p _ => .payment p.id .failed
  | .orderConfirmed o => .order o.id .confirmed
  | .orderCancelled o => .order o.id .cancelled

/-- The row that the event carries is in the tables, and is as the event says. -/
def Stands (t : Tables) : Event → Prop
  | .paymentCompleted p => p ∈ t.payments ∧ p.status = .completed
  | .paymentFailed p reason => p ∈ t.payments ∧ p.status = .failed ∧ p.failureReason = some reason
  | .orderConfirmed o => o ∈ t.orders ∧ o.status = .confirmed
  | .orderCancelled o => o ∈ t.orders ∧ o.status = .cancelled

/-- What the event tells came about between two states of the tables. -/
structure CameAbout (event : Event) (before after : Tables) : Prop where
  fresh : ¬ before.Shows event.standing
  stands : event.Stands after

theorem Stands.shows {t : Tables} {event : Event} (h : event.Stands t) :
    t.Shows event.standing := by
  cases event with
  | paymentCompleted p => exact ⟨p, h.1, rfl, h.2⟩
  | paymentFailed p reason => exact ⟨p, h.1, rfl, h.2.1⟩
  | orderConfirmed o => exact ⟨o, h.1, rfl, h.2⟩
  | orderCancelled o => exact ⟨o, h.1, rfl, h.2⟩

end Event

/-- Who brings it about is to announce it. A failed payment is announced only by who reports or
sweeps it. -/
def Service.Operation.tells (op : Operation) : Standing → Bool
  | .payment _ .failed => op.announces
  | _ => true

/-! ## What a change tells -/

variable {t t' : Tables}

/-- What an act of an operation calls for is what is new in the tables. -/
structure Told (op : Operation) (t : Tables) (act : Act) (t' : Tables) : Prop where
  genuine : ∀ event, op.tidings? act = some event →
    ¬ t.Passed event.standing ∧ event.Stands t' ∧ op.tells event.standing = true
  told : ∀ standing, standing.isNews = true → t'.Shows standing → ¬ t.Shows standing →
    ¬ t.Passed standing ∧
      (op.tells standing = true → ∃ event, op.tidings? act = some event ∧ event.standing = standing)

/-- What an act can have brought about. -/
def Act.CallsFor (act : Act) : Standing → Prop
  | .order id status => act.move? = some (id, status)
  | .payment id status => ∃ got, act.settling? = some ⟨id, status, some got⟩

namespace Act.CallsFor

variable {act : Act} {standing : Standing} {id : Id}

/-- Only that of an order which was to be moved. -/
theorem eq_order {status : OrderStatus} (h : act.CallsFor standing)
    (hmove : act.move? = some (id, status)) (hsettling : act.settling? = none) :
    standing = .order id status := by
  cases standing with
  | order other status' =>
    cases hmove.symm.trans h
    rfl
  | payment other status' =>
    obtain ⟨got, hgot⟩ := h
    rw [hsettling] at hgot
    cases hgot

/-- Only that of a payment which was to be settled. -/
theorem eq_payment {status : PaymentStatus} {outcome : Option Payment} (h : act.CallsFor standing)
    (hmove : act.move? = none) (hsettling : act.settling? = some ⟨id, status, outcome⟩) :
    standing = .payment id status := by
  cases standing with
  | order other status' =>
    rw [CallsFor, hmove] at h
    cases h
  | payment other status' =>
    obtain ⟨got, hgot⟩ := h
    cases hsettling.symm.trans hgot
    rfl

end Act.CallsFor

/-- A settled payment was so before, or was just settled. -/
theorem PaymentChange.origin {act : Act} {payments : List Payment}
    (h : PaymentChange t act payments) : ∀ p' ∈ payments, p'.status ≠ .pending →
      (∃ p ∈ t.payments, p.id = p'.id ∧ p.status = p'.status) ∨
        ∃ got, act.settling? = some ⟨p'.id, p'.status, some got⟩ := by
  intro p' hp' hs'
  cases h with
  | same => exact .inl ⟨p', hp', rfl, rfl⟩
  | missed => exact .inl ⟨p', hp', rfl, rfl⟩
  | added _ _ _ hs =>
    rcases List.mem_append.mp hp' with hp' | hp'
    · exact .inl ⟨p', hp', rfl, rfl⟩
    · rw [List.mem_singleton.mp hp'] at hs'
      exact absurd hs hs'
  | keyed =>
    obtain ⟨p, hp, rfl⟩ := List.mem_map.mp hp'
    left
    refine ⟨p, hp, ?_⟩
    split <;> exact ⟨rfl, rfl⟩
  | @settled settled status reason completedAt hsettling =>
    obtain ⟨p, hp, rfl⟩ := List.mem_map.mp hp'
    by_cases hid : p.id = settled.id
    · rw [if_pos hid, hid]
      exact .inr ⟨_, hsettling⟩
    · rw [if_neg hid]
      exact .inl ⟨p, hp, rfl, rfl⟩

/-- What is new was called for. -/
theorem callsFor_of_change {α : Type} {q : Query α} {a : α} {now : Moment}
    (h : Change now t q a t') {standing : Standing} (hnews : standing.isNews = true)
    (hshows : t'.Shows standing) :
    t.Shows standing ∨ (Act.asked q (.ok a)).CallsFor standing := by
  cases standing with
  | order id status =>
    obtain ⟨o, ho, rfl, rfl⟩ := hshows
    exact (change_orders h).origin o ho (by simpa [Standing.isNews] using hnews)
  | payment id status =>
    obtain ⟨p, hp, rfl, rfl⟩ := hshows
    exact (change_payments h).origin p hp (by simpa [Standing.isNews] using hnews)

namespace Told

variable {op : Operation} {act : Act}

/-- Nothing is new. -/
theorem of_still (htidings : op.tidings? act = none)
    (hsame : ∀ standing, standing.isNews = true → t'.Shows standing → t.Shows standing) :
    Told op t act t' where
  genuine event h := by simp [htidings] at h
  told standing hnews hshows hnot := absurd (hsame standing hnews hshows) hnot

/-- One thing is new. -/
theorem of_event (event : Event)
    (htidings : op.tidings? act = if op.tells event.standing then some event else none)
    (hfresh : ¬ t.Passed event.standing) (hstands : event.Stands t')
    (honly : ∀ standing, standing.isNews = true → t'.Shows standing → t.Shows standing ∨
      standing = event.standing) : Told op t act t' where
  genuine other hother := by
    rw [htidings] at hother
    split at hother
    · cases hother
      exact ⟨hfresh, hstands, ‹_›⟩
    · cases hother
  told standing hnews hshows hnot := by
    obtain rfl := (honly standing hnews hshows).resolve_left hnot
    refine ⟨hfresh, fun htells => ⟨event, ?_, rfl⟩⟩
    rw [htidings, if_pos htells]

/-- No order and no payment was to be changed. -/
theorem of_uncalled (hcalled : ∀ standing, standing.isNews = true → t'.Shows standing →
      t.Shows standing ∨ act.CallsFor standing) (htidings : op.tidings? act = none)
    (hmove : act.move? = none) (hsettling : act.settling? = none) : Told op t act t' := by
  refine .of_still htidings fun standing hnews hshows => ?_
  rcases hcalled standing hnews hshows with hbefore | hcalls
  · exact hbefore
  · cases standing with
    | order id status =>
      rw [Act.CallsFor, hmove] at hcalls
      cases hcalls
    | payment id status =>
      obtain ⟨got, hgot⟩ := hcalls
      rw [hsettling] at hgot
      cases hgot

end Told

/-- What does not succeed calls for nothing. -/
theorem tidings?_failed (op : Operation) {act : Act} (h : act.succeeded = false) :
    op.tidings? act = none := by
  cases act with
  | asked query answer =>
    cases answer with
    | ok a => cases h
    | error f => cases query <;> simp [Operation.tidings?, Act.news?]
  | requested | lookedUp | published => exact op.tidings?_eq_none rfl rfl

/-- An answer that tells of no change calls for nothing. -/
theorem tidings?_still (op : Operation) {α : Type} {q : Query α} {a : α}
    (h : q.changesNothing a = true) : op.tidings? (.asked q (.ok a)) = none := by
  have hnews : (Act.asked q (.ok a)).news? = none := by
    cases q
    case completePayment id =>
      obtain rfl : a = none := Option.isNone_iff_eq_none.mp h
      rfl
    case failPayment id reason =>
      obtain rfl : a = none := Option.isNone_iff_eq_none.mp h
      rfl
    all_goals rfl
  have hmove : (Act.asked q (.ok a)).move? = none := by
    cases q
    case confirmOrder id => cases h
    case cancelOrder id => cases h
    all_goals rfl
  exact op.tidings?_eq_none hmove hnews

theorem not_passed_order (hk : t.Kept) {o : Order} (ho : o ∈ t.orders) {status : OrderStatus}
    (hrank : o.status.rank < status.rank) : ¬ t.Passed (.order o.id status) := by
  rintro ⟨other, hother, hid, hle⟩
  obtain rfl := List.inj_on_of_nodup_map hk.numbered.orders.nodup hother ho hid
  omega

theorem not_passed_payment (hk : t.Kept) {p : Payment} (hp : p ∈ t.payments)
    (hs : p.status = .pending) {status : PaymentStatus} (hstatus : status ≠ .pending) :
    ¬ t.Passed (.payment p.id status) := by
  rintro ⟨other, hother, hid, rfl⟩
  obtain rfl := payment_eq_of_id hk hp hother hid
  exact hstatus hs

/-- Whatever a query changes, what its act calls for is what is new. -/
theorem told_change {α : Type} {q : Query α} {a : α} {now : Moment} (hk : t.Kept)
    (h : Change now t q a t') (op : Operation)
    (hcompletes : (Act.asked q (.ok a)).completes = true → op.announces = true) :
    Told op t (.asked q (.ok a)) t' := by
  have honly : ∀ standing, standing.isNews = true → t'.Shows standing →
      t.Shows standing ∨ (Act.asked q (.ok a)).CallsFor standing :=
    fun standing => callsFor_of_change h
  cases h with
  | still hnothing htells => exact .of_still (tidings?_still op hnothing) fun _ _ h => h
  | @confirmed id o ho hs =>
    obtain ⟨hm, rfl⟩ := Tables.find?_eq_some (visible?_eq_some.mp ho).1
    refine .of_event (.orderConfirmed { o with status := .confirmed }) rfl
      (not_passed_order hk hm (by simp [hs, OrderStatus.rank])) ⟨?_, rfl⟩ ?_
    · exact List.mem_map.mpr ⟨o, hm, if_pos rfl⟩
    · intro standing hnews hshows
      exact (honly standing hnews hshows).imp_right fun h => h.eq_order rfl rfl
  | @cancelled id o ho hs =>
    obtain ⟨hm, rfl⟩ := Tables.find?_eq_some (visible?_eq_some.mp ho).1
    refine .of_event (.orderCancelled { o with status := .cancelled }) rfl
      (not_passed_order hk hm ?_) ⟨?_, rfl⟩ ?_
    · revert hs
      cases o.status <;> simp [OrderStatus.rank]
    · exact List.mem_map.mpr ⟨o, hm, if_pos rfl⟩
    · intro standing hnews hshows
      exact (honly standing hnews hshows).imp_right fun h => h.eq_order rfl rfl
  | @completed id p hp hs =>
    obtain ⟨hm, rfl⟩ := Tables.find?_eq_some hp
    refine .of_event (.paymentCompleted { p with
      status := .completed, failureReason := none, completedAt := some now }) ?_
      (not_passed_payment hk hm hs (by simp)) ⟨?_, rfl⟩ ?_
    · simp only [Operation.tidings?, Act.news?, hcompletes rfl]
      rfl
    · exact List.mem_map.mpr ⟨p, hm, if_pos rfl⟩
    · intro standing hnews hshows
      exact (honly standing hnews hshows).imp_right fun h => h.eq_payment rfl rfl
  | @failed id p reason hp hs =>
    obtain ⟨hm, rfl⟩ := Tables.find?_eq_some hp
    refine .of_event (.paymentFailed { p with
      status := .failed, failureReason := some reason, completedAt := none } reason) rfl
      (not_passed_payment hk hm hs (by simp)) ⟨?_, rfl, rfl⟩ ?_
    · exact List.mem_map.mpr ⟨p, hm, if_pos rfl⟩
    · intro standing hnews hshows
      exact (honly standing hnews hshows).imp_right fun h => h.eq_payment rfl rfl
  | joined | charged | stocked | issued | placed | archived | opened | keyed =>
    exact .of_uncalled honly (op.tidings?_eq_none rfl rfl) rfl rfl

/-- In any run, what a step of a call calls for is what is new by it. -/
theorem told_step {deeds : List Deed} {call : Nat} {around : Surroundings} {running : Running}
    {act : Act} {rest : Flow running.op.Answer} {tables : Tables}
    (hcall : (Shop.after deeds).calls[call]? = some running)
    (hstep : running.rest.step around (Shop.after deeds).tables = some (act, rest, tables)) :
    Told running.op (Shop.after deeds).tables act tables := by
  have hs := Shop.inOrder_after deeds
  obtain ⟨hrule, -⟩ := ((diligent_after deeds).rest call running hcall).step hstep
  obtain ⟨-, ⟨β, q, a, rfl, hchange⟩ | ⟨hfailed, rfl⟩⟩ :=
    Shop.flow_step_cases hs.kept (hs.proper running (List.mem_of_getElem? hcall)) hstep
  · exact told_change hs.kept hchange running.op hrule.completes
  · exact .of_still (tidings?_failed running.op hfailed) fun _ _ h => h

/-! ## What came about in a run -/

theorem OrderStatus.Next.rank_lt {status status' : OrderStatus} (h : status.Next status') :
    status.rank < status'.rank := by
  cases h <;> decide

theorem Order.Moves.rank_le {o o' : Order} (h : o.Moves o') : o.status.rank ≤ o'.status.rank := by
  cases h with
  | stays => exact Nat.le_refl _
  | moved _ hnext => exact hnext.rank_lt.le
  | archived => exact Nat.le_refl _

theorem Order.Became.rank_le {o o' : Order} (h : o.Became o') :
    o.status.rank ≤ o'.status.rank := by
  obtain ⟨hmoves, -, -⟩ := h
  induction hmoves with
  | refl => exact Nat.le_refl _
  | tail _ hlast ih => exact ih.trans hlast.rank_le

/-- What is past stays past. -/
theorem passed_onward {deeds : List Deed} (later : List Deed) {standing : Standing}
    (hnews : standing.isNews = true) (h : (Shop.after deeds).tables.Passed standing) :
    (Shop.after (deeds ++ later)).tables.Passed standing := by
  cases standing with
  | order id status =>
    obtain ⟨o, ho, rfl, hrank⟩ := h
    obtain ⟨o', ho', hbecame⟩ := (ordersLasting_after deeds later).became o ho
    exact ⟨o', ho', hbecame.id_eq, hrank.trans hbecame.rank_le⟩
  | payment id status =>
    obtain ⟨p, hp, rfl, rfl⟩ := h
    obtain ⟨p', hp', hbecomes⟩ := becomes_after deeds later p hp
    have hsame : p' = p := hbecomes.final (by simpa [Standing.isNews] using hnews)
    exact ⟨p', hp', by rw [hsame], by rw [hsame]⟩

namespace Shop

/-- A call of the operation brings it about by its next step. -/
structure Brings (deeds : List Deed) (call : Nat) (around : Surroundings) (op : Operation)
    (standing : Standing) : Prop where
  asked : (after deeds).opOf? call = some op
  fresh : ¬ (after deeds).tables.Shows standing
  shows : (after (deeds ++ [.proceed call around])).tables.Shows standing

/-- A call of the operation brought it about. -/
def Brought (deeds : List Deed) (op : Operation) (standing : Standing) : Prop :=
  ∃ earlier call around later, deeds = earlier ++ .proceed call around :: later ∧
    Brings earlier call around op standing

/-- How often it was announced, or is announced next. -/
def timesTold (s : Shop) (standing : Standing) : Nat :=
  s.announcements.countP (·.2.standing == standing)

/-- What comes about in a run came about before, or by the last deed. -/
theorem brought_concat {deeds : List Deed} {deed : Deed} {op : Operation} {standing : Standing} :
    Brought (deeds ++ [deed]) op standing ↔ Brought deeds op standing ∨
      ∃ call around, deed = .proceed call around ∧ Brings deeds call around op standing := by
  constructor
  · rintro ⟨earlier, call, around, later, hsplit, hbrings⟩
    rcases List.eq_nil_or_concat later with rfl | ⟨later, last, rfl⟩
    · obtain ⟨rfl, hlast⟩ := List.append_inj' hsplit rfl
      cases hlast
      exact .inr ⟨call, around, rfl, hbrings⟩
    · rw [List.concat_eq_append, ← List.cons_append, ← List.append_assoc] at hsplit
      obtain ⟨rfl, -⟩ := List.append_inj' hsplit rfl
      exact .inl ⟨earlier, call, around, later, rfl, hbrings⟩
  · rintro (⟨earlier, call, around, later, rfl, hbrings⟩ | ⟨call, around, rfl, hbrings⟩)
    · exact ⟨earlier, call, around, later ++ [deed], by simp, hbrings⟩
    · exact ⟨deeds, call, around, [], rfl, hbrings⟩

/-- Nobody has brought it about, and it was never told. Or one operation has, and it was told once
if that is to tell it. -/
inductive Mirrors (deeds : List Deed) (standing : Standing) : Prop where
  | never (hcount : (after deeds).timesTold standing = 0)
      (hnobody : ∀ op, ¬ Brought deeds op standing) : Mirrors deeds standing
  | once (op : Operation) (hpassed : (after deeds).tables.Passed standing)
      (hbrought : Brought deeds op standing)
      (honly : ∀ other, Brought deeds other standing → other = op)
      (hcount : (after deeds).timesTold standing = if op.tells standing then 1 else 0) :
    Mirrors deeds standing

namespace Mirrors

variable {deeds : List Deed} {standing : Standing}

/-- The last deed did not bring it about. -/
theorem still (h : Mirrors deeds standing) (hnews : standing.isNews = true) (deed : Deed)
    (hcount : (after (deeds ++ [deed])).timesTold standing = (after deeds).timesTold standing)
    (hshows : (after (deeds ++ [deed])).tables.Shows standing →
      (after deeds).tables.Shows standing) : Mirrors (deeds ++ [deed]) standing := by
  have hbrought : ∀ op, Brought (deeds ++ [deed]) op standing ↔ Brought deeds op standing := by
    intro op
    rw [brought_concat, or_iff_left]
    rintro ⟨call, around, rfl, hbrings⟩
    exact hbrings.fresh (hshows hbrings.shows)
  cases h with
  | never hnone hnobody =>
    exact .never (hcount.trans hnone) fun op hop => hnobody op ((hbrought op).mp hop)
  | once op hpassed hop honly hone =>
    exact .once op (passed_onward [deed] hnews hpassed) ((hbrought op).mpr hop)
      (fun other ho => honly other ((hbrought other).mp ho)) (hcount.trans hone)

/-- The last deed brought it about, and could do so because nobody had done it before. -/
theorem brought (h : Mirrors deeds standing) {call : Nat} {around : Surroundings} {op : Operation}
    (hbrings : Brings deeds call around op standing)
    (hfresh : ¬ (after deeds).tables.Passed standing)
    (hcount : (after (deeds ++ [.proceed call around])).timesTold standing =
      (after deeds).timesTold standing + if op.tells standing then 1 else 0) :
    Mirrors (deeds ++ [.proceed call around]) standing := by
  cases h with
  | once _ hpassed => exact absurd hpassed hfresh
  | never hnone hnobody =>
    refine .once op hbrings.shows.passed (brought_concat.mpr (.inr ⟨call, around, rfl, hbrings⟩))
      (fun other ho => ?_) (by rw [hcount, hnone, Nat.zero_add])
    rcases brought_concat.mp ho with hearlier | ⟨other, _, hsame, hother⟩
    · exact absurd hearlier (hnobody _)
    · cases hsame
      exact Option.some.inj (hother.asked.symm.trans hbrings.asked)

end Mirrors

end Shop

/-- What comes about by an act is called for once, by who is to tell it, and nothing else is. -/
theorem Told.count {op : Operation} {act : Act} (h : Told op t act t') {standing : Standing}
    (hnews : standing.isNews = true) :
    (t'.Shows standing → ¬ t.Shows standing → ¬ t.Passed standing ∧
      (op.tidings? act).toList.countP (·.standing == standing) =
        if op.tells standing then 1 else 0) ∧
    ((t'.Shows standing → t.Shows standing) →
      (op.tidings? act).toList.countP (·.standing == standing) = 0) := by
  constructor
  · intro hshows hfresh
    obtain ⟨hpassed, htold⟩ := h.told standing hnews hshows hfresh
    refine ⟨hpassed, ?_⟩
    by_cases htells : op.tells standing = true
    · obtain ⟨event, hevent, rfl⟩ := htold htells
      simp [hevent, htells]
    · rw [if_neg htells, List.countP_eq_zero]
      intro event hevent hsame
      obtain ⟨-, -, htells'⟩ := h.genuine event (Option.mem_toList.mp hevent)
      exact htells (beq_iff_eq.mp hsame ▸ htells')
  · intro hsame
    rw [List.countP_eq_zero]
    intro event hevent hstanding
    obtain ⟨hpassed, hstands, -⟩ := h.genuine event (Option.mem_toList.mp hevent)
    rw [← beq_iff_eq.mp hstanding] at hsame
    exact hpassed (hsame hstands.shows).passed

namespace Shop

theorem timesTold_eq (deeds : List Deed) (standing : Standing) :
    (after deeds).timesTold standing =
      (after deeds).tidings.countP (·.2.standing == standing) :=
  (announcements_perm deeds).countP_eq _

/-- After any run, whatever may come about was told as often as it came about. -/
theorem mirrors_after (deeds : List Deed) {standing : Standing} (hnews : standing.isNews = true) :
    Mirrors deeds standing := by
  induction deeds using List.reverseRecOn with
  | nil =>
    refine .never rfl ?_
    rintro op ⟨earlier, call, around, later, hsplit, -⟩
    simp at hsplit
  | append_singleton deeds deed ih =>
    have hturn := turn_after deeds deed
    have hafter := timesTold_eq (deeds ++ [deed]) standing
    have hbefore := timesTold_eq deeds standing
    generalize hs' : after (deeds ++ [deed]) = s' at hturn hafter
    cases hturn with
    | aside hrecord horders hpayments more hcalls hfresh =>
      refine ih.still hnews deed ?_ ?_
      · rw [hs', hafter, hbefore, (announcements_aside hrecord more hcalls hfresh).2.2]
      · rw [hs']
        exact (Tables.shows_congr horders hpayments standing).mp
    | @step call around running act rest tables hcall hstep =>
      obtain ⟨hnew, hold⟩ := (told_step hcall hstep).count hnews
      have hcount : (after (deeds ++ [.proceed call around])).timesTold standing =
          (after deeds).timesTold standing +
            (running.op.tidings? act).toList.countP (·.standing == standing) := by
        rw [hs', hafter, hbefore, tidings_step hcall, List.countP_append]
        cases running.op.tidings? act <;> simp
      by_cases hshows : tables.Shows standing → (after deeds).tables.Shows standing
      · refine ih.still hnews _ ?_ ?_
        · rw [hcount, hold hshows, Nat.add_zero]
        · rw [hs']
          exact hshows
      · obtain ⟨hshows, hfresh⟩ := Classical.not_imp.mp hshows
        obtain ⟨hpassed, hone⟩ := hnew hshows hfresh
        refine ih.brought ⟨opOf?_of_call hcall, hfresh, ?_⟩ hpassed (hcount.trans (by rw [hone]))
        rw [hs']
        exact hshows

/-- A call brought about what it tells by a step of its own, and tells of the row as it was stored
then. -/
def Rooted (deeds : List Deed) (call : Nat) (event : Event) : Prop :=
  ∃ earlier around later, deeds = earlier ++ .proceed call around :: later ∧
    event.CameAbout (after earlier).tables (after (earlier ++ [.proceed call around])).tables

/-- All that is told came about. -/
theorem rooted_after (deeds : List Deed) :
    ∀ entry ∈ (after deeds).tidings, Rooted deeds entry.1 entry.2 := by
  intro entry he
  obtain ⟨⟨call, act⟩, hmem, htold⟩ := List.mem_filterMap.mp he
  obtain ⟨event, hevent, rfl⟩ := Option.map_eq_some_iff.mp htold
  obtain ⟨earlier, around, later, running, rest, rfl, hcall, hstep⟩ := step_of_mem_record hmem
  rw [opOf?_onward (.proceed call around :: later) (opOf?_of_call hcall),
    Option.bind_some] at hevent
  obtain ⟨hpassed, hstands, -⟩ := (told_step hcall hstep).genuine event hevent
  exact ⟨earlier, around, later, rfl, fun hshows => hpassed hshows.passed, hstands⟩

/-- What is so was brought about. -/
theorem brought_after (deeds : List Deed) {standing : Standing}
    (hshows : (after deeds).tables.Shows standing) : ∃ op, Brought deeds op standing := by
  induction deeds using List.reverseRecOn with
  | nil =>
    cases standing with
    | order id status =>
      obtain ⟨o, ho, -⟩ := hshows
      cases ho
    | payment id status =>
      obtain ⟨p, hp, -⟩ := hshows
      cases hp
  | append_singleton deeds deed ih =>
    by_cases hbefore : (after deeds).tables.Shows standing
    · obtain ⟨op, hop⟩ := ih hbefore
      exact ⟨op, brought_concat.mpr (.inl hop)⟩
    have hturn := turn_after deeds deed
    generalize hs' : after (deeds ++ [deed]) = s' at hturn hshows
    cases hturn with
    | aside hrecord horders hpayments =>
      exact absurd ((Tables.shows_congr horders hpayments standing).mp hshows) hbefore
    | @step call around running act rest tables hcall hstep =>
      refine ⟨running.op, brought_concat.mpr (.inr ⟨call, around, rfl, ?_⟩)⟩
      refine ⟨opOf?_of_call hcall, hbefore, ?_⟩
      rw [hs']
      exact hshows

/-- Calls that have ended have nothing left to announce. -/
theorem due_of_ended {s : Shop} (hended : ∀ running ∈ s.calls, running.ended = true) :
    s.announcements = s.published := by
  have hnone : s.due = [] := by
    rw [due, List.filterMap_eq_nil_iff]
    intro call _
    unfold dueOf?
    cases hcall : s.calls[call]? with
    | none => rfl
    | some running =>
      have hdone := hended running (List.mem_of_getElem? hcall)
      unfold Running.ended at hdone
      split at hdone
      · next answer hrest =>
        rw [Option.bind_some, hrest]
        rfl
      · cases hdone
  rw [announcements, hnone, List.append_nil]

/-! ## The law -/

/-- What is announced after some deeds is what came about by them. -/
structure Mirrored (deeds : List Deed) : Prop where
  /-- Whoever announces something brought it about, and tells of the row as it was stored then. -/
  rows : ∀ call event, (call, event) ∈ (after deeds).announcements → Rooted deeds call event
  /-- What an operation brought about is announced once, if the operation is to tell it. -/
  once : ∀ standing, standing.isNews = true → ∀ op, Brought deeds op standing →
    (after deeds).timesTold standing = if op.tells standing then 1 else 0
  /-- What nobody brought about is not announced. -/
  never : ∀ standing, standing.isNews = true → (∀ op, ¬ Brought deeds op standing) →
    (after deeds).timesTold standing = 0
  /-- Whatever is so was brought about by some operation. -/
  brought : ∀ standing, (after deeds).tables.Shows standing → ∃ op, Brought deeds op standing
  /-- Once all calls have ended, all of it was announced. -/
  ended : (∀ running ∈ (after deeds).calls, running.ended = true) →
    (after deeds).announcements = (after deeds).published

end Shop

/-- However the steps of calls interleave, that an order is confirmed or cancelled, that a payment
is completed, and that a report or a sweep has failed it is announced once, by the call that did
it, as its very next step and with the row as it was stored. Nothing else is announced. -/
theorem what_comes_about_is_announced_once (deeds : List Deed) : Shop.Mirrored deeds where
  rows call event hmem :=
    Shop.rooted_after deeds (call, event) ((announcements_perm deeds).mem_iff.mp hmem)
  once standing hnews op hop := by
    cases Shop.mirrors_after deeds hnews with
    | never _ hnobody => exact absurd hop (hnobody op)
    | once other _ _ honly hcount => rw [honly op hop, hcount]
  never standing hnews hnobody := by
    cases Shop.mirrors_after deeds hnews with
    | never hcount => exact hcount
    | once op _ hop => exact absurd hop (hnobody op)
  brought standing hshows := Shop.brought_after deeds hshows
  ended := Shop.due_of_ended

/-- An order that fails to be paid at first: each thing is announced by the call that did it. -/
example :
    (Shop.after TwoPayments.paidAfterFailure).announcements.map
        (fun entry => (entry.1, entry.2.standing)) =
      [(4, .payment 1 .failed), (6, .payment 2 .completed), (7, .order 1 .confirmed),
        (8, .order 1 .cancelled)] := by
  decide +kernel

end Checkout
