-- What becomes of a payment that the processor was asked for. The answer, or
-- that there was none, shows in three fields of that payment and nowhere else,
-- and the call that asked is given the payment as it is stored then.
import Checkout.Proofs.Shop.Payments
import Checkout.Proofs.Shop.Stage

namespace Checkout

open Store Service

/-! ## One payment among the others -/

namespace Payment

/-- The payment with all that an answer of the processor can show in. -/
def ending (p : Payment) (status : PaymentStatus) (reason key : Option String) : Payment :=
  { p with status, failureReason := reason, transactionKey := key }

/-- The payment with nothing that an answer of the processor can show in. -/
def bare (p : Payment) : Payment := p.ending .pending none none

/-- Nobody has said anything about the payment yet. -/
structure Fresh (p : Payment) : Prop where
  bare : p.bare = p
  completedAt : p.completedAt = none

/-- The payment as the guarded call for it leaves it, among all payments that there are. -/
def answered (p : Payment) (others : List Payment) :
    Except Gateway.Fault Gateway.Receipt → Payment
  | .error _ => p.ending .failed (some Payments.fallbackReason) none
  | .ok receipt =>
    if receipt.status = .failed then
      p.ending .failed (some (receipt.reason.getD Payments.declinedReason)) none
    else if others.any (·.transactionKey == some receipt.transactionKey) then
      p.ending .pending none none
    else p.ending .pending none (some receipt.transactionKey)

@[simp] theorem ending_id (p : Payment) (status : PaymentStatus) (reason key : Option String) :
    (p.ending status reason key).id = p.id := rfl

@[simp] theorem bare_ending (p : Payment) (status : PaymentStatus) (reason key : Option String) :
    (p.ending status reason key).bare = p.bare := rfl

variable {p : Payment} {others : List Payment} {answer : Except Gateway.Fault Gateway.Receipt}

theorem answered_cases (p : Payment) (others : List Payment)
    (answer : Except Gateway.Fault Gateway.Receipt) :
    ∃ status reason key, p.answered others answer = p.ending status reason key := by
  unfold answered
  split
  · exact ⟨_, _, _, rfl⟩
  · split
    · exact ⟨_, _, _, rfl⟩
    · split <;> exact ⟨_, _, _, rfl⟩

@[simp] theorem answered_id : (p.answered others answer).id = p.id := by
  obtain ⟨status, reason, key, h⟩ := p.answered_cases others answer
  rw [h, ending_id]

@[simp] theorem bare_answered : (p.answered others answer).bare = p.bare := by
  obtain ⟨status, reason, key, h⟩ := p.answered_cases others answer
  rw [h, bare_ending]

namespace Fresh

variable (h : p.Fresh)
include h

theorem status : p.status = .pending := by rw [← h.bare]; rfl

theorem transactionKey : p.transactionKey = none := by rw [← h.bare]; rfl

theorem unkeyed : (p.status == .pending && p.transactionKey.isNone) = true := by
  rw [h.status, h.transactionKey]
  rfl

end Fresh

end Payment

namespace Store.Tables

variable {t : Tables} {p : Payment}

/-- The tables with a payment in place of the one with its id. -/
def put (t : Tables) (p : Payment) : Tables :=
  { t with payments := t.payments.map fun q => if q.id = p.id then p else q }

/-- The tables without what an answer of the processor can show in, for the payment of an id. -/
def aside (t : Tables) (id? : Option Id) : Tables :=
  { t with payments := t.payments.map fun q => if some q.id = id? then q.bare else q }

/-- Where no other payment has its id, changing a payment is putting it as it is then. -/
theorem map_eq_put (hk : t.Kept) (hp : p ∈ t.payments) {change : Payment → Payment}
    (hid : (change p).id = p.id) :
    { t with payments := t.payments.map fun q => if q.id = p.id then change q else q } =
      t.put (change p) := by
  unfold put
  congr 1
  refine List.map_congr_left fun q hq => ?_
  rw [hid]
  split
  · rw [payment_eq_of_id hk hp hq ‹_›]
  · rfl

theorem put_self (hk : t.Kept) (hp : p ∈ t.payments) : t.put p = t := by
  have hput : { t with payments := t.payments.map fun q => if q.id = p.id then q else q } =
      t.put p := map_eq_put hk hp rfl
  simpa using hput.symm

theorem mem_put (hp : p ∈ t.payments) {p' : Payment} (hid : p'.id = p.id) :
    p' ∈ (t.put p').payments :=
  List.mem_map.mpr ⟨p, hp, if_pos hid.symm⟩

/-- What is put in place of a payment is not seen without what an answer can show in. -/
theorem aside_put (hk : t.Kept) (hp : p ∈ t.payments) {p' : Payment} (hid : p'.id = p.id)
    (hbare : p'.bare = p.bare) : (t.put p').aside (some p.id) = t.aside (some p.id) := by
  unfold put aside
  simp only [List.map_map, Option.some.injEq, hid]
  congr 1
  refine List.map_congr_left fun q hq => ?_
  by_cases hsame : q.id = p.id
  · obtain rfl := payment_eq_of_id hk hp hq hsame
    simp [hid, hbare]
  · simp [hsame]

/-! ## What the store makes of an answer -/

variable (hk : t.Kept) (hp : p ∈ t.payments) (hfresh : p.Fresh)
include hk hp hfresh

/-- A fresh payment can be marked as failed. -/
theorem failPayment_answer (now : Moment) (reason : String) :
    (Query.failPayment p.id reason).answer (.calm now) t =
      (.ok (some (p.ending .failed (some reason) none)),
        t.put (p.ending .failed (some reason) none)) := by
  have hfind : t.find? p.id = some p := Tables.find?_of_mem hk.numbered.payments.nodup hp
  have hending : p.ending .failed (some reason) none =
      { p with status := .failed, failureReason := some reason, completedAt := none } := by
    rw [Payment.ending, ← hfresh.transactionKey, ← hfresh.completedAt]
  have hput : t.settle p.id .failed (some reason) none =
      t.put (p.ending .failed (some reason) none) := by
    rw [hending]
    exact map_eq_put hk hp rfl
  have hwork : (Query.failPayment p.id reason).work (.calm now) t = _ :=
    Payments.settle_calm p.id .failed (some reason) none now hk.numbered.payments.nodup
  simp only [hfind, Option.filter_some, hfresh.status, beq_self_eq_true, if_true, hput,
    ← hending] at hwork
  rw [Query.answer, hwork]

/-- A key that another payment has is refused. -/
theorem assignKey_answer_taken (now : Moment) {key : String}
    (htaken : t.payments.any (·.transactionKey == some key) = true) :
    (Query.assignKey p.id key).answer (.calm now) t = (.error (.invalid (.keyTaken key)), t) := by
  have hfind : t.find? p.id = some p := Tables.find?_of_mem hk.numbered.payments.nodup hp
  have hwork : (Query.assignKey p.id key).work (.calm now) t = _ :=
    Payments.assignKey_calm p.id key now hk.numbered.payments.nodup
  simp only [hfind, Option.filter_some, hfresh.unkeyed, if_true, htaken] at hwork
  rw [Query.answer, hwork]

/-- Any other key is given. -/
theorem assignKey_answer_free (now : Moment) {key : String}
    (hfree : t.payments.any (·.transactionKey == some key) = false) :
    (Query.assignKey p.id key).answer (.calm now) t =
      (.ok (some (p.ending .pending none (some key))),
        t.put (p.ending .pending none (some key))) := by
  have hfind : t.find? p.id = some p := Tables.find?_of_mem hk.numbered.payments.nodup hp
  have hending : p.ending .pending none (some key) = { p with transactionKey := some key } := by
    rw [← hfresh.bare]
    rfl
  have hput : t.giveKey p.id key = t.put (p.ending .pending none (some key)) := by
    rw [hending]
    exact map_eq_put hk hp rfl
  have hwork : (Query.assignKey p.id key).work (.calm now) t = _ :=
    Payments.assignKey_calm p.id key now hk.numbered.payments.nodup
  simp only [hfind, Option.filter_some, hfresh.unkeyed, if_true, hfree, Bool.false_eq_true,
    if_false, hput, ← hending] at hwork
  rw [Query.answer, hwork]

end Store.Tables

/-! ## Asking for a payment -/

namespace Stage

variable {σ : Type} {s : Stage σ} {p : Payment}

/-- The tables are in order, and the medium does what it is told. -/
structure Ready (s : Stage σ) : Prop where
  kept : s.tables.Kept
  sound : s.medium = .sound

/-- What the guarded call for a payment comes to. -/
def replyFor (s : Stage σ) (p : Payment) (details : PaymentDetails) :
    Except Gateway.Fault Gateway.Receipt :=
  (s.callProcessor (·.requestPayment p.userId (Payments.requestFor p details))).1

/-- A call ended with a payment, and put it in its place. -/
structure Settles (t : Tables) (events : List Event) (p : Payment)
    (ended : Except Fault Payment × Stage σ) : Prop where
  answer : ended.1 = .ok p
  tables : ended.2.tables = t.put p
  events : ended.2.events = events

theorem Ready.ask_eq (hs : s.Ready) {α : Type} (query : Query α) :
    s.ask query = ((query.answer (.calm s.clock) s.tables).1,
      { s.tick with tables := (query.answer (.calm s.clock) s.tables).2 }) := by
  rw [ask, hs.sound]
  rfl

variable (hs : s.Ready) (hp : p ∈ s.tables.payments) (hfresh : p.Fresh)
include hs hp hfresh

theorem markFailed_settles (reason : String) :
    Settles s.tables s.events (p.ending .failed (some reason) none)
      (s.run (Payments.markFailed p reason)) := by
  have hask := hs.ask_eq (.failPayment p.id reason)
  rw [Tables.failPayment_answer hs.kept hp hfresh] at hask
  unfold Payments.markFailed
  rw [run_attempt_bind, hask]
  exact ⟨rfl, rfl, rfl⟩

theorem noteKey_settles (key : String) :
    Settles s.tables s.events
      (if s.tables.payments.any (·.transactionKey == some key) then p.ending .pending none none
        else p.ending .pending none (some key))
      (s.run (Payments.noteKey p key)) := by
  have hask := hs.ask_eq (.assignKey p.id key)
  unfold Payments.noteKey
  rw [run_attempt_bind]
  cases htaken : s.tables.payments.any (·.transactionKey == some key) with
  | true =>
    rw [Tables.assignKey_answer_taken hs.kept hp hfresh _ htaken] at hask
    have hsame : p.ending .pending none none = p := hfresh.bare
    rw [hask, if_pos rfl, hsame]
    exact ⟨rfl, (Tables.put_self hs.kept hp).symm, rfl⟩
  | false =>
    rw [Tables.assignKey_answer_free hs.kept hp hfresh _ htaken] at hask
    rw [hask, if_neg Bool.false_ne_true]
    exact ⟨rfl, rfl, rfl⟩

/-- However the guarded call ends, the payment is given as it is stored then. -/
theorem initiate_settles (details : PaymentDetails) :
    Settles s.tables s.events (p.answered s.tables.payments (s.replyFor p details))
      (s.run (Payments.initiate p details)) := by
  unfold Payments.initiate replyFor
  rw [run_requestPayment_bind]
  generalize hreply : s.callProcessor _ = reply
  have hlater : reply.2.Ready := hreply ▸ ⟨hs.kept, hs.sound⟩
  have htables : reply.2.tables = s.tables := hreply ▸ rfl
  have hevents : reply.2.events = s.events := hreply ▸ rfl
  rw [← htables, ← hevents]
  rw [← htables] at hp
  unfold Payment.answered
  cases reply.1 with
  | error fault => exact markFailed_settles hlater hp hfresh _
  | ok receipt =>
    simp only
    split
    · exact markFailed_settles hlater hp hfresh _
    · exact noteKey_settles hlater hp hfresh _

end Stage

end Checkout
