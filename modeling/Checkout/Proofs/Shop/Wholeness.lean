-- All or nothing. An operation that fails has changed nothing and announced
-- nothing, at whichever of its units of work it failed. One that asks for a
-- payment can fail only before it has asked the processor, and so has not
-- touched the circuit breaker either.
import Checkout.Proofs.Shop.Stage

namespace Checkout

open Store Service

/-! ## Operations that are done as a whole -/

namespace Service.Operation

/-- The operation is one for all or nothing. The sweep is one step for each payment, and a
settlement reports to nobody. -/
def isWhole : Operation → Bool
  | .expireStale _ | .settle _ => false
  | _ => true

/-- The operation asks the processor before it changes anything. -/
def looksUp : Operation → Bool
  | .handleCallback _ => true
  | _ => false

/-- What was asked for was done. -/
def succeeds : (op : Operation) → op.Answer → Bool
  | .createUser _, answer | .user _, answer | .balance _, answer | .charge _ _, answer
  | .history _, answer | .points _, answer | .createProduct _ _, answer | .product _, answer
  | .issueCoupon _, answer | .coupon _, answer | .createOrder _, answer | .order _, answer
  | .orderForUser _ _, answer | .ordersOfUser _, answer | .orderDetails _ _, answer
  | .confirmOrder _, answer | .confirmForUser _ _, answer | .cancelOrder _, answer
  | .cancelForUser _ _, answer | .archiveOrder _, answer | .placeOrder _, answer
  | .payOrder _ _, answer | .handleCallback _, answer | .expireStale _, answer => answer.toBool
  | .settle _, _ => true

end Service.Operation

/-! ## Calls that fail before they do anything -/

/-- The act is idle, and one that the processor hears of only if that is granted. -/
def Act.spares (looksUp : Bool) (act : Act) : Bool := act.isIdle && (looksUp || !act.contacts)

/-- All is as before, as far as these acts go. -/
def Spared (looksUp : Bool) (acts : List Act) : Prop := ∀ act ∈ acts, act.spares looksUp = true

/-- The rule that says nothing. -/
abbrev Anything (_past : List Act) (_act : Act) : Prop := True

namespace Service.Call

variable {α β : Type} {looksUp : Bool} {past : List Act} {c : Call α} {next : α → Call β}

/-- Whatever the call answers, all is as before. -/
abbrev Quiet (looksUp : Bool) (past : List Act) (c : Call α) : Prop :=
  Call.Obeys Anything (fun acts _ => Spared looksUp acts) past c

/-- The call does not fail. -/
abbrev Sure (past : List Act) (c : Call α) : Prop :=
  Call.Obeys Anything (fun _ answer => answer.toBool = true) past c

/-- If the call fails, all is as before. -/
abbrev Whole (looksUp : Bool) (past : List Act) (c : Call α) : Prop :=
  Call.Obeys Anything (fun acts answer => answer.toBool = false → Spared looksUp acts) past c

theorem spared_asked {query : Query α} {answer : Except Fault α} (hpast : Spared looksUp past)
    (hidle : (Act.asked query answer).isIdle = true) :
    Spared looksUp (past ++ [.asked query answer]) := by
  refine List.forall_mem_append.mpr ⟨hpast, List.forall_mem_singleton.mpr ?_⟩
  simp [Act.spares, hidle, Act.contacts]

theorem Quiet.query {q : Query α} (hreads : ∀ a, q.changesNothing a = true)
    (hpast : Spared looksUp past) : Quiet looksUp past (Call.query q) := by
  refine Obeys.query (fun _ => trivial) fun answer => spared_asked hpast ?_
  cases answer with
  | ok a => exact hreads a
  | error f => rfl

theorem Quiet.orFail {f : Fault} {a? : Option α} (hpast : Spared looksUp past) :
    Quiet looksUp past (Call.orFail f a?) := by
  cases a? <;> exact ⟨hpast⟩

theorem Quiet.bind (hc : Quiet looksUp past c)
    (hnext : ∀ past a, Spared looksUp past → Quiet looksUp past (next a)) :
    Quiet looksUp past (c >>= next) :=
  Obeys.bind (fun acts _ => Spared looksUp acts) hc hnext fun _ _ h => h

theorem Quiet.whole (hc : Quiet looksUp past c) : Whole looksUp past c :=
  hc.imp fun _ _ h _ => h

theorem Whole.quiet_bind (hc : Quiet looksUp past c)
    (hnext : ∀ past a, Spared looksUp past → Whole looksUp past (next a)) :
    Whole looksUp past (c >>= next) :=
  Obeys.bind (fun acts _ => Spared looksUp acts) hc hnext fun _ _ h _ => h

theorem Sure.pure (a : α) : Sure past (Pure.pure a : Call α) := ⟨rfl⟩

theorem Sure.bind (hc : Sure past c) (hnext : ∀ past a, Sure past (next a)) :
    Sure past (c >>= next) :=
  Obeys.bind (fun _ answer => answer.toBool = true) hc (fun past a _ => hnext past a)
    fun _ _ h => h

theorem Sure.whole (hc : Sure past c) : Whole looksUp past c :=
  hc.imp fun _ answer h hfails => by rw [h] at hfails; cases hfails

theorem Whole.query (q : Query α) (hpast : Spared looksUp past) :
    Whole looksUp past (Call.query q) := by
  refine Obeys.query (fun _ => trivial) fun answer hfails => spared_asked hpast ?_
  cases answer with
  | ok a => cases hfails
  | error f => rfl

/-- The last chance to fail is in the first part. -/
theorem Whole.bind_sure (hc : Whole looksUp past c) (hnext : ∀ past a, Sure past (next a)) :
    Whole looksUp past (c >>= next) :=
  Obeys.bind _ hc (fun past a _ => (hnext past a).whole) fun _ _ h => h

end Service.Call

/-! ## The calls -/

section Calls

variable {looksUp : Bool} {past : List Act} (hpast : Spared looksUp past)
include hpast

namespace Service.Accounts

theorem createUser_whole (name : String) : Call.Whole looksUp past (createUser name) :=
  .guard (fun _ _ => hpast) fun _ => Call.Whole.query _ hpast

theorem user_quiet (id : Id) : Call.Quiet looksUp past (user id) :=
  .bind (.query (fun _ => rfl) hpast) fun _ _ h => .orFail h

theorem balance_quiet (userId : Id) : Call.Quiet looksUp past (balance userId) :=
  .bind (.query (fun _ => rfl) hpast) fun _ _ h => .orFail h

theorem charge_whole (userId : Id) (amount : Money) :
    Call.Whole looksUp past (charge userId amount) :=
  .guard (fun _ _ => hpast) fun _ => Call.Whole.query _ hpast

theorem points_quiet (userId : Id) : Call.Quiet looksUp past (points userId) :=
  .bind (balance_quiet hpast userId) fun _ _ h =>
    .bind (.query (fun _ => rfl) h) fun _ _ h => .pure h

end Service.Accounts

namespace Service.Orders

theorem create_whole (order : NewOrder) : Call.Whole looksUp past (create order) :=
  .ofExcept_bind (fun _ _ => Call.Whole.query _ hpast) fun _ _ _ => hpast

theorem fetch_quiet (id : Id) : Call.Quiet looksUp past (fetch id) :=
  .bind (.query (fun _ => rfl) hpast) fun _ _ h => .orFail h

theorem fetchForUser_quiet (userId id : Id) : Call.Quiet looksUp past (fetchForUser userId id) :=
  .bind (.query (fun _ => rfl) hpast) fun _ _ h => .orFail h

theorem detailsForUser_quiet (userId id : Id) :
    Call.Quiet looksUp past (detailsForUser userId id) :=
  .bind (fetchForUser_quiet hpast userId id) fun _ _ h =>
    .bind (.query (fun _ => rfl) h) fun _ _ h =>
      .bind (.query (fun _ => rfl) h) fun _ _ h => .pure h

theorem confirm_whole (id : Id) : Call.Whole looksUp past (confirm id) :=
  .bind_sure (.query _ hpast) fun _ _ => .publish_bind trivial (.pure rfl)

theorem cancel_whole (id : Id) : Call.Whole looksUp past (cancel id) :=
  .bind_sure (.query _ hpast) fun _ _ => .publish_bind trivial (.pure rfl)

theorem confirmForUser_whole (userId id : Id) :
    Call.Whole looksUp past (confirmForUser userId id) :=
  .quiet_bind (fetchForUser_quiet hpast userId id) fun _ _ h => confirm_whole h id

theorem cancelForUser_whole (userId id : Id) :
    Call.Whole looksUp past (cancelForUser userId id) :=
  .quiet_bind (fetchForUser_quiet hpast userId id) fun _ _ h => cancel_whole h id

end Service.Orders

end Calls

namespace Service.Payments

/-! ## Asking for a payment -/

section Sure

variable (past : List Act) (payment : Payment)

theorem latest_sure : Call.Sure past (latest payment) := by
  refine .attempt_bind (fun _ => trivial) fun answer => ?_
  split <;> exact .pure rfl

theorem markFailed_sure (reason : String) : Call.Sure past (markFailed payment reason) := by
  refine .attempt_bind (fun _ => trivial) fun answer => ?_
  split
  · exact .pure rfl
  · exact latest_sure _ payment
  · exact .pure rfl

theorem noteKey_sure (key : String) : Call.Sure past (noteKey payment key) := by
  refine .attempt_bind (fun _ => trivial) fun answer => ?_
  split
  · exact .pure rfl
  · exact latest_sure _ payment
  · exact .pure rfl

/-- Whatever the processor does, the call that asks it does not fail. -/
theorem initiate_sure (details : PaymentDetails) : Call.Sure past (initiate payment details) := by
  refine .requestPayment_bind (fun _ => trivial) fun answer => ?_
  split
  · exact markFailed_sure _ payment _
  · split
    · exact markFailed_sure _ payment _
    · exact noteKey_sure _ payment _

end Sure

section Whole

variable {looksUp : Bool} {past : List Act} (hpast : Spared looksUp past)
include hpast

theorem placeOrder_whole (order : NewOrder) : Call.Whole looksUp past (placeOrder order) := by
  refine .bind_sure (Orders.create_whole hpast order) fun past placed => ?_
  split
  · exact .bind (initiate_sure _ _ _) fun _ _ => .pure _
  · exact .pure _

theorem payOrder_whole (userId : Id) (request : PayOrderRequest) :
    Call.Whole looksUp past (payOrder userId request) := by
  refine .ofExcept_bind (fun _ _ => ?_) fun _ _ _ => hpast
  refine Call.Whole.quiet_bind (Orders.fetchForUser_quiet hpast _ _) fun past order h => ?_
  refine .guard (fun _ _ => h) fun _ => .guard (fun _ _ => h) fun _ => ?_
  exact Call.Whole.bind_sure (.query _ h) fun _ payment => initiate_sure _ payment _

end Whole

/-! ## Reports -/

section Reports

variable {past : List Act} (hpast : Spared true past)
include hpast

theorem complete_whole (payment : Payment) : Call.Whole true past (complete payment) := by
  have hasked : ∀ user key answer, Spared true (past ++ [.lookedUp user key answer]) :=
    fun user key answer => List.forall_mem_append.mpr ⟨hpast, List.forall_mem_singleton.mpr rfl⟩
  refine .fetchTransaction_bind (fun _ => trivial) (fun transaction => ?_) fun _ _ => hasked _ _ _
  refine .guard (fun _ _ => hasked _ _ _) fun _ => ?_
  refine Call.Whole.bind_sure (.query _ (hasked _ _ _)) fun _ completed => ?_
  split
  · exact .publish_bind trivial (.pure rfl)
  · exact .pure _

theorem fail_whole (payment : Payment) (reason : String) :
    Call.Whole true past (fail payment reason) := by
  refine .bind_sure (.query _ hpast) fun _ failed => ?_
  split
  · exact .publish_bind trivial (.pure rfl)
  · exact .pure _

theorem handleCallback_whole (callback : PaymentCallback) :
    Call.Whole true past (handleCallback callback) := by
  refine .quiet_bind (.query (fun _ => rfl) hpast) fun past found h => ?_
  refine .orFail_bind (fun payment _ => ?_) fun _ _ => h
  split
  · exact (Call.Sure.pure _).whole
  · refine .guard (fun _ _ => h) fun _ => ?_
    split
    · exact (Call.Sure.pure _).whole
    · exact complete_whole h payment
    · exact fail_whole h payment _

end Reports

end Service.Payments

/-! ## Any operation -/

/-- If an operation of all or nothing has failed, all is as before. -/
def Service.Operation.SparedIfFailed (op : Operation) (acts : List Act) (answer : op.Answer) :
    Prop :=
  op.isWhole = true → op.succeeds answer = false → Spared op.looksUp acts

theorem Service.Operation.obeys_anything (op : Operation) (hop : op.isWhole = false) :
    op.flow.Obeys Anything op.SparedIfFailed [] := by
  refine op.flow_proper.obeys_anything.imp fun acts answer _ hwhole => ?_
  rw [hop] at hwhole
  cases hwhole

theorem Service.Operation.whole (op : Operation) :
    op.flow.Obeys Anything op.SparedIfFailed [] := by
  have hpast : ∀ {looksUp}, Spared looksUp [] := fun _ h => nomatch h
  cases op
  case createUser name =>
    have hcall : Call.Whole false [] (Accounts.createUser name) :=
      Accounts.createUser_whole hpast name
    -- the call is put aside, lest the unifier trims the name
    change Flow.Obeys Anything _ [] (Accounts.createUser name)
    generalize Accounts.createUser name = call at hcall ⊢
    exact Flow.Obeys.imp hcall.flow fun _ _ h _ => h
  case user id => exact Flow.Obeys.imp (Accounts.user_quiet hpast id).whole.flow fun _ _ h _ => h
  case balance userId =>
    exact Flow.Obeys.imp (Accounts.balance_quiet hpast userId).whole.flow fun _ _ h _ => h
  case charge userId amount =>
    exact Flow.Obeys.imp (Accounts.charge_whole hpast userId amount).flow fun _ _ h _ => h
  case history userId => exact Flow.Obeys.imp (Call.Whole.query _ hpast).flow fun _ _ h _ => h
  case points userId =>
    exact Flow.Obeys.imp (Accounts.points_quiet hpast userId).whole.flow fun _ _ h _ => h
  case createProduct p fits => exact Flow.Obeys.imp (Call.Whole.query _ hpast).flow fun _ _ h _ => h
  case product id => exact Flow.Obeys.imp (Call.Whole.query _ hpast).flow fun _ _ h _ => h
  case issueCoupon c => exact Flow.Obeys.imp (Call.Whole.query _ hpast).flow fun _ _ h _ => h
  case coupon id => exact Flow.Obeys.imp (Call.Whole.query _ hpast).flow fun _ _ h _ => h
  case createOrder order =>
    exact Flow.Obeys.imp (Orders.create_whole hpast order).flow fun _ _ h _ => h
  case order id => exact Flow.Obeys.imp (Orders.fetch_quiet hpast id).whole.flow fun _ _ h _ => h
  case orderForUser userId id =>
    exact Flow.Obeys.imp (Orders.fetchForUser_quiet hpast userId id).whole.flow fun _ _ h _ => h
  case ordersOfUser userId => exact Flow.Obeys.imp (Call.Whole.query _ hpast).flow fun _ _ h _ => h
  case orderDetails userId id =>
    exact Flow.Obeys.imp (Orders.detailsForUser_quiet hpast userId id).whole.flow fun _ _ h _ => h
  case confirmOrder id => exact Flow.Obeys.imp (Orders.confirm_whole hpast id).flow fun _ _ h _ => h
  case confirmForUser userId id =>
    exact Flow.Obeys.imp (Orders.confirmForUser_whole hpast userId id).flow fun _ _ h _ => h
  case cancelOrder id => exact Flow.Obeys.imp (Orders.cancel_whole hpast id).flow fun _ _ h _ => h
  case cancelForUser userId id =>
    exact Flow.Obeys.imp (Orders.cancelForUser_whole hpast userId id).flow fun _ _ h _ => h
  case archiveOrder id => exact Flow.Obeys.imp (Call.Whole.query _ hpast).flow fun _ _ h _ => h
  case placeOrder order =>
    exact Flow.Obeys.imp (Payments.placeOrder_whole hpast order).flow fun _ _ h _ => h
  case payOrder userId request =>
    exact Flow.Obeys.imp (Payments.payOrder_whole hpast userId request).flow fun _ _ h _ => h
  case handleCallback callback =>
    exact Flow.Obeys.imp (Payments.handleCallback_whole hpast callback).flow fun _ _ h _ => h
  case expireStale cutoff => exact Operation.obeys_anything _ rfl
  case settle event => exact Operation.obeys_anything _ rfl

namespace Spared

variable {looksUp : Bool} {acts : List Act}

theorem idle (h : Spared looksUp acts) : ∀ act ∈ acts, act.isIdle = true :=
  fun act hact => (Bool.and_eq_true_iff.mp (h act hact)).1

theorem apart (h : Spared false acts) : ∀ act ∈ acts, act.contacts = false := by
  intro act hact
  simpa using (Bool.and_eq_true_iff.mp (h act hact)).2

end Spared

/-! ## Among other calls, and alone -/

namespace Shop

/-- A call that has answered has nothing left to do. -/
theorem ended_after (deeds later : List Deed) {call : Nat} {op : Operation} {answer : op.Answer}
    (h : (after deeds).calls[call]? = some ⟨op, .done answer⟩) :
    (after (deeds ++ later)).calls[call]? = some ⟨op, .done answer⟩ := by
  induction later using List.reverseRecOn with
  | nil => simpa using h
  | append_singleton later deed ih =>
    rw [← List.append_assoc, after_concat]
    cases deed with
    | start other =>
      rw [step, List.getElem?_append_left (List.getElem?_eq_some_iff.mp ih).1]
      exact ih
    | proceed number around =>
      rcases (after (deeds ++ later)).proceed_cases number around with
        hsame | ⟨running, act, rest, tables, hc, hf, hnext⟩
      · rw [step, hsame]
        exact ih
      · have hne : number ≠ call := by
          rintro rfl
          cases hc.symm.trans ih
          cases hf
        rw [step, hnext, List.getElem?_set_ne hne]
        exact ih
    | withdraw product around =>
      simp only [step]
      split <;> exact ih

/-- What is so of any operation of all or nothing that has failed. -/
structure AllOrNothing (deeds later : List Deed) : Prop where
  /-- Its call left no trace, whatever is done later. Only for a report was the processor asked. -/
  among : ∀ (call : Nat) (op : Operation) (answer : op.Answer),
    (after deeds).calls[call]? = some ⟨op, .done answer⟩ →
    op.isWhole = true → op.succeeds answer = false →
      Traceless (deeds ++ later) call ∧
      (op.looksUp = false →
        ∀ act ∈ actsOf call (after (deeds ++ later)).record, act.contacts = false)
  /-- If it is played alone, the tables and the events are as before. So are the processor and its
  guard with the circuit breaker, unless it was for a report. -/
  alone : ∀ {σ : Type} (stage : Stage σ) (op : Operation), stage.tables = (after deeds).tables →
    stage.medium.Honest → op.isWhole = true → op.succeeds (stage.play op.flow).1 = false →
      (stage.play op.flow).2.tables = stage.tables ∧
      (stage.play op.flow).2.events = stage.events ∧
      (op.looksUp = false → (stage.play op.flow).2.other.state = stage.other.state ∧
        (stage.play op.flow).2.other.guard = stage.other.guard)

end Shop

/-- Whatever an operation fails at, nothing of it is ever seen. If it was to pay for an order, the
processor has not heard of it, and the circuit breaker neither. -/
theorem an_operation_that_fails_leaves_no_trace (deeds later : List Deed) :
    Shop.AllOrNothing deeds later where
  among call op answer hended hwhole hfails := by
    have hfollowing : (Shop.after (deeds ++ later)).Following (fun _ => Anything)
        Operation.SparedIfFailed := Shop.following_after Operation.whole (deeds ++ later)
    have hspared : Spared op.looksUp (actsOf call (Shop.after (deeds ++ later)).record) :=
      hfollowing.rest call _ (Shop.ended_after deeds later hended) hwhole hfails
    refine ⟨Shop.traceless_after _ call hspared.idle, fun hlooksUp => ?_⟩
    rw [hlooksUp] at hspared
    exact hspared.apart
  alone stage op htables hmedium hwhole hfails := by
    have hk : stage.tables.Kept := htables ▸ Shop.kept_after deeds
    obtain ⟨acts, hspared, hleaves⟩ := Stage.play_obeys hk hmedium op.flow_proper op.whole
    have hspared : Spared op.looksUp acts := hspared hwhole hfails
    obtain ⟨hsame, hevents⟩ := hleaves.idle hspared.idle
    refine ⟨hsame, hevents, fun hlooksUp => ?_⟩
    rw [hlooksUp] at hspared
    exact hleaves.apart hspared.apart

/-- An order that costs more than its user has: the stock is as before, and so is the next id. -/
example :
    let quiet : Surroundings :=
      ⟨0, .sound, .sound, .ok ⟨"key", .pending, none⟩, .error (.rejected "unknown")⟩
    let s := Shop.after
      [.start (.createUser "ann"), .proceed 0 quiet, .start (.charge 1 (.saturated 50)),
        .proceed 1 quiet, .start (.createProduct ⟨"tea", .saturated 100, 1⟩ (by decide)),
        .proceed 2 quiet, .start (.placeOrder ⟨1, [⟨1, 1, none⟩], none⟩), .proceed 3 quiet]
    s.tables.products.map (·.stock) = [1] ∧ s.tables.nextId Order = 1 ∧
      (actsOf 3 s.record).map (·.isIdle) = [true] := by
  decide +kernel

end Checkout
