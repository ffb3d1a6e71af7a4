-- A payment is settled once. The first settling update that is executed for
-- it matches, and no later one does, so the payment stays for good as that one
-- left it, and each call says truly which of the two its own update was.
import Checkout.Proofs.Shop.Settling
import Checkout.Proofs.Shop.Turn

namespace Checkout

open Store Service

/-! ## What was done to a payment -/

/-- The key that a payment was given, and the payment. -/
def Act.keyed? : Act → Option (Id × String)
  | .asked (.assignKey id key) (.ok (some _)) => some (id, key)
  | _ => none

/-- The payment that was looked up by its id, and what was found. -/
def Act.read? : Act → Option (Id × Option Payment)
  | .asked (.payment id) (.ok found) => some (id, found)
  | _ => none

/-- What came of the settling updates that were executed for a payment, in their order. -/
def outcomesOf (id : Id) (record : List (Nat × Act)) : List (Option Payment) :=
  ((settlings (record.map (·.2))).filter (·.id == id)).map (·.outcome)

/-- The keys that a payment was given. -/
def keysGiven (id : Id) (record : List (Nat × Act)) : List String :=
  ((record.filterMap (·.2.keyed?)).filter (·.1 == id)).map (·.2)

section Concat

variable (id : Id) (record : List (Nat × Act)) (call : Nat) (act : Act)

theorem outcomesOf_concat : outcomesOf id (record ++ [(call, act)]) = outcomesOf id record ++
    ((act.settling?.toList.filter (·.id == id)).map (·.outcome)) := by
  simp [outcomesOf]

theorem keysGiven_concat : keysGiven id (record ++ [(call, act)]) = keysGiven id record ++
    ((act.keyed?.toList.filter (·.1 == id)).map (·.2)) := by
  unfold keysGiven
  rw [List.filterMap_append, List.filter_append, List.map_append]
  cases h : act.keyed? <;> simp [h]

end Concat

/-- What a payment says of itself is what was done to it. -/
structure PaymentLife (record : List (Nat × Act)) (p : Payment) : Prop where
  completed : p.completedAt.isSome = true ↔ p.status = .completed
  failed : p.failureReason.isSome = true ↔ p.status = .failed
  keyed : keysGiven p.id record = p.transactionKey.toList
  settled : if p.status = .pending then outcomesOf p.id record = []
    else ∃ missed, outcomesOf p.id record = some p :: List.replicate missed none

/-! ## What a change does to the payments -/

/-- What an act leaves of the payments, and what was so before. -/
inductive PaymentChange (t : Tables) (act : Act) : List Payment → Prop where
  | same (hsettling : act.settling? = none) (hkeyed : act.keyed? = none) :
    PaymentChange t act t.payments
  | missed {s : Settlement} (hsettling : act.settling? = some s) (hmissed : s.outcome = none)
      (hkeyed : act.keyed? = none)
      (hnone : (t.find? s.id : Option Payment).filter (·.status == .pending) = none) :
    PaymentChange t act t.payments
  | added {p : Payment} (hsettling : act.settling? = none) (hkeyed : act.keyed? = none)
      (hid : p.id = t.nextId Payment) (hs : p.status = .pending) (hkey : p.transactionKey = none)
      (hreason : p.failureReason = none) (hat : p.completedAt = none) :
    PaymentChange t act (t.payments ++ [p])
  | keyed {p : Payment} {key : String} (hsettling : act.settling? = none)
      (hkeyed : act.keyed? = some (p.id, key)) (hp : p ∈ t.payments) (hs : p.status = .pending)
      (hkey : p.transactionKey = none)
      (hfree : ∀ q ∈ t.payments, q.transactionKey ≠ some key) :
    PaymentChange t act
      (t.payments.map fun q => if q.id = p.id then { q with transactionKey := some key } else q)
  | settled {p : Payment} {status : PaymentStatus} {reason : Option String}
      {completedAt : Option Moment}
      (hsettling : act.settling? =
        some ⟨p.id, status, some { p with status, failureReason := reason, completedAt }⟩)
      (hkeyed : act.keyed? = none) (hp : p ∈ t.payments) (hs : p.status = .pending)
      (hstatus : status ≠ .pending)
      (hat : completedAt.isSome = true ↔ status = .completed)
      (hreason : reason.isSome = true ↔ status = .failed) :
    PaymentChange t act
      (t.payments.map fun q =>
        if q.id = p.id then { q with status, failureReason := reason, completedAt } else q)

variable {t t' : Tables} {record : List (Nat × Act)}

theorem still_payments {α : Type} {q : Query α} {a : α} (h : q.changesNothing a = true)
    (htells : q.Tells t a) : PaymentChange t (.asked q (.ok a)) t.payments := by
  cases q
  case assignKey id key =>
    obtain rfl : a = none := Option.isNone_iff_eq_none.mp h
    exact .same rfl rfl
  case completePayment id =>
    obtain rfl : a = none := Option.isNone_iff_eq_none.mp h
    exact .missed (s := ⟨id, .completed, none⟩) rfl rfl rfl htells
  case failPayment id reason =>
    obtain rfl : a = none := Option.isNone_iff_eq_none.mp h
    exact .missed (s := ⟨id, .failed, none⟩) rfl rfl rfl htells
  all_goals exact .same rfl rfl

/-- Any change leaves the payments in one of these ways. -/
theorem change_payments {α : Type} {q : Query α} {a : α} {now : Moment}
    (h : Change now t q a t') : PaymentChange t (.asked q (.ok a)) t'.payments := by
  cases h with
  | still h htells => exact still_payments h htells
  | placed order =>
    change PaymentChange t _ (t.payments ++ (t.placedPayment order now).toList)
    cases hd : order.payment with
    | none =>
      rw [Tables.placedPayment, hd, Option.map_none, Option.toList_none, List.append_nil]
      exact .same rfl rfl
    | some details =>
      rw [Tables.placedPayment, hd, Option.map_some, Option.toList_some]
      exact .added rfl rfl rfl rfl rfl rfl rfl
  | opened p => exact .added rfl rfl rfl rfl rfl rfl rfl
  | @keyed id p key hp hs hkey hfree =>
    obtain ⟨hm, rfl⟩ : p ∈ t.payments ∧ p.id = id := Tables.find?_eq_some hp
    refine .keyed rfl rfl hm hs hkey fun q hq hsame => ?_
    rw [List.any_eq_false] at hfree
    exact hfree q hq (beq_iff_eq.mpr hsame)
  | @completed id p hp hs =>
    obtain ⟨hm, rfl⟩ : p ∈ t.payments ∧ p.id = id := Tables.find?_eq_some hp
    exact .settled rfl rfl hm hs (by simp) (by simp) (by simp)
  | @failed id p reason hp hs =>
    obtain ⟨hm, rfl⟩ : p ∈ t.payments ∧ p.id = id := Tables.find?_eq_some hp
    exact .settled rfl rfl hm hs (by simp) (by simp) (by simp)
  | joined name => exact .same rfl rfl
  | charged amount => exact .same rfl rfl
  | stocked new => exact .same rfl rfl
  | issued c => exact .same rfl rfl
  | confirmed ho => exact .same rfl rfl
  | cancelled ho => exact .same rfl rfl
  | archived ho => exact .same rfl rfl

/-- The payments that the store tells of when nothing changes are there. -/
theorem still_told {α : Type} {q : Query α} {a : α} (h : q.changesNothing a = true)
    (htells : q.Tells t a) : ∀ p ∈ (Act.asked q (.ok a)).told, p ∈ t.payments := by
  intro p hp
  cases q
  case placeOrder order => cases h
  case openPayment new => cases h
  case paymentWithKey key =>
    simp only [Query.Tells] at htells
    rw [Act.told, htells, Option.mem_toList] at hp
    exact (List.mem_filter.mp (List.mem_of_mem_head? hp)).1
  case stalePayments cutoff => exact (List.mem_filter.mp (htells.subset hp)).1
  all_goals cases hp

/-- The payments that the store tells of are there. -/
theorem change_told {α : Type} {q : Query α} {a : α} {now : Moment} (h : Change now t q a t') :
    ∀ p ∈ (Act.asked q (.ok a)).told, p ∈ t'.payments := by
  cases h with
  | still h htells => exact still_told h htells
  | placed order => exact fun p hp => List.mem_append_right _ hp
  | opened p => exact fun p hp => List.mem_append_right _ hp
  | _ => exact fun p hp => nomatch hp

/-! ## What becomes of a payment -/

/-- What can still become of a payment. Once it is settled it stays as it is, a key that it has
stays, and nothing else about it ever changes. -/
structure Payment.Becomes (p p' : Payment) : Prop where
  same : { p' with
    status := p.status, transactionKey := p.transactionKey
    failureReason := p.failureReason, completedAt := p.completedAt } = p
  final : p.status ≠ .pending → p' = p
  keyed : ∀ key, p.transactionKey = some key → p'.transactionKey = some key

namespace Payment.Becomes

variable {p p' p'' : Payment}

theorem refl (p : Payment) : p.Becomes p := ⟨rfl, fun _ => rfl, fun _ h => h⟩

theorem trans (h : p.Becomes p') (h' : p'.Becomes p'') : p.Becomes p'' where
  same := by
    have hfirst := h.same
    have hsecond := h'.same
    cases p
    cases p'
    cases p''
    simp only [Payment.mk.injEq] at hfirst hsecond ⊢
    simp [hfirst, hsecond]
  final hs := by
    obtain rfl : p' = p := h.final hs
    exact h'.final hs
  keyed key hkey := h'.keyed key (h.keyed key hkey)

theorem id_eq (h : p.Becomes p') : p'.id = p.id := by rw [← h.same]

theorem orderId_eq (h : p.Becomes p') : p'.orderId = p.orderId := by rw [← h.same]

theorem userId_eq (h : p.Becomes p') : p'.userId = p.userId := by rw [← h.same]

theorem amount_eq (h : p.Becomes p') : p'.amount = p.amount := by rw [← h.same]

theorem createdAt_eq (h : p.Becomes p') : p'.createdAt = p.createdAt := by rw [← h.same]

end Payment.Becomes

/-- A payment that is there with an id is the only one. -/
theorem payment_eq_of_id (hk : t.Kept) {p q : Payment} (hp : p ∈ t.payments)
    (hq : q ∈ t.payments) (hid : q.id = p.id) : q = p :=
  List.inj_on_of_nodup_map hk.numbered.payments.nodup hq hp hid

namespace PaymentChange

variable {act : Act} {payments : List Payment}

/-- Every payment is still there, and became what it could. -/
theorem becomes (h : PaymentChange t act payments) (hk : t.Kept) :
    ∀ q ∈ t.payments, ∃ q' ∈ payments, q.Becomes q' := by
  intro q hq
  cases h with
  | same => exact ⟨q, hq, .refl q⟩
  | missed => exact ⟨q, hq, .refl q⟩
  | added => exact ⟨q, List.mem_append_left _ hq, .refl q⟩
  | @keyed p key _ _ hp hs hkey =>
    refine ⟨_, List.mem_map_of_mem hq, ?_⟩
    split
    · obtain rfl := payment_eq_of_id hk hp hq ‹_›
      exact ⟨rfl, fun h => absurd hs h, fun _ h => by rw [hkey] at h; cases h⟩
    · exact .refl q
  | @settled p status reason completedAt _ _ hp hs =>
    refine ⟨_, List.mem_map_of_mem hq, ?_⟩
    split
    · obtain rfl := payment_eq_of_id hk hp hq ‹_›
      exact ⟨rfl, fun h => absurd hs h, fun _ h => h⟩
    · exact .refl q

/-- A settling update that matched left the payment in the status that it was to have. -/
theorem verdict (h : PaymentChange t act payments) :
    ∀ s ∈ act.settling?, ∀ got ∈ s.outcome, got.status = s.status := by
  intro s hs got hgot
  cases h with
  | same hsettling | added hsettling | keyed hsettling =>
    rw [hsettling] at hs
    cases hs
  | missed hsettling hmissed =>
    rw [hsettling] at hs
    cases hs
    rw [hmissed] at hgot
    cases hgot
  | settled hsettling =>
    rw [hsettling] at hs
    cases hs
    cases hgot
    rfl

/-- A key is given only if no payment has it. -/
theorem unshared (h : PaymentChange t act payments) (hk : t.Kept)
    (hun : ∀ p ∈ t.payments, ∀ q ∈ t.payments, ∀ key,
      p.transactionKey = some key → q.transactionKey = some key → p = q) :
    ∀ p ∈ payments, ∀ q ∈ payments, ∀ key,
      p.transactionKey = some key → q.transactionKey = some key → p = q := by
  cases h with
  | same => exact hun
  | missed => exact hun
  | @added new _ _ _ _ hnew =>
    have hold : ∀ p ∈ t.payments ++ [new], ∀ key, p.transactionKey = some key →
        p ∈ t.payments := by
      intro p hp key hkey
      rcases List.mem_append.mp hp with hp | hp
      · exact hp
      · rw [List.mem_singleton.mp hp, hnew] at hkey
        cases hkey
    exact fun p hp q hq key hpk hqk => hun p (hold p hp key hpk) q (hold q hq key hqk) key hpk hqk
  | @keyed new given _ _ hnew _ _ hfree =>
    intro p hp q hq key hpk hqk
    obtain ⟨p, hpt, rfl⟩ := List.mem_map.mp hp
    obtain ⟨q, hqt, rfl⟩ := List.mem_map.mp hq
    by_cases hpn : p.id = new.id <;> by_cases hqn : q.id = new.id
    · rw [payment_eq_of_id hk hnew hpt hpn, payment_eq_of_id hk hnew hqt hqn]
    · rw [if_pos hpn] at hpk
      rw [if_neg hqn] at hqk
      cases hpk
      exact absurd hqk (hfree q hqt)
    · rw [if_neg hpn] at hpk
      rw [if_pos hqn] at hqk
      cases hqk
      exact absurd hpk (hfree p hpt)
    · rw [if_neg hpn] at hpk
      rw [if_neg hqn] at hqk
      rw [hun p hpt q hqt key hpk hqk]
  | @settled =>
    intro p hp q hq key hpk hqk
    obtain ⟨p, hpt, rfl⟩ := List.mem_map.mp hp
    obtain ⟨q, hqt, rfl⟩ := List.mem_map.mp hq
    rw [hun p hpt q hqt key (by split at hpk <;> exact hpk) (by split at hqk <;> exact hqk)]

end PaymentChange

/-! ## The life of a payment -/

/-- A payment is changed by settling it. -/
theorem Act.target?_of_settling? {act : Act} {s : Settlement} (h : act.settling? = some s) :
    act.target? = some s.id := by
  unfold settling? at h
  split at h <;> cases h <;> rfl

theorem Act.target?_of_keyed? {act : Act} {given : Id × String} (h : act.keyed? = some given) :
    act.target? = some given.1 := by
  unfold keyed? at h
  split at h <;> cases h
  rfl

/-- Nothing was done to a payment that nobody meant to change. -/
theorem untouched {id : Id} (h : ∀ entry ∈ record, entry.2.target? ≠ some id) :
    outcomesOf id record = [] ∧ keysGiven id record = [] := by
  constructor
  · rw [outcomesOf, List.map_eq_nil_iff, List.filter_eq_nil_iff]
    intro s hs hid
    obtain ⟨act, hact, hsettling⟩ := List.mem_filterMap.mp hs
    obtain ⟨entry, he, rfl⟩ := List.mem_map.mp hact
    exact h entry he (beq_iff_eq.mp hid ▸ Act.target?_of_settling? hsettling)
  · rw [keysGiven, List.map_eq_nil_iff, List.filter_eq_nil_iff]
    intro given hg hid
    obtain ⟨entry, he, hkeyed⟩ := List.mem_filterMap.mp hg
    exact h entry he (beq_iff_eq.mp hid ▸ Act.target?_of_keyed? hkeyed)

namespace PaymentLife

variable {p : Payment} {act : Act}

/-- What is done to other payments leaves it alone. -/
theorem aside (h : PaymentLife record p) (call : Nat) (hsettling : ∀ s ∈ act.settling?, s.id ≠ p.id)
    (hkeyed : ∀ given ∈ act.keyed?, given.1 ≠ p.id) : PaymentLife (record ++ [(call, act)]) p := by
  have hout : outcomesOf p.id (record ++ [(call, act)]) = outcomesOf p.id record := by
    rw [outcomesOf_concat, List.filter_eq_nil_iff.mpr, List.map_nil, List.append_nil]
    exact fun s hs hid => hsettling s (Option.mem_toList.mp hs) (beq_iff_eq.mp hid)
  have hkeys : keysGiven p.id (record ++ [(call, act)]) = keysGiven p.id record := by
    rw [keysGiven_concat, List.filter_eq_nil_iff.mpr, List.map_nil, List.append_nil]
    exact fun given hg hid => hkeyed given (Option.mem_toList.mp hg) (beq_iff_eq.mp hid)
  exact ⟨h.completed, h.failed, hkeys.trans h.keyed, hout ▸ h.settled⟩

/-- It was settled before, and so is missed. -/
theorem missed (h : PaymentLife record p) (call : Nat) {s : Settlement}
    (hsettling : act.settling? = some s) (hmissed : s.outcome = none) (hid : s.id = p.id)
    (hkeyed : act.keyed? = none) (hs : p.status ≠ .pending) :
    PaymentLife (record ++ [(call, act)]) p where
  completed := h.completed
  failed := h.failed
  keyed := by
    rw [keysGiven_concat, hkeyed]
    simpa using h.keyed
  settled := by
    obtain ⟨missed, hout⟩ := if_neg hs ▸ h.settled
    rw [if_neg hs, outcomesOf_concat, hsettling, hout]
    refine ⟨missed + 1, ?_⟩
    simp [hid, hmissed, List.replicate_succ']

/-- A payment is new, and nothing was done to it. -/
theorem new (hs : p.status = .pending) (hkey : p.transactionKey = none)
    (hreason : p.failureReason = none) (hat : p.completedAt = none)
    (huntouched : ∀ entry ∈ record, entry.2.target? ≠ some p.id) : PaymentLife record p where
  completed := by simp [hs, hat]
  failed := by simp [hs, hreason]
  keyed := by rw [(untouched huntouched).2, hkey, Option.toList_none]
  settled := by
    rw [if_pos hs]
    exact (untouched huntouched).1

theorem giveKey (h : PaymentLife record p) (call : Nat) {key : String}
    (hsettling : act.settling? = none) (hkeyed : act.keyed? = some (p.id, key))
    (hs : p.status = .pending) (hkey : p.transactionKey = none) :
    PaymentLife (record ++ [(call, act)]) { p with transactionKey := some key } where
  completed := h.completed
  failed := h.failed
  keyed := by
    rw [keysGiven_concat, hkeyed, h.keyed, hkey]
    simp
  settled := by
    have hnone : outcomesOf p.id record = [] := by simpa [hs] using h.settled
    rw [if_pos hs, outcomesOf_concat, hsettling, hnone]
    rfl

theorem settle (h : PaymentLife record p) (call : Nat) {status : PaymentStatus}
    {reason : Option String} {completedAt : Option Moment}
    (hsettling : act.settling? =
      some ⟨p.id, status, some { p with status, failureReason := reason, completedAt }⟩)
    (hkeyed : act.keyed? = none) (hs : p.status = .pending) (hstatus : status ≠ .pending)
    (hat : completedAt.isSome = true ↔ status = .completed)
    (hreason : reason.isSome = true ↔ status = .failed) :
    PaymentLife (record ++ [(call, act)])
      { p with status, failureReason := reason, completedAt } where
  completed := hat
  failed := hreason
  keyed := by
    rw [keysGiven_concat, hkeyed]
    simpa using h.keyed
  settled := by
    have hnone : outcomesOf p.id record = [] := by simpa [hs] using h.settled
    rw [if_neg hstatus, outcomesOf_concat, hsettling, hnone]
    exact ⟨0, by simp⟩

end PaymentLife

theorem PaymentChange.life {act : Act} {payments : List Payment}
    (h : PaymentChange t act payments) (hk : t.Kept)
    (hlife : ∀ p ∈ t.payments, PaymentLife record p)
    (hnew : ∀ entry ∈ record, entry.2.target? ≠ some (t.nextId Payment)) (call : Nat) :
    ∀ p ∈ payments, PaymentLife (record ++ [(call, act)]) p := by
  cases h with
  | same hsettling hkeyed =>
    exact fun p hp => (hlife p hp).aside call (by simp [hsettling]) (by simp [hkeyed])
  | @missed s hsettling hmissed hkeyed hnone =>
    intro p hp
    by_cases hid : s.id = p.id
    · refine (hlife p hp).missed call hsettling hmissed hid hkeyed fun hs => ?_
      have hfind : t.find? s.id = some p :=
        hid ▸ Tables.find?_of_mem hk.numbered.payments.nodup hp
      rw [hfind] at hnone
      simp [hs] at hnone
    · refine (hlife p hp).aside call (fun s' hs' => ?_) (by simp [hkeyed])
      rw [hsettling] at hs'
      cases hs'
      exact hid
  | @added new hsettling hkeyed hid hs hkey hreason hat =>
    intro p hp
    rcases List.mem_append.mp hp with hp | hp
    · exact (hlife p hp).aside call (by simp [hsettling]) (by simp [hkeyed])
    · rw [List.mem_singleton.mp hp]
      exact (PaymentLife.new hs hkey hreason hat (hid ▸ hnew)).aside call
        (by simp [hsettling]) (by simp [hkeyed])
  | @keyed given key hsettling hkeyed hp hs hkey =>
    intro q hq
    obtain ⟨q, hqt, rfl⟩ := List.mem_map.mp hq
    by_cases hid : q.id = given.id
    · obtain rfl := payment_eq_of_id hk hp hqt hid
      rw [if_pos rfl]
      exact (hlife q hp).giveKey call hsettling hkeyed hs hkey
    · rw [if_neg hid]
      refine (hlife q hqt).aside call (by simp [hsettling]) fun other ho => ?_
      rw [hkeyed] at ho
      cases ho
      exact Ne.symm hid
  | @settled p status reason completedAt hsettling hkeyed hp hs hstatus hat hreason =>
    intro q hq
    obtain ⟨q, hqt, rfl⟩ := List.mem_map.mp hq
    by_cases hid : q.id = p.id
    · obtain rfl := payment_eq_of_id hk hp hqt hid
      rw [if_pos rfl]
      exact (hlife q hp).settle call hsettling hkeyed hs hstatus hat hreason
    · rw [if_neg hid]
      refine (hlife q hqt).aside call (fun s ho => ?_) (by simp [hkeyed])
      rw [hsettling] at ho
      cases ho
      exact Ne.symm hid

/-! ## Over a run -/

/-- Only payments that the store has told of are meant to be changed. -/
def Informed (earlier : List (Nat × Act)) (entry : Nat × Act) : Prop :=
  ∀ id, entry.2.target? = some id → ∃ payment ∈ toldIn (earlier.map (·.2)), payment.id = id

/-- A payment that is looked up after it was settled is found as it stands. -/
def FoundSettled (payments : List Payment) (earlier : List (Nat × Act)) (entry : Nat × Act) :
    Prop :=
  ∀ id found, entry.2.read? = some (id, found) → outcomesOf id earlier ≠ [] →
    ∃ p ∈ payments, found = some p ∧ p.id = id ∧ p.status ≠ .pending

/-- The payments are as the record says, and all that the record says of payments is about those
that there are. -/
structure PaymentsKept (t : Tables) (record : List (Nat × Act)) : Prop where
  life : ∀ p ∈ t.payments, PaymentLife record p
  unshared : ∀ p ∈ t.payments, ∀ q ∈ t.payments, ∀ key,
    p.transactionKey = some key → q.transactionKey = some key → p = q
  told : ∀ p ∈ toldIn (record.map (·.2)), ∃ q ∈ t.payments, q.id = p.id
  targets : ∀ entry ∈ record, ∀ id, entry.2.target? = some id → ∃ q ∈ t.payments, q.id = id
  found : Throughout (FoundSettled t.payments) record
  verdicts : ∀ s ∈ settlings (record.map (·.2)), ∀ got ∈ s.outcome, got.status = s.status

/-- What was looked up is what there is. -/
theorem change_read {α : Type} {q : Query α} {a : α} {now : Moment} (h : Change now t q a t')
    {id : Id} {found : Option Payment}
    (hread : (Act.asked q (.ok a)).read? = some (id, found)) : found = t.find? id := by
  cases h with
  | still h htells =>
    cases q
    case payment other =>
      cases hread
      exact htells
    all_goals cases hread
  | _ => cases hread

/-- What does not succeed says nothing of payments. -/
theorem Act.silent {act : Act} (h : act.succeeded = false) :
    act.settling? = none ∧ act.keyed? = none ∧ act.told = [] ∧ act.read? = none := by
  cases act with
  | asked query answer =>
    cases answer with
    | ok a => cases h
    | error f => cases query <;> exact ⟨rfl, rfl, rfl, rfl⟩
  | requested user request answer => exact ⟨rfl, rfl, rfl, rfl⟩
  | lookedUp user key answer => exact ⟨rfl, rfl, rfl, rfl⟩
  | published event => exact ⟨rfl, rfl, rfl, rfl⟩

namespace PaymentsKept

variable {act : Act}

theorem empty : PaymentsKept .empty [] where
  life := fun _ h => nomatch h
  unshared := fun _ h => nomatch h
  told := fun _ h => nomatch h
  targets := fun _ h => nomatch h
  found := .nil
  verdicts := fun _ h => nomatch h

/-- A payment that was settled is there, and no longer pending. -/
theorem settled_mem (h : PaymentsKept t record) {id : Id} (hout : outcomesOf id record ≠ []) :
    ∃ p ∈ t.payments, p.id = id ∧ p.status ≠ .pending := by
  have htarget : ∃ entry ∈ record, entry.2.target? = some id := by
    by_contra hnone
    exact hout (untouched fun entry he htarget => hnone ⟨entry, he, htarget⟩).1
  obtain ⟨entry, he, htarget⟩ := htarget
  obtain ⟨p, hp, rfl⟩ := h.targets entry he id htarget
  refine ⟨p, hp, rfl, fun hs => hout ?_⟩
  simpa [hs] using (h.life p hp).settled

theorem advance (h : PaymentsKept t record) (hk : t.Kept)
    (hchange : PaymentChange t act t'.payments) (htold : ∀ p ∈ act.told, p ∈ t'.payments)
    (hread : ∀ id found, act.read? = some (id, found) → found = t.find? id) (call : Nat)
    (hinformed : Informed record (call, act)) : PaymentsKept t' (record ++ [(call, act)]) := by
  have hlasting : ∀ id, (∃ q ∈ t.payments, q.id = id) → ∃ q ∈ t'.payments, q.id = id := by
    rintro id ⟨q, hq, rfl⟩
    obtain ⟨q', hq', hbecomes⟩ := hchange.becomes hk q hq
    exact ⟨q', hq', hbecomes.id_eq⟩
  have hfinal : ∀ p ∈ t.payments, p.status ≠ .pending → p ∈ t'.payments := by
    intro p hp hs
    obtain ⟨p', hp', hbecomes⟩ := hchange.becomes hk p hp
    exact hbecomes.final hs ▸ hp'
  constructor
  · refine hchange.life hk h.life (fun entry he hid => ?_) call
    obtain ⟨q, hq, hid⟩ := h.targets entry he _ hid
    exact Tables.nextId_notMem hk.numbered.payments (hid ▸ List.mem_map_of_mem hq)
  · exact hchange.unshared hk h.unshared
  · intro p hp
    rw [List.map_append, List.map_singleton, toldIn_concat] at hp
    rcases List.mem_append.mp hp with hp | hp
    · exact hlasting _ (h.told p hp)
    · exact ⟨p, htold p hp, rfl⟩
  · intro entry he id hid
    rcases List.mem_append.mp he with he | he
    · exact hlasting id (h.targets entry he id hid)
    · rw [List.mem_singleton.mp he] at hid
      obtain ⟨p, hp, rfl⟩ := hinformed id hid
      exact hlasting _ (h.told p hp)
  · refine .concat (h.found.mono fun earlier entry hfound id found hr hout => ?_) ?_
    · obtain ⟨p, hp, hsame, hid, hs⟩ := hfound id found hr hout
      exact ⟨p, hfinal p hp hs, hsame, hid, hs⟩
    · intro id found hr hout
      obtain ⟨p, hp, rfl, hs⟩ := h.settled_mem hout
      refine ⟨p, hfinal p hp hs, ?_, rfl, hs⟩
      exact (hread _ _ hr).trans (Tables.find?_of_mem hk.numbered.payments.nodup hp)
  · intro s hs
    rw [List.map_append, List.map_singleton, settlings_concat] at hs
    rcases List.mem_append.mp hs with hs | hs
    · exact h.verdicts s hs
    · exact hchange.verdict s (Option.mem_toList.mp hs)

end PaymentsKept

/-- After any run the payments are as the record says. -/
theorem paymentsKept_after (deeds : List Deed) :
    PaymentsKept (Shop.after deeds).tables (Shop.after deeds).record := by
  have hinformed : Throughout Informed (Shop.after deeds).record := by
    refine (diligent_after deeds).acts.mono fun earlier entry hentry id hid => ?_
    obtain ⟨running, -, hrule⟩ := hentry
    obtain ⟨payment, hp, rfl⟩ := hrule.informed id hid
    obtain ⟨act, hact, htold⟩ := List.mem_flatMap.mp hp
    exact ⟨payment, List.mem_flatMap_of_mem (actsOf_subset _ _ hact) htold, rfl⟩
  revert hinformed
  apply Shop.holds_after (P := fun t record => Throughout Informed record → PaymentsKept t record)
    fun _ => .empty
  intro t t' record record' hk h hadvance hinformed
  cases hadvance with
  | waited => exact h hinformed
  | answered call hchange =>
    obtain ⟨hearlier, hlast⟩ := hinformed.of_concat
    exact (h hearlier).advance hk (change_payments hchange) (change_told hchange)
      (fun _ _ => change_read hchange) call hlast
  | noted call hact =>
    obtain ⟨hearlier, hlast⟩ := hinformed.of_concat
    obtain ⟨hsettling, hkeyed, htold, hread⟩ := Act.silent hact
    exact (h hearlier).advance hk (.same hsettling hkeyed) (by simp [htold]) (by simp [hread])
      call hlast
  | withdrew id =>
    have hsame := h hinformed
    exact ⟨hsame.life, hsame.unshared, hsame.told, hsame.targets, hsame.found, hsame.verdicts⟩

/-! ## What is answered -/

/-- Whoever asked for a payment, and settled it or came too late for that, is given it as it
stands. Only if the storage fails when it is read again is it given as it was. -/
def Shop.Gives (s : Shop) (call : Nat) (got? : Option Payment) : Prop :=
  ∀ settlement ∈ settlings (actsOf call s.record),
    (∃ got ∈ s.tables.payments, got? = some got ∧ got.id = settlement.id ∧ got.status ≠ .pending) ∨
      ∃ cause, .asked (.payment settlement.id) (.error (.storage cause)) ∈ actsOf call s.record

/-- A payment can be looked up, unless the storage fails. -/
theorem payment_fails {id : Id} {c : Conditions} {f : Fault}
    (h : (Query.payment id).work c t = .error f) : ∃ cause, f = .storage cause := by
  unfold Query.work Store.Payments.fetch Work.fetch at h
  simp only [Work.bind_run, Work.view_run, Work.reading] at h
  split at h
  · cases h
  · next hreading =>
    split at hreading <;> cases hreading
    cases h
    exact ⟨_, rfl⟩

theorem outcome_mem {s : Settlement} (h : s ∈ settlings (record.map (·.2))) :
    s.outcome ∈ outcomesOf s.id record :=
  List.mem_map_of_mem (List.mem_filter.mpr ⟨h, beq_self_eq_true s.id⟩)

/-- The record tells of each settling update of a call. -/
theorem settlings_actsOf_subset (call : Nat) (record : List (Nat × Act)) :
    settlings (actsOf call record) ⊆ settlings (record.map (·.2)) :=
  List.filterMap_subset Act.settling? (actsOf_subset call record)

/-- What a settling update gave is there as it was given. -/
theorem PaymentsKept.outcome_eq (h : PaymentsKept t record) {id : Id} {got : Payment}
    (hgot : some got ∈ outcomesOf id record) :
    got ∈ t.payments ∧ got.id = id ∧ got.status ≠ .pending := by
  obtain ⟨p, hp, rfl, hs⟩ := h.settled_mem (List.ne_nil_of_mem hgot)
  have hsettled := (h.life p hp).settled
  rw [if_neg hs] at hsettled
  obtain ⟨missed, hout⟩ := hsettled
  rw [hout] at hgot
  rcases List.mem_cons.mp hgot with hsame | hmissed
  · cases hsame
    exact ⟨hp, rfl, hs⟩
  · cases List.eq_of_mem_replicate hmissed

/-- The payment that a call gives is there. -/
theorem gives_after (deeds : List Deed) {call : Nat} {got? : Option Payment}
    (hreport : InitiationReport (actsOf call (Shop.after deeds).record) got?) :
    (Shop.after deeds).Gives call got? := by
  have hkept := paymentsKept_after deeds
  intro settlement hmem
  rcases hreport with hnone | ⟨only, got, hone, rfl, hgot⟩
  · rw [hnone] at hmem
    cases hmem
  · obtain rfl : settlement = only := by simpa [hone] using hmem
    have hout := outcome_mem (settlings_actsOf_subset _ _ hmem)
    rcases hgot with hmatched | ⟨hmissed, earlier, answer, hacts, hstored⟩
    · rw [hmatched] at hout
      obtain ⟨hp, hid, hs⟩ := hkept.outcome_eq hout
      exact .inl ⟨got, hp, rfl, hid, hs⟩
    · cases answer with
      | error f =>
        have hasked : Act.asked (.payment settlement.id) (.error f) ∈
            actsOf call (Shop.after deeds).record := by simp [hacts]
        obtain ⟨c, t, hwork⟩ := Shop.failed_after deeds (mem_actsOf.mp hasked) rfl
        obtain ⟨cause, rfl⟩ := payment_fails hwork
        exact .inr ⟨cause, hasked⟩
      | ok found =>
        -- the update came before the payment was looked up again
        obtain ⟨before, after, hrecord, hbefore⟩ := actsOf_eq_concat hacts
        have hearlier : settlement ∈ settlings (actsOf call before) := by
          rw [hbefore]
          rw [hacts, settlings_concat] at hmem
          simpa [Act.settling?] using hmem
        obtain ⟨p, hp, rfl, hid, hs⟩ := hkept.found _ _ _ hrecord _ _ rfl
          (List.ne_nil_of_mem (outcome_mem (settlings_actsOf_subset _ _ hearlier)))
        exact .inl ⟨p, hp, congrArg some (hstored p rfl), hid, hs⟩

/-- A settling update was about a payment that is there, and left it so if it matched. -/
theorem PaymentsKept.known (h : PaymentsKept t record) (hk : t.Kept) {s : Settlement}
    (hs : s ∈ settlings (record.map (·.2))) :
    ∃ p ∈ t.payments, p.id = s.id ∧ ∀ got ∈ s.outcome, got = p ∧ p.status = s.status := by
  have hout := outcome_mem hs
  obtain ⟨p, hp, hid, -⟩ := h.settled_mem (List.ne_nil_of_mem hout)
  refine ⟨p, hp, hid, fun got hgot => ?_⟩
  rw [Option.mem_def.mp hgot] at hout
  obtain ⟨hmem, hgotid, -⟩ := h.outcome_eq hout
  obtain rfl := payment_eq_of_id hk hp hmem (hgotid.trans hid.symm)
  exact ⟨rfl, h.verdicts s hs got hgot⟩

/-- Whatever is done later, every payment is still there, and became what it could. -/
theorem becomes_after (deeds later : List Deed) : ∀ p ∈ (Shop.after deeds).tables.payments,
    ∃ p' ∈ (Shop.after (deeds ++ later)).tables.payments, p.Becomes p' := by
  refine Shop.related_after
    (R := fun t t' => ∀ p ∈ t.payments, ∃ p' ∈ t'.payments, p.Becomes p')
    (fun t p hp => ⟨p, hp, .refl p⟩) (fun h h' p hp => ?_)
    (fun hk hchange => (change_payments hchange).becomes hk)
    (fun t id p hp => ⟨p, hp, .refl p⟩) deeds later
  obtain ⟨p', hp', hfirst⟩ := h p hp
  obtain ⟨p'', hp'', hsecond⟩ := h' p' hp'
  exact ⟨p'', hp'', hfirst.trans hsecond⟩

/-- What is so of all payments at any time, whatever comes later. -/
structure Shop.SettlesOnce (s later : Shop) : Prop where
  /-- Of the settling updates that were executed for a payment only the first matched, and it left
  the payment as it is. -/
  life : ∀ p ∈ s.tables.payments, PaymentLife s.record p
  /-- A settling update that matched settled the payment as it was to do. -/
  known : ∀ settlement ∈ settlings (s.record.map (·.2)),
    ∃ p ∈ s.tables.payments, p.id = settlement.id ∧
      ∀ got ∈ settlement.outcome, got = p ∧ p.status = settlement.status
  unshared : ∀ p ∈ s.tables.payments, ∀ q ∈ s.tables.payments, ∀ key,
    p.transactionKey = some key → q.transactionKey = some key → p = q
  lasting : ∀ p ∈ s.tables.payments, ∃ p' ∈ later.tables.payments, p.Becomes p'
  /-- Each call that has ended told which of its settling updates matched. -/
  reports : ∀ (call : Nat) (op : Operation) (answer : op.Answer),
    s.calls[call]? = some ⟨op, .done answer⟩ → Reports op (actsOf call s.record) answer
  placed : ∀ (call : Nat) (order : NewOrder) (answer : Except Fault PlacedOrder),
    s.calls[call]? = some ⟨.placeOrder order, .done answer⟩ →
      s.Gives call (answer.toOption.bind (·.payment))
  paid : ∀ (call : Nat) (user : Id) (request : PayOrderRequest) (answer : Except Fault Payment),
    s.calls[call]? = some ⟨.payOrder user request, .done answer⟩ → s.Gives call answer.toOption

/-- However the steps of calls interleave, a payment is settled once, by the first settling update
that is executed for it. It stays like that, and every call tells what came of its own update. -/
theorem a_payment_is_settled_at_most_once (deeds later : List Deed) :
    (Shop.after deeds).SettlesOnce (Shop.after (deeds ++ later)) := by
  have hkept := paymentsKept_after deeds
  have hreports : ∀ (call : Nat) (op : Operation) (answer : op.Answer),
      (Shop.after deeds).calls[call]? = some ⟨op, .done answer⟩ →
        Reports op (actsOf call (Shop.after deeds).record) answer :=
    fun call op answer hdone => ((diligent_after deeds).rest call _ hdone).reports
  exact {
    life := hkept.life
    known := fun s hs => hkept.known (Shop.kept_after deeds) hs
    unshared := hkept.unshared
    lasting := becomes_after deeds later
    reports := hreports
    placed := fun call order answer hdone =>
      gives_after deeds (hreports call (.placeOrder order) answer hdone)
    paid := fun call user request answer hdone =>
      gives_after deeds (hreports call (.payOrder user request) answer hdone) }

/-- Two reports of one success that both find the payment pending: one settles it, the other comes
too late. -/
example :
    let price : Money := .saturated 100
    let quiet : Surroundings := ⟨0, .sound, .sound, .ok ⟨"key", .pending, none⟩,
      .ok ⟨"key", 1, "VISA", "1234", price, .success, none⟩⟩
    let report : PaymentCallback := ⟨"key", 1, "VISA", "1234", price, .success, none⟩
    let order : NewOrder := ⟨1, [⟨1, 1, none⟩], some ⟨"VISA", "1234", "http://shop"⟩⟩
    let s := Shop.after <|
      [.start (.createUser "ann"), .proceed 0 quiet, .start (.charge 1 price), .proceed 1 quiet,
        .start (.createProduct ⟨"tea", price, 1⟩ (by decide)), .proceed 2 quiet,
        .start (.placeOrder order)] ++ List.replicate 3 (.proceed 3 quiet) ++
      [.start (.handleCallback report), .start (.handleCallback report), .proceed 4 quiet,
        .proceed 5 quiet, .proceed 4 quiet, .proceed 5 quiet, .proceed 4 quiet, .proceed 5 quiet]
    (outcomesOf 1 s.record).map (·.map (·.status)) = [some .completed, none] := by
  decide +kernel

end Checkout
