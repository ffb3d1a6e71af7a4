-- What becomes of orders and payments once they are stored: each moves on
-- from one status to the next, and only from the status that it is to leave.
import Checkout.Proofs.Store.Calm
import Checkout.Proofs.Store.Effects

namespace Checkout.Store

variable {t : Tables}

/-! ## Orders -/

/-- The order of an id, unless it is archived. -/
def Tables.visible? (t : Tables) (id : Id) : Option Order :=
  (t.find? id : Option Order).filter (!·.archived)

theorem visible?_eq_some {id : Id} {o : Order} :
    t.visible? id = some o ↔ t.find? id = some o ∧ o.archived = false := by
  simp [Tables.visible?, Option.filter_eq_some_iff]

theorem Orders.fetchVisible_calm (id : Id) (now : Moment) (t : Tables) :
    Orders.fetchVisible id (.calm now) t =
      match t.visible? id with
      | some o => .ok (o, t)
      | none => .error (.notFound (.order id)) := by
  simp only [fetchVisible, fetch, Work.bind_run, Work.fetch_calm]
  change Work.orFail _ (t.visible? id) _ t = _
  cases t.visible? id <;> rfl

theorem Orders.transition_calm {id : Id} {o : Order} (source target : OrderStatus) (now : Moment)
    (hn : (t.keys Order).Nodup) (ho : t.visible? id = some o) :
    Orders.transition id source target (.calm now) t =
      if o.status = source then .ok (some { o with status := target }, t.setStatus id target)
      else .ok (none, t) := by
  obtain ⟨hfind, hshown⟩ := visible?_eq_some.mp ho
  have hseen : (!o.archived) = true := by simp [hshown]
  simp only [transition, Work.update_calm, hfind, Option.filter_some, hseen, Bool.and_true,
    beq_iff_eq]
  by_cases hs : o.status = source
  · simp only [if_pos hs, Work.pure_run]
    exact congrArg (fun t => Except.ok (some { o with status := target }, t))
      (Tables.replace_eq_amend (fun o : Order => { o with status := target }) hn hfind)
  · simp only [if_neg hs]

theorem Orders.transition_calm_none {id : Id} (source target : OrderStatus) (now : Moment)
    (ho : t.visible? id = none) :
    Orders.transition id source target (.calm now) t = .ok (none, t) := by
  have hfilter : (t.find? id : Option Order).filter
      (fun o => o.status == source && !o.archived) = none := by
    rw [Option.filter_eq_none_iff]
    intro o hfind
    have hhidden : o.archived = true := by
      by_contra hshown
      rw [visible?_eq_some.mpr ⟨hfind, by simpa using hshown⟩] at ho
      cases ho
    simp [hhidden]
  simp only [transition, Work.update_calm, hfilter]

theorem Orders.confirm_calm (id : Id) (now : Moment) (hn : (t.keys Order).Nodup) :
    Orders.confirm id (.calm now) t =
      match t.visible? id with
      | none => .error (.notFound (.order id))
      | some o =>
        if o.status = .pending then
          .ok ({ o with status := .confirmed }, t.setStatus id .confirmed)
        else .error (.invalidStatus id o.status) := by
  simp only [confirm, Work.bind_run]
  cases ho : t.visible? id with
  | none =>
    simp [transition_calm_none .pending .confirmed now ho, rejectTransition,
      fetchVisible_calm, ho]
  | some o =>
    rw [transition_calm .pending .confirmed now hn ho]
    by_cases hs : o.status = .pending
    · simp [hs]
    · simp [hs, rejectTransition, fetchVisible_calm, ho]

theorem Orders.archive_calm (id : Id) (now : Moment) (hn : (t.keys Order).Nodup) :
    Orders.archive id (.calm now) t =
      match t.visible? id with
      | none => .error (.notFound (.order id))
      | some o =>
        if o.status.isTerminal then .ok ({ o with archived := true }, t.archive id)
        else .error (.invalidStatus id o.status) := by
  simp only [archive, Work.bind_run, fetchVisible_calm]
  cases ho : t.visible? id with
  | none => rfl
  | some o =>
    obtain ⟨hfind, hshown⟩ := visible?_eq_some.mp ho
    have hseen : (!o.archived) = true := by simp [hshown]
    cases hs : o.status.isTerminal
    · simp only [hs, Bool.not_false, Bool.false_eq_true, if_true, if_false, Work.bind_run,
        Work.fail_run]
    · simp only [hs, Bool.not_true, Bool.false_eq_true, if_false, if_true, hide, Work.bind_run,
        Work.update_calm, hfind, Option.filter_some, hseen, Work.pure_run, Work.orFail_some]
      exact congrArg (fun t => Except.ok ({ o with archived := true }, t))
        (Tables.replace_eq_amend (fun o : Order => { o with archived := true }) hn hfind)

/-! ## Payments -/

theorem Payments.openFor_calm (p : NewPayment) (now : Moment) (t : Tables) :
    Payments.openFor p (.calm now) t =
      match t.visible? p.orderId with
      | none => .error (.notFound (.order p.orderId))
      | some o =>
        if o.status ≠ .pending then .error (.invalidStatus p.orderId o.status)
        else if t.payments.any fun other => other.orderId == p.orderId && other.isOpen then
          .error (.invalid (.paymentOpen p.orderId))
        else if t.has User p.userId then
          .ok (t.newPayment p now, t.append (t.newPayment p now))
        else .error (.storage (.constraint (Enumeration.word TableName.payments))) := by
  simp only [openFor, Work.bind_run, Orders.fetchVisible_calm]
  cases ho : t.visible? p.orderId with
  | none => rfl
  | some o =>
    have hhas : t.has Order p.orderId = true :=
      Tables.has_iff.mpr (Tables.mem_keys_of_find? (visible?_eq_some.mp ho).1)
    by_cases hs : o.status = .pending
    · simp only [hs, ne_eq, not_true, if_false, Work.bind_run, hasOpen, Work.view_run]
      cases t.payments.any fun other => other.orderId == p.orderId && other.isOpen
      · simp only [Bool.false_eq_true, if_false, insert, Work.insertAndGet_calm, Work.bind_run,
          Work.view_run, Work.constrain_run, hhas, Bool.true_and]
        cases t.has User p.userId <;> rfl
      · rfl
    · simp only [ne_eq, hs, not_false_eq_true, if_true, Work.bind_run, Work.fail_run]

theorem Payments.assignKey_calm (id : Id) (key : String) (now : Moment)
    (hn : (t.keys Payment).Nodup) :
    Payments.assignKey id key (.calm now) t =
      match (t.find? id).filter fun p : Payment =>
        p.status == .pending && p.transactionKey.isNone with
      | none => .ok (none, t)
      | some p =>
        if t.payments.any (·.transactionKey == some key) then .error (.invalid (.keyTaken key))
        else .ok (some { p with transactionKey := some key }, t.giveKey id key) := by
  simp only [assignKey, Work.update_calm]
  cases hp : (t.find? id).filter fun p : Payment =>
    p.status == .pending && p.transactionKey.isNone with
  | none => rfl
  | some p =>
    have hfind := (Option.filter_eq_some_iff.mp hp).1
    simp only [Work.bind_run, Work.view_run]
    cases t.payments.any (·.transactionKey == some key)
    · simp only [Bool.false_eq_true, if_false, Work.pure_run]
      exact congrArg (fun t => Except.ok (some { p with transactionKey := some key }, t))
        (Tables.replace_eq_amend (fun p : Payment => { p with transactionKey := some key })
          hn hfind)
    · rfl

theorem Payments.settle_calm (id : Id) (status : PaymentStatus) (reason : Option String)
    (completedAt : Option Moment) (now : Moment) (hn : (t.keys Payment).Nodup) :
    Payments.settle id status reason completedAt (.calm now) t =
      match (t.find? id).filter fun p : Payment => p.status == .pending with
      | none => .ok (none, t)
      | some p => .ok (some { p with status, failureReason := reason, completedAt },
          t.settle id status reason completedAt) := by
  simp only [settle, Work.update_calm]
  cases hp : (t.find? id).filter fun p : Payment => p.status == .pending with
  | none => rfl
  | some p =>
    have hfind := (Option.filter_eq_some_iff.mp hp).1
    simp only [Work.pure_run]
    exact congrArg
      (fun t => Except.ok (some { p with status, failureReason := reason, completedAt }, t))
      (Tables.replace_eq_amend
        (fun p : Payment => { p with status, failureReason := reason, completedAt }) hn hfind)

end Checkout.Store
