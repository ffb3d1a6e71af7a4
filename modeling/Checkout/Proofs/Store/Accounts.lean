-- What the units of work on users and balances come to. A debit and a credit
-- are each one booking: the balance changes and the history grows together.
import Checkout.Proofs.Store.Calm
import Checkout.Proofs.Store.Effects

namespace Checkout.Store

/-! ## Users -/

theorem Users.insert_calm (name : String) (now : Moment) (t : Tables) :
    Users.insert name (.calm now) t =
      if t.users.any (·.name == name) then .error (.invalid (.userNameTaken name))
      else .ok (t.newUser name, t.join name) := by
  simp only [Users.insert, Work.bind_run, Work.insertAndGet_calm, Work.view_run]
  cases h : t.users.any (·.name == name)
  · simp only [Bool.false_eq_true, if_false, Work.pure_run, Work.insert_calm]
    rfl
  · simp only [if_true, Work.bind_run, Work.fail_run]

/-! ## Balances -/

section Balances

variable {t : Tables} {userId : Id} {b : Balance} {amount : Money}

theorem pointsOf_eq (hb : t.find? userId = some b) : t.pointsOf userId = b.amount := by
  simp [Tables.pointsOf, hb]

/-- A balance changed in place and an entry at the end of the history are one booking. -/
theorem append_replace_eq_book (change : Money) (kind : LedgerKind) (orderId : Option Id)
    (hn : (t.keys Balance).Nodup) (hb : t.find? userId = some b) :
    (t.replace userId { b with amount := b.amount.plus change }).append
      ({ id := t.nextId LedgerEntry, userId, kind, amount := change,
         balanceAfter := b.amount.plus change, orderId } : LedgerEntry) =
      t.book userId kind change orderId := by
  rw [Tables.replace_eq_amend (fun b => { b with amount := b.amount.plus change }) hn hb,
    Tables.book, pointsOf_eq hb]
  rfl

theorem Balances.fetchFor_calm (now : Moment) (hb : t.find? userId = some b) :
    Balances.fetchFor userId (.calm now) t = .ok (b, t) := by
  simp [Balances.fetchFor, Balances.fetch, Work.fetch_calm, hb, Option.filter_some]

theorem Balances.debit_calm (orderId : Option Id) (now : Moment) (hn : (t.keys Balance).Nodup)
    (hb : t.find? userId = some b) (ha : 0 ≤ amount.cents) :
    Balances.debit userId amount orderId (.calm now) t =
      if amount.cents ≤ b.amount.cents then
        .ok ({ b with amount := b.amount.plus amount.opposite },
          t.book userId .debit amount.opposite orderId)
      else .error (.insufficientBalance userId amount b.amount) := by
  by_cases hle : amount.cents ≤ b.amount.cents
  · have hle' : amount ≤ b.amount := hle
    have hfit := b.amount.fits
    have hopp : amount.opposite.cents = -amount.cents := Money.saturated_cents (by omega)
    have hsub : b.amount.checkedSub amount = some (b.amount.plus amount.opposite) := by
      rw [Money.checkedSub, Money.ofCents?_fits (by omega), Money.plus, hopp, Int.sub_eq_add_neg]
    have hleft : (b.amount.plus amount.opposite).isNegative = false := by
      apply Money.isNegative_eq_false
      rw [Money.plus, hopp, Money.saturated_cents (by omega)]
      omega
    have hneg : Fault.ofOverflow amount.neg = .ok amount.opposite := by
      rw [Money.neg, Money.ofCents?_fits (by omega)]
      rfl
    simp only [Balances.debit, Money.isNegative_eq_false ha, Bool.false_eq_true, if_false,
      Work.bind_run, Work.update_calm, hb, Option.filter_some, hle', hle, decide_true, if_true,
      Balances.withAmount, hsub, Work.constrain_run, hleft, Bool.not_false, Work.pure_run, hneg,
      Work.ofExcept_ok, Balances.append, Work.insert_calm]
    rw [← append_replace_eq_book amount.opposite .debit orderId hn hb]
    rfl
  · have hle' : ¬ amount ≤ b.amount := hle
    simp [Balances.debit, Money.isNegative_eq_false ha, Work.update_calm, hb, hle', hle,
      Option.filter_some, Balances.fetchFor_calm now hb]

theorem Balances.credit_calm (kind : LedgerKind) (orderId : Option Id) (now : Moment)
    (hn : (t.keys Balance).Nodup) (hb : t.find? userId = some b) (ha : 0 ≤ amount.cents)
    (hnonneg : 0 ≤ b.amount.cents) :
    Balances.credit userId kind amount orderId (.calm now) t =
      if b.amount.cents + amount.cents ≤ 9223372036854775807 then
        .ok ({ b with amount := b.amount.plus amount }, t.book userId kind amount orderId)
      else .error (.invalid (.balanceTooLarge kind amount)) := by
  by_cases hroom : b.amount.cents + amount.cents ≤ 9223372036854775807
  · have hfits : Balances.hasRoomFor amount b = true := by
      simp only [Balances.hasRoomFor, decide_eq_true_eq]
      omega
    have hadd : b.amount.checkedAdd amount = some (b.amount.plus amount) :=
      Money.ofCents?_fits (by omega)
    have hleft : (b.amount.plus amount).isNegative = false := by
      apply Money.isNegative_eq_false
      rw [Money.plus, Money.saturated_cents (by omega)]
      omega
    simp only [Balances.credit, Money.isNegative_eq_false ha, Bool.false_eq_true, if_false,
      Work.bind_run, Work.update_calm, hb, Option.filter_some, hfits, if_true,
      Balances.withAmount, hadd, Work.constrain_run, hleft, Bool.not_false, Work.pure_run,
      Balances.append, Work.insert_calm, hroom]
    rw [← append_replace_eq_book amount kind orderId hn hb]
    rfl
  · have hfull : Balances.hasRoomFor amount b = false := by
      simp only [Balances.hasRoomFor, decide_eq_false_iff_not]
      omega
    simp [Balances.credit, Money.isNegative_eq_false ha, Work.update_calm, hb, hfull,
      Option.filter_some, Balances.fetchFor_calm now hb, hroom]

/-- A balance is topped up by a positive amount that it has room for. -/
theorem Balances.charge_calm (userId : Id) (amount : Money) (now : Moment)
    (hn : (t.keys Balance).Nodup) (hnonneg : ∀ b ∈ t.balances, 0 ≤ b.amount.cents) :
    Balances.charge userId amount (.calm now) t =
      if amount.isPositive then
        match (t.find? userId : Option Balance) with
        | none => .error (.notFound (.balanceOf userId))
        | some b =>
          if b.amount.cents + amount.cents ≤ 9223372036854775807 then
            .ok ({ b with amount := b.amount.plus amount }, t.book userId .charge amount none)
          else .error (.invalid (.balanceTooLarge .charge amount))
      else .error (.invalid (.chargeNotPositive amount)) := by
  cases hpos : amount.isPositive
  · simp [Balances.charge, hpos]
  · have hcents : 0 ≤ amount.cents := by
      rw [Money.isPositive, decide_eq_true_eq] at hpos
      omega
    simp only [Balances.charge, hpos, Bool.not_true, Bool.false_eq_true, if_false, if_true]
    cases hb : (t.find? userId : Option Balance) with
    | none =>
      simp [Balances.credit, Balances.fetchFor, Balances.fetch, Money.isNegative_eq_false hcents,
        Work.update_calm, Work.fetch_calm, hb]
    | some b =>
      exact Balances.credit_calm .charge none now hn hb hcents
        (hnonneg b (Tables.find?_eq_some hb).1)

end Balances

end Checkout.Store
