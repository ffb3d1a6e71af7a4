-- The points of a user are what the history of the balance says, and the
-- history says what was charged and what the orders cost. Nothing in it is
-- ever changed or taken out.
import Checkout.Proofs.Shop.Run

namespace Checkout

open Store Store.Tables

/-! ## One user -/

/-- The balance of a user is accounted for, entry by entry and order by order. -/
structure Store.Tables.AccountOf (t : Tables) (user : User) (b : Balance) : Prop where
  only : t.balances.filter (·.userId == user.id) = [b]
  nonneg : 0 ≤ b.amount.cents
  ascending : ((t.entriesOf user.id).map (·.id)).Pairwise (· < ·)
  chained : Chained 0 (t.entriesOf user.id)
  last : lastBalance 0 (t.entriesOf user.id) = b.amount.cents
  debit : ∀ o ∈ t.orders, o.userId = user.id →
    t.entriesFor .debit o.id = [(user.id, -o.finalTotal.cents)]
  refund : ∀ o ∈ t.orders, o.userId = user.id →
    t.entriesFor .refund o.id =
      if o.status = .cancelled then [(user.id, o.finalTotal.cents)] else []
  sum : b.amount.cents = t.chargesOf user.id - t.spentBy user.id

variable {t t' : Tables}

theorem counted_ascending {ids : List Int} (h : Counted ids) : ids.Pairwise (· < ·) := by
  rw [h]
  exact List.pairwise_lt_range.map _ fun a b hab => by omega

theorem accountOf_kept (hk : t.Kept) {user : User} (hu : user ∈ t.users) :
    ∃ b, t.AccountOf user b := by
  obtain ⟨b, hb⟩ := hk.numbered.exists_balance (List.mem_map_of_mem hu)
  obtain ⟨hm, hid⟩ : b ∈ t.balances ∧ b.userId = user.id := Tables.find?_eq_some hb
  refine ⟨b, ?_, hk.ledgered.nonneg b hm, ?_, hk.ledgered.chained user hu, ?_, ?_, ?_, ?_⟩
  · rw [← hid]
    exact filter_key_eq Balance.userId hk.numbered.balances_nodup hm
  · have hids : (t.history.map LedgerEntry.id).Pairwise (· < ·) :=
      counted_ascending hk.numbered.history
    exact hids.sublist (List.filter_sublist.map LedgerEntry.id)
  · rw [← hid]
    exact hk.ledgered.last b hm
  · intro o ho hown
    rw [← hown]
    exact hk.accounted.debit o ho
  · intro o ho hown
    rw [← hown]
    exact hk.accounted.refund o ho
  · rw [← hid]
    exact hk.accounted.sum b hm

/-! ## The history grows -/

/-- A change adds at most one entry to the history, at the end. -/
theorem history_change {α : Type} {q : Query α} {a : α} {now : Moment}
    (h : Change now t q a t') : t.history <+: t'.history := by
  cases h with
  | charged amount => exact List.prefix_append _ _
  | placed order => exact List.prefix_append _ _
  | cancelled ho => exact List.prefix_append _ _
  | still => exact List.prefix_rfl
  | joined name => exact List.prefix_rfl
  | stocked new => exact List.prefix_rfl
  | issued c => exact List.prefix_rfl
  | confirmed ho => exact List.prefix_rfl
  | archived ho => exact List.prefix_rfl
  | opened p => exact List.prefix_rfl
  | keyed key => exact List.prefix_rfl
  | completed => exact List.prefix_rfl
  | failed reason => exact List.prefix_rfl

theorem history_step {s : Shop} (hs : s.InOrder) (deed : Deed) :
    s.tables.history <+: (s.step deed).tables.history := by
  generalize hr : (s.step deed).record = record
  generalize ht : (s.step deed).tables = tables
  have hadvance := (Shop.step_advance hs deed).1
  rw [hr, ht] at hadvance
  cases hadvance with
  | waited => exact List.prefix_rfl
  | answered call h => exact history_change h
  | noted call h => exact List.prefix_rfl
  | withdrew id => exact List.prefix_rfl

/-! ## The laws -/

/-- After any run, the balance of every user is accounted for by its history, and the history by
the orders. Whatever else is done after that, the history only grows at its end. -/
theorem every_balance_is_accounted_for (deeds later : List Deed) :
    (∀ user ∈ (Shop.after deeds).tables.users, ∃ b, (Shop.after deeds).tables.AccountOf user b) ∧
      (Shop.after deeds).tables.history <+: (Shop.after (deeds ++ later)).tables.history := by
  refine ⟨fun user hu => accountOf_kept (Shop.kept_after deeds) hu, ?_⟩
  induction later using List.reverseRecOn with
  | nil => simp
  | append_singleton later deed ih =>
    rw [← List.append_assoc, Shop.after_concat]
    exact ih.trans (history_step (Shop.inOrder_after _) deed)

end Checkout
