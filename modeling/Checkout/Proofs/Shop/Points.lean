-- The summary of a user's points. It takes two reads, the balance first and
-- then the history, and other calls may be at work in between. So the balance
-- is the one that the history came to when the balance was read. It lags behind
-- the history by what was entered after that, and by no more.
import Checkout.Proofs.Shop.Ledger
import Checkout.Proofs.Shop.Strides

namespace Checkout

open Store Service
open Tables (Chained lastBalance)

/-! ## Histories that grow -/

namespace Store

/-- The last balance of a history is the sum of its amounts, on top of what there was before. -/
theorem lastBalance_of_chained {before : Int} {es : List LedgerEntry} (h : Chained before es) :
    lastBalance before es = before + (es.map (·.amount.cents)).sum := by
  induction es generalizing before with
  | nil => simp [lastBalance]
  | cons e es ih =>
    rw [lastBalance_cons, ih h.2, h.1, List.map_cons, List.sum_cons, Int.add_assoc]

/-- The entries of anybody are chained: who has any is a user. -/
theorem Tables.Kept.chained {t : Tables} (hk : t.Kept) (userId : Id) :
    Chained 0 (t.entriesOf userId) := by
  cases hentries : t.entriesOf userId with
  | nil => trivial
  | cons e es =>
    obtain ⟨he, hid⟩ := List.mem_filter.mp (hentries ▸ List.mem_cons_self : e ∈ t.entriesOf userId)
    obtain ⟨user, huser, hsame⟩ := List.mem_map.mp (hk.linked.entry_user e he)
    rw [← hentries, ← beq_iff_eq.mp hid, ← hsame]
    exact hk.ledgered.chained user huser

end Store

/-- Whatever else is done, the history only grows at its end. -/
theorem history_onward (deeds later : List Deed) :
    (Shop.after deeds).tables.history <+: (Shop.after (deeds ++ later)).tables.history :=
  Shop.related_after (R := fun t t' => t.history <+: t'.history) (fun _ => List.prefix_rfl)
    List.IsPrefix.trans (fun _ h => history_change h) (fun _ _ => List.prefix_rfl) deeds later

/-! ## The two reads -/

/-- The balance that a user is told of is the one after the last entry of the history that comes
with it, or zero if there is none. -/
def PointsSummary.Agrees (s : PointsSummary) : Prop :=
  s.balance.amount.cents = lastBalance 0 s.history

namespace Service.Accounts

/-- The balance is asked for, and then the history. -/
theorem points_run (userId : Id) :
    (points userId).run = .ask (.balance userId) fun
      | .ok (some balance) => .ask (.history userId) fun
        | .ok history => .done (.ok ⟨balance, history⟩)
        | .error f => .done (.error f)
      | .ok none => .done (.error (.notFound (.user userId)))
      | .error f => .done (.error f) := by
  refine congrArg (Flow.ask _) (funext fun r => ?_)
  match r with
  | .ok (some balance) =>
    refine congrArg (Flow.ask _) (funext fun r => ?_)
    cases r <;> rfl
  | .ok none => rfl
  | .error f => rfl

end Service.Accounts

/-- To read a balance gives the one of the user, unless the store says that it could not. -/
theorem balance_answer (userId : Id) (around : Surroundings) (t : Tables) :
    (Query.balance userId).answer around.conditions t = (.ok (t.find? userId), t) ∨
      around.medium ≠ .sound ∧ ∃ cause,
        (Query.balance userId).answer around.conditions t = (.error (.storage cause), t) := by
  refine around.answer_cases (q := .balance userId) (.fetch userId _) ?_
  refine (Work.fetch_calm userId _ around.now t).trans ?_
  cases (t.find? userId : Option Balance) <;> rfl

/-- To read a history gives all entries of the user, unless the store says that it could not. -/
theorem history_answer (userId : Id) (around : Surroundings) (t : Tables) :
    (Query.history userId).answer around.conditions t = (.ok (t.entriesOf userId), t) ∨
      around.medium ≠ .sound ∧ ∃ cause,
        (Query.history userId).answer around.conditions t = (.error (.storage cause), t) :=
  around.answer_cases (q := .history userId) (.select _)
    (Work.select_calm (fun e : LedgerEntry => e.userId == userId) around.now t)

/-- How a call for the points of a user can come to its end. -/
inductive PointsRead (userId : Id) : List Stride → Except Fault PointsSummary → Prop where
  | told {first second : Stride} {balance : Balance}
      (hbalance : first.before.find? userId = some balance) (hfirst : first.after = first.before)
      (hsecond : second.after = second.before) :
    PointsRead userId [first, second] (.ok ⟨balance, second.before.entriesOf userId⟩)
  | unknown {first : Stride} (hnone : (first.before.find? userId : Option Balance) = none) :
    PointsRead userId [first] (.error (.notFound (.user userId)))
  | failed {strides : List Stride} {stride : Stride} (hstride : stride ∈ strides)
      (hmedium : stride.around.medium ≠ .sound) (cause : StorageFault) :
    PointsRead userId strides (.error (.storage cause))

theorem points_read {userId : Id} {strides : List Stride} {answer : Except Fault PointsSummary}
    (hwalk : (Accounts.points userId).run.Walks strides (.done answer)) :
    PointsRead userId strides answer := by
  rw [Accounts.points_run] at hwalk
  obtain ⟨around, before, rest, rfl, hrest⟩ := hwalk.ask_inv
  rcases balance_answer userId around before with hanswer | ⟨hmedium, cause, hanswer⟩
  · rw [hanswer] at hrest ⊢
    cases hbalance : (before.find? userId : Option Balance) with
    | none =>
      rw [hbalance] at hrest
      obtain ⟨rfl, hdone⟩ := hrest.done_inv
      cases hdone
      exact .unknown hbalance
    | some balance =>
      rw [hbalance] at hrest
      obtain ⟨around', before', rest', rfl, hrest'⟩ := hrest.ask_inv
      rcases history_answer userId around' before' with hanswer' | ⟨hmedium, cause, hanswer'⟩
      · rw [hanswer'] at hrest' ⊢
        obtain ⟨rfl, hdone⟩ := hrest'.done_inv
        cases hdone
        exact .told hbalance rfl rfl
      · rw [hanswer'] at hrest' ⊢
        obtain ⟨rfl, hdone⟩ := hrest'.done_inv
        cases hdone
        exact .failed (List.mem_cons_of_mem _ List.mem_cons_self) hmedium cause
  · rw [hanswer] at hrest ⊢
    obtain ⟨rfl, hdone⟩ := hrest.done_inv
    cases hdone
    exact .failed List.mem_cons_self hmedium cause

/-! ## What a summary tells -/

/-- What a summary tells that was read in two steps: the balance as the first step found it, and the
history as the second did, with what was added in between. -/
structure Summed (userId : Id) (summary : PointsSummary) (first second : Stride)
    (added : List LedgerEntry) : Prop where
  balance : first.before.find? userId = some summary.balance
  /-- When the balance was read, it was the one that the history came to. -/
  agreed : (PointsSummary.mk summary.balance (first.before.entriesOf userId)).Agrees
  history : summary.history = second.before.entriesOf userId
  grown : summary.history = first.before.entriesOf userId ++ added
  /-- The balance lags behind the history by what was added. -/
  behind : lastBalance 0 summary.history =
    summary.balance.amount.cents + (added.map (·.amount.cents)).sum
  /-- To read changes nothing. -/
  still : first.after = first.before ∧ second.after = second.before

namespace Summed

variable {userId : Id} {summary : PointsSummary} {first second : Stride} {added : List LedgerEntry}

theorem agrees_iff (h : Summed userId summary first second added) :
    summary.Agrees ↔ (added.map (·.amount.cents)).sum = 0 := by
  have hbehind := h.behind
  unfold PointsSummary.Agrees
  omega

end Summed

theorem summed_after {deeds : List Deed} {call : Nat} {userId : Id} {first second : Stride}
    {balance : Balance} (hsteps : Shop.stridesOf call deeds = [first, second])
    (hbalance : first.before.find? userId = some balance) (hfirst : first.after = first.before)
    (hsecond : second.after = second.before) :
    ∃ added, Summed userId ⟨balance, second.before.entriesOf userId⟩ first second added := by
  have hsplit : Shop.stridesOf call deeds = [] ++ first :: ([] ++ second :: []) := hsteps
  obtain ⟨earlier, middle, hbefore, hafter, hlater⟩ := Shop.stride_split_two hsplit
  obtain ⟨hmem, hid⟩ : balance ∈ first.before.balances ∧ balance.userId = userId :=
    Tables.find?_eq_some hbalance
  have hkept : first.before.Kept := hbefore ▸ Shop.kept_after earlier
  have hagreed : balance.amount.cents = lastBalance 0 (first.before.entriesOf userId) := by
    rw [← hid, hkept.ledgered.last balance hmem]
  have hgrows : first.before.history <+: second.before.history := by
    rw [← hfirst, hafter, hlater]
    exact history_onward _ middle
  obtain ⟨added, hadded⟩ : first.before.entriesOf userId <+: second.before.entriesOf userId :=
    hgrows.filter _
  refine ⟨added, hbalance, hagreed, rfl, hadded.symm, ?_, hfirst, hsecond⟩
  have hchained : Chained 0 (second.before.entriesOf userId) := by
    rw [hlater]
    exact (Shop.kept_after _).chained userId
  calc lastBalance 0 (second.before.entriesOf userId)
      = ((first.before.entriesOf userId).map (·.amount.cents)).sum +
          (added.map (·.amount.cents)).sum := by
        rw [lastBalance_of_chained hchained, ← hadded, List.map_append, List.sum_append, Int.zero_add]
    _ = balance.amount.cents + (added.map (·.amount.cents)).sum := by
        rw [hagreed, lastBalance_of_chained (hkept.chained userId), Int.zero_add]

/-- However the steps of other calls come in between, a call for the points of a user that keeps
getting its turn comes to an end. The balance that it tells is then the one that the history came
to when the balance was read. It is also the one after the last entry of the history that comes with
it, exactly if what was entered between the two reads comes to nothing. -/
theorem a_balance_lags_behind_its_history_by_what_came_in_between (deeds : List Deed) (call : Nat)
    (userId : Id) (rest : Flow (Except Fault PointsSummary))
    (hcall : (Shop.after deeds).calls[call]? = some ⟨.points userId, rest⟩) :
    (∀ later, Shop.Recurs call later → ∃ n answer,
      (Shop.after (Shop.course deeds later n)).calls[call]? =
        some ⟨.points userId, .done answer⟩) ∧
    ∀ answer, rest = .done answer → PointsRead userId (Shop.stridesOf call deeds) answer ∧
      ∀ summary, answer = .ok summary → ∃ first second added,
        Shop.stridesOf call deeds = [first, second] ∧
          Summed userId summary first second added ∧
          (summary.Agrees ↔ (added.map (·.amount.cents)).sum = 0) := by
  refine ⟨fun later hrecurs => Shop.comes_to_an_end hrecurs 0 (by simpa [Shop.course] using hcall),
    ?_⟩
  rintro answer rfl
  have hread : PointsRead userId (Shop.stridesOf call deeds) answer :=
    points_read (Shop.walks_after deeds hcall)
  refine ⟨hread, fun summary hanswer => ?_⟩
  generalize hsteps : Shop.stridesOf call deeds = strides at hread
  cases hread with
  | unknown => cases hanswer
  | failed => cases hanswer
  | @told first second balance hbalance hfirst hsecond =>
    cases hanswer
    obtain ⟨added, hsummed⟩ := summed_after hsteps hbalance hfirst hsecond
    exact ⟨first, second, added, rfl, hsummed, hsummed.agrees_iff⟩

/-- The user is charged twice, once before the reads and once between them. The balance lags behind
by the second charge. -/
theorem a_balance_lags_behind_by_one_charge :
    let deeds : List Deed :=
      [.start (.createUser "ann"), .proceed 0 .quiet, .start (.charge 1 (.saturated 10000)),
        .proceed 1 .quiet, .start (.points 1), .proceed 2 .quiet,
        .start (.charge 1 (.saturated 5000)), .proceed 3 .quiet, .proceed 2 .quiet]
    let entries : List LedgerEntry :=
      [⟨1, 1, .charge, .saturated 10000, .saturated 10000, none⟩,
        ⟨2, 1, .charge, .saturated 5000, .saturated 15000, none⟩]
    let summary : PointsSummary := ⟨⟨1, .saturated 10000⟩, entries⟩
    (Shop.after deeds).calls[2]? = some ⟨.points 1, .done (.ok summary)⟩ ∧
      ∃ first second added, Shop.stridesOf 2 deeds = [first, second] ∧
        Summed 1 summary first second added ∧ (added.map (·.amount.cents)).sum = 5000 := by
  intro deeds entries summary
  have hcall : (Shop.after deeds).calls[2]? = some ⟨.points 1, .done (.ok summary)⟩ := rfl
  obtain ⟨-, hended⟩ :=
    a_balance_lags_behind_its_history_by_what_came_in_between deeds 2 1 _ hcall
  obtain ⟨first, second, added, hsteps, hsummed, -⟩ := (hended _ rfl).2 summary rfl
  refine ⟨hcall, first, second, added, hsteps, hsummed, ?_⟩
  have hbehind : (15000 : Int) = 10000 + (added.map (·.amount.cents)).sum := hsummed.behind
  omega

/-- A charge comes between the two reads. The history has it, and the balance does not. -/
theorem a_charge_between_the_two_reads_shows_in_one_of_them :
    let deeds : List Deed :=
      [.start (.createUser "ann"), .proceed 0 .quiet, .start (.points 1), .proceed 1 .quiet,
        .start (.charge 1 (.saturated 10000)), .proceed 2 .quiet, .proceed 1 .quiet]
    let charge : LedgerEntry := ⟨1, 1, .charge, .saturated 10000, .saturated 10000, none⟩
    let summary : PointsSummary := ⟨⟨1, .zero⟩, [charge]⟩
    (Shop.after deeds).calls[1]? = some ⟨.points 1, .done (.ok summary)⟩ ∧ ¬ summary.Agrees := by
  intro deeds charge summary
  refine ⟨rfl, fun hagrees => ?_⟩
  have hlast : lastBalance 0 summary.history = 10000 := by decide +kernel
  have hbalance : summary.balance.amount.cents = 0 := rfl
  rw [PointsSummary.Agrees, hlast, hbalance] at hagrees
  cases hagrees

end Checkout
