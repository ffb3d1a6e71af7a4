-- Calls that change nothing. If nothing that a call did changed the tables or
-- was announced, the shop is as if the call had never gone on: the tables are
-- the same, and so is all that every other call did and has left to do.
import Checkout.Proofs.Shop.Conduct

namespace Checkout

open Store Service

/-! ## Idle acts -/

/-- The act left the tables alone, and nobody heard of it: the store failed or told of no change,
or somebody else was asked. -/
def Act.isIdle : Act → Bool
  | .asked _ (.error _) => true
  | .asked query (.ok a) => query.changesNothing a
  | .requested _ _ _ => true
  | .lookedUp _ _ _ => true
  | .published _ => false

variable {t t' : Tables}

theorem Store.Change.eq_of_changesNothing {α : Type} {q : Query α} {a : α} {now : Moment}
    (h : Change now t q a t') (hq : q.changesNothing a = true) : t' = t := by
  cases h with
  | still => rfl
  | _ => cases hq

theorem step_idle {α : Type} {b : Business} {flow rest : Flow α} {around : Surroundings} {act : Act}
    (hk : t.Kept) (hp : flow.Proper b) (h : flow.step around t = some (act, rest, t'))
    (hidle : act.isIdle = true) : t' = t := by
  obtain ⟨-, ⟨β, q, a, rfl, hchange⟩ | ⟨-, hsame⟩⟩ := Shop.flow_step_cases hk hp h
  · exact hchange.eq_of_changesNothing hidle
  · exact hsame

/-! ## The shop without a call -/

/-- The call of a number goes on. -/
def Deed.proceeds (call : Nat) : Deed → Bool
  | .proceed other _ => other == call
  | _ => false

/-- The deeds without those by which a call goes on. -/
def without (call : Nat) (deeds : List Deed) : List Deed :=
  deeds.filter fun deed => !deed.proceeds call

theorem without_concat (call : Nat) (deeds : List Deed) (deed : Deed) :
    without call (deeds ++ [deed]) =
      without call deeds ++ if deed.proceeds call then [] else [deed] := by
  cases h : deed.proceeds call <;> simp [without, h]

namespace Shop

/-- The other shop is this one as if a call had never gone on. -/
structure SameWithout (s : Shop) (call : Nat) (other : Shop) : Prop where
  tables : other.tables = s.tables
  calls_length : other.calls.length = s.calls.length
  calls : ∀ number, number ≠ call → other.calls[number]? = s.calls[number]?
  record : other.record = s.record.filter (·.1 != call)

variable {s other : Shop} {call : Nat}

namespace SameWithout

theorem start (h : s.SameWithout call other) (op : Operation) :
    (s.step (.start op)).SameWithout call (other.step (.start op)) where
  tables := h.tables
  calls_length := by simp [step, h.calls_length]
  calls number hne := by simp [step, List.getElem?_append, h.calls_length, h.calls number hne]
  record := h.record

/-- Any other call goes on in the same way in both shops. -/
theorem proceed_ne (h : s.SameWithout call other) {number : Nat} (hne : number ≠ call)
    (around : Surroundings) :
    (s.proceed number around).SameWithout call (other.proceed number around) := by
  unfold proceed
  rw [h.calls number hne, h.tables]
  cases s.calls[number]? with
  | none => exact h
  | some running =>
    simp only
    cases running.rest.step around s.tables with
    | none => exact h
    | some result =>
      obtain ⟨act, rest, tables⟩ := result
      refine ⟨rfl, by simp [h.calls_length], fun place hplace => ?_, by simp [h.record, hne]⟩
      simp only [List.getElem?_set, h.calls_length, h.calls place hplace]

/-- What the call itself does is not seen in the other shop. -/
theorem proceed_self (h : s.SameWithout call other) (hs : s.InOrder) (around : Surroundings)
    (hidle : ∀ act ∈ actsOf call (s.proceed call around).record, act.isIdle = true) :
    (s.proceed call around).SameWithout call other := by
  rcases s.proceed_cases call around with hsame | ⟨running, act, rest, tables, hc, hf, hnext⟩
  · rw [hsame]
    exact h
  rw [hnext] at hidle ⊢
  have hlast : act.isIdle = true := by
    refine hidle act ?_
    simp [actsOf_concat]
  have htables : tables = s.tables :=
    step_idle hs.kept (hs.proper running (List.mem_of_getElem? hc)) hf hlast
  refine ⟨h.tables.trans htables.symm, by simp [h.calls_length], fun number hne => ?_, ?_⟩
  · rw [List.getElem?_set_ne (Ne.symm hne)]
    exact h.calls number hne
  · simp [h.record]

theorem withdraw (h : s.SameWithout call other) (product : Id) (around : Surroundings) :
    (s.step (.withdraw product around)).SameWithout call
      (other.step (.withdraw product around)) := by
  simp only [step]
  rw [h.tables]
  split
  · exact ⟨rfl, h.calls_length, h.calls, h.record⟩
  · exact h

end SameWithout

/-- Nothing is taken out of the record. -/
theorem record_subset_step (s : Shop) (deed : Deed) : s.record ⊆ (s.step deed).record := by
  cases deed with
  | start op => exact List.Subset.refl _
  | proceed call around =>
    rcases s.proceed_cases call around with hsame | ⟨running, act, rest, tables, -, -, hnext⟩
    · rw [step, hsame]
      exact List.Subset.refl _
    · rw [step, hnext]
      exact List.subset_append_left _ _
  | withdraw product around =>
    simp only [step]
    split <;> exact List.Subset.refl _

/-- If a call did nothing but idle acts, the shop is as if it had never gone on. -/
theorem sameWithout_after (deeds : List Deed) (call : Nat)
    (hidle : ∀ act ∈ actsOf call (after deeds).record, act.isIdle = true) :
    (after deeds).SameWithout call (after (without call deeds)) := by
  induction deeds using List.reverseRecOn with
  | nil => exact ⟨rfl, rfl, fun _ _ => rfl, rfl⟩
  | append_singleton deeds deed ih =>
    rw [without_concat]
    rw [after_concat] at hidle ⊢
    have h := ih fun act hact =>
      hidle act (mem_actsOf.mpr (record_subset_step _ deed (mem_actsOf.mp hact)))
    cases deed with
    | start op =>
      rw [if_neg (by simp [Deed.proceeds]), after_concat]
      exact h.start op
    | proceed number around =>
      by_cases hsame : number = call
      · subst hsame
        rw [if_pos (by simp [Deed.proceeds]), List.append_nil]
        exact h.proceed_self (inOrder_after deeds) around hidle
      · rw [if_neg (by simpa [Deed.proceeds] using hsame), after_concat]
        exact h.proceed_ne hsame around
    | withdraw product around =>
      rw [if_neg (by simp [Deed.proceeds]), after_concat]
      exact h.withdraw product around

theorem record_subset_after (deeds later : List Deed) :
    (after deeds).record ⊆ (after (deeds ++ later)).record := by
  induction later using List.reverseRecOn with
  | nil => rw [List.append_nil]; exact List.Subset.refl _
  | append_singleton later deed ih =>
    rw [← List.append_assoc, after_concat]
    exact List.Subset.trans ih (record_subset_step _ deed)

/-- A call left no trace in a run: none of its steps changed the tables, nobody heard of it, and
the shop is as if it had never gone on. -/
structure Traceless (deeds : List Deed) (call : Nat) : Prop where
  tables : ∀ earlier around later, deeds = earlier ++ .proceed call around :: later →
    (after (earlier ++ [.proceed call around])).tables = (after earlier).tables
  silent : ∀ event, .published event ∉ actsOf call (after deeds).record
  absent : (after deeds).SameWithout call (after (without call deeds))

theorem traceless_after (deeds : List Deed) (call : Nat)
    (hidle : ∀ act ∈ actsOf call (after deeds).record, act.isIdle = true) :
    Traceless deeds call := by
  refine ⟨fun earlier around later hsplit => ?_, fun event hmem => (nomatch hidle _ hmem),
    sameWithout_after deeds call hidle⟩
  rw [List.append_cons] at hsplit
  subst hsplit
  have hrecord := record_subset_after (earlier ++ [.proceed call around]) later
  rw [after_concat, step] at hrecord ⊢
  rcases (after earlier).proceed_cases call around with
    hsame | ⟨running, act, rest, tables, hc, hf, hnext⟩
  · rw [hsame]
  · rw [hnext] at hrecord ⊢
    have hlast : act.isIdle = true :=
      hidle act (mem_actsOf.mpr (hrecord (List.mem_append_right _ (List.mem_singleton_self _))))
    have hs := inOrder_after earlier
    exact step_idle hs.kept (hs.proper running (List.mem_of_getElem? hc)) hf hlast

end Shop

end Checkout
