-- What happened, oldest first, and what was so of each thing when it came:
-- given all that came before it.
import Mathlib.Data.List.Induction

namespace Checkout

variable {α : Type*} {P Q : List α → α → Prop} {log : List α}

/-- It is so of each entry, after those before it. -/
def Throughout (P : List α → α → Prop) (log : List α) : Prop :=
  ∀ earlier entry later, log = earlier ++ entry :: later → P earlier entry

namespace Throughout

theorem nil : Throughout P [] := fun _ _ _ h => by simp at h

theorem concat {entry : α} (h : Throughout P log) (hentry : P log entry) :
    Throughout P (log ++ [entry]) := by
  intro earlier found later hsplit
  rcases List.eq_nil_or_concat later with rfl | ⟨later, last, rfl⟩
  · obtain ⟨rfl, hfound⟩ := List.append_inj' hsplit rfl
    cases hfound
    exact hentry
  · rw [List.concat_eq_append, ← List.cons_append, ← List.append_assoc] at hsplit
    obtain ⟨rfl, -⟩ := List.append_inj' hsplit rfl
    exact h earlier found later rfl

/-- It is so of each entry of an earlier time. -/
theorem of_append {later : List α} (h : Throughout P (log ++ later)) : Throughout P log :=
  fun earlier found rest hsplit => h earlier found (rest ++ later) (by simp [hsplit])

theorem of_concat {entry : α} (h : Throughout P (log ++ [entry])) :
    Throughout P log ∧ P log entry :=
  ⟨h.of_append, h log entry [] rfl⟩

theorem mono (h : Throughout P log) (himp : ∀ earlier entry, P earlier entry → Q earlier entry) :
    Throughout Q log :=
  fun earlier entry later hsplit => himp earlier entry (h earlier entry later hsplit)

theorem iff_take : Throughout P log ↔ ∀ n : Fin log.length, P (log.take n) log[n] := by
  constructor
  · intro h n
    exact h _ _ (log.drop (n + 1)) (by simp)
  · rintro h earlier entry later rfl
    simpa using h ⟨earlier.length, by simp⟩

instance [∀ earlier entry, Decidable (P earlier entry)] : Decidable (Throughout P log) :=
  decidable_of_iff _ iff_take.symm

end Throughout

end Checkout
