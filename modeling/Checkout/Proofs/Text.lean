-- Runs of digits, and text between blanks. Each digit of a run counts for a
-- power of ten by its place, and a number is written without a zero in front.
-- Taking the blanks off both ends of a text leaves what stands between them.
import Checkout.Number.Width
import Checkout.Text.Blank
import Mathlib.Algebra.Order.Ring.Nat
import Mathlib.Data.List.Basic
import Mathlib.Data.List.Induction
import Mathlib.Data.List.TakeWhile
import Mathlib.Tactic.Ring

namespace Checkout.Text

/-! ## One digit -/

theorem isDigit_iff (c : Char) : c.isDigit = true ↔ 48 ≤ c.toNat ∧ c.toNat ≤ 57 := by
  simp only [Char.isDigit, Bool.and_eq_true, decide_eq_true_eq, UInt32.le_iff_toNat_le]
  rfl

theorem digitValue_lt {c : Char} (h : c.isDigit = true) : digitValue c < 10 := by
  have := (isDigit_iff c).mp h
  unfold digitValue
  omega

theorem isBlank_of_isDigit {c : Char} (h : c.isDigit = true) : isBlank c = false := by
  have := (isDigit_iff c).mp h
  simp only [isBlank, Bool.or_eq_false_iff, Bool.and_eq_false_iff, decide_eq_false_iff_not,
    beq_eq_false_iff_ne]
  omega

/-! ## Runs of digits -/

@[simp] theorem valueOf_nil : valueOf [] = 0 := rfl

theorem valueOf_append (ds es : List Char) :
    valueOf (ds ++ es) = valueOf ds * 10 ^ es.length + valueOf es := by
  induction es using List.reverseRecOn with
  | nil => simp
  | append_singleton es c ih =>
    rw [← List.append_assoc, valueOf_append_singleton, ih, valueOf_append_singleton,
      List.length_append, List.length_singleton, pow_succ]
    ring

theorem valueOf_cons (c : Char) (ds : List Char) :
    valueOf (c :: ds) = digitValue c * 10 ^ ds.length + valueOf ds := by
  have hone : valueOf [c] = digitValue c := by simp [valueOf]
  rw [← List.singleton_append, valueOf_append, hone]

theorem valueOf_lt {ds : List Char} (h : ∀ c ∈ ds, c.isDigit = true) :
    valueOf ds < 10 ^ ds.length := by
  induction ds with
  | nil => simp
  | cons c ds ih =>
    have hc := digitValue_lt (h c List.mem_cons_self)
    have hds := ih fun d hd => h d (List.mem_cons_of_mem c hd)
    rw [valueOf_cons, List.length_cons, pow_succ]
    calc digitValue c * 10 ^ ds.length + valueOf ds
        < digitValue c * 10 ^ ds.length + 10 ^ ds.length := by omega
      _ = (digitValue c + 1) * 10 ^ ds.length := by ring
      _ ≤ 10 * 10 ^ ds.length := Nat.mul_le_mul_right _ hc
      _ = 10 ^ ds.length * 10 := by ring

/-- Only zero is written with a zero in front. -/
theorem head?_digits {n : Nat} (h : 0 < n) : (digits n).head? ≠ some '0' := by
  induction n using Nat.strongRecOn with
  | ind n ih =>
    unfold digits
    split
    · rename_i hlt
      have hdigit : ∀ d < 10, 0 < d → digitChar d ≠ '0' := by decide
      simpa using hdigit n hlt h
    · rename_i hlt
      rw [List.head?_append_of_ne_nil _ (digits_ne_nil _)]
      exact ih (n / 10) (by omega) (by omega)

/-! ## Reading digits within a limit -/

/-- Digits are read up to a limit exactly if the number they stand for keeps to it. -/
theorem readDigitsUpTo_digits {ds : List Char} (h : ∀ c ∈ ds, c.isDigit = true) {limit n : Nat}
    (beyond : IntegerFault) (hn : n ≤ limit) :
    readDigitsUpTo limit beyond ds n =
      if n * 10 ^ ds.length + valueOf ds ≤ limit then .ok (n * 10 ^ ds.length + valueOf ds)
      else .error beyond := by
  induction ds generalizing n with
  | nil => simp [readDigitsUpTo, hn]
  | cons c ds ih =>
    have hsum : n * 10 ^ (ds.length + 1) + (digitValue c * 10 ^ ds.length + valueOf ds) =
        (10 * n + digitValue c) * 10 ^ ds.length + valueOf ds := by ring
    rw [readDigitsUpTo, if_pos (h c List.mem_cons_self), valueOf_cons, List.length_cons, hsum]
    by_cases hroom : 10 * n + digitValue c ≤ limit
    · simp only [if_pos hroom]
      exact ih (fun d hd => h d (List.mem_cons_of_mem c hd)) hroom
    · -- a number beyond the limit does not come back below it
      have hgrows : 10 * n + digitValue c ≤ (10 * n + digitValue c) * 10 ^ ds.length :=
        Nat.le_mul_of_pos_right _ (Nat.pow_pos (by decide))
      simp only [if_neg hroom]
      rw [if_neg (by omega)]

/-! ## Blanks at both ends -/

/-- The text has no blank at either end. -/
def Bare (cs : List Char) : Prop :=
  (∀ c ∈ cs.head?, isBlank c = false) ∧ ∀ c ∈ cs.getLast?, isBlank c = false

/-- What is left of a text stood between blanks. -/
theorem exists_trimmed (cs : List Char) :
    ∃ before after : List Char, (∀ c ∈ before, isBlank c = true) ∧
      (∀ c ∈ after, isBlank c = true) ∧ cs = before ++ trimmed cs ++ after := by
  let rest := cs.dropWhile isBlank
  refine ⟨cs.takeWhile isBlank, (rest.reverse.takeWhile isBlank).reverse,
    fun c hc => List.mem_takeWhile_imp hc,
    fun c hc => List.mem_takeWhile_imp (List.mem_reverse.mp hc), ?_⟩
  have hrest : trimmed cs ++ (rest.reverse.takeWhile isBlank).reverse = rest := by
    rw [trimmed, ← List.reverse_append, List.takeWhile_append_dropWhile, List.reverse_reverse]
  rw [List.append_assoc, hrest, List.takeWhile_append_dropWhile]

theorem dropWhile_blanks {before cs : List Char} (hb : ∀ c ∈ before, isBlank c = true)
    (hcs : ∀ c ∈ cs.head?, isBlank c = false) : (before ++ cs).dropWhile isBlank = cs := by
  rw [List.dropWhile_append_of_pos hb]
  cases cs with
  | nil => rfl
  | cons c cs => simp [hcs c rfl]

/-- The blanks around a text that has none at its ends are all that is taken off. -/
theorem trimmed_between {before cs after : List Char} (hb : ∀ c ∈ before, isBlank c = true)
    (ha : ∀ c ∈ after, isBlank c = true) (h : Bare cs) :
    trimmed (before ++ cs ++ after) = cs := by
  obtain ⟨hhead, hlast⟩ := h
  cases cs with
  | nil =>
    have hall : ∀ c ∈ before ++ after, isBlank c = true := fun c hc =>
      (List.mem_append.mp hc).elim (hb c) (ha c)
    have hnil : (before ++ after ++ []).dropWhile isBlank = [] := dropWhile_blanks hall (by simp)
    rw [List.append_nil] at hnil
    simp [trimmed, hnil]
  | cons c cs =>
    have hfront : (before ++ (c :: cs) ++ after).dropWhile isBlank = c :: cs ++ after := by
      rw [List.append_assoc]
      exact dropWhile_blanks hb (by simpa using hhead)
    have hback : ((c :: cs ++ after).reverse).dropWhile isBlank = (c :: cs).reverse := by
      rw [List.reverse_append]
      refine dropWhile_blanks (by simpa using ha) ?_
      rw [List.head?_reverse]
      exact hlast
    rw [trimmed, hfront, hback, List.reverse_reverse]

end Checkout.Text
