-- What a masked card number shows. Every character stays in its place, but for
-- the digits before the last four, and a star stands for each of these. So
-- numbers that differ in hidden digits alone look the same, and a masked number
-- has nothing left to hide.
import Checkout.Card
import Mathlib.Data.List.Basic
import Mathlib.Data.List.DropRight

namespace Checkout

namespace Card

/-! ## What a mask leaves -/

/-- The digits of a text, in their order. -/
def digitsOf (cs : List Char) : List Char := cs.filter Char.isDigit

/-- The last four digits of a text, or all if there are fewer. -/
def lastDigits (cs : List Char) : List Char := (digitsOf cs).rtake 4

/-- A digit at the place is one of the last four, or of all if there are fewer: together with them,
the digits before it are all digits. -/
def IsLast (cs : List Char) (place : Nat) : Prop :=
  digitCount cs ≤ digitCount (cs.take place) + min 4 (digitCount cs)

/-- One text is another with its digits masked, all but the last four. -/
structure Masks (plain masked : List Char) : Prop where
  length : masked.length = plain.length
  separator : ∀ (place : Nat) (c : Char), plain[place]? = some c → c.isDigit = false → masked[place]? = some c
  shown : ∀ (place : Nat) (c : Char), plain[place]? = some c → c.isDigit = true → IsLast plain place →
    masked[place]? = some c
  hidden : ∀ (place : Nat) (c : Char), plain[place]? = some c → c.isDigit = true → ¬ IsLast plain place →
    masked[place]? = some '*'

/-- Texts of the same length, with the same characters in the same places but for their digits. -/
structure SameShape (cs ds : List Char) : Prop where
  length : ds.length = cs.length
  separators : ∀ (place : Nat) (c : Char), c.isDigit = false →
    (ds[place]? = some c ↔ cs[place]? = some c)

/-- Texts of the same shape with the same last four digits. -/
structure Alike (cs ds : List Char) : Prop extends SameShape cs ds where
  lastDigits : lastDigits ds = lastDigits cs

variable {cs ds : List Char}

theorem digitCount_eq (cs : List Char) : digitCount cs = (digitsOf cs).length :=
  List.countP_eq_length_filter

theorem digitCount_cons (c : Char) (cs : List Char) :
    digitCount (c :: cs) = digitCount cs + if c.isDigit then 1 else 0 :=
  List.countP_cons

/-! ## Place by place -/

theorem length_maskedChars (cs : List Char) : (maskedChars cs).length = cs.length := by
  induction cs with
  | nil => rfl
  | cons c cs ih => rw [maskedChars, List.length_cons, List.length_cons, ih]

/-- A place shows what is there, or a star if it is a digit with four more after it. -/
theorem maskedChars_getElem? (cs : List Char) (place : Nat) :
    (maskedChars cs)[place]? = cs[place]?.map fun c =>
      if c.isDigit && 4 ≤ digitCount (cs.drop (place + 1)) then '*' else c := by
  induction cs generalizing place with
  | nil => rfl
  | cons c cs ih =>
    cases place with
    | zero => rfl
    | succ place => exact ih place

/-- All digits are before a digit, after it, or the digit itself. -/
theorem digitCount_around {place : Nat} {c : Char} (h : cs[place]? = some c)
    (hdigit : c.isDigit = true) :
    digitCount cs = digitCount (cs.take place) + 1 + digitCount (cs.drop (place + 1)) := by
  obtain ⟨hplace, rfl⟩ := List.getElem?_eq_some_iff.mp h
  calc digitCount cs
      = digitCount (cs.take place ++ cs[place] :: cs.drop (place + 1)) := by
        rw [← List.drop_eq_getElem_cons hplace, List.take_append_drop]
    _ = digitCount (cs.take place) + 1 + digitCount (cs.drop (place + 1)) := by
        rw [digitCount, List.countP_append, List.countP_cons_of_pos hdigit]
        unfold digitCount
        omega

/-- A digit is one of the last four exactly if there are not four more after it. -/
theorem isLast_iff {place : Nat} {c : Char} (h : cs[place]? = some c)
    (hdigit : c.isDigit = true) : IsLast cs place ↔ digitCount (cs.drop (place + 1)) < 4 := by
  have haround := digitCount_around h hdigit
  unfold IsLast
  omega

theorem masks_maskedChars (cs : List Char) : Masks cs (maskedChars cs) where
  length := length_maskedChars cs
  separator place c h hdigit := by simp [maskedChars_getElem?, h, hdigit]
  shown place c h hdigit hlast := by
    have hfew := (isLast_iff h hdigit).mp hlast
    rw [maskedChars_getElem?, h, Option.map_some, if_neg (by simp; omega)]
  hidden place c h hdigit hlast := by
    have hmany : 4 ≤ digitCount (cs.drop (place + 1)) := by
      by_contra hfew
      exact hlast ((isLast_iff h hdigit).mpr (by omega))
    simp [maskedChars_getElem?, h, hdigit, hmany]

/-! ## The digits that are left -/

theorem lastDigits_eq (cs : List Char) :
    lastDigits cs = (digitsOf cs).drop (digitCount cs - 4) := by
  rw [digitCount_eq]
  rfl

theorem lastDigits_of_few (h : digitCount cs ≤ 4) : lastDigits cs = digitsOf cs := by
  rw [lastDigits_eq, Nat.sub_eq_zero_of_le h, List.drop_zero]

theorem lastDigits_cons_of_not_digit {c : Char} (hc : c.isDigit = false) (cs : List Char) :
    lastDigits (c :: cs) = lastDigits cs := by
  rw [lastDigits, lastDigits, digitsOf, digitsOf, List.filter_cons_of_neg (by simp [hc])]

/-- A digit in front does not count if there are four after it. -/
theorem lastDigits_cons_of_many {c : Char} (hc : c.isDigit = true) (h : 4 ≤ digitCount cs) :
    lastDigits (c :: cs) = lastDigits cs := by
  have hmore : digitCount (c :: cs) - 4 = digitCount cs - 4 + 1 := by
    rw [digitCount_cons, if_pos hc]
    omega
  rw [lastDigits_eq, lastDigits_eq, hmore, digitsOf, List.filter_cons_of_pos hc, List.drop_succ_cons,
    digitsOf]

theorem lastDigits_cons_of_few {c : Char} (hc : c.isDigit = true) (h : digitCount cs < 4) :
    lastDigits (c :: cs) = c :: lastDigits cs := by
  have hmore : digitCount (c :: cs) ≤ 4 := by
    rw [digitCount_cons, if_pos hc]
    omega
  rw [lastDigits_of_few hmore, lastDigits_of_few (Nat.le_of_lt h), digitsOf,
    List.filter_cons_of_pos hc, digitsOf]

/-- The last four digits are all digits that are left. -/
theorem digitsOf_maskedChars (cs : List Char) : digitsOf (maskedChars cs) = lastDigits cs := by
  induction cs with
  | nil => rfl
  | cons c cs ih =>
    rw [maskedChars]
    cases hc : c.isDigit with
    | false => simpa [digitsOf, hc, lastDigits_cons_of_not_digit hc] using ih
    | true =>
      by_cases hmany : 4 ≤ digitCount cs
      · -- the star itself is no digit
        have hstar : '*'.isDigit = false := rfl
        simpa [digitsOf, hmany, hstar, lastDigits_cons_of_many hc hmany] using ih
      · simpa [digitsOf, hmany, hc, lastDigits_cons_of_few hc (Nat.lt_of_not_le hmany)] using ih

theorem digitCount_maskedChars (cs : List Char) :
    digitCount (maskedChars cs) = min 4 (digitCount cs) := by
  rw [digitCount_eq, digitsOf_maskedChars, lastDigits_eq, List.length_drop, ← digitCount_eq]
  omega

/-- Where there are no more than four digits there is nothing to hide. -/
theorem maskedChars_of_few (h : digitCount cs ≤ 4) : maskedChars cs = cs := by
  induction cs with
  | nil => rfl
  | cons c cs ih =>
    rw [digitCount_cons] at h
    have hshown : ¬ (c.isDigit && 4 ≤ digitCount cs) = true := by
      intro hhidden
      simp only [Bool.and_eq_true, decide_eq_true_eq] at hhidden
      rw [if_pos hhidden.1] at h
      omega
    rw [maskedChars, if_neg hshown, ih (by omega)]

theorem maskedChars_maskedChars (cs : List Char) :
    maskedChars (maskedChars cs) = maskedChars cs :=
  maskedChars_of_few (by rw [digitCount_maskedChars]; exact Nat.min_le_left _ _)

/-! ## Texts that look the same -/

variable {c d : Char}

namespace SameShape

theorem tail (h : SameShape (c :: cs) (d :: ds)) : SameShape cs ds where
  length := Nat.succ.inj h.length
  separators place c hc := h.separators (place + 1) c hc

theorem eq_of_not_digit (h : SameShape (c :: cs) (d :: ds)) (hc : c.isDigit = false) : d = c := by
  simpa using h.separators 0 c hc

theorem isDigit_eq (h : SameShape (c :: cs) (d :: ds)) : d.isDigit = c.isDigit := by
  cases hc : c.isDigit with
  | false => rw [h.eq_of_not_digit hc, hc]
  | true =>
    by_contra hd
    rw [Bool.not_eq_true] at hd
    have hsame : c = d := by simpa using h.separators 0 d hd
    rw [← hsame, hc] at hd
    cases hd

theorem cons (h : SameShape cs ds) (hfirst : d = c ∨ c.isDigit = true ∧ d.isDigit = true) :
    SameShape (c :: cs) (d :: ds) where
  length := congrArg Nat.succ h.length
  separators place e he := by
    cases place with
    | succ place => exact h.separators place e he
    | zero =>
      rcases hfirst with rfl | ⟨hc, hd⟩
      · rfl
      · have hne : ∀ f : Char, f.isDigit = true → f ≠ e := fun f hf hsame => by
          rw [hsame, he] at hf
          cases hf
        simp [hne c hc, hne d hd]

theorem cons_iff : SameShape (c :: cs) (d :: ds) ↔
    (d = c ∨ c.isDigit = true ∧ d.isDigit = true) ∧ SameShape cs ds := by
  refine ⟨fun h => ⟨?_, h.tail⟩, fun h => h.2.cons h.1⟩
  cases hc : c.isDigit with
  | false => exact .inl (h.eq_of_not_digit hc)
  | true => exact .inr ⟨rfl, h.isDigit_eq.trans hc⟩

instance decidable : (cs ds : List Char) → Decidable (SameShape cs ds)
  | [], [] => isTrue ⟨rfl, fun _ _ _ => Iff.rfl⟩
  | [], _ :: _ => isFalse fun h => nomatch h.length
  | _ :: _, [] => isFalse fun h => nomatch h.length
  | _ :: cs, _ :: ds =>
    have := decidable cs ds
    decidable_of_iff _ cons_iff.symm

theorem digitCount_eq (h : SameShape cs ds) : digitCount ds = digitCount cs := by
  induction cs generalizing ds with
  | nil => rw [List.length_eq_zero_iff.mp h.length]
  | cons c cs ih =>
    cases ds with
    | nil => cases h.length
    | cons d ds => rw [digitCount_cons, digitCount_cons, ih h.tail, h.isDigit_eq]

end SameShape

instance (cs ds : List Char) : Decidable (Alike cs ds) :=
  decidable_of_iff (SameShape cs ds ∧ lastDigits ds = lastDigits cs)
    ⟨fun h => ⟨h.1, h.2⟩, fun h => ⟨h.toSameShape, h.lastDigits⟩⟩

/-- The first characters do not matter to what is alike behind them. If they are among the last
four digits they are the same. -/
theorem Alike.uncons (h : Alike (c :: cs) (d :: ds)) :
    Alike cs ds ∧ (c.isDigit = true → digitCount cs < 4 → d = c) := by
  have hshape := h.toSameShape
  have hlast := h.lastDigits
  cases hc : c.isDigit with
  | false =>
    rw [hshape.eq_of_not_digit hc, lastDigits_cons_of_not_digit hc,
      lastDigits_cons_of_not_digit hc] at hlast
    exact ⟨⟨hshape.tail, hlast⟩, nofun⟩
  | true =>
    have hd : d.isDigit = true := hshape.isDigit_eq.trans hc
    have hcount := hshape.tail.digitCount_eq
    by_cases hmany : 4 ≤ digitCount cs
    · rw [lastDigits_cons_of_many hd (hcount ▸ hmany), lastDigits_cons_of_many hc hmany] at hlast
      exact ⟨⟨hshape.tail, hlast⟩, fun _ hfew => absurd hmany (Nat.not_le_of_lt hfew)⟩
    · rw [Nat.not_le] at hmany
      rw [lastDigits_cons_of_few hd (hcount ▸ hmany), lastDigits_cons_of_few hc hmany] at hlast
      obtain ⟨hsame, hrest⟩ := List.cons_eq_cons.mp hlast
      exact ⟨⟨hshape.tail, hrest⟩, fun _ _ => hsame⟩

theorem maskedChars_eq (h : Alike cs ds) : maskedChars ds = maskedChars cs := by
  induction cs generalizing ds with
  | nil => rw [List.length_eq_zero_iff.mp h.length]
  | cons c cs ih =>
    cases ds with
    | nil => cases h.length
    | cons d ds =>
      obtain ⟨hrest, hfirst⟩ := h.uncons
      have hshape := h.toSameShape
      rw [maskedChars, maskedChars, ih hrest, hshape.isDigit_eq, hshape.tail.digitCount_eq]
      congr 1
      cases hc : c.isDigit with
      | false => simpa using hshape.eq_of_not_digit hc
      | true =>
        by_cases hmany : 4 ≤ digitCount cs
        · simp [hmany]
        · simpa [hmany] using hfirst hc (Nat.lt_of_not_le hmany)

end Card

/-! ## The law -/

/-- A masked card number shows the last four digits, every other character in its place, and a star
for each other digit. Whatever else tells two numbers apart does not show, and to mask a number once
more changes nothing. -/
theorem a_masked_number_shows_its_last_four_digits (d : PaymentDetails) :
    Card.Masks d.cardNo.toList d.maskedCardNo.toList ∧
      Card.digitsOf d.maskedCardNo.toList = Card.lastDigits d.cardNo.toList ∧
      Card.digitCount d.maskedCardNo.toList ≤ 4 ∧
      (∀ d' : PaymentDetails, Card.Alike d.cardNo.toList d'.cardNo.toList →
        d'.maskedCardNo = d.maskedCardNo) ∧
      { d with cardNo := d.maskedCardNo }.maskedCardNo = d.maskedCardNo := by
  have hmasked : d.maskedCardNo.toList = Card.maskedChars d.cardNo.toList := String.toList_ofList
  rw [hmasked]
  refine ⟨Card.masks_maskedChars _, Card.digitsOf_maskedChars _, ?_, fun d' halike => ?_, ?_⟩
  · rw [Card.digitCount_maskedChars]
    exact Nat.min_le_left _ _
  · exact congrArg String.ofList (Card.maskedChars_eq halike)
  · change String.ofList (Card.maskedChars d.maskedCardNo.toList) = d.maskedCardNo
    rw [hmasked, Card.maskedChars_maskedChars]
    rfl

/-- Two numbers of sixteen digits in groups of four, with the same last group. -/
theorem numbers_that_end_alike_look_the_same :
    let d : PaymentDetails := ⟨"SAMSUNG", "1234-5678-9814-1451", "http://shop"⟩
    let d' : PaymentDetails := ⟨"SAMSUNG", "9999-0000-1111-1451", "http://shop"⟩
    Card.Alike d.cardNo.toList d'.cardNo.toList ∧ d'.maskedCardNo = d.maskedCardNo ∧
      d.maskedCardNo = "****-****-****-1451" := by
  intro d d'
  have halike : Card.Alike d.cardNo.toList d'.cardNo.toList := by decide +kernel
  obtain ⟨-, -, -, hsame, -⟩ := a_masked_number_shows_its_last_four_digits d
  exact ⟨halike, hsame d' halike, by decide +kernel⟩

end Checkout
