-- Reading an amount one step after another, as it is calculated in 64 bits.
-- Some steps are checked, and the others never overflow, whatever the text.
import Checkout.Proofs.Money.Text

namespace Checkout.Money

/-! ## The steps -/

/-- The number of a digit: its byte less that of zero. -/
def digitStep : Option Char → Except Overflow Int
  | none => .ok 0
  | some c => Width.unsigned8.unchecked .subtract (c.toNat - 48)

/-- The cents that the digits after the point come to. -/
def fractionSteps (ds : List Char) : Except Overflow Int := do
  let tenths ← digitStep ds[0]?
  let hundredths ← digitStep ds[1]?
  let third ← digitStep ds[2]?
  let tens ← Width.signed64.unchecked .multiply (tenths * 10)
  let both ← Width.signed64.unchecked .add (tens + hundredths)
  Width.signed64.unchecked .add (both + if 5 ≤ third then 1 else 0)

/-- Reading an amount in 64 bits. A step that is checked fails with a reason, and one that is not
may overflow. -/
def readSteps (s : String) : Except Overflow (Except String Money) := do
  let shown := Text.trim s
  let p := Parts.ofChars (Text.trimmed s.toList)
  if !p.wellFormed then return .error shown
  match Width.signed64.read p.whole with
  | .error fault => return .error (shown ++ ": " ++ fault.message)
  | .ok units =>
    let added ← fractionSteps p.fraction
    match (ofUnits? units).bind fun m => ofCents? (m.cents + added) with
    | none => return .error (shown ++ " is out of range")
    | some m => if p.negative then return .ok (← m.neg) else return .ok m

/-! ## None of them overflows -/

theorem digitStep_ok {c : Char} (h : c.isDigit = true) :
    digitStep (some c) = .ok (Text.digitValue c) := by
  have hc := (Text.isDigit_iff c).mp h
  have hbyte : Width.unsigned8.Holds ((c.toNat : Int) - 48) := by
    have hdepth : Width.unsigned8.depth = 0 := rfl
    have hlargest : Width.unsigned8.largest = 255 := by decide
    unfold Width.Holds
    rw [hdepth, hlargest]
    omega
  rw [digitStep, Width.unchecked_ok _ hbyte, Text.digitValue]
  congr 1
  omega

theorem digitStep_getElem? {ds : List Char} (h : ∀ c ∈ ds, c.isDigit = true) (i : Nat) :
    digitStep ds[i]? = .ok ((ds[i]?.map Text.digitValue).getD 0 : Nat) ∧
      (ds[i]?.map Text.digitValue).getD 0 < 10 := by
  cases hi : ds[i]? with
  | none => exact ⟨rfl, by decide⟩
  | some c =>
    have hc := h c (List.mem_of_getElem? hi)
    exact ⟨digitStep_ok hc, Text.digitValue_lt hc⟩

theorem fractionSteps_ok {ds : List Char} (h : ∀ c ∈ ds, c.isDigit = true) :
    fractionSteps ds = .ok (centsOfFraction ds : Int) := by
  obtain ⟨hfirst, _⟩ := digitStep_getElem? h 0
  obtain ⟨hsecond, _⟩ := digitStep_getElem? h 1
  obtain ⟨hthird, _⟩ := digitStep_getElem? h 2
  unfold fractionSteps centsOfFraction
  rw [hfirst, hsecond, hthird]
  change (Width.signed64.unchecked _ _ >>= _) = _
  rw [Width.unchecked_bind _ _ (Width.signed64_holds_iff.mpr (by omega)),
    Width.unchecked_bind _ _ (Width.signed64_holds_iff.mpr (by omega)),
    Width.unchecked_ok _ (Width.signed64_holds_iff.mpr (by split <;> omega))]
  congr 1
  push_cast
  split <;> split <;> omega

theorem read_digits {ds : List Char} (hne : ds ≠ []) (h : ∀ c ∈ ds, c.isDigit = true) :
    Width.signed64.read ds =
      if Text.valueOf ds ≤ 9223372036854775807 then .ok (Text.valueOf ds : Int)
      else .error .tooLarge := by
  have hlargest : Width.signed64.largest = 9223372036854775807 := by decide
  have hread := Text.readDigitsUpTo_digits h .tooLarge (Nat.zero_le Width.signed64.largest)
  obtain ⟨d, ds, rfl⟩ := List.exists_cons_of_ne_nil hne
  obtain ⟨hminus, hplus, -⟩ := ne_of_isDigit (h d List.mem_cons_self)
  unfold Width.read
  split
  · simp_all
  · simp_all
  · simp_all
  · simp_all
  · simp_all
  · rw [hread, hlargest, Nat.zero_mul, Nat.zero_add]
    split <;> rfl

/-- A product that leaves the 64 bits does not come back by an addition. -/
theorem ofUnits?_bind_add (units added : Nat) :
    ((ofUnits? units).bind fun m => ofCents? (m.cents + added)) =
      ofCents? ((100 * units + added : Nat) : Int) := by
  by_cases hroom : units * 100 ≤ 9223372036854775807
  · rw [ofUnits?, ofCents?_fits (by omega), Option.bind_some, saturated_cents (by omega)]
    congr 1
    push_cast
    ring
  · rw [ofUnits?, ofCents?_not_fits (by omega), ofCents?_not_fits (by omega)]
    rfl

/-- No step overflows, and the reading is the same. -/
theorem readSteps_eq (s : String) :
    readSteps s = .ok ((ofText? s).mapError ParseFault.reason) := by
  rw [ofText?_eq]
  unfold readSteps
  dsimp only
  generalize Parts.ofChars (Text.trimmed s.toList) = p
  by_cases hw : p.wellFormed = true
  · obtain ⟨hne, hdigits, hfraction⟩ := wellFormed_iff.mp hw
    have hsize : p.size = 100 * Text.valueOf p.whole + centsOfFraction p.fraction := rfl
    simp only [hw, Bool.not_true, Bool.false_eq_true, if_false, read_digits hne hdigits]
    by_cases hwhole : Text.valueOf p.whole ≤ 9223372036854775807
    · rw [if_pos hwhole, if_neg (by omega)]
      simp only [fractionSteps_ok hfraction, bind, Except.bind, ofUnits?_bind_add, ← hsize]
      by_cases hroom : p.size ≤ 9223372036854775807
      · have hfits : Fits (p.size : Int) := by omega
        have hneg : (saturated p.size).neg = .ok (saturated (-(p.size : Int))) := by
          rw [neg, saturated_cents hfits, ofCents?_fits (by omega)]
          rfl
        rw [if_pos hroom, ofCents?_fits hfits, Parts.cents]
        by_cases hminus : p.negative = true
        · simp only [if_pos hminus, hneg]
          rfl
        · simp only [if_neg hminus]
          rfl
      · rw [if_neg hroom, ofCents?_not_fits (by omega)]
        rfl
    · rw [if_neg hwhole, if_pos (by omega)]
      rfl
  · simp only [hw, Bool.not_false, if_true]
    rfl

end Checkout.Money
