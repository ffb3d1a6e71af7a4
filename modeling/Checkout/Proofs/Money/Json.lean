-- Amounts as JSON, and the two laws of amounts as text. Reading is exact: it
-- gives the number that stands there, rounded to the cent, whether it comes
-- as text or as a whole number. And it takes writing back, except for the
-- lowest amount, which is written and never read.
import Checkout.Money.Json
import Checkout.Proofs.Json.Reader
import Checkout.Proofs.Money.Steps

namespace Checkout.Money

variable {s : String} {w : Written} {m : Money}

/-! ## JSON text -/

theorem ofJsonText_text {j : Json} (h : j.Plain) : ofJsonText j.text = ofJson j := by
  rw [ofJsonText, Json.text, String.toList_ofList, h.ofChars?_chars]
  cases hj : ofJson j with
  | error f => simp only [hj]; rfl
  | ok m => simp only [hj]; rfl

theorem ofJsonText_string (s : String) :
    ofJsonText (Json.string s).text = (ofText? s).mapError .unreadable :=
  ofJsonText_text (.string s)

theorem ofJsonText_toJson_iff : ofJsonText m.toJson.text = .ok m ↔ m ≠ lowest := by
  rw [toJson, ofJsonText_string, ← ofText?_text_iff]
  cases ofText? m.text <;> simp [Except.mapError]

theorem ofJson?_toJson (h : m ≠ lowest) : ofJson? m.toJson = some m := by
  rw [ofJson?, toJson, ofJson, ofText?_text_iff.mpr h]
  rfl

/-! ## Whole numbers -/

/-- The ways to write a whole number of units. -/
def spellings (n : Int) : List String :=
  if n < 0 then [Text.intText n] else [Text.intText n, "+" ++ Text.intText n]

theorem toOption_ofText? (h : w.chars = Text.trimmed s.toList) :
    (ofText? s).toOption =
      if w.parts.size ≤ 9223372036854775807 then some (saturated w.cents) else none := by
  have hsize : w.parts.size = 100 * Text.valueOf w.whole + centsOfFraction w.places := rfl
  rw [ofText?_written h]
  split
  · rw [if_neg (by omega)]
    rfl
  · split <;> rfl

/-- A whole number of units as an amount. -/
def Written.ofWhole (sign : Sign) (n : Nat) : Written where
  sign
  whole := Text.digits n
  fraction := none
  whole_ne_nil := Text.digits_ne_nil n
  whole_digits := List.all_eq_true.mp (Text.all_isDigit_digits n)
  fraction_digits := by simp

theorem Written.size_ofWhole (sign : Sign) (n : Nat) : (ofWhole sign n).parts.size = 100 * n := by
  simp [Parts.size, parts, places, ofWhole, Text.valueOf_digits, centsOfFraction]

theorem Written.chars_ofWhole (sign : Sign) (n : Nat) :
    (ofWhole sign n).chars = sign.chars ++ Text.digits n := by
  simp [chars, ofWhole, point]

theorem exists_sign_of_spelling {n : Int} (h : s ∈ spellings n) :
    ∃ sign : Sign, (Written.ofWhole sign n.natAbs).chars = s.toList ∧
      (sign.isMinus = true ↔ n < 0) := by
  unfold spellings at h
  by_cases hneg : n < 0
  · rw [if_pos hneg, List.mem_singleton] at h
    refine ⟨.minus, ?_, by simp [Sign.isMinus, hneg]⟩
    simp [h, Written.chars_ofWhole, Sign.chars, Text.intText, Text.intChars, hneg]
  · rw [if_neg hneg, List.mem_pair] at h
    rcases h with h | h
    · refine ⟨.absent, ?_, by simp [Sign.isMinus, hneg]⟩
      simp [h, Written.chars_ofWhole, Sign.chars, Text.intText, Text.intChars, hneg]
    · refine ⟨.plus, ?_, by simp [Sign.isMinus, hneg]⟩
      simp [h, Written.chars_ofWhole, Sign.chars, Text.intText, Text.intChars, hneg]

/-- A whole number of units comes to the same, whichever way it is written. -/
theorem toOption_ofText?_spelling {n : Int} (h : s ∈ spellings n) :
    (ofText? s).toOption = ofUnits? n := by
  obtain ⟨sign, hs, hsign⟩ := exists_sign_of_spelling h
  have hw : (Written.ofWhole sign n.natAbs).chars = Text.trimmed s.toList := by
    rw [← hs, Written.trimmed_chars]
  have hcents : (Written.ofWhole sign n.natAbs).cents = n * 100 := by
    rw [Written.cents_eq, Parts.cents, Written.size_ofWhole]
    change (if sign.isMinus = true then _ else _) = _
    by_cases hneg : n < 0
    · rw [if_pos (hsign.mpr hneg)]
      omega
    · rw [if_neg (mt hsign.mp hneg)]
      omega
  rw [toOption_ofText? hw, Written.size_ofWhole, hcents, ofUnits?]
  by_cases hroom : 100 * n.natAbs ≤ 9223372036854775807
  · rw [if_pos hroom, ofCents?_fits (by omega)]
  · rw [if_neg hroom, ofCents?_not_fits (by omega)]

theorem toOption_ofJson_integer {n : Int} (h : Fits n) :
    (ofJson (.integer n)).toOption = ofUnits? n := by
  simp only [ofJson, if_pos h, ofWhole]
  cases ofUnits? n <;> rfl

/-! ## The laws -/

/-- The amount is all that stands in a text, blanks at both ends apart. -/
def Written.FillsText (w : Written) (s : String) : Prop :=
  ∃ before after : List Char, (∀ c ∈ before, Text.isBlank c = true) ∧
    (∀ c ∈ after, Text.isBlank c = true) ∧ s.toList = before ++ w.chars ++ after

theorem Written.fillsText_iff : w.FillsText s ↔ w.chars = Text.trimmed s.toList := by
  constructor
  · rintro ⟨before, after, hbefore, hafter, hs⟩
    rw [hs, Text.trimmed_between hbefore hafter w.bare]
  · intro h
    obtain ⟨before, after, hbefore, hafter, hs⟩ := Text.exists_trimmed s.toList
    exact ⟨before, after, hbefore, hafter, h ▸ hs⟩

/-- Text is read as an amount exactly if one stands there that 64 bits hold once it is rounded to
the cent, and it is read as that amount. No step of the calculation overflows. A whole number is
read as the same amount whether it comes as a number or as text. -/
theorem an_amount_is_read_exactly_as_it_is_written :
    (∀ (s : String) (m : Money), ofText? s = .ok m ↔
      ∃ w : Written, w.FillsText s ∧ round (100 * w.size) ≤ 9223372036854775807 ∧
        m.cents = w.sign.factor * round (100 * w.size)) ∧
    (∀ s : String, readSteps s = .ok ((ofText? s).mapError ParseFault.reason)) ∧
    ∀ n : Int, Fits n → ∀ s ∈ spellings n,
      (ofJsonText (Json.integer n).text).toOption = (ofJsonText (Json.string s).text).toOption := by
  refine ⟨?_, readSteps_eq, ?_⟩
  · intro s m
    rw [ofText?_eq_ok_iff]
    refine exists_congr fun w => and_congr w.fillsText_iff.symm (and_congr ?_ Iff.rfl)
    rw [w.round_size]
    omega
  · intro n hn s hs
    rw [ofJsonText_text (.integer hn), toOption_ofJson_integer hn, ofJsonText_string,
      ← toOption_ofText?_spelling hs]
    cases ofText? s <;> rfl

theorem the_lowest_whole_number_is_read_in_both_ways :
    ofJsonText (Json.integer (-92233720368547758)).text =
        .ok ⟨-9223372036854775800, by decide⟩ ∧
      (ofJsonText (Json.integer (-92233720368547758)).text).toOption =
        (ofJsonText (Json.string "-92233720368547758").text).toOption :=
  ⟨by decide +kernel,
    an_amount_is_read_exactly_as_it_is_written.2.2 (-92233720368547758) (by decide)
      "-92233720368547758" (by decide +kernel)⟩

/-- An amount is read back from its text and from its JSON, unless it is the lowest one. Whatever
amount is read is read again from its own text. -/
theorem every_amount_but_the_lowest_is_read_back (m : Money) :
    (ofText? m.text = .ok m ↔ m ≠ lowest) ∧
    (ofJsonText m.toJson.text = .ok m ↔ m ≠ lowest) ∧
    ∀ s : String, ofText? s = .ok m → ofText? m.text = .ok m := by
  refine ⟨ofText?_text_iff, ofJsonText_toJson_iff, ?_⟩
  intro s h
  exact ofText?_text_iff.mpr (ne_lowest_of_ofText? h)

theorem a_rounded_amount_is_read_back :
    ofText? " -0.005 " = .ok ⟨-1, by decide⟩ ∧
      ofText? (text ⟨-1, by decide⟩) = .ok ⟨-1, by decide⟩ := by
  have h : ofText? " -0.005 " = .ok ⟨-1, by decide⟩ := by decide +kernel
  exact ⟨h, (every_amount_but_the_lowest_is_read_back ⟨-1, by decide⟩).2.2 " -0.005 " h⟩

/-- The lowest amount is written, and refused as text and as JSON text. As a JSON number it is
read. -/
theorem the_lowest_amount_is_not_read_back :
    lowest.text = "-92233720368547758.08" ∧
    ofText? lowest.text = .error (.outOfRange "-92233720368547758.08") ∧
    ofJsonText lowest.toJson.text =
      .error (.unreadable (.outOfRange "-92233720368547758.08")) ∧
    ofJsonText "-92233720368547758.08" = .ok lowest := by
  refine ⟨?_, ?_, ?_, ?_⟩
  all_goals decide +kernel

end Checkout.Money
