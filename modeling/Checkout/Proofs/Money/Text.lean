-- Amounts as text. What is read is the exact number that stands there between
-- blanks, rounded to the cent with halves up. What is written is read back,
-- the lowest amount apart.
import Checkout.Money.Text
import Checkout.Proofs.Money
import Checkout.Proofs.Number.Calculation
import Checkout.Proofs.Text
import Mathlib.Tactic.Linarith

namespace Checkout.Money

/-! ## How an amount may be written -/

inductive Sign where
  | absent
  | plus
  | minus

def Sign.chars : Sign → List Char
  | .absent => []
  | .plus => ['+']
  | .minus => ['-']

def Sign.isMinus : Sign → Bool
  | .minus => true
  | _ => false

/-- The sign of a number, as a factor. -/
def Sign.factor (s : Sign) : Int := if s.isMinus then -1 else 1

/-- An amount as it may be written: a sign or none, digits, and a point with any number of digits
after it or no point. -/
structure Written where
  sign : Sign
  whole : List Char
  fraction : Option (List Char)
  whole_ne_nil : whole ≠ []
  whole_digits : ∀ c ∈ whole, c.isDigit = true
  fraction_digits : ∀ ds ∈ fraction, ∀ c ∈ ds, c.isDigit = true

namespace Written

def point : Option (List Char) → List Char
  | none => []
  | some ds => '.' :: ds

def chars (w : Written) : List Char := w.sign.chars ++ (w.whole ++ point w.fraction)

/-- The digits after the point. -/
def places (w : Written) : List Char := w.fraction.getD []

/-- The number that stands there without its sign. -/
def size (w : Written) : ℚ := Text.valueOf w.whole + Text.valueOf w.places / 10 ^ w.places.length

/-- The number of cents nearest to it, halves up, with the sign. -/
def cents (w : Written) : Int := w.sign.factor * round (100 * w.size)

def parts (w : Written) : Parts := ⟨w.sign.isMinus, w.whole, w.places⟩

variable (w : Written)

theorem places_digits : ∀ c ∈ w.places, c.isDigit = true := by
  unfold places
  cases h : w.fraction with
  | none => simp
  | some ds => simpa using w.fraction_digits ds h

theorem bare : Text.Bare w.chars := by
  obtain ⟨sign, whole, fraction, hne, hwhole, hfraction⟩ := w
  obtain ⟨d, ds, rfl⟩ := List.exists_cons_of_ne_nil hne
  have hd := Text.isBlank_of_isDigit (hwhole d List.mem_cons_self)
  constructor
  · intro c hc
    cases sign <;> simp only [chars, Sign.chars, List.nil_append, List.cons_append,
      List.head?_cons, Option.mem_some_iff] at hc <;> subst hc
    · exact hd
    · decide
    · decide
  · intro c hc
    have hmem : c ∈ (d :: ds) ++ point fraction := by
      rw [chars, List.getLast?_append_of_ne_nil _ (by simp)] at hc
      exact List.mem_of_getLast? hc
    rcases List.mem_append.mp hmem with h | h
    · exact Text.isBlank_of_isDigit (hwhole c h)
    · cases fraction with
      | none => simp [point] at h
      | some es =>
        rcases List.mem_cons.mp h with rfl | h
        · decide
        · exact Text.isBlank_of_isDigit (hfraction es rfl c h)

theorem trimmed_chars : Text.trimmed w.chars = w.chars := by
  have h : Text.trimmed ([] ++ w.chars ++ []) = w.chars :=
    Text.trimmed_between (by simp) (by simp) w.bare
  rwa [List.append_nil] at h

end Written

/-! ## Rounding to the cent -/

/-- The cents that the parts come to without their sign. -/
def Parts.size (p : Parts) : Nat := 100 * Text.valueOf p.whole + centsOfFraction p.fraction

/-- The cents that the parts come to. -/
def Parts.cents (p : Parts) : Int := if p.negative then -(p.size : Int) else p.size

theorem Parts.natAbs_cents (p : Parts) : p.cents.natAbs = p.size := by
  unfold cents
  split <;> omega

/-- The third digit after the point decides, however many follow it. -/
theorem centsOfFraction_eq {ds : List Char} (h : ∀ c ∈ ds, c.isDigit = true) :
    centsOfFraction ds = (2 * (100 * Text.valueOf ds) + 10 ^ ds.length) / (2 * 10 ^ ds.length) := by
  match ds with
  | [] => decide
  | [a] => simp [centsOfFraction, Text.valueOf_cons]; omega
  | [a, b] => simp [centsOfFraction, Text.valueOf_cons]; omega
  | a :: b :: c :: rest =>
    have hrest : Text.valueOf rest < 10 ^ rest.length :=
      Text.valueOf_lt fun d hd => h d (by simp [hd])
    have hc := Text.digitValue_lt (h c (by simp))
    simp only [centsOfFraction, Text.valueOf_cons, List.length_cons, List.getElem?_cons_zero,
      List.getElem?_cons_succ, Option.map_some, Option.getD_some, pow_succ]
    generalize 10 ^ rest.length = unit at hrest ⊢
    have hnonneg := Nat.zero_le (Text.digitValue c * unit)
    have hbelow := Nat.mul_le_mul_right unit (Nat.le_of_lt_succ hc)
    symm
    -- the digits after the third one come to less than one unit of it
    split
    · rename_i hup
      have hhalf := Nat.mul_le_mul_right unit hup
      apply Nat.div_eq_of_lt_le <;> linarith
    · rename_i hdown
      have hhalf := Nat.mul_le_mul_right unit (Nat.le_of_lt_succ (Nat.lt_of_not_le hdown))
      apply Nat.div_eq_of_lt_le <;> linarith

namespace Written

variable (w : Written)

theorem round_size : round (100 * w.size) = (w.parts.size : Int) := by
  have hsum : 100 * w.size =
      ((100 * Text.valueOf w.whole : Nat) : ℚ) +
        ((100 * Text.valueOf w.places : Int) : ℚ) / ((10 ^ w.places.length : Nat) : ℚ) := by
    unfold size
    push_cast
    ring
  rw [hsum, round_natCast_add, round_ratio _ (by positivity), Parts.size, parts,
    centsOfFraction_eq w.places_digits]
  push_cast
  rfl

theorem cents_eq : w.cents = w.parts.cents := by
  rw [cents, round_size, Sign.factor, Parts.cents, parts]
  split <;> simp

end Written

/-! ## Taking an amount apart -/

/-- The parts of what stands after a sign. -/
def partsAfter (sign : Sign) (rest : List Char) : Parts :=
  ⟨sign.isMinus, rest.takeWhile (· != '.'), (rest.dropWhile (· != '.')).drop 1⟩

theorem wellFormed_iff {p : Parts} :
    p.wellFormed = true ↔ p.whole ≠ [] ∧ (∀ c ∈ p.whole, c.isDigit = true) ∧
      ∀ c ∈ p.fraction, c.isDigit = true := by
  simp only [Parts.wellFormed, Bool.and_eq_true, Bool.not_eq_true', List.isEmpty_eq_false_iff,
    List.all_eq_true, and_assoc]

/-- A sign is taken off, whatever stands after it. -/
theorem exists_sign (cs : List Char) :
    ∃ (sign : Sign) (rest : List Char), cs = sign.chars ++ rest ∧
      Parts.ofChars cs = partsAfter sign rest := by
  unfold Parts.ofChars
  split
  rename_i hsplit
  split at hsplit <;> cases hsplit
  · exact ⟨.minus, _, rfl, rfl⟩
  · exact ⟨.plus, _, rfl, rfl⟩
  · exact ⟨.absent, _, rfl, rfl⟩

theorem ne_of_isDigit {c : Char} (h : c.isDigit = true) : c ≠ '-' ∧ c ≠ '+' ∧ c ≠ '.' := by
  refine ⟨?_, ?_, ?_⟩ <;> (rintro rfl; revert h; decide)

theorem ofChars_signed (sign : Sign) {rest : List Char}
    (h : ∀ c ∈ rest.head?, c.isDigit = true) :
    Parts.ofChars (sign.chars ++ rest) = partsAfter sign rest := by
  cases sign with
  | absent =>
    simp only [Sign.chars, List.nil_append]
    unfold Parts.ofChars
    split
    rename_i hsplit
    split at hsplit
    · exact absurd (h '-' rfl) (by decide)
    · exact absurd (h '+' rfl) (by decide)
    · cases hsplit
      rfl
  | plus => rfl
  | minus => rfl

namespace Written

variable (w : Written)

/-- The parts of an amount are found where they stand. -/
theorem ofChars_chars : Parts.ofChars w.chars = w.parts := by
  have hpoint : ∀ c ∈ w.whole, (c != '.') = true := fun c hc => by
    simpa using (ne_of_isDigit (w.whole_digits c hc)).2.2
  have hhead : ∀ c ∈ (w.whole ++ point w.fraction).head?, c.isDigit = true := by
    rw [List.head?_append_of_ne_nil _ w.whole_ne_nil]
    exact fun c hc => w.whole_digits c (List.mem_of_mem_head? hc)
  rw [chars, ofChars_signed w.sign hhead, partsAfter, List.takeWhile_append_of_pos hpoint,
    List.dropWhile_append_of_pos hpoint, parts, places]
  cases w.fraction <;> simp [point]

theorem wellFormed_parts : w.parts.wellFormed = true :=
  wellFormed_iff.mpr ⟨w.whole_ne_nil, w.whole_digits, w.places_digits⟩

end Written

/-- Where the parts are well formed, an amount stands there. -/
theorem exists_written {cs : List Char} (h : (Parts.ofChars cs).wellFormed = true) :
    ∃ w : Written, w.chars = cs := by
  obtain ⟨sign, rest, rfl, hparts⟩ := exists_sign cs
  rw [hparts] at h
  obtain ⟨hne, hwhole, hfraction⟩ := wellFormed_iff.mp h
  simp only [partsAfter] at hne hwhole hfraction
  have hsplit := List.takeWhile_append_dropWhile (p := (· != '.')) (l := rest)
  cases hafter : rest.dropWhile (· != '.') with
  | nil =>
    refine ⟨⟨sign, rest.takeWhile (· != '.'), none, hne, hwhole, by simp⟩, ?_⟩
    rw [hafter] at hsplit
    simp only [Written.chars, Written.point, hsplit]
  | cons c fraction =>
    have hc : c = '.' := by
      have := List.head?_dropWhile_not (· != '.') rest
      rw [hafter] at this
      simpa using this
    subst hc
    rw [hafter] at hsplit hfraction
    refine ⟨⟨sign, rest.takeWhile (· != '.'), some fraction, hne, hwhole, ?_⟩, ?_⟩
    · intro ds hds
      cases hds
      simpa using hfraction
    · simp only [Written.chars, Written.point, hsplit]

/-! ## What is read -/

variable {s : String} {w : Written} {m : Money}

theorem ofText?_eq (s : String) :
    ofText? s =
      let p := Parts.ofChars (Text.trimmed s.toList)
      if !p.wellFormed then .error (.malformed (Text.trim s))
      else if 9223372036854775807 < Text.valueOf p.whole then .error (.wholeTooLarge (Text.trim s))
      else if p.size ≤ 9223372036854775807 then .ok (saturated p.cents)
      else .error (.outOfRange (Text.trim s)) := by
  unfold ofText?
  dsimp only [Text.trim]
  split
  · rfl
  · split
    · rfl
    · have habs := (Parts.ofChars (Text.trimmed s.toList)).natAbs_cents
      split
      · rename_i hroom
        have hsize : (Parts.ofChars (Text.trimmed s.toList)).size ≤ 9223372036854775807 :=
          Int.ofNat_le.mp hroom
        rw [if_pos hsize]
        congr 1
        ext
        rw [saturated_cents (by omega)]
        rfl
      · rename_i hroom
        have hsize : ¬ (Parts.ofChars (Text.trimmed s.toList)).size ≤ 9223372036854775807 :=
          fun hle => hroom (Int.ofNat_le.mpr hle)
        rw [if_neg hsize]

/-- An amount that stands between blanks is read, unless it is too large. -/
theorem ofText?_written (h : w.chars = Text.trimmed s.toList) :
    ofText? s =
      if 9223372036854775807 < Text.valueOf w.whole then .error (.wholeTooLarge (Text.trim s))
      else if w.parts.size ≤ 9223372036854775807 then .ok (saturated w.cents)
      else .error (.outOfRange (Text.trim s)) := by
  rw [ofText?_eq, ← h, w.ofChars_chars, w.cents_eq]
  simp only [w.wellFormed_parts, Bool.not_true, Bool.false_eq_true, if_false]
  rfl

theorem ofText?_malformed (h : ¬ ∃ w : Written, w.chars = Text.trimmed s.toList) :
    ofText? s = .error (.malformed (Text.trim s)) := by
  have hmal : ¬ (Parts.ofChars (Text.trimmed s.toList)).wellFormed = true :=
    fun hw => h (exists_written hw)
  rw [ofText?_eq]
  simp only [hmal, Bool.not_false, if_true]

/-- Exactly the amounts are read that stand between blanks and that 64 bits hold without their
sign. -/
theorem ofText?_eq_ok_iff :
    ofText? s = .ok m ↔ ∃ w : Written, w.chars = Text.trimmed s.toList ∧
      w.parts.size ≤ 9223372036854775807 ∧ m.cents = w.cents := by
  constructor
  · intro h
    by_cases hw : ∃ w : Written, w.chars = Text.trimmed s.toList
    · obtain ⟨w, hw⟩ := hw
      rw [ofText?_written hw] at h
      split at h
      · cases h
      · split at h
        · have habs := w.parts.natAbs_cents
          rw [← w.cents_eq] at habs
          cases h
          exact ⟨w, hw, ‹_›, saturated_cents (by omega)⟩
        · cases h
    · rw [ofText?_malformed hw] at h
      cases h
  · rintro ⟨w, hw, hroom, hm⟩
    have hwhole : ¬ 9223372036854775807 < Text.valueOf w.whole := by
      have : w.parts.size = 100 * Text.valueOf w.whole + centsOfFraction w.places := rfl
      omega
    rw [ofText?_written hw, if_neg hwhole, if_pos hroom, ← hm, saturated_of_cents]

/-! ## Reading what was written -/

/-- The lowest amount that 64 bits hold. No amount is as far above zero. -/
def lowest : Money := saturated (-9223372036854775808)

theorem lowest_cents : lowest.cents = -9223372036854775808 := saturated_cents (by decide)

theorem twoDigits_isDigit {n : Nat} (h : n < 100) : ∀ c ∈ Text.twoDigits n, c.isDigit = true := by
  have htens := Text.isDigit_digitChar (n / 10) (by omega)
  have hones := Text.isDigit_digitChar (n % 10) (by omega)
  simp [Text.twoDigits, htens, hones]

/-- An amount as it is written. -/
def written (m : Money) : Written where
  sign := if m.cents < 0 then .minus else .absent
  whole := Text.digits (m.cents.natAbs / 100)
  fraction := some (Text.twoDigits (m.cents.natAbs % 100))
  whole_ne_nil := Text.digits_ne_nil _
  whole_digits := List.all_eq_true.mp (Text.all_isDigit_digits _)
  fraction_digits := by
    rintro ds ⟨⟩
    exact twoDigits_isDigit (Nat.mod_lt _ (by decide))

theorem chars_written (m : Money) : m.written.chars = m.chars := by
  simp only [Written.chars, written, Written.point, chars, List.append_assoc]
  split <;> rfl

theorem trimmed_text (m : Money) : Text.trimmed m.text.toList = m.written.chars := by
  rw [text, String.toList_ofList, ← chars_written, Written.trimmed_chars]

theorem size_written (m : Money) : m.written.parts.size = m.cents.natAbs := by
  have htens := Text.digitValue_digitChar (m.cents.natAbs % 100 / 10) (by omega)
  have hones := Text.digitValue_digitChar (m.cents.natAbs % 10) (by omega)
  simp [Parts.size, Written.parts, Written.places, written, Text.valueOf_digits, centsOfFraction,
    Text.twoDigits, htens, hones]
  omega

theorem cents_written (m : Money) : m.written.cents = m.cents := by
  rw [m.written.cents_eq, Parts.cents, size_written]
  by_cases hneg : m.cents < 0
  · rw [if_pos (by simp [Written.parts, written, hneg, Sign.isMinus])]
    omega
  · rw [if_neg (by simp [Written.parts, written, hneg, Sign.isMinus])]
    omega

/-- The lowest amount is never read. -/
theorem ne_lowest_of_ofText? (h : ofText? s = .ok m) : m ≠ lowest := by
  obtain ⟨w, -, hsize, hm⟩ := ofText?_eq_ok_iff.mp h
  have habs := w.parts.natAbs_cents
  rw [← w.cents_eq, ← hm] at habs
  rintro rfl
  rw [lowest_cents] at habs
  omega

theorem ofText?_text_iff : ofText? m.text = .ok m ↔ m ≠ lowest := by
  constructor
  · exact ne_lowest_of_ofText?
  · intro h
    have hne : m.cents ≠ -9223372036854775808 := fun heq =>
      h (ext (heq.trans lowest_cents.symm))
    have hfits := m.fits
    refine ofText?_eq_ok_iff.mpr ⟨m.written, (trimmed_text m).symm, ?_, (cents_written m).symm⟩
    rw [size_written]
    omega

end Checkout.Money
