-- Whole numbers of a fixed width as text. What is read is the number that
-- stands there: a sign or none, then digits, if the width holds it. Nothing
-- else is read.
import Checkout.Proofs.Money.Text

namespace Checkout.Width

open Money (Sign)

/-- The text is a number of the width as it may be written: a sign or none, and digits. Only a signed
width has a minus sign. -/
structure Spells (w : Width) (text : List Char) (n : Int) : Prop where
  written : ∃ (sign : Sign) (ds : List Char), text = sign.chars ++ ds ∧ ds ≠ [] ∧
    (∀ c ∈ ds, c.isDigit = true) ∧ (sign.isMinus = true → w.signed = true) ∧
    n = sign.factor * Text.valueOf ds
  holds : w.Holds n

variable {w : Width} {text ds : List Char} {n : Int}

/-! ## Digits within a limit -/

theorem all_isDigit_of_readDigitsUpTo {limit start m : Nat} {beyond : IntegerFault}
    (h : readDigitsUpTo limit beyond ds start = .ok m) : ∀ c ∈ ds, c.isDigit = true := by
  induction ds generalizing start with
  | nil => simp
  | cons c ds ih =>
    unfold readDigitsUpTo at h
    split at h
    · simp only at h
      split at h
      · exact List.forall_mem_cons.mpr ⟨‹_›, ih h⟩
      · cases h
    · cases h

/-- A number that is made of the digits is one only if there is nothing but digits, and they keep to
the limit. -/
theorem map_readDigitsUpTo_eq_ok_iff {limit : Nat} {beyond : IntegerFault} {make : Nat → Int} :
    (readDigitsUpTo limit beyond ds 0).map make = .ok n ↔
      (∀ c ∈ ds, c.isDigit = true) ∧ Text.valueOf ds ≤ limit ∧ n = make (Text.valueOf ds) := by
  by_cases hds : ∀ c ∈ ds, c.isDigit = true
  · rw [Text.readDigitsUpTo_digits hds beyond (Nat.zero_le limit), Nat.zero_mul, Nat.zero_add]
    by_cases hle : Text.valueOf ds ≤ limit
    · rw [if_pos hle]
      refine ⟨fun h => ?_, fun h => h.2.2 ▸ rfl⟩
      cases h
      exact ⟨hds, hle, rfl⟩
    · rw [if_neg hle]
      exact ⟨nofun, fun h => absurd h.2.1 hle⟩
  · refine ⟨fun h => ?_, fun h => absurd h.1 hds⟩
    cases hread : readDigitsUpTo limit beyond ds 0 with
    | ok m => exact absurd (all_isDigit_of_readDigitsUpTo hread) hds
    | error f =>
      rw [hread] at h
      cases h

/-! ## Numbers with a sign -/

theorem holds_natCast {m : Nat} : w.Holds m ↔ m ≤ w.largest := by
  unfold Holds
  omega

theorem holds_neg_natCast {m : Nat} : w.Holds (-(m : Int)) ↔ m ≤ w.depth := by
  unfold Holds
  omega

/-- How the digits after a sign are read. -/
def readSigned (w : Width) (sign : Sign) (ds : List Char) : Except IntegerFault Int :=
  if sign.isMinus then (readDigitsUpTo w.depth .tooSmall ds 0).map fun m : Nat => -(m : Int)
  else (readDigitsUpTo w.largest .tooLarge ds 0).map Int.ofNat

theorem readSigned_eq_ok_iff {sign : Sign} : readSigned w sign ds = .ok n ↔
    (∀ c ∈ ds, c.isDigit = true) ∧ n = sign.factor * Text.valueOf ds ∧ w.Holds n := by
  unfold readSigned Sign.factor
  split
  · rw [map_readDigitsUpTo_eq_ok_iff, Int.neg_one_mul]
    refine and_congr_right fun _ => ⟨?_, ?_⟩
    · rintro ⟨hle, rfl⟩
      exact ⟨rfl, holds_neg_natCast.mpr hle⟩
    · rintro ⟨rfl, hholds⟩
      exact ⟨holds_neg_natCast.mp hholds, rfl⟩
  · rw [map_readDigitsUpTo_eq_ok_iff, Int.one_mul]
    refine and_congr_right fun _ => ⟨?_, ?_⟩
    · rintro ⟨hle, rfl⟩
      exact ⟨rfl, holds_natCast.mpr hle⟩
    · rintro ⟨rfl, hholds⟩
      exact ⟨holds_natCast.mp hholds, rfl⟩

/-- The sign is looked at first, then the digits. -/
theorem read_signed (sign : Sign) (hne : ds ≠ []) (hds : ∀ c ∈ ds, c.isDigit = true)
    (hsigned : sign.isMinus = true → w.signed = true) :
    w.read (sign.chars ++ ds) = readSigned w sign ds := by
  obtain ⟨d, ds, rfl⟩ := List.exists_cons_of_ne_nil hne
  obtain ⟨hminus, hplus, -⟩ := Money.ne_of_isDigit (hds d List.mem_cons_self)
  cases sign with
  | absent => simp [Sign.chars, read, readSigned, Sign.isMinus, hminus, hplus]
  | plus => rfl
  | minus =>
    simp only [Sign.chars, List.singleton_append, read, hsigned rfl, if_true, readSigned, Sign.isMinus]
    cases readDigitsUpTo w.depth .tooSmall (d :: ds) 0 <;> rfl

/-- What is read has a sign or none, and then digits. -/
theorem exists_signed (h : w.read text = .ok n) : ∃ (sign : Sign) (ds : List Char),
    text = sign.chars ++ ds ∧ ds ≠ [] ∧ (sign.isMinus = true → w.signed = true) ∧
      readSigned w sign ds = .ok n := by
  unfold read at h
  split at h
  · cases h
  · cases h
  · cases h
  · next cs hlone =>
    refine ⟨.plus, cs, rfl, fun hnil => hlone (hnil ▸ rfl), ?_, h⟩
    exact fun hminus => absurd hminus Bool.false_ne_true
  · next cs hlone =>
    split at h
    · refine ⟨.minus, cs, rfl, fun hnil => hlone (hnil ▸ rfl), fun _ => ‹_›, h ▸ ?_⟩
      simp only [readSigned, Sign.isMinus, if_true]
      cases readDigitsUpTo w.depth .tooSmall cs 0 <;> rfl
    · cases h
  · next hempty _ _ _ _ =>
    refine ⟨.absent, text, rfl, hempty, ?_, h⟩
    exact fun hminus => absurd hminus Bool.false_ne_true

/-- Exactly the numbers that the width holds are read, as they may be written. -/
theorem read_eq_ok_iff : w.read text = .ok n ↔ w.Spells text n := by
  constructor
  · intro h
    obtain ⟨sign, ds, htext, hne, hsigned, hread⟩ := exists_signed h
    obtain ⟨hds, hn, hholds⟩ := readSigned_eq_ok_iff.mp hread
    exact ⟨⟨sign, ds, htext, hne, hds, hsigned, hn⟩, hholds⟩
  · rintro ⟨⟨sign, ds, rfl, hne, hds, hsigned, hn⟩, hholds⟩
    rw [read_signed sign hne hds hsigned]
    exact readSigned_eq_ok_iff.mpr ⟨hds, hn, hholds⟩

instance (w : Width) (text : List Char) (n : Int) : Decidable (w.Spells text n) :=
  decidable_of_iff _ read_eq_ok_iff

end Checkout.Width
