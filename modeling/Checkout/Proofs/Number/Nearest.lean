-- The double nearest to a ratio of whole numbers depends on the ratio alone,
-- however large the two numbers are. Whole numbers of up to 53 bits are doubles,
-- so a product or quotient of theirs is rounded once. Doubles that are numbers
-- are in order.
import Checkout.Number.Binary64
import Mathlib.Algebra.Order.Field.Power
import Mathlib.Data.Int.Log
import Mathlib.Data.Rat.Floor
import Mathlib.Tactic.Linarith
import Mathlib.Tactic.NormNum
import Mathlib.Tactic.Positivity
import Mathlib.Tactic.Ring

namespace Checkout.Binary64

/-! ## The exponent of a ratio -/

/-- A ratio is scaled down exactly. -/
theorem scaleDown_ratio (num : Nat) {den : Nat} (hd : 0 < den) (power : Int) :
    0 < (scaleDown num den power).2 ∧
      ((scaleDown num den power).1 : ℚ) / (scaleDown num den power).2 =
        (num : ℚ) / den / 2 ^ power := by
  unfold scaleDown
  by_cases h : 0 ≤ power
  · obtain ⟨n, rfl⟩ := Int.eq_ofNat_of_zero_le h
    simp only [if_pos h, Int.toNat_natCast, Nat.pow_eq]
    refine ⟨by positivity, ?_⟩
    rw [zpow_natCast, div_div]
    push_cast
    rfl
  · obtain ⟨n, hn⟩ := Int.eq_ofNat_of_zero_le (show 0 ≤ -power by omega)
    obtain rfl : power = -(n : Int) := by omega
    simp only [if_neg h, neg_neg, Int.toNat_natCast, Nat.pow_eq]
    refine ⟨hd, ?_⟩
    rw [zpow_neg, zpow_natCast, div_inv_eq_mul]
    push_cast
    ring

theorem scaleDown_le_iff (num : Nat) {den : Nat} (hd : 0 < den) (power : Int) (k : Nat) :
    k * (scaleDown num den power).2 ≤ (scaleDown num den power).1 ↔
      (k : ℚ) * 2 ^ power ≤ (num : ℚ) / den := by
  obtain ⟨hpos, hratio⟩ := scaleDown_ratio num hd power
  have hpow : (0 : ℚ) < 2 ^ power := by positivity
  have hden : (0 : ℚ) < (scaleDown num den power).2 := by exact_mod_cast hpos
  rw [← le_div_iff₀ hpow, ← hratio, le_div_iff₀ hden]
  norm_cast

/-- A ratio lies between the powers of two next to the quotient of those below its parts. -/
theorem log_ratio_bounds {num den : Nat} (hn : 0 < num) (hd : 0 < den) :
    (num.log2 : Int) - den.log2 - 1 ≤ Int.log 2 ((num : ℚ) / den) ∧
      Int.log 2 ((num : ℚ) / den) < (num.log2 : Int) - den.log2 + 1 := by
  have hden : (0 : ℚ) < den := by exact_mod_cast hd
  have hr : (0 : ℚ) < (num : ℚ) / den := by positivity
  have hn1 : (2 : ℚ) ^ num.log2 ≤ num := by exact_mod_cast Nat.log2_self_le hn.ne'
  have hn2 : (num : ℚ) < 2 ^ (num.log2 + 1) := by exact_mod_cast Nat.lt_log2_self
  have hd1 : (2 : ℚ) ^ den.log2 ≤ den := by exact_mod_cast Nat.log2_self_le hd.ne'
  have hd2 : (den : ℚ) < 2 ^ (den.log2 + 1) := by exact_mod_cast Nat.lt_log2_self
  constructor
  · rw [← Int.zpow_le_iff_le_log (by norm_num) hr, le_div_iff₀ hden]
    calc (2 : ℚ) ^ ((num.log2 : Int) - den.log2 - 1) * den
        ≤ 2 ^ ((num.log2 : Int) - den.log2 - 1) * 2 ^ (den.log2 + 1) := by gcongr
      _ = 2 ^ num.log2 := by
          rw [← zpow_natCast, ← zpow_natCast, ← zpow_add₀ (by norm_num)]
          congr 1
          push_cast
          ring
      _ ≤ num := hn1
  · rw [← Int.lt_zpow_iff_log_lt (by norm_num) hr, div_lt_iff₀ hden]
    calc (num : ℚ) < 2 ^ (num.log2 + 1) := hn2
      _ = 2 ^ ((num.log2 : Int) - den.log2 + 1) * 2 ^ den.log2 := by
          rw [← zpow_natCast, ← zpow_natCast, ← zpow_add₀ (by norm_num)]
          congr 1
          push_cast
          ring
      _ ≤ 2 ^ ((num.log2 : Int) - den.log2 + 1) * den := by gcongr

/-- The exponent is that of the leading bit of the ratio, less the 52 bits that follow it. -/
theorem exponentOf_eq {num den : Nat} (hn : 0 < num) (hd : 0 < den) :
    exponentOf num den = max lowestExponent (Int.log 2 ((num : ℚ) / den) - 52) := by
  have hr : (0 : ℚ) < (num : ℚ) / den := by positivity
  obtain ⟨hlow, hhigh⟩ := log_ratio_bounds hn hd
  unfold exponentOf
  simp only [Nat.pow_eq]
  congr 1
  have hbits : ((2 ^ 53 : Nat) : ℚ) = 2 ^ (53 : Int) := by norm_num
  have hleading : 2 ^ 53 * (scaleDown num den ((num.log2 : Int) - den.log2 - 53)).2 ≤
      (scaleDown num den ((num.log2 : Int) - den.log2 - 53)).1 ↔
      (num.log2 : Int) - den.log2 ≤ Int.log 2 ((num : ℚ) / den) := by
    rw [scaleDown_le_iff num hd, hbits, ← zpow_add₀ (by norm_num), add_sub_cancel]
    exact Int.zpow_le_iff_le_log (by norm_num) hr
  split
  · next h =>
    have := hleading.mp h
    omega
  · next h =>
    have := mt hleading.mpr h
    omega

/-! ## Ratios with a common factor -/

theorem scaleDown_mul (factor num den : Nat) (power : Int) :
    scaleDown (factor * num) (factor * den) power =
      (factor * (scaleDown num den power).1, factor * (scaleDown num den power).2) := by
  unfold scaleDown
  split
  · simp only [Nat.mul_assoc]
  · simp only [Nat.mul_assoc]

theorem roundRatio_mul {factor : Nat} (hf : 0 < factor) (num den : Nat) :
    roundRatio (factor * num) (factor * den) = roundRatio num den := by
  unfold roundRatio
  rw [Nat.mul_div_mul_left _ _ hf, Nat.mul_mod_mul_left]
  simp only [Nat.mul_left_comm 2 factor, Nat.mul_lt_mul_left hf, Nat.mul_right_inj hf.ne']

theorem exponentOf_mul {factor num den : Nat} (hf : 0 < factor) (hn : 0 < num) (hd : 0 < den) :
    exponentOf (factor * num) (factor * den) = exponentOf num den := by
  have hsame : ((factor * num : Nat) : ℚ) / (factor * den : Nat) = (num : ℚ) / den := by
    push_cast
    exact mul_div_mul_left _ _ (by exact_mod_cast hf.ne')
  rw [exponentOf_eq hn hd, exponentOf_eq (Nat.mul_pos hf hn) (Nat.mul_pos hf hd), hsame]

/-- A factor that both numbers of a ratio have makes no difference. -/
theorem ofRatio_mul {factor num den : Nat} (hf : 0 < factor) (hd : 0 < den) (negative : Bool) :
    ofRatio negative (factor * num) (factor * den) = ofRatio negative num den := by
  by_cases hn : num = 0
  · subst hn
    rfl
  · have hpos : 0 < num := Nat.pos_of_ne_zero hn
    unfold ofRatio
    rw [if_neg hn, if_neg (Nat.mul_ne_zero hf.ne' hn), exponentOf_mul hf hpos hd]
    simp only [scaleDown_mul, roundRatio_mul hf]

/-! ## Whole numbers -/

/-- The double is the whole number, not only the one nearest to it. -/
def IsNat (d : Binary64) (n : Nat) : Prop :=
  ∃ m e, d = .finite false m e ∧ (ratio m e).1 = n * (ratio m e).2

theorem ratio_pos (mantissa : Nat) (exponent : Int) : 0 < (ratio mantissa exponent).2 := by
  unfold ratio
  split
  · exact Nat.one_pos
  · exact Nat.pow_pos Nat.two_pos

theorem ratio_zero (exponent : Int) : (ratio 0 exponent).1 = 0 := by
  unfold ratio
  split
  · exact Nat.zero_mul _
  · rfl

theorem ratio_neg (mantissa k : Nat) : ratio mantissa (-(k : Int)) = (mantissa, 2 ^ k) := by
  unfold ratio
  split
  · obtain rfl : k = 0 := by omega
    simp
  · simp

theorem scaleDown_neg (num den k : Nat) : scaleDown num den (-(k : Int)) = (num * 2 ^ k, den) := by
  unfold scaleDown
  split
  · obtain rfl : k = 0 := by omega
    simp
  · simp

theorem roundRatio_one (n : Nat) : roundRatio n 1 = n := by
  unfold roundRatio
  simp [Nat.mod_one]

theorem exponentOf_one {n : Nat} (hn : n ≠ 0) (hbits : n < 2 ^ 53) :
    exponentOf n 1 = (n.log2 : Int) - 52 := by
  have hlog : n.log2 < 53 := (Nat.log2_lt hn).mpr hbits
  have hpos : 0 < n := Nat.pos_of_ne_zero hn
  have hleading : Int.log 2 (n : ℚ) = n.log2 := by
    rw [Int.log_natCast, Nat.log2_eq_log_two]
  rw [exponentOf_eq hpos Nat.one_pos, Nat.cast_one, div_one, hleading, lowestExponent]
  omega

/-- A whole number of up to 53 bits is a double. -/
theorem isNat_ofNat {n : Nat} (hbits : n < 2 ^ 53) : (ofNat n).IsNat n := by
  by_cases hn : n = 0
  · subst hn
    exact ⟨0, lowestExponent, rfl, by rw [ratio_zero, Nat.zero_mul]⟩
  · have hlog : n.log2 < 53 := (Nat.log2_lt hn).mpr hbits
    have hself : n < 2 ^ (n.log2 + 1) := Nat.lt_log2_self
    obtain ⟨k, hk⟩ : ∃ k, k + n.log2 = 52 := ⟨52 - n.log2, by omega⟩
    have hexp : exponentOf n 1 = -(k : Int) := by
      rw [exponentOf_one hn hbits]
      omega
    have hmantissa : n * 2 ^ k < 2 ^ 53 := by
      calc n * 2 ^ k < 2 ^ (n.log2 + 1) * 2 ^ k := Nat.mul_lt_mul_of_pos_right hself (by positivity)
        _ = 2 ^ 53 := by rw [← Nat.pow_add]; congr 1; omega
    refine ⟨n * 2 ^ k, -(k : Int), ?_, ?_⟩
    · unfold ofNat ofRatio
      simp only [if_neg hn, hexp, scaleDown_neg, roundRatio_one, Nat.pow_eq]
      rw [if_neg hmantissa.ne, if_neg]
      unfold highestExponent
      omega
    · rw [ratio_neg]

/-- A product of whole numbers is rounded once. -/
theorem IsNat.mul {x y : Binary64} {a b : Nat} (hx : x.IsNat a) (hy : y.IsNat b) :
    x.mul y = ofNat (a * b) := by
  obtain ⟨m, e, rfl, hm⟩ := hx
  obtain ⟨n, f, rfl, hn⟩ := hy
  have hproduct : (ratio m e).1 * (ratio n f).1 =
      (ratio m e).2 * (ratio n f).2 * (a * b) := by
    rw [hm, hn]
    ring
  unfold Binary64.mul
  simp only [hproduct, bne_self_eq_false]
  conv_lhs => arg 3; rw [← Nat.mul_one ((ratio m e).2 * (ratio n f).2)]
  exact ofRatio_mul (Nat.mul_pos (ratio_pos m e) (ratio_pos n f)) Nat.one_pos false

/-- A quotient of whole numbers is rounded once. -/
theorem IsNat.div {x y : Binary64} {a b : Nat} (hx : x.IsNat a) (hy : y.IsNat b) (hb : 0 < b) :
    x.div y = ofRatio false a b := by
  obtain ⟨m, e, rfl, hm⟩ := hx
  obtain ⟨n, f, rfl, hn⟩ := hy
  have hne : n ≠ 0 := by
    rintro rfl
    rw [ratio_zero] at hn
    exact absurd hn.symm (Nat.mul_ne_zero hb.ne' (ratio_pos 0 f).ne')
  have hnum : (ratio m e).1 * (ratio n f).2 = (ratio m e).2 * (ratio n f).2 * a := by
    rw [hm]
    ring
  have hden : (ratio m e).2 * (ratio n f).1 = (ratio m e).2 * (ratio n f).2 * b := by
    rw [hn]
    ring
  unfold Binary64.div
  simp only [if_neg hne, hnum, hden, bne_self_eq_false]
  exact ofRatio_mul (Nat.mul_pos (ratio_pos m e) (ratio_pos n f)) hb false

/-! ## The order of doubles -/

/-- One double is less than another. -/
def lt (x y : Binary64) : Bool := x.le y && !y.le x

theorem ofRatio_ne_nan (negative : Bool) (num den : Nat) : ofRatio negative num den ≠ .nan := by
  unfold ofRatio zero
  split
  · simp
  · dsimp only
    generalize (if _ = Nat.pow 2 53 then _ else _ : Nat × Int) = rounded
    split <;> simp

/-- Of two numbers the one is at most the other, or less. -/
theorem lt_of_not_le {x y : Binary64} (hx : x ≠ .nan) (hy : y ≠ .nan) (h : y.le x = false) :
    x.lt y = true := by
  unfold lt
  rw [h, Bool.not_false, Bool.and_true]
  cases x with
  | nan => contradiction
  | infinite s =>
    cases y with
    | nan => contradiction
    | infinite t => cases s <;> cases t <;> simp_all [le]
    | finite t n f => cases s <;> simp_all [le]
  | finite s m e =>
    cases y with
    | nan => contradiction
    | infinite t => cases t <;> simp_all [le]
    | finite t n f =>
      simp only [le, decide_eq_false_iff_not, decide_eq_true_eq] at h ⊢
      exact Int.le_of_lt (Int.not_le.mp h)

end Checkout.Binary64
