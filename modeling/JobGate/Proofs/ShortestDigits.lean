import JobGate.Decimal.Shortest
import Mathlib.Algebra.Order.Field.Power
import Mathlib.Tactic.GCongr
import Mathlib.Tactic.NormNum
import Mathlib.Tactic.Positivity
import Mathlib.Tactic.SplitIfs

/-!
Digits of doubles. The exponent at which the search for the shortest digits of a double starts is
found from binary digits, and is at most sixteen too large (`Binary64.leadingExponent_reaches`). So
the last grid that is tried still has a number other than zero beside the double, and a double other
than zero has digits other than zero (`Binary64.shortest_ne_zero`).
-/
namespace JobGate.Binary64

/-- The power of ten is not greater than the quotient. -/
def Reaches (num den : Nat) (p : Int) : Prop := (10 : ℚ) ^ p * den ≤ num

theorem Reaches.mono {num den : Nat} {p q : Int} (reaches : Reaches num den q) (le : p ≤ q) :
    Reaches num den p := by
  have less : (10 : ℚ) ^ p ≤ 10 ^ q := zpow_le_zpow_right₀ (by norm_num) le
  exact le_trans (mul_le_mul_of_nonneg_right less (Nat.cast_nonneg den)) reaches

theorem reaches_of_nonneg {num den : Nat} {p : Int} (nonneg : 0 ≤ p) :
    Reaches num den p ↔ den * Nat.pow 10 p.toNat ≤ num := by
  obtain ⟨n, rfl⟩ := Int.eq_ofNat_of_zero_le nonneg
  rw [Reaches, zpow_natCast, mul_comm, Int.toNat_natCast, Nat.pow_eq]
  exact_mod_cast Iff.rfl

theorem reaches_of_neg {num den : Nat} {p : Int} (negative : ¬ 0 ≤ p) :
    Reaches num den p ↔ den ≤ num * Nat.pow 10 (-p).toNat := by
  obtain ⟨n, same⟩ := Int.eq_ofNat_of_zero_le (by omega : 0 ≤ -p)
  obtain rfl : p = -(n : Int) := by omega
  rw [Reaches, zpow_neg, zpow_natCast, inv_mul_le_iff₀ (by positivity), mul_comm, neg_neg,
    Int.toNat_natCast, Nat.pow_eq]
  exact_mod_cast Iff.rfl

theorem ten_zpow_le {p q a : Int} {k : Nat} (some : k ≠ 0) (digits : p * k ≤ a * q)
    (powers : ((10 : ℚ) ^ a) ^ q ≤ (2 ^ k) ^ q) : (10 : ℚ) ^ p ≤ 2 ^ q := by
  refine (pow_le_pow_iff_left₀ (by positivity) (by positivity) some).mp ?_
  calc ((10 : ℚ) ^ p) ^ k = 10 ^ (p * k) := by rw [zpow_mul, zpow_natCast]
    _ ≤ 10 ^ (a * q) := zpow_le_zpow_right₀ (by norm_num) digits
    _ = (10 ^ a) ^ q := zpow_mul _ _ _
    _ ≤ (2 ^ k) ^ q := powers
    _ = (2 ^ q) ^ k := by rw [← zpow_natCast, ← zpow_mul, mul_comm, zpow_mul, zpow_natCast]

/-- Seventeen digits are more than the approximate logarithm is wrong by. -/
theorem ten_le_two {p b : Int} (low : -1100 ≤ b) (high : b ≤ 1100)
    (near : p * 100000 ≤ b * 30103) : (10 : ℚ) ^ (p - 17) ≤ 2 ^ (b - 1) := by
  rcases le_or_gt 1 b with positive | negative
  · -- 10 ^ 3 is below 2 ^ 10
    refine ten_zpow_le (by norm_num : 10 ≠ 0) (by omega : _ ≤ 3 * (b - 1)) ?_
    obtain ⟨n, same⟩ := Int.eq_ofNat_of_zero_le (by omega : 0 ≤ b - 1)
    rw [same, zpow_natCast, zpow_natCast]
    gcongr
    norm_num
  · -- 10 ^ 31 is above 2 ^ 100
    refine ten_zpow_le (by norm_num : 100 ≠ 0) (by omega : _ ≤ 31 * (b - 1)) ?_
    obtain ⟨n, same⟩ := Int.eq_ofNat_of_zero_le (by omega : 0 ≤ 1 - b)
    rw [show b - 1 = -(n : Int) by omega, zpow_neg, zpow_neg, zpow_natCast, zpow_natCast]
    gcongr
    norm_num

/-- The number of binary digits tells the quotient up to a factor of two. -/
theorem two_pow_bits_le {num : Nat} (num_pos : num ≠ 0) (den : Nat) :
    (2 : ℚ) ^ ((Nat.log2 num : Int) - (Nat.log2 den : Int) - 1) * den ≤ num := by
  have above : ((2 : ℚ) ^ Nat.log2 num) ≤ num := by exact_mod_cast Nat.log2_self_le num_pos
  have below : (den : ℚ) ≤ 2 ^ (Nat.log2 den + 1) := by exact_mod_cast Nat.lt_log2_self.le
  calc (2 : ℚ) ^ ((Nat.log2 num : Int) - (Nat.log2 den : Int) - 1) * den
      ≤ 2 ^ ((Nat.log2 num : Int) - (Nat.log2 den : Int) - 1) * 2 ^ (Nat.log2 den + 1) := by gcongr
    _ = 2 ^ Nat.log2 num := by
        rw [← zpow_natCast, ← zpow_natCast, ← zpow_add₀ (by norm_num)]
        congr 1
        push_cast
        omega
    _ ≤ num := above

theorem leadingExponentNear_reaches {num den : Nat} {p : Int}
    (guess : Reaches num den (p - 17)) : Reaches num den (leadingExponentNear num den p - 16) := by
  unfold leadingExponentNear
  extract_lets reached
  have reaches (q : Int) (found : reached q = true) : Reaches num den q := by
    simp only [reached] at found
    split_ifs at found with nonneg
    · exact (reaches_of_nonneg nonneg).mpr (of_decide_eq_true found)
    · exact (reaches_of_neg nonneg).mpr (of_decide_eq_true found)
  by_cases above : reached (p + 1) = true
  · rw [if_pos above]
    exact (reaches _ above).mono (by omega)
  · by_cases here : reached p = true
    · rw [if_neg above, if_pos here]
      exact (reaches _ here).mono (by omega)
    · rw [if_neg above, if_neg here]
      exact guess.mono (by omega)

theorem leadingExponent_reaches {num den : Nat} (num_pos : num ≠ 0)
    (low : -1100 ≤ (Nat.log2 num : Int) - Nat.log2 den)
    (high : (Nat.log2 num : Int) - Nat.log2 den ≤ 1100) :
    Reaches num den (leadingExponent num den - 16) := by
  refine leadingExponentNear_reaches ?_
  have near : Int.fdiv (((Nat.log2 num : Int) - Nat.log2 den) * 30103) 100000 * 100000 ≤
      ((Nat.log2 num : Int) - Nat.log2 den) * 30103 := by
    rw [Int.fdiv_eq_ediv_of_nonneg _ (by decide)]
    omega
  exact le_trans (mul_le_mul_of_nonneg_right (ten_le_two low high near) (Nat.cast_nonneg den))
    (two_pow_bits_le num_pos den)

variable {x : Binary64}

/-- The parts of the ratio of a double other than zero, and how far their binary digits differ. -/
theorem ratio_bounds (x : Binary64) (nonzero : x.isZero = false) :
    x.ratio.1 ≠ 0 ∧ x.ratio.2 ≠ 0 ∧ -1100 ≤ (Nat.log2 x.ratio.1 : Int) - Nat.log2 x.ratio.2 ∧
      (Nat.log2 x.ratio.1 : Int) - Nat.log2 x.ratio.2 ≤ 1100 := by
  obtain ⟨small, low, high, -⟩ := x.canonical
  have mantissa : x.mantissa ≠ 0 := by simpa [isZero] using nonzero
  unfold ratio
  split_ifs with nonneg
  · obtain ⟨n, same⟩ := Int.eq_ofNat_of_zero_le nonneg
    have product : x.mantissa * 2 ^ n ≠ 0 := Nat.mul_ne_zero mantissa (by simp)
    have bits : Nat.log2 (x.mantissa * 2 ^ n) < 53 + n := by
      rw [Nat.log2_lt product, pow_add]
      exact Nat.mul_lt_mul_of_pos_right small (by simp)
    have one : Nat.log2 1 = 0 := by decide
    simp only [same, Int.toNat_natCast, Nat.pow_eq, one]
    exact ⟨product, one_ne_zero, by omega, by omega⟩
  · obtain ⟨n, same⟩ := Int.eq_ofNat_of_zero_le (by omega : 0 ≤ -x.exponent)
    have bits : Nat.log2 x.mantissa < 53 := by
      rw [Nat.log2_lt mantissa]
      exact small
    simp only [same, Int.toNat_natCast, Nat.pow_eq, Nat.log2_two_pow]
    exact ⟨mantissa, by simp, by omega, by omega⟩

theorem neighbours_ne_zero {e : Int} (reaches : Reaches x.ratio.1 x.ratio.2 e)
    (den : x.ratio.2 ≠ 0) : (x.neighbours e).1 ≠ 0 := by
  have below (n d : Nat) (pos : d ≠ 0) (le : d ≤ n) :
      (if roundQuotient n d == n / d then (n / d, n / d + 1) else (n / d + 1, n / d)).1 ≠ 0 := by
    have some : n / d ≠ 0 := Nat.div_ne_zero_iff.mpr ⟨pos, le⟩
    split_ifs
    · exact some
    · exact Nat.succ_ne_zero _
  by_cases nonneg : 0 ≤ e
  · have le := (reaches_of_nonneg nonneg).mp reaches
    simpa only [neighbours, if_pos nonneg] using
      below _ _ (Nat.mul_ne_zero den (by simp)) le
  · have le := (reaches_of_neg nonneg).mp reaches
    simpa only [neighbours, if_neg nonneg] using below _ _ den le

theorem readsBack_zero (nonzero : x.isZero = false) (e : Int) : x.readsBack 0 e = false := by
  have mantissa : x.mantissa ≠ 0 := by simpa [isZero] using nonzero
  rcases interval : x.roundingInterval with ⟨low, high, closed⟩
  have low_pos : 0 < low := by
    obtain rfl : x.roundingInterval.1 = low := by rw [interval]
    simp only [roundingInterval]
    split_ifs <;> omega
  have bound_pos : 0 < low * (if 0 ≤ x.exponent - 2 then Nat.pow 2 (x.exponent - 2).toNat else 1) *
      (if 0 ≤ e then 1 else Nat.pow 10 (-e).toNat) := by
    refine Nat.mul_pos (Nat.mul_pos low_pos ?_) ?_ <;> split_ifs <;> simp
  simp only [readsBack, interval, Nat.zero_mul]
  cases closed
  · simp
  · simp only [if_true, Bool.and_eq_false_iff, decide_eq_false_iff_not, not_le]
    exact .inl bound_pos

theorem dropZeros_ne_zero {left digits : Nat} {e : Int} (some : digits ≠ 0) :
    (dropZeros left digits e).1 ≠ 0 := by
  induction left generalizing digits e with
  | zero => exact some
  | succ left ih =>
    unfold dropZeros
    split_ifs with trailing
    · simp at trailing
      exact ih (by omega)
    · exact some

theorem shortestFrom_ne_zero (nonzero : x.isZero = false) {lead : Int}
    (last : (x.neighbours (lead - 16)).1 ≠ 0) {left count : Nat} (total : left + count = 17) :
    (shortestFrom x lead left count).1 ≠ 0 := by
  induction left generalizing count with
  | zero =>
    obtain rfl : count = 17 := by omega
    rwa [shortestFrom, show lead - (17 : Nat) + 1 = lead - 16 by omega]
  | succ left ih =>
    unfold shortestFrom
    simp only []
    split_ifs with near far
    · intro zero
      simp only at zero
      rw [zero, readsBack_zero nonzero] at near
      cases near
    · intro zero
      simp only at zero
      rw [zero, readsBack_zero nonzero] at far
      cases far
    · exact ih (by omega)

/-- A double other than zero has a digit other than zero. -/
theorem shortest_ne_zero (nonzero : x.isZero = false) : x.shortest.1 ≠ 0 := by
  obtain ⟨num, den, low, high⟩ := ratio_bounds x nonzero
  have reaches := leadingExponent_reaches num low high
  have some := shortestFrom_ne_zero nonzero (neighbours_ne_zero reaches den) (rfl : 16 + 1 = 17)
  simp only [shortest, nonzero]
  exact dropZeros_ne_zero some

end JobGate.Binary64
