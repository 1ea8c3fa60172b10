import Mathlib.Tactic.Ring
import JsonExtract.Proofs.Decimal.Double

/-!
# The shortest decimal of a double

Tests on a decimal grid are made in whole numbers, with the power of the grid and the one of the
double on both sides.  They say where a decimal lies between the two middles next to the double.
The last grid holds the double itself, so one of the grids has a decimal that rounds to it.
-/

namespace JsonExtract.Decimal

def Scaled.value (d : Scaled) : ℚ := d.digits * 10 ^ d.exponent

variable {b : Binary} {k : ℤ} {c : ℕ}

/-! ## Grids -/

theorem zpow_mul_pow_toNat {base : ℚ} (hbase : base ≠ 0) (n : ℤ) :
    base ^ n * base ^ (-n).toNat = base ^ n.toNat := by
  have hsum : n + ((-n).toNat : ℤ) = n.toNat := by omega
  rw [← zpow_natCast, ← zpow_natCast, ← zpow_add₀ hbase, hsum]

theorem gridDenominator_pos (b : Binary) (k : ℤ) : 0 < gridDenominator b k := by
  simp only [gridDenominator, Nat.pow_eq]
  positivity

theorem gridNumerator_lt {quarters more : ℕ} (hless : quarters < more) (b : Binary) (k : ℤ) :
    gridNumerator b k quarters < gridNumerator b k more := by
  simp only [gridNumerator, Nat.pow_eq]
  gcongr

/-- A number of quarters of the last place, on a grid. -/
theorem gridNumerator_mul_zpow (b : Binary) (k : ℤ) (quarters : ℕ) :
    (gridNumerator b k quarters : ℚ) * 10 ^ k =
      quarters / 4 * b.ulp * gridDenominator b k := by
  have htwo := zpow_mul_pow_toNat (two_ne_zero (α := ℚ)) b.exponent
  have hten := zpow_mul_pow_toNat (by norm_num : (10 : ℚ) ≠ 0) k
  simp only [gridNumerator, gridDenominator, Binary.ulp, Nat.pow_eq, Nat.cast_mul, Nat.cast_pow,
    Nat.cast_ofNat]
  rw [← htwo, ← hten]
  ring

theorem mul_gridDenominator_mul_zpow (b : Binary) (k : ℤ) (c : ℕ) :
    ((c * gridDenominator b k : ℕ) : ℚ) * 10 ^ k = c * 10 ^ k * gridDenominator b k := by
  push_cast
  ring

theorem gridNumerator_le_iff {quarters : ℕ} :
    gridNumerator b k quarters ≤ c * gridDenominator b k ↔
      quarters / 4 * b.ulp ≤ (c : ℚ) * 10 ^ k := by
  have hden : (0 : ℚ) < gridDenominator b k := by exact_mod_cast gridDenominator_pos b k
  have hten : (0 : ℚ) < 10 ^ k := by positivity
  rw [← Nat.cast_le (α := ℚ), ← mul_le_mul_iff_left₀ hten, gridNumerator_mul_zpow,
    mul_gridDenominator_mul_zpow, mul_le_mul_iff_left₀ hden]

theorem le_gridNumerator_iff {quarters : ℕ} :
    c * gridDenominator b k ≤ gridNumerator b k quarters ↔
      (c : ℚ) * 10 ^ k ≤ quarters / 4 * b.ulp := by
  have hden : (0 : ℚ) < gridDenominator b k := by exact_mod_cast gridDenominator_pos b k
  have hten : (0 : ℚ) < 10 ^ k := by positivity
  rw [← Nat.cast_le (α := ℚ), ← mul_le_mul_iff_left₀ hten, gridNumerator_mul_zpow,
    mul_gridDenominator_mul_zpow, mul_le_mul_iff_left₀ hden]

/-! ## Decimals that round back -/

theorem below_quarters (hpos : b.mantissa ≠ 0) :
    ((4 * b.mantissa - if b.startsBinade then 1 else 2 : ℕ) : ℚ) / 4 * b.ulp =
      b.value - b.gapBelow / 2 := by
  unfold Binary.gapBelow Binary.value
  split
  · rw [Nat.cast_sub (by omega)]
    push_cast
    ring
  · rw [Nat.cast_sub (by omega)]
    push_cast
    ring

theorem above_quarters (b : Binary) :
    ((4 * b.mantissa + 2 : ℕ) : ℚ) / 4 * b.ulp = b.value + b.ulp / 2 := by
  unfold Binary.value
  push_cast
  ring

theorem isNearest_of_roundsBack (hb : b.IsDouble) (hpos : b.mantissa ≠ 0)
    (hback : roundsBack b k c = true) : b.IsNearest (c * 10 ^ k) := by
  unfold roundsBack at hback
  dsimp only at hback
  by_cases heven : b.mantissa % 2 = 0
  · rw [if_pos heven, Bool.and_eq_true, decide_eq_true_eq, decide_eq_true_eq,
      gridNumerator_le_iff, le_gridNumerator_iff, below_quarters hpos, above_quarters] at hback
    exact Binary.isNearest_of_bounds hb hback.1 hback.2 (.inl heven)
  · rw [if_neg heven, Bool.and_eq_true, decide_eq_true_eq, decide_eq_true_eq, ← not_le, ← not_le,
      gridNumerator_le_iff, le_gridNumerator_iff, not_le, not_le, below_quarters hpos,
      above_quarters] at hback
    exact Binary.isNearest_of_bounds hb hback.1.le hback.2.le (.inr hback)

theorem onGrid?_eq_some (hgrid : onGrid? b k = some c) : c ≠ 0 ∧ roundsBack b k c = true := by
  unfold onGrid? at hgrid
  dsimp only at hgrid
  split at hgrid
  · contradiction
  · rename_i hlow _
    cases hgrid
    simpa using hlow
  · rename_i _ hhigh
    cases hgrid
    exact ⟨Nat.succ_ne_zero _, hhigh⟩
  · rename_i hlow hhigh
    rw [Bool.and_eq_true, decide_eq_true_eq] at hlow
    have hboth : ∀ chosen, chosen = gridNumerator b k (4 * b.mantissa) / gridDenominator b k ∨
        chosen = gridNumerator b k (4 * b.mantissa) / gridDenominator b k + 1 →
        chosen ≠ 0 ∧ roundsBack b k chosen = true := by
      rintro chosen (rfl | rfl)
      · exact hlow
      · exact ⟨Nat.succ_ne_zero _, hhigh⟩
    apply hboth
    split_ifs at hgrid <;> cases hgrid <;> simp

/-! ## The last grid -/

/-- The exponent of the grid that holds a double itself. -/
def Binary.ownGrid (b : Binary) : ℤ := -((-b.exponent).toNat : ℤ)

theorem gridDenominator_dvd (b : Binary) (quarters : ℕ) :
    gridDenominator b b.ownGrid ∣ gridNumerator b b.ownGrid (4 * quarters) := by
  refine ⟨quarters * 2 ^ b.exponent.toNat * 5 ^ (-b.exponent).toNat, ?_⟩
  have hten : (10 : ℕ) ^ (-b.exponent).toNat =
      2 ^ (-b.exponent).toNat * 5 ^ (-b.exponent).toNat := by
    rw [← Nat.mul_pow]
  have hup : b.ownGrid.toNat = 0 := by
    unfold Binary.ownGrid
    omega
  have hdown : (-b.ownGrid).toNat = (-b.exponent).toNat := by
    unfold Binary.ownGrid
    omega
  simp only [gridNumerator, gridDenominator, hup, hdown, Nat.pow_eq, hten]
  ring

/-- A number of steps that is the double itself rounds back. -/
theorem roundsBack_of_eq (hpos : b.mantissa ≠ 0)
    (hown : c * gridDenominator b k = gridNumerator b k (4 * b.mantissa)) :
    roundsBack b k c = true := by
  have hbelow : 4 * b.mantissa - (if b.startsBinade then 1 else 2) < 4 * b.mantissa := by
    split <;> omega
  have habove : 4 * b.mantissa < 4 * b.mantissa + 2 := by omega
  have hleft := gridNumerator_lt hbelow b k
  have hright := gridNumerator_lt habove b k
  unfold roundsBack
  dsimp only
  rw [hown, decide_eq_true hleft, decide_eq_true hright, decide_eq_true hleft.le,
    decide_eq_true hright.le]
  simp

theorem onGrid?_ownGrid_ne_none (hpos : b.mantissa ≠ 0) : onGrid? b b.ownGrid ≠ none := by
  obtain ⟨n, hn⟩ := gridDenominator_dvd b b.mantissa
  have hlow : gridNumerator b b.ownGrid (4 * b.mantissa) / gridDenominator b b.ownGrid = n := by
    rw [hn, Nat.mul_div_cancel_left _ (gridDenominator_pos b _)]
  have hpositive : 0 < 4 * b.mantissa := by omega
  have hne : n ≠ 0 := by
    rintro rfl
    have hnumerator := gridNumerator_lt hpositive b b.ownGrid
    omega
  have hback : roundsBack b b.ownGrid n = true :=
    roundsBack_of_eq hpos (by rw [hn, Nat.mul_comm])
  unfold onGrid?
  dsimp only
  rw [hlow, hback, Bool.and_true, decide_eq_true hne]
  cases roundsBack b b.ownGrid (n + 1) with
  | false => simp
  | true =>
      dsimp only
      split_ifs <;> simp

theorem ownGrid_mem_grids (b : Binary) : b.ownGrid ∈ grids b := by
  unfold grids Binary.ownGrid
  refine List.mem_map.mpr ⟨_, List.mem_range.mpr (Nat.lt_succ_self _), ?_⟩
  push_cast
  ring

/-- The shortest decimal of a double other than zero is no zero and rounds to the double. -/
theorem isNearest_shortest (hb : b.IsDouble) (hpos : b.mantissa ≠ 0) :
    (shortest b).digits ≠ 0 ∧ b.IsNearest (shortest b).value := by
  have hsome : ((grids b).findSome? fun k => (onGrid? b k).map (⟨·, k⟩ : ℕ → Scaled)) ≠ none := by
    intro hnone
    have hown := List.findSome?_eq_none_iff.mp hnone _ (ownGrid_mem_grids b)
    exact onGrid?_ownGrid_ne_none hpos (Option.map_eq_none_iff.mp hown)
  obtain ⟨d, hd⟩ := Option.ne_none_iff_exists'.mp hsome
  obtain ⟨k, -, hgrid⟩ := List.exists_of_findSome?_eq_some hd
  obtain ⟨c, hc, rfl⟩ := Option.map_eq_some_iff.mp hgrid
  obtain ⟨hne, hback⟩ := onGrid?_eq_some hc
  rw [shortest, hd, Option.getD_some]
  exact ⟨hne, isNearest_of_roundsBack hb hpos hback⟩

end JsonExtract.Decimal
