import Mathlib.Algebra.Order.Field.Power
import Mathlib.Algebra.Order.Ring.Rat
import Mathlib.Tactic.FieldSimp
import Mathlib.Tactic.Linarith
import Mathlib.Tactic.Positivity
import JsonExtract.Decimal.Shortest

/-!
# Doubles and the decimals that round to them

A decimal rounds to the double that is nearest to it, and from the middle between two doubles to
the one with the even mantissa.  The neighbour above a double is one unit of its last place away,
and so is the neighbour below, unless the double is the first with its exponent.  Then the
neighbour below is only half as far.  All decimals between the two middles round to the double,
and the shortest decimal of a double is one of them.
-/

namespace JsonExtract.Decimal

namespace Binary

def ulp (b : Binary) : ℚ := 2 ^ b.exponent

def value (b : Binary) : ℚ := b.mantissa * b.ulp

/-- The form of doubles, exponents being as large as one likes. -/
structure IsDouble (b : Binary) : Prop where
  mantissa_lt : b.mantissa < 2 ^ 53
  le_exponent : -1074 ≤ b.exponent
  le_mantissa : b.exponent ≠ -1074 → 2 ^ 52 ≤ b.mantissa

/-- Whether a number rounds to a double. -/
def IsNearest (b : Binary) (x : ℚ) : Prop :=
  ∀ other : Binary, other.IsDouble → other ≠ b →
    |x - b.value| < |x - other.value| ∨ |x - b.value| = |x - other.value| ∧ b.mantissa % 2 = 0

/-- How far the neighbour below is away. -/
def gapBelow (b : Binary) : ℚ := if b.startsBinade then b.ulp / 2 else b.ulp

variable {b other : Binary}

theorem ulp_pos (b : Binary) : 0 < b.ulp := by
  unfold ulp
  positivity

theorem gapBelow_le_ulp (b : Binary) : b.gapBelow ≤ b.ulp := by
  have hpos := b.ulp_pos
  unfold gapBelow
  split <;> linarith

theorem gapBelow_pos (b : Binary) : 0 < b.gapBelow := by
  have hpos := b.ulp_pos
  unfold gapBelow
  split <;> linarith

theorem value_eq_mul_ulp (b other : Binary) :
    other.value = other.mantissa * 2 ^ (other.exponent - b.exponent) * b.ulp := by
  have hexponent : other.exponent = other.exponent - b.exponent + b.exponent := by omega
  rw [value, ulp, ulp, mul_assoc, ← zpow_add₀ two_ne_zero, ← hexponent]

/-! ## Neighbours -/

theorem apart_of_exponent_eq (hexponent : other.exponent = b.exponent)
    (hne : other ≠ b) : other.value + b.ulp ≤ b.value ∨ b.value + b.ulp ≤ other.value := by
  have hulp := b.ulp_pos
  have hmantissa : other.mantissa ≠ b.mantissa := by
    intro hsame
    apply hne
    cases b
    cases other
    simp_all
  rw [value_eq_mul_ulp b other, hexponent, sub_self, zpow_zero, mul_one, value]
  rcases Nat.lt_or_gt_of_ne hmantissa with hless | hmore
  · left
    have hstep : (other.mantissa : ℚ) + 1 ≤ b.mantissa := by exact_mod_cast hless
    nlinarith
  · right
    have hstep : (b.mantissa : ℚ) + 1 ≤ other.mantissa := by exact_mod_cast hmore
    nlinarith

theorem above_of_exponent_lt (hb : b.IsDouble) (hother : other.IsDouble)
    (hexponent : b.exponent < other.exponent) : b.value + b.ulp ≤ other.value := by
  have hulp := b.ulp_pos
  have hlow := hb.le_exponent
  have hleast : ((2 : ℚ) ^ 52) ≤ other.mantissa := by
    exact_mod_cast hother.le_mantissa (by omega)
  have hmost : (b.mantissa : ℚ) + 1 ≤ 2 ^ 53 := by exact_mod_cast hb.mantissa_lt
  have hscale : (2 : ℚ) ^ (1 : ℤ) ≤ 2 ^ (other.exponent - b.exponent) :=
    zpow_le_zpow_right₀ one_le_two (by omega)
  have hdouble : (2 : ℚ) ^ 53 ≤ other.mantissa * 2 ^ (other.exponent - b.exponent) := by
    calc (2 : ℚ) ^ 53 = (2 : ℚ) ^ 52 * 2 ^ (1 : ℤ) := by norm_num
      _ ≤ (other.mantissa : ℚ) * 2 ^ (other.exponent - b.exponent) := by gcongr
  rw [value_eq_mul_ulp b other, value]
  nlinarith

theorem below_of_exponent_lt (hb : b.IsDouble) (hother : other.IsDouble)
    (hexponent : other.exponent < b.exponent) : other.value + b.gapBelow ≤ b.value := by
  have hulp := b.ulp_pos
  have hlow := hother.le_exponent
  have hleast : 2 ^ 52 ≤ b.mantissa := hb.le_mantissa (by omega)
  have hmost : (other.mantissa : ℚ) ≤ 2 ^ 53 - 1 := by
    have hstep : (other.mantissa : ℚ) + 1 ≤ 2 ^ 53 := by exact_mod_cast hother.mantissa_lt
    linarith
  have hscale : (2 : ℚ) ^ (other.exponent - b.exponent) ≤ 2 ^ (-1 : ℤ) :=
    zpow_le_zpow_right₀ one_le_two (by omega)
  have hhalf : other.mantissa * (2 : ℚ) ^ (other.exponent - b.exponent) ≤ 2 ^ 52 - 1 / 2 := by
    calc other.mantissa * (2 : ℚ) ^ (other.exponent - b.exponent)
        ≤ (2 ^ 53 - 1) * 2 ^ (-1 : ℤ) := by gcongr
      _ = 2 ^ 52 - 1 / 2 := by norm_num
  rw [value_eq_mul_ulp b other, value, gapBelow]
  -- The first double with an exponent is the only one whose neighbour below has a smaller one.
  by_cases hstart : b.startsBinade = true
  · have hmantissa : (2 : ℚ) ^ 52 ≤ b.mantissa := by exact_mod_cast hleast
    rw [if_pos hstart]
    nlinarith
  · have hmantissa : (2 : ℚ) ^ 52 + 1 ≤ b.mantissa := by
      have hne : b.mantissa ≠ 2 ^ 52 := by
        intro hfirst
        apply hstart
        simp only [startsBinade, Bool.and_eq_true, decide_eq_true_eq]
        exact ⟨hfirst, by omega⟩
      exact_mod_cast Nat.lt_of_le_of_ne hleast (Ne.symm hne)
    rw [if_neg hstart]
    nlinarith

theorem apart (hb : b.IsDouble) (hother : other.IsDouble) (hne : other ≠ b) :
    other.value + b.gapBelow ≤ b.value ∨ b.value + b.ulp ≤ other.value := by
  rcases lt_trichotomy other.exponent b.exponent with hless | hsame | hmore
  · exact .inl (below_of_exponent_lt hb hother hless)
  · have hgap := b.gapBelow_le_ulp
    refine (apart_of_exponent_eq hsame hne).imp_left fun hbelow => ?_
    linarith
  · exact .inr (above_of_exponent_lt hb hother hmore)

theorem le_abs_sub (hb : b.IsDouble) (hother : other.IsDouble) (hne : other ≠ b) (x : ℚ) :
    x - b.value + b.gapBelow ≤ |x - other.value| ∨ b.value - x + b.ulp ≤ |x - other.value| := by
  rcases apart hb hother hne with hbelow | habove
  · left
    have hdistance := le_abs_self (x - other.value)
    linarith
  · right
    have hdistance := neg_le_abs (x - other.value)
    linarith

/-- Between the two middles a number rounds to the double, and in one of them if the mantissa is
even. -/
theorem isNearest_of_bounds (hb : b.IsDouble) {x : ℚ}
    (hlow : b.value - b.gapBelow / 2 ≤ x) (hhigh : x ≤ b.value + b.ulp / 2)
    (heven : b.mantissa % 2 = 0 ∨ b.value - b.gapBelow / 2 < x ∧ x < b.value + b.ulp / 2) :
    b.IsNearest x := by
  intro other hother hne
  have hgap := b.gapBelow_pos
  have hulp := b.ulp_pos
  have hfar := le_abs_sub hb hother hne x
  rcases heven with heven | ⟨hlow, hhigh⟩
  · have hle : |x - b.value| ≤ |x - other.value| := by
      rw [abs_le]
      rcases hfar with hbelow | habove <;> constructor <;> linarith
    exact (lt_or_eq_of_le hle).imp_right fun heq => ⟨heq, heven⟩
  · left
    rw [abs_lt]
    rcases hfar with hbelow | habove <;> constructor <;> linarith

end Binary

end JsonExtract.Decimal
