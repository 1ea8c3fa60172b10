import JsonExtract.Json.Number

/-!
# Numbers made of integers and doubles

An integer makes a number exactly when it lies in the range of exact numbers, and a double exactly
when it is finite.
-/

namespace JsonExtract.Number

theorem ofInt?_eq_some_whole_iff {z : Int} {n : WholeNumber} :
    ofInt? z = some (.whole n) ↔ n.val = z := by
  unfold ofInt?
  constructor
  · intro h
    split at h
    · cases h
      rfl
    · contradiction
  · rintro rfl
    rw [dif_pos ⟨n.lower, n.upper⟩]

theorem ofInt?_eq_none_iff {z : Int} :
    ofInt? z = none ↔ ¬ (-0x8000000000000000 ≤ z ∧ z < 0x10000000000000000) := by
  unfold ofInt?
  split <;> simp [*]

theorem ofFloat?_ne_some_whole (x : Float) (n : WholeNumber) : ofFloat? x ≠ some (.whole n) := by
  unfold ofFloat?
  split <;> simp

theorem ofFloat?_eq_some_real_iff {x y : Float} {finite : y.isFinite = true} :
    ofFloat? x = some (.real y finite) ↔ y = x := by
  unfold ofFloat?
  constructor
  · intro h
    split at h
    · cases h
      rfl
    · contradiction
  · rintro rfl
    rw [dif_pos finite]

theorem ofFloat?_eq_none_iff {x : Float} : ofFloat? x = none ↔ x.isFinite = false := by
  unfold ofFloat?
  split <;> simp [*]

end JsonExtract.Number
