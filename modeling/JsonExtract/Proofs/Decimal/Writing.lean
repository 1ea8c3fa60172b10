import Mathlib.Data.List.DropRight
import JsonExtract.Decimal.Notation
import JsonExtract.Proofs.Decimal.Bits
import JsonExtract.Proofs.Decimal.Digits
import JsonExtract.Proofs.Decimal.Shortest

/-!
# Decimals as texts

A decimal with a fraction or an exponent is written as digits, a point with more digits, and a
letter with the exponent, where the point with its digits or the exponent may be missing.  The
text of a double is such a decimal, with a minus in front if the sign is negative, and the number
that it denotes rounds to the double.
-/

namespace JsonExtract.Decimal

/-! ## Texts and the numbers that they denote -/

structure AreDigits (digits : List Char) : Prop where
  ne_nil : digits ≠ []
  isDigit : ∀ c ∈ digits, c.isDigit = true

/-- Digits in front of a point.  A zero is the first of them only if it is the last one too. -/
structure AreWhole (digits : List Char) : Prop extends AreDigits digits where
  alone : digits.head? = some '0' → digits = ['0']

inductive IsExponent : List Char → ℤ → Prop where
  | plain {letter : Char} {digits : List Char} (hletter : letter = 'e' ∨ letter = 'E')
      (hdigits : AreDigits digits) : IsExponent (letter :: digits) (ofDigits digits)
  | plus {letter : Char} {digits : List Char} (hletter : letter = 'e' ∨ letter = 'E')
      (hdigits : AreDigits digits) : IsExponent (letter :: '+' :: digits) (ofDigits digits)
  | minus {letter : Char} {digits : List Char} (hletter : letter = 'e' ∨ letter = 'E')
      (hdigits : AreDigits digits) : IsExponent (letter :: '-' :: digits) (-ofDigits digits)

/-- Whether a text with a fraction or an exponent denotes a number. -/
inductive Denotes : List Char → ℚ → Prop where
  | fraction {whole fraction : List Char} (hwhole : AreWhole whole)
      (hfraction : AreDigits fraction) :
      Denotes (whole ++ '.' :: fraction)
        (ofDigits (whole ++ fraction) * 10 ^ (-fraction.length : ℤ))
  | exponent {whole letters : List Char} {n : ℤ} (hwhole : AreWhole whole)
      (hexponent : IsExponent letters n) :
      Denotes (whole ++ letters) (ofDigits whole * 10 ^ n)
  | both {whole fraction letters : List Char} {n : ℤ} (hwhole : AreWhole whole)
      (hfraction : AreDigits fraction) (hexponent : IsExponent letters n) :
      Denotes (whole ++ '.' :: (fraction ++ letters))
        (ofDigits (whole ++ fraction) * 10 ^ (n - fraction.length))

/-- Whether a text is the sign of a finite double and a number that rounds to its absolute
value. -/
inductive Tells : List Char → Float → Prop where
  | positive {x : Float} {b : Binary} {text : List Char} {value : ℚ}
      (hof : Binary.IsOf x .positive b) (htext : Denotes text value)
      (hrounds : b.IsNearest value) : Tells text x
  | negative {x : Float} {b : Binary} {text : List Char} {value : ℚ}
      (hof : Binary.IsOf x .negative b) (htext : Denotes text value)
      (hrounds : b.IsNearest value) : Tells ('-' :: text) x

/-! ## Digits and zeros -/

variable {digits : List Char}

theorem ofDigits_append_zeros (digits : List Char) (n : ℕ) :
    ofDigits (digits ++ zeros n) = ofDigits digits * 10 ^ n := by
  have happend := Nat.ofDigitChars_append (b := 10) (l := digits) (m := zeros n) 0
  rw [zeros, Nat.ofDigitChars_replicate_zero, Nat.mul_comm] at happend
  exact happend

theorem ofDigits_zeros_append (n : ℕ) (digits : List Char) :
    ofDigits (zeros n ++ digits) = ofDigits digits := by
  have happend := Nat.ofDigitChars_append (b := 10) (l := zeros n) (m := digits) 0
  rw [zeros, Nat.ofDigitChars_replicate_zero, Nat.mul_zero] at happend
  exact happend

theorem isDigit_of_mem_zeros {n : ℕ} {c : Char} (hc : c ∈ zeros n) : c.isDigit = true := by
  rw [List.eq_of_mem_replicate hc]
  rfl

theorem areDigits_toDigits (n : ℕ) : AreDigits (toDigits n) :=
  ⟨toDigits_ne_nil n, fun _ hc => isDigit_of_mem_toDigits hc⟩

theorem areWhole_zero : AreWhole ['0'] :=
  ⟨⟨List.cons_ne_nil _ _, by simp⟩, fun _ => rfl⟩

theorem areWhole_of_head? (hdigits : AreDigits digits) (hhead : digits.head? ≠ some '0') :
    AreWhole digits :=
  ⟨hdigits, fun hzero => absurd hzero hhead⟩

/-! ## Positional and exponent notation -/

theorem denotes_positional_of_nonpos (hdigits : AreDigits digits) {scale : ℤ} (hscale : scale ≤ 0) :
    Denotes (positional digits scale) (ofDigits digits * 10 ^ (scale - digits.length)) := by
  have hfraction : AreDigits (zeros (-scale).toNat ++ digits) := by
    refine ⟨List.append_ne_nil_of_right_ne_nil _ hdigits.ne_nil, fun c hc => ?_⟩
    exact (List.mem_append.mp hc).elim isDigit_of_mem_zeros (hdigits.isDigit c)
  have hvalue : ofDigits (['0'] ++ (zeros (-scale).toNat ++ digits)) = ofDigits digits := by
    have hzero : ofDigits (['0'] ++ (zeros (-scale).toNat ++ digits)) =
        ofDigits (zeros (-scale).toNat ++ digits) := ofDigits_zeros_append 1 _
    rw [hzero, ofDigits_zeros_append]
  have hlength : (-(zeros (-scale).toNat ++ digits).length : ℤ) = scale - digits.length := by
    rw [List.length_append, zeros, List.length_replicate]
    omega
  rw [positional, if_pos hscale, ← hvalue, ← hlength]
  exact .fraction areWhole_zero hfraction

theorem denotes_positional_of_pos (hdigits : AreDigits digits) (hhead : digits.head? ≠ some '0')
    {scale : ℤ} (hscale : 0 < scale) :
    Denotes (positional digits scale) (ofDigits digits * 10 ^ (scale - digits.length)) := by
  rw [positional, if_neg (not_le.mpr hscale)]
  dsimp only
  by_cases hlong : digits.length ≤ scale.toNat
  · -- All digits stand in front of the point, with zeros behind them.
    rw [List.take_of_length_le hlong, List.drop_of_length_le hlong]
    have hwhole : AreWhole (digits ++ zeros (scale.toNat - digits.length)) := by
      refine areWhole_of_head? ⟨List.append_ne_nil_of_left_ne_nil hdigits.ne_nil _, ?_⟩ ?_
      · intro c hc
        exact (List.mem_append.mp hc).elim (hdigits.isDigit c) isDigit_of_mem_zeros
      · rwa [List.head?_append_of_ne_nil _ hdigits.ne_nil]
    have hvalue : ofDigits (digits ++ zeros (scale.toNat - digits.length) ++ ['0']) =
        ofDigits digits * 10 ^ (scale.toNat - digits.length + 1) := by
      rw [← ofDigits_append_zeros, List.append_assoc]
      congr 2
      exact List.replicate_succ'.symm
    have hexponent : scale - digits.length =
        ((scale.toNat - digits.length + 1 : ℕ) : ℤ) + (-(['0'].length : ℤ)) := by
      simp only [List.length_singleton]
      omega
    have hsame : (ofDigits digits : ℚ) * 10 ^ (scale - digits.length) =
        ofDigits (digits ++ zeros (scale.toNat - digits.length) ++ ['0']) *
          10 ^ (-(['0'].length : ℤ)) := by
      rw [hvalue, hexponent, zpow_add₀ (by norm_num), zpow_natCast]
      push_cast
      ring
    rw [hsame]
    exact .fraction hwhole ⟨List.cons_ne_nil _ _, by simp⟩
  · -- The point stands between two digits.
    have hshort : scale.toNat < digits.length := Nat.lt_of_not_le hlong
    have hnone : scale.toNat - digits.length = 0 := by omega
    have hsome : digits.drop scale.toNat ≠ [] := by simpa using hshort
    have hfraction : AreDigits (digits.drop scale.toNat) :=
      ⟨hsome, fun c hc => hdigits.isDigit c (List.mem_of_mem_drop hc)⟩
    have hwhole : AreWhole (digits.take scale.toNat) := by
      refine areWhole_of_head? ⟨?_, fun c hc => hdigits.isDigit c (List.mem_of_mem_take hc)⟩ ?_
      · have hpos : scale.toNat ≠ 0 := by omega
        simp [hpos, hdigits.ne_nil]
      · rwa [List.head?_take, if_neg (by omega)]
    have hlength : (-(digits.drop scale.toNat).length : ℤ) = scale - digits.length := by
      rw [List.length_drop]
      omega
    rw [hnone, zeros, List.replicate_zero, List.append_nil,
      if_neg (by simpa using hsome), ← hlength]
    have hdenotes := Denotes.fraction hwhole hfraction
    rwa [List.take_append_drop] at hdenotes

theorem isExponent_signed (n : ℤ) :
    IsExponent ('e' :: (if n < 0 then '-' else '+') :: toDigits n.natAbs) n := by
  by_cases hneg : n < 0
  · have hn : -(ofDigits (toDigits n.natAbs) : ℤ) = n := by
      rw [ofDigits_toDigits]
      omega
    rw [if_pos hneg]
    have hexponent := IsExponent.minus (.inl rfl) (areDigits_toDigits n.natAbs)
    rwa [hn] at hexponent
  · have hn : (ofDigits (toDigits n.natAbs) : ℤ) = n := by
      rw [ofDigits_toDigits]
      omega
    rw [if_neg hneg]
    have hexponent := IsExponent.plus (.inl rfl) (areDigits_toDigits n.natAbs)
    rwa [hn] at hexponent

theorem denotes_scientific (hdigits : AreDigits digits) (hhead : digits.head? ≠ some '0')
    (n : ℤ) :
    Denotes (scientific digits n) (ofDigits digits * 10 ^ (n + 1 - digits.length)) := by
  have hletters := isExponent_signed n
  match digits, hdigits, hhead with
  | [], hdigits, _ => exact absurd rfl hdigits.ne_nil
  | [first], hdigits, hhead =>
    have hn : n + 1 - (([first] : List Char).length : ℤ) = n := by
      rw [List.length_singleton]
      omega
    rw [hn]
    exact .exponent (areWhole_of_head? hdigits hhead) hletters
  | first :: second :: rest, hdigits, hhead =>
    have hn : n + 1 - ((first :: second :: rest).length : ℤ) = n - (second :: rest).length := by
      rw [List.length_cons]
      omega
    have hfirst : AreWhole [first] :=
      areWhole_of_head? ⟨List.cons_ne_nil _ _, by simpa using hdigits.isDigit first (by simp)⟩
        hhead
    have hrest : AreDigits (second :: rest) :=
      ⟨List.cons_ne_nil _ _, fun c hc => hdigits.isDigit c (List.mem_cons_of_mem _ hc)⟩
    rw [hn]
    exact .both hfirst hrest hletters

/-! ## Decimals -/

theorem exists_trimZeros_append (digits : List Char) :
    ∃ n, digits = trimZeros digits ++ zeros n := by
  have hzeros : ∀ c ∈ (digits.reverse.takeWhile (· = '0')).reverse, c = '0' := by
    intro c hc
    simpa using List.mem_takeWhile_imp (List.mem_reverse.mp hc)
  refine ⟨(digits.reverse.takeWhile (· = '0')).reverse.length, ?_⟩
  rw [zeros, ← List.eq_replicate_of_mem hzeros, trimZeros, ← List.reverse_append,
    List.takeWhile_append_dropWhile, List.reverse_reverse]

/-- A decimal without the zeros at its end, which have become part of its exponent. -/
theorem exists_trimmed_toDigits {n : ℕ} (hn : n ≠ 0) :
    ∃ j, AreDigits (trimZeros (toDigits n)) ∧ (trimZeros (toDigits n)).head? ≠ some '0' ∧
      (toDigits n).length = (trimZeros (toDigits n)).length + j ∧
      n = ofDigits (trimZeros (toDigits n)) * 10 ^ j := by
  obtain ⟨j, hj⟩ := exists_trimZeros_append (toDigits n)
  have hvalue : n = ofDigits (trimZeros (toDigits n)) * 10 ^ j := by
    rw [← ofDigits_append_zeros, ← hj, ofDigits_toDigits]
  have hne : trimZeros (toDigits n) ≠ [] := by
    intro hnil
    rw [hnil] at hvalue
    exact hn (hvalue.trans (Nat.zero_mul _))
  have hhead : (trimZeros (toDigits n)).head? ≠ some '0' := by
    have hfirst := head?_toDigits_ne_zero (Nat.pos_of_ne_zero hn)
    rwa [hj, List.head?_append_of_ne_nil _ hne] at hfirst
  refine ⟨j, ⟨hne, fun c hc => ?_⟩, hhead, ?_, hvalue⟩
  · apply isDigit_of_mem_toDigits (n := n)
    rw [hj]
    exact List.mem_append_left _ hc
  · have hlength := congrArg List.length hj
    rwa [List.length_append, zeros, List.length_replicate] at hlength

theorem Scaled.denotes_text {d : Scaled} (hd : d.digits ≠ 0) : Denotes d.text d.value := by
  obtain ⟨j, hdigits, hhead, hlength, hvalue⟩ := exists_trimmed_toDigits hd
  have hsame : d.value = ofDigits (trimZeros (toDigits d.digits)) *
      10 ^ ((toDigits d.digits).length + d.exponent -
        (trimZeros (toDigits d.digits)).length : ℤ) := by
    have hexponent : ((toDigits d.digits).length : ℤ) + d.exponent -
        (trimZeros (toDigits d.digits)).length = j + d.exponent := by
      rw [hlength]
      push_cast
      ring
    have hcast : (d.digits : ℚ) = ofDigits (trimZeros (toDigits d.digits)) * 10 ^ j := by
      exact_mod_cast hvalue
    rw [hexponent, zpow_add₀ (by norm_num), zpow_natCast, ← mul_assoc, ← hcast, value]
  rw [hsame, text]
  split_ifs with hplace
  · rcases le_or_gt ((toDigits d.digits).length + d.exponent : ℤ) 0 with hscale | hscale
    · exact denotes_positional_of_nonpos hdigits hscale
    · exact denotes_positional_of_pos hdigits hhead hscale
  · have hscientific := denotes_scientific hdigits hhead
      ((toDigits d.digits).length + d.exponent - 1)
    rwa [sub_add_cancel] at hscientific

/-! ## Doubles -/

/-- The absolute value of a double as a text. -/
theorem exists_denotes_magnitude {b : Binary} (hb : b.IsDouble) :
    ∃ value, Denotes (if b.mantissa = 0 then ['0', '.', '0'] else (shortest b).text) value ∧
      b.IsNearest value := by
  by_cases hzero : b.mantissa = 0
  · have hvalue : b.value = 0 := by simp [Binary.value, hzero]
    have hulp := b.ulp_pos
    have hgap := b.gapBelow_pos
    have hlow : b.value - b.gapBelow / 2 < 0 := by linarith
    have hhigh : 0 < b.value + b.ulp / 2 := by linarith
    rw [if_pos hzero]
    refine ⟨_, .fraction areWhole_zero areWhole_zero.toAreDigits, ?_⟩
    have hnone : (ofDigits (['0'] ++ ['0']) : ℚ) = 0 := by norm_num [ofDigits]
    rw [hnone, zero_mul]
    exact Binary.isNearest_of_bounds hb hlow.le hhigh.le (.inr ⟨hlow, hhigh⟩)
  · obtain ⟨hne, hnearest⟩ := isNearest_shortest hb hzero
    rw [if_neg hzero]
    exact ⟨_, Scaled.denotes_text hne, hnearest⟩

/-- The text of a finite double tells the double. -/
theorem tells_floatText {x : Float} (hfinite : x.isFinite = true) :
    Tells (floatText x).toList x := by
  have hof := isOf_ofFloat hfinite
  obtain ⟨value, hdenotes, hnearest⟩ := exists_denotes_magnitude (isDouble_ofFloat x)
  rw [floatText, String.toList_ofList]
  by_cases hsign : x.toBits.toNat / 0x8000000000000000 = 1
  · rw [if_pos hsign] at hof ⊢
    exact .negative hof hdenotes hnearest
  · rw [if_neg hsign] at hof ⊢
    exact .positive hof hdenotes hnearest

end JsonExtract.Decimal
