import Mathlib.Data.List.Induction
import JsonExtract.Decimal.Notation

/-!
# Decimal digits of numbers

The digits of a number are decimal digits that read back as the number, and the first of
several is no zero.  Conversely, digits that are read as a number are the digits of that number
but for zeros in front.
-/

namespace JsonExtract.Decimal

theorem toDigits_ne_nil (n : Nat) : toDigits n ≠ [] :=
  Nat.toDigits_ne_nil

theorem isDigit_of_mem_toDigits {n : Nat} {c : Char} (hc : c ∈ toDigits n) : c.isDigit = true :=
  Nat.isDigit_of_mem_toDigits (by decide) (by decide) hc

@[simp] theorem ofDigits_toDigits (n : Nat) : ofDigits (toDigits n) = n :=
  Nat.ofDigitChars_ten_toDigits

theorem toList_toString (n : Nat) : (toString n).toList = toDigits n :=
  Nat.toList_repr

theorem toString_injective : Function.Injective (toString : Nat → String) := by
  intro m n hsame
  have hdigits := congrArg String.toList hsame
  rw [toList_toString, toList_toString] at hdigits
  have hvalues := congrArg ofDigits hdigits
  rwa [ofDigits_toDigits, ofDigits_toDigits] at hvalues

theorem toDigits_of_ten_le {n : Nat} (hn : 10 ≤ n) :
    toDigits n = toDigits (n / 10) ++ [Nat.digitChar (n % 10)] :=
  Nat.toDigits_of_base_le (by decide) hn

theorem head?_toDigits_ne_zero {n : Nat} (hn : 0 < n) : (toDigits n).head? ≠ some '0' := by
  induction n using Nat.strongRecOn with
  | _ n ih =>
      by_cases hsmall : n < 10
      · rw [toDigits, Nat.toDigits_of_lt_base hsmall, List.head?_cons]
        intro hzero
        have := Nat.digitChar_eq_zero.mp (Option.some.inj hzero)
        omega
      · have hsome : (toDigits (n / 10)).head?.isSome :=
          List.isSome_head?.mpr (toDigits_ne_nil _)
        rw [toDigits_of_ten_le (by omega), List.head?_append, Option.or_of_isSome hsome]
        exact ih (n / 10) (by omega) (by omega)

/-- A number is written as zero alone, or without a zero in front. -/
theorem toDigits_cases (n : Nat) :
    toDigits n = ['0'] ∨ ∃ first rest, toDigits n = first :: rest ∧ first ≠ '0' := by
  obtain rfl | hn := Nat.eq_zero_or_pos n
  · exact .inl rfl
  · obtain ⟨first, rest, hdigits⟩ := List.exists_cons_of_ne_nil (toDigits_ne_nil n)
    have hhead := head?_toDigits_ne_zero hn
    rw [hdigits, List.head?_cons] at hhead
    exact .inr ⟨first, rest, hdigits, fun hzero => hhead (congrArg some hzero)⟩

/-! ## Digits read as a number -/

theorem toNat_sub_lt_ten {c : Char} (hc : c.isDigit = true) : c.toNat - '0'.toNat < 10 := by
  have hhigh : c.toNat ≤ 57 := (Char.isDigit_iff_toNat.mp hc).2
  have hzero : '0'.toNat = 48 := rfl
  omega

theorem digitChar_toNat_sub {c : Char} (hc : c.isDigit = true) :
    Nat.digitChar (c.toNat - '0'.toNat) = c := by
  have hlow : '0'.toNat ≤ c.toNat := (Char.isDigit_iff_toNat.mp hc).1
  have hzero : '0'.toNat = 48 := rfl
  rw [← Char.toNat_inj, Nat.toNat_digitChar_of_lt_ten (toNat_sub_lt_ten hc)]
  omega

theorem ofDigits_append_singleton (digits : List Char) (c : Char) :
    ofDigits (digits ++ [c]) = 10 * ofDigits digits + (c.toNat - '0'.toNat) := by
  rw [ofDigits, List.foldl_append]
  rfl

theorem toDigits_ofDigits {digits : List Char} (hne : digits ≠ [])
    (hdigits : ∀ c ∈ digits, c.isDigit = true) (hhead : digits.head? ≠ some '0') :
    toDigits (ofDigits digits) = digits := by
  induction digits using List.reverseRecOn with
  | nil => contradiction
  | append_singleton front last ih =>
      have hlast : last.isDigit = true := hdigits last (by simp)
      have hchar := digitChar_toNat_sub hlast
      have hsmall := toNat_sub_lt_ten hlast
      by_cases hfront : front = []
      · subst front
        have hvalue : ofDigits ([] ++ [last]) = last.toNat - '0'.toNat := by
          rw [ofDigits_append_singleton]
          exact Nat.zero_add _
        rw [hvalue, toDigits, Nat.toDigits_of_lt_base hsmall, hchar, List.nil_append]
      · -- The digits in front are not zero altogether, so the last one is the remainder by ten.
        have hhead' : front.head? ≠ some '0' := by
          rwa [List.head?_append, Option.or_of_isSome (List.isSome_head?.mpr hfront)] at hhead
        have hread := ih hfront (fun c hc => hdigits c (List.mem_append_left _ hc)) hhead'
        have hpos : 0 < ofDigits front := by
          rw [Nat.pos_iff_ne_zero]
          intro hzero
          rw [hzero] at hread
          exact hhead' (by rw [← hread]; rfl)
        rw [ofDigits_append_singleton, toDigits_of_ten_le (by omega), Nat.mul_add_div (by omega),
          Nat.div_eq_of_lt hsmall, Nat.add_zero, hread, Nat.mul_add_mod, Nat.mod_eq_of_lt hsmall,
          hchar]

/-- The digits without the zeros in front of them, one digit being kept. -/
def withoutLeadingZeros (digits : List Char) : List Char :=
  match digits.dropWhile (· = '0') with
  | [] => ['0']
  | significant => significant

theorem withoutLeadingZeros_eq_self {first : Char} {rest : List Char}
    (hcanonical : rest = [] ∨ first ≠ '0') :
    withoutLeadingZeros (first :: rest) = first :: rest := by
  unfold withoutLeadingZeros
  by_cases hfirst : first = '0'
  · obtain rfl : rest = [] := hcanonical.resolve_right (not_not_intro hfirst)
    rw [hfirst]
    rfl
  · rw [List.dropWhile_cons_of_neg (by simp [hfirst])]

theorem ofDigits_dropWhile_zero (digits : List Char) :
    ofDigits (digits.dropWhile (· = '0')) = ofDigits digits := by
  induction digits with
  | nil => rfl
  | cons c rest ih =>
      by_cases hc : c = '0'
      · subst c
        rw [List.dropWhile_cons_of_pos (by decide), ih]
        rfl
      · rw [List.dropWhile_cons_of_neg (by simp [hc])]

/-- Digits read as a number and written again lose the zeros in front. -/
theorem toDigits_ofDigits_eq {digits : List Char} (hdigits : ∀ c ∈ digits, c.isDigit = true) :
    toDigits (ofDigits digits) = withoutLeadingZeros digits := by
  rw [← ofDigits_dropWhile_zero]
  unfold withoutLeadingZeros
  cases hsignificant : digits.dropWhile (· = '0') with
  | nil => rfl
  | cons first rest =>
      apply toDigits_ofDigits (List.cons_ne_nil _ _)
      · intro c hc
        rw [← hsignificant] at hc
        exact hdigits c ((List.dropWhile_sublist _).subset hc)
      · have hnot := List.head?_dropWhile_not (· = '0') digits
        rw [hsignificant, List.head?_cons] at hnot
        simpa using hnot

end JsonExtract.Decimal
