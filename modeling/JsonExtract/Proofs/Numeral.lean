import Mathlib.Data.List.TakeWhile
import JsonExtract.Coercion
import JsonExtract.Proofs.Decimal.Digits
import JsonExtract.Proofs.Json.Number
import JsonExtract.Proofs.Text.Runs
import JsonExtract.Transform

/-!
# Numeric strings and their numbers

A numeral is an optional minus, digits, and perhaps a point with digits behind it, with nothing in
front and nothing behind.  Without a fraction and in the range of exact numbers it stands for its
integer, and otherwise for the double that its text is read as, if that is finite.  The text of
an integer is a numeral that stands for the integer.
-/

namespace JsonExtract

namespace Numeral

/-! ## Texts of numerals -/

structure WellFormed (numeral : Numeral) : Prop where
  whole_ne_nil : numeral.whole ≠ []
  isDigit_whole : ∀ c ∈ numeral.whole, c.isDigit = true
  fraction_ne_nil : numeral.fraction ≠ some []
  isDigit_fraction : ∀ digits, numeral.fraction = some digits → ∀ c ∈ digits, c.isDigit = true

def fractionText (numeral : Numeral) : List Char :=
  match numeral.fraction with
  | none => []
  | some digits => '.' :: digits

def text (numeral : Numeral) : List Char :=
  (if numeral.negative then ['-'] else []) ++ (numeral.whole ++ numeral.fractionText)

/-- The integer that the digits in front of the point and the sign make. -/
def wholeValue (numeral : Numeral) : Int :=
  if numeral.negative then -(Decimal.ofDigits numeral.whole : Int)
  else Decimal.ofDigits numeral.whole

theorem head?_fractionText (numeral : Numeral) :
    ∀ c ∈ numeral.fractionText.head?, c.isDigit = false := by
  unfold fractionText
  cases numeral.fraction <;> simp

theorem WellFormed.takeWhile_isDigit {numeral : Numeral} (hform : numeral.WellFormed) :
    (numeral.whole ++ numeral.fractionText).takeWhile Char.isDigit = numeral.whole :=
  Text.takeWhile_run_append hform.isDigit_whole numeral.head?_fractionText

theorem WellFormed.dropWhile_isDigit {numeral : Numeral} (hform : numeral.WellFormed) :
    (numeral.whole ++ numeral.fractionText).dropWhile Char.isDigit = numeral.fractionText :=
  Text.dropWhile_run_append hform.isDigit_whole numeral.head?_fractionText

theorem ofDigits?_eq_some_iff {negative : Bool} {text : List Char} {numeral : Numeral} :
    ofDigits? negative text = some numeral ↔
      numeral.negative = negative ∧ numeral.WellFormed ∧
        text = numeral.whole ++ numeral.fractionText := by
  constructor
  · intro hread
    have hsplit := (List.takeWhile_append_dropWhile (p := Char.isDigit) (l := text)).symm
    have hwhole : ∀ c ∈ text.takeWhile Char.isDigit, c.isDigit = true :=
      fun c hc => Text.mem_takeWhile hc
    unfold ofDigits? at hread
    dsimp only at hread
    split at hread
    · contradiction
    · rename_i hne
      rw [List.isEmpty_iff] at hne
      split at hread
      · rename_i hrest
        cases hread
        rw [hrest] at hsplit
        exact ⟨rfl, ⟨hne, hwhole, nofun, nofun⟩, hsplit⟩
      · rename_i fraction hrest
        split at hread
        · rename_i hfraction
          cases hread
          rw [hrest] at hsplit
          simp only [Bool.and_eq_true, Bool.not_eq_true', List.isEmpty_eq_false_iff,
            List.all_eq_true] at hfraction
          refine ⟨rfl, ⟨hne, hwhole, by simpa using hfraction.1, ?_⟩, hsplit⟩
          intro digits hdigits
          obtain rfl : fraction = digits := Option.some.inj hdigits
          exact hfraction.2
        · contradiction
      · contradiction
  · rintro ⟨rfl, hform, rfl⟩
    unfold ofDigits?
    dsimp only
    rw [hform.takeWhile_isDigit, hform.dropWhile_isDigit,
      if_neg (by simpa using hform.whole_ne_nil)]
    obtain ⟨negative, whole, fraction⟩ := numeral
    cases fraction with
    | none => rfl
    | some digits =>
        have hdigits := hform.isDigit_fraction digits rfl
        have hne : digits ≠ [] := by simpa using hform.fraction_ne_nil
        simp only [fractionText]
        rw [if_pos (by simpa [hne] using hdigits)]

theorem WellFormed.exists_text_eq_cons {numeral : Numeral} (hform : numeral.WellFormed) :
    ∃ first rest, numeral.whole ++ numeral.fractionText = first :: rest ∧
      first.isDigit = true := by
  obtain ⟨first, rest, hwhole⟩ := List.exists_cons_of_ne_nil hform.whole_ne_nil
  refine ⟨first, rest ++ numeral.fractionText, by rw [hwhole, List.cons_append], ?_⟩
  exact hform.isDigit_whole first (by rw [hwhole]; exact List.mem_cons_self)

theorem ofText?_of_ne_minus {text : List Char} (htext : text.head? ≠ some '-') :
    ofText? text = ofDigits? false text := by
  unfold ofText?
  split
  · exact absurd rfl htext
  · rfl

/-- A numeral is read off its own text and off no other. -/
theorem ofText?_eq_some_iff {text : List Char} {numeral : Numeral} :
    ofText? text = some numeral ↔ numeral.WellFormed ∧ text = numeral.text := by
  unfold Numeral.text
  constructor
  · intro hread
    unfold ofText? at hread
    split at hread
    · obtain ⟨hnegative, hform, rfl⟩ := ofDigits?_eq_some_iff.mp hread
      simp [hnegative, hform]
    · obtain ⟨hnegative, hform, rfl⟩ := ofDigits?_eq_some_iff.mp hread
      simp [hnegative, hform]
  · rintro ⟨hform, rfl⟩
    cases hnegative : numeral.negative with
    | true => exact ofDigits?_eq_some_iff.mpr ⟨hnegative, hform, rfl⟩
    | false =>
        obtain ⟨first, rest, hcons, hfirst⟩ := hform.exists_text_eq_cons
        have hminus : (numeral.whole ++ numeral.fractionText).head? ≠ some '-' := by
          rw [hcons, List.head?_cons]
          rintro ⟨⟩
          contradiction
        simp only [Bool.false_eq_true, if_false, List.nil_append]
        rw [ofText?_of_ne_minus hminus]
        exact ofDigits?_eq_some_iff.mpr ⟨hnegative, hform, rfl⟩

/-! ## Values of numerals -/

theorem takeSign_text {numeral : Numeral} (hform : numeral.WellFormed) :
    Decimal.takeSign numeral.text =
      (numeral.negative, numeral.whole ++ numeral.fractionText) := by
  unfold Numeral.text
  cases numeral.negative with
  | true => rfl
  | false =>
      obtain ⟨first, rest, hcons, hfirst⟩ := hform.exists_text_eq_cons
      simp only [Bool.false_eq_true, if_false, List.nil_append, hcons]
      unfold Decimal.takeSign
      split
      · rename_i heq
        cases heq
        contradiction
      · rename_i heq
        cases heq
        contradiction
      · rfl

/-- The double of a numeral is the one that its text is read as. -/
theorem float?_text {numeral : Numeral} (hform : numeral.WellFormed) :
    Decimal.float? numeral.text = some numeral.float := by
  have hwhole : numeral.whole.isEmpty = false := List.isEmpty_eq_false_iff.mpr hform.whole_ne_nil
  unfold Decimal.float? float
  simp only [takeSign_text hform, hform.takeWhile_isDigit, hform.dropWhile_isDigit]
  cases hfraction : numeral.fraction with
  | none => simp [fractionText, hfraction, hwhole, Decimal.exponent?]
  | some digits =>
      have hdigits := hform.isDigit_fraction digits hfraction
      have htake : digits.takeWhile Char.isDigit = digits := List.takeWhile_eq_self_iff.mpr hdigits
      have hdrop : digits.dropWhile Char.isDigit = [] := List.dropWhile_eq_nil_iff.mpr hdigits
      simp [fractionText, hfraction, hwhole, htake, hdrop, Decimal.exponent?]

/-- Whether a numeral is an integer in the range of exact numbers. -/
def IsExact (numeral : Numeral) : Prop :=
  numeral.fraction = none ∧ -0x8000000000000000 ≤ numeral.wholeValue ∧
    numeral.wholeValue < 0x10000000000000000

theorem integer?_of_fraction_eq_none {numeral : Numeral} (hnone : numeral.fraction = none) :
    numeral.integer? = some numeral.wholeValue := by
  rw [integer?, hnone]
  rfl

theorem integer?_of_fraction_ne_none {numeral : Numeral} (hsome : numeral.fraction ≠ none) :
    numeral.integer? = none := by
  obtain ⟨digits, hfraction⟩ := Option.ne_none_iff_exists'.mp hsome
  rw [integer?, hfraction]

theorem number?_of_val_eq {numeral : Numeral} {n : WholeNumber}
    (hfraction : numeral.fraction = none) (hvalue : n.val = numeral.wholeValue) :
    numeral.number? = some (.whole n) := by
  have hexact : Number.ofInt? numeral.wholeValue = some (.whole n) :=
    Number.ofInt?_eq_some_whole_iff.mpr hvalue
  rw [number?, integer?_of_fraction_eq_none hfraction, Option.bind_some, hexact, Option.some_or]

theorem number?_of_not_isExact {numeral : Numeral} (hinexact : ¬ numeral.IsExact) :
    numeral.number? = Number.ofFloat? numeral.float := by
  have hnone : numeral.integer?.bind Number.ofInt? = none := by
    by_cases hfraction : numeral.fraction = none
    · rw [integer?_of_fraction_eq_none hfraction, Option.bind_some, Number.ofInt?_eq_none_iff]
      exact fun hrange => hinexact ⟨hfraction, hrange⟩
    · rw [integer?_of_fraction_ne_none hfraction, Option.bind_none]
  rw [number?, hnone, Option.none_or]

/-! ## What a text is read as -/

/-- The number that a text stands for, if it stands for one. -/
inductive Reads : List Char → Option Number → Prop where
  | exact {numeral : Numeral} {n : WholeNumber} (hform : numeral.WellFormed)
      (hfraction : numeral.fraction = none) (hvalue : n.val = numeral.wholeValue) :
      Reads numeral.text (some (.whole n))
  | rounded {numeral : Numeral} {x : Float} (hform : numeral.WellFormed)
      (hinexact : ¬ numeral.IsExact) (hread : Decimal.float? numeral.text = some x)
      (finite : x.isFinite = true) :
      Reads numeral.text (some (.real x finite))
  | infinite {numeral : Numeral} {x : Float} (hform : numeral.WellFormed)
      (hinexact : ¬ numeral.IsExact) (hread : Decimal.float? numeral.text = some x)
      (hinfinite : x.isFinite = false) :
      Reads numeral.text none
  | other {text : List Char}
      (hother : ∀ numeral : Numeral, numeral.WellFormed → text ≠ numeral.text) :
      Reads text none

theorem ofText?_text {numeral : Numeral} (hform : numeral.WellFormed) :
    ofText? numeral.text = some numeral :=
  ofText?_eq_some_iff.mpr ⟨hform, rfl⟩

theorem reads_number? (text : List Char) : Reads text ((ofText? text).bind number?) := by
  cases hread : ofText? text with
  | none =>
      refine .other fun numeral hform htext => ?_
      rw [htext, ofText?_text hform] at hread
      contradiction
  | some numeral =>
      obtain ⟨hform, rfl⟩ := ofText?_eq_some_iff.mp hread
      rw [Option.bind_some]
      by_cases hexact : numeral.IsExact
      · obtain ⟨hfraction, hlower, hupper⟩ := hexact
        rw [number?_of_val_eq (n := ⟨numeral.wholeValue, hlower, hupper⟩) hfraction rfl]
        exact .exact hform hfraction rfl
      · rw [number?_of_not_isExact hexact]
        cases hnumber : Number.ofFloat? numeral.float with
        | none =>
            have hinfinite := Number.ofFloat?_eq_none_iff.mp hnumber
            exact .infinite hform hexact (float?_text hform) hinfinite
        | some n =>
            cases n with
            | whole n => exact absurd hnumber (Number.ofFloat?_ne_some_whole _ n)
            | real x finite =>
                obtain rfl := Number.ofFloat?_eq_some_real_iff.mp hnumber
                exact .rounded hform hexact (float?_text hform) finite

theorem Reads.eq_number? {text : List Char} {result : Option Number}
    (hreads : Reads text result) : (ofText? text).bind number? = result := by
  cases hreads with
  | exact hform hfraction hvalue =>
      rw [ofText?_text hform, Option.bind_some, number?_of_val_eq hfraction hvalue]
  | rounded hform hinexact hread finite =>
      rw [float?_text hform] at hread
      cases hread
      rw [ofText?_text hform, Option.bind_some, number?_of_not_isExact hinexact,
        Number.ofFloat?_eq_some_real_iff]
  | infinite hform hinexact hread hinfinite =>
      rw [float?_text hform] at hread
      cases hread
      rw [ofText?_text hform, Option.bind_some, number?_of_not_isExact hinexact,
        Number.ofFloat?_eq_none_iff.mpr hinfinite]
  | other hother =>
      cases hread : ofText? text with
      | none => rfl
      | some numeral =>
          obtain ⟨hform, htext⟩ := ofText?_eq_some_iff.mp hread
          exact absurd htext (hother numeral hform)

/-! ## Texts of integers -/

def ofInt (z : Int) : Numeral :=
  ⟨decide (z < 0), Decimal.toDigits z.natAbs, none⟩

theorem wellFormed_ofInt (z : Int) : (ofInt z).WellFormed where
  whole_ne_nil := Decimal.toDigits_ne_nil _
  isDigit_whole _ hc := Decimal.isDigit_of_mem_toDigits hc
  fraction_ne_nil := nofun
  isDigit_fraction := nofun

theorem wholeValue_ofInt (z : Int) : (ofInt z).wholeValue = z := by
  simp only [wholeValue, ofInt, Decimal.ofDigits_toDigits, decide_eq_true_eq]
  split <;> omega

theorem text_ofInt (z : Int) : (ofInt z).text = (toString z).toList := by
  cases z with
  | ofNat n =>
      have hrepr : toString (Int.ofNat n) = toString n := rfl
      have hnonneg : ¬ ((n : Int) < 0) := by omega
      rw [hrepr, Decimal.toList_toString]
      simp [Numeral.text, ofInt, fractionText, hnonneg]
  | negSucc n =>
      have hrepr : toString (Int.negSucc n) = "-" ++ toString (n + 1) := rfl
      have hneg : Int.negSucc n < 0 := Int.negSucc_lt_zero n
      rw [hrepr, String.toList_append, Decimal.toList_toString]
      simp [Numeral.text, ofInt, fractionText, hneg]

end Numeral

namespace Number

theorem ofNumeral?_eq_iff_reads {s : String} {result : Option Number} :
    ofNumeral? s = result ↔ Numeral.Reads s.toList result := by
  constructor
  · rintro rfl
    exact Numeral.reads_number? s.toList
  · exact Numeral.Reads.eq_number?

theorem signed?_whole_eq_some_val_iff {n : WholeNumber} :
    (whole n).signed? = some n.val ↔ n.val < 0x8000000000000000 := by
  rw [signed?]
  split <;> simp [*]

theorem ofNumeral?_text_whole (n : WholeNumber) :
    ofNumeral? (whole n).text = some (.whole n) := by
  have hreads := Numeral.Reads.exact (n := n) (Numeral.wellFormed_ofInt n.val) rfl
    (Numeral.wholeValue_ofInt n.val).symm
  rw [Numeral.text_ofInt] at hreads
  exact ofNumeral?_eq_iff_reads.mpr hreads

theorem coerce_apply_string_whole (n : WholeNumber) :
    (Transform.Builtin.string.apply (some (.number (.whole n)))).map Json.coerce =
      some (.number (.whole n)) := by
  have htext : (Json.number (.whole n)).compact = (Number.whole n).text := String.ofList_toList
  simp only [Transform.Builtin.apply, Option.bind_some, Transform.Builtin.onValue, htext,
    Option.map_some, Json.coerce, ofNumeral?_text_whole, Option.getD_some]

/-- A string is read as a number exactly when it is a numeral, and then as the integer that the
numeral stands for or, where it has a fraction or is out of range, as its double, if that is
finite.  An integer so read fits in 64 bits with a sign exactly when it is less than 2⁶³.  The text
of an integer is read as the integer, and so coercion takes the text that a transform makes of an
integer back to the integer. -/
theorem ofNumeral?_exact :
    (∀ s result, ofNumeral? s = result ↔ Numeral.Reads s.toList result) ∧
    (∀ n : WholeNumber, (whole n).signed? = some n.val ↔ n.val < 0x8000000000000000) ∧
    ∀ n : WholeNumber, ofNumeral? (whole n).text = some (.whole n) ∧
      (Transform.Builtin.string.apply (some (.number (.whole n)))).map Json.coerce =
        some (.number (.whole n)) :=
  ⟨fun _ _ => ofNumeral?_eq_iff_reads, fun _ => signed?_whole_eq_some_val_iff,
    fun n => ⟨ofNumeral?_text_whole n, coerce_apply_string_whole n⟩⟩

end Number

end JsonExtract
