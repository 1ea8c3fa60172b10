import Mathlib.Data.List.Forall2
import JsonExtract.Proofs.Sum

/-!
# What counts in a sum

The numbers and the numeric strings of an array are the terms of its sum, in their order, and
nothing else counts.  As long as 64 bits hold every term and every partial sum, the sum is their
exact total; otherwise all terms are added up again as doubles, and there is no sum if that
leaves the finite doubles.
-/

namespace JsonExtract

/-- Whether a document is a number or a string that is read as one. -/
def Json.isNumeric : Json → Bool
  | .number _ => true
  | .string s => (Number.ofNumeral? s).isSome
  | _ => false

namespace Transform

/-! ## Terms -/

inductive CountsAs : Json → Number → Prop where
  | number (n : Number) : CountsAs (.number n) n
  | numeral {s : String} {n : Number} (hread : Number.ofNumeral? s = some n) :
      CountsAs (.string s) n

theorem term?_eq_some_iff {item : Json} {n : Number} : term? item = some n ↔ CountsAs item n := by
  constructor
  · intro hterm
    cases item with
    | number m =>
        obtain rfl : m = n := Option.some.inj hterm
        exact .number m
    | string s => exact .numeral hterm
    | _ => contradiction
  · intro hcounts
    cases hcounts with
    | number => rfl
    | numeral hread => exact hread

theorem isSome_term? (item : Json) : (term? item).isSome = item.isNumeric := by
  cases item <;> rfl

theorem filterMap_term?_filter (items : List Json) :
    (items.filter Json.isNumeric).filterMap term? = items.filterMap term? := by
  induction items with
  | nil => rfl
  | cons item rest ih =>
      have hnumeric := isSome_term? item
      cases hterm : term? item with
      | none =>
          rw [hterm] at hnumeric
          rw [List.filter_cons_of_neg (by simp [← hnumeric]), List.filterMap_cons_none hterm, ih]
      | some n =>
          rw [hterm] at hnumeric
          rw [List.filter_cons_of_pos (by simp [← hnumeric]), List.filterMap_cons_some hterm,
            List.filterMap_cons_some hterm, ih]

theorem forall₂_countsAs {items : List Json} (hitems : ∀ item ∈ items, item.isNumeric = true) :
    List.Forall₂ CountsAs items (items.filterMap term?) := by
  induction items with
  | nil => exact .nil
  | cons item rest ih =>
      rw [List.forall_mem_cons] at hitems
      have hsome := (isSome_term? item).trans hitems.1
      obtain ⟨n, hterm⟩ := Option.isSome_iff_exists.mp hsome
      rw [List.filterMap_cons_some hterm]
      exact .cons (term?_eq_some_iff.mp hterm) (ih hitems.2)

theorem filterMap_term?_eq_nil {items : List Json}
    (hitems : ∀ item ∈ items, item.isNumeric = false) : items.filterMap term? = [] := by
  rw [List.filterMap_eq_nil_iff]
  intro item hitem
  have hnone := (isSome_term? item).trans (hitems item hitem)
  simpa using hnone

/-! ## Exact totals -/

inductive Fits : Number → Int → Prop where
  | whole {n : WholeNumber} (hsigned : Signed n.val) : Fits (.whole n) n.val

/-- Whether 64 bits hold every term and every partial sum from left to right, and the terms add
up to this total. -/
def AddsUpTo (terms : List Number) (total : Int) : Prop :=
  ∃ values, List.Forall₂ Fits terms values ∧ (∀ front, front <+: values → Signed front.sum) ∧
    total = values.sum

theorem signed?_eq_some_iff {term : Number} {value : Int} :
    term.signed? = some value ↔ Fits term value := by
  cases term with
  | whole n =>
      rw [Number.signed?_whole_eq_some_iff]
      constructor
      · rintro ⟨rfl, hsigned⟩
        exact .whole hsigned
      · intro hfits
        cases hfits with
        | whole hsigned => exact ⟨rfl, hsigned⟩
  | real x finite => exact ⟨nofun, nofun⟩

theorem map_signed?_eq_iff_forall₂ {terms : List Number} {values : List Int} :
    terms.map Number.signed? = values.map some ↔ List.Forall₂ Fits terms values := by
  have hmaps : terms.map Number.signed? = values.map some ↔
      List.Forall₂ (fun term value => term.signed? = some value) terms values := by
    rw [← List.forall₂_eq_eq_eq, List.forall₂_map_left_iff, List.forall₂_map_right_iff]
  simp only [hmaps, signed?_eq_some_iff]

theorem signedSum?_eq_some_iff_addsUpTo {terms : List Number} {total : Int} :
    signedSum? terms = some total ↔ AddsUpTo terms total := by
  rw [signedSum?_eq_some_iff, AddsUpTo]
  simp only [map_signed?_eq_iff_forall₂]
  apply exists_congr
  intro values
  constructor
  · rintro ⟨hfits, htotal, hfronts⟩
    exact ⟨hfits, hfronts, htotal⟩
  · rintro ⟨hfits, hfronts, htotal⟩
    exact ⟨hfits, htotal, hfronts⟩

theorem AddsUpTo.signed {terms : List Number} {total : Int} (hadds : AddsUpTo terms total) :
    Signed total := by
  obtain ⟨values, -, hfronts, rfl⟩ := hadds
  exact hfronts values (List.prefix_refl values)

theorem signedSum?_eq_none_iff {terms : List Number} :
    signedSum? terms = none ↔ ∀ total, ¬ AddsUpTo terms total := by
  simp only [Option.eq_none_iff_forall_ne_some, ne_eq, signedSum?_eq_some_iff_addsUpTo]

/-! ## Sums -/

theorem sumOf_of_signedSum?_eq_none {terms : List Number} (hleaves : signedSum? terms = none) :
    sumOf terms = (Number.ofFloat? (floatSum terms)).map .number := by
  rw [sumOf, hleaves]

theorem sumOf_of_signedSum?_eq_some {terms : List Number} {total : Int}
    (htotal : signedSum? terms = some total) :
    ∃ n : WholeNumber, n.val = total ∧ sumOf terms = some (.number (.whole n)) := by
  have hsigned := (signedSum?_eq_some_iff_addsUpTo.mp htotal).signed
  have hupper : total < 0x10000000000000000 := by
    have := hsigned.2
    omega
  exact ⟨⟨total, hsigned.1, hupper⟩, rfl, sumOf_eq_some_whole_iff.mpr htotal⟩

theorem sumsTo_iff_addsUpTo {items : List Json} {total : Int} :
    SumsTo items total ↔ AddsUpTo (items.filterMap term?) total := by
  rw [← signedSum?_eq_some_iff_addsUpTo]
  constructor
  · rintro ⟨n, rfl, hsum⟩
    exact sumOf_eq_some_whole_iff.mp hsum
  · exact sumOf_of_signedSum?_eq_some

theorem sumOf_eq_some_real_iff {terms : List Number} {x : Float} {finite : x.isFinite = true} :
    sumOf terms = some (.number (.real x finite)) ↔
      (∀ total, ¬ AddsUpTo terms total) ∧ x = floatSum terms := by
  rw [← signedSum?_eq_none_iff]
  cases htotal : signedSum? terms with
  | none => simp [sumOf_of_signedSum?_eq_none htotal, Number.ofFloat?_eq_some_real_iff]
  | some total =>
      obtain ⟨n, -, hsum⟩ := sumOf_of_signedSum?_eq_some htotal
      simp [hsum]

theorem sumOf_eq_none_iff {terms : List Number} :
    sumOf terms = none ↔
      (∀ total, ¬ AddsUpTo terms total) ∧ (floatSum terms).isFinite = false := by
  rw [← signedSum?_eq_none_iff]
  cases htotal : signedSum? terms with
  | none => simp [sumOf_of_signedSum?_eq_none htotal, Number.ofFloat?_eq_none_iff]
  | some total =>
      obtain ⟨n, -, hsum⟩ := sumOf_of_signedSum?_eq_some htotal
      simp [hsum]

theorem apply_sum_array (items : List Json) :
    Builtin.sum.apply (some (.array items)) = sumOf (items.filterMap term?) := rfl

theorem apply_sum_eq_none {found : Option Json} (hfound : found.bind Json.items? = none) :
    Builtin.sum.apply found = none := by
  cases found with
  | none => rfl
  | some value =>
      cases value with
      | array items => contradiction
      | _ => rfl

/-- The sum of an array is that of its numbers and numeric strings, the terms.  It is an integer
number exactly when 64 bits hold every term and every partial sum, and then the exact total, zero
for no terms.  Otherwise it is the sum of the terms as doubles from left to right, and there is
none exactly when that is not finite.  Nothing but an array has a sum. -/
theorem sum_of_terms :
    (∀ items : List Json, ∃ terms, List.Forall₂ CountsAs (items.filter Json.isNumeric) terms ∧
      Builtin.sum.apply (some (.array items)) =
        Builtin.sum.apply (some (.array (items.filter Json.isNumeric))) ∧
      (∀ total, SumsTo items total ↔ AddsUpTo terms total) ∧
      (∀ x finite, Builtin.sum.apply (some (.array items)) = some (.number (.real x finite)) ↔
        (∀ total, ¬ AddsUpTo terms total) ∧
          x = (terms.map Number.toFloat).foldl (· + ·) (-0.0)) ∧
      (Builtin.sum.apply (some (.array items)) = none ↔
        (∀ total, ¬ AddsUpTo terms total) ∧
          ((terms.map Number.toFloat).foldl (· + ·) (-0.0)).isFinite = false)) ∧
    (∀ items : List Json, (∀ item ∈ items, item.isNumeric = false) → SumsTo items 0) ∧
    ∀ found : Option Json, found.bind Json.items? = none → Builtin.sum.apply found = none := by
  refine ⟨?_, ?_, fun found => apply_sum_eq_none⟩
  · intro items
    have hnumeric : ∀ item ∈ items.filter Json.isNumeric, item.isNumeric = true :=
      fun item hitem => (List.mem_filter.mp hitem).2
    have hcounts := forall₂_countsAs hnumeric
    rw [filterMap_term?_filter] at hcounts
    have hsame : Builtin.sum.apply (some (.array items)) =
        Builtin.sum.apply (some (.array (items.filter Json.isNumeric))) := by
      rw [apply_sum_array, apply_sum_array, filterMap_term?_filter]
    refine ⟨_, hcounts, hsame, fun total => sumsTo_iff_addsUpTo, ?_, ?_⟩
    · intro x finite
      rw [List.foldl_map]
      exact sumOf_eq_some_real_iff
    · rw [List.foldl_map]
      exact sumOf_eq_none_iff
  · intro items hitems
    rw [sumsTo_iff_addsUpTo, filterMap_term?_eq_nil hitems]
    refine ⟨[], .nil, ?_, rfl⟩
    intro front hfront
    rw [List.prefix_nil.mp hfront]
    decide

theorem neg_one_lower : -0x8000000000000000 ≤ (-1 : Int) := by decide

theorem neg_one_upper : (-1 : Int) < 0x10000000000000000 := by decide

def ledger : List Json :=
  [.string "x", .number (.whole ⟨18446744073709551615, by decide, by decide⟩), .null,
    .string "0.5", .number (.whole ⟨-1, neg_one_lower, neg_one_upper⟩), .array []]

theorem sum_of_terms_ledger :
    (∃ terms, List.Forall₂ CountsAs (ledger.filter Json.isNumeric) terms ∧
      (∀ total, ¬ AddsUpTo terms total) ∧
      ∃ finite, Builtin.sum.apply (some (.array ledger)) =
        some (.number (.real 18446744073709551616 finite))) ∧
    (∀ item ∈ ledger.filter (!·.isNumeric), item.isNumeric = false) ∧
    SumsTo (ledger.filter (!·.isNumeric)) 0 ∧
    (some (Json.string "0.5")).bind Json.items? = none ∧
    Builtin.sum.apply (some (.string "0.5")) = none := by
  obtain ⟨harrays, hzero, hothers⟩ := sum_of_terms
  obtain ⟨terms, hcounts, -, -, hfloat, -⟩ := harrays ledger
  have hfinite : Float.isFinite 18446744073709551616 = true := by decide +kernel
  have hleaves : signedSum? (ledger.filterMap term?) = none := by decide +kernel
  have hrounded : 18446744073709551616 = floatSum (ledger.filterMap term?) := by decide +kernel
  have hsum : Builtin.sum.apply (some (.array ledger)) =
      some (.number (.real 18446744073709551616 hfinite)) := by
    rw [apply_sum_array]
    exact sumOf_eq_some_real_iff.mpr ⟨signedSum?_eq_none_iff.mp hleaves, hrounded⟩
  have hjunk : ∀ item ∈ ledger.filter (!·.isNumeric), item.isNumeric = false := by
    intro item hitem
    simpa using (List.mem_filter.mp hitem).2
  exact ⟨⟨terms, hcounts, ((hfloat _ hfinite).mp hsum).1, hfinite, hsum⟩, hjunk, hzero _ hjunk,
    rfl, hothers _ rfl⟩

end Transform

end JsonExtract
