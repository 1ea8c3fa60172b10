import Mathlib.Algebra.BigOperators.Group.List.Basic
import Mathlib.Algebra.Ring.Int.Defs
import Mathlib.Data.List.Infix
import JsonExtract.Proofs.Json.Number
import JsonExtract.Transform

/-!
# Sums of integers

A sum of integers is exact as long as 64 bits hold every term and every partial sum from left to
right; otherwise doubles are added up.  So the order of the terms matters: terms that go up and
come down again may leave the range on the way.  All orders give the exact sum when the terms
above zero and the terms below zero, each by themselves, stay in the range, and only then.
-/

namespace JsonExtract

def Signed (z : Int) : Prop :=
  -0x8000000000000000 ≤ z ∧ z < 0x8000000000000000

instance : DecidablePred Signed :=
  fun _ => inferInstanceAs (Decidable (_ ∧ _))

namespace Number

def integer? : Number → Option Int
  | .whole n => some n.val
  | .real _ _ => none

theorem signed?_whole_eq_some_iff {n : WholeNumber} {value : Int} :
    (Number.whole n).signed? = some value ↔ value = n.val ∧ Signed n.val := by
  have hlower := n.lower
  rw [signed?]
  split
  · rename_i hupper
    exact ⟨fun h => ⟨(Option.some.inj h).symm, hlower, hupper⟩, fun h => congrArg some h.1.symm⟩
  · rename_i hupper
    exact ⟨fun h => absurd h (Option.some_ne_none _).symm, fun h => absurd h.2.2 hupper⟩

end Number

namespace Transform

/-! ## Terms added up from left to right -/

def addSigned? (total : Int) (term : Number) : Option Int := do
  let next := total + (← term.signed?)
  if -0x8000000000000000 ≤ next ∧ next < 0x8000000000000000 then some next else none

theorem signedSum?_eq_foldlM (terms : List Number) :
    signedSum? terms = terms.foldlM addSigned? 0 := rfl

theorem addSigned?_eq_some_iff {total next : Int} {term : Number} :
    addSigned? total term = some next ↔
      ∃ value, term.signed? = some value ∧ next = total + value ∧ Signed next := by
  unfold addSigned?
  rw [Option.bind_eq_bind, Option.bind_eq_some_iff]
  apply exists_congr
  intro value
  apply and_congr_right
  intro _
  dsimp only
  constructor
  · intro hnext
    split at hnext
    · rename_i hsigned
      cases hnext
      exact ⟨rfl, hsigned⟩
    · contradiction
  · rintro ⟨rfl, hsigned⟩
    exact if_pos hsigned

theorem forall_prefix_cons_iff {start value : Int} {rest : List Int} :
    (∀ front, front <+: value :: rest → Signed (start + front.sum)) ↔
      Signed start ∧ ∀ front, front <+: rest → Signed (start + value + front.sum) := by
  constructor
  · intro hfronts
    have hstart := hfronts [] List.nil_prefix
    rw [List.sum_nil, Int.add_zero] at hstart
    refine ⟨hstart, ?_⟩
    intro front hfront
    rw [Int.add_assoc, ← List.sum_cons]
    exact hfronts (value :: front) ((List.prefix_cons_inj value).mpr hfront)
  · rintro ⟨hstart, hfronts⟩ front hfront
    rcases List.prefix_cons_iff.mp hfront with rfl | ⟨more, rfl, hmore⟩
    · rwa [List.sum_nil, Int.add_zero]
    · rw [List.sum_cons, ← Int.add_assoc]
      exact hfronts more hmore

theorem foldlM_addSigned?_eq_some_iff {terms : List Number} {start total : Int}
    (hstart : Signed start) :
    terms.foldlM addSigned? start = some total ↔
      ∃ values, terms.map Number.signed? = values.map some ∧ total = start + values.sum ∧
        ∀ front, front <+: values → Signed (start + front.sum) := by
  -- What has been added up so far is the start of the rest.
  induction terms generalizing start with
  | nil =>
      constructor
      · intro htotal
        obtain rfl : start = total := Option.some.inj htotal
        refine ⟨[], rfl, (Int.add_zero start).symm, ?_⟩
        intro front hfront
        rwa [List.prefix_nil.mp hfront, List.sum_nil, Int.add_zero]
      · rintro ⟨values, hvalues, rfl, -⟩
        obtain rfl : values = [] := List.map_eq_nil_iff.mp hvalues.symm
        rw [List.sum_nil, Int.add_zero]
        rfl
  | cons term rest ih =>
      rw [List.foldlM_cons, Option.bind_eq_bind, Option.bind_eq_some_iff]
      constructor
      · rintro ⟨next, hnext, hrest⟩
        obtain ⟨value, hvalue, rfl, hsigned⟩ := addSigned?_eq_some_iff.mp hnext
        obtain ⟨values, hvalues, rfl, hfronts⟩ := (ih hsigned).mp hrest
        refine ⟨value :: values, ?_, ?_, forall_prefix_cons_iff.mpr ⟨hstart, hfronts⟩⟩
        · rw [List.map_cons, List.map_cons, hvalue, hvalues]
        · rw [List.sum_cons, Int.add_assoc]
      · rintro ⟨values, hvalues, rfl, hfronts⟩
        obtain ⟨value, others, rfl, hvalue, hothers⟩ := List.map_eq_cons_iff.mp hvalues.symm
        obtain ⟨-, hfronts⟩ := forall_prefix_cons_iff.mp hfronts
        have hsigned : Signed (start + value) := by
          have hfront := hfronts [] List.nil_prefix
          rwa [List.sum_nil, Int.add_zero] at hfront
        refine ⟨start + value, addSigned?_eq_some_iff.mpr ⟨value, hvalue.symm, rfl, hsigned⟩, ?_⟩
        refine (ih hsigned).mpr ⟨others, hothers.symm, ?_, hfronts⟩
        rw [List.sum_cons, Int.add_assoc]

theorem signedSum?_eq_some_iff {terms : List Number} {total : Int} :
    signedSum? terms = some total ↔
      ∃ values, terms.map Number.signed? = values.map some ∧ total = values.sum ∧
        ∀ front, front <+: values → Signed front.sum := by
  have hzero : Signed 0 := by decide
  rw [signedSum?_eq_foldlM, foldlM_addSigned?_eq_some_iff hzero]
  simp only [Int.zero_add]

theorem sumOf_eq_some_whole_iff {terms : List Number} {n : WholeNumber} :
    sumOf terms = some (.number (.whole n)) ↔ signedSum? terms = some n.val := by
  unfold sumOf
  cases signedSum? terms with
  | some total =>
      simp only [Option.map_eq_some_iff, Json.number.injEq, exists_eq_right,
        Number.ofInt?_eq_some_whole_iff, Option.some.injEq]
      exact eq_comm
  | none =>
      simp only [Option.map_eq_some_iff, Json.number.injEq, exists_eq_right, reduceCtorEq,
        iff_false]
      exact Number.ofFloat?_ne_some_whole _ n

/-! ## Arrays whose terms are whole numbers -/

/-- Whether all that counts in the sum of an array is whole numbers. -/
def Integral (items : List Json) : Prop :=
  ∀ item ∈ items, ∀ term ∈ term? item, term.integer?.isSome = true

/-- The integers that count in the sum of an array. -/
def integers (items : List Json) : List Int :=
  items.filterMap fun item => (term? item).bind Number.integer?

/-- Whether the sum of an array is an integer number with this value. -/
def SumsTo (items : List Json) (total : Int) : Prop :=
  ∃ n : WholeNumber, n.val = total ∧
    Builtin.sum.apply (some (.array items)) = some (.number (.whole n))

/-- Integers that stay in the range, each by itself and added up from left to right. -/
def StaySigned (values : List Int) : Prop :=
  (∀ value ∈ values, Signed value) ∧ ∀ front, front <+: values → Signed front.sum

instance : DecidablePred StaySigned := fun values =>
  decidable_of_iff ((∀ value ∈ values, Signed value) ∧ ∀ front ∈ values.inits, Signed front.sum)
    (by simp only [List.mem_inits, StaySigned])

theorem map_signed?_eq_map_some_iff {terms : List Number}
    (hterms : ∀ term ∈ terms, term.integer?.isSome = true) {values : List Int} :
    terms.map Number.signed? = values.map some ↔
      values = terms.filterMap Number.integer? ∧ ∀ value ∈ values, Signed value := by
  induction terms generalizing values with
  | nil =>
      rw [List.map_nil, List.filterMap_nil, eq_comm, List.map_eq_nil_iff]
      constructor
      · rintro rfl
        exact ⟨rfl, by simp⟩
      · exact And.left
  | cons term rest ih =>
      rw [List.forall_mem_cons] at hterms
      cases term with
      | real x finite => exact absurd hterms.1 Bool.false_ne_true
      | whole n =>
          constructor
          · intro hvalues
            obtain ⟨value, others, rfl, hvalue, hothers⟩ := List.map_eq_cons_iff.mp hvalues.symm
            obtain ⟨rfl, hsigned⟩ := Number.signed?_whole_eq_some_iff.mp hvalue.symm
            obtain ⟨rfl, hall⟩ := (ih hterms.2).mp hothers.symm
            exact ⟨rfl, List.forall_mem_cons.mpr ⟨hsigned, hall⟩⟩
          · rintro ⟨rfl, hall⟩
            have hcons : (Number.whole n :: rest).filterMap Number.integer? =
                n.val :: rest.filterMap Number.integer? :=
              List.filterMap_cons_some rfl
            rw [hcons, List.forall_mem_cons] at hall
            rw [hcons, List.map_cons, List.map_cons,
              Number.signed?_whole_eq_some_iff.mpr ⟨rfl, hall.1⟩,
              (ih hterms.2).mpr ⟨rfl, hall.2⟩]

theorem Integral.sumsTo_iff {items : List Json} (hitems : Integral items) {total : Int} :
    SumsTo items total ↔ total = (integers items).sum ∧ StaySigned (integers items) := by
  have hterms : ∀ term ∈ items.filterMap term?, term.integer?.isSome = true := by
    intro term hterm
    obtain ⟨item, hitem, hcounts⟩ := List.mem_filterMap.mp hterm
    exact hitems item hitem term hcounts
  have hintegers : (items.filterMap term?).filterMap Number.integer? = integers items :=
    List.filterMap_filterMap
  have happly : ∀ n : WholeNumber,
      Builtin.sum.apply (some (.array items)) = some (.number (.whole n)) ↔
        n.val = (integers items).sum ∧ StaySigned (integers items) := by
    intro n
    rw [Builtin.apply, Option.bind_some, Builtin.onValue, sumOf_eq_some_whole_iff,
      signedSum?_eq_some_iff]
    constructor
    · rintro ⟨values, hvalues, htotal, hfronts⟩
      obtain ⟨rfl, hall⟩ := (map_signed?_eq_map_some_iff hterms).mp hvalues
      rw [hintegers] at htotal hall hfronts
      exact ⟨htotal, hall, hfronts⟩
    · rintro ⟨htotal, hall, hfronts⟩
      exact ⟨_, (map_signed?_eq_map_some_iff hterms).mpr ⟨hintegers.symm, hall⟩, htotal, hfronts⟩
  constructor
  · rintro ⟨n, rfl, hsum⟩
    exact (happly n).mp hsum
  · rintro ⟨rfl, hstay⟩
    have htotal : Signed (integers items).sum := hstay.2 _ (List.prefix_refl _)
    refine ⟨⟨(integers items).sum, htotal.1, by have := htotal.2; omega⟩, rfl, ?_⟩
    exact (happly _).mpr ⟨rfl, hstay⟩

theorem SumsTo.apply_eq {items others : List Json} {total : Int} (hitems : SumsTo items total)
    (hothers : SumsTo others total) :
    Builtin.sum.apply (some (.array others)) = Builtin.sum.apply (some (.array items)) := by
  obtain ⟨n, hn, hsum⟩ := hitems
  obtain ⟨m, hm, hsum'⟩ := hothers
  have hsame : m = n := by
    cases m
    cases n
    simp_all
  rw [hsum, hsum', hsame]

/-! ## Other orders -/

theorem Integral.perm {items others : List Json} (hitems : Integral items)
    (hperm : others.Perm items) : Integral others :=
  fun item hitem => hitems item (hperm.mem_iff.mp hitem)

theorem integers_perm {items others : List Json} (hperm : others.Perm items) :
    (integers others).Perm (integers items) :=
  hperm.filterMap _

def gains (values : List Int) : Int :=
  (values.filter (0 < ·)).sum

def losses (values : List Int) : Int :=
  (values.filter (· < 0)).sum

theorem gains_cons (value : Int) (rest : List Int) :
    gains (value :: rest) = max value 0 + gains rest := by
  by_cases hvalue : 0 < value
  · rw [gains, List.filter_cons_of_pos (by simpa using hvalue), List.sum_cons, ← gains,
      Int.max_eq_left (Int.le_of_lt hvalue)]
  · rw [gains, List.filter_cons_of_neg (by simpa using hvalue), ← gains,
      Int.max_eq_right (by omega), Int.zero_add]

theorem losses_cons (value : Int) (rest : List Int) :
    losses (value :: rest) = min value 0 + losses rest := by
  by_cases hvalue : value < 0
  · rw [losses, List.filter_cons_of_pos (by simpa using hvalue), List.sum_cons, ← losses,
      Int.min_eq_left (Int.le_of_lt hvalue)]
  · rw [losses, List.filter_cons_of_neg (by simpa using hvalue), ← losses,
      Int.min_eq_right (by omega), Int.zero_add]

theorem gains_perm {values others : List Int} (hperm : others.Perm values) :
    gains others = gains values :=
  (hperm.filter _).sum_eq

theorem losses_perm {values others : List Int} (hperm : others.Perm values) :
    losses others = losses values :=
  (hperm.filter _).sum_eq

theorem sum_bounds_of_sublist {part values : List Int} (hpart : part.Sublist values) :
    losses values ≤ part.sum ∧ part.sum ≤ gains values := by
  induction hpart with
  | slnil => exact ⟨Int.le_refl 0, Int.le_refl 0⟩
  | cons value _ ih =>
      rw [losses_cons, gains_cons]
      omega
  | cons_cons value _ ih =>
      rw [losses_cons, gains_cons, List.sum_cons]
      omega

theorem staySigned_of_bounds {values : List Int} (hgains : gains values < 0x8000000000000000)
    (hlosses : -0x8000000000000000 ≤ losses values) : StaySigned values := by
  have hparts : ∀ part : List Int, part.Sublist values → Signed part.sum := by
    intro part hpart
    obtain ⟨hlower, hupper⟩ := sum_bounds_of_sublist hpart
    exact ⟨Int.le_trans hlosses hlower, Int.lt_of_le_of_lt hupper hgains⟩
  constructor
  · intro value hvalue
    have hsigned := hparts [value] (List.singleton_sublist.mpr hvalue)
    rwa [List.sum_singleton] at hsigned
  · intro front hfront
    exact hparts front hfront.sublist

theorem exists_perm_filter_prefix (chosen : Int → Bool) (items : List Json) :
    ∃ others, others.Perm items ∧ (integers items).filter chosen <+: integers others := by
  -- The items whose terms are chosen come first, and the others behind them.
  let counts : Json → Bool := fun item => ((term? item).bind Number.integer?).any chosen
  have hfilter : integers (items.filter counts) = (integers items).filter chosen := by
    rw [integers, integers, List.filterMap_filter, List.filter_filterMap]
    congr 1
    funext item
    cases hterm : (term? item).bind Number.integer? <;> simp [counts, hterm, Option.filter]
  refine ⟨_, List.filter_append_perm counts items, ?_⟩
  rw [← hfilter, integers, integers, List.filterMap_append]
  exact List.prefix_append _ _

/-- Where all terms of an array are whole numbers, the sum is their exact total as an integer
exactly when they stay in the range in the order they have.  So any two orders in which they do
have the same sum, and all orders have the exact sum exactly when the terms above zero and those
below, each by themselves, stay in the range. -/
theorem sum_exact {items : List Json} (hitems : Integral items) :
    (SumsTo items (integers items).sum ↔ StaySigned (integers items)) ∧
    (∀ others, others.Perm items → StaySigned (integers items) → StaySigned (integers others) →
      Builtin.sum.apply (some (.array others)) = Builtin.sum.apply (some (.array items))) ∧
    ((∀ others, others.Perm items → SumsTo others (integers items).sum) ↔
      gains (integers items) < 0x8000000000000000 ∧
        -0x8000000000000000 ≤ losses (integers items)) := by
  have hexact : ∀ others, others.Perm items →
      (SumsTo others (integers items).sum ↔ StaySigned (integers others)) := by
    intro others hperm
    rw [(hitems.perm hperm).sumsTo_iff, (integers_perm hperm).sum_eq]
    exact and_iff_right rfl
  have hself := hexact items (List.Perm.refl items)
  refine ⟨hself, ?_, ?_, ?_⟩
  · intro others hperm hstay hstay'
    exact SumsTo.apply_eq (hself.mpr hstay) ((hexact others hperm).mpr hstay')
  · intro hall
    -- The terms above zero, put in front, add up to a partial sum; so do those below zero.
    have hfront : ∀ chosen : Int → Bool, Signed ((integers items).filter chosen).sum := by
      intro chosen
      obtain ⟨others, hperm, hprefix⟩ := exists_perm_filter_prefix chosen items
      exact ((hexact others hperm).mp (hall others hperm)).2 _ hprefix
    exact ⟨(hfront _).2, (hfront _).1⟩
  · rintro ⟨hgains, hlosses⟩ others hperm
    rw [hexact others hperm]
    rw [← gains_perm (integers_perm hperm)] at hgains
    rw [← losses_perm (integers_perm hperm)] at hlosses
    exact staySigned_of_bounds hgains hlosses

def transfers : List Json :=
  [.number (.whole ⟨9223372036854775800, by decide, by decide⟩), .string "7", .string "seven",
    .number (.whole ⟨-8, by decide, by decide⟩), .null]

theorem sum_exact_transfers :
    Integral transfers ∧ (integers transfers).sum = 9223372036854775799 ∧
      (StaySigned (integers transfers) ∧ SumsTo transfers (integers transfers).sum) ∧
      (transfers.reverse.Perm transfers ∧ StaySigned (integers transfers.reverse) ∧
        Builtin.sum.apply (some (.array transfers.reverse)) =
          Builtin.sum.apply (some (.array transfers))) ∧
      (gains (integers transfers) < 0x8000000000000000 ∧
        -0x8000000000000000 ≤ losses (integers transfers)) ∧
      SumsTo transfers.reverse (integers transfers).sum := by
  have hitems : Integral transfers := by
    unfold Integral
    decide +kernel
  have hvalues : integers transfers = [9223372036854775800, 7, -8] := by decide +kernel
  have hreverse : integers transfers.reverse = [-8, 7, 9223372036854775800] := by decide +kernel
  have hperm : transfers.reverse.Perm transfers := List.reverse_perm transfers
  have hstay : StaySigned (integers transfers) := by
    rw [hvalues]
    decide
  have hstay' : StaySigned (integers transfers.reverse) := by
    rw [hreverse]
    decide
  have hbounds : gains (integers transfers) < 0x8000000000000000 ∧
      -0x8000000000000000 ≤ losses (integers transfers) := by
    rw [hvalues]
    decide
  obtain ⟨hself, hsame, hall⟩ := sum_exact hitems
  exact ⟨hitems, by rw [hvalues]; decide, ⟨hstay, hself.mpr hstay⟩,
    ⟨hperm, hstay', hsame _ hperm hstay hstay'⟩, hbounds, hall.mpr hbounds _ hperm⟩

/-- The greatest integer of the range, which is left and entered again. -/
def overshooting : List Json :=
  [.number (.whole ⟨9223372036854775807, by decide, by decide⟩),
    .number (.whole ⟨1, by decide, by decide⟩), .number (.whole ⟨-1, by decide, by decide⟩)]

/-- A sum that is not exact although the total is in the range, and that is in another order. -/
theorem sum_overshooting :
    Integral overshooting ∧ (integers overshooting).sum = 9223372036854775807 ∧
      Signed (integers overshooting).sum ∧
      ¬ SumsTo overshooting 9223372036854775807 ∧
      overshooting.reverse.Perm overshooting ∧
      SumsTo overshooting.reverse 9223372036854775807 ∧
      Builtin.sum.apply (some (.array overshooting.reverse)) ≠
        Builtin.sum.apply (some (.array overshooting)) := by
  have hitems : Integral overshooting := by
    unfold Integral
    decide +kernel
  have hvalues : integers overshooting = [9223372036854775807, 1, -1] := by decide +kernel
  have hreverse : integers overshooting.reverse = [-1, 1, 9223372036854775807] := by
    decide +kernel
  have hperm : overshooting.reverse.Perm overshooting := List.reverse_perm overshooting
  have hleaves : ¬ SumsTo overshooting 9223372036854775807 := by
    rw [hitems.sumsTo_iff, hvalues]
    decide
  have hexact : SumsTo overshooting.reverse 9223372036854775807 := by
    rw [(hitems.perm hperm).sumsTo_iff, hreverse]
    decide
  refine ⟨hitems, by rw [hvalues]; decide, by rw [hvalues]; decide, hleaves, hperm, hexact, ?_⟩
  intro hsame
  obtain ⟨n, hn, hsum⟩ := hexact
  rw [hsame] at hsum
  exact hleaves ⟨n, hn, hsum⟩

end Transform

end JsonExtract
