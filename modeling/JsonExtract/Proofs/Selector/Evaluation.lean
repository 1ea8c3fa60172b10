import JsonExtract.Proofs.Keyed
import JsonExtract.Selector.Basic

/-!
# Meaning of an evaluation

What a selector picks is given by rules on the selector and the document alone.  An evaluation
has one entry for each key among its selectors, in the order in which the keys first occur, and
the last selector with a key decides on its entry, be it that nothing is picked.
-/

namespace JsonExtract

theorem Json.isNull_eq_false_iff {value : Json} : value.isNull = false ↔ value ≠ .null := by
  cases value <;> simp [Json.isNull]

namespace Selector

/-- What a selector chooses in a document, before coercion. -/
inductive Chooses (selector : Selector) (document : Json) : Option Json → Prop where
  | transformed {transform : Transform} (htransform : selector.transform = some transform) :
      Chooses selector document
        (transform (Path.resolve (Path.tokenize selector.path) document))
  | found {value : Json} (hplain : selector.transform = none)
      (hfound : Path.resolve (Path.tokenize selector.path) document = some value)
      (hvalue : value ≠ .null) :
      Chooses selector document (some value)
  | replaced (hplain : selector.transform = none)
      (hmissing : ∀ value,
        Path.resolve (Path.tokenize selector.path) document = some value → value = .null) :
      Chooses selector document selector.default

/-- What a selector picks from a document: its choice, coerced if there is one and coercion is
asked for. -/
def Picks (selector : Selector) (coerces : Bool) (document : Json)
    (picked : Option Json) : Prop :=
  ∃ chosen, selector.Chooses document chosen ∧
    picked = if coerces then chosen.map Json.coerce else chosen

theorem chooses_choose (selector : Selector) (document : Json) :
    selector.Chooses document (selector.choose (Path.pick selector.path document)) := by
  unfold Path.pick
  cases htransform : selector.transform with
  | some transform =>
      simp only [choose, htransform]
      exact .transformed htransform
  | none =>
      simp only [choose, htransform]
      cases hfound : Path.resolve (Path.tokenize selector.path) document with
      | none =>
          rw [Option.filter_none, Option.none_or]
          exact .replaced htransform (by simp [hfound])
      | some value =>
          by_cases hnull : value = .null
          · subst value
            exact .replaced htransform (by simp [hfound])
          · rw [Option.filter_some, if_pos (by simp [Json.isNull_eq_false_iff, hnull]),
              Option.some_or]
            exact .found htransform hfound hnull

theorem Chooses.eq_choose {selector : Selector} {document : Json} {chosen : Option Json}
    (hchosen : selector.Chooses document chosen) :
    chosen = selector.choose (Path.pick selector.path document) := by
  unfold Path.pick
  cases hchosen with
  | transformed htransform => simp [choose, htransform]
  | found hplain hfound hvalue =>
      simp [choose, hplain, hfound, Option.filter_some, Json.isNull_eq_false_iff, hvalue]
  | replaced hplain hmissing =>
      cases hfound : Path.resolve (Path.tokenize selector.path) document with
      | none => simp [choose, hplain]
      | some value =>
          have hnull := hmissing value hfound
          subst value
          simp [choose, hplain, Option.filter_some, Json.isNull]

theorem picks_iff {selector : Selector} {coerces : Bool} {document : Json}
    {picked : Option Json} :
    selector.Picks coerces document picked ↔ selector.outcome coerces document = picked := by
  constructor
  · rintro ⟨chosen, hchosen, rfl⟩
    rw [hchosen.eq_choose]
    rfl
  · rintro rfl
    exact ⟨_, chooses_choose selector document, rfl⟩

end Selector

def outcomes (selectors : List Selector) (document : Json) (coerces : Bool) :
    List (String × Option Json) :=
  selectors.map fun selector => (selector.key, selector.outcome coerces document)

theorem evaluate_eq_setAll (selectors : List Selector) (document : Json) (coerces : Bool) :
    evaluate selectors document coerces =
      KeyedMap.setAll Picked.empty (outcomes selectors document coerces) := by
  simp [evaluate, KeyedMap.setAll, outcomes, List.foldl_map]

theorem keys_outcomes (selectors : List Selector) (document : Json) (coerces : Bool) :
    Keyed.keys (outcomes selectors document coerces) = selectors.map Selector.key := by
  simp [Keyed.keys, outcomes]

theorem keys_evaluate (selectors : List Selector) (coerces : Bool) (document : Json) :
    (evaluate selectors document coerces).keys = (selectors.map Selector.key).eraseDups := by
  rw [evaluate_eq_setAll, KeyedMap.keys_setAll, keys_outcomes]
  rfl

theorem entry?_evaluate (selectors : List Selector) (document : Json) (coerces : Bool)
    (key : String) :
    Picked.entry? (evaluate selectors document coerces) key =
      Keyed.get? key (outcomes selectors document coerces).reverse := by
  unfold Picked.entry?
  rw [evaluate_eq_setAll, KeyedMap.get?_setAll]
  simp [Picked.empty]

theorem get?_reverse_outcomes_eq_some_iff {selectors : List Selector} {document : Json}
    {coerces : Bool} {key : String} {picked : Option Json} :
    Keyed.get? key (outcomes selectors document coerces).reverse = some picked ↔
      ∃ before selector after,
        selectors = before ++ selector :: after ∧ selector.key = key ∧
          (∀ later ∈ after, later.key ≠ key) ∧
          selector.outcome coerces document = picked := by
  rw [Keyed.get?_reverse_eq_some_iff]
  constructor
  · rintro ⟨earlier, later, hsplit, hlater⟩
    obtain ⟨before, others, rfl, _, hothers⟩ := List.map_eq_append_iff.mp hsplit
    obtain ⟨selector, after, rfl, hselector, rfl⟩ := List.map_eq_cons_iff.mp hothers
    obtain ⟨hkey, hpicked⟩ := Prod.mk.inj hselector
    refine ⟨before, selector, after, rfl, hkey, ?_, hpicked⟩
    intro last hlast heq
    exact hlater (heq ▸ List.mem_map.mpr ⟨_, List.mem_map_of_mem hlast, rfl⟩)
  · rintro ⟨before, selector, after, rfl, rfl, hafter, rfl⟩
    refine ⟨outcomes before document coerces, outcomes after document coerces,
      by simp [outcomes], ?_⟩
    rw [keys_outcomes]
    intro hmem
    obtain ⟨later, hlater, hkey⟩ := List.mem_map.mp hmem
    exact hafter later hlater hkey

/-- Meaning of an evaluation.  Its keys are the distinct keys of the selectors in the order of
their first occurrence.  The entry of a key is what the last selector with that key picks from
the document, whatever the other selectors are.  Further selectors write what they pick by
themselves, entry by entry. -/
theorem evaluate_meaning (selectors more : List Selector) (document : Json) (coerces : Bool) :
    (evaluate selectors document coerces).keys = (selectors.map Selector.key).eraseDups ∧
    (∀ key picked, Picked.entry? (evaluate selectors document coerces) key = some picked ↔
      ∃ before selector after,
        selectors = before ++ selector :: after ∧ selector.key = key ∧
          (∀ later ∈ after, later.key ≠ key) ∧ selector.Picks coerces document picked) ∧
    evaluate (selectors ++ more) document coerces =
      (evaluate selectors document coerces).setAll
        (evaluate more document coerces).entries := by
  refine ⟨?_, ?_, ?_⟩
  · rw [evaluate_eq_setAll, KeyedMap.keys_setAll, keys_outcomes]
    rfl
  · intro key picked
    simp only [Selector.picks_iff]
    unfold Picked.entry?
    rw [evaluate_eq_setAll, KeyedMap.get?_setAll, ← get?_reverse_outcomes_eq_some_iff]
    simp [Picked.empty]
  · rw [evaluate_eq_setAll, evaluate_eq_setAll, evaluate_eq_setAll, outcomes, List.map_append,
      KeyedMap.setAll_append]
    exact (KeyedMap.setAll_entries_setAll_empty _ _).symm

end JsonExtract
