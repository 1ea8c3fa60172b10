import JsonExtract.Proofs.Coercion
import JsonExtract.Proofs.Selector.Evaluation

/-!
# Coercion before and after picking

Whether what is picked is coerced, or the document and the defaults are coerced beforehand,
makes no difference to selectors that are plain or take the first or the last element, drop
nulls or sum up.  The other two named transforms look at strings as strings.
-/

namespace JsonExtract

namespace Transform

@[simp] theorem term?_coerce (value : Json) : term? value.coerce = term? value := by
  cases value with
  | string s =>
      rcases Json.coerce_string_cases s with ⟨hnone, h⟩ | ⟨n, hsome, h⟩
      · rw [h]
      · rw [h, term?, term?, hsome]
  | _ => simp [term?]

theorem map_coerce_sumOf (terms : List Number) :
    (sumOf terms).map Json.coerce = sumOf terms := by
  have hnumber : Json.coerce ∘ Json.number = Json.number := by
    funext n
    simp
  unfold sumOf
  cases signedSum? terms <;> simp [hnumber]

namespace Builtin

/-! The transforms of arrays, in terms of the elements that a value has. -/

theorem onValue_first (value : Json) : first.onValue value = value.items?.bind List.head? := by
  cases value <;> rfl

theorem onValue_last (value : Json) : last.onValue value = value.items?.bind List.getLast? := by
  cases value <;> rfl

theorem onValue_sum (value : Json) :
    sum.onValue value = value.items?.bind fun items => sumOf (items.filterMap term?) := by
  cases value <;> rfl

theorem onValue_compact (value : Json) :
    compact.onValue value =
      some ((value.items?.map fun items => .array (items.filter (!·.isNull))).getD value) := by
  cases value <;> rfl

/-- The transforms that see no difference between a numeric string and its number. -/
def overlooksCoercion : List Builtin := [.first, .last, .compact, .sum]

theorem onValue_coerce {builtin : Builtin} (hbuiltin : builtin ∈ overlooksCoercion)
    (value : Json) :
    builtin.onValue value.coerce = (builtin.onValue value).map Json.coerce := by
  have hitems := Json.items?_coerce value
  simp only [overlooksCoercion, List.mem_cons, List.not_mem_nil, or_false] at hbuiltin
  rcases hbuiltin with rfl | rfl | rfl | rfl
  · rw [onValue_first, onValue_first, hitems]
    cases value.items? <;> simp
  · rw [onValue_last, onValue_last, hitems]
    cases value.items? <;> simp
  · rw [onValue_compact, onValue_compact, hitems]
    cases value.items? <;> simp [List.filter_map, Function.comp_def]
  · rw [onValue_sum, onValue_sum, hitems]
    have hterm : term? ∘ Json.coerce = term? := funext term?_coerce
    cases value.items? with
    | none => rfl
    | some items =>
        rw [Option.map_some, Option.bind_some, Option.bind_some, List.filterMap_map, hterm,
          map_coerce_sumOf]

theorem apply_map_coerce {builtin : Builtin} (hbuiltin : builtin ∈ overlooksCoercion)
    (found : Option Json) :
    builtin.apply (found.map Json.coerce) = (builtin.apply found).map Json.coerce := by
  cases found with
  | none => rfl
  | some value => exact onValue_coerce hbuiltin value

end Builtin

end Transform

namespace Selector

def coerceDefault (selector : Selector) : Selector :=
  { selector with default := selector.default.map Json.coerce }

/-- A selector without a transform, or with one that overlooks coercion. -/
def OverlooksCoercion (selector : Selector) : Prop :=
  selector.transform = none ∨
    ∃ builtin ∈ Transform.Builtin.overlooksCoercion, selector.transform = some builtin.apply

theorem choose_coerceDefault {selector : Selector} (hselector : selector.OverlooksCoercion)
    (found : Option Json) :
    selector.coerceDefault.choose (found.map Json.coerce) =
      (selector.choose found).map Json.coerce := by
  rcases hselector with hplain | ⟨builtin, hbuiltin, htransform⟩
  · simp only [choose, coerceDefault, hplain]
    cases found with
    | none => simp
    | some value => cases hnull : value.isNull <;> simp [Option.filter_some, hnull]
  · simp only [choose, coerceDefault, htransform]
    exact Transform.Builtin.apply_map_coerce hbuiltin found

theorem outcome_coerceDefault {selector : Selector} (hselector : selector.OverlooksCoercion)
    (document : Json) :
    selector.coerceDefault.outcome false document.coerce = selector.outcome true document := by
  have hpick : Path.pick selector.path document.coerce =
      (Path.pick selector.path document).map Json.coerce :=
    Path.resolve_coerce (Path.tokenize selector.path) document
  have hchoose := choose_coerceDefault hselector (Path.pick selector.path document)
  rw [← hpick] at hchoose
  exact hchoose

end Selector

/-- Coercing what was picked gives the same as picking from the coerced document with coerced
defaults, and every path finds in the coerced document what it finds in the document, coerced. -/
theorem evaluate_coerce {selectors : List Selector}
    (hselectors : ∀ selector ∈ selectors, selector.OverlooksCoercion) (document : Json) :
    evaluate selectors document true =
      evaluate (selectors.map Selector.coerceDefault) document.coerce false ∧
    ∀ steps, Path.resolve steps document.coerce =
      (Path.resolve steps document).map Json.coerce := by
  refine ⟨?_, fun steps => Path.resolve_coerce steps document⟩
  have houtcomes : outcomes selectors document true =
      outcomes (selectors.map Selector.coerceDefault) document.coerce false := by
    unfold outcomes
    rw [List.map_map]
    apply List.map_congr_left
    intro selector hmem
    exact Prod.ext rfl (Selector.outcome_coerceDefault (hselectors selector hmem) document).symm
  rw [evaluate_eq_setAll, evaluate_eq_setAll, houtcomes]

def amountSelectors : List Selector :=
  [⟨"total", "amounts", none, some Transform.Builtin.sum.apply⟩,
    ⟨"fee", "fee", some (.string "7"), none⟩]

def amounts : Json :=
  .object [("amounts", .array [.string "1", .string "x", .string "2.5"]), ("fee", .null)]

theorem evaluate_coerce_amounts :
    (∀ selector ∈ amountSelectors, selector.OverlooksCoercion) ∧
    evaluate amountSelectors amounts true =
      evaluate (amountSelectors.map Selector.coerceDefault) amounts.coerce false := by
  have hselectors : ∀ selector ∈ amountSelectors, selector.OverlooksCoercion := by
    intro selector hmem
    simp only [amountSelectors, List.mem_cons, List.not_mem_nil, or_false] at hmem
    rcases hmem with rfl | rfl
    · exact .inr ⟨.sum, by decide, rfl⟩
    · exact .inl rfl
  exact ⟨hselectors, (evaluate_coerce hselectors amounts).1⟩

end JsonExtract
