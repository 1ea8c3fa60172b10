import JsonExtract.Coercion
import JsonExtract.Proofs.Path.Correspondence

/-!
# Coercion keeps the shape of a document

Coercion touches strings only: containers keep their elements and members in place, null stays
null, and nothing else becomes null.  A path therefore leads to the same place before and after
coercion, and what it leads to is coerced.
-/

namespace JsonExtract

namespace Json

@[simp] theorem coerce_null : Json.null.coerce = .null := by
  simp [coerce]

@[simp] theorem coerce_bool (value : Bool) : (Json.bool value).coerce = .bool value := by
  simp [coerce]

@[simp] theorem coerce_number (n : Number) : (Json.number n).coerce = .number n := by
  simp [coerce]

@[simp] theorem coerce_array (items : List Json) :
    (Json.array items).coerce = .array (items.map coerce) := by
  rw [coerce, coerceItems_eq_map]

@[simp] theorem coerce_object (members : List (String × Json)) :
    (Json.object members).coerce =
      .object (members.map fun member => (member.1, coerce member.2)) := by
  rw [coerce, coerceMembers_eq_map]

theorem coerce_string_cases (s : String) :
    (Number.ofNumeral? s = none ∧ (Json.string s).coerce = .string s) ∨
      ∃ n, Number.ofNumeral? s = some n ∧ (Json.string s).coerce = .number n := by
  cases h : Number.ofNumeral? s with
  | none => exact .inl ⟨rfl, by simp [coerce, h]⟩
  | some n => exact .inr ⟨n, rfl, by simp [coerce, h]⟩

/-- What does not tell a string from a number does not see a string being coerced. -/
theorem apply_coerce_string {β : Type} {f : Json → β} {s : String} {result : β}
    (hstring : f (.string s) = result) (hnumber : ∀ n, f (.number n) = result) :
    f (Json.string s).coerce = result := by
  rcases coerce_string_cases s with ⟨_, h⟩ | ⟨n, _, h⟩
  · rw [h, hstring]
  · rw [h, hnumber]

@[simp] theorem isNull_coerce (value : Json) : value.coerce.isNull = value.isNull := by
  cases value with
  | string s => exact apply_coerce_string (f := isNull) rfl fun _ => rfl
  | _ => simp [isNull]

theorem items?_coerce (value : Json) :
    value.coerce.items? = value.items?.map (List.map coerce) := by
  cases value with
  | string s => exact apply_coerce_string (f := items?) rfl fun _ => rfl
  | _ => simp [items?]

theorem child?_coerce (name : String) (value : Json) :
    value.coerce.child? name = (value.child? name).map coerce := by
  cases value with
  | string s => exact apply_coerce_string (f := child? name) rfl fun _ => rfl
  | array items =>
      rw [coerce_array]
      cases hposition : Path.position? name <;> simp [child?, hposition]
  | object members =>
      rw [coerce_object]
      exact Keyed.get?_map_values coerce name members
  | _ => simp [child?]

/-- Documents and their coercions correspond: a look into the one finds the coercion of what the
same look into the other finds. -/
theorem coerce_correspondence : Correspondence (fun value coerced => coerced = value.coerce)
    (fun found coerced => coerced = found.map coerce) where
  some {value _} hvalue := by
    rw [hvalue, Option.map_some]
  bind {found _} next hfound hnext := by
    rw [hfound]
    cases found with
    | none => rfl
    | some value => exact hnext value value.coerce rfl
  orNull {found _} hfound := by
    rw [hfound]
    cases found with
    | none => exact coerce_null.symm
    | some value => rfl
  child? {value _} name hvalue := by
    rw [hvalue, child?_coerce]
  fanOut {value _} image hvalue himage := by
    have hitem : ∀ item : Json, image item.coerce = (image item).coerce :=
      fun item => himage item item.coerce rfl
    rw [hvalue, items?_coerce]
    cases value.items? with
    | none => rfl
    | some items => simp [hitem]

end Json

namespace Path

/-- A path leads to the same place in a coerced document, and finds it coerced. -/
theorem resolve_coerce (steps : List Step) (value : Json) :
    resolve steps value.coerce = (resolve steps value).map Json.coerce :=
  resolve_corresponds Json.coerce_correspondence steps rfl

end Path

end JsonExtract
