import JsonExtract.Proofs.Path.Addressing
import JsonExtract.Proofs.Path.Splitting

/-!
# Numbers in paths

A number leads to the same value between brackets and behind a point.  Between brackets it is a
position, and a position addresses what its decimal text names; behind a point it is a name, and
a name addresses an element only as the decimal text of a position.  What differs is zeros in
front: brackets ignore them, and a name keeps them.
-/

namespace JsonExtract

namespace Path

/-! ## Names of positions -/

/-- A name stands for a position exactly when it is the decimal text of the position. -/
theorem position?_eq_some_iff {name : String} {n : Nat} :
    position? name = some n ↔ name = toString n := by
  constructor
  · intro hposition
    unfold position? at hposition
    split at hposition
    · contradiction
    · rename_i first rest hname
      split at hposition
      · rename_i hcanonical
        rw [Bool.and_eq_true, List.all_eq_true] at hcanonical
        obtain ⟨hdigits, hzeros⟩ := hcanonical
        have hzeros : rest = [] ∨ first ≠ '0' := by simpa using hzeros
        have hread : Decimal.ofDigits (first :: rest) = n := Option.some.inj hposition
        rw [← String.toList_inj, Decimal.toList_toString, hname, ← hread,
          Decimal.toDigits_ofDigits_eq hdigits, Decimal.withoutLeadingZeros_eq_self hzeros]
      · contradiction
  · rintro rfl
    exact position?_toString n

end Path

namespace Json

theorem child?_toString (n : Nat) (value : Json) :
    value.child? (toString n) = value.element? n := by
  cases value with
  | array items =>
      rw [child?, Path.position?_toString]
      rfl
  | _ => rfl

theorem child?_array_eq_some_iff {name : String} {items : List Json} {item : Json} :
    (Json.array items).child? name = some item ↔
      ∃ n, ∃ h : n < items.length, name = toString n ∧ items[n] = item := by
  rw [child?, Option.bind_eq_some_iff]
  constructor
  · rintro ⟨n, hposition, hitem⟩
    obtain ⟨h, hget⟩ := List.getElem?_eq_some_iff.mp hitem
    exact ⟨n, h, Path.position?_eq_some_iff.mp hposition, hget⟩
  · rintro ⟨n, h, hname, hget⟩
    exact ⟨n, Path.position?_eq_some_iff.mpr hname, List.getElem?_eq_some_iff.mpr ⟨h, hget⟩⟩

end Json

namespace Path

/-! ## Numbers behind a point -/

theorem resolve_index_cons (n : Nat) (rest : List Step) (value : Json) :
    resolve (.index n :: rest) value = resolve (.key (toString n) :: rest) value := by
  rw [resolve, resolve, Json.child?_toString]

/-- The digits that lead behind a point to what a number between brackets leads to. -/
def pointedDigits (digits : List Char) : List Char :=
  if Decimal.ofDigits digits < positionLimit then Decimal.withoutLeadingZeros digits else digits

theorem plain_pointedDigits {digits : List Char} (hne : digits ≠ [])
    (hdigits : ∀ c ∈ digits, c.isDigit = true) : Plain (pointedDigits digits) := by
  unfold pointedDigits
  split
  · rw [← Decimal.toDigits_ofDigits_eq hdigits, ← Decimal.toList_toString]
    exact plain_toString _
  · exact plain_of_digits hne hdigits

theorem resolve_ofDigits_cons {digits : List Char} (hdigits : ∀ c ∈ digits, c.isDigit = true)
    (rest : List Step) (value : Json) :
    resolve (.ofDigits digits :: rest) value =
      resolve (.key (String.ofList (pointedDigits digits)) :: rest) value := by
  unfold Step.ofDigits pointedDigits
  dsimp only
  split
  · rw [resolve_index_cons, ← Decimal.toDigits_ofDigits_eq hdigits, ← Decimal.toList_toString,
      String.ofList_toList]
  · rfl

/-- Steps that lead to the same values do so behind any other steps, wildcards included. -/
theorem resolve_append_congr {left right : List Step}
    (hsame : ∀ value, resolve left value = resolve right value) (front : List Step)
    (value : Json) : resolve (front ++ left) value = resolve (front ++ right) value := by
  have hfront : resolve (front ++ left) = resolve (front ++ right) := by
    induction front with
    | nil => exact funext hsame
    | cons step rest ih =>
        funext value
        cases step <;> simp only [List.cons_append, resolve, ih]
  rw [hfront]

theorem steps_append_bracketed {digits : List Char} (hne : digits ≠ [])
    (hdigits : ∀ c ∈ digits, c.isDigit = true) (front back : List Char) :
    steps (front ++ '[' :: (digits ++ ']' :: back)) =
      steps front ++ .ofDigits digits :: steps back := by
  rw [steps_append_opening, steps_opening_of_bracketed? (bracketed?_digits hne hdigits back)]

theorem steps_append_pointed {name : List Char} (hname : Plain name) (front back : List Char) :
    steps (front ++ '.' :: (name ++ '.' :: back)) =
      steps front ++ .key (String.ofList name) :: steps back := by
  rw [steps_append_point, steps_plain_append hname (endsKey_cons (by decide) back), steps_point]

/-- A number between brackets and the decimal text of the number lead to the same value.  A name
leads to an element of an array only as the decimal text of a position in it.  In a path, digits
between brackets can so be written behind a point, without the zeros in front unless the number
is too large for a position. -/
theorem resolve_number :
    (∀ n rest value, n < positionLimit →
      resolve (.index n :: rest) value = resolve (.key (toString n) :: rest) value) ∧
    (∀ name items item, resolve [.key name] (.array items) = some item ↔
      ∃ n, ∃ h : n < items.length, name = toString n ∧ items[n] = item) ∧
    (∀ name ∈ ["01", "00", "+1"], ∀ items, resolve [.key name] (.array items) = none) ∧
    ∀ front back digits : String, digits ≠ "" → (∀ c ∈ digits.toList, c.isDigit = true) →
    ∀ value,
      pick (front ++ "[" ++ digits ++ "]" ++ back) value =
      pick (front ++ "." ++ String.ofList (pointedDigits digits.toList) ++ "." ++ back) value := by
  have hreach : ∀ name items, resolve [.key name] (.array items) =
      (Json.array items).child? name := by
    intro name items
    rw [resolve]
    exact Option.bind_fun_some _
  refine ⟨fun n rest value _ => resolve_index_cons n rest value, ?_, ?_, ?_⟩
  · intro name items item
    rw [hreach, Json.child?_array_eq_some_iff]
  · intro name hname items
    have hposition : position? name = none := by
      revert name
      decide
    rw [hreach, Json.child?, hposition, Option.bind_none]
  · intro front back digits hne hdigits value
    have hdigits' : digits.toList ≠ [] := by simpa using hne
    have hbracketed : (front ++ "[" ++ digits ++ "]" ++ back).toList =
        front.toList ++ '[' :: (digits.toList ++ ']' :: back.toList) := by
      simp
    have hpointed : (front ++ "." ++ String.ofList (pointedDigits digits.toList) ++ "." ++
        back).toList =
        front.toList ++ '.' :: (pointedDigits digits.toList ++ '.' :: back.toList) := by
      simp
    rw [pick, pick, tokenize, tokenize, hbracketed, hpointed,
      steps_append_bracketed hdigits' hdigits,
      steps_append_pointed (plain_pointedDigits hdigits' hdigits)]
    exact resolve_append_congr (resolve_ofDigits_cons hdigits _) _ value

def codes : Json :=
  .object [("rows", .array [
    .object [("7", .string "seven"), ("018446744073709551616", .string "many")], .array []])]

theorem resolve_number_codes :
    (7 < positionLimit ∧
      resolve [.index 7, .wildcard] codes = resolve [.key "7", .wildcard] codes) ∧
    ("01" ∈ ["01", "00", "+1"] ∧ resolve [.key "01"] (.array [codes, codes]) = none) ∧
    ("007" ≠ "" ∧ (∀ c ∈ "007".toList, c.isDigit = true) ∧
      pick "rows[*][007]" codes = pick "rows[*].7." codes ∧
      pick "rows[*].7." codes = some (.array [.string "seven", .null])) ∧
    "018446744073709551616" ≠ "" ∧ (∀ c ∈ "018446744073709551616".toList, c.isDigit = true) ∧
      pick "rows[0][018446744073709551616]" codes = pick "rows[0].018446744073709551616." codes ∧
      pick "rows[0].018446744073709551616." codes = some (.string "many") := by
  obtain ⟨hindex, -, hnever, hpick⟩ := resolve_number
  have hsmall : 7 < positionLimit := by decide
  have hzero : "01" ∈ ["01", "00", "+1"] := by decide
  have hseven : ∀ c ∈ "007".toList, c.isDigit = true :=
    List.all_eq_true.mp (by decide)
  have hmany : ∀ c ∈ "018446744073709551616".toList, c.isDigit = true :=
    List.all_eq_true.mp (by decide)
  have hsevenSteps : tokenize "rows[*].7." = [.key "rows", .wildcard, .key "7"] := by
    decide +kernel
  have hmanySteps : tokenize "rows[0].018446744073709551616." =
      [.key "rows", .index 0, .key "018446744073709551616"] := by
    decide +kernel
  refine ⟨⟨hsmall, hindex 7 [.wildcard] codes hsmall⟩, ⟨hzero, hnever _ hzero _⟩,
    ⟨by decide, hseven, ?_, ?_⟩, by decide, hmany, ?_, ?_⟩
  · have hpointed : String.ofList (pointedDigits "007".toList) = "7" := by decide
    have hsame := hpick "rows[*]" "" "007" (by decide) hseven codes
    rwa [hpointed] at hsame
  · rw [pick, hsevenSteps]
    rfl
  · have hpointed : String.ofList (pointedDigits "018446744073709551616".toList) =
        "018446744073709551616" := by
      decide +kernel
    have hsame := hpick "rows[0]" "" "018446744073709551616" (by decide) hmany codes
    rwa [hpointed] at hsame
  · rw [pick, hmanySteps]
    rfl

end Path

end JsonExtract
