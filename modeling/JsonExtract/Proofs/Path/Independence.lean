import JsonExtract.Proofs.Path.Fanout
import JsonExtract.Proofs.Path.Numbers

/-!
# What a path does not look at

A location meets steps when they go the same way as long as both last.  Steps lead to the same
value whatever stands at a location that they do not meet: wildcards, which go through all
elements, and numbers, which reach into both kinds of container, look at nothing else.
-/

namespace JsonExtract

/-! ## Other values at a location -/

namespace Json

def withInner : Place → Json → Json → Json
  | .member name, .object members, new => .object (Keyed.put name new members)
  | .position index, .array items, new => .array (items.set index new)
  | _, value, _ => value

/-- The document with another value at a location, and as it is if the location is not there. -/
def replace : List Place → Json → Json → Json
  | [], _, new => new
  | place :: rest, value, new =>
    match value.inner? place with
    | some inner => value.withInner place (inner.replace rest new)
    | none => value

theorem replace_cons {place : Place} {value inner : Json} (hinner : value.inner? place = some inner)
    (rest : List Place) (new : Json) :
    value.replace (place :: rest) new = value.withInner place (inner.replace rest new) := by
  rw [replace, hinner]

theorem inner?_withInner {place : Place} {value inner : Json}
    (hinner : value.inner? place = some inner) (new : Json) :
    (value.withInner place new).inner? place = some new := by
  cases place with
  | member name =>
      obtain ⟨members, rfl, -⟩ := inner?_member_eq_some_iff.mp hinner
      exact Keyed.get?_put_self name new members
  | position index =>
      obtain ⟨items, rfl, hitem⟩ := inner?_position_eq_some_iff.mp hinner
      obtain ⟨hindex, -⟩ := List.getElem?_eq_some_iff.mp hitem
      exact List.getElem?_set_self hindex

theorem node?_replace {location : List Place} {value old : Json}
    (hold : value.node? location = some old) (new : Json) :
    (value.replace location new).node? location = some new := by
  induction location generalizing value with
  | nil => rfl
  | cons place rest ih =>
      obtain ⟨inner, hinner, hrest⟩ := Option.bind_eq_some_iff.mp hold
      rw [replace_cons hinner, node?, inner?_withInner hinner, Option.bind_some, ih hrest]

end Json

namespace Path

/-! ## Steps that match a place -/

def Step.Matches : Step → Place → Prop
  | .key name, .member other => other = name
  | .key name, .position n => toString n = name
  | .index n, .position other => other = n
  | .index n, .member name => name = toString n
  | .wildcard, .position _ => True
  | .wildcard, .member _ => False

/-- Whether a location and steps match place by place up to the end of the shorter one. -/
def Meets : List Place → List Step → Prop
  | place :: location, step :: steps => step.Matches place ∧ Meets location steps
  | _, _ => True

instance (step : Step) : DecidablePred step.Matches := fun place =>
  match step, place with
  | .key name, .member other => inferInstanceAs (Decidable (other = name))
  | .key name, .position n => inferInstanceAs (Decidable (toString n = name))
  | .index n, .position other => inferInstanceAs (Decidable (other = n))
  | .index n, .member name => inferInstanceAs (Decidable (name = toString n))
  | .wildcard, .position _ => inferInstanceAs (Decidable True)
  | .wildcard, .member _ => inferInstanceAs (Decidable False)

instance decidableMeets : DecidableRel Meets
  | place :: location, step :: steps =>
    @instDecidableAnd (step.Matches place) (Meets location steps) inferInstance
      (decidableMeets location steps)
  | [], _ => inferInstanceAs (Decidable True)
  | _ :: _, [] => inferInstanceAs (Decidable True)

theorem Step.index_matches_iff {index : Nat} {place : Place} :
    (Step.index index).Matches place ↔ (Step.key (toString index)).Matches place := by
  cases place with
  | member name => rfl
  | position other =>
      constructor
      · exact congrArg toString
      · intro hother
        have hread : position? (toString other) = some index := position?_eq_some_iff.mpr hother
        rw [position?_toString] at hread
        exact Option.some.inj hread

theorem Step.key_goesTo_of_matches {name : String} {place : Place}
    (hmatches : (Step.key name).Matches place) : (Step.key name).GoesTo place := by
  cases place with
  | member other =>
      obtain rfl : other = name := hmatches
      exact Step.key_goesTo_member other
  | position index =>
      obtain rfl : toString index = name := hmatches
      exact Step.key_goesTo_position index

theorem Step.goesTo_of_matches {step : Step} (hwildcard : step ≠ .wildcard) {place : Place}
    (hmatches : step.Matches place) : step.GoesTo place := by
  cases step with
  | key name => exact Step.key_goesTo_of_matches hmatches
  | index index =>
      intro value inner hinner rest
      rw [resolve_index_cons]
      exact Step.key_goesTo_of_matches (Step.index_matches_iff.mp hmatches) value inner hinner rest
  | wildcard => contradiction

theorem child?_withInner {name : String} {place : Place}
    (hother : ¬ (Step.key name).Matches place) (value new : Json) :
    (value.withInner place new).child? name = value.child? name := by
  cases place with
  | member other =>
      cases value with
      | object members => exact Keyed.get?_put_of_ne (Ne.symm hother) new members
      | _ => rfl
  | position index =>
      cases value with
      | array items =>
          have hne : ∀ n, position? name = some n → index ≠ n := by
            rintro n hposition rfl
            exact hother (position?_eq_some_iff.mp hposition).symm
          rw [Json.withInner, Json.child?, Json.child?]
          cases hposition : position? name with
          | none => rfl
          | some n => exact List.getElem?_set_ne (hne n hposition)
      | _ => rfl

/-- A step that does not match a place does not see what stands there. -/
theorem resolve_cons_withInner {step : Step} {place : Place} (hother : ¬ step.Matches place)
    (rest : List Step) (value new : Json) :
    resolve (step :: rest) (value.withInner place new) = resolve (step :: rest) value := by
  cases step with
  | key name => rw [resolve, resolve, child?_withInner hother]
  | index index =>
      rw [Step.index_matches_iff] at hother
      rw [resolve_index_cons, resolve_index_cons, resolve, resolve, child?_withInner hother]
  | wildcard =>
      cases place with
      | member name => cases value <;> rfl
      | position index => exact absurd trivial hother

/-- A step that matches a place sees no difference there if the rest of the steps sees none. -/
theorem resolve_cons_withInner_of_matches {step : Step} {place : Place}
    (hmatches : step.Matches place) {rest : List Step} {value inner new : Json}
    (hinner : value.inner? place = some inner) (hsame : resolve rest new = resolve rest inner) :
    resolve (step :: rest) (value.withInner place new) = resolve (step :: rest) value := by
  by_cases hwildcard : step = .wildcard
  · subst step
    cases place with
    | member name => contradiction
    | position index =>
        obtain ⟨items, rfl, hitem⟩ := Json.inner?_position_eq_some_iff.mp hinner
        obtain ⟨hindex, rfl⟩ := List.getElem?_eq_some_iff.mp hitem
        rw [Json.withInner, resolve_cons_wildcard_array, resolve_cons_wildcard_array,
          List.map_set, resolveOrNull_congr hsame, ← List.map_set, List.set_getElem_self]
  · have hgoes := Step.goesTo_of_matches hwildcard hmatches
    rw [hgoes _ _ (Json.inner?_withInner hinner new), hgoes _ _ hinner, hsame]

theorem resolve_replace_of_not_meets {location : List Place} {steps : List Step}
    {value old : Json} (hold : value.node? location = some old) (happart : ¬ Meets location steps)
    (new : Json) : resolve steps (value.replace location new) = resolve steps value := by
  induction steps generalizing location value with
  | nil => cases location <;> exact absurd trivial happart
  | cons step rest ih =>
      cases location with
      | nil => exact absurd trivial happart
      | cons place location =>
          obtain ⟨inner, hinner, hrest⟩ := Option.bind_eq_some_iff.mp hold
          rw [Json.replace_cons hinner]
          by_cases hmatches : step.Matches place
          · have hdeeper : ¬ Meets location rest := fun hmeets => happart ⟨hmatches, hmeets⟩
            exact resolve_cons_withInner_of_matches hmatches hinner (ih hrest hdeeper)
          · exact resolve_cons_withInner hmatches rest value _

/-- Whatever value comes to stand at a location, steps that do not meet the location lead to the
same value as before. -/
theorem resolve_apart {location : List Place} {steps : List Step} {value : Json}
    (hthere : (value.node? location).isSome) (happart : ¬ Meets location steps) (new : Json) :
    (value.replace location new).node? location = some new ∧
      resolve steps (value.replace location new) = resolve steps value := by
  obtain ⟨old, hold⟩ := Option.isSome_iff_exists.mp hthere
  exact ⟨Json.node?_replace hold new, resolve_replace_of_not_meets hold happart new⟩

def seats : Json :=
  .object [("rows", .array [
    .object [("0", .string "a"), ("00", .string "b")], .array [.string "c", .null]])]

theorem resolve_apart_seats :
    let steps : List Step := [.key "rows", .wildcard, .index 0]
    (∀ location ∈ [[.member "rows", .position 0, .member "00"],
        [.member "rows", .position 1, .position 1]],
      (seats.node? location).isSome ∧ ¬ Meets location steps ∧
      ∀ new, resolve steps (seats.replace location new) = resolve steps seats) ∧
    resolve steps seats = some (.array [.string "a", .string "c"]) ∧
    Meets [.member "rows", .position 0, .member "0"] steps := by
  intro steps
  refine ⟨?_, rfl, by decide⟩
  intro location hlocation
  have hthere : (seats.node? location).isSome := by
    revert location
    decide +kernel
  have happart : ¬ Meets location steps := by
    revert location
    decide
  exact ⟨hthere, happart, fun new => (resolve_apart hthere happart new).2⟩

end Path

end JsonExtract
