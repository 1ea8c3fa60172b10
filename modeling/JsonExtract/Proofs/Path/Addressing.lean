import Mathlib.Data.List.Forall2
import JsonExtract.Path.Resolve
import JsonExtract.Proofs.Path.Reading

/-!
# What paths can address

A location leads from a document to one of its nodes, by names of members and by positions of
elements.  Every location whose names are plain can be spelled as a path, each position in
either of two ways, and that path picks the node there.  A path without wildcards picks nothing
but such nodes: what stands under an empty name, or under a name with a delimiter, is out of
reach.
-/

namespace JsonExtract

/-! ## Locations -/

/-- One step of a location, from a container to something right inside it. -/
inductive Place where
  | member (name : String)
  | position (index : Nat)
deriving DecidableEq, Repr

namespace Json

def inner? : Place → Json → Option Json
  | .member name, .object members => Keyed.get? name members
  | .position index, .array items => items[index]?
  | _, _ => none

def node? : List Place → Json → Option Json
  | [], value => some value
  | place :: rest, value => (value.inner? place).bind (node? rest)

theorem inner?_member_eq_some_iff {name : String} {value inner : Json} :
    value.inner? (.member name) = some inner ↔
      ∃ members, value = .object members ∧ Keyed.get? name members = some inner := by
  cases value <;> simp [inner?]

theorem inner?_position_eq_some_iff {index : Nat} {value inner : Json} :
    value.inner? (.position index) = some inner ↔
      ∃ items, value = .array items ∧ items[index]? = some inner := by
  cases value <;> simp [inner?]

end Json

namespace Place

/-- The texts that spell a place: a name behind a point, a position between brackets or behind a
point. -/
inductive Spells : Place → List Char → Prop where
  | member (name : String) : Spells (.member name) ('.' :: name.toList)
  | bracketed (index : Nat) :
      Spells (.position index) ('[' :: (Decimal.toDigits index ++ [']']))
  | pointed (index : Nat) : Spells (.position index) ('.' :: Decimal.toDigits index)

/-- Whether the name of the place, if it has one, can stand in a path. -/
def IsPlain : Place → Prop
  | .member name => Path.Plain name.toList
  | .position _ => True

def IsBounded : Place → Prop
  | .member _ => True
  | .position index => index < Path.positionLimit

instance : DecidablePred IsPlain
  | .member name => inferInstanceAs (Decidable (Path.Plain name.toList))
  | .position _ => inferInstanceAs (Decidable True)

instance : DecidablePred IsBounded
  | .member _ => inferInstanceAs (Decidable True)
  | .position index => inferInstanceAs (Decidable (index < Path.positionLimit))

end Place

namespace Path

/-! ## Numbers as names -/

theorem plain_toString (n : Nat) : Plain (toString n).toList := by
  rw [Decimal.toList_toString]
  exact plain_of_digits (Decimal.toDigits_ne_nil n) fun c => Decimal.isDigit_of_mem_toDigits

theorem position?_toString (n : Nat) : position? (toString n) = some n := by
  have hdigits : ∀ c ∈ Decimal.toDigits n, c.isDigit = true :=
    fun c => Decimal.isDigit_of_mem_toDigits
  have hvalue := Decimal.ofDigits_toDigits n
  unfold position?
  rw [Decimal.toList_toString]
  rcases Decimal.toDigits_cases n with hzero | ⟨first, rest, hcons, hfirst⟩
  · rw [hzero] at hvalue ⊢
    exact congrArg some hvalue
  · rw [hcons] at hvalue hdigits ⊢
    have hall : (first :: rest).all Char.isDigit = true := List.all_eq_true.mpr hdigits
    simp [hall, hfirst, hvalue]

/-! ## Steps and places -/

/-- Whether a step goes to whatever stands at a place. -/
def Step.GoesTo (step : Step) (place : Place) : Prop :=
  ∀ value inner, value.inner? place = some inner →
    ∀ rest, resolve (step :: rest) value = resolve rest inner

theorem Step.key_goesTo_member (name : String) : (Step.key name).GoesTo (.member name) := by
  intro value inner hinner rest
  obtain ⟨members, rfl, hmember⟩ := Json.inner?_member_eq_some_iff.mp hinner
  simp [resolve, Json.child?, hmember]

theorem Step.key_goesTo_position (index : Nat) :
    (Step.key (toString index)).GoesTo (.position index) := by
  intro value inner hinner rest
  obtain ⟨items, rfl, hitem⟩ := Json.inner?_position_eq_some_iff.mp hinner
  rw [resolve, Json.child?, position?_toString, Option.bind_some, hitem, Option.bind_some]

theorem Step.index_goesTo_position (index : Nat) :
    (Step.index index).GoesTo (.position index) := by
  intro value inner hinner rest
  obtain ⟨items, rfl, hitem⟩ := Json.inner?_position_eq_some_iff.mp hinner
  simp [resolve, Json.element?, hitem]

/-- A text that spells a place is the text of a step that goes there. -/
theorem exists_step_of_spells {place : Place} {text : List Char} (hspells : place.Spells text)
    (hplain : place.IsPlain) (hbounded : place.IsBounded) :
    ∃ step : Step, step.Canonical ∧ text = step.render ∧ step.GoesTo place := by
  cases hspells with
  | member name => exact ⟨.key name, hplain, rfl, Step.key_goesTo_member name⟩
  | bracketed index => exact ⟨.index index, hbounded, rfl, Step.index_goesTo_position index⟩
  | pointed index =>
      refine ⟨.key (toString index), plain_toString index, ?_, Step.key_goesTo_position index⟩
      rw [Step.render, Decimal.toList_toString]

theorem exists_steps_of_spells {location : List Place} {texts : List (List Char)}
    (hspells : List.Forall₂ Place.Spells location texts)
    (hplain : ∀ place ∈ location, place.IsPlain)
    (hbounded : ∀ place ∈ location, place.IsBounded) :
    ∃ steps : List Step, (∀ step ∈ steps, step.Canonical) ∧ texts.flatten = render steps ∧
      ∀ value node, value.node? location = some node → resolve steps value = some node := by
  induction hspells with
  | nil => exact ⟨[], by simp, rfl, fun value node hnode => hnode⟩
  | cons hfirst _ ih =>
      rw [List.forall_mem_cons] at hplain hbounded
      obtain ⟨step, hstep, htext, hgoes⟩ := exists_step_of_spells hfirst hplain.1 hbounded.1
      obtain ⟨steps, hsteps, htexts, hresolve⟩ := ih hplain.2 hbounded.2
      refine ⟨step :: steps, List.forall_mem_cons.mpr ⟨hstep, hsteps⟩, ?_, ?_⟩
      · rw [List.flatten_cons, render_cons, htext, htexts]
      · intro value node hnode
        obtain ⟨inner, hinner, hnode⟩ := Option.bind_eq_some_iff.mp hnode
        rw [hgoes value inner hinner]
        exact hresolve inner node hnode

/-- What a step other than a wildcard leads to stands right inside the container. -/
theorem exists_place_of_resolve_cons {step : Step} (hstep : step.Canonical)
    (hwildcard : step ≠ .wildcard) {rest : List Step} {value found : Json}
    (hfound : resolve (step :: rest) value = some found) :
    ∃ place inner, value.inner? place = some inner ∧ place.IsPlain ∧
      resolve rest inner = some found := by
  cases step with
  | key name =>
      obtain ⟨inner, hchild, hrest⟩ := Option.bind_eq_some_iff.mp hfound
      cases value with
      | object members => exact ⟨.member name, inner, hchild, hstep, hrest⟩
      | array items =>
          obtain ⟨index, _, hitem⟩ := Option.bind_eq_some_iff.mp hchild
          exact ⟨.position index, inner, hitem, trivial, hrest⟩
      | _ => contradiction
  | index index =>
      obtain ⟨inner, helement, hrest⟩ := Option.bind_eq_some_iff.mp hfound
      cases value with
      | object members =>
          exact ⟨.member (toString index), inner, helement, plain_toString index, hrest⟩
      | array items => exact ⟨.position index, inner, helement, trivial, hrest⟩
      | _ => contradiction
  | wildcard => contradiction

theorem exists_location_of_resolve {steps : List Step} (hsteps : ∀ step ∈ steps, step.Canonical)
    (hwildcard : .wildcard ∉ steps) {value found : Json}
    (hfound : resolve steps value = some found) :
    ∃ location, value.node? location = some found ∧ ∀ place ∈ location, place.IsPlain := by
  induction steps generalizing value with
  | nil => exact ⟨[], hfound, by simp⟩
  | cons step rest ih =>
      rw [List.forall_mem_cons] at hsteps
      rw [List.mem_cons, not_or] at hwildcard
      obtain ⟨place, inner, hinner, hplace, hrest⟩ :=
        exists_place_of_resolve_cons hsteps.1 (Ne.symm hwildcard.1) hfound
      obtain ⟨location, hnode, hlocation⟩ := ih hsteps.2 hwildcard.2 hrest
      refine ⟨place :: location, ?_, List.forall_mem_cons.mpr ⟨hplace, hlocation⟩⟩
      rw [Json.node?, hinner, Option.bind_some, hnode]

/-- Paths address the nodes at locations with plain names.  Any text that spells such a location
picks the node there, and a path without wildcards picks the node at some such location. -/
theorem pick_location (value : Json) :
    (∀ location texts node, value.node? location = some node →
      (∀ place ∈ location, place.IsPlain) → (∀ place ∈ location, place.IsBounded) →
      List.Forall₂ Place.Spells location texts →
      pick (String.ofList texts.flatten) value = some node) ∧
    ∀ path found, .wildcard ∉ tokenize path → pick path value = some found →
      ∃ location, value.node? location = some found ∧ ∀ place ∈ location, place.IsPlain := by
  constructor
  · intro location texts node hnode hplain hbounded hspells
    obtain ⟨steps, hsteps, htext, hresolve⟩ := exists_steps_of_spells hspells hplain hbounded
    rw [pick, tokenize, String.toList_ofList, htext, steps_render hsteps]
    exact hresolve value node hnode
  · intro path found hwildcard hfound
    exact exists_location_of_resolve (steps_canonical path.toList) hwildcard hfound

def numberedRooms : Json :=
  .object [("007", .array [.null, .object [("10", .string "a"), ("x.y", .string "b")]])]

def roomLocation : List Place := [.member "007", .position 1, .member "10"]

theorem pick_location_numberedRooms :
    (numberedRooms.node? roomLocation = some (.string "a") ∧
      (∀ place ∈ roomLocation, place.IsPlain) ∧ (∀ place ∈ roomLocation, place.IsBounded) ∧
      List.Forall₂ Place.Spells roomLocation [".007".toList, ".1".toList, ".10".toList] ∧
      pick ".007.1.10" numberedRooms = some (.string "a")) ∧
    (.wildcard ∉ tokenize "[007" ∧ pick "[007" numberedRooms = some (.array
        [.null, .object [("10", .string "a"), ("x.y", .string "b")]]) ∧
      ∃ location, numberedRooms.node? location = some (.array
          [.null, .object [("10", .string "a"), ("x.y", .string "b")]]) ∧
        ∀ place ∈ location, place.IsPlain) := by
  constructor
  · have hnode : numberedRooms.node? roomLocation = some (.string "a") := by
      simp [Json.node?, Json.inner?, numberedRooms, roomLocation, Keyed.get?]
    have hplain : ∀ place ∈ roomLocation, place.IsPlain := by decide
    have hbounded : ∀ place ∈ roomLocation, place.IsBounded := by decide
    have hspells : List.Forall₂ Place.Spells roomLocation
        [".007".toList, ".1".toList, ".10".toList] :=
      .cons (.member "007") (.cons (.pointed 1) (.cons (.member "10") .nil))
    have htext : String.ofList [".007".toList, ".1".toList, ".10".toList].flatten =
        ".007.1.10" := by decide +kernel
    have hpick := (pick_location numberedRooms).1 _ _ _ hnode hplain hbounded hspells
    rw [htext] at hpick
    exact ⟨hnode, hplain, hbounded, hspells, hpick⟩
  · have hsteps : tokenize "[007" = [.key "007"] := by decide +kernel
    have hwildcard : .wildcard ∉ tokenize "[007" := by simp [hsteps]
    have hfound : pick "[007" numberedRooms = some (.array
        [.null, .object [("10", .string "a"), ("x.y", .string "b")]]) := by
      rw [pick, hsteps]
      rfl
    exact ⟨hwildcard, hfound, (pick_location numberedRooms).2 _ _ hwildcard hfound⟩

end Path

end JsonExtract
