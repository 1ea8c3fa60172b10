import Mathlib.Data.List.Perm.Basic
import JsonExtract.Proofs.Selector.Fields
import JsonExtract.Proofs.Yaml.Aliases

/-!
# Selectors with fields in any order

Decoding a field takes aliases, and the document allows only for so many, but their sum does not
depend on the order of the fields.  Nor does a draft depend on the order in which it got its parts.
So a selector that is written as a mapping is the same for every order of its fields.
-/

namespace JsonExtract.Selector

open Yaml (Document Node Route Decode)
open Yaml.Decode (ComesTo Steady andThen)

/-! ## Drafts -/

namespace Draft

theorem put_put_comm (draft : Draft) {part other : Part} (hne : part.field ≠ other.field) :
    (draft.put part).put other = (draft.put other).put part := by
  cases part <;> cases other <;> first | rfl | exact absurd rfl hne

/-- A draft with one more part at a price, if there is one and the draft does not have the field. -/
def extend (read : Option (Part × Nat)) (draft : Draft) : Option (Draft × Nat) :=
  read.bind fun priced =>
    if draft.has priced.1.field then none else some (draft.put priced.1, priced.2)

theorem extend_andThen {α : Type} (outcome : Option (α × Nat)) (next : α → Option (Part × Nat))
    (draft : Draft) :
    extend (andThen outcome next) draft =
      andThen outcome fun value => extend (next value) draft := by
  cases outcome with
  | none => rfl
  | some first =>
      cases hsecond : next first.1 with
      | none => simp [andThen, extend, hsecond]
      | some second =>
          cases hhas : draft.has second.1.field <;> simp [andThen, extend, hsecond, hhas]

def gather (gathered : Option (Draft × Nat)) (read : Option (Part × Nat)) :
    Option (Draft × Nat) :=
  andThen gathered (extend read)

theorem gather_some_some (draft : Draft) (paid : Nat) (part : Part) (price : Nat) :
    gather (some (draft, paid)) (some (part, price)) =
      if draft.has part.field then none else some (draft.put part, paid + price) := by
  by_cases hhas : draft.has part.field <;> simp [gather, andThen, extend, hhas]

theorem gather_none (read : Option (Part × Nat)) : gather none read = none :=
  rfl

theorem gather_of_none (gathered : Option (Draft × Nat)) : gather gathered none = none := by
  cases gathered <;> rfl

/-- Two parts are gathered if they are for different fields, neither of which is there before. -/
theorem gather_gather (draft : Draft) (paid : Nat) (part : Part) (price : Nat) (other : Part)
    (more : Nat) :
    gather (gather (some (draft, paid)) (some (part, price))) (some (other, more)) =
      if draft.has part.field ∨ draft.has other.field ∨ part.field = other.field then none
      else some ((draft.put part).put other, paid + price + more) := by
  rw [gather_some_some]
  by_cases hpart : draft.has part.field
  · rw [if_pos hpart, gather_none, if_pos (.inl hpart)]
  · rw [if_neg hpart, gather_some_some, has_put]
    by_cases hother : draft.has other.field <;> by_cases hsame : part.field = other.field <;>
      simp [hpart, hother, hsame]

theorem gather_right_comm (gathered : Option (Draft × Nat)) (read other : Option (Part × Nat)) :
    gather (gather gathered read) other = gather (gather gathered other) read := by
  cases gathered with
  | none => rfl
  | some held =>
      cases read with
      | none => rw [gather_of_none, gather_of_none, gather_none]
      | some first =>
          cases other with
          | none => rw [gather_of_none, gather_of_none, gather_none]
          | some second =>
              rw [gather_gather, gather_gather]
              by_cases hsame : first.1.field = second.1.field
              · rw [if_pos (.inr (.inr hsame)), if_pos (.inr (.inr hsame.symm))]
              · rw [put_put_comm held.1 hsame, Nat.add_right_comm]
                simp only [or_left_comm, eq_comm]

instance : RightCommutative gather :=
  ⟨gather_right_comm⟩

def made (draft : Draft) : Option (Selector × Nat) :=
  draft.selector.toOption.map (·, 0)

end Draft

/-! ## Reading -/

section Reading

variable {document : Document} {κ ν : Type} {reader : FieldReader Decode κ ν}

/-- Whether all that a reader does comes to something in a document, a refusal to nothing. -/
structure FieldReader.IsSteady (document : Document) (reader : FieldReader Decode κ ν) : Prop where
  name (key : κ) : Steady document (reader.name key)
  text (key : κ) (value : ν) : Steady document (reader.text key value)
  json (key : κ) (value : ν) : Steady document (reader.json key value)
  refuse {α : Type} (fault : FieldFault) : ComesTo document (reader.refuse fault : Decode α) none

theorem FieldReader.IsSteady.exists_part (hreader : reader.IsSteady document) (entry : κ × ν)
    (field : Field) :
    ∃ outcome, ComesTo document (reader.part entry field) outcome ∧
      ∀ priced ∈ outcome, priced.1.field = field := by
  have hmap {α : Type} {decode : Decode α} (hdecode : Steady document decode) (wrap : α → Part)
      (hwrap : ∀ value, (wrap value).field = field) :
      ∃ outcome, ComesTo document (wrap <$> decode) outcome ∧
        ∀ priced ∈ outcome, priced.1.field = field := by
    obtain ⟨outcome, houtcome⟩ := hdecode
    refine ⟨_, houtcome.map wrap, ?_⟩
    intro priced hpriced
    obtain ⟨value, -, rfl⟩ := Option.map_eq_some_iff.mp hpriced
    exact hwrap value.1
  cases field with
  | key => exact hmap (hreader.text entry.1 entry.2) Part.key fun _ => rfl
  | path => exact hmap (hreader.text entry.1 entry.2) Part.path fun _ => rfl
  | default => exact hmap (hreader.json entry.1 entry.2) Part.default fun _ => rfl
  | transform => exact hmap (hreader.text entry.1 entry.2) Part.transform fun _ => rfl

def Draft.taking (draft : Draft) (part : Field → Option (Part × Nat)) (name : String) :
    Option (Draft × Nat) :=
  match draft.next name with
  | .error _ => none
  | .ok field => (part field).map fun priced => (draft.put priced.1, priced.2)

theorem Draft.taking_eq (draft : Draft) {part : Field → Option (Part × Nat)}
    (hpart : ∀ field, ∀ priced ∈ part field, priced.1.field = field) (name : String) :
    draft.taking part name = Draft.extend ((Field.ofName? name).bind part) draft := by
  unfold Draft.taking Draft.next
  cases Field.ofName? name with
  | none => rfl
  | some field =>
      rw [Option.bind_some]
      cases hpriced : part field with
      | none => cases hhas : draft.has field <;> simp [extend, hhas, hpriced]
      | some priced =>
          obtain rfl : priced.1.field = field := hpart field priced hpriced
          cases hhas : draft.has priced.1.field <;> simp [extend, hhas, hpriced]

/-- An entry is read as a part at a price, or not at all, and what was read before only decides
whether the part is taken. -/
theorem FieldReader.IsSteady.exists_add (hreader : reader.IsSteady document) (entry : κ × ν) :
    ∃ read, ∀ draft, ComesTo document (reader.add draft entry) (Draft.extend read draft) := by
  obtain ⟨name, hname⟩ := hreader.name entry.1
  obtain ⟨part, hpart⟩ := Classical.skolem.mp (hreader.exists_part entry)
  refine ⟨andThen name fun name => (Field.ofName? name).bind part, fun draft => ?_⟩
  rw [FieldReader.add_eq, Draft.extend_andThen]
  simp only [← draft.taking_eq fun field => (hpart field).2]
  apply hname.bind
  intro name
  unfold Draft.taking
  cases draft.next name with
  | error fault => exact hreader.refuse fault
  | ok field => exact (hpart field).1.map draft.put

theorem FieldReader.IsSteady.comesTo_foldlM {read : κ × ν → Option (Part × Nat)}
    (hread : ∀ entry draft, ComesTo document (reader.add draft entry)
      (Draft.extend (read entry) draft)) (entries : List (κ × ν)) {decode : Decode Draft}
    {gathered : Option (Draft × Nat)} (hdecode : ComesTo document decode gathered) :
    ComesTo document (decode >>= fun draft => entries.foldlM reader.add draft)
      ((entries.map read).foldl Draft.gather gathered) := by
  induction entries generalizing decode gathered with
  | nil => simpa using hdecode
  | cons entry rest ih =>
      have hentry := hdecode.bind (hread entry)
      have hrest := ih hentry
      rw [bind_assoc] at hrest
      exact hrest

/-- A selector comes to the same for every order of its fields. -/
theorem FieldReader.IsSteady.result?_selector (hreader : reader.IsSteady document)
    {entries shuffled : List (κ × ν)} (hperm : shuffled.Perm entries) (followed : Nat) :
    (reader.selector shuffled).result? document followed =
      (reader.selector entries).result? document followed := by
  obtain ⟨read, hread⟩ := Classical.skolem.mp hreader.exists_add
  have hselector (list : List (κ × ν)) : ComesTo document (reader.selector list)
      (andThen ((list.map read).foldl Draft.gather (some (Draft.empty, 0))) Draft.made) := by
    have hdraft := comesTo_foldlM hread list (Yaml.Decode.comesTo_pure Draft.empty)
    rw [pure_bind] at hdraft
    apply hdraft.bind
    intro draft
    unfold Draft.made
    cases draft.selector with
    | error fault => exact hreader.refuse fault
    | ok selector => exact Yaml.Decode.comesTo_pure selector
  have hgathered : (shuffled.map read).foldl Draft.gather (some (Draft.empty, 0)) =
      (entries.map read).foldl Draft.gather (some (Draft.empty, 0)) :=
    (hperm.map read).foldl_eq _
  rw [hselector shuffled followed, hselector entries followed, hgathered]

end Reading

/-! ## Mappings -/

theorem selectorFields_isSteady (document : Document) (route : Route) (depth : Nat) :
    (Yaml.Decode.selectorFields route depth).IsSteady document where
  name key := Yaml.Decode.steady_text "a string" route key
  text _ value := Yaml.Decode.steady_text "a string" _ value
  json _ value := Yaml.Decode.steady_json depth _ value
  refuse fault := Yaml.Decode.comesTo_throw (.loose fault.message)

/-- A mapping is decoded as a selector alike for every order of its entries. -/
theorem result?_selector_mapping {document : Document} {entries shuffled : List (Node × Node)}
    (hperm : shuffled.Perm entries) (depth : Nat) (route : Route) (mark : Yaml.Mark)
    (tag : Option Yaml.Tag) (followed : Nat) :
    (Yaml.Decode.selector depth route (.mapping mark tag shuffled)).result? document followed =
      (Yaml.Decode.selector depth route (.mapping mark tag entries)).result? document followed := by
  unfold Yaml.Decode.selector
  rw [Yaml.Decode.result?_onNode rfl, Yaml.Decode.result?_onNode rfl]
  dsimp only
  split
  · rfl
  · cases depth with
    | zero => rfl
    | succ depth =>
        exact (selectorFields_isSteady document route depth).result?_selector hperm followed

/-- A list of fields makes a selector exactly when all of them are known, no two are the same, the
values of the key, the path and the transform are texts and that of the default is a document, the
path is there, and a transform has the name of one.  The selector is made of what the fields say,
and it is the same for every order of the fields, also where aliases are followed on the way. -/
theorem selector_in_any_order :
    (∀ (ε κ ν : Type) (readings : Readings ε κ ν) (entries : List (κ × ν)),
      ((∃ selector, readings.reader.selector entries = .ok selector) ↔
        ∃ parts, List.Forall₂ readings.Reads entries parts ∧ (parts.map Part.field).Nodup ∧
          (∃ text, .path text ∈ parts) ∧
          ∀ name, .transform name ∈ parts →
            ∃ builtin : Transform.Builtin, builtin.name = name) ∧
      (∀ selector, readings.reader.selector entries = .ok selector ↔
        ∃ parts, List.Forall₂ readings.Reads entries parts ∧ (parts.map Part.field).Nodup ∧
          selector.MadeOf parts) ∧
      ∀ others, entries.Perm others → ∀ selector,
        readings.reader.selector others = .ok selector ↔
          readings.reader.selector entries = .ok selector) ∧
    ∀ (document : Document) (entries shuffled : List (Node × Node)), shuffled.Perm entries →
      ∀ depth route mark tag followed,
        (Yaml.Decode.selector depth route (.mapping mark tag shuffled)).result? document followed =
          (Yaml.Decode.selector depth route (.mapping mark tag entries)).result? document
            followed := by
  constructor
  · intro ε κ ν readings entries
    refine ⟨Readings.exists_selector_iff, fun _ => Readings.selector_eq_ok_iff, ?_⟩
    intro others hperm selector
    exact ⟨Readings.selector_of_perm hperm.symm, Readings.selector_of_perm hperm⟩
  · intro document entries shuffled hperm depth route mark tag followed
    exact result?_selector_mapping hperm depth route mark tag followed

end JsonExtract.Selector
