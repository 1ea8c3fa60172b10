import Mathlib.Data.List.Nodup
import JsonExtract.Proofs.Yaml.Writing

/-!
# Specifications written as nodes

A selector is written as a mapping of its key, its path and its default, if it has one, and a
specification as a mapping of its address, its way with numeric strings and its selectors.  The
fields of a mapping may come in any order.  What is written in this way is read back exactly if
no default has more containers inside each other than three levels of a specification leave room
for.
-/

namespace JsonExtract

/-! ## Fields in any order -/

/-- Fields are collected one by one.  If a new field takes a draft that holds some fields to the
draft that holds it too, then all fields of a list take the draft of none to the draft of all of
them. -/
theorem foldlM_holding {m : Type → Type} [Monad m] [LawfulMonad m] {φ ε δ : Type}
    (holding : List φ → δ) {add : δ → ε → m δ} {written : φ → ε → Prop}
    (hadd : ∀ {done field entry}, field ∉ done → written field entry →
      add (holding done) entry = pure (holding (field :: done)))
    {fields : List φ} {entries : List ε} (hentries : List.Forall₂ written fields entries)
    (hnodup : fields.Nodup) :
    entries.foldlM add (holding []) = pure (holding fields.reverse) := by
  -- The induction goes on from a draft that holds some fields, so it is about any such draft.
  suffices hrun : ∀ done, (fields ++ done).Nodup →
      entries.foldlM add (holding done) = pure (holding (fields.reverse ++ done)) by
    have h := hrun []
    rw [List.append_nil, List.append_nil] at h
    exact h hnodup
  clear hnodup
  induction hentries with
  | nil =>
      intro done _
      rfl
  | @cons field entry fields entries hfield _ ih =>
      intro done hnodup
      have hnew : field ∉ done := by
        rw [List.cons_append, List.nodup_cons, List.mem_append, not_or] at hnodup
        exact hnodup.1.2
      rw [List.cons_append, ← List.nodup_middle] at hnodup
      rw [List.foldlM_cons, hadd hnew hfield, pure_bind, ih _ hnodup, List.reverse_cons,
        List.append_assoc, List.singleton_append]

open Yaml (Decode Node Route)

namespace Selector

/-! ## Selectors -/

theorem Field.ofName?_name (field : Field) : Field.ofName? field.name = some field := by
  cases field <;> decide

def Field.WrittenAs (selector : Selector) (field : Field) (entry : Node × Node) : Prop :=
  entry.1.HasText field.name ∧
    match field with
    | .key => entry.2.HasText selector.key
    | .path => entry.2.HasText selector.path
    | .default => ∃ value, selector.default = some value ∧ entry.2.Writes value
    | .transform => False

/-- Whether a node writes a selector with its key, its path and its default. -/
inductive WrittenAs (selector : Selector) : Node → Prop where
  | mapping {mark : Yaml.Mark} {fields : List Field} {entries : List (Node × Node)}
      (hnodup : fields.Nodup) (hkey : .key ∈ fields) (hpath : .path ∈ fields)
      (hdefault : .default ∈ fields ↔ selector.default.isSome)
      (htransform : selector.transform = none)
      (hentries : List.Forall₂ (Field.WrittenAs selector) fields entries) :
      WrittenAs selector (.mapping mark none entries)

def AllWrittenAs (selectors : List Selector) : Node → Prop
  | .sequence _ none nodes => List.Forall₂ WrittenAs selectors nodes
  | _ => False

/-- Whether the defaults of selectors have at most so many containers inside each other. -/
def DefaultsNestWithin (depth : Nat) (selectors : List Selector) : Prop :=
  ∀ selector ∈ selectors, ∀ value, selector.default = some value → value.NestsWithin depth

def Draft.holding (selector : Selector) (done : List Field) : Draft where
  key := if .key ∈ done then some selector.key else none
  path := if .path ∈ done then some selector.path else none
  default := if .default ∈ done then selector.default else none
  transform := none

theorem Draft.next_holding {selector : Selector} {done : List Field} {field : Field}
    (hnew : field ∉ done) : (Draft.holding selector done).next field.name = .ok field := by
  have hhas : (Draft.holding selector done).has field = false := by
    cases field <;> simp [Draft.holding, Draft.has, hnew]
  simp only [Draft.next, Field.ofName?_name, hhas, Bool.false_eq_true, if_false]

end Selector

namespace Yaml.Decode

/-- One more field of a selector is read. -/
theorem selectorFields_add {selector : Selector} {depth : Nat}
    (hroom : ∀ value, selector.default = some value → value.NestsWithin depth) (route : Route)
    {done : List Selector.Field} {field : Selector.Field} {entry : Node × Node}
    (hnew : field ∉ done) (hfield : field.WrittenAs selector entry) :
    (selectorFields route depth).add (.holding selector done) entry =
      pure (.holding selector (field :: done)) := by
  obtain ⟨hname, hvalue⟩ := hfield
  rw [Selector.FieldReader.add]
  simp only [selectorFields, text_of_hasText hname, pure_bind, Selector.Draft.next_holding hnew]
  cases field with
  | key => simp [text_of_hasText hvalue, Selector.Draft.holding]
  | path => simp [text_of_hasText hvalue, Selector.Draft.holding]
  | default =>
      obtain ⟨value, hdefault, hwrites⟩ := hvalue
      simp [json_of_writes hwrites (hroom value hdefault), Selector.Draft.holding, hdefault]
  | transform => exact hvalue.elim

/-- All fields of a selector make the selector. -/
theorem selectorFields_selector {selector : Selector} {depth : Nat}
    (hroom : ∀ value, selector.default = some value → value.NestsWithin depth) (route : Route)
    {fields : List Selector.Field} {entries : List (Node × Node)} (hnodup : fields.Nodup)
    (hkey : .key ∈ fields) (hpath : .path ∈ fields)
    (hdefault : .default ∈ fields ↔ selector.default.isSome)
    (htransform : selector.transform = none)
    (hentries : List.Forall₂ (Selector.Field.WrittenAs selector) fields entries) :
    (selectorFields route depth).selector entries = pure selector := by
  have hdraft : entries.foldlM (selectorFields route depth).add Selector.Draft.empty =
      pure (.holding selector fields.reverse) :=
    foldlM_holding (Selector.Draft.holding selector) (selectorFields_add hroom route) hentries
      hnodup
  have hmade : (Selector.Draft.holding selector fields.reverse).selector = .ok selector := by
    obtain ⟨key, path, default, transform⟩ := selector
    cases htransform
    cases default with
    | none => simp [Selector.Draft.selector, Selector.Draft.holding, hkey, hpath]
    | some value =>
        simp only [Option.isSome_some, iff_true] at hdefault
        simp [Selector.Draft.selector, Selector.Draft.holding, hkey, hpath, hdefault]
  rw [Selector.FieldReader.selector, hdraft, pure_bind, hmade]

theorem selector_of_writtenAs {selector : Selector} {node : Node} {depth : Nat}
    (hwritten : selector.WrittenAs node)
    (hroom : ∀ value, selector.default = some value → value.NestsWithin depth) (route : Route) :
    Decode.selector (depth + 1) route node = pure selector := by
  cases hwritten with
  | mapping hnodup hkey hpath hdefault htransform hentries =>
      refine onNode_eq_pure rfl ?_
      simp only [Option.any_none, Bool.false_eq_true, if_false]
      exact selectorFields_selector hroom route hnodup hkey hpath hdefault htransform hentries

theorem selectors_of_allWrittenAs {selectors : List Selector} {node : Node} {depth : Nat}
    (hwritten : Selector.AllWrittenAs selectors node)
    (hroom : Selector.DefaultsNestWithin depth selectors) (route : Route) :
    Decode.selectors route (depth + 2) node = pure selectors := by
  cases node with
  | sequence mark tag nodes =>
      cases tag with
      | none =>
          refine onNode_eq_pure rfl (eachItem_eq_pure ?_)
          refine ((List.forall₂_and_left _ _).mpr ⟨hroom, hwritten⟩).imp ?_
          intro selector node hselector
          exact selector_of_writtenAs hselector.2 hselector.1
      | some tag => exact hwritten.elim
  | _ => exact hwritten.elim

theorem selectorFields_add_fails {selector : Selector} {value : Json} {depth : Nat}
    {entry : Node × Node} (hdefault : selector.default = some value)
    (hdeep : ¬ value.NestsWithin depth) (hentry : Selector.Field.default.WrittenAs selector entry)
    (route : Route) (draft : Selector.Draft) :
    ((selectorFields route depth).add draft entry).Fails := by
  obtain ⟨hname, other, hother, hwrites⟩ := hentry
  cases hdefault.symm.trans hother
  rw [Selector.FieldReader.add]
  simp only [selectorFields, text_of_hasText hname, pure_bind, Selector.Draft.next,
    Selector.Field.ofName?_name]
  -- A draft that has a default complains about the second one before it is read.
  cases draft.has .default with
  | true => exact fails_throw _
  | false => exact (json_fails hwrites hdeep _).bind _

theorem selector_fails {selector : Selector} {value : Json} {node : Node} {depth : Nat}
    (hwritten : selector.WrittenAs node) (hdefault : selector.default = some value)
    (hdeep : ¬ value.NestsWithin depth) (route : Route) :
    (Decode.selector (depth + 1) route node).Fails := by
  cases hwritten with
  | mapping _ _ _ hfields _ hentries =>
      have hfield := hfields.mpr (Option.isSome_iff_exists.mpr ⟨value, hdefault⟩)
      obtain ⟨entry, hentry, hspells⟩ := exists_mem_of_forall₂ hentries hfield
      refine onNode_fails rfl ?_ route
      simp only [Option.any_none, Bool.false_eq_true, if_false]
      have hadd := selectorFields_add_fails hdefault hdeep hspells route
      exact (foldlM_fails hentry hadd _).bind _

theorem selectors_fails {selectors : List Selector} {node : Node} {depth : Nat}
    (hwritten : Selector.AllWrittenAs selectors node)
    (hdeep : ¬ Selector.DefaultsNestWithin depth selectors) (route : Route) :
    (Decode.selectors route (depth + 2) node).Fails := by
  simp only [Selector.DefaultsNestWithin, not_forall] at hdeep
  obtain ⟨selector, hmem, value, hdefault, hdeep⟩ := hdeep
  cases node with
  | sequence mark tag nodes =>
      cases tag with
      | none =>
          obtain ⟨node, hnode, hselector⟩ := exists_mem_of_forall₂ hwritten hmem
          refine onNode_fails rfl (mapM_zipIdx_fails hnode ?_ 0) route
          intro position
          exact selector_fails hselector hdefault hdeep _
      | some tag => exact hwritten.elim
  | _ => exact hwritten.elim

end Yaml.Decode

namespace Specification

/-! ## Specifications -/

theorem Field.ofName?_name (field : Field) : Field.ofName? field.name = some field := by
  cases field <;> decide

def Field.WrittenAs (specification : Specification) (field : Field) (entry : Node × Node) : Prop :=
  entry.1.HasText field.name ∧
    match field with
    | .url => entry.2.HasText specification.url
    | .coerces => entry.2.HasBool specification.coerces
    | .selectors => Selector.AllWrittenAs specification.selectors entry.2
    | .headers => False
    | .timeout => False

/-- Whether a node writes a specification with its address, its way with numeric strings and its
selectors. -/
inductive WrittenAs (specification : Specification) : Node → Prop where
  | mapping {mark : Yaml.Mark} {fields : List Field} {entries : List (Node × Node)}
      (hnodup : fields.Nodup) (hurl : .url ∈ fields) (hselectors : .selectors ∈ fields)
      (hcoerces : .coerces ∈ fields ∨ specification.coerces = false)
      (hheaders : specification.headers = .empty) (htimeout : specification.timeout = none)
      (hentries : List.Forall₂ (Field.WrittenAs specification) fields entries) :
      WrittenAs specification (.mapping mark none entries)

def Draft.holding (specification : Specification) (done : List Field) : Draft where
  url := if .url ∈ done then some specification.url else none
  headers := none
  timeout := none
  coerces := if .coerces ∈ done then some specification.coerces else none
  selectors := if .selectors ∈ done then some specification.selectors else none

theorem readField_of_hasText {field : Field} {key : Node} (hkey : key.HasText field.name) :
    readField key = pure field := by
  cases key with
  | scalar mark tag text style =>
      cases hkey
      refine Decode.onNode_eq_pure rfl ?_
      simp only [Field.ofName?_name]
  | _ => exact hkey.elim

theorem addField_holding {specification : Specification} {depth : Nat}
    (hroom : Selector.DefaultsNestWithin depth specification.selectors)
    {done : List Field} {field : Field} {entry : Node × Node}
    (hnew : field ∉ done) (hfield : field.WrittenAs specification entry) :
    addField (depth + 2) (.holding specification done) entry =
      pure (.holding specification (field :: done)) := by
  obtain ⟨hname, hvalue⟩ := hfield
  have hhas : (Draft.holding specification done).has field = false := by
    cases field <;> simp [Draft.holding, Draft.has, hnew]
  rw [addField]
  simp only [readField_of_hasText hname, pure_bind, hhas, Bool.false_eq_true, if_false]
  cases field with
  | url => simp [Decode.text_of_hasText hvalue, Draft.holding]
  | coerces => simp [Decode.bool_of_hasBool hvalue, Draft.holding]
  | selectors => simp [Decode.selectors_of_allWrittenAs hvalue hroom, Draft.holding]
  | headers => exact hvalue.elim
  | timeout => exact hvalue.elim

/-- A specification is read back from a node that writes it, if there is room for its defaults
three levels down. -/
theorem decode_of_writtenAs {specification : Specification} {root : Node} {depth : Nat}
    (hwritten : specification.WrittenAs root)
    (hroom : Selector.DefaultsNestWithin depth specification.selectors) :
    decode (depth + 3) root = pure specification := by
  cases hwritten with
  | @mapping mark fields entries hnodup hurl hselectors hcoerces hheaders htimeout hentries =>
      have hdraft : entries.foldlM (addField (depth + 2)) Draft.empty =
          pure (.holding specification fields.reverse) :=
        foldlM_holding (Draft.holding specification) (addField_holding hroom) hentries hnodup
      have hcoerced : (Draft.holding specification fields.reverse).coerces.getD false =
          specification.coerces := by
        rcases hcoerces with hmem | hfalse
        · simp [Draft.holding, hmem]
        · by_cases hmem : Field.coerces ∈ fields <;> simp [Draft.holding, hmem, hfalse]
      refine Decode.onNode_eq_pure rfl ?_
      simp only [Decode.deeper, hdraft, pure_bind, hcoerced]
      obtain ⟨url, headers, timeout, coerces, selectors⟩ := specification
      dsimp only at hheaders htimeout
      subst headers timeout
      simp [Draft.holding, hurl, hselectors]

theorem addField_fails {specification : Specification} {entry : Node × Node} {depth : Nat}
    (hdeep : ¬ Selector.DefaultsNestWithin depth specification.selectors)
    (hentry : Field.selectors.WrittenAs specification entry) (draft : Draft) :
    (addField (depth + 2) draft entry).Fails := by
  obtain ⟨hname, hvalue⟩ := hentry
  rw [addField]
  simp only [readField_of_hasText hname, pure_bind]
  cases draft.has .selectors with
  | true => exact Decode.fails_throw _
  | false => exact (Decode.selectors_fails hvalue hdeep _).bind _

theorem decode_fails {specification : Specification} {root : Node} {depth : Nat}
    (hwritten : specification.WrittenAs root)
    (hdeep : ¬ Selector.DefaultsNestWithin depth specification.selectors) :
    (decode (depth + 3) root).Fails := by
  cases hwritten with
  | mapping _ _ hselectors _ _ _ hentries =>
      obtain ⟨entry, hentry, hspells⟩ := Yaml.exists_mem_of_forall₂ hentries hselectors
      refine Decode.onNode_fails rfl ?_ []
      exact (Decode.foldlM_fails hentry (addField_fails hdeep hspells) _).bind _

/-! ## Texts -/

/-- Whether a text holds one document, and the document writes a specification. -/
def WrittenIn (specification : Specification) (text : String) : Prop :=
  ∃ document root, Yaml.Document.ofText text = .ok document ∧ document.root = some root ∧
    specification.WrittenAs root

/-- The greatest number of containers that a default in a specification may have inside each
other. -/
def defaultNestingLimit : Nat := nestingLimit - 3

def rootPasses (test : Node → Bool) : Except Yaml.Malformed Yaml.Document → Bool
  | .ok document => document.root.any test
  | .error _ => false

theorem exists_root_of_rootPasses {test : Node → Bool} {text : String}
    (htest : rootPasses test (Yaml.Document.ofText text) = true) :
    ∃ document root, Yaml.Document.ofText text = .ok document ∧ document.root = some root ∧
      test root = true := by
  cases hread : Yaml.Document.ofText text with
  | error fault =>
      rw [hread] at htest
      contradiction
  | ok document =>
      rw [hread, rootPasses, Option.any_eq_true] at htest
      obtain ⟨root, hroot, hpasses⟩ := htest
      exact ⟨document, root, rfl, hroot, hpasses⟩

theorem ofYaml_of_decode {α : Type} {decode : Nat → Node → Decode α} {text : String}
    {document : Yaml.Document} {root : Node} {value : α}
    (hdocument : Yaml.Document.ofText text = .ok document) (hroot : document.root = some root)
    (hdecode : decode nestingLimit root = pure value) : ofYaml decode text = .ok value := by
  simp only [ofYaml, hdocument, hroot, Option.getD_some, hdecode]
  rfl

theorem ofText_of_writtenIn {specification : Specification} {text : String}
    (hwritten : specification.WrittenIn text)
    (hroom : Selector.DefaultsNestWithin defaultNestingLimit specification.selectors) :
    ofText text = .ok specification := by
  obtain ⟨document, root, hdocument, hroot, hwrites⟩ := hwritten
  exact ofYaml_of_decode hdocument hroot (decode_of_writtenAs hwrites hroom)

theorem ofText_of_not_nestsWithin {specification : Specification} {text : String}
    (hwritten : specification.WrittenIn text)
    (hdeep : ¬ Selector.DefaultsNestWithin defaultNestingLimit specification.selectors) :
    ∃ details, ofText text = .error (.invalidSpec details) := by
  obtain ⟨document, root, hdocument, hroot, hwrites⟩ := hwritten
  have hfails : (decode nestingLimit root).Fails := decode_fails hwrites hdeep
  obtain ⟨complaint, hcomplaint⟩ := hfails document 0
  refine ⟨complaint.message, ?_⟩
  simp only [ofText, ofYaml, hdocument, hroot, Option.getD_some, hcomplaint]

end Specification

end JsonExtract
