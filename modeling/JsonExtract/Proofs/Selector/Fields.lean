import Mathlib.Data.List.Nodup
import Mathlib.Data.List.Perm.Basic
import JsonExtract.Proofs.Problem
import JsonExtract.Selector.Fields

/-!
# Fields in any order

A selector is read from its fields one after the other.  Each field that is read adds one part to
a draft, and a field that the draft has already is refused, so what a draft holds in the end are
the parts of all fields, whatever their order.  The selector is made of these parts.
-/

namespace JsonExtract

theorem Transform.Builtin.ofName?_eq_some_iff {name : String} {builtin : Transform.Builtin} :
    Transform.Builtin.ofName? name = some builtin ↔ name = builtin.name := by
  constructor
  · intro hfound
    have hname := List.find?_some hfound
    simp only [decide_eq_true_eq] at hname
    exact hname.symm
  · rintro rfl
    cases builtin <;> decide

namespace Selector

inductive Part where
  | key (name : String)
  | path (text : String)
  | default (value : Json)
  | transform (name : String)

def Part.field : Part → Field
  | .key _ => .key
  | .path _ => .path
  | .default _ => .default
  | .transform _ => .transform

/-- What the names and the values of entries are read as, be it texts, documents or faults, and how
the faults of fields are told. -/
structure Readings (ε κ ν : Type) where
  name : κ → Except ε String
  text : κ → ν → Except ε String
  json : κ → ν → Except ε Json
  fault : FieldFault → ε

namespace Readings

variable {ε κ ν : Type}

def reader (readings : Readings ε κ ν) : FieldReader (Except ε) κ ν where
  name := readings.name
  text := readings.text
  json := readings.json
  refuse fault := .error (readings.fault fault)

/-- Whether the value of an entry is read as that of a part: a document for the default, and a text
for all else. -/
def Says (readings : Readings ε κ ν) (entry : κ × ν) : Part → Prop
  | .key text => readings.text entry.1 entry.2 = .ok text
  | .path text => readings.text entry.1 entry.2 = .ok text
  | .default value => readings.json entry.1 entry.2 = .ok value
  | .transform text => readings.text entry.1 entry.2 = .ok text

def Reads (readings : Readings ε κ ν) (entry : κ × ν) (part : Part) : Prop :=
  readings.name entry.1 = .ok part.field.name ∧ readings.Says entry part

end Readings

/-- Whether a selector is what parts make.  The key is the path if no part gives it, there is a
default only if a part gives it, be it null, and a transform is the one with the given name. -/
structure MadeOf (selector : Selector) (parts : List Part) : Prop where
  path : .path selector.path ∈ parts
  key : .key selector.key ∈ parts ∨ (∀ name, .key name ∉ parts) ∧ selector.key = selector.path
  default (value : Json) : selector.default = some value ↔ .default value ∈ parts
  transform : (∃ builtin : Transform.Builtin, .transform builtin.name ∈ parts ∧
      selector.transform = some builtin.apply) ∨
    (∀ name, .transform name ∉ parts) ∧ selector.transform = none

/-! ## Drafts -/

theorem Field.ofName?_eq_some_iff {name : String} {field : Field} :
    Field.ofName? name = some field ↔ name = field.name := by
  constructor
  · intro hfound
    have hname := List.find?_some hfound
    simp only [decide_eq_true_eq] at hname
    exact hname.symm
  · rintro rfl
    cases field <;> decide

namespace Draft

def part? (draft : Draft) : Field → Option Part
  | .key => draft.key.map .key
  | .path => draft.path.map .path
  | .default => draft.default.map .default
  | .transform => draft.transform.map .transform

def put (draft : Draft) : Part → Draft
  | .key name => { draft with key := some name }
  | .path text => { draft with path := some text }
  | .default value => { draft with default := some value }
  | .transform name => { draft with transform := some name }

theorem has_eq_isSome (draft : Draft) (field : Field) :
    draft.has field = (draft.part? field).isSome := by
  cases field <;> simp [has, part?]

@[simp] theorem part?_empty (field : Field) : empty.part? field = none := by
  cases field <;> rfl

theorem part?_put (draft : Draft) (part : Part) (field : Field) :
    (draft.put part).part? field = if part.field = field then some part else draft.part? field := by
  cases part <;> cases field <;> rfl

theorem has_put (draft : Draft) (part : Part) (field : Field) :
    (draft.put part).has field = (decide (part.field = field) || draft.has field) := by
  rw [has_eq_isSome, has_eq_isSome, part?_put]
  by_cases hfield : part.field = field <;> simp [hfield]

theorem next_eq_ok_iff {draft : Draft} {name : String} {field : Field} :
    draft.next name = .ok field ↔ name = field.name ∧ draft.has field = false := by
  rw [← Field.ofName?_eq_some_iff, next]
  cases Field.ofName? name with
  | none => simp
  | some other => cases hhas : draft.has other <;> grind

/-- Whether parts can be added to a draft one after the other: none is for a field that the draft
has, and no two are for one field. -/
def HasRoomFor (draft : Draft) (parts : List Part) : Prop :=
  (parts.map Part.field).Nodup ∧ ∀ part ∈ parts, draft.has part.field = false

theorem hasRoomFor_cons_iff {draft : Draft} {part : Part} {rest : List Part} :
    draft.HasRoomFor (part :: rest) ↔
      draft.has part.field = false ∧ (draft.put part).HasRoomFor rest := by
  have hhas (other : Part) : (draft.put part).has other.field = false ↔
      part.field ≠ other.field ∧ draft.has other.field = false := by
    rw [has_put, Bool.or_eq_false_iff, decide_eq_false_iff_not]
  have hnew : part.field ∉ rest.map Part.field ↔ ∀ other ∈ rest, part.field ≠ other.field := by
    simp [eq_comm]
  unfold HasRoomFor
  rw [List.map_cons, List.nodup_cons, List.forall_mem_cons, hnew]
  simp only [hhas]
  constructor
  · rintro ⟨⟨hother, hnodup⟩, hpart, hrest⟩
    exact ⟨hpart, hnodup, fun other hmem => ⟨hother other hmem, hrest other hmem⟩⟩
  · rintro ⟨hpart, hnodup, hrest⟩
    exact ⟨⟨fun other hmem => (hrest other hmem).1, hnodup⟩, hpart,
      fun other hmem => (hrest other hmem).2⟩

/-- A draft to which parts were added has these parts and those that it had. -/
theorem part?_foldl_put {draft : Draft} {parts : List Part} (hroom : draft.HasRoomFor parts)
    (part : Part) :
    (parts.foldl put draft).part? part.field = some part ↔
      part ∈ parts ∨ draft.part? part.field = some part := by
  induction parts generalizing draft with
  | nil => simp
  | cons first rest ih =>
      obtain ⟨hfirst, hrest⟩ := hasRoomFor_cons_iff.mp hroom
      rw [has_eq_isSome, Option.isSome_eq_false_iff, Option.isNone_iff_eq_none] at hfirst
      rw [List.foldl_cons, ih hrest, part?_put, List.mem_cons]
      by_cases hfield : first.field = part.field
      · rw [hfield] at hfirst
        simp [hfield, hfirst, or_comm, eq_comm]
      · have hne : part ≠ first := fun heq => hfield (heq ▸ rfl)
        simp [hfield, hne]

inductive Names : Option String → Option Transform → Prop where
  | none : Names none none
  | builtin (builtin : Transform.Builtin) : Names (some builtin.name) (some builtin.apply)

theorem selector_eq_ok_iff {draft : Draft} {selector : Selector} :
    draft.selector = .ok selector ↔
      ∃ path transform, draft.path = some path ∧ Names draft.transform transform ∧
        selector = ⟨draft.key.getD path, path, draft.default, transform⟩ := by
  unfold Draft.selector
  constructor
  · intro hselector
    cases hpath : draft.path with
    | none => simp [hpath] at hselector
    | some path =>
        cases hname : draft.transform with
        | none =>
            simp only [hpath, hname, Except.ok.injEq] at hselector
            exact ⟨path, none, rfl, .none, hselector.symm⟩
        | some name =>
            cases hbuiltin : Transform.Builtin.ofName? name with
            | none => simp [hpath, hname, hbuiltin] at hselector
            | some builtin =>
                simp only [hpath, hname, hbuiltin, Except.ok.injEq] at hselector
                obtain rfl := Transform.Builtin.ofName?_eq_some_iff.mp hbuiltin
                exact ⟨path, some builtin.apply, rfl, .builtin builtin, hselector.symm⟩
  · rintro ⟨path, transform, hpath, hnames, rfl⟩
    rw [hpath]
    cases hname : draft.transform with
    | none =>
        rw [hname] at hnames
        cases hnames
        rfl
    | some name =>
        rw [hname] at hnames
        cases hnames with
        | builtin builtin =>
            have hbuiltin := Transform.Builtin.ofName?_eq_some_iff.mpr (rfl : builtin.name = _)
            simp only [hbuiltin]

def Collects (draft : Draft) (parts : List Part) : Prop :=
  ∀ part, draft.part? part.field = some part ↔ part ∈ parts

section Collects

variable {draft : Draft} {parts : List Part} (hparts : draft.Collects parts)
include hparts

theorem Collects.key {name : String} : draft.key = some name ↔ .key name ∈ parts := by
  simpa [part?, Part.field] using hparts (.key name)

theorem Collects.path {text : String} : draft.path = some text ↔ .path text ∈ parts := by
  simpa [part?, Part.field] using hparts (.path text)

theorem Collects.default {value : Json} : draft.default = some value ↔ .default value ∈ parts := by
  simpa [part?, Part.field] using hparts (.default value)

theorem Collects.transform {name : String} :
    draft.transform = some name ↔ .transform name ∈ parts := by
  simpa [part?, Part.field] using hparts (.transform name)

theorem Collects.getD_key_eq_iff {key path : String} :
    draft.key.getD path = key ↔
      .key key ∈ parts ∨ (∀ name, .key name ∉ parts) ∧ key = path := by
  simp only [← hparts.key]
  cases draft.key <;> simp [eq_comm]

theorem Collects.names_iff {transform : Option Transform} :
    Names draft.transform transform ↔
      (∃ builtin : Transform.Builtin, .transform builtin.name ∈ parts ∧
        transform = some builtin.apply) ∨
      (∀ name, .transform name ∉ parts) ∧ transform = none := by
  simp only [← hparts.transform]
  constructor
  · intro hnames
    cases hname : draft.transform with
    | none =>
        rw [hname] at hnames
        cases hnames
        exact .inr ⟨by simp, rfl⟩
    | some name =>
        rw [hname] at hnames
        cases hnames with
        | builtin builtin => exact .inl ⟨builtin, rfl, rfl⟩
  · rintro (⟨builtin, hname, rfl⟩ | ⟨habsent, rfl⟩)
    · rw [hname]
      exact .builtin builtin
    · rw [Option.eq_none_iff_forall_ne_some.mpr habsent]
      exact .none

/-- A draft makes the selector that its parts make. -/
theorem Collects.selector_eq_ok_iff {selector : Selector} :
    draft.selector = .ok selector ↔ selector.MadeOf parts := by
  rw [Draft.selector_eq_ok_iff]
  constructor
  · rintro ⟨path, transform, hpath, hnames, rfl⟩
    exact ⟨hparts.path.mp hpath, hparts.getD_key_eq_iff.mp rfl, fun _ => hparts.default,
      hparts.names_iff.mp hnames⟩
  · intro hmade
    refine ⟨selector.path, selector.transform, hparts.path.mpr hmade.path,
      hparts.names_iff.mpr hmade.transform, ?_⟩
    have hkey : draft.key.getD selector.path = selector.key :=
      hparts.getD_key_eq_iff.mpr hmade.key
    have hdefault : draft.default = selector.default := by
      apply Option.ext
      intro value
      exact hparts.default.trans (hmade.default value).symm
    rw [hkey, hdefault]

end Collects

theorem hasRoomFor_empty {parts : List Part} (hnodup : (parts.map Part.field).Nodup) :
    empty.HasRoomFor parts :=
  ⟨hnodup, fun part _ => by rw [has_eq_isSome, part?_empty, Option.isSome_none]⟩

theorem collects_foldl_put {parts : List Part} (hnodup : (parts.map Part.field).Nodup) :
    (parts.foldl put empty).Collects parts := by
  intro part
  rw [part?_foldl_put (hasRoomFor_empty hnodup), part?_empty]
  simp

end Draft

/-! ## Parts -/

section Parts

variable {selector : Selector} {parts : List Part}

theorem MadeOf.exists_builtin (hmade : selector.MadeOf parts)
    (hnodup : (parts.map Part.field).Nodup) (name : String) (hname : .transform name ∈ parts) :
    ∃ builtin : Transform.Builtin, builtin.name = name := by
  rcases hmade.transform with ⟨builtin, hbuiltin, -⟩ | ⟨habsent, -⟩
  · have hsame := List.inj_on_of_nodup_map hnodup hbuiltin hname rfl
    exact ⟨builtin, Part.transform.inj hsame⟩
  · exact absurd hname (habsent name)

/-- Parts make a selector if the path is among them and a transform has the name of one. -/
theorem exists_madeOf (hnodup : (parts.map Part.field).Nodup) (hpath : ∃ text, .path text ∈ parts)
    (hbuiltin : ∀ name, .transform name ∈ parts →
      ∃ builtin : Transform.Builtin, builtin.name = name) :
    ∃ selector : Selector, selector.MadeOf parts := by
  have hcollects := Draft.collects_foldl_put hnodup
  obtain ⟨path, hpath⟩ := hpath
  have hnames : ∃ transform,
      Draft.Names (parts.foldl Draft.put Draft.empty).transform transform := by
    cases hname : (parts.foldl Draft.put Draft.empty).transform with
    | none => exact ⟨none, .none⟩
    | some name =>
        obtain ⟨builtin, rfl⟩ := hbuiltin name (hcollects.transform.mp hname)
        exact ⟨some builtin.apply, .builtin builtin⟩
  obtain ⟨transform, hnames⟩ := hnames
  have hselector :=
    Draft.selector_eq_ok_iff.mpr ⟨path, transform, hcollects.path.mpr hpath, hnames, rfl⟩
  exact ⟨_, hcollects.selector_eq_ok_iff.mp hselector⟩

theorem MadeOf.of_perm {others : List Part} (hperm : parts.Perm others)
    (hmade : selector.MadeOf parts) : selector.MadeOf others := by
  obtain ⟨hpath, hkey, hdefault, htransform⟩ := hmade
  simp only [hperm.mem_iff] at hpath hkey hdefault htransform
  exact ⟨hpath, hkey, hdefault, htransform⟩

end Parts

/-! ## Reading -/

def FieldReader.part {m : Type → Type} [Monad m] {κ ν : Type} (reader : FieldReader m κ ν)
    (entry : κ × ν) : Field → m Part
  | .key => Part.key <$> reader.text entry.1 entry.2
  | .path => Part.path <$> reader.text entry.1 entry.2
  | .default => Part.default <$> reader.json entry.1 entry.2
  | .transform => Part.transform <$> reader.text entry.1 entry.2

theorem FieldReader.add_eq {m : Type → Type} [Monad m] [LawfulMonad m] {κ ν : Type}
    (reader : FieldReader m κ ν) (draft : Draft) (entry : κ × ν) :
    reader.add draft entry = (do
      let name ← reader.name entry.1
      match draft.next name with
      | .error fault => reader.refuse fault
      | .ok field => draft.put <$> reader.part entry field) := by
  unfold add
  congr 1
  funext name
  cases draft.next name with
  | error fault => rfl
  | ok field => cases field <;> simp [part, Draft.put]

namespace Readings

variable {ε κ ν : Type} {readings : Readings ε κ ν} {entries : List (κ × ν)}

theorem part_eq_ok_iff {entry : κ × ν} {field : Field} {part : Part} :
    readings.reader.part entry field = .ok part ↔
      part.field = field ∧ readings.Says entry part := by
  constructor
  · intro hpart
    cases field with
    | key | path | default | transform =>
        obtain ⟨value, hvalue, rfl⟩ := Problem.fmap_eq_ok_iff.mp hpart
        exact ⟨rfl, hvalue⟩
  · rintro ⟨rfl, hsays⟩
    cases part with
    | key value | path value | default value | transform value =>
        exact Problem.fmap_eq_ok_iff.mpr ⟨value, hsays, rfl⟩

/-- One more entry is one more part, if the entry is read and its field is new. -/
theorem add_eq_ok_iff {draft next : Draft} {entry : κ × ν} :
    readings.reader.add draft entry = .ok next ↔
      ∃ part, readings.Reads entry part ∧ draft.has part.field = false ∧ next = draft.put part := by
  rw [FieldReader.add_eq]
  constructor
  · intro hadd
    obtain ⟨name, hname, hadd⟩ := Problem.bind_eq_ok_iff.mp hadd
    cases hnext : draft.next name with
    | error fault => simp [hnext, reader] at hadd
    | ok field =>
        obtain ⟨rfl, hnew⟩ := Draft.next_eq_ok_iff.mp hnext
        simp only [hnext] at hadd
        obtain ⟨part, hpart, rfl⟩ := Problem.fmap_eq_ok_iff.mp hadd
        obtain ⟨rfl, hsays⟩ := part_eq_ok_iff.mp hpart
        exact ⟨part, ⟨hname, hsays⟩, hnew, rfl⟩
  · rintro ⟨part, ⟨hname, hsays⟩, hnew, rfl⟩
    have hnext : draft.next part.field.name = .ok part.field :=
      Draft.next_eq_ok_iff.mpr ⟨rfl, hnew⟩
    refine Problem.bind_eq_ok_iff.mpr ⟨part.field.name, hname, ?_⟩
    simp only [hnext]
    exact Problem.fmap_eq_ok_iff.mpr ⟨part, part_eq_ok_iff.mpr ⟨rfl, hsays⟩, rfl⟩

/-- Entries are read one after the other exactly when each of them is, and no field is repeated. -/
theorem foldlM_add_eq_ok_iff {draft final : Draft} :
    entries.foldlM readings.reader.add draft = .ok final ↔
      ∃ parts, List.Forall₂ readings.Reads entries parts ∧ draft.HasRoomFor parts ∧
        final = parts.foldl Draft.put draft := by
  induction entries generalizing draft with
  | nil =>
      constructor
      · intro hfinal
        obtain rfl := Except.ok.inj hfinal
        exact ⟨[], .nil, ⟨List.nodup_nil, by simp⟩, rfl⟩
      · rintro ⟨parts, hreads, -, rfl⟩
        cases hreads
        rfl
  | cons entry rest ih =>
      rw [List.foldlM_cons]
      constructor
      · intro hfinal
        obtain ⟨next, hadd, hrest⟩ := Problem.bind_eq_ok_iff.mp hfinal
        obtain ⟨part, hreads, hnew, rfl⟩ := add_eq_ok_iff.mp hadd
        obtain ⟨parts, hparts, hroom, rfl⟩ := ih.mp hrest
        exact ⟨part :: parts, .cons hreads hparts, Draft.hasRoomFor_cons_iff.mpr ⟨hnew, hroom⟩, rfl⟩
      · rintro ⟨parts, hreads, hroom, rfl⟩
        cases hreads with
        | cons hreads hparts =>
            obtain ⟨hnew, hroom⟩ := Draft.hasRoomFor_cons_iff.mp hroom
            refine Problem.bind_eq_ok_iff.mpr ⟨_, add_eq_ok_iff.mpr ⟨_, hreads, hnew, rfl⟩, ?_⟩
            exact ih.mpr ⟨_, hparts, hroom, rfl⟩

/-- Entries make a selector exactly when they are read as parts for different fields and the
selector is made of these parts. -/
theorem selector_eq_ok_iff {selector : Selector} :
    readings.reader.selector entries = .ok selector ↔
      ∃ parts, List.Forall₂ readings.Reads entries parts ∧ (parts.map Part.field).Nodup ∧
        selector.MadeOf parts := by
  constructor
  · intro hselector
    obtain ⟨draft, hdraft, hselector⟩ := Problem.bind_eq_ok_iff.mp hselector
    obtain ⟨parts, hreads, hroom, rfl⟩ := foldlM_add_eq_ok_iff.mp hdraft
    cases hmade : (parts.foldl Draft.put Draft.empty).selector with
    | error fault => simp [hmade, reader] at hselector
    | ok made =>
        simp only [hmade] at hselector
        obtain rfl := Except.ok.inj hselector
        have hcollects := Draft.collects_foldl_put hroom.1
        exact ⟨parts, hreads, hroom.1, hcollects.selector_eq_ok_iff.mp hmade⟩
  · rintro ⟨parts, hreads, hnodup, hmade⟩
    have hdraft := foldlM_add_eq_ok_iff.mpr ⟨parts, hreads, Draft.hasRoomFor_empty hnodup, rfl⟩
    have hselector := (Draft.collects_foldl_put hnodup).selector_eq_ok_iff.mpr hmade
    refine Problem.bind_eq_ok_iff.mpr ⟨_, hdraft, ?_⟩
    simp only [hselector]
    rfl

theorem selector_of_perm {others : List (κ × ν)} (hperm : entries.Perm others) {selector : Selector}
    (hselector : readings.reader.selector entries = .ok selector) :
    readings.reader.selector others = .ok selector := by
  obtain ⟨parts, hreads, hnodup, hmade⟩ := selector_eq_ok_iff.mp hselector
  obtain ⟨shuffled, hshuffled, hparts⟩ := List.perm_comp_forall₂ hperm.symm hreads
  refine selector_eq_ok_iff.mpr ⟨shuffled, hshuffled, ?_, hmade.of_perm hparts.symm⟩
  exact (hparts.map Part.field).nodup_iff.mpr hnodup

theorem exists_selector_iff :
    (∃ selector, readings.reader.selector entries = .ok selector) ↔
      ∃ parts, List.Forall₂ readings.Reads entries parts ∧ (parts.map Part.field).Nodup ∧
        (∃ text, .path text ∈ parts) ∧
        ∀ name, .transform name ∈ parts →
          ∃ builtin : Transform.Builtin, builtin.name = name := by
  simp only [selector_eq_ok_iff]
  constructor
  · rintro ⟨selector, parts, hreads, hnodup, hmade⟩
    exact ⟨parts, hreads, hnodup, ⟨_, hmade.path⟩, hmade.exists_builtin hnodup⟩
  · rintro ⟨parts, hreads, hnodup, hpath, hbuiltin⟩
    obtain ⟨selector, hmade⟩ := exists_madeOf hnodup hpath hbuiltin
    exact ⟨selector, parts, hreads, hnodup, hmade⟩

end Readings

end Selector

end JsonExtract
