import JsonExtract.Proofs.Json.Reading
import JsonExtract.Proofs.Specification.Writing
import JsonExtract.Proofs.Text.Unquoted
import JsonExtract.Selector.Argument

/-!
# Selectors spelled as arguments

A selector is spelled as its key, an equals sign and its path, or as its path alone if that is
its key as well, and a default follows after two question marks.  What an argument spells is what
it gives, and it is what the same selector gives when it is written as YAML.
-/

namespace JsonExtract.Selector

/-! ## Spelling -/

structure IsPart (part : String) : Prop where
  nonempty : part ≠ ""
  trimmed : Text.IsTrimmed part.toList
  plain : Text.IsPlain part.toList
  absent : ¬ ['?', '?'] <:+: part.toList

/-- The text in front of a default, with the key and the path that it spells. -/
inductive SpellsHead : String → String → String → Prop where
  | keyed {key path before after : String} (hkey : IsPart key) (hpath : IsPart path)
      (hsingle : '=' ∉ key.toList) (hbefore : Text.IsBlanks before.toList)
      (hafter : Text.IsBlanks after.toList) :
      SpellsHead (key ++ before ++ "=" ++ after ++ path) key path
  | bare {path : String} (hpath : IsPart path) (hsingle : '=' ∉ path.toList) :
      SpellsHead path path path

/-- The arguments that spell a selector. -/
inductive Spells : String → Selector → Prop where
  | plain {head key path : String} (hhead : SpellsHead head key path) :
      Spells head ⟨key, path, none, none⟩
  | defaulted {head key path gap space text : String} {value : Json}
      (hhead : SpellsHead head key path) (hgap : Text.IsBlanks gap.toList) (hopen : gap ≠ "")
      (hspace : Text.IsBlanks space.toList) (hdefault : Json.ofText text = .ok value) :
      Spells (head ++ gap ++ "??" ++ space ++ text) ⟨key, path, some value, none⟩

/-! ## Heads -/

theorem ne_of_isBlank {c other : Char} (hc : Text.isBlank c = true)
    (hother : Text.isBlank other = false) : c ≠ other := by
  rintro rfl
  rw [hc] at hother
  contradiction

theorem isPlain_of_isBlanks {text : List Char} (htext : Text.IsBlanks text) :
    Text.IsPlain text := by
  intro c hc
  have hblank := htext c hc
  exact ⟨ne_of_isBlank hblank (by decide), ne_of_isBlank hblank (by decide)⟩

theorem notMem_of_isBlanks {text : List Char} (htext : Text.IsBlanks text) {c : Char}
    (hc : Text.isBlank c = false) : c ∉ text := by
  intro hmem
  exact ne_of_isBlank (htext c hmem) hc rfl

theorem disjoint_of_isBlanks {text : List Char} (htext : Text.IsBlanks text) :
    ∀ c ∈ text, c ∉ ['?', '?'] := by
  intro c hc
  have hne : c ≠ '?' := ne_of_isBlank (htext c hc) (by decide)
  simp [hne]

theorem IsPart.toList_ne_nil {part : String} (hpart : IsPart part) : part.toList ≠ [] :=
  fun hnil => hpart.nonempty (String.toList_eq_nil_iff.mp hnil)

namespace SpellsHead

variable {head key path : String}

theorem toList_keyed (key before after path : String) :
    (key ++ before ++ "=" ++ after ++ path).toList =
      key.toList ++ ((before.toList ++ ['='] ++ after.toList) ++ path.toList) := by
  simp

/-- What stands between a key and its path. -/
theorem disjoint_separator {before after : List Char} (hbefore : Text.IsBlanks before)
    (hafter : Text.IsBlanks after) :
    ∀ c ∈ before ++ ['='] ++ after, c ∉ ['?', '?'] := by
  have hequals : '=' ∉ ['?', '?'] := by decide
  simp only [List.forall_mem_append, List.forall_mem_singleton]
  exact ⟨⟨disjoint_of_isBlanks hbefore, hequals⟩, disjoint_of_isBlanks hafter⟩

/-- A head can be told from its key, its path and a default, as one part can. -/
theorem isPart (hhead : SpellsHead head key path) : IsPart head := by
  cases hhead with
  | bare hpath _ => exact hpath
  | @keyed _ _ before after hkey hpath hsingle hbefore hafter =>
      have hequals : Text.IsPlain ['='] := by decide
      constructor
      · intro hempty
        have hnil := congrArg String.toList hempty
        rw [toList_keyed] at hnil
        exact hkey.toList_ne_nil (List.append_eq_nil_iff.mp hnil).1
      · rw [toList_keyed]
        exact hkey.trimmed.enclose hpath.trimmed hkey.toList_ne_nil hpath.toList_ne_nil _
      · rw [toList_keyed]
        have hseparator := (isPlain_of_isBlanks hbefore).append hequals
        exact hkey.plain.append
          ((hseparator.append (isPlain_of_isBlanks hafter)).append hpath.plain)
      · rw [toList_keyed]
        intro hoccurs
        have hsides := Text.infix_of_infix_separated (by simp)
          (disjoint_separator hbefore hafter) hoccurs
        exact hsides.elim hkey.absent hpath.absent

theorem keyAndPath_eq (hhead : SpellsHead head key path) :
    keyAndPath head.toList = (key.toList, path.toList) := by
  cases hhead with
  | bare hpath hsingle => rw [keyAndPath, Text.splitAtChar_eq_none hsingle]
  | @keyed _ _ before after hkey hpath hsingle hbefore hafter =>
      have hfront : '=' ∉ key.toList ++ before.toList := by
        rw [List.mem_append, not_or]
        exact ⟨hsingle, notMem_of_isBlanks hbefore (by decide)⟩
      have hsplit := Text.splitAtChar_append hfront (after.toList ++ path.toList)
      have htext : (key ++ before ++ "=" ++ after ++ path).toList =
          (key.toList ++ before.toList) ++ '=' :: (after.toList ++ path.toList) := by
        simp
      simp only [htext, keyAndPath, hsplit, hkey.trimmed.trim_append hbefore,
        hpath.trimmed.trim_behind hafter]

theorem ofBody?_eq (hhead : SpellsHead head key path) (default : Option Json) :
    ofBody? head.toList default = some ⟨key, path, default, none⟩ := by
  have hparts : key.toList ≠ [] ∧ path.toList ≠ [] := by
    cases hhead with
    | keyed hkey hpath _ _ _ => exact ⟨hkey.toList_ne_nil, hpath.toList_ne_nil⟩
    | bare hpath _ => exact ⟨hpath.toList_ne_nil, hpath.toList_ne_nil⟩
  simp [ofBody?, hhead.keyAndPath_eq, hparts]

end SpellsHead

/-! ## Arguments -/

section Arguments

variable {argument : String} {selector : Selector}

theorem ofTrimmed?_plain {head key path : String} (hhead : SpellsHead head key path) :
    ofTrimmed? head.toList = some ⟨key, path, none, none⟩ := by
  have hnone := Text.splitUnquoted_eq_none hhead.isPart.plain hhead.isPart.absent
  simp only [ofTrimmed?, hnone]
  exact hhead.ofBody?_eq none

theorem ofTrimmed?_defaulted {head key path : String} (hhead : SpellsHead head key path)
    {gap space core : List Char} (hgap : Text.IsBlanks gap) (hopen : gap ≠ [])
    (hspace : Text.IsBlanks space) (hcore : Text.IsTrimmed core) {value : Json}
    (hvalue : Json.parse core = .ok value) :
    ofTrimmed? (head.toList ++ (gap ++ (['?', '?'] ++ (space ++ core)))) =
      some ⟨key, path, some value, none⟩ := by
  have hsplit := Text.splitUnquoted_append hhead.isPart.plain hhead.isPart.absent hopen
    (isPlain_of_isBlanks hgap) (disjoint_of_isBlanks hgap) (by decide) (by decide) (space ++ core)
  simp only [ofTrimmed?, hsplit, hcore.trim_behind hspace, hvalue,
    hhead.isPart.trimmed.trim_append hgap]
  exact hhead.ofBody?_eq (some value)

theorem ofArgument_eq_ok_of_trim {text : List Char} (htext : Text.trim argument.toList = text)
    (hselector : ofTrimmed? text = some selector) : ofArgument argument = .ok selector := by
  simp only [ofArgument, htext, hselector]

theorem ofArgument_eq_ok (hspells : Spells argument selector) :
    ofArgument argument = .ok selector := by
  cases hspells with
  | plain hhead =>
      exact ofArgument_eq_ok_of_trim hhead.isPart.trimmed.trim_eq (ofTrimmed?_plain hhead)
  | @defaulted head key path gap space text value hhead hgap hopen hspace hdefault =>
      have hparse : Json.parse text.toList = .ok value :=
        Problem.mapError_eq_ok_iff.mp hdefault
      obtain ⟨before, core, after, htext, hbefore, hafter, hsome, hcore, hvalue⟩ :=
        Json.exists_between_blanks hparse
      have hgapOpen : gap.toList ≠ [] := fun hnil => hopen (String.toList_eq_nil_iff.mp hnil)
      have hargument : (head ++ gap ++ "??" ++ space ++ text).toList =
          (head.toList ++ ((gap.toList ++ ['?', '?'] ++ space.toList ++ before) ++ core)) ++
            after := by
        simp [htext]
      have htrimmed : Text.IsTrimmed
          (head.toList ++ ((gap.toList ++ ['?', '?'] ++ space.toList ++ before) ++ core)) :=
        hhead.isPart.trimmed.enclose hcore hhead.isPart.toList_ne_nil hsome _
      apply ofArgument_eq_ok_of_trim
      · rw [hargument, htrimmed.trim_append hafter]
      · have hselector := ofTrimmed?_defaulted hhead hgap hgapOpen (hspace.append hbefore) hcore
          hvalue
        simpa using hselector

/-! ## YAML -/

def ofYamlText (text : String) : Except Problem Selector :=
  Specification.ofYaml (fun depth => Yaml.Decode.selector depth []) text

/-- Whether a text holds one YAML document, a mapping that writes the selector. -/
def WrittenIn (selector : Selector) (text : String) : Prop :=
  ∃ document root, Yaml.Document.ofText text = .ok document ∧ document.root = some root ∧
    selector.WrittenAs root

/-- Whether a text holds one YAML document, a string that is this path. -/
def PathWrittenIn (path : String) (text : String) : Prop :=
  ∃ document root, Yaml.Document.ofText text = .ok document ∧ document.root = some root ∧
    root.Writes (.string path)

theorem selector_of_writes {path : String} {node : Yaml.Node} (hwrites : node.Writes (.string path))
    (depth : Nat) (route : Yaml.Route) :
    Yaml.Decode.selector depth route node = pure (.ofPath path) := by
  cases hwrites with
  | scalar hmeaning hvalue =>
      cases hvalue
      refine Yaml.Decode.onNode_eq_pure rfl ?_
      simp [hmeaning]

theorem ofYamlText_of_pathWrittenIn {path text : String} (hwritten : PathWrittenIn path text) :
    ofYamlText text = .ok (.ofPath path) := by
  obtain ⟨document, root, hdocument, hroot, hwrites⟩ := hwritten
  exact Specification.ofYaml_of_decode hdocument hroot (selector_of_writes hwrites _ [])

/-- There is room for every default that a text can hold. -/
theorem ofYamlText_of_writtenIn {text : String} (hwritten : selector.WrittenIn text)
    (hroom : ∀ value, selector.default = some value → value.NestsWithin Json.nestingLimit) :
    ofYamlText text = .ok selector := by
  obtain ⟨document, root, hdocument, hroot, hwrites⟩ := hwritten
  have hdecode : Yaml.Decode.selector Specification.nestingLimit [] root = pure selector :=
    Yaml.Decode.selector_of_writtenAs hwrites hroom []
  exact Specification.ofYaml_of_decode hdocument hroot hdecode

theorem default_nestsWithin (hspells : Spells argument selector) :
    ∀ value, selector.default = some value → value.NestsWithin Json.nestingLimit := by
  intro value hdefault
  cases hspells with
  | plain => contradiction
  | defaulted _ _ _ _ hvalue =>
      cases hdefault
      exact Json.nestsWithin_of_parse (Problem.mapError_eq_ok_iff.mp hvalue)

/-- An argument gives the selector that it spells.  The selector has no transform, and it is the
one that a YAML mapping of its fields gives, or a YAML string that is its path if the path is the
key and there is no default. -/
theorem ofArgument_of_spells (hspells : Spells argument selector) :
    ofArgument argument = .ok selector ∧ selector.transform = none ∧
      (∀ text, selector.WrittenIn text → ofYamlText text = .ok selector) ∧
      (selector = .ofPath selector.path →
        ∀ text, PathWrittenIn selector.path text → ofYamlText text = .ok selector) := by
  refine ⟨ofArgument_eq_ok hspells, ?_, ?_, ?_⟩
  · cases hspells <;> rfl
  · intro text hwritten
    exact ofYamlText_of_writtenIn hwritten (default_nestsWithin hspells)
  · intro hpath text hwritten
    rw [hpath]
    exact ofYamlText_of_pathWrittenIn hwritten

end Arguments

/-! ## Operators everywhere

A selector whose path holds an equals sign and ends with a question mark, and whose default holds
both operators inside quotes. -/

namespace Entangled

open Yaml (Node Value)

def defaultText : String := "[\"x ?? \\\"y\\\" = z\", null]\n"

def argument : String :=
  "who?" ++ " \t" ++ "=" ++ "\u00a0" ++ "rows[0].id=?" ++ " " ++ "??" ++ "" ++ defaultText

def selector : Selector :=
  ⟨"who?", "rows[0].id=?", some (.array [.string "x ?? \"y\" = z", .null]), none⟩

def yamlText : String :=
  "path: rows[0].id=?\ndefault: " ++ defaultText ++ "key: \"who?\"\n"

def isRoot : Node → Bool
  | .mapping _ none [
      (.scalar _ _ "path" _, .scalar _ _ "rows[0].id=?" _),
      (.scalar _ _ "default" _, .sequence _ none [
        .scalar _ none "x ?? \"y\" = z" .doubleQuoted, .scalar _ none "null" .plain]),
      (.scalar _ _ "key" _, .scalar _ _ "who?" _)] => true
  | _ => false

def isPath : Node → Bool
  | .scalar _ none "rows[0].id?" .plain => true
  | _ => false

theorem isPart_key : IsPart "who?" :=
  ⟨by decide, by decide, by decide, by decide +kernel⟩

theorem isPart_path : IsPart "rows[0].id=?" :=
  ⟨by decide, by decide, by decide, by decide +kernel⟩

theorem spells : Spells argument selector := by
  have hhead : SpellsHead ("who?" ++ " \t" ++ "=" ++ "\u00a0" ++ "rows[0].id=?") "who?"
      "rows[0].id=?" :=
    .keyed isPart_key isPart_path (by decide) (by decide) (by decide)
  have hvalue : Json.ofText defaultText =
      .ok (.array [.string "x ?? \"y\" = z", .null]) := by cbv
  have hgap : Text.IsBlanks " ".toList := by decide
  have hspace : Text.IsBlanks "".toList := by decide
  exact .defaulted hhead hgap (by decide) hspace hvalue

theorem writtenAs_of_isRoot {root : Node} (hroot : isRoot root = true) :
    selector.WrittenAs root := by
  unfold isRoot at hroot
  split at hroot
  · refine @WrittenAs.mapping _ _ [.path, .default, .key] _ (by decide) (by decide) (by decide)
      (by simp [selector]) rfl ?_
    have hstring : Value.ofScalar none "x ?? \"y\" = z" .doubleQuoted =
        .ok (.text "x ?? \"y\" = z") := rfl
    have hnull : Value.ofScalar none "null" .plain = .ok .null := rfl
    refine .cons ⟨rfl, rfl⟩ (.cons ⟨rfl, _, rfl, ?_⟩ (.cons ⟨rfl, rfl⟩ .nil))
    exact .sequence (.cons (.scalar hstring (.text _)) (.cons (.scalar hnull .null) .nil))
  · contradiction

theorem ofPlain_path : Value.ofPlain "rows[0].id?" = .text "rows[0].id?" := by
  have hword : ("rows[0].id?".isEmpty || Value.isNullWord "rows[0].id?") = false := by
    decide +kernel
  have hbool : Value.bool? "rows[0].id?" = none := by decide +kernel
  have hinteger : Value.integer? "rows[0].id?".toList = none := by decide +kernel
  have hzero : Value.hasLeadingZero "rows[0].id?".toList = false := by decide +kernel
  have hfloat : Value.float? "rows[0].id?" = none := by decide +kernel
  simp only [Value.ofPlain, hword, hbool, hinteger, hzero, hfloat, Option.bind_none,
    Bool.false_eq_true, if_false]

theorem writes_of_isPath {root : Node} (hroot : isPath root = true) :
    root.Writes (.string "rows[0].id?") := by
  unfold isPath at hroot
  split at hroot
  · have hmeaning : Value.ofScalar none "rows[0].id?" .plain = .ok (.text "rows[0].id?") :=
      congrArg Except.ok ofPlain_path
    exact .scalar hmeaning (.text _)
  · contradiction

theorem writtenIn : selector.WrittenIn yamlText := by
  obtain ⟨document, root, hread, hroot, hpasses⟩ :=
    @Specification.exists_root_of_rootPasses isRoot yamlText (by decide +kernel)
  exact ⟨document, root, hread, hroot, writtenAs_of_isRoot hpasses⟩

theorem pathWrittenIn : PathWrittenIn "rows[0].id?" "rows[0].id?" := by
  obtain ⟨document, root, hread, hroot, hpasses⟩ :=
    @Specification.exists_root_of_rootPasses isPath "rows[0].id?" (by decide +kernel)
  exact ⟨document, root, hread, hroot, writes_of_isPath hpasses⟩

end Entangled

/-- The default stands behind the operator, and the path spells its selector alone as well. -/
theorem ofArgument_of_spells_entangled :
    (ofArgument Entangled.argument = .ok Entangled.selector ∧
      ofYamlText Entangled.yamlText = .ok Entangled.selector) ∧
      ofArgument "rows[0].id?" = .ok (.ofPath "rows[0].id?") ∧
      ofYamlText "rows[0].id?" = .ok (.ofPath "rows[0].id?") := by
  have hentangled := ofArgument_of_spells Entangled.spells
  have hpath : IsPart "rows[0].id?" := ⟨by decide, by decide, by decide, by decide +kernel⟩
  have halone := ofArgument_of_spells (.plain (.bare hpath (by decide)))
  exact ⟨⟨hentangled.1, hentangled.2.2.1 _ Entangled.writtenIn⟩, halone.1,
    halone.2.2.2 rfl _ Entangled.pathWrittenIn⟩

end JsonExtract.Selector
