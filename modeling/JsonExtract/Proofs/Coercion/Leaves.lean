import Mathlib.Data.List.Forall2
import JsonExtract.Proofs.Coercion
import JsonExtract.Proofs.Keyed

/-!
# Coercion changes numeric leaves only

Coercion goes through all arrays and objects of a document and puts a number in the place of each
string that is a numeral.  Everything else is where and what it was, down to the order of members
and their names, be these numerals or not.  What is coerced has no numeric strings left, so
coercing it once more changes nothing.
-/

namespace JsonExtract.Json

/-- Whether a document is what becomes of another when a number stands for each of its numeric
strings and all else is kept: the lengths of arrays and the names of members with their order as
well as the values that are neither containers nor numeric strings. -/
inductive CoercesTo : Json → Json → Prop where
  | null : CoercesTo .null .null
  | bool (value : Bool) : CoercesTo (.bool value) (.bool value)
  | number (n : Number) : CoercesTo (.number n) (.number n)
  | numeral {s : String} {n : Number} (hn : Number.ofNumeral? s = some n) :
      CoercesTo (.string s) (.number n)
  | text {s : String} (hs : Number.ofNumeral? s = none) : CoercesTo (.string s) (.string s)
  | array {items others : List Json} (hlength : others.length = items.length)
      (hitems : ∀ n (h : n < items.length) (h' : n < others.length),
        CoercesTo items[n] others[n]) :
      CoercesTo (.array items) (.array others)
  | object {members others : List (String × Json)}
      (hnames : Keyed.keys others = Keyed.keys members)
      (hvalues : ∀ n (h : n < members.length) (h' : n < others.length),
        CoercesTo members[n].2 others[n].2) :
      CoercesTo (.object members) (.object others)

/-- Whether a string stands somewhere in a document as a value. -/
inductive HasLeaf (s : String) : Json → Prop where
  | here : HasLeaf s (.string s)
  | item {items : List Json} {item : Json} (hitem : item ∈ items) (hleaf : HasLeaf s item) :
      HasLeaf s (.array items)
  | member {members : List (String × Json)} {member : String × Json}
      (hmember : member ∈ members) (hleaf : HasLeaf s member.2) : HasLeaf s (.object members)

/-! ## The only result -/

theorem length_eq_of_keys_eq {members others : List (String × Json)}
    (hnames : Keyed.keys others = Keyed.keys members) : others.length = members.length := by
  simpa [Keyed.keys] using congrArg List.length hnames

theorem getElem_fst_of_keys_eq {members others : List (String × Json)}
    (hnames : Keyed.keys others = Keyed.keys members) {n : Nat} (h : n < others.length)
    (h' : n < members.length) : others[n].1 = members[n].1 := by
  have hnth := congrArg (·[n]?) hnames
  simpa [Keyed.keys, h, h'] using hnth

theorem CoercesTo.eq_coerce {value result : Json} (hresult : value.CoercesTo result) :
    result = value.coerce := by
  induction hresult with
  | null => exact coerce_null.symm
  | bool value => exact (coerce_bool value).symm
  | number n => exact (coerce_number n).symm
  | numeral hn => simp [coerce, hn]
  | text hs => simp [coerce, hs]
  | array hlength _ ih =>
      rw [coerce_array]
      congr 1
      apply List.ext_getElem
      · rw [List.length_map, hlength]
      · intro n h _
        rw [List.getElem_map]
        exact ih n (hlength ▸ h) h
  | @object members others hnames _ ih =>
      have hlength := length_eq_of_keys_eq hnames
      rw [coerce_object]
      congr 1
      apply List.ext_getElem
      · rw [List.length_map, hlength]
      · intro n h _
        have hbefore : n < members.length := hlength ▸ h
        rw [List.getElem_map]
        exact Prod.ext (getElem_fst_of_keys_eq hnames h hbefore) (ih n hbefore h)

mutual

theorem coercesTo_coerce : ∀ value : Json, value.CoercesTo value.coerce
  | .null => coerce_null ▸ .null
  | .bool value => coerce_bool value ▸ .bool value
  | .number n => coerce_number n ▸ .number n
  | .string s => by
      rcases coerce_string_cases s with ⟨hnone, hkept⟩ | ⟨n, hsome, hnumber⟩
      · rw [hkept]
        exact .text hnone
      · rw [hnumber]
        exact .numeral hsome
  | .array items => by
      rw [coerce_array]
      refine .array (List.length_map _) ?_
      intro n h _
      rw [List.getElem_map]
      exact coercesTo_item items _ (List.getElem_mem h)
  | .object members => by
      rw [coerce_object]
      refine .object (by simp [Keyed.keys, Function.comp_def]) ?_
      intro n h _
      rw [List.getElem_map]
      exact coercesTo_member members _ (List.getElem_mem h)

theorem coercesTo_item : ∀ (items : List Json), ∀ item ∈ items, item.CoercesTo item.coerce
  | first :: rest, item, hitem => by
      rcases List.mem_cons.mp hitem with hfirst | hrest
      · rw [hfirst]
        exact coercesTo_coerce first
      · exact coercesTo_item rest item hrest

theorem coercesTo_member : ∀ (members : List (String × Json)), ∀ member ∈ members,
    member.2.CoercesTo member.2.coerce
  | (name, value) :: rest, member, hmember => by
      rcases List.mem_cons.mp hmember with hfirst | hrest
      · rw [hfirst]
        exact coercesTo_coerce value
      · exact coercesTo_member rest member hrest

end

theorem coercesTo_iff {value result : Json} : value.CoercesTo result ↔ result = value.coerce :=
  ⟨CoercesTo.eq_coerce, fun hresult => hresult ▸ coercesTo_coerce value⟩

/-! ## Leaves -/

/-- What is coerced has no numeric strings left. -/
theorem CoercesTo.ofNumeral?_eq_none {value result : Json} (hresult : value.CoercesTo result)
    {s : String} (hleaf : result.HasLeaf s) : Number.ofNumeral? s = none := by
  induction hresult with
  | text hs =>
      cases hleaf
      exact hs
  | array hlength _ ih =>
      cases hleaf with
      | item hitem hleaf =>
          obtain ⟨n, h, rfl⟩ := List.getElem_of_mem hitem
          exact ih n (hlength ▸ h) h hleaf
  | object hnames _ ih =>
      cases hleaf with
      | member hmember hleaf =>
          obtain ⟨n, h, rfl⟩ := List.getElem_of_mem hmember
          exact ih n (length_eq_of_keys_eq hnames ▸ h) h hleaf
  | _ => nomatch hleaf

/-- A document without numeric strings is kept. -/
theorem CoercesTo.eq_self {value result : Json} (hresult : value.CoercesTo result)
    (hleaves : ∀ s, value.HasLeaf s → Number.ofNumeral? s = none) : result = value := by
  induction hresult with
  | numeral hn =>
      have hnone := hleaves _ .here
      rw [hn] at hnone
      contradiction
  | array hlength _ ih =>
      congr 1
      apply List.ext_getElem hlength
      intro n h h'
      exact ih n h' h fun s hleaf => hleaves s (.item (List.getElem_mem h') hleaf)
  | @object members others hnames _ ih =>
      congr 1
      apply List.ext_getElem (length_eq_of_keys_eq hnames)
      intro n h h'
      have hvalue : others[n].2 = members[n].2 :=
        ih n h' h fun s hleaf => hleaves s (.member (List.getElem_mem h') hleaf)
      exact Prod.ext (getElem_fst_of_keys_eq hnames h h') hvalue
  | _ => rfl

/-- Coercion puts numbers in the place of numeric strings and keeps all else in its place, at every
depth.  It changes nothing when it is done again, and it changes nothing in the first place exactly
when no string of the document is numeric. -/
theorem coerce_replaces_numerals (value : Json) :
    (∀ result, value.CoercesTo result ↔ result = value.coerce) ∧
    value.coerce.coerce = value.coerce ∧
    (value.coerce = value ↔ ∀ s, value.HasLeaf s → Number.ofNumeral? s = none) := by
  have hresult : value.CoercesTo value.coerce := coercesTo_coerce value
  have hagain : value.coerce.CoercesTo value.coerce.coerce := coercesTo_coerce value.coerce
  refine ⟨fun result => coercesTo_iff, ?_, ?_⟩
  · exact hagain.eq_self fun s hleaf => hresult.ofNumeral?_eq_none hleaf
  · constructor
    · intro hkept s hleaf
      rw [hkept] at hresult
      exact hresult.ofNumeral?_eq_none hleaf
    · exact hresult.eq_self

end JsonExtract.Json
