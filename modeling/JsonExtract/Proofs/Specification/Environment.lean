import JsonExtract.Proofs.Keyed
import JsonExtract.Proofs.Problem
import JsonExtract.Specification.Reading

/-!
# What variables can reach

The values of variables come into a specification after it has been read, and only into its
address and into the values of its headers.  Whatever they contain, all other parts and the
names of the headers are those that the text gives.  And they come in by way of references
alone: variables that nothing refers to do not count.
-/

namespace JsonExtract

namespace Variables

/-! ## One character or reference at a time -/

theorem expandChars_nil (lookup : Lookup) : expandChars lookup [] = .ok [] := by
  rw [expandChars]

theorem expandChars_reference {c : Char} {rest tail : List Char} {name : String}
    (href : reference? (c :: rest) = some (name, tail)) (lookup : Lookup) :
    expandChars lookup (c :: rest) =
      match lookup name with
      | some value => (expandChars lookup tail).map (value.toList ++ ·)
      | none => .error (.missingVariable name) := by
  rw [expandChars]
  split
  · rename_i hread
    rw [href] at hread
    cases hread
    rfl
  · rename_i hread
    rw [href] at hread
    contradiction

theorem expandChars_plain {c : Char} {rest : List Char} (hplain : reference? (c :: rest) = none)
    (lookup : Lookup) :
    expandChars lookup (c :: rest) = (expandChars lookup rest).map (c :: ·) := by
  rw [expandChars]
  split
  · rename_i hread
    rw [hplain] at hread
    contradiction
  · rfl

theorem references_reference {c : Char} {rest tail : List Char} {name : String}
    (href : reference? (c :: rest) = some (name, tail)) :
    references (c :: rest) = name :: references tail := by
  rw [references]
  split
  · rename_i hread
    rw [href] at hread
    cases hread
    rfl
  · rename_i hread
    rw [href] at hread
    contradiction

theorem references_plain {c : Char} {rest : List Char} (hplain : reference? (c :: rest) = none) :
    references (c :: rest) = references rest := by
  rw [references]
  split
  · rename_i hread
    rw [hplain] at hread
    contradiction
  · rfl

/-! ## Whole texts -/

/-- A text depends on variables only as far as it refers to them. -/
theorem expandChars_congr {f g : Lookup} {text : List Char}
    (hsame : ∀ name ∈ references text, f name = g name) :
    expandChars f text = expandChars g text := by
  induction text using references.induct with
  | case1 => rw [expandChars_nil, expandChars_nil]
  | case2 c rest name tail href ih =>
      rw [references_reference href, List.forall_mem_cons] at hsame
      rw [expandChars_reference href, expandChars_reference href, hsame.1, ih hsame.2]
  | case3 c rest hplain ih =>
      rw [references_plain hplain] at hsame
      rw [expandChars_plain hplain, expandChars_plain hplain, ih hsame]

/-- A text without references stays as it is. -/
theorem expandChars_of_references_eq_nil {text : List Char} (hnone : references text = [])
    (lookup : Lookup) : expandChars lookup text = .ok text := by
  induction text using references.induct with
  | case1 => exact expandChars_nil lookup
  | case2 c rest name tail href ih =>
      rw [references_reference href] at hnone
      contradiction
  | case3 c rest hplain ih =>
      rw [references_plain hplain] at hnone
      rw [expandChars_plain hplain, ih hnone]
      rfl

theorem expand_congr {f g : Lookup} {text : String}
    (hsame : ∀ name ∈ references text.toList, f name = g name) : expand f text = expand g text := by
  rw [expand, expand, expandChars_congr hsame]

theorem expand_of_references_eq_nil {text : String} (hnone : references text.toList = [])
    (lookup : Lookup) : expand lookup text = .ok text := by
  rw [expand, expandChars_of_references_eq_nil hnone, Except.map, String.ofList_toList]

/-- The first of some names whose variable is not set, as a problem. -/
def unset? (lookup : Lookup) (names : List String) : Option Problem :=
  (names.find? fun name => (lookup name).isNone).map .missingVariable

theorem unset?_append (lookup : Lookup) (first second : List String) :
    unset? lookup (first ++ second) = (unset? lookup first).or (unset? lookup second) := by
  rw [unset?, List.find?_append]
  cases hfirst : first.find? fun name => (lookup name).isNone <;> simp [unset?, hfirst]

theorem unset?_flatMap {α : Type} (lookup : Lookup) (list : List α) (names : α → List String) :
    unset? lookup (list.flatMap names) =
      list.findSome? fun element => unset? lookup (names element) := by
  rw [unset?, List.find?_flatMap, List.map_findSome?]
  rfl

theorem unset?_eq_none_iff {lookup : Lookup} {names : List String} :
    unset? lookup names = none ↔ ∀ name ∈ names, lookup name ≠ none := by
  simp [unset?]

theorem exists_unset?_eq_some_iff {lookup : Lookup} {names : List String} :
    (∃ name, unset? lookup names = some (.missingVariable name)) ↔
      ∃ name ∈ names, lookup name = none := by
  cases hfound : names.find? fun name => (lookup name).isNone with
  | none =>
      have hset := List.find?_eq_none.mp hfound
      simpa [unset?, hfound, Option.isSome_iff_ne_none] using hset
  | some name =>
      have hunset : lookup name = none := by simpa using List.find?_some hfound
      simp only [unset?, hfound, Option.map_some]
      exact ⟨fun _ => ⟨name, List.mem_of_find?_eq_some hfound, hunset⟩, fun _ => ⟨name, rfl⟩⟩

/-- A text has no values in the place of its references if one of their variables is not set, the
first such variable being the problem. -/
theorem ofResult?_expandChars (lookup : Lookup) (text : List Char) :
    Problem.ofResult? (expandChars lookup text) = unset? lookup (references text) := by
  induction text using references.induct with
  | case1 =>
      rw [expandChars_nil, references]
      rfl
  | case2 c rest name tail href ih =>
      rw [expandChars_reference href, references_reference href]
      cases hvalue : lookup name with
      | none => simp [Problem.ofResult?, unset?, hvalue]
      | some value =>
          simp only [Problem.ofResult?_map]
          rw [ih]
          simp [unset?, hvalue]
  | case3 c rest hplain ih =>
      rw [expandChars_plain hplain, references_plain hplain, Problem.ofResult?_map, ih]

theorem ofResult?_expand (lookup : Lookup) (text : String) :
    Problem.ofResult? (expand lookup text) = unset? lookup (references text.toList) := by
  rw [expand, Problem.ofResult?_map, ofResult?_expandChars]

end Variables

namespace Specification

/-! ## Specifications -/

theorem ofResult?_traverse_expand (lookup : Variables.Lookup) (headers : KeyedMap String) :
    Problem.ofResult? (headers.traverse (Variables.expand lookup)) =
      Variables.unset? lookup
        (headers.entries.flatMap fun entry => Variables.references entry.2.toList) := by
  rw [← Problem.ofResult?_map KeyedMap.entries, KeyedMap.map_entries_traverse,
    Problem.ofResult?_traverse, Variables.unset?_flatMap]
  simp only [Variables.ofResult?_expand]

/-- The problem with the variables of a specification is the first one that is not set. -/
theorem ofResult?_expand (lookup : Variables.Lookup) (specification : Specification) :
    Problem.ofResult? (specification.expand lookup) =
      Variables.unset? lookup specification.references := by
  rw [references, Variables.unset?_append, ← Variables.ofResult?_expand,
    ← ofResult?_traverse_expand]
  refine Problem.ofResult?_bind _ _ fun url _ => ?_
  exact Problem.ofResult?_map _ (specification.headers.traverse (Variables.expand lookup))

/-- All that the variables bring about in a specification. -/
theorem expand_eq_ok_iff {lookup : Variables.Lookup} {specification expanded : Specification} :
    specification.expand lookup = .ok expanded ↔
      ∃ url headers, Variables.expand lookup specification.url = .ok url ∧
        specification.headers.traverse (Variables.expand lookup) = .ok headers ∧
        expanded = { specification with url := url, headers := headers } := by
  unfold expand
  cases Variables.expand lookup specification.url with
  | error problem => simp [bind, Except.bind]
  | ok url =>
      cases specification.headers.traverse (Variables.expand lookup) with
      | error problem => simp [bind, Except.bind]
      | ok headers => simp [bind, Except.bind, pure, Except.pure, eq_comm]

/-- A specification depends on variables only as far as it refers to them. -/
theorem expand_congr {f g : Variables.Lookup} {specification : Specification}
    (hsame : ∀ name ∈ specification.references, f name = g name) :
    specification.expand f = specification.expand g := by
  have hurl : Variables.expand f specification.url = Variables.expand g specification.url :=
    Variables.expand_congr fun name hname => hsame name (List.mem_append_left _ hname)
  have hheaders : specification.headers.traverse (Variables.expand f) =
      specification.headers.traverse (Variables.expand g) := by
    apply KeyedMap.traverse_congr
    intro entry hentry
    apply Variables.expand_congr
    intro name hname
    exact hsame name (List.mem_append_right _ (List.mem_flatMap.mpr ⟨entry, hentry, hname⟩))
  rw [expand, expand, hurl, hheaders]

theorem load_of_ofText {lookup : Variables.Lookup} {text : String} {specification : Specification}
    (hread : ofText text = .ok specification) :
    load lookup text = specification.expand lookup := by
  rw [load, hread]
  rfl

theorem load_eq_ok_iff {lookup : Variables.Lookup} {text : String} {loaded : Specification} :
    load lookup text = .ok loaded ↔
      ∃ specification, ofText text = .ok specification ∧
        specification.expand lookup = .ok loaded := by
  cases hread : ofText text with
  | error problem => simp [load, hread, bind, Except.bind]
  | ok specification => simp [load_of_ofText hread]

/-- A specification without headers whose address refers to no variable is loaded as it is. -/
theorem load_of_references_eq_nil {specification : Specification} {text : String}
    (hread : ofText text = .ok specification) (hheaders : specification.headers = .empty)
    (hnone : Variables.references specification.url.toList = []) (lookup : Variables.Lookup) :
    load lookup text = .ok specification := by
  refine (load_of_ofText hread).trans (expand_eq_ok_iff.mpr ⟨specification.url, .empty, ?_⟩)
  refine ⟨Variables.expand_of_references_eq_nil hnone lookup, ?_, ?_⟩
  · rw [hheaders]
    rfl
  · rw [← hheaders]

/-- The values of variables reach the address and the values of headers, and nothing else.  Two
ways to look variables up that both give a specification for a text give the same time, the same
coercion, the same selectors and the same names of headers.  If they also agree on all variables
that the text refers to in its address and its headers, they give the same specification. -/
theorem load_independent {text : String} {f g : Variables.Lookup} {first second : Specification}
    (hfirst : load f text = .ok first) (hsecond : load g text = .ok second) :
    first.timeout = second.timeout ∧ first.coerces = second.coerces ∧
      first.selectors = second.selectors ∧ first.headers.keys = second.headers.keys ∧
      ∃ specification, ofText text = .ok specification ∧
        ((∀ name ∈ specification.references, f name = g name) → first = second) := by
  obtain ⟨specification, hread, hexpand⟩ := load_eq_ok_iff.mp hfirst
  have hagree : (∀ name ∈ specification.references, f name = g name) → first = second := by
    intro hsame
    rw [load_of_ofText hread, ← expand_congr hsame, hexpand] at hsecond
    exact Except.ok.inj hsecond
  rw [load_of_ofText hread] at hsecond
  obtain ⟨_, headers, _, hheaders, rfl⟩ := expand_eq_ok_iff.mp hexpand
  obtain ⟨_, others, _, hothers, rfl⟩ := expand_eq_ok_iff.mp hsecond
  have hkeys : headers.keys = others.keys :=
    (KeyedMap.keys_traverse hheaders).trans (KeyedMap.keys_traverse hothers).symm
  exact ⟨rfl, rfl, rfl, hkeys, specification, hread, hagree⟩

def referringText : String :=
  "url: http://h/$\x7benv.PLACE\x7d\n" ++
  "headers: \x7b X-A: 'a$\x7benv.TOKEN\x7d' \x7d\n" ++
  "selectors: ['$\x7benv.PLACE\x7d']"

/-- Every variable stands for a text that looks like more of a specification. -/
def intrudingValue : Variables.Lookup := fun _ =>
  some "b\nselectors: [c]\nparse_numbers: true\n$\x7benv.TOKEN\x7d"

theorem exists_load_eq_ok (lookup : Variables.Lookup) (text : String)
    (hok : (load lookup text).isOk = true) : ∃ loaded, load lookup text = .ok loaded := by
  cases hload : load lookup text with
  | ok loaded => exact ⟨loaded, rfl⟩
  | error problem =>
      rw [hload] at hok
      contradiction

theorem load_independent_intrudingValue :
    ∃ first second, load some referringText = .ok first ∧
      load intrudingValue referringText = .ok second ∧
      first.timeout = second.timeout ∧ first.coerces = second.coerces ∧
      first.selectors = second.selectors ∧ first.headers.keys = second.headers.keys ∧
      ∃ specification, ofText referringText = .ok specification ∧
        ((∀ name ∈ specification.references, some name = intrudingValue name) →
          first = second) := by
  obtain ⟨first, hfirst⟩ := exists_load_eq_ok some referringText (by decide +kernel)
  obtain ⟨second, hsecond⟩ := exists_load_eq_ok intrudingValue referringText
    (by decide +kernel)
  exact ⟨first, second, hfirst, hsecond, load_independent hfirst hsecond⟩

end Specification

end JsonExtract
