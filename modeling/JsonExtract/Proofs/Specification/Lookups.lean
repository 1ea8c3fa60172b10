import JsonExtract.Proofs.Specification.Asking

/-!
# Headers in any order

The headers of a specification may be gone through in any order, their values being replaced in
place, one after the other.  Whether a variable is missing does not depend on the order, and
neither does what is loaded if none is.  Which one is reported may depend on it, but not when the
address refers to one.
-/

namespace JsonExtract

/-- An order in which the entries of maps are gone through, each of them once. -/
structure KeyedMap.Order (α : Type) where
  visit : KeyedMap α → List String
  perm (map : KeyedMap α) : (visit map).Perm map.keys

def KeyedMap.Order.written (α : Type) : KeyedMap.Order α :=
  ⟨KeyedMap.keys, fun map => List.Perm.refl map.keys⟩

def KeyedMap.Order.backwards (α : Type) : KeyedMap.Order α :=
  ⟨fun map => map.keys.reverse, fun map => List.reverse_perm map.keys⟩

namespace Specification

open Variables (Asking Asks askText lookedUp)

/-! ## Headers in place -/

def askHeader (lookup : Variables.Lookup) (headers : KeyedMap String) (name : String) :
    Asking (KeyedMap String) :=
  match headers.get? name with
  | some value => headers.set name <$> askText lookup value
  | none => return headers

def askHeaders (lookup : Variables.Lookup) (names : List String) (headers : KeyedMap String) :
    Asking (KeyedMap String) :=
  names.foldlM (askHeader lookup) headers

def headerReferences (headers : KeyedMap String) (name : String) : List String :=
  (headers.get? name).elim [] fun value => Variables.references value.toList

/-- Whether headers have come from others by replacing the references in those with some names. -/
structure ReplacesHeaders (lookup : Variables.Lookup) (names : List String)
    (headers changed : KeyedMap String) : Prop where
  keys : changed.keys = headers.keys
  visited {name value : String} (hname : name ∈ names) (hvalue : headers.get? name = some value) :
    ∃ expanded, Variables.expand lookup value = .ok expanded ∧ changed.get? name = some expanded
  others {name : String} (hname : name ∉ names) : changed.get? name = headers.get? name

section

variable {lookup : Variables.Lookup} {headers : KeyedMap String}

theorem asks_askHeader (lookup : Variables.Lookup) {name value : String}
    (hvalue : headers.get? name = some value) :
    Asks lookup (askHeader lookup headers name)
      ((Variables.expand lookup value).map (headers.set name)) (headerReferences headers name) := by
  rw [askHeader, headerReferences, hvalue]
  exact (Variables.asks_askText lookup value).map (headers.set name)

theorem keys_set_of_mem {name : String} (hname : name ∈ headers.keys) (value : String) :
    (headers.set name value).keys = headers.keys := by
  rw [KeyedMap.keys_set, if_pos hname]

theorem ReplacesHeaders.cons {name value expanded : String} {names : List String}
    {changed : KeyedMap String} (hnew : name ∉ names) (hvalue : headers.get? name = some value)
    (hexpanded : Variables.expand lookup value = .ok expanded)
    (hrest : ReplacesHeaders lookup names (headers.set name expanded) changed) :
    ReplacesHeaders lookup (name :: names) headers changed where
  keys := hrest.keys.trans (keys_set_of_mem
    (Keyed.get?_isSome_iff.mp (Option.isSome_of_eq_some hvalue)) expanded)
  visited {other text} hother htext := by
    by_cases hsame : other = name
    · subst hsame
      obtain rfl := Option.some.inj (hvalue.symm.trans htext)
      exact ⟨expanded, hexpanded, by rw [hrest.others hnew, KeyedMap.get?_set_self]⟩
    · refine hrest.visited ((List.mem_cons.mp hother).resolve_left hsame) ?_
      rw [KeyedMap.get?_set_of_ne _ hsame, htext]
  others {other} hother := by
    rw [List.mem_cons, not_or] at hother
    rw [hrest.others hother.2, KeyedMap.get?_set_of_ne _ hother.1]

/-- Headers that are gone through once each refer to variables by the values that they came with. -/
theorem exists_asks_askHeaders (lookup : Variables.Lookup) {names : List String}
    (hnodup : names.Nodup) (hnames : ∀ name ∈ names, name ∈ headers.keys) :
    ∃ result, Asks lookup (askHeaders lookup names headers) result
        (names.flatMap (headerReferences headers)) ∧
      ∀ changed, result = .ok changed → ReplacesHeaders lookup names headers changed := by
  induction names generalizing headers with
  | nil =>
      refine ⟨.ok headers, .pure headers, ?_⟩
      rintro _ ⟨⟩
      exact ⟨rfl, fun hname => absurd hname List.not_mem_nil, fun _ => rfl⟩
  | cons name rest ih =>
      rw [List.nodup_cons] at hnodup
      rw [List.forall_mem_cons] at hnames
      obtain ⟨value, hvalue⟩ := Option.isSome_iff_exists.mp (Keyed.get?_isSome_iff.mpr hnames.1)
      have hfirst := asks_askHeader lookup hvalue
      cases hexpanded : Variables.expand lookup value with
      | error problem =>
          rw [hexpanded] at hfirst
          refine ⟨.error problem, ?_, nofun⟩
          exact hfirst.fails (askHeaders lookup rest) _
      | ok expanded =>
          rw [hexpanded] at hfirst
          have hothers : ∀ other ∈ rest, other ∈ (headers.set name expanded).keys := by
            rw [keys_set_of_mem hnames.1]
            exact hnames.2
          obtain ⟨result, hrest, hreplaces⟩ := ih hnodup.2 hothers
          have hsame : rest.flatMap (headerReferences (headers.set name expanded)) =
              rest.flatMap (headerReferences headers) := by
            apply List.flatMap_congr
            intro other hother
            have hne : other ≠ name := fun heq => hnodup.1 (heq ▸ hother)
            rw [headerReferences, KeyedMap.get?_set_of_ne headers hne, headerReferences]
          rw [hsame] at hrest
          refine ⟨result, hfirst.andThen hrest, ?_⟩
          intro changed hchanged
          exact (hreplaces changed hchanged).cons hnodup.1 hvalue hexpanded

end

/-! ## Whole specifications -/

/-- Whether a specification refers to a variable where references count. -/
def RefersTo (specification : Specification) (name : String) : Prop :=
  Variables.RefersTo specification.url name ∨
    ∃ header value, specification.headers.get? header = some value ∧
      Variables.RefersTo value name

/-- Whether a specification has come from another one by expanding its address and the values of
its headers, each by itself. -/
structure ExpandsTo (lookup : Variables.Lookup) (specification loaded : Specification) : Prop where
  url : Variables.expand lookup specification.url = .ok loaded.url
  names : loaded.headers.keys = specification.headers.keys
  values {header value : String} (hvalue : specification.headers.get? header = some value) :
    ∃ expanded, Variables.expand lookup value = .ok expanded ∧
      loaded.headers.get? header = some expanded
  timeout : loaded.timeout = specification.timeout
  coerces : loaded.coerces = specification.coerces
  selectors : loaded.selectors = specification.selectors

/-- The specification with its references replaced, first those of the address and then those of
the headers in an order. -/
def askIn (order : KeyedMap.Order String) (lookup : Variables.Lookup)
    (specification : Specification) : Asking Specification := do
  let url ← askText lookup specification.url
  let headers ← askHeaders lookup (order.visit specification.headers) specification.headers
  return { specification with url := url, headers := headers }

/-- The variables that a specification refers to, the headers being in an order. -/
def referencesIn (order : KeyedMap.Order String) (specification : Specification) : List String :=
  Variables.references specification.url.toList ++
    (order.visit specification.headers).flatMap (headerReferences specification.headers)

/-- The specification that a text holds, with the values of variables in place. -/
def loadIn (order : KeyedMap.Order String) (lookup : Variables.Lookup) (text : String) :
    Asking Specification :=
  match ofText text with
  | .ok specification => specification.askIn order lookup
  | .error problem => throw problem

section

variable {lookup : Variables.Lookup} {specification loaded : Specification}

theorem ExpandsTo.unique {other : Specification} (hloaded : specification.ExpandsTo lookup loaded)
    (hother : specification.ExpandsTo lookup other) : loaded = other := by
  have hurl : loaded.url = other.url := Except.ok.inj (hloaded.url.symm.trans hother.url)
  have hnames : loaded.headers.keys = other.headers.keys := hloaded.names.trans hother.names.symm
  have hheaders : loaded.headers = other.headers := by
    apply KeyedMap.ext_entries
    apply Keyed.ext_of_nodup loaded.headers.distinct hnames
    intro header
    cases hvalue : specification.headers.get? header with
    | none =>
        have hmissing : header ∉ loaded.headers.keys := by
          rw [hloaded.names]
          exact Keyed.get?_eq_none_iff.mp hvalue
        have hmissingAgain : header ∉ other.headers.keys := hnames ▸ hmissing
        exact (Keyed.get?_eq_none_iff.mpr hmissing).trans
          (Keyed.get?_eq_none_iff.mpr hmissingAgain).symm
    | some value =>
        obtain ⟨expanded, hexpanded, hget⟩ := hloaded.values hvalue
        obtain ⟨again, hagain, hgetAgain⟩ := hother.values hvalue
        obtain rfl := Except.ok.inj (hexpanded.symm.trans hagain)
        exact hget.trans hgetAgain.symm
  have htimeout := hloaded.timeout.trans hother.timeout.symm
  have hcoerces := hloaded.coerces.trans hother.coerces.symm
  have hselectors := hloaded.selectors.trans hother.selectors.symm
  cases loaded
  cases other
  rw [mk.injEq]
  exact ⟨hurl, hheaders, htimeout, hcoerces, hselectors⟩

theorem expandsTo_of_replacesHeaders {url : String} {names : List String}
    {headers : KeyedMap String} (hurl : Variables.expand lookup specification.url = .ok url)
    (hnames : ∀ name ∈ specification.headers.keys, name ∈ names)
    (hheaders : ReplacesHeaders lookup names specification.headers headers) :
    specification.ExpandsTo lookup { specification with url := url, headers := headers } where
  url := hurl
  names := hheaders.keys
  values hvalue :=
    hheaders.visited (hnames _ (Keyed.get?_isSome_iff.mp (Option.isSome_of_eq_some hvalue))) hvalue
  timeout := rfl
  coerces := rfl
  selectors := rfl

theorem expandsTo_of_expand (hexpand : specification.expand lookup = .ok loaded) :
    specification.ExpandsTo lookup loaded := by
  obtain ⟨url, headers, hurl, hheaders, rfl⟩ := expand_eq_ok_iff.mp hexpand
  exact ⟨hurl, KeyedMap.keys_traverse hheaders, KeyedMap.get?_traverse hheaders, rfl, rfl, rfl⟩

theorem expand_eq_ok_iff_expandsTo :
    specification.expand lookup = .ok loaded ↔ specification.ExpandsTo lookup loaded := by
  refine ⟨expandsTo_of_expand, ?_⟩
  intro hloaded
  have hnone : Problem.ofResult?
      (specification.headers.traverse (Variables.expand lookup)) = none := by
    rw [← Problem.ofResult?_map KeyedMap.entries, KeyedMap.map_entries_traverse,
      Problem.ofResult?_traverse, List.findSome?_eq_none_iff]
    intro entry hentry
    obtain ⟨expanded, hexpanded, -⟩ := hloaded.values
      ((Keyed.mem_iff_get?_eq_some specification.headers.distinct).mp hentry)
    rw [hexpanded]
    rfl
  obtain ⟨headers, hheaders⟩ := Problem.ofResult?_eq_none_iff.mp hnone
  have hexpand := expand_eq_ok_iff.mpr ⟨_, _, hloaded.url, hheaders, rfl⟩
  rw [hexpand, (expandsTo_of_expand hexpand).unique hloaded]

theorem mem_referencesIn_iff {order : KeyedMap.Order String} {name : String} :
    name ∈ specification.referencesIn order ↔ specification.RefersTo name := by
  rw [referencesIn, List.mem_append, List.mem_flatMap, RefersTo, Variables.refersTo_iff]
  apply or_congr_right
  constructor
  · rintro ⟨header, -, hname⟩
    cases hvalue : specification.headers.get? header with
    | none => simp [headerReferences, hvalue] at hname
    | some value =>
        rw [headerReferences, hvalue] at hname
        exact ⟨header, value, hvalue, Variables.refersTo_iff.mpr hname⟩
  · rintro ⟨header, value, hvalue, hname⟩
    refine ⟨header, (order.perm _).mem_iff.mpr ?_, ?_⟩
    · exact Keyed.get?_isSome_iff.mp (Option.isSome_of_eq_some hvalue)
    · rw [headerReferences, hvalue]
      exact Variables.refersTo_iff.mp hname

theorem exists_asks_askIn (order : KeyedMap.Order String) (lookup : Variables.Lookup)
    (specification : Specification) :
    ∃ result, Asks lookup (specification.askIn order lookup) result
        (specification.referencesIn order) ∧
      ∀ loaded, result = .ok loaded → specification.ExpandsTo lookup loaded := by
  have hvisit := order.perm specification.headers
  have haddress := Variables.asks_askText lookup specification.url
  obtain ⟨changed, hheaders, hreplaces⟩ := exists_asks_askHeaders lookup
    (hvisit.nodup_iff.mpr specification.headers.distinct) fun _ => hvisit.mem_iff.mp
  cases hurl : Variables.expand lookup specification.url with
  | error problem =>
      rw [hurl] at haddress
      exact ⟨.error problem, haddress.fails _ _, nofun⟩
  | ok url =>
      rw [hurl] at haddress
      refine ⟨_, haddress.andThen (hheaders.map _), ?_⟩
      intro loaded hloaded
      obtain ⟨headers, hchanged, rfl⟩ := Problem.map_eq_ok_iff.mp hloaded
      exact expandsTo_of_replacesHeaders hurl (fun _ => hvisit.mem_iff.mpr)
        (hreplaces headers hchanged)

theorem referencesIn_written :
    specification.referencesIn (.written String) = specification.references := by
  have heach : ∀ entry ∈ specification.headers.entries,
      headerReferences specification.headers entry.1 = Variables.references entry.2.toList := by
    intro entry hentry
    have hvalue : specification.headers.get? entry.1 = some entry.2 :=
      (Keyed.mem_iff_get?_eq_some specification.headers.distinct).mp hentry
    rw [headerReferences, hvalue]
    rfl
  have hheaders : specification.headers.keys.flatMap (headerReferences specification.headers) =
      specification.headers.entries.flatMap fun entry => Variables.references entry.2.toList := by
    rw [KeyedMap.keys, Keyed.keys, List.flatMap_map]
    exact List.flatMap_congr heach
  rw [referencesIn, references, ← hheaders]
  rfl

/-- Whether all references are to variables that are set does not depend on the order. -/
theorem unset?_referencesIn_eq_none_iff (order : KeyedMap.Order String) :
    Variables.unset? lookup (specification.referencesIn order) = none ↔
      ∀ name, specification.RefersTo name → lookup name ≠ none := by
  rw [Variables.unset?_eq_none_iff]
  exact forall_congr' fun name => imp_congr_left mem_referencesIn_iff

theorem exists_unset?_referencesIn_iff {order : KeyedMap.Order String} :
    (∃ name, Variables.unset? lookup (specification.referencesIn order) =
        some (.missingVariable name)) ↔
      ∃ name, specification.RefersTo name ∧ lookup name = none := by
  rw [Variables.exists_unset?_eq_some_iff]
  exact exists_congr fun name => and_congr_left fun _ => mem_referencesIn_iff

/-- The address counts before all headers. -/
theorem firstUnset_of_unset?_referencesIn {order : KeyedMap.Order String} {name : String}
    (hunset : Variables.unset? lookup (specification.referencesIn order) =
      some (.missingVariable name)) :
    Variables.FirstUnset lookup specification.url name ∨
      (∀ other, Variables.RefersTo specification.url other → lookup other ≠ none) ∧
        ∃ header value, specification.headers.get? header = some value ∧
          Variables.FirstUnset lookup value name := by
  rw [referencesIn, Variables.unset?_append, Option.or_eq_some_iff,
    Variables.unset?_references_eq_some_iff] at hunset
  apply hunset.imp_right
  rintro ⟨hurl, hheaders⟩
  constructor
  · intro other hother
    exact Variables.unset?_eq_none_iff.mp hurl other (Variables.refersTo_iff.mp hother)
  · rw [Variables.unset?_flatMap] at hheaders
    obtain ⟨header, -, hheader⟩ := List.exists_of_findSome?_eq_some hheaders
    cases hvalue : specification.headers.get? header with
    | none => simp [headerReferences, hvalue, Variables.unset?] at hheader
    | some value =>
        rw [headerReferences, hvalue] at hheader
        exact ⟨header, value, hvalue, Variables.unset?_references_eq_some_iff.mp hheader⟩

theorem exists_asks_loadIn {text : String} (hread : ofText text = .ok specification)
    (order : KeyedMap.Order String) (lookup : Variables.Lookup) :
    ∃ result, Asks lookup (loadIn order lookup text) result (specification.referencesIn order) ∧
      ∀ loaded, result = .ok loaded ↔ specification.ExpandsTo lookup loaded := by
  obtain ⟨result, hasks, hexpands⟩ := exists_asks_askIn order lookup specification
  refine ⟨result, ?_, fun loaded => ⟨hexpands loaded, ?_⟩⟩
  · rw [loadIn, hread]
    exact hasks
  · intro hloaded
    have hset : Problem.ofResult? (specification.expand lookup) = none :=
      Problem.ofResult?_eq_none_iff.mpr ⟨loaded, expand_eq_ok_iff_expandsTo.mpr hloaded⟩
    rw [ofResult?_expand, ← referencesIn_written, unset?_referencesIn_eq_none_iff,
      ← unset?_referencesIn_eq_none_iff order, ← hasks.problem] at hset
    obtain ⟨other, rfl⟩ := Problem.ofResult?_eq_none_iff.mp hset
    rw [(hexpands other rfl).unique hloaded]

end

/-! ## Texts that are read -/

theorem ofText_eq_error {text : String} {problem : Problem}
    (hread : ofText text = .error problem) :
    ∃ details, problem = .unreadableSpec details ∨ problem = .invalidSpec details := by
  rw [ofText, ofYaml] at hread
  split at hread
  · exact ⟨_, .inl (Except.error.inj hread).symm⟩
  · dsimp only at hread
    split at hread
    · exact ⟨_, .inr (Except.error.inj hread).symm⟩
    · cases hread

theorem outcome_loadIn_of_unread {text : String} {problem : Problem}
    (hread : ofText text = .error problem) (order : KeyedMap.Order String)
    (lookup : Variables.Lookup) :
    (loadIn order lookup text).outcome [] = (.error problem, []) := by
  rw [loadIn, hread]
  rfl

/-- Headers that are gone through as they are written give what loading gives. -/
theorem outcome_loadIn_written (lookup : Variables.Lookup) (text : String) :
    ((loadIn (.written String) lookup text).outcome []).1 = load lookup text := by
  cases hread : ofText text with
  | error problem =>
      rw [outcome_loadIn_of_unread hread, load, hread]
      rfl
  | ok specification =>
      obtain ⟨result, hasks, hexpands⟩ := exists_asks_loadIn hread (.written String) lookup
      rw [hasks.outcome_eq, load_of_ofText hread]
      cases result with
      | ok loaded => exact (expand_eq_ok_iff_expandsTo.mpr ((hexpands loaded).mp rfl)).symm
      | error problem =>
          have hproblem := hasks.problem
          rw [referencesIn_written, ← ofResult?_expand] at hproblem
          exact (Problem.ofResult?_eq_some_iff.mp hproblem.symm).symm

/-- What depends on the order of the headers and what does not.  A text that holds no specification
gives the problem with reading it, and nothing is looked up.  A variable is missing if and only if
the address or the value of a header refers to one that is not set; it is the leftmost such of the
address if there is one, and else the leftmost such of the value of some header.  Otherwise the
address and all values are expanded, each by itself.  The names that are looked up are those in the
address and then those in the headers, up to the first that is not set. -/
theorem load_in_any_order (order : KeyedMap.Order String) (lookup : Variables.Lookup)
    (text : String) :
    ∃ result asked, (loadIn order lookup text).outcome [] = (result, asked) ∧
      (∀ problem, ofText text = .error problem → result = .error problem ∧ asked = [] ∧
        ∃ details, problem = .unreadableSpec details ∨ problem = .invalidSpec details) ∧
      ((∃ name, result = .error (.missingVariable name)) ↔
        ∃ specification, ofText text = .ok specification ∧
          ∃ name, specification.RefersTo name ∧ lookup name = none) ∧
      (∀ specification name, ofText text = .ok specification →
        result = .error (.missingVariable name) →
          Variables.FirstUnset lookup specification.url name ∨
            (∀ other, Variables.RefersTo specification.url other → lookup other ≠ none) ∧
              ∃ header value, specification.headers.get? header = some value ∧
                Variables.FirstUnset lookup value name) ∧
      (∀ loaded, result = .ok loaded ↔
        ∃ specification, ofText text = .ok specification ∧
          specification.ExpandsTo lookup loaded) ∧
      (∀ specification, ofText text = .ok specification →
        asked = lookedUp lookup (specification.referencesIn order)) ∧
      ((loadIn (.written String) lookup text).outcome []).1 = load lookup text := by
  have hwritten := outcome_loadIn_written lookup text
  cases hread : ofText text with
  | error problem =>
      obtain ⟨details, hdetails⟩ := ofText_eq_error hread
      refine ⟨.error problem, [], outcome_loadIn_of_unread hread order lookup, ?_, ?_, nofun, ?_,
        nofun, hwritten⟩
      · rintro _ ⟨⟩
        exact ⟨rfl, rfl, details, hdetails⟩
      · constructor
        · rintro ⟨name, hname⟩
          obtain rfl := Except.error.inj hname
          simp at hdetails
        · rintro ⟨_, ⟨⟩, -⟩
      · intro loaded
        exact ⟨nofun, nofun⟩
  | ok specification =>
      obtain ⟨result, hasks, hexpands⟩ := exists_asks_loadIn hread order lookup
      have hproblem : ∀ name, result = .error (.missingVariable name) ↔
          Variables.unset? lookup (specification.referencesIn order) =
            some (.missingVariable name) := by
        intro name
        rw [← hasks.problem, Problem.ofResult?_eq_some_iff]
      refine ⟨result, _, hasks.outcome_eq [], nofun, ?_, ?_, ?_, ?_, hwritten⟩
      · rw [exists_congr hproblem, exists_unset?_referencesIn_iff]
        simp
      · rintro _ name ⟨⟩ hname
        exact firstUnset_of_unset?_referencesIn ((hproblem name).mp hname)
      · intro loaded
        rw [hexpands]
        simp
      · rintro _ ⟨⟩
        rfl

def twoHeadersText : String :=
  "url: http://$\x7benv.HOST\x7d/\n" ++
  "headers: \x7b X-A: '$\x7benv.FIRST\x7d', X-B: '$\x7benv.SECOND\x7d' \x7d\n" ++
  "selectors: ['$\x7benv.THIRD\x7d']"

def hostOnly : Variables.Lookup := fun name => if name = "HOST" then some "h" else none

/-- Which variable is reported depends on the order, whether one is does not. -/
theorem load_in_any_order_twoHeaders :
    Problem.ofResult? (load hostOnly twoHeadersText) = some (.missingVariable "FIRST") ∧
      ∃ result, (loadIn (.backwards String) hostOnly twoHeadersText).outcome [] =
          (result, ["HOST", "SECOND"]) ∧
        result = .error (.missingVariable "SECOND") ∧
        ∃ specification, ofText twoHeadersText = .ok specification ∧
          ∃ name, specification.RefersTo name ∧ hostOnly name = none := by
  obtain ⟨result, asked, houtcome, -, hmissing, -⟩ :=
    load_in_any_order (.backwards String) hostOnly twoHeadersText
  have hresult : Problem.ofResult?
        ((loadIn (.backwards String) hostOnly twoHeadersText).outcome []).1 =
      some (.missingVariable "SECOND") := by
    decide +kernel
  have hasked : ((loadIn (.backwards String) hostOnly twoHeadersText).outcome []).2 =
      ["HOST", "SECOND"] := by
    decide +kernel
  rw [houtcome] at hresult hasked
  subst hasked
  have hsecond := Problem.ofResult?_eq_some_iff.mp hresult
  exact ⟨by decide +kernel, result, houtcome, hsecond, hmissing.mp ⟨"SECOND", hsecond⟩⟩

end Specification

end JsonExtract
