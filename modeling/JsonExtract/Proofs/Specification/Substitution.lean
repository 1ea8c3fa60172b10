import JsonExtract.Proofs.Specification.Environment
import JsonExtract.Proofs.Text.Runs

/-!
# References replaced in one pass

A text comes apart at its references, from left to right.  Nothing in front of a reference can
reach into it, whatever it starts with: a reference holds no dollar sign but its first character.
So each reference is replaced by itself, the text between references stays as it is, values are
not read again, and the leftmost variable that is not set is the problem.
-/

namespace JsonExtract.Variables

/-! ## Written references -/

/-- Whether a text can stand in a reference: word characters, and at least one. -/
def IsName (name : String) : Prop :=
  name.toList ≠ [] ∧ ∀ c ∈ name.toList, Text.isWordChar c = true

instance : DecidablePred IsName := fun name =>
  @instDecidableAnd _ _ inferInstance (List.decidableBAll (Text.isWordChar · = true) name.toList)

def reference (name : String) : String :=
  "$\x7benv." ++ name ++ "\x7d"

theorem toList_reference (name : String) :
    (reference name).toList =
      '$' :: '\x7b' :: 'e' :: 'n' :: 'v' :: '.' :: (name.toList ++ ['\x7d']) := by
  simp [reference]

theorem reference?_eq_some_iff {text tail : List Char} {name : String} :
    reference? text = some (name, tail) ↔
      IsName name ∧ text = (reference name).toList ++ tail := by
  rw [toList_reference]
  constructor
  · intro href
    unfold reference? at href
    split at href
    · rename_i inside
      split at href
      · rename_i first more rest htake hdrop
        have hinside := List.takeWhile_append_dropWhile (p := Text.isWordChar) (l := inside)
        rw [htake, hdrop] at hinside
        have hword : ∀ c ∈ first :: more, Text.isWordChar c = true := by
          rw [← htake]
          exact fun c hc => Text.mem_takeWhile hc
        simp only [Option.some.injEq, Prod.mk.injEq] at href
        obtain ⟨rfl, rfl⟩ := href
        rw [String.toList_ofList]
        refine ⟨⟨by simp, by simpa using hword⟩, ?_⟩
        simp [← hinside]
      · contradiction
    · contradiction
  · rintro ⟨⟨hne, hword⟩, rfl⟩
    have hbrace : ∀ c ∈ ('\x7d' :: tail).head?, Text.isWordChar c = false := by
      rintro _ ⟨⟩
      decide +kernel
    have htake := Text.takeWhile_run_append hword hbrace
    have hdrop := Text.dropWhile_run_append hword hbrace
    obtain ⟨first, more, hname⟩ := List.exists_cons_of_ne_nil hne
    simp only [List.cons_append, List.append_assoc, List.nil_append, reference?, htake, hdrop]
    simp only [hname]
    rw [← hname, String.ofList_toList]

theorem notMem_tail_reference {name : String} (hname : IsName name) :
    '$' ∉ (reference name).toList.tail := by
  have hdollar : '$' ∉ name.toList := by
    intro hmem
    exact absurd (hname.2 '$' hmem) (by decide +kernel)
  simp [toList_reference, hdollar]

/-- A reference that starts in front of a dollar sign is over where the dollar sign stands. -/
theorem reference?_append_dollar {front : List Char} (hfront : front ≠ []) (back : List Char) :
    reference? (front ++ '$' :: back) =
      (reference? front).map fun found => (found.1, found.2 ++ '$' :: back) := by
  cases href : reference? front with
  | some found =>
      obtain ⟨hname, rfl⟩ := reference?_eq_some_iff.mp href
      exact reference?_eq_some_iff.mpr ⟨hname, by simp⟩
  | none =>
      rw [Option.map_none, Option.eq_none_iff_forall_ne_some]
      rintro ⟨name, tail⟩ hread
      obtain ⟨hname, htext⟩ := reference?_eq_some_iff.mp hread
      have hwhole : ∀ more, front ≠ (reference name).toList ++ more := by
        rintro more rfl
        rw [reference?_eq_some_iff.mpr ⟨hname, rfl⟩] at href
        contradiction
      rcases List.append_eq_append_iff.mp htext with ⟨ahead, hahead, hback⟩ | ⟨more, hmore, -⟩
      · cases ahead with
        | nil => exact hwhole [] (by simpa using hahead.symm)
        | cons c ahead =>
            -- The dollar sign would stand in the reference, behind its first character.
            obtain ⟨rfl, -⟩ := List.cons.inj hback
            obtain ⟨first, rest, rfl⟩ := List.exists_cons_of_ne_nil hfront
            apply notMem_tail_reference hname
            simp [hahead]
      · exact hwhole more hmore

theorem reference?_reference_append {name : String} (hname : IsName name) (tail : List Char) :
    reference? ((reference name).toList ++ tail) = some (name, tail) :=
  reference?_eq_some_iff.mpr ⟨hname, rfl⟩

/-! ## Texts that come apart -/

theorem expandChars_append_dollar (lookup : Lookup) (front back : List Char) :
    expandChars lookup (front ++ '$' :: back) =
      (expandChars lookup front).bind fun before =>
        (expandChars lookup ('$' :: back)).map (before ++ ·) := by
  induction front using references.induct with
  | case1 =>
      rw [expandChars_nil]
      cases hback : expandChars lookup ('$' :: back) <;> simp [Except.bind, Except.map, hback]
  | case2 c rest name tail href ih =>
      have happend := reference?_append_dollar (List.cons_ne_nil c rest) back
      rw [List.cons_append, href] at happend
      rw [List.cons_append, expandChars_reference happend, expandChars_reference href, ih]
      cases lookup name with
      | none => rfl
      | some value =>
          cases expandChars lookup tail with
          | error problem => rfl
          | ok before =>
              cases expandChars lookup ('$' :: back) <;> simp [Except.bind, Except.map]
  | case3 c rest hplain ih =>
      have happend := reference?_append_dollar (List.cons_ne_nil c rest) back
      rw [List.cons_append, hplain] at happend
      rw [List.cons_append, expandChars_plain happend, expandChars_plain hplain, ih]
      cases expandChars lookup rest with
      | error problem => rfl
      | ok before =>
          cases expandChars lookup ('$' :: back) <;> simp [Except.bind, Except.map]

theorem references_append_dollar (front back : List Char) :
    references (front ++ '$' :: back) = references front ++ references ('$' :: back) := by
  induction front using references.induct with
  | case1 => simp [references]
  | case2 c rest name tail href ih =>
      have happend := reference?_append_dollar (List.cons_ne_nil c rest) back
      rw [List.cons_append, href] at happend
      rw [List.cons_append, references_reference happend, references_reference href, ih,
        List.cons_append]
  | case3 c rest hplain ih =>
      have happend := reference?_append_dollar (List.cons_ne_nil c rest) back
      rw [List.cons_append, hplain] at happend
      rw [List.cons_append, references_plain happend, references_plain hplain, ih]

theorem expandChars_append_reference {name : String} (hname : IsName name) (lookup : Lookup)
    (front back : List Char) :
    expandChars lookup (front ++ ((reference name).toList ++ back)) =
      (expandChars lookup front).bind fun before =>
        match lookup name with
        | some value => (expandChars lookup back).map fun after => before ++ (value.toList ++ after)
        | none => .error (.missingVariable name) := by
  have href := reference?_reference_append hname back
  obtain ⟨rest, hrest⟩ : ∃ rest, (reference name).toList ++ back = '$' :: rest := by
    simp [toList_reference]
  rw [hrest] at href ⊢
  rw [expandChars_append_dollar, expandChars_reference href]
  cases expandChars lookup front with
  | error problem => rfl
  | ok before =>
      cases lookup name with
      | none => rfl
      | some value => cases expandChars lookup back <;> rfl

theorem references_append_reference {name : String} (hname : IsName name)
    (front back : List Char) :
    references (front ++ ((reference name).toList ++ back)) =
      references front ++ name :: references back := by
  have href := reference?_reference_append hname back
  obtain ⟨rest, hrest⟩ : ∃ rest, (reference name).toList ++ back = '$' :: rest := by
    simp [toList_reference]
  rw [hrest] at href ⊢
  rw [references_append_dollar, references_reference href]

theorem exists_reference_of_references_eq {text : List Char} {earlier later : List String}
    {name : String} (hnames : references text = earlier ++ name :: later) :
    ∃ front back, text = front ++ ((reference name).toList ++ back) ∧ IsName name ∧
      references front = earlier := by
  induction text using references.induct generalizing earlier with
  | case1 => simp [references] at hnames
  | case2 c rest other tail href ih =>
      obtain ⟨hother, htext⟩ := reference?_eq_some_iff.mp href
      rw [references_reference href] at hnames
      cases earlier with
      | nil =>
          obtain ⟨rfl, -⟩ := List.cons.inj hnames
          exact ⟨[], tail, htext, hother, by simp [references]⟩
      | cons first earlier =>
          obtain ⟨rfl, htail⟩ := List.cons.inj hnames
          obtain ⟨front, back, rfl, hname, hfront⟩ := ih htail
          refine ⟨(reference other).toList ++ front, back, by simp [htext], hname, ?_⟩
          have happend := references_append_reference hother [] front
          rw [List.nil_append] at happend
          simp [happend, references, hfront]
  | case3 c rest hplain ih =>
      rw [references_plain hplain] at hnames
      obtain ⟨front, back, rfl, hname, hfront⟩ := ih hnames
      refine ⟨c :: front, back, rfl, hname, ?_⟩
      -- A reference at the front of the shorter text would be one of the longer text.
      have hshort : reference? (c :: front) = none := by
        have hrest : ∃ rest, (reference name).toList ++ back = '$' :: rest := by
          simp [toList_reference]
        obtain ⟨rest, hrest⟩ := hrest
        rw [hrest, ← List.cons_append, reference?_append_dollar (List.cons_ne_nil c front)]
          at hplain
        simpa using hplain
      rw [references_plain hshort, hfront]

/-! ## One pass -/

/-- Whether a text holds a reference to a variable. -/
def RefersTo (text name : String) : Prop :=
  IsName name ∧ ∃ before after, text = before ++ reference name ++ after

theorem references_eq_append_cons_iff {text name : String} {earlier later : List String} :
    references text.toList = earlier ++ name :: later ↔
      ∃ before after, text = before ++ reference name ++ after ∧ IsName name ∧
        references before.toList = earlier ∧ references after.toList = later := by
  constructor
  · intro hnames
    obtain ⟨front, back, htext, hname, hfront⟩ := exists_reference_of_references_eq hnames
    rw [htext, references_append_reference hname, hfront] at hnames
    have hback := (List.cons.inj (List.append_cancel_left hnames)).2
    refine ⟨String.ofList front, String.ofList back, ?_, hname, ?_, ?_⟩
    · rw [← String.toList_inj, htext]
      simp
    · simpa using hfront
    · simpa using hback
  · rintro ⟨before, after, rfl, hname, rfl, rfl⟩
    rw [← references_append_reference hname]
    simp

theorem refersTo_iff {text name : String} :
    RefersTo text name ↔ name ∈ references text.toList := by
  constructor
  · rintro ⟨hname, before, after, htext⟩
    rw [references_eq_append_cons_iff.mpr ⟨before, after, htext, hname, rfl, rfl⟩]
    simp
  · intro hmem
    obtain ⟨earlier, later, hnames⟩ := List.append_of_mem hmem
    obtain ⟨before, after, htext, hname, -, -⟩ := references_eq_append_cons_iff.mp hnames
    exact ⟨hname, before, after, htext⟩

theorem unset?_eq_some_iff {lookup : Lookup} {names : List String} {problem : Problem} :
    unset? lookup names = some problem ↔
      ∃ earlier name later, names = earlier ++ name :: later ∧ lookup name = none ∧
        problem = .missingVariable name ∧ ∀ other ∈ earlier, lookup other ≠ none := by
  simp only [unset?, Option.map_eq_some_iff, List.find?_eq_some_iff_append]
  constructor
  · rintro ⟨name, ⟨hunset, earlier, later, hnames, hearlier⟩, rfl⟩
    refine ⟨earlier, name, later, hnames, by simpa using hunset, rfl, ?_⟩
    intro other hother
    simpa [Option.isSome_iff_ne_none] using hearlier other hother
  · rintro ⟨earlier, name, later, hnames, hunset, rfl, hearlier⟩
    refine ⟨name, ⟨by simpa using hunset, earlier, later, hnames, ?_⟩, rfl⟩
    intro other hother
    simpa [Option.isSome_iff_ne_none] using hearlier other hother

theorem expand_append_reference {name : String} (hname : IsName name) (lookup : Lookup)
    (before after : String) :
    expand lookup (before ++ reference name ++ after) =
      match expand lookup before, lookup name, expand lookup after with
      | .error problem, _, _ => .error problem
      | .ok _, none, _ => .error (.missingVariable name)
      | .ok _, some _, .error problem => .error problem
      | .ok front, some value, .ok back => .ok (front ++ value ++ back) := by
  have hchars := expandChars_append_reference hname lookup before.toList after.toList
  rw [expand, String.toList_append, String.toList_append, List.append_assoc, hchars, expand, expand]
  cases expandChars lookup before.toList with
  | error problem => rfl
  | ok front =>
      cases lookup name with
      | none => rfl
      | some value =>
          cases expandChars lookup after.toList with
          | error problem => rfl
          | ok back => simp [Except.bind, Except.map, String.ofList_append, String.append_assoc]

theorem expand_eq_error_iff {lookup : Lookup} {text : String} {problem : Problem} :
    expand lookup text = .error problem ↔
      ∃ before name after, text = before ++ reference name ++ after ∧ IsName name ∧
        lookup name = none ∧ problem = .missingVariable name ∧
        ∀ other, RefersTo before other → lookup other ≠ none := by
  rw [← Problem.ofResult?_eq_some_iff, ofResult?_expand, unset?_eq_some_iff]
  constructor
  · rintro ⟨earlier, name, later, hnames, hunset, hproblem, hearlier⟩
    obtain ⟨before, after, htext, hname, rfl, -⟩ := references_eq_append_cons_iff.mp hnames
    refine ⟨before, name, after, htext, hname, hunset, hproblem, ?_⟩
    intro other hrefers
    exact hearlier other (refersTo_iff.mp hrefers)
  · rintro ⟨before, name, after, htext, hname, hunset, hproblem, hbefore⟩
    have hnames := references_eq_append_cons_iff.mpr ⟨before, after, htext, hname, rfl, rfl⟩
    refine ⟨_, name, _, hnames, hunset, hproblem, ?_⟩
    intro other hother
    exact hbefore other (refersTo_iff.mpr hother)

/-- A text with a reference in it is replaced piece by piece: what is in front of the reference,
the reference, and what is behind it, of which the first that fails gives the problem.  A text
without references stays as it is.  And a text fails with the leftmost of its references whose
variable is not set, if there is one. -/
theorem expand_in_one_pass (lookup : Lookup) :
    (∀ before name after, IsName name →
      expand lookup (before ++ reference name ++ after) =
        match expand lookup before, lookup name, expand lookup after with
        | .error problem, _, _ => .error problem
        | .ok _, none, _ => .error (.missingVariable name)
        | .ok _, some _, .error problem => .error problem
        | .ok front, some value, .ok back => .ok (front ++ value ++ back)) ∧
    (∀ text, (∀ name, ¬ RefersTo text name) → expand lookup text = .ok text) ∧
    ∀ text problem, expand lookup text = .error problem ↔
      ∃ before name after, text = before ++ reference name ++ after ∧ IsName name ∧
        lookup name = none ∧ problem = .missingVariable name ∧
        ∀ other, RefersTo before other → lookup other ≠ none := by
  refine ⟨?_, ?_, fun text problem => expand_eq_error_iff⟩
  · intro before name after hname
    exact expand_append_reference hname lookup before after
  · intro text hnone
    refine expand_of_references_eq_nil ?_ lookup
    rw [List.eq_nil_iff_forall_not_mem]
    intro name hmem
    exact hnone name (refersTo_iff.mpr hmem)

def looping : Lookup := fun name =>
  if name = "X" then some "$\x7benv.X\x7d" else none

/-- Beginnings and ends of references stand around a reference, and one that is not set stands in
front of another. -/
theorem expand_in_one_pass_looping :
    IsName "X" ∧ IsName "Y" ∧ (∀ name, ¬ RefersTo "$\x7benv.X$" name) ∧
      expand looping ("$\x7benv.X$" ++ reference "X" ++ "\x7d") =
        .ok "$\x7benv.X$$\x7benv.X\x7d\x7d" ∧
      expand looping ("$\x7benv.X$" ++ reference "Y" ++ reference "Z") =
        .error (.missingVariable "Y") := by
  obtain ⟨hpieces, hplain, -⟩ := expand_in_one_pass looping
  have hx : IsName "X" := by decide +kernel
  have hy : IsName "Y" := by decide +kernel
  have hnone : ∀ text, references text.toList = [] → ∀ name, ¬ RefersTo text name := by
    intro text htext name hrefers
    rw [refersTo_iff, htext] at hrefers
    contradiction
  have hfront : ∀ name, ¬ RefersTo "$\x7benv.X$" name := hnone _ (by decide +kernel)
  have hback : ∀ name, ¬ RefersTo "\x7d" name := hnone _ (by decide +kernel)
  refine ⟨hx, hy, hfront, ?_, ?_⟩
  · rw [hpieces _ _ _ hx, hplain _ hfront, hplain _ hback]
    rfl
  · rw [hpieces _ _ _ hy, hplain _ hfront]
    rfl

end JsonExtract.Variables
