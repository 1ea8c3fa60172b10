import JsonExtract.Path.Reader
import JsonExtract.Proofs.Decimal.Digits
import JsonExtract.Proofs.Text.Runs

/-!
# Paths read back

The text of a step is read back as that step, whatever steps come behind it.  Conversely all
that is ever read off a text is steps that a path can spell: keys that are not empty and hold
no delimiter, and positions below the bound.  So reading undoes writing, and what has been read
from any text can be written down and read again.
-/

namespace JsonExtract.Path

/-! ## Plain names -/

instance (name : List Char) : Decidable (Plain name) :=
  decidable_of_iff (name ≠ [] ∧ name.all fun c => !isDelimiter c) (by simp [Plain])

instance : DecidablePred Step.Canonical
  | .key name => inferInstanceAs (Decidable (Plain name.toList))
  | .index position => inferInstanceAs (Decidable (position < positionLimit))
  | .wildcard => inferInstanceAs (Decidable True)

theorem isDelimiter_eq_true_iff {c : Char} :
    isDelimiter c = true ↔ c = '.' ∨ c = '[' ∨ c = ']' := by
  simp [isDelimiter, or_assoc]

theorem isDelimiter_of_isDigit {c : Char} (hc : c.isDigit = true) : isDelimiter c = false := by
  cases hdelimiter : isDelimiter c with
  | false => rfl
  | true =>
      rcases isDelimiter_eq_true_iff.mp hdelimiter with rfl | rfl | rfl <;> contradiction

theorem plain_of_digits {digits : List Char} (hne : digits ≠ [])
    (hdigits : ∀ c ∈ digits, c.isDigit = true) : Plain digits :=
  ⟨hne, fun c hc => isDelimiter_of_isDigit (hdigits c hc)⟩

theorem inKey_eq_true_iff {c : Char} : inKey c = true ↔ isDelimiter c = false := by
  simp [inKey]

theorem Plain.inKey {name : List Char} (hname : Plain name) : ∀ c ∈ name, inKey c = true :=
  fun c hc => inKey_eq_true_iff.mpr (hname.2 c hc)

/-- A text behind a key: it is empty or goes on with a delimiter. -/
def EndsKey (text : List Char) : Prop :=
  ∀ c ∈ text.head?, isDelimiter c = true

theorem endsKey_nil : EndsKey [] := by
  simp [EndsKey]

theorem endsKey_cons {c : Char} (hc : isDelimiter c = true) (rest : List Char) :
    EndsKey (c :: rest) := by
  simpa [EndsKey] using hc

theorem EndsKey.takeWhile_inKey {text : List Char} (htext : EndsKey text) :
    text.takeWhile Path.inKey = [] := by
  cases text with
  | nil => rfl
  | cons c rest =>
      have hc : isDelimiter c = true := htext c rfl
      simp [Path.inKey, hc]

theorem EndsKey.dropWhile_inKey {text : List Char} (htext : EndsKey text) :
    text.dropWhile Path.inKey = text := by
  have hparts := List.takeWhile_append_dropWhile (p := Path.inKey) (l := text)
  rwa [htext.takeWhile_inKey, List.nil_append] at hparts

/-! ## What is read at the front of a text -/

@[simp] theorem steps_nil : steps [] = [] := by
  rw [steps]

theorem steps_plain_append {name rest : List Char} (hname : Plain name) (hrest : EndsKey rest) :
    steps (name ++ rest) = .key (String.ofList name) :: steps rest := by
  obtain ⟨first, more, rfl⟩ := List.exists_cons_of_ne_nil hname.1
  have hmore : ∀ c ∈ more, inKey c = true := fun c hc => hname.inKey c (List.mem_cons_of_mem _ hc)
  rw [List.cons_append, steps, if_pos (hname.inKey first List.mem_cons_self),
    List.takeWhile_append_of_pos hmore, hrest.takeWhile_inKey, List.append_nil,
    List.dropWhile_append_of_pos hmore, hrest.dropWhile_inKey]

theorem steps_point (rest : List Char) : steps ('.' :: rest) = steps rest := by
  rw [steps, if_neg (by decide), if_neg (by decide)]

theorem steps_opening_of_bracketed? {rest tail : List Char} {step : Step}
    (hstep : bracketed? rest = some (step, tail)) : steps ('[' :: rest) = step :: steps tail := by
  rw [steps, if_neg (by decide), if_pos rfl]
  split
  · rename_i hread
    rw [hstep] at hread
    cases hread
    rfl
  · rename_i hread
    rw [hstep] at hread
    contradiction

theorem steps_opening_of_bracketed?_eq_none {rest : List Char} (hnone : bracketed? rest = none) :
    steps ('[' :: rest) = steps rest := by
  rw [steps, if_neg (by decide), if_pos rfl]
  split
  · rename_i hread
    rw [hnone] at hread
    contradiction
  · rfl

theorem bracketed?_wildcard (rest : List Char) :
    bracketed? ('*' :: ']' :: rest) = some (.wildcard, rest) := by
  simp [bracketed?]

theorem isDigit_head?_closing (rest : List Char) :
    ∀ c ∈ (']' :: rest).head?, c.isDigit = false := by
  rintro _ ⟨⟩
  decide

theorem bracketed?_digits {digits : List Char} (hne : digits ≠ [])
    (hdigits : ∀ c ∈ digits, c.isDigit = true) (rest : List Char) :
    bracketed? (digits ++ ']' :: rest) = some (.ofDigits digits, rest) := by
  have htake := Text.takeWhile_run_append hdigits (isDigit_head?_closing rest)
  have hdrop := Text.dropWhile_run_append hdigits (isDigit_head?_closing rest)
  obtain ⟨first, more, rfl⟩ := List.exists_cons_of_ne_nil hne
  unfold bracketed?
  split
  · rename_i hstar
    have hfirst : first = '*' := (List.cons.inj hstar).1
    subst hfirst
    exact absurd (hdigits '*' List.mem_cons_self) (by decide)
  · rw [htake, hdrop]
    rfl

/-! ## Steps that a path can spell -/

theorem Step.ofDigits_canonical {digits : List Char} (hne : digits ≠ [])
    (hdigits : ∀ c ∈ digits, c.isDigit = true) : (Step.ofDigits digits).Canonical := by
  unfold Step.ofDigits
  by_cases hsmall : Decimal.ofDigits digits < positionLimit
  · rw [if_pos hsmall]
    exact hsmall
  · rw [if_neg hsmall, Step.Canonical, String.toList_ofList]
    exact plain_of_digits hne hdigits

theorem Step.ofDigits_toDigits {position : Nat} (hposition : position < positionLimit) :
    Step.ofDigits (Decimal.toDigits position) = .index position := by
  simp [Step.ofDigits, hposition]

theorem bracketed?_canonical {text rest : List Char} {step : Step}
    (hstep : bracketed? text = some (step, rest)) : step.Canonical := by
  unfold bracketed? at hstep
  split at hstep
  · cases hstep
    trivial
  · split at hstep
    · rename_i first more rest htake _
      cases hstep
      apply Step.ofDigits_canonical (List.cons_ne_nil _ _)
      intro c hc
      rw [← htake] at hc
      exact Text.mem_takeWhile hc
    · contradiction

/-- All that is read off a text is steps that a path can spell. -/
theorem steps_canonical (text : List Char) : ∀ step ∈ steps text, step.Canonical := by
  induction text using steps.induct with
  | case1 => simp
  | case2 c rest hkey ih =>
      rw [steps, if_pos hkey, List.forall_mem_cons]
      refine ⟨?_, ih⟩
      rw [Step.Canonical, String.toList_ofList]
      refine ⟨List.cons_ne_nil _ _, List.forall_mem_cons.mpr ⟨inKey_eq_true_iff.mp hkey, ?_⟩⟩
      intro other hother
      exact inKey_eq_true_iff.mp (Text.mem_takeWhile hother)
  | case3 rest step tail hread _ ih =>
      rw [steps_opening_of_bracketed? hread, List.forall_mem_cons]
      exact ⟨bracketed?_canonical hread, ih⟩
  | case4 rest hread _ ih =>
      rw [steps_opening_of_bracketed?_eq_none hread]
      exact ih
  | case5 c rest hkey hopening ih =>
      rw [steps, if_neg hkey, if_neg hopening]
      exact ih

/-! ## Writing and reading -/

theorem render_cons (step : Step) (rest : List Step) :
    render (step :: rest) = step.render ++ render rest :=
  List.flatMap_cons

theorem Step.endsKey_render_append (step : Step) (rest : List Char) :
    EndsKey (step.render ++ rest) := by
  cases step <;> exact endsKey_cons (by decide) _

theorem endsKey_render (steps : List Step) : EndsKey (render steps) := by
  cases steps with
  | nil => exact endsKey_nil
  | cons step rest =>
      rw [render_cons]
      exact step.endsKey_render_append _

/-- A step is read back from its text in front of any text that ends a key. -/
theorem steps_render_append {step : Step} (hstep : step.Canonical) {rest : List Char}
    (hrest : EndsKey rest) : steps (step.render ++ rest) = step :: steps rest := by
  cases step with
  | key name =>
      rw [Step.render, List.cons_append, steps_point, steps_plain_append hstep hrest,
        String.ofList_toList]
  | index position =>
      have hread := bracketed?_digits (Decimal.toDigits_ne_nil position)
        (fun c => Decimal.isDigit_of_mem_toDigits) rest
      rw [Step.ofDigits_toDigits hstep] at hread
      rw [Step.render, List.cons_append, List.append_assoc, List.singleton_append,
        steps_opening_of_bracketed? hread]
  | wildcard => exact steps_opening_of_bracketed? (bracketed?_wildcard rest)

theorem steps_render {list : List Step} (hlist : ∀ step ∈ list, step.Canonical) :
    steps (render list) = list := by
  induction list with
  | nil => exact steps_nil
  | cons step rest ih =>
      rw [List.forall_mem_cons] at hlist
      rw [render_cons, steps_render_append hlist.1 (endsKey_render rest), ih hlist.2]

/-- Reading undoes writing: steps that a path can spell are read back from their text.  Reading
gives nothing else, whatever the text is, so the steps of any text are read back from theirs. -/
theorem tokenize_render :
    (∀ list : List Step, (∀ step ∈ list, step.Canonical) →
      tokenize (String.ofList (render list)) = list) ∧
    (∀ path : String, ∀ step ∈ tokenize path, step.Canonical) ∧
    ∀ path : String, tokenize (String.ofList (render (tokenize path))) = tokenize path := by
  have hwritten : ∀ list : List Step, (∀ step ∈ list, step.Canonical) →
      tokenize (String.ofList (render list)) = list := by
    intro list hlist
    rw [tokenize, String.toList_ofList, steps_render hlist]
  have hread : ∀ path : String, ∀ step ∈ tokenize path, step.Canonical :=
    fun path => steps_canonical path.toList
  exact ⟨hwritten, hread, fun path => hwritten _ (hread path)⟩

def unlikelySteps : List Step :=
  [.wildcard, .key "*", .index 18446744073709551615, .key "18446744073709551616", .key "007",
    .index 0, .wildcard, .wildcard, .key "\n\"€"]

theorem tokenize_render_unlikelySteps :
    (∀ step ∈ unlikelySteps, step.Canonical) ∧
      tokenize (String.ofList (render unlikelySteps)) = unlikelySteps := by
  have hcanonical : ∀ step ∈ unlikelySteps, step.Canonical := by decide
  exact ⟨hcanonical, tokenize_render.1 unlikelySteps hcanonical⟩

end JsonExtract.Path
