import JsonExtract.Proofs.Path.Grammar

/-!
# Paths put together

The steps of one text behind another are the steps of the first and then those of the second,
provided that the two part at a delimiter: the second starts with a point or an opening bracket,
or the first ends with a point or a closing one.  What an opening bracket looks for behind it is
a closing one with no delimiter in between, so it never looks past such a place.
-/

namespace JsonExtract.Path

/-- Whether two texts part at a delimiter that ends what is in front of it or starts what is
behind it. -/
def Parts (front back : List Char) : Prop :=
  back.head? = some '.' ∨ back.head? = some '[' ∨
    front.getLast? = some '.' ∨ front.getLast? = some ']'

instance (front back : List Char) : Decidable (Parts front back) :=
  inferInstanceAs (Decidable (_ ∨ _ ∨ _ ∨ _))

theorem Parts.of_append (taken : List Char) {rest back : List Char}
    (hparts : Parts (taken ++ rest) back) : rest = [] ∨ Parts rest back := by
  by_cases hrest : rest = []
  · exact .inl hrest
  · rw [Parts, List.getLast?_append, Option.or_of_isSome (List.getLast?_isSome.mpr hrest)] at hparts
    exact .inr hparts

theorem Parts.endsKey {name back : List Char} (hname : Plain name) (hparts : Parts name back) :
    EndsKey back := by
  have hlast : ∀ c, name.getLast? = some c → isDelimiter c = false :=
    fun c hc => hname.2 c (List.mem_of_getLast? hc)
  intro c hc
  rcases hparts with hhead | hhead | hend | hend
  · rw [hhead] at hc
    cases hc
    decide
  · rw [hhead] at hc
    cases hc
    decide
  · exact absurd (hlast _ hend) (by decide)
  · exact absurd (hlast _ hend) (by decide)

/-- An opening bracket and the closing one that ends what it encloses do not part. -/
theorem not_parts_within_brackets {inside ahead tail : List Char}
    (hplain : ∀ c ∈ inside ++ ahead, isDelimiter c = false) :
    ¬ Parts ('[' :: inside) (ahead ++ ']' :: tail) := by
  have hahead : ∀ c, (ahead ++ ']' :: tail).head? = some c → c = ']' ∨ isDelimiter c = false := by
    intro c hc
    cases ahead with
    | nil => exact .inl (Option.some.inj hc).symm
    | cons first more =>
        obtain rfl : first = c := Option.some.inj hc
        exact .inr (hplain first (by simp))
  have hinside : ∀ c, ('[' :: inside).getLast? = some c → c = '[' ∨ isDelimiter c = false := by
    intro c hc
    rcases List.mem_cons.mp (List.mem_of_getLast? hc) with rfl | hmem
    · exact .inl rfl
    · exact .inr (hplain c (List.mem_append_left _ hmem))
  rintro (hhead | hhead | hend | hend)
  · rcases hahead _ hhead with h | h <;> revert h <;> decide
  · rcases hahead _ hhead with h | h <;> revert h <;> decide
  · rcases hinside _ hend with h | h <;> revert h <;> decide
  · rcases hinside _ hend with h | h <;> revert h <;> decide

theorem bracketed?_append {text back tail : List Char} {step : Step}
    (hread : bracketed? text = some (step, tail)) :
    bracketed? (text ++ back) = some (step, tail ++ back) := by
  obtain ⟨inside, hinside, rfl⟩ := bracketed?_eq_some_iff.mp hread
  rw [bracketed?_eq_some_iff]
  exact ⟨inside, hinside, by simp⟩

theorem bracketed?_append_eq_none {text back : List Char} (hnone : bracketed? text = none)
    (hparts : Parts ('[' :: text) back) : bracketed? (text ++ back) = none := by
  cases hread : bracketed? (text ++ back) with
  | none => rfl
  | some found =>
      obtain ⟨step, tail⟩ := found
      obtain ⟨inside, hinside, htext⟩ := bracketed?_eq_some_iff.mp hread
      -- The closing bracket stands in the second text, or it has been there in the first.
      rcases List.append_eq_append_iff.mp htext with ⟨ahead, rfl, rfl⟩ | ⟨more, rfl, hmore⟩
      · exact absurd hparts (not_parts_within_brackets hinside.plain.2)
      · cases more with
        | nil =>
            rw [List.nil_append] at hmore
            rw [List.append_nil, ← hmore] at hparts
            have hplain := hinside.plain.2
            rw [← List.append_nil inside] at hplain
            exact absurd hparts (not_parts_within_brackets hplain)
        | cons closing more =>
            obtain ⟨rfl, rfl⟩ := List.cons.inj hmore
            rw [bracketed?_eq_some_iff.mpr ⟨inside, hinside, rfl⟩] at hnone
            contradiction

/-- The steps of two texts that part are the steps of the first and then those of the second. -/
theorem steps_append {front back : List Char} (hparts : front = [] ∨ Parts front back) :
    steps (front ++ back) = steps front ++ steps back := by
  -- In each case what is left of the first text is empty or still parts from the second.
  induction front using steps.induct with
  | case1 => rw [steps_nil, List.nil_append, List.nil_append]
  | case2 c rest hkey ih =>
      obtain ⟨name, hplain, htext⟩ := exists_name_append hkey rest
      have hends := endsKey_dropWhile_inKey rest
      rw [htext] at hparts ⊢
      generalize rest.dropWhile inKey = tail at hparts hends ih ⊢
      have hparts := hparts.resolve_left (List.append_ne_nil_of_left_ne_nil hplain.1 tail)
      have hback : EndsKey (tail ++ back) := by
        cases tail with
        | nil => exact Parts.endsKey hplain (List.append_nil name ▸ hparts)
        | cons c more => exact endsKey_cons (hends c rfl) (more ++ back)
      rw [List.append_assoc, steps_plain_append hplain hback, steps_plain_append hplain hends,
        ih (hparts.of_append name), List.cons_append]
  | case3 rest step tail hread _ ih =>
      have hparts := hparts.resolve_left (List.cons_ne_nil _ _)
      obtain ⟨inside, _, rfl⟩ := bracketed?_eq_some_iff.mp hread
      have htail : tail = [] ∨ Parts tail back := by
        apply Parts.of_append ('[' :: (inside ++ [']']))
        simpa using hparts
      rw [List.cons_append, steps_opening_of_bracketed? (bracketed?_append hread),
        steps_opening_of_bracketed? hread, ih htail, List.cons_append]
  | case4 rest hread _ ih =>
      have hparts := hparts.resolve_left (List.cons_ne_nil _ _)
      rw [List.cons_append,
        steps_opening_of_bracketed?_eq_none (bracketed?_append_eq_none hread hparts),
        steps_opening_of_bracketed?_eq_none hread, ih (Parts.of_append ['['] hparts)]
  | case5 c rest hkey hopening ih =>
      have hparts := hparts.resolve_left (List.cons_ne_nil _ _)
      have hpassed : ∀ text, steps (c :: text) = steps text := by
        intro text
        rw [steps, if_neg hkey, if_neg hopening]
      rw [List.cons_append, hpassed, hpassed, ih (Parts.of_append [c] hparts)]

theorem steps_append_point (front back : List Char) :
    steps (front ++ '.' :: back) = steps front ++ steps back := by
  have hparts : Parts front ('.' :: back) := .inl rfl
  rw [steps_append (.inr hparts), steps_point]

theorem steps_append_opening (front back : List Char) :
    steps (front ++ '[' :: back) = steps front ++ steps ('[' :: back) := by
  have hparts : Parts front ('[' :: back) := .inr (.inl rfl)
  exact steps_append (.inr hparts)

/-- Where two texts part, the steps of the whole are those of the first and then those of the
second.  So they are with a point between any two texts, whatever brackets are left open. -/
theorem tokenize_append (front back : String) :
    (Parts front.toList back.toList →
      tokenize (front ++ back) = tokenize front ++ tokenize back) ∧
    tokenize (front ++ "." ++ back) = tokenize front ++ tokenize back := by
  constructor
  · intro hparts
    rw [tokenize, String.toList_append, steps_append (.inr hparts)]
    rfl
  · have htext : (front ++ "." ++ back).toList = front.toList ++ '.' :: back.toList := by
      rw [String.toList_append, String.toList_append, List.append_assoc]
      rfl
    rw [tokenize, htext, steps_append_point]
    rfl

/-- An open bracket stays open, also in front of a closing one behind a point. -/
theorem tokenize_append_unclosed :
    (Parts "a[12".toList "[0]".toList ∧
      tokenize ("a[12" ++ "[0]") = tokenize "a[12" ++ tokenize "[0]") ∧
    tokenize ("a[12" ++ "." ++ "]") = tokenize "a[12" ++ tokenize "]" := by
  have hparts : Parts "a[12".toList "[0]".toList := by decide
  exact ⟨⟨hparts, (tokenize_append "a[12" "[0]").1 hparts⟩, (tokenize_append "a[12" "]").2⟩

end JsonExtract.Path
