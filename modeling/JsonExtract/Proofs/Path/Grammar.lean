import JsonExtract.Proofs.Path.Reading

/-!
# Grammar of paths

A path is a row of lexemes.  At every place the longest run of characters that are no
delimiters is a name; a number or a star between brackets is one lexeme; and where none of
these starts, one character is passed over.  Every text has exactly one such row, its lexemes
spell the text without a gap, and the steps that are read off the text are those of its
lexemes.  Since a character that is no delimiter starts a name, only delimiters are ever passed
over.
-/

namespace JsonExtract.Path

/-! ## Runs -/

theorem takeWhile_inKey_plain_append {name rest : List Char} (hname : Plain name)
    (hrest : EndsKey rest) : (name ++ rest).takeWhile inKey = name := by
  rw [List.takeWhile_append_of_pos hname.inKey, hrest.takeWhile_inKey, List.append_nil]

theorem plain_append_inj {name other rest tail : List Char} (hname : Plain name)
    (hother : Plain other) (hrest : EndsKey rest) (htail : EndsKey tail)
    (htext : name ++ rest = other ++ tail) : name = other ∧ rest = tail := by
  have hsame : name = other := by
    rw [← takeWhile_inKey_plain_append hname hrest, htext,
      takeWhile_inKey_plain_append hother htail]
  subst other
  exact ⟨rfl, List.append_cancel_left htext⟩

theorem plain_takeWhile_inKey {c : Char} (hc : inKey c = true) (rest : List Char) :
    Plain (c :: rest.takeWhile inKey) := by
  refine ⟨List.cons_ne_nil _ _, List.forall_mem_cons.mpr ⟨inKey_eq_true_iff.mp hc, ?_⟩⟩
  intro other hother
  exact inKey_eq_true_iff.mp (Text.mem_takeWhile hother)

theorem endsKey_dropWhile_inKey (text : List Char) : EndsKey (text.dropWhile inKey) := by
  intro c hc
  have hnot := List.head?_dropWhile_not inKey text
  rw [Option.mem_def.mp hc] at hnot
  simpa [inKey] using hnot

theorem exists_name_append {c : Char} (hc : inKey c = true) (rest : List Char) :
    ∃ name, Plain name ∧ c :: rest = name ++ rest.dropWhile inKey := by
  refine ⟨_, plain_takeWhile_inKey hc rest, ?_⟩
  rw [List.cons_append, List.takeWhile_append_dropWhile]

/-! ## Between brackets -/

/-- What may stand between brackets, and the step that it stands for. -/
inductive Encloses : List Char → Step → Prop where
  | star : Encloses ['*'] .wildcard
  | number {digits : List Char} (hne : digits ≠ [])
      (hdigits : ∀ c ∈ digits, c.isDigit = true) : Encloses digits (.ofDigits digits)

theorem Encloses.plain {inside : List Char} {step : Step} (hinside : Encloses inside step) :
    Plain inside := by
  cases hinside with
  | star => decide
  | number hne hdigits => exact plain_of_digits hne hdigits

theorem endsKey_closing (rest : List Char) : EndsKey (']' :: rest) :=
  endsKey_cons (by decide) rest

theorem bracketed?_eq_some_iff {text tail : List Char} {step : Step} :
    bracketed? text = some (step, tail) ↔
      ∃ inside, Encloses inside step ∧ text = inside ++ ']' :: tail := by
  constructor
  · intro hread
    unfold bracketed? at hread
    split at hread
    · cases hread
      exact ⟨['*'], .star, rfl⟩
    · split at hread
      · rename_i first more rest htake hdrop
        cases hread
        have hdigits : ∀ c ∈ first :: more, c.isDigit = true := by
          intro c hc
          rw [← htake] at hc
          exact Text.mem_takeWhile hc
        refine ⟨first :: more, .number (List.cons_ne_nil _ _) hdigits, ?_⟩
        rw [← htake, ← hdrop, List.takeWhile_append_dropWhile]
      · contradiction
  · rintro ⟨inside, hinside, rfl⟩
    cases hinside with
    | star => exact bracketed?_wildcard tail
    | number hne hdigits => exact bracketed?_digits hne hdigits tail

/-! ## Lexemes -/

inductive Lexeme where
  | name (chars : List Char)
  | number (digits : List Char)
  | star
  | passedOver (c : Char)
deriving DecidableEq, Repr

namespace Lexeme

def text : Lexeme → List Char
  | name chars => chars
  | number digits => '[' :: (digits ++ [']'])
  | star => ['[', '*', ']']
  | passedOver c => [c]

/-- The step that a lexeme stands for.  A number that is too large for a position is a key. -/
def step? : Lexeme → Option Step
  | name chars => some (.key (String.ofList chars))
  | number digits =>
    if Decimal.ofDigits digits < positionLimit then some (.index (Decimal.ofDigits digits))
    else some (.key (String.ofList digits))
  | star => some .wildcard
  | passedOver _ => none

/-- Whether a text starts with a lexeme other than a character that is passed over, with the
text behind the lexeme. -/
inductive Starts : List Char → Lexeme → List Char → Prop where
  | name {chars rest : List Char} (hchars : Plain chars) (hrest : EndsKey rest) :
      Starts (chars ++ rest) (.name chars) rest
  | number {digits rest : List Char} (hne : digits ≠ [])
      (hdigits : ∀ c ∈ digits, c.isDigit = true) :
      Starts ('[' :: (digits ++ ']' :: rest)) (.number digits) rest
  | star {rest : List Char} : Starts ('[' :: '*' :: ']' :: rest) .star rest

theorem Starts.text_append {text rest : List Char} {lexeme : Lexeme}
    (hstarts : Starts text lexeme rest) : lexeme.text ++ rest = text := by
  cases hstarts with
  | name hchars hrest => rfl
  | number hne hdigits => simp [Lexeme.text]
  | star => rfl

theorem Starts.ne_nil {text rest : List Char} {lexeme : Lexeme}
    (hstarts : Starts text lexeme rest) : text ≠ [] := by
  cases hstarts with
  | name hchars hrest => exact List.append_ne_nil_of_left_ne_nil hchars.1 rest
  | number _ _ => exact List.cons_ne_nil _ _
  | star => exact List.cons_ne_nil _ _

theorem step?_number (digits : List Char) :
    (Lexeme.number digits).step? = some (.ofDigits digits) := by
  simp only [step?, Step.ofDigits]
  split <;> rfl

theorem Starts.of_isDelimiter {c : Char} (hc : isDelimiter c = true) {rest tail : List Char}
    {lexeme : Lexeme} (hstarts : Starts (c :: rest) lexeme tail) :
    c = '[' ∧ ∃ step, lexeme.step? = some step ∧ bracketed? rest = some (step, tail) := by
  generalize htext : c :: rest = text at hstarts
  cases hstarts with
  | name hchars hrest =>
      rename_i chars
      obtain ⟨first, more, rfl⟩ := List.exists_cons_of_ne_nil hchars.1
      have hfirst := hchars.2 first List.mem_cons_self
      rw [← (List.cons.inj htext).1, hc] at hfirst
      contradiction
  | number hne hdigits =>
      obtain ⟨rfl, rfl⟩ := List.cons.inj htext
      exact ⟨rfl, _, step?_number _, bracketed?_digits hne hdigits tail⟩
  | star =>
      obtain ⟨rfl, rfl⟩ := List.cons.inj htext
      exact ⟨rfl, .wildcard, rfl, bracketed?_wildcard tail⟩

theorem exists_starts_of_bracketed? {rest tail : List Char} {step : Step}
    (hread : bracketed? rest = some (step, tail)) :
    ∃ lexeme, Starts ('[' :: rest) lexeme tail ∧ lexeme.step? = some step := by
  obtain ⟨inside, hinside, rfl⟩ := bracketed?_eq_some_iff.mp hread
  cases hinside with
  | star => exact ⟨.star, .star, rfl⟩
  | number hne hdigits => exact ⟨.number inside, .number hne hdigits, step?_number inside⟩

theorem starts_name {c : Char} (hc : inKey c = true) (rest : List Char) :
    Starts (c :: rest) (.name (c :: rest.takeWhile inKey)) (rest.dropWhile inKey) := by
  have hstarts := Starts.name (plain_takeWhile_inKey hc rest) (endsKey_dropWhile_inKey rest)
  rwa [List.cons_append, List.takeWhile_append_dropWhile] at hstarts

theorem opening_not_plain_append {name rest tail : List Char} (hname : Plain name) :
    '[' :: tail ≠ name ++ rest := by
  intro htext
  obtain ⟨first, more, rfl⟩ := List.exists_cons_of_ne_nil hname.1
  have hfirst := hname.2 first List.mem_cons_self
  rw [List.cons_append, List.cons.injEq] at htext
  rw [← htext.1] at hfirst
  contradiction

/-- At most one lexeme starts at a place. -/
theorem Starts.unique {text rest tail : List Char} {lexeme other : Lexeme}
    (hlexeme : Starts text lexeme rest) (hother : Starts text other tail) :
    lexeme = other ∧ rest = tail := by
  cases hlexeme with
  | name hchars hrest =>
      rename_i chars
      generalize htext : chars ++ rest = text at hother
      cases hother with
      | name hothers htail =>
          obtain ⟨rfl, rfl⟩ := plain_append_inj hchars hothers hrest htail htext
          exact ⟨rfl, rfl⟩
      | number _ _ => exact absurd htext.symm (opening_not_plain_append hchars)
      | star => exact absurd htext.symm (opening_not_plain_append hchars)
  | number hne hdigits =>
      rename_i digits
      generalize htext : '[' :: (digits ++ ']' :: rest) = text at hother
      cases hother with
      | name hothers _ => exact absurd htext (opening_not_plain_append hothers)
      | number hne' hdigits' =>
          obtain ⟨rfl, hrest⟩ := plain_append_inj (plain_of_digits hne hdigits)
            (plain_of_digits hne' hdigits') (endsKey_closing rest) (endsKey_closing tail)
            (List.cons.inj htext).2
          exact ⟨rfl, (List.cons.inj hrest).2⟩
      | star =>
          obtain ⟨rfl, _⟩ := plain_append_inj (plain_of_digits hne hdigits) Encloses.star.plain
            (endsKey_closing rest) (endsKey_closing tail) (List.cons.inj htext).2
          exact absurd (hdigits '*' List.mem_cons_self) (by decide)
  | star =>
      generalize htext : '[' :: '*' :: ']' :: rest = text at hother
      cases hother with
      | name hothers _ => exact absurd htext (opening_not_plain_append hothers)
      | number hne hdigits =>
          rename_i digits
          obtain ⟨rfl, _⟩ := plain_append_inj Encloses.star.plain (plain_of_digits hne hdigits)
            (endsKey_closing rest) (endsKey_closing tail) (List.cons.inj htext).2
          exact absurd (hdigits '*' List.mem_cons_self) (by decide)
      | star => exact ⟨rfl, (List.cons.inj (List.cons.inj (List.cons.inj htext).2).2).2⟩

end Lexeme

/-- Whether a text is this row of lexemes, a character being passed over only where no other
lexeme starts. -/
inductive Reads : List Char → List Lexeme → Prop where
  | done : Reads [] []
  | lexeme {text rest : List Char} {lexeme : Lexeme} {lexemes : List Lexeme}
      (hstarts : Lexeme.Starts text lexeme rest) (hrest : Reads rest lexemes) :
      Reads text (lexeme :: lexemes)
  | passedOver {c : Char} {rest : List Char} {lexemes : List Lexeme}
      (hnone : ∀ lexeme tail, ¬ Lexeme.Starts (c :: rest) lexeme tail)
      (hrest : Reads rest lexemes) : Reads (c :: rest) (.passedOver c :: lexemes)

theorem Reads.unique {text : List Char} {lexemes others : List Lexeme}
    (hlexemes : Reads text lexemes) (hothers : Reads text others) : lexemes = others := by
  induction hlexemes generalizing others with
  | done =>
      cases hothers with
      | done => rfl
      | lexeme hstarts _ => exact absurd rfl hstarts.ne_nil
  | lexeme hstarts _ ih =>
      cases hothers with
      | done => exact absurd rfl hstarts.ne_nil
      | lexeme hother hrest =>
          obtain ⟨rfl, rfl⟩ := hstarts.unique hother
          rw [ih hrest]
      | passedOver hnone _ => exact absurd hstarts (hnone _ _)
  | passedOver hnone _ ih =>
      cases hothers with
      | lexeme hstarts _ => exact absurd hstarts (hnone _ _)
      | passedOver _ hrest => rw [ih hrest]

theorem Reads.flatMap_text {text : List Char} {lexemes : List Lexeme}
    (hreads : Reads text lexemes) : lexemes.flatMap Lexeme.text = text := by
  induction hreads with
  | done => rfl
  | lexeme hstarts _ ih => rw [List.flatMap_cons, ih, hstarts.text_append]
  | passedOver _ _ ih => rw [List.flatMap_cons, ih, Lexeme.text, List.singleton_append]

/-- Only delimiters are passed over: any other character starts a name. -/
theorem Reads.isDelimiter_of_passedOver {text : List Char} {lexemes : List Lexeme}
    (hreads : Reads text lexemes) {c : Char} (hc : .passedOver c ∈ lexemes) :
    isDelimiter c = true := by
  induction hreads with
  | done => contradiction
  | lexeme hstarts _ ih =>
      rw [List.mem_cons] at hc
      rcases hc with rfl | hc
      · cases hstarts
      · exact ih hc
  | passedOver hnone _ ih =>
      rw [List.mem_cons] at hc
      rcases hc with hhead | hc
      · cases hhead
        cases hdelimiter : isDelimiter c with
        | true => rfl
        | false =>
            have hkey := inKey_eq_true_iff.mpr hdelimiter
            exact absurd (Lexeme.starts_name hkey _) (hnone _ _)
      · exact ih hc

/-- Every text is a row of lexemes, and its steps are those of the lexemes. -/
theorem exists_reads (text : List Char) :
    ∃ lexemes, Reads text lexemes ∧ lexemes.filterMap Lexeme.step? = steps text := by
  induction text using steps.induct with
  | case1 => exact ⟨[], .done, by simp⟩
  | case2 c rest hkey ih =>
      obtain ⟨lexemes, hreads, hsteps⟩ := ih
      refine ⟨_, .lexeme (Lexeme.starts_name hkey rest) hreads, ?_⟩
      rw [steps, if_pos hkey, ← hsteps]
      rfl
  | case3 rest step tail hread _ ih =>
      obtain ⟨lexemes, hreads, hsteps⟩ := ih
      obtain ⟨lexeme, hstarts, hstep⟩ := Lexeme.exists_starts_of_bracketed? hread
      refine ⟨_, .lexeme hstarts hreads, ?_⟩
      rw [List.filterMap_cons_some hstep, hsteps, steps_opening_of_bracketed? hread]
  | case4 rest hread _ ih =>
      obtain ⟨lexemes, hreads, hsteps⟩ := ih
      refine ⟨_, .passedOver ?_ hreads, ?_⟩
      · intro lexeme tail hstarts
        obtain ⟨_, step, _, hsome⟩ := hstarts.of_isDelimiter (by decide)
        rw [hread] at hsome
        contradiction
      · rw [steps_opening_of_bracketed?_eq_none hread, ← hsteps]
        rfl
  | case5 c rest hkey hopening ih =>
      obtain ⟨lexemes, hreads, hsteps⟩ := ih
      have hdelimiter : isDelimiter c = true := by simpa [inKey] using hkey
      refine ⟨_, .passedOver ?_ hreads, ?_⟩
      · intro lexeme tail hstarts
        exact hopening (hstarts.of_isDelimiter hdelimiter).1
      · rw [steps, if_neg hkey, if_neg hopening, ← hsteps]
        rfl

end JsonExtract.Path
