import JsonExtract.Proofs.Text.Runs
import JsonExtract.Text.Blank

/-!
# Texts without blanks at their ends

Trimming takes blanks away from both ends of a text and nothing else, so it finds a text without
blanks at its ends between any blanks.
-/

namespace JsonExtract.Text

def IsBlanks (text : List Char) : Prop :=
  ∀ c ∈ text, isBlank c = true

def IsTrimmed (text : List Char) : Prop :=
  (∀ c ∈ text.head?, isBlank c = false) ∧ ∀ c ∈ text.getLast?, isBlank c = false

instance : DecidablePred IsBlanks :=
  List.decidableBAll (isBlank · = true)

instance : DecidablePred IsTrimmed := fun text =>
  @instDecidableAnd _ _ (Option.decidableForallMem text.head?)
    (Option.decidableForallMem text.getLast?)

theorem IsBlanks.append {front back : List Char} (hfront : IsBlanks front)
    (hback : IsBlanks back) : IsBlanks (front ++ back) := by
  intro c hc
  rcases List.mem_append.mp hc with hmem | hmem
  · exact hfront c hmem
  · exact hback c hmem

theorem trimStart_blanks_append {blanks : List Char} (hblanks : IsBlanks blanks)
    (text : List Char) : trimStart (blanks ++ text) = trimStart text :=
  List.dropWhile_append_of_pos hblanks

theorem trimStart_eq_self {text : List Char} (htext : ∀ c ∈ text.head?, isBlank c = false) :
    trimStart text = text := by
  cases text with
  | nil => rfl
  | cons c rest => simp [trimStart, htext c rfl]

theorem trimEnd_append_blanks {blanks : List Char} (hblanks : IsBlanks blanks)
    (text : List Char) : trimEnd (text ++ blanks) = trimEnd text := by
  have hreverse : IsBlanks blanks.reverse := fun c hc => hblanks c (List.mem_reverse.mp hc)
  rw [trimEnd, List.reverse_append, trimStart_blanks_append hreverse, trimEnd]

theorem trimEnd_eq_self {text : List Char} (htext : ∀ c ∈ text.getLast?, isBlank c = false) :
    trimEnd text = text := by
  rw [← List.head?_reverse] at htext
  rw [trimEnd, trimStart_eq_self htext, List.reverse_reverse]

theorem trimStart_append {front : List Char} (hfront : front ≠ [])
    (hhead : ∀ c ∈ front.head?, isBlank c = false) (back : List Char) :
    trimStart (front ++ back) = front ++ back := by
  apply trimStart_eq_self
  rw [List.head?_append, Option.or_of_isSome (List.isSome_head?.mpr hfront)]
  exact hhead

/-- A text without blanks at its ends is found between blanks. -/
theorem trim_between_blanks {text before after : List Char} (htext : IsTrimmed text)
    (hbefore : IsBlanks before) (hafter : IsBlanks after) :
    trim (before ++ (text ++ after)) = text := by
  rw [trim, trimStart_blanks_append hbefore]
  by_cases hempty : text = []
  · subst text
    rw [List.nil_append, ← List.append_nil after, trimStart_blanks_append hafter]
    rfl
  · rw [trimStart_append hempty htext.1, trimEnd_append_blanks hafter, trimEnd_eq_self htext.2]

theorem isBlanks_nil : IsBlanks [] :=
  fun _ => nofun

theorem IsTrimmed.trim_append {text after : List Char} (htext : IsTrimmed text)
    (hafter : IsBlanks after) : trim (text ++ after) = text :=
  trim_between_blanks htext isBlanks_nil hafter

theorem IsTrimmed.trim_behind {text before : List Char} (htext : IsTrimmed text)
    (hbefore : IsBlanks before) : trim (before ++ text) = text := by
  have hbetween := trim_between_blanks htext hbefore isBlanks_nil
  rwa [List.append_nil] at hbetween

theorem IsTrimmed.trim_eq {text : List Char} (htext : IsTrimmed text) : trim text = text :=
  htext.trim_behind isBlanks_nil

/-- What starts with one text without blanks at its ends and ends with another has none at its
ends. -/
theorem IsTrimmed.enclose {front back : List Char} (hfront : IsTrimmed front)
    (hback : IsTrimmed back) (hstart : front ≠ []) (hend : back ≠ []) (between : List Char) :
    IsTrimmed (front ++ (between ++ back)) := by
  constructor
  · rw [List.head?_append, Option.or_of_isSome (List.isSome_head?.mpr hstart)]
    exact hfront.1
  · rw [← List.append_assoc, List.getLast?_append,
      Option.or_of_isSome (List.getLast?_isSome.mpr hend)]
    exact hback.2

/-! ## What trimming finds -/

/-- Whether a text is another between blanks, the other having none at its ends. -/
def Trims (text core : List Char) : Prop :=
  ∃ front back, text = front ++ (core ++ back) ∧ IsBlanks front ∧ IsBlanks back ∧ IsTrimmed core

theorem exists_blanks_append_trimStart (text : List Char) :
    ∃ blanks, text = blanks ++ trimStart text ∧ IsBlanks blanks :=
  ⟨text.takeWhile isBlank, List.takeWhile_append_dropWhile.symm, fun _ => mem_takeWhile⟩

theorem exists_trimEnd_append_blanks (text : List Char) :
    ∃ blanks, text = trimEnd text ++ blanks ∧ IsBlanks blanks := by
  obtain ⟨blanks, hsplit, hblanks⟩ := exists_blanks_append_trimStart text.reverse
  refine ⟨blanks.reverse, ?_, fun c hc => hblanks c (List.mem_reverse.mp hc)⟩
  rw [trimEnd, ← List.reverse_append, ← hsplit, List.reverse_reverse]

theorem trims_trim (text : List Char) : Trims text (trim text) := by
  obtain ⟨front, hstart, hfront⟩ := exists_blanks_append_trimStart text
  obtain ⟨back, hend, hback⟩ := exists_trimEnd_append_blanks (trimStart text)
  refine ⟨front, back, ?_, hfront, hback, ?_, ?_⟩
  · rw [trim, ← hend, ← hstart]
  · -- What is left starts as the text without the blanks in front does.
    intro c hc
    have hhead : c ∈ (trimStart text).head? := by
      rw [hend, List.head?_append, Option.mem_def, Option.or_eq_some_iff]
      exact .inl hc
    exact of_mem_head?_dropWhile hhead
  · intro c hc
    rw [trim, trimEnd, List.getLast?_reverse] at hc
    exact of_mem_head?_dropWhile hc

theorem trim_eq_iff {text core : List Char} : trim text = core ↔ Trims text core := by
  constructor
  · rintro rfl
    exact trims_trim text
  · rintro ⟨front, back, rfl, hfront, hback, hcore⟩
    exact trim_between_blanks hcore hfront hback

theorem trim_eq_nil_iff {text : List Char} : trim text = [] ↔ IsBlanks text := by
  rw [trim_eq_iff]
  constructor
  · rintro ⟨front, back, rfl, hfront, hback, -⟩
    exact hfront.append hback
  · intro hblanks
    exact ⟨text, [], by simp, hblanks, isBlanks_nil, nofun, nofun⟩

end JsonExtract.Text
