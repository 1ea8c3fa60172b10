import JsonExtract.Path.Step

/-!
# Reading paths

Every text is a path.  A maximal run of characters other than the delimiters is a key.
A number between brackets is a position, or a key when it is too large for one, and a star
between brackets is a wildcard.  Any other delimiter separates and is passed over.
-/

namespace JsonExtract.Path

/-- The step that a number between brackets stands for. -/
def Step.ofDigits (digits : List Char) : Step :=
  let position := Decimal.ofDigits digits
  if position < positionLimit then .index position else .key (String.ofList digits)

/-- The step between brackets, after the opening one, and the text after the closing one. -/
def bracketed? (text : List Char) : Option (Step × List Char) :=
  match text with
  | '*' :: ']' :: rest => some (.wildcard, rest)
  | _ =>
    match text.takeWhile Char.isDigit, text.dropWhile Char.isDigit with
    | first :: more, ']' :: rest => some (.ofDigits (first :: more), rest)
    | _, _ => none

theorem length_dropWhile_le (p : Char → Bool) (text : List Char) :
    (text.dropWhile p).length ≤ text.length :=
  (List.dropWhile_sublist p).length_le

theorem length_of_bracketed? {text rest : List Char} {step : Step}
    (h : bracketed? text = some (step, rest)) : rest.length < text.length := by
  unfold bracketed? at h
  split at h
  · simp only [Option.some.injEq, Prod.mk.injEq] at h
    obtain ⟨-, rfl⟩ := h
    simp only [List.length_cons]
    omega
  · split at h
    · rename_i hdrop
      simp only [Option.some.injEq, Prod.mk.injEq] at h
      obtain ⟨-, rfl⟩ := h
      have hle := length_dropWhile_le Char.isDigit text
      rw [hdrop] at hle
      simp only [List.length_cons] at hle
      omega
    · simp at h

def inKey (c : Char) : Bool :=
  !isDelimiter c

def steps (text : List Char) : List Step :=
  match text with
  | [] => []
  | c :: rest =>
    if inKey c then
      .key (String.ofList (c :: rest.takeWhile inKey)) :: steps (rest.dropWhile inKey)
    else if c = '[' then
      match _h : bracketed? rest with
      | some (step, tail) => step :: steps tail
      | none => steps rest
    else steps rest
termination_by text.length
decreasing_by
  all_goals simp_wf
  · have := length_dropWhile_le inKey rest
    omega
  · have := length_of_bracketed? _h
    omega

/-- The steps that a text spells. -/
def tokenize (path : String) : List Step :=
  steps path.toList

end JsonExtract.Path
