import JsonExtract.Problem
import JsonExtract.Text.WordChar

/-!
# References to variables

A reference is a dollar sign and, between braces, `env`, a point and a name made of word
characters.  References are replaced in a single pass from left to right: the value of a
variable is not read again, and everything between references stays as it is.
-/

namespace JsonExtract.Variables

abbrev Lookup := String → Option String

/-- The name in a reference at the front of a text, and the text after the reference. -/
def reference? : List Char → Option (String × List Char)
  | '$' :: '\x7b' :: 'e' :: 'n' :: 'v' :: '.' :: text =>
    match text.takeWhile Text.isWordChar, text.dropWhile Text.isWordChar with
    | first :: more, '\x7d' :: rest => some (String.ofList (first :: more), rest)
    | _, _ => none
  | _ => none

theorem length_of_reference? {text rest : List Char} {name : String}
    (h : reference? text = some (name, rest)) : rest.length < text.length := by
  unfold reference? at h
  split at h
  · rename_i text
    split at h
    · rename_i hdrop
      simp only [Option.some.injEq, Prod.mk.injEq] at h
      obtain ⟨-, rfl⟩ := h
      have hle := (List.dropWhile_sublist (p := Text.isWordChar) (l := text)).length_le
      rw [hdrop] at hle
      simp only [List.length_cons] at hle ⊢
      omega
    · simp at h
  · simp at h

/-- The text with its references replaced, or the first variable that is not set. -/
def expandChars (lookup : Lookup) (text : List Char) : Except Problem (List Char) :=
  match text with
  | [] => .ok []
  | c :: rest =>
    match _h : reference? (c :: rest) with
    | some (name, tail) =>
      match lookup name with
      | some value => (expandChars lookup tail).map (value.toList ++ ·)
      | none => .error (.missingVariable name)
    | none => (expandChars lookup rest).map (c :: ·)
termination_by text.length
decreasing_by
  · exact length_of_reference? _h
  · simp

/-- The names that a text refers to, in order. -/
def references (text : List Char) : List String :=
  match text with
  | [] => []
  | c :: rest =>
    match _h : reference? (c :: rest) with
    | some (name, tail) => name :: references tail
    | none => references rest
termination_by text.length
decreasing_by
  · exact length_of_reference? _h
  · simp

def expand (lookup : Lookup) (text : String) : Except Problem String :=
  (expandChars lookup text.toList).map String.ofList

end JsonExtract.Variables
