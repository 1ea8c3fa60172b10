import JsonExtract.Text.Utf8

/-!
# Pieces of a text between offsets

Offsets count the octets of a text in UTF-8.  Only an offset at which a character starts, or
the text ends, cuts the text in two; there is no piece between two offsets when one of them
lies inside a character or behind the end, or when they stand in the wrong order.
-/

namespace JsonExtract.Text

structure SliceFault where
  start : Nat
  stop : Nat
deriving DecidableEq, Repr

/-- The text before an offset and the text behind it. -/
def cut? : List Char → Nat → Option (List Char × List Char)
  | text, 0 => some ([], text)
  | [], _ + 1 => none
  | c :: rest, offset + 1 =>
    if c.utf8Size ≤ offset + 1 then
      (cut? rest (offset + 1 - c.utf8Size)).map fun parts => (c :: parts.1, parts.2)
    else none

def slice (text : List Char) (start stop : Nat) : Except SliceFault (List Char) :=
  match (cut? text stop).bind fun parts => cut? parts.1 start with
  | some parts => .ok parts.2
  | none => .error ⟨start, stop⟩

end JsonExtract.Text
