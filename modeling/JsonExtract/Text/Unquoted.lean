import JsonExtract.Text.Slice

/-!
# Text outside quotes

Double quotes enclose parts of a text.  A backslash takes away the meaning of the character
after it, inside quotes and outside.  An operator is looked for outside quotes, and it is found
either with the text on its two sides or by its offset in the octets of the text.
-/

namespace JsonExtract.Text

/-- Where in a text the reader stands. -/
structure QuoteState where
  quoted : Bool
  escaped : Bool
deriving DecidableEq, Repr

namespace QuoteState

def start : QuoteState := ⟨false, false⟩

def next (state : QuoteState) (c : Char) : QuoteState :=
  if state.escaped then { state with escaped := false }
  else if c = '\\' then { state with escaped := true }
  else if c = '"' then { state with quoted := !state.quoted }
  else state

def isOpen (state : QuoteState) : Bool :=
  !state.quoted && !state.escaped

end QuoteState

/-- Splits a text at the first operator outside quotes, the operator being left out. -/
def splitUnquoted (operator : List Char) :
    QuoteState → List Char → Option (List Char × List Char)
  | _, [] => none
  | state, c :: rest =>
    if state.isOpen && c ≠ '\\' && c ≠ '"' && operator.isPrefixOf (c :: rest) then
      some ([], (c :: rest).drop operator.length)
    else
      (splitUnquoted operator (state.next c) rest).map fun (before, after) => (c :: before, after)

/-- The offset of the first operator outside quotes, in a text of which `rest` is left behind
`offset`. -/
def operatorFrom (operator text : List Char) :
    QuoteState → Nat → List Char → Except SliceFault (Option Nat)
  | _, _, [] => .ok none
  | state, offset, c :: rest =>
    if state.isOpen && c ≠ '\\' && c ≠ '"' then
      match slice text offset (Utf8.encode text).length with
      | .error fault => .error fault
      | .ok behind =>
        if operator.isPrefixOf behind then .ok (some offset)
        else operatorFrom operator text (state.next c) (offset + c.utf8Size) rest
    else operatorFrom operator text (state.next c) (offset + c.utf8Size) rest

def operatorOffset (operator text : List Char) : Except SliceFault (Option Nat) :=
  operatorFrom operator text .start 0 text

/-- Splits a text at the first occurrence of a character, the character being left out. -/
def splitAtChar (separator : Char) (text : List Char) : Option (List Char × List Char) :=
  match text.dropWhile (· ≠ separator) with
  | [] => none
  | _ :: after => some (text.takeWhile (· ≠ separator), after)

end JsonExtract.Text
