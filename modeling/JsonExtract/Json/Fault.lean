import JsonExtract.Text.Position

/-!
# Faults of a document's text

A fault names what is wrong and how many bytes of the text lie beyond the place where it
shows.  Its message gives the line and the column of that place.
-/

namespace JsonExtract.Json

inductive Fault.Cause where
  | unfinishedValue
  | unfinishedString
  | unfinishedArray
  | unfinishedObject
  | misspelledWord
  | missingValue
  | missingColon
  | missingArraySeparator
  | missingObjectSeparator
  | malformedNumber
  | numberOutOfRange
  | malformedEscape
  | controlCharacter
  | unquotedKey
  | loneSurrogate
  | unfinishedSurrogatePair
  | trailingComma
  | trailingCharacters
  | tooDeep
deriving DecidableEq, Repr

def Fault.Cause.text : Fault.Cause → String
  | .unfinishedValue => "EOF while parsing a value"
  | .unfinishedString => "EOF while parsing a string"
  | .unfinishedArray => "EOF while parsing a list"
  | .unfinishedObject => "EOF while parsing an object"
  | .misspelledWord => "expected ident"
  | .missingValue => "expected value"
  | .missingColon => "expected `:`"
  | .missingArraySeparator => "expected `,` or `]`"
  | .missingObjectSeparator => "expected `,` or `\x7d`"
  | .malformedNumber => "invalid number"
  | .numberOutOfRange => "number out of range"
  | .malformedEscape => "invalid escape"
  | .controlCharacter => "control character (\\u0000-\\u001F) found while parsing a string"
  | .unquotedKey => "key must be a string"
  | .loneSurrogate => "lone leading surrogate in hex escape"
  | .unfinishedSurrogatePair => "unexpected end of hex escape"
  | .trailingComma => "trailing comma"
  | .trailingCharacters => "trailing characters"
  | .tooDeep => "recursion limit exceeded"

/-- What is wrong, and the number of bytes of the text beyond it. -/
structure Fault where
  cause : Fault.Cause
  bytesLeft : Nat
deriving DecidableEq, Repr

/-- Something read off the front of a text, and the rest of the text. -/
abbrev Split (α : Type) := α × List Char

namespace Fault

/-- A fault that shows right before this rest of the text. -/
def before (cause : Cause) (rest : List Char) : Fault :=
  ⟨cause, Text.byteLength rest⟩

/-- A fault that shows at the next byte, or at the end if there is none. -/
def within (cause : Cause) (rest : List Char) : Fault :=
  ⟨cause, Text.byteLength rest - 1⟩

def message (fault : Fault) (text : List Char) : String :=
  let place := Text.Position.ofOffset text (Text.byteLength text - fault.bytesLeft)
  fault.cause.text ++ " at line " ++ toString place.line ++ " column " ++ toString place.column

end Fault

end JsonExtract.Json
