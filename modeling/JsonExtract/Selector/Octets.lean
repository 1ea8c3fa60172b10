import JsonExtract.Selector.Argument

/-!
# Arguments by offsets

The default of an argument is found by the offset of its operator.  The operator takes two
octets; what stands behind them and what stands before them is cut out of the argument.
-/

namespace JsonExtract.Selector

/-- The selector that a trimmed argument gives, its parts being cut out between offsets. -/
def scanTrimmed (text : List Char) : Except Text.SliceFault (Option Selector) :=
  match Text.operatorOffset ['?', '?'] text with
  | .error fault => .error fault
  | .ok none => .ok (ofBody? text none)
  | .ok (some offset) =>
    match Text.slice text (offset + 2) (Text.Utf8.encode text).length with
    | .error fault => .error fault
    | .ok default =>
      match Json.parse (Text.trim default) with
      | .error _ => .ok none
      | .ok value =>
        (Text.slice text 0 offset).map fun body => ofBody? (Text.trim body) (some value)

def scan (argument : String) : Except Text.SliceFault (Except Problem Selector) :=
  let text := Text.trim argument.toList
  (scanTrimmed text).map fun
    | some selector => .ok selector
    | none => .error (.invalidSelector (String.ofList text))

end JsonExtract.Selector
