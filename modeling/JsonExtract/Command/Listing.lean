import JsonExtract.Path.Reader
import JsonExtract.Text.Quoted

/-!
# Listings of steps

A path is listed with one line for each step: its number, its kind, and the key in quotes or
the position.
-/

namespace JsonExtract.Command

/-- A number at the right end of three columns. -/
def ordinal (n : Nat) : String :=
  let digits := Nat.toDigits 10 n
  String.ofList (List.replicate (3 - digits.length) ' ' ++ digits)

def stepText : Path.Step → String
  | .key name => "key  " ++ Text.Quoted.quote name
  | .index position => "index  " ++ toString position
  | .wildcard => "wildcard"

def stepLine (n : Nat) (step : Path.Step) : String :=
  ordinal n ++ "  " ++ stepText step

/-- The lines for steps, the first of which has the number `n`. -/
def stepLines (n : Nat) : List Path.Step → List String
  | [] => []
  | step :: rest => stepLine n step :: stepLines (n + 1) rest

def listing (steps : List Path.Step) : List String :=
  if steps.isEmpty then ["(no steps: selects the whole document)"] else stepLines 0 steps

end JsonExtract.Command
