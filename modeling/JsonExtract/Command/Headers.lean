import JsonExtract.Keyed
import JsonExtract.Problem
import JsonExtract.Text.Blank
import JsonExtract.Text.Unquoted

/-!
# Headers as arguments

A header argument is a name and a value with a colon between them.  The first colon counts,
blanks around either part do not, and of two arguments with one name the later counts.
-/

namespace JsonExtract.Command

/-- The name and the value that an argument gives. -/
def header? (argument : List Char) : Option (String × String) :=
  match Text.splitAtChar ':' argument with
  | some (name, value) =>
    let name := Text.trim name
    if name.isEmpty then none
    else some (String.ofList name, String.ofList (Text.trim value))
  | none => none

def header (argument : String) : Except Problem (String × String) :=
  match header? argument.toList with
  | some entry => .ok entry
  | none => .error (.invalidHeader argument)

/-- The headers that arguments give, the first bad argument being the problem. -/
def headers (arguments : List String) : Except Problem (KeyedMap String) :=
  (arguments.mapM header).map KeyedMap.ofList

end JsonExtract.Command
