/-!
# Problems

Resolving a path never fails.  Every problem comes from an edge: a file, a request, a
specification, or an argument of the command line.  A problem has a message and advice on
what to do about it.
-/

namespace JsonExtract

inductive Problem where
  /-- A file or a stream could not be read. -/
  | io (text : String)
  /-- The address is not an absolute web address. -/
  | invalidUrl (url reason : String)
  /-- The header argument has no name. -/
  | invalidHeader (header : String)
  /-- The final response has another status than success. -/
  | httpStatus (status : Nat) (reason : String)
  /-- The exchange took longer than allowed. -/
  | timeout (milliseconds : Nat)
  /-- The exchange broke off. -/
  | transport (text : String)
  /-- The document is not valid. -/
  | invalidJson (details : String)
  /-- The selector argument has no path or no readable default. -/
  | invalidSelector (selector : String)
  /-- No transform has this name. -/
  | unknownTransform (name : String)
  /-- The specification is not a well-formed document. -/
  | unreadableSpec (details : String)
  /-- The specification is a document of the wrong shape. -/
  | invalidSpec (details : String)
  /-- The specification refers to a variable that is not set. -/
  | missingVariable (name : String)
deriving DecidableEq, Repr

namespace Problem

def message : Problem → String
  | .io text => "IO error: " ++ text
  | .invalidUrl url reason => "PICK-010: Invalid URL '" ++ url ++ "': " ++ reason
  | .invalidHeader header =>
    "PICK-011: Invalid header '" ++ header ++ "' (expected 'Name: value')"
  | .httpStatus status reason => "PICK-020: HTTP " ++ toString status ++ " " ++ reason
  | .timeout milliseconds =>
    "PICK-021: Request timed out after " ++ toString milliseconds ++ "ms"
  | .transport text => "PICK-022: HTTP request failed: " ++ text
  | .invalidJson details => "PICK-030: Invalid JSON document: " ++ details
  | .invalidSelector selector => "PICK-040: Invalid selector '" ++ selector ++ "'"
  | .unknownTransform name => "PICK-041: Unknown transform '" ++ name ++ "'"
  | .unreadableSpec details => "PICK-050: Spec parse error: " ++ details
  | .invalidSpec details => "PICK-050: Spec parse error: " ++ details
  | .missingVariable name => "PICK-051: Environment variable '" ++ name ++ "' is not set"

def advice : Problem → String
  | .io _ => "Check file path and permissions"
  | .invalidUrl _ _ => "Use an absolute http:// or https:// URL"
  | .invalidHeader _ => "Pass headers as -H 'Accept: application/json'"
  | .httpStatus _ _ => "Check the URL and any required auth headers (-H 'Authorization: ...')"
  | .timeout _ => "Raise the timeout with --timeout-ms"
  | .transport _ => "Check network connectivity and the host name"
  | .invalidJson _ => "The endpoint must return a JSON body (try it with curl | jq)"
  | .invalidSelector _ => "Use 'path' or 'key=path', e.g. usd=balances[0].balance"
  | .unknownTransform _ => "Use one of: length, first, last, compact, string, sum"
  | .unreadableSpec _ => "Check YAML syntax: indentation and quoting"
  | .invalidSpec _ => "Check YAML syntax: indentation and quoting"
  | .missingVariable _ =>
    "Export the variable before running, or drop the $\x7benv.NAME\x7d reference"

end Problem

end JsonExtract
