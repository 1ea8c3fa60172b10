import JsonExtract.Url.Reader

/-!
# Relative addresses

An address of the web can be given by what sets it apart from another one, the base: from its
authority on, from its path on, from the last segment of its path on, or behind its path.
-/

namespace JsonExtract.Url

def Path.directory : Path → List (List Char)
  | .rooted segments => segments.dropLast.map String.toList
  | .rootless _ => []

/-- The address that parts without a scheme give.  Two slashes turned the right way are in
front of an authority, and so is any greater number of slashes of which one is turned. -/
def beside (base : Url) (parts : Parts) : Except Fault Url := do
  let text := parts.front
  let slashes := text.takeWhile (isSlash true)
  if 2 ≤ slashes.length then
    let behind := if ['/', '/'].isPrefixOf text then text.drop 2 else text.drop slashes.length
    let (name, path) := splitBefore (isSlash true) behind
    let (authority, _) ← authorityOf base.scheme name (parts.isBare && path.isEmpty)
    return parts.complete base.scheme (some authority) (pathBehind true path)
  else if slashes.length = 1 then
    return parts.complete base.scheme base.authority (pathBehind true text)
  else if text.isEmpty then
    let query := (parts.queryText base.scheme).orElse fun _ => base.query
    return { base with query, fragment := parts.fragmentText }
  else
    let path := settledPath (base.path.directory ++ splitAtSlashes true text)
    return parts.complete base.scheme base.authority path

/-- The address that a text gives in relation to a base of the web.  A scheme that is the one of
the base does not count in front of fewer than two slashes. -/
def join (base : Url) (text : String) : Except Fault Url :=
  let text := clean text.toList
  match splitScheme? text with
  | some (scheme, rest) =>
    if scheme = base.scheme ∧ (rest.takeWhile (isSlash true)).length < 2 then
      base.beside (.ofText rest)
    else ofScheme scheme rest
  | none => base.beside (.ofText text)

end JsonExtract.Url
