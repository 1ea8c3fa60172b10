import JsonExtract.Transform
import JsonExtract.Picked
import JsonExtract.Path.Resolve

/-!
# Selectors and their evaluation

A selector names one value to pick: the key it goes to, the path it comes from, a default
and a transform.  Without a transform, a value that is missing or null gives way to the
default.  A transform sees the value as it is, and the default plays no part.  Selectors are
evaluated one by one, and of two with the same key the later one counts.
-/

namespace JsonExtract

structure Selector where
  key : String
  path : String
  default : Option Json
  transform : Option Transform

namespace Selector

def ofPath (path : String) : Selector :=
  ⟨path, path, none, none⟩

/-- What the selector makes of the value at its path. -/
def choose (selector : Selector) (found : Option Json) : Option Json :=
  match selector.transform with
  | some transform => transform found
  | none => (found.filter (!·.isNull)).or selector.default

def outcome (coerces : Bool) (document : Json) (selector : Selector) : Option Json :=
  let chosen := selector.choose (Path.pick selector.path document)
  if coerces then chosen.map Json.coerce else chosen

end Selector

/-- What a list of selectors picks from a document. -/
def evaluate (selectors : List Selector) (document : Json) (coerces : Bool) : Picked :=
  selectors.foldl
    (fun picked selector => picked.set selector.key (selector.outcome coerces document))
    Picked.empty

end JsonExtract
