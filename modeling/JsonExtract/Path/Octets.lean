import JsonExtract.Path.Reader
import JsonExtract.Text.Slice

/-!
# Paths octet by octet

The steps of a path are found in one pass over its octets.  A delimiter is a single octet, and
no other character holds that octet, so the pass never has to tell characters apart: it moves
an offset along, looks at the octet there, and cuts names and digits out of the text between
two offsets.
-/

namespace JsonExtract.Path

def isDelimiterOctet (octet : UInt8) : Bool :=
  octet = '.'.toUInt8 || octet = '['.toUInt8 || octet = ']'.toUInt8

def isDigitOctet (octet : UInt8) : Bool :=
  '0'.toUInt8 ≤ octet && octet ≤ '9'.toUInt8

def nameEnd (octets : List UInt8) (offset : Nat) : Nat :=
  offset + ((octets.drop offset).takeWhile fun octet => !isDelimiterOctet octet).length

/-- The step between brackets at the front of a text, and how many octets it takes. -/
def bracketStep (text : List Char) : Except Text.SliceFault (Option (Step × Nat)) :=
  match text with
  | '[' :: '*' :: ']' :: _ => .ok (some (.wildcard, 3))
  | '[' :: inner =>
    let octets := Text.Utf8.encode inner
    let digits := (octets.takeWhile isDigitOctet).length
    if digits = 0 || octets[digits]? ≠ some ']'.toUInt8 then .ok none
    else (Text.slice inner 0 digits).map fun name => some (.ofDigits name, digits + 2)
  | _ => .ok none

/-- What stands at an offset: a step, or nothing when a delimiter is passed over, and the
offset behind it. -/
def scanStep (text : List Char) (octets : List UInt8) (offset : Nat) (octet : UInt8) :
    Except Text.SliceFault (Option Step × Nat) :=
  if isDelimiterOctet octet then
    if octet = '['.toUInt8 then
      match (Text.slice text offset octets.length).bind bracketStep with
      | .error fault => .error fault
      | .ok (some (step, size)) => .ok (some step, offset + size)
      | .ok none => .ok (none, offset + 1)
    else .ok (none, offset + 1)
  else
    (Text.slice text offset (nameEnd octets offset)).map fun name =>
      (some (.key (String.ofList name)), nameEnd octets offset)

theorem lt_nameEnd {octets : List UInt8} {offset : Nat} {octet : UInt8}
    (hoctet : octets[offset]? = some octet) (hname : isDelimiterOctet octet = false) :
    offset < nameEnd octets offset := by
  obtain ⟨hlt, hget⟩ := List.getElem?_eq_some_iff.mp hoctet
  have hdrop : octets.drop offset = octet :: octets.drop (offset + 1) := by
    rw [List.drop_eq_getElem_cons hlt, hget]
  simp [nameEnd, hdrop, hname]

theorem pos_of_bracketStep {text : List Char} {step : Step} {size : Nat}
    (hstep : bracketStep text = .ok (some (step, size))) : 0 < size := by
  unfold bracketStep at hstep
  split at hstep
  · cases hstep
    omega
  · dsimp only at hstep
    split at hstep
    · cases hstep
    · cases hslice : Text.slice _ 0 _ with
      | error fault =>
        rw [hslice] at hstep
        cases hstep
      | ok name =>
        rw [hslice] at hstep
        cases hstep
        omega
  · cases hstep

theorem lt_of_scanStep {text : List Char} {octets : List UInt8} {offset next : Nat} {octet : UInt8}
    {found : Option Step} (hoctet : octets[offset]? = some octet)
    (hstep : scanStep text octets offset octet = .ok (found, next)) : offset < next := by
  unfold scanStep at hstep
  split at hstep
  · split at hstep
    · split at hstep
      · cases hstep
      · rename_i step size hbracket
        cases hpiece : Text.slice text offset octets.length with
        | error fault =>
          rw [hpiece] at hbracket
          cases hbracket
        | ok piece =>
          rw [hpiece] at hbracket
          have hsize := pos_of_bracketStep hbracket
          cases hstep
          omega
      · cases hstep
        omega
    · cases hstep
      omega
  · rename_i hname
    cases hslice : Text.slice text offset (nameEnd octets offset) with
    | error fault =>
      rw [hslice] at hstep
      cases hstep
    | ok name =>
      rw [hslice] at hstep
      cases hstep
      exact lt_nameEnd hoctet (Bool.eq_false_iff.mpr hname)

def scanFrom (text : List Char) (octets : List UInt8) (offset : Nat) :
    Except Text.SliceFault (List Step) :=
  match _hoctet : octets[offset]? with
  | none => .ok []
  | some octet =>
    match _hstep : scanStep text octets offset octet with
    | .error fault => .error fault
    | .ok (found, next) => (scanFrom text octets next).map (found.toList ++ ·)
termination_by octets.length - offset
decreasing_by
  have hnext := lt_of_scanStep _hoctet _hstep
  have hlt := (List.getElem?_eq_some_iff.mp _hoctet).1
  omega

def scan (path : String) : Except Text.SliceFault (List Step) :=
  scanFrom path.toList (Text.Utf8.encode path.toList) 0

end JsonExtract.Path
