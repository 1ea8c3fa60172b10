import JsonExtract.Text.Combining
import JsonExtract.Text.Direction
import JsonExtract.Text.Joining
import JsonExtract.Text.Utf8
import JsonExtract.Url.Composition
import JsonExtract.Url.Mapping
import JsonExtract.Url.Punycode

/-!
# Domain names

A domain name is a row of labels with dots between them.  It is read with every character in
the place of those that stand for it and with composite characters.  A label with characters
beyond the first 128 is written in its plain form behind a mark of its own, and a label that
comes in this form has to be one that is written so.
-/

namespace JsonExtract.Url.Domain

def isForbidden (c : Char) : Bool :=
  c.toNat ≤ 0x20 || c.toNat == 0x7f || "%#/:<>?@[\\]^|".toList.contains c

def settled? (name : List Char) : Option (List Char) :=
  (name.mapM Mapping.meaning?).map fun meanings => Composition.compose meanings.flatten

/-! ## Labels -/

def isJoiner (c : Char) : Bool := c == '\u200d'

/-- The character that keeps letters from being joined. -/
def isNonJoiner (c : Char) : Bool := c == '\u200c'

/-- Whether an invisible joiner may stand between two texts.  Either kind may stand behind a
letter without its vowel, and one that keeps letters apart may also stand between letters that
would be joined. -/
def mayJoin (joiner : Char) (before after : List Char) : Bool :=
  before.getLast?.any (fun c => Text.Combining.classOf c = Text.Combining.vowelKiller) ||
    isNonJoiner joiner && Text.Joining.joinsOnward before && Text.Joining.joinsBackward after

/-- Whether every invisible joiner of a label may stand where it does, `before` being the text
in front of it. -/
def joinersFit (before : List Char) : List Char → Bool
  | [] => true
  | c :: rest =>
    (!(isJoiner c || isNonJoiner c) || mayJoin c before rest) && joinersFit (before ++ [c]) rest

def isLabel (label : List Char) : Bool :=
  !label.any isForbidden && !(label.head?.any Text.Combining.isMark) &&
    joinersFit [] label

def plainMark : List Char := ['x', 'n', '-', '-']

def plainLimit : Nat := 2000

def labelLimit : Nat := 1000

/-- What the plain form of a label stands for.  It holds a character beyond the first 128, and
it is the form in which it is read itself. -/
def ofPlain? (plain : List Char) : Option (List Char) := do
  if plainLimit < plain.length then none
  let label ← Punycode.decode plain
  if label.any (!Punycode.isPlain ·) && settled? label == some label then some label else none

/-- A label of a settled name, and what it stands for. -/
structure Label where
  written : List Char
  meant : List Char
deriving DecidableEq, Repr

def Label.ofText? (text : List Char) : Option Label := do
  let meant ← if plainMark.isPrefixOf text then ofPlain? (text.drop plainMark.length) else some text
  if !isLabel meant then none
  else if text.all Punycode.isPlain then some ⟨text, meant⟩
  else if labelLimit < meant.length then none
  else some ⟨plainMark ++ Punycode.encode meant, meant⟩

/-! ## Directions -/

/-- Whether letters from the right or their numerals occur. -/
def goesRight (label : List Char) : Bool :=
  label.any fun c =>
    let direction := Text.Direction.of c
    direction = .fromRight || direction = .arabicNumber

def directions (label : List Char) : List Text.Direction :=
  ((label.map Text.Direction.of).reverse.dropWhile (· = .mark)).reverse

/-- Whether a label keeps to one direction.  It starts with a letter and ends with a letter or
a numeral.  Behind a letter from the left nothing comes from the right, and behind a letter
from the right nothing comes from the left and numerals are of one kind. -/
def keepsDirection (label : List Char) : Bool :=
  let directions := directions label
  match directions.head?, directions.getLast? with
  | some .fromLeft, some last =>
    (last = .fromLeft || last = .europeanNumber) &&
      directions.all fun direction => direction ≠ .fromRight && direction ≠ .arabicNumber
  | some .fromRight, some last =>
    (last = .fromRight || last = .europeanNumber || last = .arabicNumber) &&
      directions.all (· ≠ .fromLeft) &&
      !(directions.contains .europeanNumber && directions.contains .arabicNumber)
  | some _, _ => false
  | none, _ => label.isEmpty

/-! ## Names -/

/-- The labels of a settled name.  Where one of them has letters from the right, all of them
have to keep to one direction. -/
def labels? (name : List Char) : Option (List Label) := do
  let labels ← (name.splitOn '.').mapM Label.ofText?
  if labels.any (goesRight ·.meant) && !labels.all (keepsDirection ·.meant) then none
  else some labels

def plain? (name : List Char) : Option (List Char) := do
  let labels ← labels? (← settled? name)
  return ['.'].intercalate (labels.map Label.written)

def ofOctets? (octets : List UInt8) : Option (List Char) :=
  match Text.Utf8.decode octets with
  | .ok name => plain? name
  | .error _ => none

end JsonExtract.Url.Domain
