import JsonExtract.Text.Utf8

/-!
# Tags

A tag is a string of octets, since its escapes may spell octets that are no text.  A zero octet
ends whatever it stands in.  The tags of the core schema have a long stem of their own, and a
tag in private use starts with an exclamation mark.
-/

namespace JsonExtract.Yaml

structure Tag where
  octets : List UInt8
deriving DecidableEq, Repr

namespace Tag

def upToZero (octets : List UInt8) : List UInt8 :=
  octets.takeWhile (· ≠ 0)

def ofParts (stem suffix : List UInt8) : Tag :=
  ⟨upToZero stem ++ upToZero suffix⟩

/-- What the tags of the core schema start with. -/
def coreStem : List UInt8 :=
  Text.Utf8.encode "tag:yaml.org,2002:".toList

def core (name : String) : Tag :=
  ⟨coreStem ++ Text.Utf8.encode name.toList⟩

def privateName? (tag : Tag) : Option (List UInt8) :=
  match tag.octets with
  | 0x21 :: name => some name
  | _ => none

/-- Whether the tag makes its node a variant: it is private and its name is a text. -/
def isVariant (tag : Tag) : Bool :=
  tag.privateName?.any fun name => (Text.Utf8.decode name).isOk

end Tag

end JsonExtract.Yaml
