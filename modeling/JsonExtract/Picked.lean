import JsonExtract.Json.Basic

/-!
# Picked values

What has been picked is a map from keys to values that may be absent, in the order in which
the keys were first picked.  An absent entry differs from a key that was never picked, but
has no place in the document that the map stands for.
-/

namespace JsonExtract

/-- Keys with what was picked for them. -/
abbrev Picked := KeyedMap (Option Json)

namespace Picked

def empty : Picked := KeyedMap.empty

/-- What was picked for a key, which may be nothing, if the key was picked at all. -/
def entry? (picked : Picked) (key : String) : Option (Option Json) :=
  KeyedMap.get? picked key

def value? (picked : Picked) (key : String) : Option Json :=
  (picked.entry? key).bind id

def contains (picked : Picked) (key : String) : Bool :=
  (picked.entry? key).isSome

def size (picked : Picked) : Nat :=
  picked.entries.length

def isEmpty (picked : Picked) : Bool :=
  picked.entries.isEmpty

/-- The object with the picked values as its members. -/
def toJson (picked : Picked) : Json :=
  .object (picked.entries.filterMap fun entry => entry.2.map (entry.1, ·))

/-- The keys for which nothing was picked. -/
def unresolved (picked : Picked) : List String :=
  picked.entries.filterMap fun entry => if entry.2.isNone then some entry.1 else none

end Picked

end JsonExtract
