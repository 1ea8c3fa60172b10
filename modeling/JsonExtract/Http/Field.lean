/-!
# Header fields

Requests and responses carry fields, each a name and a value.  Names are compared in small
letters.
-/

namespace JsonExtract.Http

structure Field where
  /-- The name in small letters. -/
  name : String
  value : String
deriving DecidableEq, Repr

namespace Field

def isTokenChar (c : Char) : Bool :=
  c.isAlphanum || "!#$%&'*+-.^_`|~".toList.contains c

def isToken (text : List Char) : Bool :=
  !text.isEmpty && text.all isTokenChar

def isValue (text : List Char) : Bool :=
  text.all fun c => c == '\t' || (0x20 ≤ c.toNat && c ≠ '\x7f')

def isSendable (name value : String) : Bool :=
  isToken name.toList && isValue value.toList

def ofText (name value : String) : Field :=
  ⟨String.ofList (name.toList.map Char.toLower), value⟩

/-- The value of the first field with a name in small letters. -/
def find? (name : String) (fields : List Field) : Option String :=
  (fields.find? (·.name == name)).map (·.value)

def replace (fields : List Field) (field : Field) : List Field :=
  fields.filter (·.name ≠ field.name) ++ [field]

def without (names : List String) (fields : List Field) : List Field :=
  fields.filter fun field => !names.contains field.name

def withDefaults (fields defaults : List Field) : List Field :=
  fields ++ defaults.filter fun field => !fields.any (·.name == field.name)

end Field

end JsonExtract.Http
