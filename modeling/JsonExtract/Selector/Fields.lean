import JsonExtract.Selector.Basic

/-!
# Selectors from named fields

A selector may be given by named fields in any order.  Each field stands at most once, the
path must be there, and the key is the path unless it is given.  A default that is null
still is a default.
-/

namespace JsonExtract.Selector

inductive Field where
  | key
  | path
  | default
  | transform
deriving DecidableEq, Repr

namespace Field

def name : Field → String
  | .key => "key"
  | .path => "path"
  | .default => "default"
  | .transform => "transform"

def all : List Field := [.key, .path, .default, .transform]

def ofName? (name : String) : Option Field :=
  all.find? (·.name = name)

end Field

inductive FieldFault where
  | unknown (name : String)
  | duplicate (field : Field)
  | missingPath
  | unknownTransform (name : String)
deriving DecidableEq, Repr

def quotedNames (names : List String) : String :=
  ", ".intercalate (names.map fun name => "`" ++ name ++ "`")

namespace FieldFault

def message : FieldFault → String
  | .unknown name =>
    "unknown field `" ++ name ++ "`, expected one of " ++ quotedNames (Field.all.map Field.name)
  | .duplicate field => "duplicate field `" ++ field.name ++ "`"
  | .missingPath => "missing field `path`"
  | .unknownTransform name => (Problem.unknownTransform name).message

end FieldFault

structure Draft where
  key : Option String
  path : Option String
  default : Option Json
  transform : Option String

namespace Draft

def empty : Draft := ⟨none, none, none, none⟩

def has (draft : Draft) : Field → Bool
  | .key => draft.key.isSome
  | .path => draft.path.isSome
  | .default => draft.default.isSome
  | .transform => draft.transform.isSome

/-- The field that a name may stand for after the fields that have been read. -/
def next (draft : Draft) (name : String) : Except FieldFault Field :=
  match Field.ofName? name with
  | none => .error (.unknown name)
  | some field => if draft.has field then .error (.duplicate field) else .ok field

def selector (draft : Draft) : Except FieldFault Selector :=
  match draft.path with
  | none => .error .missingPath
  | some path =>
    let key := draft.key.getD path
    match draft.transform with
    | none => .ok ⟨key, path, draft.default, none⟩
    | some name =>
      match Transform.Builtin.ofName? name with
      | none => .error (.unknownTransform name)
      | some builtin => .ok ⟨key, path, draft.default, some builtin.apply⟩

end Draft

/-- How the names and values of fields are read. -/
structure FieldReader (m : Type → Type) (κ ν : Type) where
  name : κ → m String
  text : κ → ν → m String
  json : κ → ν → m Json
  refuse : {α : Type} → FieldFault → m α

namespace FieldReader

variable {m : Type → Type} {κ ν : Type} [Monad m]

def add (reader : FieldReader m κ ν) (draft : Draft) (entry : κ × ν) : m Draft := do
  let name ← reader.name entry.1
  match draft.next name with
  | .error fault => reader.refuse fault
  | .ok .key => return { draft with key := some (← reader.text entry.1 entry.2) }
  | .ok .path => return { draft with path := some (← reader.text entry.1 entry.2) }
  | .ok .default => return { draft with default := some (← reader.json entry.1 entry.2) }
  | .ok .transform => return { draft with transform := some (← reader.text entry.1 entry.2) }

def selector (reader : FieldReader m κ ν) (entries : List (κ × ν)) : m Selector := do
  let draft ← entries.foldlM reader.add Draft.empty
  match draft.selector with
  | .ok selector => return selector
  | .error fault => reader.refuse fault

end FieldReader

end JsonExtract.Selector
