import JsonExtract.Yaml.Cursor

/-!
# Tokens of a YAML text

Besides the indicators and the scalars, there are tokens that the layout stands for: the
start and the end of a block collection.
-/

namespace JsonExtract.Yaml

inductive ScalarStyle where
  | plain
  | singleQuoted
  | doubleQuoted
  | literal
  | folded
deriving DecidableEq, Repr

inductive TokenKind where
  | streamEnd
  | versionDirective (major minor : Nat)
  | tagDirective (handle : String) (stem : List UInt8)
  | documentStart
  | documentEnd
  | blockSequenceStart
  | blockMappingStart
  | blockEnd
  | flowSequenceStart
  | flowSequenceEnd
  | flowMappingStart
  | flowMappingEnd
  | blockEntry
  | flowEntry
  | key
  | value
  | alias (name : String)
  | anchor (name : String)
  /-- The suffix alone is the tag where the handle is empty. -/
  | tag (handle : String) (suffix : List UInt8)
  | scalar (value : String) (style : ScalarStyle)
deriving DecidableEq, Repr

structure Token where
  kind : TokenKind
  start : Mark
  stop : Mark
deriving Repr

end JsonExtract.Yaml
