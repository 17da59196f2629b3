import SwaggerPress.Yaml.Cursor

/-!
    The tokens of a YAML text. Besides the signs and words that are written there are tokens for what
    indentation alone says: where a block collection starts and ends. -/

namespace SwaggerPress.Yaml

/-- The name of a tag: a handle that a directive may define, and what follows it. A tag written out
in full has an empty handle. Each octet of the name counts as one character. -/
structure TagName where
  handle : String
  suffix : String
  deriving DecidableEq

inductive TokenKind where
  | streamEnd
  | versionDirective (major minor : Nat)
  | tagDirective (handle full : String)
  | documentStart
  | documentEnd
  | blockSequenceStart
  | blockMappingStart
  | blockEnd
  | flowSequenceStart
  | flowSequenceEnd
  | flowMappingStart
  | flowMappingEnd
  | blockEntry
  | flowEntry
  | key
  | value
  | alias (name : String)
  | anchor (name : String)
  | tag (name : TagName)
  | scalar (text : String) (plain : Bool)
  deriving DecidableEq

/-- A token and the marks before and after it. -/
structure Token where
  kind : TokenKind
  start : Mark
  stop : Mark

end SwaggerPress.Yaml
