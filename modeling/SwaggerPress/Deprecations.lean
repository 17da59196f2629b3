import SwaggerPress.Json.Reader

/-!
    The path templates whose operations are deprecated, given as a JSON list of texts. -/

namespace SwaggerPress

/-- A set of path templates. -/
structure Deprecations where
  templates : List String := []
  deriving DecidableEq

namespace Deprecations

/-- The set of the templates of a list. -/
def ofList (templates : List String) : Deprecations := ⟨templates.eraseDups⟩

def contains (d : Deprecations) (template : String) : Bool := d.templates.contains template

/-- The number of distinct templates. -/
def size (d : Deprecations) : Nat := d.templates.length

/-- The set that a text lists. -/
def parse (text : String) : Except Json.Fault Deprecations :=
  (Json.readWhole (Json.readListOf Json.readText) text).map ofList

end Deprecations

end SwaggerPress
