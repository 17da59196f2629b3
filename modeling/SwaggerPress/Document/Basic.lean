import SwaggerPress.Wording

/-!
    The Swagger document. Typed are the fields that publishing reads or changes; every other key
    stays in the `extra` map of the record it was found in and is written out again untouched.

        Document ─ info, host, schemes, consumes, tags, extra
          └ paths      path template ↦ method ↦ Operation
              └ Operation ─ summary, description, produces, deprecated, extra
                  ├ parameters   Parameter ─ name, location, schema, extra
                  └ responses    status ↦ Response ─ description, examples, extra -/

namespace SwaggerPress

/-- What the API is. -/
structure Info where
  title : Wording Id := .plain ""
  version : String := ""
  description : Option (Wording Id) := none
  extra : SortedMap Json := .empty

/-- A named category of operations. -/
structure Tag where
  name : String
  description : Option (Wording Id) := none
  extra : SortedMap Json := .empty

/-- Where a parameter is carried. -/
inductive Location where
  | path
  | query
  | header
  | body
  | formData
  deriving DecidableEq

/-- One input of an operation. -/
structure Parameter where
  name : String
  location : Location
  schema : Option Json := none
  extra : SortedMap Json := .empty
  deriving DecidableEq

/-- One outcome of an operation, with example values by media type. -/
structure Response where
  description : Wording Id := .plain ""
  examples : SortedMap Json := .empty
  extra : SortedMap Json := .empty

/-- What one method does on one path. -/
structure Operation where
  summary : Option String := none
  description : Option (Wording Id) := none
  parameters : List Parameter := []
  responses : SortedMap Response := .empty
  produces : List String := []
  deprecated : Bool := false
  extra : SortedMap Json := .empty

/-- The operations on one path, by method. -/
abbrev PathItem := SortedMap Operation

/-- All operations, by path template and method. -/
abbrev Paths := SortedMap PathItem

/-- A whole document; no host means that it is relative to the host that serves it. -/
structure Document where
  info : Info := {}
  host : Option String := none
  schemes : List String := []
  consumes : List String := []
  tags : List Tag := []
  paths : Paths := .empty
  extra : SortedMap Json := .empty

namespace Parameter

/-- The body parameter that shows a payload as it was sent. -/
def bodyExample (payload : Json) : Parameter where
  name := "data"
  location := .body
  schema := some (.obj [("example", payload)])

/-- The parameter that only routes to a version of the API. -/
def isVersion (p : Parameter) : Bool := p.location = .path && p.name = "version"

end Parameter

namespace Document

/-- The operation of a method on a path template. -/
def operation? (d : Document) (template method : String) : Option Operation :=
  (d.paths.get? template).bind (·.get? method)

/-- Changes every operation. -/
def mapOperations (d : Document) (f : Operation → Operation) : Document :=
  { d with paths := d.paths.map fun item => item.map f }

end Document

end SwaggerPress
