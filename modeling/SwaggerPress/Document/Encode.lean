import SwaggerPress.Document.Basic

/-!
    Documents as JSON values. The typed fields come first, in the order of their declaration, and the
    extra members after them in ascending order. Absent summaries, descriptions and schemas, empty
    `produces` and `examples` and a `deprecated` that is false are left out; a missing host is
    written as `null`. Lazy wordings are resolved here. -/

namespace SwaggerPress

open Json (ofMap)

/-- A member that is left out when there is no value. -/
def memberIfSome (name : String) : Option Json → List (String × Json)
  | some v => [(name, v)]
  | none => []

/-- A member that is left out unless a condition holds. -/
def memberIf (c : Bool) (name : String) (v : Json) : List (String × Json) :=
  if c then [(name, v)] else []

def encodeTexts (texts : List String) : Json := .arr (texts.map .str)

/-- A sorted map as an object. -/
def encodeMap {α : Type} (encode : α → Json) (m : SortedMap α) : Json := ofMap (m.map encode)

def Wording.toJson (w : Wording Id) : Json := .str w.text

def Location.name : Location → String
  | .path => "path"
  | .query => "query"
  | .header => "header"
  | .body => "body"
  | .formData => "formData"

def Info.encode (i : Info) : Json := .obj <|
  [("title", i.title.toJson), ("version", .str i.version)] ++
  memberIfSome "description" (i.description.map Wording.toJson) ++ i.extra.entries

def Tag.encode (t : Tag) : Json := .obj <|
  [("name", .str t.name)] ++
  memberIfSome "description" (t.description.map Wording.toJson) ++ t.extra.entries

def Parameter.encode (p : Parameter) : Json := .obj <|
  [("name", .str p.name), ("in", .str p.location.name)] ++
  memberIfSome "schema" p.schema ++ p.extra.entries

def Response.encode (r : Response) : Json := .obj <|
  [("description", r.description.toJson)] ++
  memberIf (!r.examples.isEmpty) "examples" (ofMap r.examples) ++ r.extra.entries

def Operation.encode (o : Operation) : Json := .obj <|
  memberIfSome "summary" (o.summary.map .str) ++
  memberIfSome "description" (o.description.map Wording.toJson) ++
  [("parameters", .arr (o.parameters.map Parameter.encode)),
    ("responses", encodeMap Response.encode o.responses)] ++
  memberIf (!o.produces.isEmpty) "produces" (encodeTexts o.produces) ++
  memberIf o.deprecated "deprecated" (.bool true) ++ o.extra.entries

def PathItem.encode (item : PathItem) : Json := encodeMap Operation.encode item

def Paths.encode (paths : Paths) : Json := encodeMap PathItem.encode paths

/-- The document as it is published. -/
def Document.encode (d : Document) : Json := .obj <|
  [("info", d.info.encode), ("host", (d.host.map Json.str).getD .null),
    ("schemes", encodeTexts d.schemes), ("consumes", encodeTexts d.consumes),
    ("tags", .arr (d.tags.map Tag.encode)), ("paths", Paths.encode d.paths)] ++ d.extra.entries

end SwaggerPress
