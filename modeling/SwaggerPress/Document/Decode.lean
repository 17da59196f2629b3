import SwaggerPress.Document.Basic
import SwaggerPress.Json.Decode

/-!
    Documents from JSON values. A raw schema is an object whose `paths` is an object and whose `tags`
    is an array; this is checked first and reported in its own words. Then every typed field must be
    absent where it has a default, or of its type; what is left over becomes `extra`. -/

namespace SwaggerPress

open Json (asText asBool asOption asListOf asMapOf asRecord field? fieldOr required otherMembers)

/-- A wording read from data is plain. -/
def Wording.decode (v : Json) : Except Mismatch (Wording Id) := (asText v).map .plain

/-- The names of the locations, in the order in which they are listed to the reader. -/
def Location.names : List String := ["path", "query", "header", "body", "formData"]

def Location.ofName? : String → Option Location
  | "path" => some .path
  | "query" => some .query
  | "header" => some .header
  | "body" => some .body
  | "formData" => some .formData
  | _ => none

def Location.ofName (name : String) : Except Mismatch Location :=
  match Location.ofName? name with
  | some l => .ok l
  | none => .error (.unknownChoice name Location.names)

/-- A location is its name, or an object of one member of that name and no content. -/
def Location.decode : Json → Except Mismatch Location
  | .str name => Location.ofName name
  | .obj [(name, content)] => do
    let l ← Location.ofName name
    match content with
    | .null => return l
    | v => v.refuse "unit"
  | .obj _ => .error (.wrongValue .map "map with a single key")
  | v => v.refuse "string or map"

def Info.decode (v : Json) : Except Mismatch Info := do
  let ms ← asRecord "Info" v
  let description ← fieldOr "description" none (asOption Wording.decode) ms
  let title ← fieldOr "title" (.plain "") Wording.decode ms
  let version ← fieldOr "version" "" asText ms
  return { title, version, description, extra := otherMembers ["title", "version", "description"] ms }

def Tag.decode (v : Json) : Except Mismatch Tag := do
  let ms ← asRecord "Tag" v
  let description ← fieldOr "description" none (asOption Wording.decode) ms
  let name ← required "name" (← field? "name" asText ms)
  return { name, description, extra := otherMembers ["name", "description"] ms }

def Parameter.decode (v : Json) : Except Mismatch Parameter := do
  let ms ← asRecord "Parameter" v
  let location? ← field? "in" Location.decode ms
  let name? ← field? "name" asText ms
  let schema ← fieldOr "schema" none (asOption .ok) ms
  let name ← required "name" name?
  let location ← required "in" location?
  return { name, location, schema, extra := otherMembers ["name", "in", "schema"] ms }

def Response.decode (v : Json) : Except Mismatch Response := do
  let ms ← asRecord "ResponseSpec" v
  let description ← fieldOr "description" (.plain "") Wording.decode ms
  let examples ← fieldOr "examples" .empty (asMapOf .ok) ms
  return { description, examples, extra := otherMembers ["description", "examples"] ms }

/-- The typed fields of an operation. -/
def Operation.fields : List String :=
  ["summary", "description", "parameters", "responses", "produces", "deprecated"]

def Operation.decode (v : Json) : Except Mismatch Operation := do
  let ms ← asRecord "OperationEntry" v
  let deprecated ← fieldOr "deprecated" false asBool ms
  let description ← fieldOr "description" none (asOption Wording.decode) ms
  let parameters ← fieldOr "parameters" [] (asListOf Parameter.decode) ms
  let produces ← fieldOr "produces" [] (asListOf asText) ms
  let responses ← fieldOr "responses" .empty (asMapOf Response.decode) ms
  let summary ← fieldOr "summary" none (asOption asText) ms
  return {
    summary, description, parameters, responses, produces, deprecated
    extra := otherMembers Operation.fields ms }

def PathItem.decode (v : Json) : Except Mismatch PathItem := asMapOf Operation.decode v

def Paths.decode (v : Json) : Except Mismatch Paths := asMapOf PathItem.decode v

/-- The typed fields of a document. -/
def Document.fields : List String := ["info", "host", "schemes", "consumes", "tags", "paths"]

def Document.decode (v : Json) : Except Mismatch Document := do
  let ms ← asRecord "Document" v
  let consumes ← fieldOr "consumes" [] (asListOf asText) ms
  let host ← fieldOr "host" none (asOption asText) ms
  let info ← fieldOr "info" {} Info.decode ms
  let paths? ← field? "paths" Paths.decode ms
  let schemes ← fieldOr "schemes" [] (asListOf asText) ms
  let tags? ← field? "tags" (asListOf Tag.decode) ms
  let tags ← required "tags" tags?
  let paths ← required "paths" paths?
  return { info, host, schemes, consumes, tags, paths, extra := otherMembers Document.fields ms }

/-- What is wrong with a raw schema. -/
inductive SchemaDefect where
  | notObject
  | pathsNotObject
  | pathsMissing
  | tagsNotArray
  | tagsMissing
  | mismatch (m : Mismatch)
  deriving DecidableEq

def SchemaDefect.message : SchemaDefect → String
  | .notObject => "top level is not an object"
  | .pathsNotObject => "`paths` is not an object"
  | .pathsMissing => "missing `paths`"
  | .tagsNotArray => "`tags` is not an array"
  | .tagsMissing => "missing `tags`"
  | .mismatch m => m.message .json

/-- Whether a raw schema has the outline that every schema must have. -/
def checkOutline : Json → Except SchemaDefect Unit
  | .obj members => do
    match firstUnder? "paths" members with
    | some (.obj _) => pure ()
    | some _ => .error .pathsNotObject
    | none => .error .pathsMissing
    match firstUnder? "tags" members with
    | some (.arr _) => pure ()
    | some _ => .error .tagsNotArray
    | none => .error .tagsMissing
  | _ => .error .notObject

/-- The document of a raw schema. -/
def Document.ofRaw (raw : Json) : Except SchemaDefect Document := do
  checkOutline raw
  (Document.decode raw).mapError .mismatch

end SwaggerPress
