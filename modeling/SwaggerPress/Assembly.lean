import SwaggerPress.PathTemplate
import SwaggerPress.Settings
import SwaggerPress.Source
import SwaggerPress.Text.Blank
import SwaggerPress.Text.Lines

/-!
    Making a raw schema a document. The customizations are laid over the raw schema, the result is
    decoded, and then the document is normalized:

        static fields    no host, HTTPS only, JSON bodies
        description      the text of the description file
        tags             one more for each configured category
        paths            for one version of the API, deprecated operations marked
        operations       the first line of the description is the summary; no version parameter

    Two templates may become one path; then the later of them in ascending order counts. -/

namespace SwaggerPress

/-- The only scheme of a published API. -/
def secureScheme : String := "https"

/-- The media type of JSON. -/
def jsonMediaType : String := "application/json"

/-- Whether a character only marks the first line of a description. -/
def isHeadingMark (c : Char) : Bool := c = '#' || c = ':' || Text.isBlank c

/-- A heading without its marks and without blanks at its end. -/
def trimHeading (line : List Char) : List Char :=
  Text.dropEndWhile Text.isBlank (line.dropWhile isHeadingMark)

namespace Operation

/-- The first line of the description becomes the summary, the others the description. -/
def summarized (o : Operation) : Operation :=
  match o.description with
  | none => o
  | some w =>
    if w.text = "" then o
    else
      let lines := Text.lines w.text.toList
      { o with
        summary := some (String.ofList (trimHeading (lines.headD [])))
        description := some (.plain (String.ofList (Text.unlines lines.tail))) }

/-- The operation without the parameter that only routes to a version of the API. -/
def withoutVersion (o : Operation) : Operation :=
  { o with parameters := o.parameters.filter fun p => !p.isVersion }

end Operation

/-- The operations of a template, all of them deprecated if the template is. -/
def PathItem.mark (item : PathItem) (deprecated : Bool) : PathItem :=
  if deprecated then item.map fun o => { o with deprecated := true } else item

/-- The paths for one version of the API. -/
def Paths.resolve (paths : Paths) (version : String) (deprecated : Deprecations) : Paths :=
  .ofList <| paths.entries.map fun e =>
    (PathTemplate.withVersion version e.1, PathItem.mark e.2 (deprecated.contains e.1))

/-- The tag of a category; with a catalog its description is translated when it is read. -/
def TagCategory.tag (c : TagCategory) (catalog : Option Catalog) : Tag where
  name := c.name
  description := c.description.map fun text =>
    match catalog with
    | some catalog => catalog.lazily text
    | none => .plain text

namespace Document

/-- The document of an API on the host that serves it, over HTTPS, taking JSON. -/
def withStaticFields (d : Document) : Document :=
  { d with host := none, schemes := [secureScheme], consumes := [jsonMediaType] }

def withDescription (d : Document) (text : String) : Document :=
  { d with info := { d.info with description := some (.plain text) } }

/-- The document with one more tag for each category. -/
def withTags (d : Document) (config : TagConfig) (catalog : Option Catalog) : Document :=
  { d with tags := d.tags ++ config.categories.map fun c => c.tag catalog }

def resolvePaths (d : Document) (version : String) (deprecated : Deprecations) : Document :=
  { d with paths := Paths.resolve d.paths version deprecated }

/-- The normalized document of a raw schema. -/
def normalize (d : Document) (description : Option String) (config : Option TagConfig)
    (settings : Settings) (deprecated : Deprecations) : Document :=
  let d := d.withStaticFields
  let d := description.elim d d.withDescription
  let d := config.elim d fun config => d.withTags config settings.catalog
  (d.resolvePaths settings.version deprecated).mapOperations fun o => o.summarized.withoutVersion

/-- Makes a source a document. -/
def assemble (source : Source) (settings : Settings) (t : FileTree) : Except Failure Document := do
  let raw ← source.schema
  let deprecated ← source.deprecated
  let customizations ← source.customizations
  let d ← (ofRaw (raw.overlay customizations)).mapError fun defect => .schema (.defect defect)
  let description ← settings.description? t
  let config ← settings.tagConfig? t
  return d.normalize description config settings deprecated

end Document

end SwaggerPress
