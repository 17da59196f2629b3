import SwaggerPress.Document.Encode
import SwaggerPress.Failure
import SwaggerPress.Json.Printer
import SwaggerPress.Yaml.Printer

/-!
    Publishing a document. A document without tags or without paths is not published; otherwise the
    release is stamped into it, and it is rendered as JSON or YAML. -/

namespace SwaggerPress

/-- The format of a published document. -/
inductive Format where
  | json
  | yaml
  deriving DecidableEq

namespace Document

/-- The document for a release. -/
def finalize (d : Document) (release : String) : Except Failure Document :=
  if d.tags.isEmpty then .error (.incomplete .tags)
  else if d.paths.isEmpty then .error (.incomplete .paths)
  else .ok { d with info := { d.info with version := release } }

theorem finalize_eq_ok_iff {d d' : Document} {release : String} :
    d.finalize release = .ok d' ↔ d.tags.isEmpty = false ∧ d.paths.isEmpty = false ∧
      { d with info := { d.info with version := release } } = d' := by
  unfold finalize
  cases d.tags.isEmpty <;> cases d.paths.isEmpty <;> simp

/-- The text of the document. -/
def render (d : Document) : Format → String
  | .json => d.encode.pretty
  | .yaml => Yaml.print d.encode

end Document

end SwaggerPress
