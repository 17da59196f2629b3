import SwaggerPress.Assembly
import SwaggerPress.Capture.Basic
import SwaggerPress.Json.Reader

/-!
    Merging captures into a document. A capture *hits* an operation when the template accepts its
    path and the method is the same. The operation then *absorbs* it:

        produces      gets the content type, if it is new
        parameters    of a success with a payload: the payload as the only body parameter
        responses     under the status and the content type, the body

    The body of a JSON response has to parse; a page of HTML or an empty body is not kept. A merge
    visits the templates in ascending order, and the whole batch under each of them. Hits are
    absorbed in a copy of the paths, which takes the place of the paths after the last visit; a visit
    that fails ends the merge, and the document keeps the paths it had. -/

namespace SwaggerPress

/-- The body of a response as the value of an example, if it is worth keeping. -/
def Capture.example? (c : Capture) (path : String) : Except Failure (Option Json) :=
  if c.response.isEmpty || "text/html".isPrefixOf c.contentType then .ok none
  else if c.contentType = jsonMediaType then
    match Json.parse c.response with
    | .ok v => .ok (some v)
    | .error fault => .error (.exampleBody path c.method c.statusText (.json fault))
  else .ok (some (.str c.response))

namespace Operation

/-- Adds a content type, unless it is empty or there already. -/
def withContentType (o : Operation) (contentType : String) : Operation :=
  if contentType.isEmpty || o.produces.contains contentType then o
  else { o with produces := o.produces ++ [contentType] }

/-- Makes a payload the only body parameter. -/
def withPayload (o : Operation) (payload : Json) : Operation :=
  { o with
    parameters := o.parameters.filter (fun p => p.location ≠ .body) ++ [.bodyExample payload] }

/-- Puts an example under a status and a content type. -/
def withExample (o : Operation) (status contentType : String) (v : Json) : Operation :=
  let r := (o.responses.get? status).getD {}
  { o with
    responses := o.responses.insert status { r with examples := r.examples.insert contentType v } }

/-- Takes over what a capture shows, its body being the value of an example or not worth keeping. -/
def withCapture (o : Operation) (c : Capture) (v? : Option Json) : Operation :=
  let o := o.withContentType c.contentType
  let o := if c.isSuccess then c.payload?.elim o o.withPayload else o
  v?.elim o (o.withExample c.statusText c.contentType)

/-- Takes over what a capture of the operation on a path shows. -/
def absorb (o : Operation) (path : String) (c : Capture) : Except Failure Operation :=
  (c.example? path).map (o.withCapture c)

end Operation

/-- What a merge did: how many hits there were, and how many captures hit nothing. -/
structure MergeReport where
  applied : Nat
  unmatched : Nat
  deriving DecidableEq

/-- Whether two captures are of one path, method and status. -/
def sameOccasion (e f : String × Capture) : Bool := e.1 = f.1 && e.2.sameSlot f.2

/-- A merge under way: the document as it was handed over, the copy of its paths that absorbs the
hits, and the captures that hit so far, the latest first. -/
structure Merging where
  document : Document
  paths : Paths
  hits : List (String × Capture) := []

namespace Merging

/-- Absorbs a capture under a template, if it hits an operation there. -/
def visit (m : Merging) (template : String) (e : String × Capture) : Except Failure Merging :=
  let item := (m.paths.get? template).getD .empty
  match item.get? e.2.method with
  | some o =>
    if PathTemplate.accepts template e.1 then do
      let o ← o.absorb e.1 e.2
      return { m with
        paths := m.paths.insert template (item.insert e.2.method o)
        hits := e :: m.hits }
    else .ok m
  | none => .ok m

/-- Visits captures under templates one after another: the failure that ended it, if there is one,
and the merge as it was then. -/
def run (m : Merging) : List (String × String × Capture) → Option Failure × Merging
  | [] => (none, m)
  | (template, e) :: rest =>
    match m.visit template e with
    | .ok m => m.run rest
    | .error f => (some f, m)

end Merging

/-- What a merge visits. -/
def Document.visits (d : Document) (b : Batch) : List (String × String × Capture) :=
  d.paths.keys.flatMap fun template => b.toList.map fun e => (template, e)

/-- Merges a batch: the report, or why there is none, and the document afterwards. -/
def Document.merge (d : Document) (b : Batch) : Except Failure MergeReport × Document :=
  match ({ document := d, paths := d.paths } : Merging).run (d.visits b) with
  | (some f, m) => (.error f, m.document)
  | (none, m) =>
    let missed := b.toList.filter fun e => !m.hits.any (sameOccasion e)
    (.ok ⟨m.hits.length, missed.length⟩, { m.document with paths := m.paths })

end SwaggerPress
