import SwaggerPress.Capture.Reader
import SwaggerPress.Merge
import SwaggerPress.Release

/-!
    A document on its way from the raw schema to its release. It is assembled when it is first asked
    for, from what the source and the files are at that time; a failed assembly leaves nothing behind
    and is tried again the next time. Batches are merged into the one document, and finalizing takes
    it out.

        new ── document fails ──▶ new ── document ──▶ assembled ── merge ──▶ assembled ── finalize ──▶ -/

namespace SwaggerPress

/-- A document on its way, if it has been assembled. -/
structure Pipeline where
  settings : Settings
  assembled : Option Document := none

namespace Pipeline

def isAssembled (p : Pipeline) : Bool := p.assembled.isSome

/-- The document, assembled if it has not been before. -/
def document (p : Pipeline) (source : Source) (t : FileTree) : Except Failure Document :=
  match p.assembled with
  | some d => .ok d
  | none => Document.assemble source p.settings t

/-- The pipeline after its document has been asked for. -/
def access (p : Pipeline) (source : Source) (t : FileTree) : Pipeline :=
  match p.document source t with
  | .ok d => { p with assembled := some d }
  | .error _ => p

/-- Merges a batch into the document, assembled if it has not been before. -/
def merge (p : Pipeline) (source : Source) (t : FileTree) (b : Batch) :
    Except Failure MergeReport × Pipeline :=
  match p.document source t with
  | .error e => (.error e, p)
  | .ok d =>
    let (outcome, d) := d.merge b
    (outcome, { p with assembled := some d })

/-- The document for a release; nothing is left of the pipeline. -/
def finalize (p : Pipeline) (source : Source) (t : FileTree) (release : String) :
    Except Failure Document := do
  let d ← p.document source t
  d.finalize release

end Pipeline

/-- The batch of a file, with its failures as configuration. -/
def Batch.ofFile (t : FileTree) (path : String) : Except Failure Batch := do
  let text ← t.readConfiguration path
  (Batch.load text).mapError fun fault => .configuration path (.json fault)

end SwaggerPress
