import SwaggerPress.CommandLine.Arguments
import SwaggerPress.FileTree.Write
import SwaggerPress.Pipeline

/-!
    A run of the command: assemble the document, merge every file of examples, finalize, render,
    write. Everything is ready before anything is written, so a run that fails earlier leaves all
    files as they were. -/

namespace SwaggerPress.CommandLine

/-- The steps of a run that can fail. -/
inductive Stage where
  | catalog
  | assembly
  | loading (path : String)
  | merging (path : String)
  | release
  | writing (path : String)
  deriving DecidableEq

def Stage.message : Stage → String
  | .catalog => "Failed to load message catalog"
  | .assembly => "Failed to assemble document"
  | .loading path => s!"Failed to load examples from {path}"
  | .merging path => s!"Failed to merge examples from {path}"
  | .release => "Document is not ready to be written"
  | .writing path => s!"Failed to write {path}"

/-- Why a run fails. -/
inductive RunFailure where
  | schemaMissing (path : String)
  | templatesMissing (path : String)
  | releaseBlank
  | failed (stage : Stage) (failure : Failure)
  deriving DecidableEq

/-- The sentences of a failure, from what was to be done to what went wrong. -/
def RunFailure.messages : RunFailure → List String
  | .schemaMissing path => [s!"Raw schema file does not exist: {path}"]
  | .templatesMissing path => [s!"Templates path is not a directory: {path}"]
  | .releaseBlank => ["Release identifier must not be empty"]
  | .failed stage failure => stage.message :: failure.message :: failure.source?.toList

/-- Names the step at which something failed. -/
def during {α : Type} (stage : Stage) (x : Except Failure α) : Except RunFailure α :=
  x.mapError (.failed stage)

namespace Arguments

/-- Refuses arguments that name nothing to work on. -/
def check (a : Arguments) (t : FileTree) : Except RunFailure Unit :=
  if !t.isFile a.schema then .error (.schemaMissing a.schema)
  else match a.templates.filter (!t.isDirectory ·) with
  | some path => .error (.templatesMissing path)
  | none => if Text.isBlankText a.release then .error .releaseBlank else .ok ()

/-- The files of the raw schema. -/
def sourceFiles (a : Arguments) : SourceFiles where
  schema := a.schema
  deprecated := a.deprecated
  customizations := a.customizations

/-- The settings of the assembly, without a catalog. -/
def settings (a : Arguments) : Settings :=
  { a.templates.elim ({} : Settings) Settings.ofTemplates with version := a.version }

/-- Merges files of examples one after another. -/
def mergeFiles (source : Source) (t : FileTree) :
    Pipeline → (paths : List String) → Except RunFailure Pipeline
  | p, [] => .ok p
  | p, path :: rest => do
    let batch ← during (.loading path) (Batch.ofFile t path)
    match p.merge source t batch with
    | (.ok _, p) => mergeFiles source t p rest
    | (.error e, _) => .error (.failed (.merging path) e)

/-- The text that the command publishes. -/
def prepare (a : Arguments) (t : FileTree) : Except RunFailure String := do
  let source := a.sourceFiles.source t
  let catalog ← match a.catalog with
    | some path => some <$> during .catalog (Catalog.load t path)
    | none => pure none
  let p : Pipeline := { settings := { a.settings with catalog } }
  let _ ← during .assembly (p.document source t)
  let p ← mergeFiles source t (p.access source t) a.examples
  let d ← during .release (p.finalize source t a.release)
  return d.render a.format

/-- Runs the command: the failure, if there is one, and the files afterwards. -/
def run (a : Arguments) (t : FileTree) : Option RunFailure × FileTree :=
  match a.prepare t with
  | .error e => (some e, t)
  | .ok text =>
    match t.writeAtomically a.output text with
    | (none, t) => (none, t)
    | (some fault, t) => (some (.failed (.writing a.output) (.file fault)), t)

end Arguments

end SwaggerPress.CommandLine
