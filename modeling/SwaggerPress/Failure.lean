import SwaggerPress.Document.Decode
import SwaggerPress.FileTree.Basic
import SwaggerPress.Json.Fault
import SwaggerPress.Text.Case
import SwaggerPress.Yaml.Fault

/-!
    Why publishing a document fails, and the sentence that says so. Every failure is kept as its
    cause; a reason that comes from elsewhere may be given in words. -/

namespace SwaggerPress

/-- What is wrong with a text or a file. -/
inductive Reason where
  | file (fault : FileFault)
  | json (fault : Json.Fault)
  | yaml (fault : Yaml.Fault)
  | words (message : String)
  deriving DecidableEq

def Reason.message : Reason → String
  | .file fault => fault.message
  | .json fault => fault.message
  | .yaml fault => fault.message
  | .words message => message

/-- Why there is no usable raw schema. -/
inductive SchemaFailure where
  | defect (d : SchemaDefect)
  | unreadable (path : String) (fault : Json.Fault)
  | deprecations (fault : Json.Fault)
  | customizations (fault : Json.Fault)
  | customizationsNotObject
  | words (message : String)
  deriving DecidableEq

def SchemaFailure.message : SchemaFailure → String
  | .defect d => d.message
  | .unreadable path fault => s!"{path}: {fault.message}"
  | .deprecations fault => s!"deprecated paths are not a JSON array of strings: {fault.message}"
  | .customizations fault => s!"customizations: {fault.message}"
  | .customizationsNotObject => "customizations must be a JSON object"
  | .words message => message

/-- What a document lacks that must not be published without it. -/
inductive Lack where
  | tags
  | paths
  | words (message : String)
  deriving DecidableEq

def Lack.message : Lack → String
  | .tags => "document has no tags"
  | .paths => "document has no paths"
  | .words message => message

/-- Why publishing fails. -/
inductive Failure where
  | file (fault : FileFault)
  | schema (reason : SchemaFailure)
  | configuration (path : String) (reason : Reason)
  | exampleBody (path method status : String) (reason : Reason)
  | incomplete (lack : Lack)
  | serialization (reason : Reason)
  deriving DecidableEq

namespace Failure

def message : Failure → String
  | .file fault => s!"IO error: {fault.message}"
  | .schema reason => s!"Malformed raw schema: {reason.message}"
  | .configuration path reason => s!"Invalid configuration in {path}: {reason.message}"
  | .exampleBody path method status reason =>
    let captured := s!"Captured {Text.upper method} {path} ({status})"
    s!"{captured} declares JSON but the body does not parse: {reason.message}"
  | .incomplete lack => s!"Incomplete document: {lack.message}"
  | .serialization (.json fault) => s!"Serialization error: JSON serialization error: {fault.message}"
  | .serialization (.yaml fault) => s!"Serialization error: YAML serialization error: {fault.message}"
  | .serialization reason => s!"Serialization error: {reason.message}"

/-- The failure underneath, which is reported as well. -/
def source? : Failure → Option String
  | .file fault => some fault.message
  | _ => none

end Failure

end SwaggerPress
