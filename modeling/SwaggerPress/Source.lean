import SwaggerPress.Deprecations
import SwaggerPress.Failure

/-!
    Where a raw schema comes from. A *source* is what can be had at one time: the raw schema, the
    deprecated templates and the customizations, or why each of them cannot be had. A later look at
    the same files may give another source. -/

namespace SwaggerPress

/-- The answers to the three questions about a raw schema. -/
structure Source where
  schema : Except Failure Json
  deprecated : Except Failure Deprecations := .ok {}
  customizations : Except Failure (Option (SortedMap Json)) := .ok none

/-- The files that a source is read from; of the optional ones, one that is not there counts as not
named. -/
structure SourceFiles where
  schema : String
  deprecated : Option String := none
  customizations : Option String := none

namespace FileTree

/-- The text of a file. -/
def read (t : FileTree) (path : String) : Except Failure String :=
  (t.readText path).mapError Failure.file

/-- The text of a file, if one is named and there. -/
def readOptional (t : FileTree) : Option String → Except Failure (Option String)
  | some path => if t.pathExists path then some <$> t.read path else .ok none
  | none => .ok none

end FileTree

namespace SourceFiles

def readSchema (f : SourceFiles) (t : FileTree) : Except Failure Json := do
  let text ← t.read f.schema
  (Json.parse text).mapError fun fault => .schema (.unreadable f.schema fault)

def readDeprecated (f : SourceFiles) (t : FileTree) : Except Failure Deprecations := do
  match ← t.readOptional f.deprecated with
  | some text => (Deprecations.parse text).mapError fun fault => .schema (.deprecations fault)
  | none => return {}

def readCustomizations (f : SourceFiles) (t : FileTree) :
    Except Failure (Option (SortedMap Json)) := do
  match ← t.readOptional f.customizations with
  | none => return none
  | some text =>
    match Json.parse text with
    | .ok (.obj members) => return some (.ofList members)
    | .ok _ => .error (.schema .customizationsNotObject)
    | .error fault => .error (.schema (.customizations fault))

/-- The source that the files are at the moment. -/
def source (f : SourceFiles) (t : FileTree) : Source where
  schema := f.readSchema t
  deprecated := f.readDeprecated t
  customizations := f.readCustomizations t

end SourceFiles

/-- A value with members laid over its own, if it is an object. -/
def Json.overlay (customizations : Option (SortedMap Json)) : Json → Json
  | .obj members =>
    let added := (customizations.getD .empty).entries
    .obj (added.foldl (fun ms e => insertEntry e.1 e.2 ms) members)
  | v => v

end SwaggerPress
