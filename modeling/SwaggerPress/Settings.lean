import SwaggerPress.Failure
import SwaggerPress.TagConfig

/-!
    The settings of an assembly: the version of the API that is published, and the files that add to
    the raw schema. A file that is set but not there counts as not set; one that is there but cannot
    be used is a failure. -/

namespace SwaggerPress

/-- How a raw schema is made a document. -/
structure Settings where
  version : String := "v2"
  descriptionFile : Option String := none
  tagConfigFile : Option String := none
  catalog : Option Catalog := none

/-- The name of the file with the description. -/
def descriptionName : String := "description.md"

/-- The name of the file with the tag configuration. -/
def tagConfigName : String := "config.yml"

namespace FileTree

/-- The text of the file at a path, as configuration. -/
def readConfiguration (t : FileTree) (path : String) : Except Failure String :=
  (t.readText path).mapError fun fault => .configuration path (.file fault)

/-- The path if something is there. -/
def present? (t : FileTree) (path : Option String) : Option String := path.filter t.pathExists

end FileTree

namespace Settings

/-- The settings whose files have their usual names in a directory. -/
def ofTemplates (directory : String) : Settings where
  descriptionFile := some (FileTree.join directory descriptionName)
  tagConfigFile := some (FileTree.join directory tagConfigName)

/-- The description of the API, if there is one. -/
def description? (s : Settings) (t : FileTree) : Except Failure (Option String) :=
  match t.present? s.descriptionFile with
  | some path => some <$> t.readConfiguration path
  | none => .ok none

/-- The tag configuration, if there is one. -/
def tagConfig? (s : Settings) (t : FileTree) : Except Failure (Option TagConfig) :=
  match t.present? s.tagConfigFile with
  | some path => do
    let text ← t.readConfiguration path
    some <$> (TagConfig.parse text).mapError fun fault => .configuration path (.yaml fault)
  | none => .ok none

end Settings

/-- The message catalog of a file. -/
def Catalog.load (t : FileTree) (path : String) : Except Failure Catalog := do
  let text ← t.readConfiguration path
  (Catalog.parse text).mapError fun fault => .configuration path (.yaml fault)

end SwaggerPress
