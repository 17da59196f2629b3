import SwaggerPress.Text.Blank
import SwaggerPress.Wording
import SwaggerPress.Yaml.Decode

/-!
    The configuration files of the templates: the categories whose tags a document gets, and message
    catalogs. Both are YAML; a tag configuration may be blank.

        categories:
          - name: Jobs
            description: Running things          Jobs ↦ lazily translated, if there is a catalog -/

namespace SwaggerPress

open Yaml (Decoder Fault Mark asListOf asOption asText decodeText foldMembers membersOf putOnce)

/-- A configured tag. -/
structure TagCategory where
  name : String
  description : Option String := none
  deriving DecidableEq

/-- The configured tags in their order. -/
structure TagConfig where
  categories : List TagCategory := []
  deriving DecidableEq

/-- The fields of a category that have been read so far. -/
structure PartialCategory where
  name : Option String := none
  description : Option (Option String) := none

def TagCategory.decode : Decoder TagCategory := fun d path n => do
  let (mark, members) ← membersOf "struct TagCategory" d path n
  let use (p : PartialCategory) (name : String) (at_ : List Yaml.Step) (v : Yaml.Node) :
      Except Fault PartialCategory :=
    match name with
    | "name" => do
      return { p with name := ← putOnce d mark path name (asText "a string") at_ v p.name }
    | "description" => do
      let text := asOption (mark, path) (asText "a string")
      return { p with description := ← putOnce d mark path name text at_ v p.description }
    | _ => do
      d.ignore v
      return p
  let p ← foldMembers use d path "field identifier" {} members
  match p.name with
  | some name => return { name, description := p.description.getD none }
  | none => .error (.mismatch (.missingField "name") mark path)

def TagConfig.decode : Decoder TagConfig := fun d path n => do
  let (mark, members) ← membersOf "struct TagConfig" d path n
  let use (categories : Option (List TagCategory)) (name : String) (at_ : List Yaml.Step)
      (v : Yaml.Node) : Except Fault (Option (List TagCategory)) :=
    match name with
    | "categories" => putOnce d mark path name (asListOf TagCategory.decode) at_ v categories
    | _ => do
      d.ignore v
      return categories
  let categories ← foldMembers use d path "field identifier" none members
  return { categories := categories.getD [] }

/-- The tag configuration of a text. -/
def TagConfig.parse (text : String) : Except Fault TagConfig :=
  if Text.isBlankText text then .ok {} else decodeText TagConfig.decode (.ok {}) text

/-- The message catalog of a text. -/
def Catalog.parse (text : String) : Except Fault Catalog := (Yaml.parseTextMap text).map Catalog.mk

end SwaggerPress
