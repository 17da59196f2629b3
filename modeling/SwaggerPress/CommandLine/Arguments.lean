import SwaggerPress.Release
import SwaggerPress.Settings

/-!
    The arguments of the command. Options start with a dash, and what an option is given is attached
    to it or stands in the next argument, unless that looks like an option itself:

        raw.json --version 3.3.0 -t templates -e a.json -e b.json -fyaml --output=out/swagger.yaml

    The one argument that is no option is the raw schema; after `--` nothing is an option. A value is
    looked at when the next option comes or the arguments end, so an unknown option is reported
    before a bad value just in front of it. -/

namespace SwaggerPress.CommandLine

/-- What is wrong with the arguments, or that help is asked for. -/
inductive UsageFault where
  | missingArgument
  | unknownArgument
  | invalidValue
  | conflict
  | tooManyValues
  | helpWanted
  deriving DecidableEq

/-- The options that are given a value. -/
inductive ValueOption where
  | release
  | deprecated
  | customizations
  | templates
  | version
  | examples
  | catalog
  | output
  | format
  deriving DecidableEq

/-- The options that stand alone. -/
inductive Flag where
  | verbose
  | help
  deriving DecidableEq

/-- Any option. -/
inductive AnyOption where
  | value (o : ValueOption)
  | flag (f : Flag)

/-- The option of a long name. -/
def longOption? : String → Option AnyOption
  | "version" => some (.value .release)
  | "deprecated" => some (.value .deprecated)
  | "customizations" => some (.value .customizations)
  | "templates" => some (.value .templates)
  | "default-version" => some (.value .version)
  | "examples" => some (.value .examples)
  | "catalog" => some (.value .catalog)
  | "output" => some (.value .output)
  | "format" => some (.value .format)
  | "verbose" => some (.flag .verbose)
  | "help" => some (.flag .help)
  | _ => none

/-- The option of a letter. -/
def shortOption? : Char → Option AnyOption
  | 'd' => some (.value .deprecated)
  | 't' => some (.value .templates)
  | 'e' => some (.value .examples)
  | 'o' => some (.value .output)
  | 'f' => some (.value .format)
  | 'v' => some (.flag .verbose)
  | 'h' => some (.flag .help)
  | _ => none

/-- The path that the document is written to by default. -/
def defaultOutput : String := "swagger.json"

/-- What the command is asked to do. -/
structure Arguments where
  schema : String
  release : String
  deprecated : Option String
  customizations : Option String
  templates : Option String
  version : String
  examples : List String
  catalog : Option String
  output : String
  format : Format
  verbose : Bool

/-- What has been given so far. -/
structure Given where
  schema : Option String := none
  release : Option String := none
  deprecated : Option String := none
  customizations : Option String := none
  templates : Option String := none
  version : Option String := none
  examples : List String := []
  catalog : Option String := none
  output : Option String := none
  format : Option Format := none
  verbose : Bool := false

/-- An argument that has not been looked at: an option, with its value if that has come, or the raw
schema. -/
inductive Pending where
  | nothing
  | option (o : ValueOption) (value : Option String)
  | schema (path : String)

/-- A path is not empty. -/
def asPath (s : String) : Except UsageFault String :=
  if s.isEmpty then .error .invalidValue else .ok s

def asFormat : String → Except UsageFault Format
  | "json" => .ok .json
  | "yaml" => .ok .yaml
  | _ => .error .invalidValue

namespace Given

/-- The value of an option that may be given only once. -/
def once {α : Type} (old : Option α) (value : Except UsageFault α) :
    Except UsageFault (Option α) :=
  if old.isSome then .error .conflict else value.map some

/-- Takes the value of an option. -/
def assign (g : Given) (o : ValueOption) (s : String) : Except UsageFault Given := do
  match o with
  | .release => return { g with release := ← once g.release (.ok s) }
  | .deprecated => return { g with deprecated := ← once g.deprecated (asPath s) }
  | .customizations => return { g with customizations := ← once g.customizations (asPath s) }
  | .templates => return { g with templates := ← once g.templates (asPath s) }
  | .version => return { g with version := ← once g.version (.ok s) }
  | .examples => return { g with examples := g.examples ++ [← asPath s] }
  | .catalog => return { g with catalog := ← once g.catalog (asPath s) }
  | .output => return { g with output := ← once g.output (asPath s) }
  | .format => return { g with format := ← once g.format (asFormat s) }

/-- Takes what was pending. -/
def settle (g : Given) : Pending → Except UsageFault Given
  | .nothing => .ok g
  | .option _ none => .error .invalidValue
  | .option o (some s) => g.assign o s
  | .schema path => do return { g with schema := some (← asPath path) }

def setFlag (g : Given) : Flag → Except UsageFault Given
  | .verbose => if g.verbose then .error .conflict else .ok { g with verbose := true }
  | .help => .error .helpWanted

/-- The arguments, once all have been taken. -/
def complete (g : Given) : Except UsageFault Arguments :=
  match g.schema, g.release with
  | some schema, some release => .ok {
      schema, release
      deprecated := g.deprecated
      customizations := g.customizations
      templates := g.templates
      version := g.version.getD ({} : Settings).version
      examples := g.examples
      catalog := g.catalog
      output := g.output.getD defaultOutput
      format := g.format.getD .json
      verbose := g.verbose }
  | _, _ => .error .missingArgument

end Given

/-- The text before the first equals sign and the text after it, if there is one. -/
def splitAtEquals (cs : List Char) : List Char × Option (List Char) :=
  match cs.dropWhile (· ≠ '=') with
  | [] => (cs, none)
  | _ :: rest => (cs.takeWhile (· ≠ '='), some rest)

/-- Reads an option given by its long name. -/
def readLong (g : Given) (pending : Pending) (cs : List Char) :
    Except UsageFault (Given × Pending) := do
  let (name, attached) := splitAtEquals cs
  match longOption? (String.ofList name), attached with
  | none, _ => .error .unknownArgument
  | some (.flag _), some _ => .error .tooManyValues
  | some (.flag f), none => return (← (← g.settle pending).setFlag f, .nothing)
  | some (.value o), some s => return (← (← g.settle pending).assign o (String.ofList s), .nothing)
  | some (.value o), none => return (← g.settle pending, .option o none)

/-- Reads options given by letters, the last of which may be given a value. -/
def readShort (g : Given) (pending : Pending) : List Char → Except UsageFault (Given × Pending)
  | [] => .ok (g, pending)
  | letter :: rest =>
    match shortOption? letter with
    | none => .error .unknownArgument
    | some (.flag f) => do readShort (← (← g.settle pending).setFlag f) .nothing rest
    | some (.value o) => do
      let g ← g.settle pending
      match rest with
      | [] => return (g, .option o none)
      | '=' :: s => return (← g.assign o (String.ofList s), .nothing)
      | s => return (← g.assign o (String.ofList s), .nothing)

/-- Whether the raw schema has been named. -/
def schemaNamed (g : Given) : Pending → Bool
  | .schema _ => true
  | _ => g.schema.isSome

/-- Reads arguments one after another; `plain` tells that none of them is an option. -/
def readFrom (g : Given) (pending : Pending) (plain : Bool) :
    List String → Except UsageFault Given
  | [] => g.settle pending
  | arg :: rest => do
    let name : Except UsageFault Given :=
      if schemaNamed g pending then .error .unknownArgument
      else do readFrom (← g.settle pending) (.schema arg) plain rest
    if plain then name
    else match arg.toList with
    | ['-', '-'] => readFrom g pending true rest
    | '-' :: '-' :: cs => do
      let (g, pending) ← readLong g pending cs
      readFrom g pending plain rest
    | '-' :: c :: cs => do
      let (g, pending) ← readShort g pending (c :: cs)
      readFrom g pending plain rest
    | _ =>
      match pending with
      | .option o none => readFrom g (.option o (some arg)) plain rest
      | _ => name

/-- Reads the arguments of the command. -/
def Arguments.parse (args : List String) : Except UsageFault Arguments := do
  (← readFrom {} .nothing false args).complete

end SwaggerPress.CommandLine
