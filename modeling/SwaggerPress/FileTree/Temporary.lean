import SwaggerPress.FileTree.Write

/-!
    How a file is replaced. The text goes to a temporary file that stands in the same directory, and
    that file is renamed to the place of the old one, which is whole until then. Whatever surrounds
    the tree can refuse a stage, as a full disk does; then the temporary file is removed again.

        stage      out/.tmpA1b2C3     out/swagger.json
        create     empty              the old text
        fill       the new text       the old text
        rename                        the new text

    The temporary file is created by its whole path, from the root of all files. How long that is
    depends on where the working directory is, which a tree does not tell; so a whole path that is too
    long is a refusal to create the file, even where the path of the output is short enough.

    `writeAtomically` is what is left of this where nothing is refused and nothing else is called what
    the temporary file is called. -/

namespace SwaggerPress.FileTree

/-- What can be refused while a text is written. -/
inductive WriteStage where
  | directory (path : String)
  | create
  | fill
  | rename

/-- What surrounds a tree while a text is written: the name that the temporary file gets, what is
refused for other reasons than the tree gives (a full disk, a whole path of the temporary file that is
too long), and how much of the text is in the temporary file when filling it is refused. -/
structure Surroundings where
  temporary : String
  refusal? : WriteStage → Option FileFault := fun _ => none
  filled : Nat := 0

/-- The result of a stage, unless it is refused. -/
def Surroundings.allow {α : Type} (s : Surroundings) (stage : WriteStage) (result : α) :
    Except FileFault α :=
  match s.refusal? stage with
  | some e => .error e
  | none => return result

/-- Makes one directory, unless that is refused. -/
def Surroundings.makeDirectory (s : Surroundings) (t : FileTree) (path : String) :
    Except FileFault FileTree := do
  s.allow (.directory path) (← t.makeDirectory path)

/-- Makes a directory and those above it that are missing, as far as that is not refused. -/
def Surroundings.makeDirectories (s : Surroundings) (t : FileTree) (directory : String) : Outcome :=
  makeChain s.makeDirectory t (chain (directory.length + 1) directory)

/-- Takes a file out of a tree. -/
def erase (t : FileTree) (at_ : Location) : FileTree :=
  ⟨t.entries.filter fun key _ => key != at_.key⟩

/-- Where a new file of a directory stands. The length of its whole path is not looked at here; too
long a one is refused by what surrounds the tree. -/
def newIn (t : FileTree) (directory name : String) : Except FileFault Location := do
  match ← t.lookUp directory with
  | (_, .file _) => .error .notDirectory
  | (parent, .directory) =>
    match t.entry? (parent ++ [name]) with
    | some _ => .error .exists
    | none => return parent ++ [name]

/-- Fills a file with a text; what is written before a refusal stays in it. -/
def fill (t : FileTree) (s : Surroundings) (at_ : Location) (text : String) : Outcome :=
  match s.refusal? .fill with
  | some e => (some e, t.set at_ (.file (.text (String.ofList (text.toList.take s.filled)))))
  | none => (none, t.set at_ (.file (.text text)))

/-- Moves what stands at a location to where a path puts a file. -/
def rename (t : FileTree) (source : Location) (path : String) : Except FileFault FileTree := do
  let at_ ← t.destination path
  match t.entry? source with
  | some e => return (t.erase source).set at_ e
  | none => .error .notFound

/-- Replaces the file at a path by a text, stage by stage. -/
def writeThrough (t : FileTree) (s : Surroundings) (path text : String) : Outcome :=
  match s.makeDirectories t (directoryOf path) with
  | (some e, t) => (some e, t)
  | (none, t) =>
    match t.newIn (directoryOf path) s.temporary >>= s.allow .create with
    | .error e => (some e, t)
    | .ok temporary =>
      match fill (t.set temporary (.file (.text ""))) s temporary text with
      | (some e, t) => (some e, t.erase temporary)
      | (none, t) =>
        match t.rename temporary path >>= s.allow .rename with
        | .error e => (some e, t.erase temporary)
        | .ok t => (none, t)

end SwaggerPress.FileTree
