import SwaggerPress.FileTree.Basic

/-!
    Changing a tree. `writeAtomically` puts a text at a path in one step: the directories that the
    path leads through are made if they are missing, and then the new file takes the place of the
    old one or nothing changes. A directory is never replaced by a file. Only the tree and the path
    decide whether it fails; there is no full disk, and no temporary file whose path could be too
    long.

        [f]         writeAtomically  f/x.json   fails: a file stands where a directory is needed
        []          writeAtomically  out/x.json    [out/ , out/x.json] -/

namespace SwaggerPress.FileTree

/-- Takes slashes and parts that stay in place off the end of a path, which is given last character
first. The root and a `.` at the front stay. -/
def trimReversed : List Char → List Char
  | [] => []
  | c :: rest =>
    if (c = '/' && !rest.isEmpty) || (c = '.' && rest.head? = some '/') then trimReversed rest
    else c :: rest

/-- The path of the directory that a path lies in, as it is written there; empty for a single name.
The root lies in none. -/
def parentPath? (path : String) : Option String :=
  match trimReversed path.toList.reverse with
  | [] | ['/'] => none
  | cs => some (String.ofList (trimReversed (cs.dropWhile (· ≠ '/'))).reverse)

/-- The directory that the file at a path lies in. -/
def directoryOf (path : String) : String :=
  match parentPath? path with
  | none | some "" => "."
  | some parent => parent

/-- The paths of a directory and of those that it lies in, as far as they are written. -/
def chain : (fuel : Nat) → (path : String) → List String
  | 0, _ => []
  | fuel + 1, path =>
    if path.isEmpty then []
    else path :: match parentPath? path with
      | some parent => chain fuel parent
      | none => []

/-- Where the last name of a path is, with that name; all before it must be there. -/
def approach (t : FileTree) (path : String) : Except FileFault (Location × String) :=
  let parts := pathParts path
  match parts.getLast? with
  | none => .error .notFound
  | some name => do
    let parent ← t.follow [] parts.dropLast
    match t.entry? parent with
    | none => .error .notFound
    | some (.file _) => .error .notDirectory
    | some .directory => return (parent, name)

/-- Makes one directory; all before its last name must be there, and it must not. -/
def makeDirectory (t : FileTree) (path : String) : Except FileFault FileTree := do
  checkPath path
  let (parent, name) ← t.approach path
  if ["/", ".", ".."].contains name then .error .exists
  else if maxNameBytes < name.utf8ByteSize then .error .nameTooLong
  else match t.entry? (parent ++ [name]) with
    | some _ => .error .exists
    | none => return t.set (parent ++ [name]) .directory

/-- The outcome of a change: a fault or none, and the tree that is left in either case. -/
abbrev Outcome := Option FileFault × FileTree

/-- Makes the first directory of a chain and those of the rest that are missing, each by `make`. -/
def makeChain (make : FileTree → String → Except FileFault FileTree) (t : FileTree) :
    List String → Outcome
  | [] => (none, t)
  | path :: above =>
    match make t path with
    | .ok t => (none, t)
    | .error .notFound =>
      match makeChain make t above with
      | (some e, t) => (some e, t)
      | (none, t) =>
        match make t path with
        | .ok t => (none, t)
        | .error e => (if t.isDirectory path then none else some e, t)
    | .error e => (if t.isDirectory path then none else some e, t)

/-- Makes a directory and those above it that are missing. -/
def makeDirectories (t : FileTree) (directory : String) : Outcome :=
  makeChain makeDirectory t (chain (directory.length + 1) directory)

/-- Where a path puts a file: its directory is there, and no directory would be replaced. -/
def destination (t : FileTree) (path : String) : Except FileFault Location := do
  match checkPath path with
  | .error .nullInPath => .error .invalidArgument
  | .error e => .error e
  | .ok () => pure ()
  let (parent, name) ← t.approach path
  if ["/", ".", ".."].contains name then .error .busy
  else if maxNameBytes < name.utf8ByteSize then .error .nameTooLong
  else if endsInSlash path then .error .notDirectory
  else match t.entry? (parent ++ [name]) with
    | some .directory => .error .isDirectory
    | _ => return parent ++ [name]

/-- Puts a file at a path whose directory is there. -/
def place (t : FileTree) (path : String) (content : Content) : Except FileFault FileTree :=
  return t.set (← t.destination path) (.file content)

/-- Puts content at a path, making the directories that it leads through. -/
def put (t : FileTree) (path : String) (content : Content) : Outcome :=
  match t.makeDirectories (directoryOf path) with
  | (some e, t) => (some e, t)
  | (none, t) =>
    match t.place path content with
    | .ok t => (none, t)
    | .error e => (some e, t)

/-- Replaces the file at a path by a text in one step. -/
def writeAtomically (t : FileTree) (path text : String) : Outcome := t.put path (.text text)

/-- Removes what stands at a path, with all that is below it. -/
def remove (t : FileTree) (path : String) : FileTree :=
  match t.lookUp path with
  | .error _ => t
  | .ok (at_, _) =>
    ⟨t.entries.filter fun key _ => !(key = at_.key || (at_.key ++ "/").isPrefixOf key)⟩

end SwaggerPress.FileTree
