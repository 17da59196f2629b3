import SwaggerPress.SortedMap
import SwaggerPress.Text.Lines

/-!
    Files and directories below a working directory. A tree lists what is there under its *location*,
    the names from the working directory down; the working directory itself is always there. A path
    is text that is followed from the working directory: empty parts and `.` stay, `..` goes up, a
    name goes down, and every step needs a directory to stand in. A path that starts with a slash is
    followed from the root of all files instead. A path that is empty, too long or holds a null
    character leads nowhere.

        out/../y.json   from the tree   [out/ , raw.json]   is at   y.json
        raw.json/x      from the same tree                  fails: not a directory

    A file holds text, or bytes that are no text. -/

namespace SwaggerPress

/-- What can go wrong with a file. -/
inductive FileFault where
  | notFound
  | exists
  | notDirectory
  | isDirectory
  | busy
  | nameTooLong
  | nullInPath
  | invalidArgument
  | notText
  | other (message : String)
  deriving DecidableEq

def FileFault.message : FileFault → String
  | .notFound => "No such file or directory (os error 2)"
  | .exists => "File exists (os error 17)"
  | .notDirectory => "Not a directory (os error 20)"
  | .isDirectory => "Is a directory (os error 21)"
  | .busy => "Device or resource busy (os error 16)"
  | .nameTooLong => "File name too long (os error 36)"
  | .nullInPath => "file name contained an unexpected NUL byte"
  | .invalidArgument => "Invalid argument (os error 22)"
  | .notText => "stream did not contain valid UTF-8"
  | .other message => message

/-- What a file holds. -/
inductive Content where
  | text (s : String)
  | binary (bytes : List UInt8)
  deriving DecidableEq

/-- The content of a sequence of bytes. -/
def Content.ofBytes (bytes : ByteArray) : Content :=
  match String.fromUTF8? bytes with
  | some s => .text s
  | none => .binary bytes.data.toList

/-- What stands at a location. -/
inductive Entry where
  | file (content : Content)
  | directory
  deriving DecidableEq

/-- The names from the working directory down to a place; leading `..` lead out of it, and a leading
`/` stands for the root of all files. A tree does not know what its working directory is called, so a
path that leaves it and comes back, as `../work/x.json` does in a directory `work`, and a path from the
root lead to locations that are listed apart from `x.json`. Such paths are outside the model. -/
abbrev FileTree.Location := List String

/-- A location as a single name, by which a tree lists it. -/
def FileTree.Location.key (at_ : FileTree.Location) : String := "/".intercalate at_

/-- The location one step up. -/
def FileTree.Location.up (at_ : FileTree.Location) : FileTree.Location :=
  match at_.getLast? with
  | none => [".."]
  | some ".." => at_ ++ [".."]
  | some "/" => at_
  | some _ => at_.dropLast

/-- Whether a path starts at the root of all files. -/
def startsAtRoot (path : String) : Bool := path.toList.head? = some '/'

/-- The parts of a path between its slashes, after a slash for the root if it starts there. -/
def pathParts (path : String) : List String :=
  (if startsAtRoot path then ["/"] else []) ++
    ((Text.splitOn '/' path.toList).filter (· ≠ [])).map String.ofList

/-- Whether a path ends in a slash and so names a directory. -/
def endsInSlash (path : String) : Bool := path.toList.getLast? = some '/'

/-- The files and directories below a working directory. -/
structure FileTree where
  entries : SortedMap Entry
  deriving DecidableEq, Inhabited

namespace FileTree

def empty : FileTree := ⟨.empty⟩

/-- What stands at a location. The working directory, those above it and the root are always there. -/
def entry? (t : FileTree) (at_ : Location) : Option Entry :=
  if at_ = ["/"] || at_.all (· == "..") then some .directory else t.entries.get? at_.key

def set (t : FileTree) (at_ : Location) (e : Entry) : FileTree := ⟨t.entries.insert at_.key e⟩

/-- One step from a directory. -/
def step (at_ : Location) (name : String) : Location :=
  if name = "/" then ["/"]
  else if name = "." then at_
  else if name = ".." then at_.up
  else at_ ++ [name]

/-- The longest name in bytes. -/
def maxNameBytes : Nat := 255

/-- Follows names from a directory; what the last one leads to need not be there. -/
def follow (t : FileTree) : Location → List String → Except FileFault Location
  | at_, [] => .ok at_
  | at_, name :: rest =>
    match t.entry? at_ with
    | none => .error .notFound
    | some (.file _) => .error .notDirectory
    | some .directory =>
      if maxNameBytes < name.utf8ByteSize then .error .nameTooLong
      else follow t (step at_ name) rest

/-- The longest path in bytes. -/
def maxPathBytes : Nat := 4095

/-- Refuses a path that leads nowhere as it is written. -/
def checkPath (path : String) : Except FileFault Unit :=
  if path.toList.contains '\x00' then .error .nullInPath
  else if path.isEmpty then .error .notFound
  else if maxPathBytes < path.utf8ByteSize then .error .nameTooLong
  else .ok ()

/-- The location of a path, and what stands there. -/
def lookUp (t : FileTree) (path : String) : Except FileFault (Location × Entry) := do
  checkPath path
  let at_ ← t.follow [] (pathParts path)
  match t.entry? at_ with
  | none => .error .notFound
  | some (.file c) => if endsInSlash path then .error .notDirectory else return (at_, .file c)
  | some .directory => return (at_, .directory)

/-- Whether a path leads to anything. -/
def pathExists (t : FileTree) (path : String) : Bool := (t.lookUp path).isOk

def isFile (t : FileTree) (path : String) : Bool :=
  match t.lookUp path with
  | .ok (_, .file _) => true
  | _ => false

def isDirectory (t : FileTree) (path : String) : Bool :=
  match t.lookUp path with
  | .ok (_, .directory) => true
  | _ => false

/-- The text of the file at a path. -/
def readText (t : FileTree) (path : String) : Except FileFault String := do
  match (← t.lookUp path).2 with
  | .file (.text s) => return s
  | .file (.binary _) => .error .notText
  | .directory => .error .isDirectory

/-- The path of a name in a directory. -/
def join (directory name : String) : String :=
  if directory.isEmpty || endsInSlash directory then directory ++ name else directory ++ "/" ++ name

/-- The paths below the working directory in ascending order, those of directories ending in a
slash. -/
def listing (t : FileTree) : List String :=
  let outside (key : String) : Bool := key = ".." || "../".isPrefixOf key || "/".isPrefixOf key
  let inside := t.entries.entries.filter fun e => !outside e.1
  (inside.map fun e => if e.2 = .directory then e.1 ++ "/" else e.1).mergeSort (· ≤ ·)

end FileTree

end SwaggerPress
