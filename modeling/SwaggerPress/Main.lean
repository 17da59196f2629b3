import SwaggerPress.CommandLine.Run

/-!
    The command. It looks up the files that the arguments name, lets `Arguments.run` work on them,
    and writes what that leaves at the output path. -/

namespace SwaggerPress

open CommandLine (Arguments RunFailure UsageFault)

/-- How the command is used. -/
def usage : String := "Usage: swagger-press [OPTIONS] --version <RELEASE> <RAW_SCHEMA>"

/-- What stands at a path of the file system. What can be opened but not read is a directory. -/
def lookAt (path : String) : IO (Option Entry) := do
  let content (file : IO.FS.Handle) : IO Entry := do
    try return .file (.ofBytes (← file.readBinToEnd)) catch _ => return .directory
  try some <$> content (← IO.FS.Handle.mk path .read) catch _ => return none

/-- Adds what a path leads to, and the directories on the way, to a tree. -/
def addPath (t : FileTree) (path : String) : IO FileTree := do
  let mut t := t
  let mut at_ : FileTree.Location := []
  for name in pathParts path do
    at_ := FileTree.step at_ name
    if (t.entry? at_).isNone then
      if let some e ← lookAt at_.key then t := t.set at_ e
  return t

/-- The paths that arguments name. -/
def pathsOf (a : Arguments) : List String :=
  let s := a.settings
  [a.schema] ++ a.deprecated.toList ++ a.customizations.toList ++ a.templates.toList ++
    s.descriptionFile.toList ++ s.tagConfigFile.toList ++ a.catalog.toList ++ a.examples ++ [a.output]

/-- Makes the file system hold the text of a tree at a path; the new file replaces the old one in one
step. -/
def publish (t : FileTree) (path : String) : IO Unit := do
  if let .ok text := t.readText path then
    let directory := FileTree.directoryOf path
    IO.FS.createDirAll directory
    let temporary := FileTree.join directory ".swagger-press.tmp"
    IO.FS.writeFile temporary text
    IO.FS.rename temporary path

/-- Runs the command and gives its exit code. -/
def runCommand (a : Arguments) : IO UInt32 := do
  let t ← (pathsOf a).foldlM addPath FileTree.empty
  let (failure?, t) := match a.check t with
    | .error e => (some e, t)
    | .ok () => a.run t
  match failure? with
  | none =>
    publish t a.output
    return 0
  | some e =>
    e.messages.forM fun message => IO.eprintln message
    return 1

end SwaggerPress

def main (args : List String) : IO UInt32 := do
  match SwaggerPress.CommandLine.Arguments.parse args with
  | .ok a => SwaggerPress.runCommand a
  | .error .helpWanted =>
    IO.println SwaggerPress.usage
    return 0
  | .error _ =>
    IO.eprintln SwaggerPress.usage
    return 2
