import ShaderBindings.Program

/-
  The command as a program: a workspace made of the files,
  the terminal and the input of the process.

  Key definitions include:
    * `FileFault.ofError`
    * `main`
-/

------------------------------------------------------------
-- Files of the Process
------------------------------------------------------------

namespace ShaderBindings

namespace FileFault

/- The fault that an error of the system stands for. -/
def ofError : IO.Error → FileFault
| .noFileOrDirectory _ _ _ => .notFound
| .alreadyExists _ _ _ => .exists
| .inappropriateType _ code _ =>
    if code = 21 then .isDirectory else .notDirectory
| .invalidArgument _ 36 _ => .nameTooLong
| .resourceExhausted _ 36 _ => .nameTooLong
| error => .other (toString error)

end FileFault

namespace Terminal

/- Run an action, with its error as a fault. -/
def attempt
    {α : Type}
    (action : IO α) : IO (Except FileFault α) := do
  match ← action.toBaseIO with
  | .ok value => return .ok value
  | .error error => return .error (FileFault.ofError error)

/- The entry at a path, as the process names it. -/
def entryAt (path : Path) : IO.FS.DirEntry where
  root := path.text
  fileName := ""

/- The kind of the entry that a path leads to, if any. -/
def kindAt (path : Path) : IO (Option IO.FS.FileType) := do
  match ← (entryAt path).root.metadata.toBaseIO with
  | .ok found => return some found.type
  | .error _ => return none

/- A path leads to an entry of some kind. -/
def hasKind
    (path : Path)
    (kind : IO.FS.FileType) : IO Bool := do
  return (← kindAt path) == some kind

/- The names in the directory at a path. -/
def namesAt (path : Path) : IO (List String) := do
  let found ← (entryAt path).root.readDir
  return found.toList.map fun entry => entry.fileName

/- The content of the file at a path. -/
def contentAt (path : Path) :
    IO (Except FileFault ByteArray) := do
  if ← hasKind path .dir then
    return .error .isDirectory
  else
    attempt (IO.FS.readBinFile path.text)

/- Write a text to the file at a path. -/
def writeAt
    (path : Path)
    (text : String) : IO (Except FileFault Unit) := do
  if ← hasKind path .dir then
    return .error .isDirectory
  else
    attempt (IO.FS.writeFile path.text text)

/- Show text at once. -/
def printNow (text : String) : IO Unit := do
  let output ← IO.getStdout
  output.putStr text
  output.flush

instance : Workspace IO where
  isFile path := hasKind path .file
  isDirectory path := hasKind path .dir
  read := contentAt
  list path := attempt (namesAt path)
  makeDirectory path := attempt (IO.FS.createDir path.text)
  write := writeAt
  log event :=
    if logLevel.admits event.level then
      printNow (event.line ++ "\n")
    else
      return
  print := printNow
  readLine := do (← IO.getStdin).getLine

end Terminal

end ShaderBindings

------------------------------------------------------------
-- The Command
------------------------------------------------------------

/- Run the command with the arguments of the process. -/
def main (arguments : List String) : IO UInt32 := do
  let outcome : ShaderBindings.Outcome ←
    ShaderBindings.run arguments
  (← IO.getStderr).putStr outcome.complaint
  return outcome.exitCode.toUInt32
