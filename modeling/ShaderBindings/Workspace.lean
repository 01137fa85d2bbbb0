import ShaderBindings.Disk
import ShaderBindings.Event

/-
  What the command needs from the place it runs in: files, a
  log and a terminal. A session is such a place as a value,
  with a disk, the input that is still to be read, and a
  transcript of what was shown.

  Key definitions include:
    * `Workspace`
    * `Workspace.readText`
    * `Workspace.createDirectories`
    * `Shown`
    * `Session`
    * `Session.output`
-/

------------------------------------------------------------
-- Workspaces
------------------------------------------------------------

namespace ShaderBindings

/- What the command needs from the place it runs in. -/
class Workspace (m : Type → Type) where
  isFile : Path → m Bool
  isDirectory : Path → m Bool
  read : Path → m (Except FileFault ByteArray)
  list : Path → m (Except FileFault (List String))
  makeDirectory : Path → m (Except FileFault Unit)
  write : Path → String → m (Except FileFault Unit)
  log : Event → m Unit
  print : String → m Unit
  readLine : m String

namespace Workspace

variable {m : Type → Type}
variable [Monad m] [Workspace m]

/- The text of a file. -/
def readText (path : Path) : m (Except FileFault String) := do
  match ← read path with
  | .error fault => return .error fault
  | .ok content =>
      match String.fromUTF8? content with
      | some text => return .ok text
      | none => return .error .notText

/- Log events in order. -/
def logAll : List Event → m Unit
| [] => return
| event :: rest => do
    log event
    logAll rest

/-
  Make the first of several directories, each of which lies
  in the next one. Directories above it are made as well
  when they are missing, and one that is there already is no
  fault.
-/
def createInside : List Path → m (Except FileFault Unit)
| [] => return .ok ()
| path :: above => do
    if path.isEmpty then
      return .ok ()
    let settle (fault : FileFault) :
        m (Except FileFault Unit) := do
      if ← isDirectory path then
        return .ok ()
      else
        return .error fault
    match ← makeDirectory path with
    | .ok () => return .ok ()
    | .error .notFound =>
        match ← createInside above with
        | .error fault => return .error fault
        | .ok () =>
            match ← makeDirectory path with
            | .ok () => return .ok ()
            | .error fault => settle fault
    | .error fault => settle fault

/- Make a directory, with the directories above it. -/
def createDirectories
    (path : Path) : m (Except FileFault Unit) :=
  createInside path.ancestors

end Workspace

end ShaderBindings

------------------------------------------------------------
-- Sessions
------------------------------------------------------------

namespace ShaderBindings

/- What the command shows: text, and events of its log. -/
inductive Shown where
| printed (text : String)
| logged (event : Event)
deriving DecidableEq, Repr

/- A place to run in, as a value. -/
structure Session where
  disk : Disk
  input : List Char
  transcript : List Shown

namespace Session

/- A session that nothing has happened in. -/
def start
    (disk : Disk)
    (input : String) : Session where
  disk := disk
  input := input.toList
  transcript := []

/- Show something more. -/
def record
    (session : Session)
    (shown : Shown) : Session :=
  { session with transcript := session.transcript ++ [shown] }

/- Replace the disk, when there is a new one. -/
def withDisk
    (session : Session)
    (result : Except FileFault Disk) :
    Except FileFault Unit × Session :=
  match result with
  | .ok disk => (.ok (), { session with disk })
  | .error fault => (.error fault, session)

/- The next line of the input, with its end. -/
def nextLine (session : Session) : String × Session :=
  let line := session.input.takeWhile fun c => c != '\n'
  let rest := session.input.dropWhile fun c => c != '\n'
  (String.ofList (line ++ rest.take 1),
    { session with input := rest.drop 1 })

instance : Workspace (StateM Session) where
  isFile path := do return (← get).disk.isFile path
  isDirectory path := do return (← get).disk.isDirectory path
  read path := do return (← get).disk.read path
  list path := do return (← get).disk.list path
  makeDirectory path :=
    modifyGet fun session =>
      session.withDisk (session.disk.makeDirectory path)
  write path text :=
    modifyGet fun session =>
      session.withDisk (session.disk.write path text.toUTF8)
  log event := modify fun session => session.record (.logged event)
  print text := modify fun session => session.record (.printed text)
  readLine := modifyGet nextLine

/- The events of the log, in order. -/
def events (session : Session) : List Event :=
  session.transcript.filterMap fun shown =>
    match shown with
    | .logged event => some event
    | .printed _ => none

/-
  What stands on the terminal, with the events that a log
  down to some level holds.
-/
def output
    (limit : Level)
    (session : Session) : String :=
  String.join
    (session.transcript.map fun shown =>
      match shown with
      | .printed text => text
      | .logged event =>
          if limit.admits event.level then
            event.line ++ "\n"
          else
            "")

end Session

end ShaderBindings
