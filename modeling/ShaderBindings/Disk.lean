import ShaderBindings.Failure

/-
  A tree of regular files and directories, with a working
  directory. Entries are found by their location, the names
  on the way from the root to them.

  Key definitions include:
    * `Location`
    * `Entry`
    * `Disk`
    * `Disk.entry?`
    * `Disk.insert`
    * `Disk.remove`
    * `Disk.locate`
    * `Disk.read`
    * `Disk.list`
    * `Disk.makeDirectory`
    * `Disk.write`
    * `Disk.ofFiles`
-/

------------------------------------------------------------
-- Entries
------------------------------------------------------------

namespace ShaderBindings

/- The names on the way from the root to an entry. -/
abbrev Location :=
  List String

/- What can stand at a location. -/
inductive Entry where
| file (content : ByteArray)
| directory

/- Files are the same when they hold the same bytes. -/
instance : DecidableEq Entry
| .file content, .file other =>
    decidable_of_iff (content.data = other.data) (by
      rw [Entry.file.injEq, ByteArray.ext_iff])
| .file _, .directory => isFalse (by simp)
| .directory, .file _ => isFalse (by simp)
| .directory, .directory => isTrue rfl

/-
  A tree of entries. The root is always a directory and is
  not listed. Relative paths start at `home`.
-/
structure Disk where
  entries : List (Location × Entry)
  home : Location

namespace Disk

/- The entry at a location. -/
def entry?
    (disk : Disk)
    (location : Location) : Option Entry :=
  if location.isEmpty then
    some .directory
  else
    disk.entries.lookup location

/- Put an entry at a location, in place of an older one. -/
def insert
    (disk : Disk)
    (location : Location)
    (entry : Entry) : Disk :=
  { disk with
    entries :=
      disk.entries.filter (fun item => item.1 != location) ++
        [(location, entry)] }

/- Remove an entry, with all entries below it. -/
def remove
    (disk : Disk)
    (location : Location) : Disk :=
  { disk with
    entries :=
      disk.entries.filter fun item =>
        !location.isPrefixOf item.1 }

/- The names of the entries directly below a location. -/
def children
    (disk : Disk)
    (location : Location) : List String :=
  disk.entries.filterMap fun item =>
    if item.1.dropLast = location then
      item.1.getLast?
    else
      none

end Disk

end ShaderBindings

------------------------------------------------------------
-- Locating Paths
------------------------------------------------------------

namespace ShaderBindings

namespace Disk

/- Names are at most this many bytes long. -/
def longestName : Nat :=
  255

/- Paths are shorter than this many bytes. -/
def longestPath : Nat :=
  4096

/-
  Walk from a location. A step is taken from a directory
  only; a step to a name need not find anything there.
-/
def walk
    (disk : Disk)
    (here : Location) :
    List String → Except FileFault Location
| [] => .ok here
| name :: rest =>
    match disk.entry? here with
    | none => .error .notFound
    | some (.file _) => .error .notDirectory
    | some .directory =>
        if name = "." then
          disk.walk here rest
        else if name = ".." then
          disk.walk here.dropLast rest
        else if longestName < name.utf8ByteSize then
          .error .nameTooLong
        else
          disk.walk (here ++ [name]) rest

/- The location that a path leads to. -/
def locate
    (disk : Disk)
    (path : Path) : Except FileFault Location :=
  if path.chars.contains '\x00' then
    .error .nullInName
  else if path.isEmpty then
    .error .notFound
  else if longestPath ≤ path.text.utf8ByteSize then
    .error .nameTooLong
  else
    disk.walk (if path.isAbsolute then [] else disk.home)
      path.steps

/- The entry that a path leads to. -/
def find
    (disk : Disk)
    (path : Path) : Except FileFault Entry := do
  let location ← disk.locate path
  match disk.entry? location with
  | some entry => .ok entry
  | none => .error .notFound

/- A path leads to a regular file. -/
def isFile
    (disk : Disk)
    (path : Path) : Bool :=
  match disk.find path with
  | .ok (.file _) => true
  | _ => false

/- A path leads to a directory. -/
def isDirectory
    (disk : Disk)
    (path : Path) : Bool :=
  match disk.find path with
  | .ok .directory => true
  | _ => false

end Disk

end ShaderBindings

------------------------------------------------------------
-- Reading and Writing
------------------------------------------------------------

namespace ShaderBindings

namespace Disk

/- The content of the file at a path. -/
def read
    (disk : Disk)
    (path : Path) : Except FileFault ByteArray := do
  match ← disk.find path with
  | .file content => .ok content
  | .directory => .error .isDirectory

/- The names in the directory at a path. -/
def list
    (disk : Disk)
    (path : Path) : Except FileFault (List String) := do
  let location ← disk.locate path
  match disk.entry? location with
  | none => .error .notFound
  | some (.file _) => .error .notDirectory
  | some .directory => .ok (disk.children location)

/- Make a directory where nothing is yet. -/
def makeDirectory
    (disk : Disk)
    (path : Path) : Except FileFault Disk := do
  let location ← disk.locate path
  match disk.entry? location with
  | some _ => .error .exists
  | none => .ok (disk.insert location .directory)

/- Write a file, in place of an older file. -/
def write
    (disk : Disk)
    (path : Path)
    (content : ByteArray) : Except FileFault Disk := do
  let location ← disk.locate path
  match disk.entry? location with
  | some .directory => .error .isDirectory
  | _ => .ok (disk.insert location (.file content))

end Disk

end ShaderBindings

------------------------------------------------------------
-- Making a Disk
------------------------------------------------------------

namespace ShaderBindings

namespace Disk

/- Put a directory at a location where nothing is. -/
def openAt
    (disk : Disk)
    (location : Location) : Disk :=
  match disk.entry? location with
  | some _ => disk
  | none => disk.insert location .directory

/-
  Put an entry where steps from a location lead to, with the
  directories on the way.
-/
def plantFrom
    (disk : Disk)
    (here : Location)
    (entry : Entry) :
    List String → Disk
| [] => disk
| name :: rest =>
    if name = "." then
      disk.plantFrom here entry rest
    else if name = ".." then
      disk.plantFrom here.dropLast entry rest
    else
      let there := here ++ [name]
      if rest.isEmpty then
        disk.insert there entry
      else
        (disk.openAt there).plantFrom there entry rest

/-
  Put an entry where a path leads to, with the directories
  on the way.
-/
def plant
    (disk : Disk)
    (path : Path)
    (entry : Entry) : Disk :=
  disk.plantFrom disk.home entry path.steps

/- Remove what a path leads to. -/
def uproot
    (disk : Disk)
    (path : Path) : Disk :=
  match disk.locate path with
  | .ok location => disk.remove location
  | .error _ => disk

/- A disk that holds entries below its working directory. -/
def ofFiles
    (home : Location)
    (files : List (Path × Entry)) : Disk :=
  let root : Disk := { entries := [], home := [] }
  let empty := root.plantFrom [] .directory home
  files.foldl (fun disk item => disk.plant item.1 item.2)
    { empty with home }

/-
  The files below the working directory, by their paths from
  there.
-/
def filesBelowHome (disk : Disk) :
    List (Path × ByteArray) :=
  disk.entries.filterMap fun item =>
    match item.2 with
    | .file content =>
        if disk.home.isPrefixOf item.1 then
          some
            (⟨String.intercalate "/"
                (item.1.drop disk.home.length)⟩,
              content)
        else
          none
    | .directory => none

end Disk

end ShaderBindings
