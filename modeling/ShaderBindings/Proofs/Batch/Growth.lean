import ShaderBindings.Program
import ShaderBindings.Proofs.Disk.Growth

/-
  What the parts of the command do to the disk of a session.
  Apart from writing an output file, every part keeps all the
  entries that are there.

  Key definitions include:
    * `Session.Grows`

  Key theorems include:
    * `Session.grows_createDirectories`
    * `Session.grows_readSource`
    * `Session.grows_collectPairs`
    * `Session.grows_promptPath`
-/

------------------------------------------------------------
-- Programs That Keep Entries
------------------------------------------------------------

namespace ShaderBindings

open Workspace

namespace Session

/- A program keeps every entry of the disk it is run on. -/
def Grows
    {α : Type}
    (program : StateM Session α) : Prop :=
  ∀ session,
    Disk.Keeps [] session.disk (program.run session).2.disk

namespace Grows

variable {α β : Type}

theorem pure (value : α) :
    Grows (Pure.pure value : StateM Session α) := by
  intro session
  exact Disk.Keeps.refl session.disk

theorem bind
    {program : StateM Session α}
    {next : α → StateM Session β}
    (hFirst : Grows program)
    (hNext : ∀ value, Grows (next value)) :
    Grows (program >>= next) := by
  intro session
  exact (hFirst session).trans
    (hNext (program.run session).1 (program.run session).2)

end Grows

theorem grows_isFile (path : Path) :
    Grows (isFile path : StateM Session Bool) := by
  intro session
  exact Disk.Keeps.refl session.disk

theorem grows_isDirectory (path : Path) :
    Grows (isDirectory path : StateM Session Bool) := by
  intro session
  exact Disk.Keeps.refl session.disk

theorem grows_read (path : Path) :
    Grows (read path : StateM Session _) := by
  intro session
  exact Disk.Keeps.refl session.disk

theorem grows_list (path : Path) :
    Grows (list path : StateM Session _) := by
  intro session
  exact Disk.Keeps.refl session.disk

theorem grows_log (event : Event) :
    Grows (log event : StateM Session Unit) := by
  intro session
  exact Disk.Keeps.refl session.disk

theorem grows_print (text : String) :
    Grows (print text : StateM Session Unit) := by
  intro session
  exact Disk.Keeps.refl session.disk

theorem grows_readLine :
    Grows (readLine : StateM Session String) := by
  intro session
  exact Disk.Keeps.refl session.disk

theorem grows_makeDirectory (path : Path) :
    Grows (makeDirectory path : StateM Session _) := by
  intro session
  change Disk.Keeps [] session.disk
    (session.withDisk
      (session.disk.makeDirectory path)).2.disk
  cases hMade : session.disk.makeDirectory path with
  | error fault => exact Disk.Keeps.refl session.disk
  | ok disk => exact Disk.keeps_of_makeDirectory hMade

end Session

end ShaderBindings

------------------------------------------------------------
-- Reading, Logging and Making Directories
------------------------------------------------------------

namespace ShaderBindings

open Workspace

namespace Session

theorem grows_readText (path : Path) :
    Grows (readText path : StateM Session _) := by
  apply Grows.bind (grows_read path)
  rintro (fault | content)
  · exact Grows.pure _
  · dsimp only
    split
    · exact Grows.pure _
    · exact Grows.pure _

theorem grows_logAll (events : List Event) :
    Grows (logAll events : StateM Session Unit) := by
  induction events with
  | nil => exact Grows.pure ()
  | cons event rest ih =>
      exact Grows.bind (grows_log event) fun _ => ih

/- A fault is settled without a change. -/
theorem grows_settle
    (path : Path)
    (fault : FileFault) :
    Grows (do
      if ← isDirectory path then
        return .ok ()
      else
        return .error fault :
      StateM Session (Except FileFault Unit)) := by
  apply Grows.bind (grows_isDirectory path)
  intro found
  split
  · exact Grows.pure _
  · exact Grows.pure _

theorem grows_createInside (paths : List Path) :
    Grows (createInside paths : StateM Session _) := by
  induction paths with
  | nil => exact Grows.pure _
  | cons path above ih =>
      unfold createInside
      split
      · exact Grows.pure _
      · apply Grows.bind (grows_makeDirectory path)
        intro made
        split
        · exact Grows.pure _
        · apply Grows.bind ih
          intro created
          split
          · exact Grows.pure _
          · apply Grows.bind (grows_makeDirectory path)
            intro retried
            split
            · exact Grows.pure _
            · exact grows_settle path _
        · exact grows_settle path _

/- Making a directory with those above it keeps all entries. -/
theorem grows_createDirectories (path : Path) :
    Grows (createDirectories path : StateM Session _) :=
  grows_createInside path.ancestors

/- Reading a pair keeps all entries. -/
theorem grows_readSource (pair : ShaderPair) :
    Grows (pair.readSource : StateM Session _) := by
  apply Grows.bind (grows_readText pair.primary)
  rintro (fault | primary)
  · exact Grows.pure _
  · apply Grows.bind (grows_isFile pair.partner)
    intro found
    split
    · apply Grows.bind (grows_readText pair.partner)
      rintro (fault | partner)
      · exact Grows.pure _
      · exact Grows.pure _
    · exact Grows.pure _

end Session

end ShaderBindings

------------------------------------------------------------
-- Collecting Pairs
------------------------------------------------------------

namespace ShaderBindings

open Workspace

namespace Session

theorem grows_regularFiles (paths : List Path) :
    Grows (regularFiles paths : StateM Session _) := by
  induction paths with
  | nil => exact Grows.pure _
  | cons path rest ih =>
      apply Grows.bind (grows_isFile path)
      intro regular
      apply Grows.bind ih
      intro others
      exact Grows.pure _

theorem grows_discover (directory : Path) :
    Grows (discover directory : StateM Session _) := by
  apply Grows.bind (grows_list directory)
  rintro (fault | names)
  · exact Grows.pure _
  · apply Grows.bind (grows_regularFiles _)
    intro files
    split
    · exact Grows.pure _
    · apply Grows.bind (grows_log _)
      intro _
      exact Grows.pure _

theorem grows_pairsAt (path : Path) :
    Grows (pairsAt path : StateM Session _) := by
  apply Grows.bind (grows_isDirectory path)
  intro found
  split
  · exact grows_discover path
  · split
    · exact Grows.pure _
    · exact Grows.pure _

/- Collecting pairs keeps all entries. -/
theorem grows_collectPairs (paths : List Path) :
    Grows (collectPairs paths : StateM Session _) := by
  induction paths with
  | nil => exact Grows.pure _
  | cons path rest ih =>
      apply Grows.bind (grows_pairsAt path)
      rintro (failure | pairs)
      · apply Grows.bind (grows_log _)
        intro _
        apply Grows.bind ih
        intro others
        exact Grows.pure _
      · apply Grows.bind ih
        intro others
        exact Grows.pure _

/- Asking for a path keeps all entries. -/
theorem grows_promptPath :
    Grows (promptPath : StateM Session _) := by
  apply Grows.bind (grows_print _)
  intro _
  apply Grows.bind grows_readLine
  intro line
  exact Grows.pure _

end Session

end ShaderBindings
