import ShaderBindings.Program
import ShaderBindings.Proofs.Logged
import ShaderBindings.Proofs.ShaderPair.FileName

/-
  Where the pairs of a batch come from. However they are
  found, every pair is the pair of some file, so its base
  name is a stem.

  Key definitions include:
    * `ShaderPair.IsOfFile`
    * `Session.Yields`

  Key theorems include:
    * `Session.yields_collectPairs`
-/

------------------------------------------------------------
-- Results of Programs
------------------------------------------------------------

namespace ShaderBindings

namespace Session

/- Whatever session it is run in, a program yields such. -/
def Yields
    {α : Type}
    (property : α → Prop)
    (program : StateM Session α) : Prop :=
  ∀ session, property (program.run session).1

namespace Yields

variable {α β : Type}
variable {property : α → Prop}

theorem pure
    {value : α}
    (hValue : property value) :
    Yields property (Pure.pure value : StateM Session α) :=
  fun _ => hValue

/- The second program knows what the first one yields. -/
theorem bind
    {between : β → Prop}
    {program : StateM Session β}
    {next : β → StateM Session α}
    (hFirst : Yields between program)
    (hNext : ∀ value, between value →
      Yields property (next value)) :
    Yields property (program >>= next) :=
  fun session =>
    hNext _ (hFirst session) (program.run session).2

/- The first program may yield anything. -/
theorem bind_any
    {program : StateM Session β}
    {next : β → StateM Session α}
    (hNext : ∀ value, Yields property (next value)) :
    Yields property (program >>= next) :=
  fun session => hNext _ (program.run session).2

end Yields

end Session

end ShaderBindings

------------------------------------------------------------
-- Collected Pairs
------------------------------------------------------------

namespace ShaderBindings

open Session
open Workspace

/- The pair is the pair of some file. -/
def ShaderPair.IsOfFile (pair : ShaderPair) : Prop :=
  ∃ path, ofFile path = .ok pair

/- All pairs that are found are pairs of files. -/
def AllOfFiles :
    Except Failure (List ShaderPair) → Prop
| .ok pairs => ∀ pair ∈ pairs, pair.IsOfFile
| .error _ => True

theorem ShaderPair.isOfFile_of_mem_amongFiles
    {files : List Path}
    {pairs : List ShaderPair}
    (hPairs : amongFiles files = .ok pairs) :
    ∀ pair ∈ pairs, pair.IsOfFile := by
  intro pair hPair
  rcases exists_input_of_mapM_eq_ok hPairs hPair with
    ⟨item, _, hFile⟩
  exact ⟨item.2, hFile⟩

namespace Session

theorem yields_discover (directory : Path) :
    Yields AllOfFiles
      (discover directory : StateM Session _) := by
  apply Yields.bind_any
  rintro (fault | names)
  · exact Yields.pure trivial
  · apply Yields.bind_any
    intro files
    split
    · exact Yields.pure trivial
    · rename_i pairs hPairs
      apply Yields.bind_any
      intro _
      exact Yields.pure
        (ShaderPair.isOfFile_of_mem_amongFiles hPairs)

theorem yields_pairsAt (path : Path) :
    Yields AllOfFiles (pairsAt path : StateM Session _) := by
  apply Yields.bind_any
  intro found
  split
  · exact yields_discover path
  · split
    · rename_i pair hPair
      apply Yields.pure
      intro other hOther
      rw [List.mem_singleton.mp hOther]
      exact ⟨path, hPair⟩
    · exact Yields.pure trivial

/- All pairs that are collected are pairs of files. -/
theorem yields_collectPairs (paths : List Path) :
    Yields
      (fun collected =>
        ∀ pair ∈ collected.pairs, pair.IsOfFile)
      (collectPairs paths : StateM Session _) := by
  induction paths with
  | nil => exact Yields.pure (by simp)
  | cons path rest ih =>
      refine Yields.bind (yields_pairsAt path) ?_
      rintro (failure | pairs) hPairs
      · apply Yields.bind_any
        intro _
        refine Yields.bind ih ?_
        intro others hOthers
        exact Yields.pure hOthers
      · refine Yields.bind ih ?_
        intro others hOthers
        apply Yields.pure
        intro pair hPair
        rcases List.mem_append.mp hPair with hHere | hThere
        · exact hPairs pair hHere
        · exact hOthers pair hThere

end Session

end ShaderBindings
