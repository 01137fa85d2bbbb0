import ShaderBindings.Proofs.Path.Ending

/-
  The components of a path, by which two paths are compared:
  the root or a dot at its start, and then a component for
  each name. Repeated slashes, slashes at the end and later
  dots make no difference.

  Key definitions include:
    * `Component`
    * `Path.components`

  Key theorems include:
    * `Path.EndsIn.components`
-/

------------------------------------------------------------
-- Components
------------------------------------------------------------

namespace ShaderBindings

/- A component of a path. -/
inductive Component where
| root
| here
| above
| named (name : String)
deriving DecidableEq, Repr

/- The component of a piece between slashes. -/
def Component.ofName (name : String) : Component :=
  if name = ".." then .above else .named name

namespace Path

/- The component of the start of a path, if it counts. -/
def leadComponents : List Char → List Component
| ['/'] => [.root]
| ['.'] => [.here]
| _ => []

/- The components of a path, from its start to its end. -/
def components (path : Path) : List Component :=
  let (start, body) := lead path.chars
  leadComponents start ++ (names body).map Component.ofName

/- Slashes and dots count at the start of a path only. -/
example :
    components ⟨"./a//./b/../"⟩ =
      [.here, .named "a", .named "b", .above] := by
  decide

end Path

end ShaderBindings

------------------------------------------------------------
-- Last Components
------------------------------------------------------------

namespace ShaderBindings

namespace Path

variable {before piece trail : List Char}
variable {path : Path}

/- A trail adds no name. -/
theorem IsTrail.names_append
    (hTrail : IsTrail trail)
    (cs : List Char) :
    names (cs ++ trail) = names cs := by
  induction hTrail with
  | nil => rw [List.append_nil]
  | @slash trail hTrail ih =>
      rw [← List.append_assoc, names_append_singleton_slash,
        ih]
  | @dot trail hTrail ih =>
      rw [← List.append_assoc, names_append_slash, names_dot,
        List.append_nil, ih]

/- A last piece is the last component, behind all others. -/
theorem EndsIn.components
    (hEnds : path.EndsIn before piece trail) :
    path.components =
      (ofChars before).components ++
        [Component.ofName (String.ofList piece)] := by
  have hNames :
      names ((lead before).2 ++ piece ++ trail) =
        names (lead before).2 ++ [String.ofList piece] := by
    rw [hEnds.isTrail.names_append,
      Path.names_append (isOpen_lead hEnds.isOpen)
        hEnds.isName]
  unfold Path.components
  rw [hEnds.lead_eq, chars_ofChars]
  dsimp only
  rw [hNames, List.map_append, List.append_assoc]
  rfl

end Path

end ShaderBindings
