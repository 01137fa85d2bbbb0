import ShaderBindings.Disk

/-
  Where paths lead to. When everything on the way is a
  directory, a path leads to a location that depends on its
  steps only. A file name behind the path of a directory
  leads to the entry of that name right below the directory.

  Key definitions include:
    * `Location.step`
    * `Path.destination`
    * `Path.IsPlainName`

  Key theorems include:
    * `Path.destination_join`
-/

------------------------------------------------------------
-- Destinations
------------------------------------------------------------

namespace ShaderBindings

/- The location after one step. -/
def Location.step
    (here : Location)
    (name : String) : Location :=
  if name = "." then
    here
  else if name = ".." then
    here.dropLast
  else
    here ++ [name]

namespace Path

/-
  The location that a path leads to from a working directory,
  as far as its text tells.
-/
def destination
    (home : Location)
    (path : Path) : Location :=
  path.steps.foldl Location.step
    (if path.isAbsolute then [] else home)

/- A name that stands for an entry below a directory. -/
structure IsPlainName (name : String) : Prop where
  nonempty : name.toList ≠ []
  unslashed : '/' ∉ name.toList
  not_here : name ≠ "."
  not_above : name ≠ ".."

/- A plain name leads to an entry right below. -/
theorem IsPlainName.step
    {name : String}
    (hName : IsPlainName name)
    (here : Location) :
    here.step name = here ++ [name] := by
  rw [Location.step, if_neg hName.not_here,
    if_neg hName.not_above]

end Path

end ShaderBindings

------------------------------------------------------------
-- Pieces between Slashes
------------------------------------------------------------

namespace ShaderBindings

namespace Path

/- A text without slashes is a single piece. -/
theorem splitSlashes_of_unslashed
    {cs : List Char}
    (hUnslashed : '/' ∉ cs) :
    splitSlashes cs = [cs] := by
  induction cs with
  | nil => rfl
  | cons c rest ih =>
      have hHead : c ≠ '/' := by
        rintro rfl
        exact hUnslashed List.mem_cons_self
      rw [splitSlashes, if_neg hHead,
        ih fun hRest =>
          hUnslashed (List.mem_cons_of_mem c hRest)]

/- There is always a piece. -/
theorem splitSlashes_ne_nil (cs : List Char) :
    splitSlashes cs ≠ [] := by
  cases cs with
  | nil => simp [splitSlashes]
  | cons c rest =>
      rw [splitSlashes]
      split
      · simp
      · split
        · simp
        · simp

/- A slash parts the pieces before it from those behind it. -/
theorem splitSlashes_append_slash
    (before behind : List Char) :
    splitSlashes (before ++ '/' :: behind) =
      splitSlashes before ++ splitSlashes behind := by
  induction before with
  | nil => simp [splitSlashes]
  | cons c rest ih =>
      by_cases hSlash : c = '/'
      · simp [splitSlashes, hSlash, ih]
      · rw [List.cons_append, splitSlashes, if_neg hSlash,
          splitSlashes, if_neg hSlash, ih]
        cases hRest : splitSlashes rest with
        | nil => exact absurd hRest (splitSlashes_ne_nil rest)
        | cons piece pieces => rfl

/- The pieces of a text that count as steps. -/
def pieces (cs : List Char) : List String :=
  ((splitSlashes cs).filter fun piece => piece ≠ []).map
    String.ofList

theorem pieces_append_slash
    (before behind : List Char) :
    pieces (before ++ '/' :: behind) =
      pieces before ++ pieces behind := by
  rw [pieces, splitSlashes_append_slash, List.filter_append,
    List.map_append]
  rfl

theorem IsPlainName.pieces
    {name : String}
    (hName : IsPlainName name) :
    Path.pieces name.toList = [name] := by
  rw [Path.pieces, splitSlashes_of_unslashed hName.unslashed]
  simp [hName.nonempty]

/- The step behind a slash at the end stays where it is. -/
theorem foldl_steps
    (path : Path)
    (here : Location) :
    path.steps.foldl Location.step here =
      (pieces path.chars).foldl Location.step here := by
  change
    (pieces path.chars ++
      (if path.chars.getLast? = some '/' then
        ["."]
      else
        [])).foldl Location.step here = _
  rw [List.foldl_append]
  split
  · rfl
  · rfl

end Path

end ShaderBindings

------------------------------------------------------------
-- Names behind Directories
------------------------------------------------------------

namespace ShaderBindings

namespace Path

variable {name : String}

/- A plain name does not start at the root. -/
theorem IsPlainName.isAbsolute
    (hName : IsPlainName name) :
    isAbsolute ⟨name⟩ = false := by
  have hHead : name.toList.head? ≠ some '/' := by
    intro hSlash
    exact hName.unslashed (List.mem_of_head? hSlash)
  simpa [Path.isAbsolute, chars] using hHead

/- The pieces of a joined path end with the name. -/
theorem pieces_join
    (hName : IsPlainName name)
    (path : Path) :
    pieces (path.join ⟨name⟩).chars =
      pieces path.chars ++ [name] := by
  rw [join, hName.isAbsolute]
  simp only [Bool.false_eq_true, if_false]
  split
  · rename_i hOpen
    rcases hOpen with hEmpty | hSlash
    · have hChars : path.chars = [] := by
        simpa [isEmpty, chars] using hEmpty
      rw [hChars]
      simp only [ofChars, chars, String.toList_ofList]
      exact hName.pieces
    · rcases List.getLast?_eq_some_iff.mp hSlash with
        ⟨before, hBefore⟩
      have hLast :
          pieces path.chars = pieces before := by
        rw [hBefore, pieces_append_slash]
        exact List.append_nil _
      rw [hLast, hBefore]
      simp only [ofChars, chars, String.toList_ofList,
        List.append_assoc, List.singleton_append]
      rw [pieces_append_slash, hName.pieces]
  · simp only [ofChars, chars, String.toList_ofList]
    rw [pieces_append_slash, hName.pieces]

/- A name behind a path starts where the path starts. -/
theorem isAbsolute_join
    (hName : IsPlainName name)
    (path : Path) :
    (path.join ⟨name⟩).isAbsolute = path.isAbsolute := by
  rw [join, hName.isAbsolute]
  simp only [Bool.false_eq_true, if_false]
  cases hChars : path.chars with
  | nil =>
      have hEmpty : path.isEmpty = true := by
        simpa [isEmpty, chars] using hChars
      rw [if_pos (Or.inl hEmpty)]
      have hPath : path.isAbsolute = false := by
        simp [isAbsolute, hChars]
      rw [hPath]
      simpa [isAbsolute, ofChars, chars] using
        hName.isAbsolute
  | cons first rest =>
      have hText : path.text.toList = first :: rest := hChars
      split
      · simp [isAbsolute, ofChars, chars, hText]
      · simp [isAbsolute, ofChars, chars, hText]

/-
  A plain name behind the path of a directory leads to the
  entry of that name right below the directory.
-/
theorem destination_join
    (hName : IsPlainName name)
    (home : Location)
    (path : Path) :
    (path.join ⟨name⟩).destination home =
      path.destination home ++ [name] := by
  rw [destination, destination, foldl_steps, foldl_steps,
    isAbsolute_join hName, pieces_join hName,
    List.foldl_append]
  exact hName.step _

end Path

end ShaderBindings
