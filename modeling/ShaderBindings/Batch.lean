import ShaderBindings.Generation
import ShaderBindings.Options
import ShaderBindings.ShaderPair
import ShaderBindings.Workspace

/-
  A batch of shaders: the pairs that paths lead to, and the
  generation of one pair after the other. A path or a pair
  that fails is logged and does not stop the others.

  Key definitions include:
    * `ShaderPair.readSource`
    * `discover`
    * `Collected`
    * `collectPairs`
    * `process`
    * `processAll`
-/

------------------------------------------------------------
-- Reading Pairs
------------------------------------------------------------

namespace ShaderBindings

variable {m : Type → Type}
variable [Monad m] [Workspace m]

open Workspace

/- The text of the primary file followed by its partner's. -/
def ShaderPair.readSource (pair : ShaderPair) :
    m (Except Failure String) := do
  match ← readText pair.primary with
  | .error fault => return .error (.reading pair.primary fault)
  | .ok primary =>
      if ← isFile pair.partner then
        match ← readText pair.partner with
        | .error fault =>
            return .error (.reading pair.partner fault)
        | .ok partner => return .ok (primary ++ partner)
      else
        return .error
          (.pair (.missingPartner pair.primary pair.partner))

/- Those of the paths that lead to regular files. -/
def regularFiles : List Path → m (List Path)
| [] => return []
| path :: rest => do
    let regular ← isFile path
    let others ← regularFiles rest
    return if regular then path :: others else others

/- The pairs of a directory, in the order of their stems. -/
def discover (directory : Path) :
    m (Except Failure (List ShaderPair)) := do
  match ← list directory with
  | .error fault =>
      return .error (.readingDirectory directory fault)
  | .ok names =>
      let files ← regularFiles
        (names.map fun name => directory.join ⟨name⟩)
      match ShaderPair.amongFiles files with
      | .error error => return .error (.pair error)
      | .ok pairs =>
          log (.directoryRead directory pairs.length)
          return .ok pairs

end ShaderBindings

------------------------------------------------------------
-- Collecting Pairs
------------------------------------------------------------

namespace ShaderBindings

variable {m : Type → Type}
variable [Monad m] [Workspace m]

open Workspace

/- The pairs of a batch, and how many paths led to none. -/
structure Collected where
  pairs : List ShaderPair
  failed : Nat
deriving DecidableEq, Repr

/- The pairs that one path leads to. -/
def pairsAt (path : Path) :
    m (Except Failure (List ShaderPair)) := do
  if ← isDirectory path then
    discover path
  else
    match ShaderPair.ofFile path with
    | .ok pair => return .ok [pair]
    | .error error => return .error (.pair error)

/- The pairs that paths lead to, in the order of the paths. -/
def collectPairs : List Path → m Collected
| [] => return { pairs := [], failed := 0 }
| path :: rest => do
    match ← pairsAt path with
    | .ok pairs =>
        let others ← collectPairs rest
        return { others with pairs := pairs ++ others.pairs }
    | .error failure =>
        log (.pathFailed path failure)
        let others ← collectPairs rest
        return { others with failed := others.failed + 1 }

end ShaderBindings

------------------------------------------------------------
-- Processing Pairs
------------------------------------------------------------

namespace ShaderBindings

variable {m : Type → Type}
variable [Monad m] [Workspace m]

open Workspace

namespace Config

/- How bindings are generated under a configuration. -/
def generation (config : Config) : GenerationOptions where
  strict := config.strict
  names := config.names

end Config

/- Write a file, with the directories above it. -/
def writeOutput
    (path : Path)
    (text : String) : m (Except Failure Unit) := do
  let directory := path.parent?.getD ⟨""⟩
  let created ←
    if directory.isEmpty then
      pure (.ok ())
    else
      createDirectories directory
  match created with
  | .error fault => return .error (.creating directory fault)
  | .ok () =>
      match ← write path text with
      | .error fault => return .error (.writing path fault)
      | .ok () => return .ok ()

/-
  Read a pair, generate its binding and write it. Nothing is
  written unless both files are read and the binding is
  generated.
-/
def process
    (config : Config)
    (pair : ShaderPair) : m (Except Failure Path) := do
  match ← pair.readSource with
  | .error failure => return .error failure
  | .ok source =>
      let made :=
        generate config.generation pair.baseName source
      logAll made.events
      match made.result with
      | .error error =>
          return .error (.generating pair.primary error)
      | .ok generated =>
          let output :=
            pair.outputPath generated.fileName config.outDir
          match ← writeOutput output generated.source with
          | .error failure => return .error failure
          | .ok () => return .ok output

/- Process pairs in order, and count those that fail. -/
def processAll
    (config : Config) :
    List ShaderPair → m Nat
| [] => return 0
| pair :: rest => do
    match ← process config pair with
    | .ok output =>
        log (.bindingsWritten pair.baseName output)
        processAll config rest
    | .error failure =>
        log (.pairFailed pair.baseName failure)
        let failed ← processAll config rest
        return failed + 1

end ShaderBindings
