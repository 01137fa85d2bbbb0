import ShaderBindings.Batch

/-
  The whole command, from its arguments to how it ends.

  Key definitions include:
    * `ProgramError`
    * `Outcome`
    * `Outcome.exitCode`
    * `Outcome.complaint`
    * `promptPath`
    * `runBatch`
    * `run`
-/

------------------------------------------------------------
-- Outcomes
------------------------------------------------------------

namespace ShaderBindings

/- Why the command ends in failure. -/
inductive ProgramError where
| usage (error : UsageError)
| inputsFailed (failed : Nat) (total : Nat)
deriving DecidableEq, Repr

namespace ProgramError

/- The error in words. -/
def message : ProgramError → String
| .usage error => error.message
| .inputsFailed failed total =>
    toString failed ++ " of " ++ toString total ++
      " shader inputs failed"

end ProgramError

/- How the command ends. -/
abbrev Outcome :=
  Except ProgramError Unit

namespace Outcome

/- The exit code, which is not zero after a failure. -/
def exitCode : Outcome → Nat
| .ok () => 0
| .error _ => 1

/- What is written to the error output. -/
def complaint : Outcome → String
| .ok () => ""
| .error error => "Error: " ++ error.message ++ "\n"

end Outcome

end ShaderBindings

------------------------------------------------------------
-- Running
------------------------------------------------------------

namespace ShaderBindings

variable {m : Type → Type}
variable [Monad m] [Workspace m]

open Workspace

/-
  The log holds events down to this level, and no others are
  shown.
-/
def logLevel : Level :=
  .info

/- Ask for the path of a shader. There may be no answer. -/
def promptPath : m (Option Path) := do
  print "shader path : "
  let path := cleanPath (← readLine)
  return if path.isEmpty then none else some path

/- Process all the pairs that paths lead to. -/
def runBatch
    (config : Config)
    (paths : List Path) : m Outcome := do
  let collected ← collectPairs paths
  let unprocessed ← processAll config collected.pairs
  let failed := collected.failed + unprocessed
  let total := collected.pairs.length + collected.failed
  if failed = 0 then
    return .ok ()
  else
    return .error (.inputsFailed failed total)

/-
  Run the command. Without a path among the arguments one is
  asked for.
-/
def run (arguments : List String) : m Outcome := do
  match Command.parse arguments with
  | .error error => return .error (.usage error)
  | .ok .help => do
      print (usage ++ "\n")
      return .ok ()
  | .ok (.run config) =>
      if config.paths.isEmpty then
        match ← promptPath with
        | some path => runBatch config [path]
        | none => return .ok ()
      else
        runBatch config config.paths

end ShaderBindings
