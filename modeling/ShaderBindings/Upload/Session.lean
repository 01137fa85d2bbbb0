import ShaderBindings.Upload.Shader

/-
  A process that makes shaders and calls them. At most one
  backend is ever installed, and it is looked up at every
  call rather than when a shader is made.

  Key definitions include:
    * `InstallError`
    * `State`
    * `Step`
    * `Answer`
    * `State.step`
    * `State.run`
-/

------------------------------------------------------------
-- States and Steps
------------------------------------------------------------

namespace ShaderBindings

namespace Upload

variable {β : Type}

/- Why a backend cannot be installed. -/
inductive InstallError where
| alreadyInstalled
deriving DecidableEq, Repr

namespace InstallError

/- The error in words. -/
def message : InstallError → String
| .alreadyInstalled =>
    "a shader backend is already installed"

end InstallError

/- The installed backend, and the shaders by their keys. -/
structure State (β : Type) where
  installed : Option β
  shaders : List (String × Shader β)
deriving Repr

namespace State

/- Nothing is installed and there are no shaders. -/
def initial : State β where
  installed := none
  shaders := []

end State

/- A step of the process. -/
inductive Step (β : Type) where
| install (backend : β)
| isInstalled
| make (key : String) (shader : Shader β)
| call (key : String) (call : Call)
deriving Repr

/- What a step answers. -/
inductive Answer (β : Type) where
| done
| refused (error : InstallError)
| flag (value : Bool)
| made (shader : Shader β)
| delivered
    (received : List (Delivery β)) (dropped : List Payload)
    (program : String)
| unknownShader
deriving Repr

namespace State

/- Take one step. A shader replaces an older one of its key. -/
def step
    (state : State β) :
    Step β → State β × Answer β
| .install backend =>
    match state.installed with
    | some _ => (state, .refused .alreadyInstalled)
    | none => ({ state with installed := some backend }, .done)
| .isInstalled => (state, .flag state.installed.isSome)
| .make key shader =>
    ({ state with shaders := (key, shader) :: state.shaders },
      .made shader)
| .call key call =>
    match state.shaders.lookup key with
    | some shader =>
        (state,
          .delivered (shader.perform state.installed call)
            (shader.dropped state.installed call) shader.name)
    | none => (state, .unknownShader)

/- Take steps one after the other. -/
def run
    (state : State β) :
    List (Step β) → State β × List (Answer β)
| [] => (state, [])
| step :: rest =>
    let (next, answer) := state.step step
    let (final, answers) := next.run rest
    (final, answer :: answers)

end State

end Upload

end ShaderBindings
