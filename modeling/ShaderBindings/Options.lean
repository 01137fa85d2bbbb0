import ShaderBindings.Binding
import ShaderBindings.Path
import ShaderBindings.Text.Blank

/-
  The options of the command.

  Key definitions include:
    * `Config`
    * `Command`
    * `UsageError`
    * `UsageError.message`
    * `cleanPath`
    * `Command.parseFrom`
    * `Command.parse`
-/

------------------------------------------------------------
-- Configurations
------------------------------------------------------------

namespace ShaderBindings

/- What the command is asked to do with which files. -/
structure Config where
  paths : List Path
  outDir : Option Path
  strict : Bool
  names : BindingOptions
deriving DecidableEq, Repr

namespace Config

/- The configuration without any options. -/
def standard : Config where
  paths := []
  outDir := none
  strict := false
  names := .standard

end Config

/- What the command is asked for. -/
inductive Command where
| help
| run (config : Config)
deriving DecidableEq, Repr

end ShaderBindings

------------------------------------------------------------
-- Usage
------------------------------------------------------------

namespace ShaderBindings

/- How the command is used. -/
def usage : String :=
  String.intercalate "\n" [
    "usage: glint-gen [--strict] [--out-dir DIR] " ++
      "[--module NAME] [--runtime PATH] [PATH...]",
    "",
    "Generates Rust bindings for GLSL .vert/.frag pairs. " ++
      "Each PATH is a shader",
    "file (its partner is picked up automatically) or a " ++
      "directory of shaders.",
    "Without a PATH the shader path is read from stdin.",
    "",
    "  --strict         reject duplicate uniforms/locations " ++
      "and unsized attribute types",
    "  --out-dir DIR    write bindings to DIR instead of " ++
      "next to the shaders",
    "  --module NAME    module wrapping the generated type " ++
      "(default: shaders)",
    "  --runtime PATH   crate providing the binding prelude " ++
      "(default: glint_lib)",
    "  -h, --help       print this message",
    "",
    "Log verbosity follows RUST_LOG (default: info)."]

/- Why arguments make no sense. -/
inductive UsageError where
| missingDirectory
| missingName
| missingCratePath
| unknownOption (option : String)
deriving DecidableEq, Repr

namespace UsageError

/- The error in words. -/
def message : UsageError → String
| .missingDirectory => "--out-dir expects a directory"
| .missingName => "--module expects a name"
| .missingCratePath => "--runtime expects a crate path"
| .unknownOption option =>
    "unknown option " ++ option ++ "\n\n" ++ usage

end UsageError

end ShaderBindings

------------------------------------------------------------
-- Arguments
------------------------------------------------------------

namespace ShaderBindings

/-
  A path as it is typed or pasted, without white space at
  its ends and without double quotes.
-/
def cleanPath (typed : String) : Path :=
  Path.ofChars
    ((Text.trimBlank typed.toList).filter fun c =>
      c != '\x22')

/- The argument looks like a long option. -/
def isOption (argument : String) : Bool :=
  ['-', '-'].isPrefixOf argument.toList

namespace Command

/- Read arguments on top of a configuration. -/
def parseFrom
    (config : Config) :
    List String → Except UsageError Command
| [] => .ok (.run config)
| argument :: rest =>
    if argument = "-h" ∨ argument = "--help" then
      .ok .help
    else if argument = "--strict" then
      parseFrom { config with strict := true } rest
    else if argument = "--out-dir" then
      match rest with
      | [] => .error .missingDirectory
      | value :: rest =>
          parseFrom { config with outDir := some ⟨value⟩ } rest
    else if argument = "--module" then
      match rest with
      | [] => .error .missingName
      | value :: rest =>
          parseFrom
            { config with
              names := { config.names with module := value } }
            rest
    else if argument = "--runtime" then
      match rest with
      | [] => .error .missingCratePath
      | value :: rest =>
          parseFrom
            { config with
              names := { config.names with runtime := value } }
            rest
    else if isOption argument then
      .error (.unknownOption argument)
    else
      parseFrom
        { config with
          paths := config.paths ++ [cleanPath argument] }
        rest

/- Read the arguments of the command. -/
def parse (arguments : List String) :
    Except UsageError Command :=
  parseFrom .standard arguments

end Command

end ShaderBindings
