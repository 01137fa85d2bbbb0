import ShaderBindings.Failure
import ShaderBindings.Text.Terminal
import ShaderBindings.Upload.Shader

/-
  What is logged. An event carries what happened; its level,
  its words, its fields and the part of the program that
  logs it are read off from it.

  Key definitions include:
    * `Level`
    * `Level.admits`
    * `FieldValue`
    * `Event`
    * `Event.level`
    * `Event.message`
    * `Event.fields`
    * `Event.line`
-/

------------------------------------------------------------
-- Levels
------------------------------------------------------------

namespace ShaderBindings

/- How severe an event is, most severe first. -/
inductive Level where
| error
| warn
| info
| debug
| trace
deriving DecidableEq, Repr

namespace Level

/- The place of a level, starting at the most severe one. -/
def rank : Level → Nat
| .error => 0
| .warn => 1
| .info => 2
| .debug => 3
| .trace => 4

/- A log down to one level holds events of another. -/
def admits
    (limit : Level)
    (level : Level) : Bool :=
  level.rank ≤ limit.rank

/- The name of a level. -/
def name : Level → String
| .error => "ERROR"
| .warn => "WARN"
| .info => "INFO"
| .debug => "DEBUG"
| .trace => "TRACE"

end Level

end ShaderBindings

------------------------------------------------------------
-- Events
------------------------------------------------------------

namespace ShaderBindings

/-
  The value of a field: a text that is quoted in the log, a
  text that is shown as it is, a number or a truth value.
-/
inductive FieldValue where
| text (value : String)
| shown (value : String)
| number (value : Nat)
| flag (value : Bool)
deriving DecidableEq, Repr

namespace FieldValue

/- The value as it is written in the log. -/
def written : FieldValue → String
| .text value => Text.quoted value
| .shown value => value
| .number value => toString value
| .flag value => if value then "true" else "false"

end FieldValue

/- Everything that is logged. -/
inductive Event where
| uniformFound (declared : Uniform)
| attributeFound (declared : Attribute)
| scanned (uniforms : Nat) (attributes : Nat)
| nothingDeclared (shader : String)
| uniformRepeated (shader : String) (declared : Uniform)
| locationReused
    (shader : String) (previous : String)
    (declared : Attribute)
| typeUnmapped (shader : String) (declared : Attribute)
| methodsClash (className : String) (clash : MethodClash)
| payloadDropped
    (program : String) (payload : Upload.Payload)
| directoryRead (directory : Path) (pairs : Nat)
| pathFailed (path : Path) (failure : Failure)
| pairFailed (shader : String) (failure : Failure)
| bindingsWritten (shader : String) (output : Path)
deriving DecidableEq, Repr

namespace Event

/- How severe an event is. -/
def level : Event → Level
| .uniformFound _ => .debug
| .attributeFound _ => .debug
| .scanned _ _ => .debug
| .nothingDeclared _ => .info
| .uniformRepeated _ _ => .warn
| .locationReused _ _ _ => .warn
| .typeUnmapped _ _ => .warn
| .methodsClash _ _ => .warn
| .payloadDropped _ _ => .trace
| .directoryRead _ _ => .debug
| .pathFailed _ _ => .error
| .pairFailed _ _ => .error
| .bindingsWritten _ _ => .info

/- The part of the program that logs an event. -/
def target : Event → String
| .uniformFound _ => "glint_shader::parser"
| .attributeFound _ => "glint_shader::parser"
| .scanned _ _ => "glint_shader::parser"
| .nothingDeclared _ => "glint_shader"
| .uniformRepeated _ _ => "glint_shader::schema"
| .locationReused _ _ _ => "glint_shader::schema"
| .typeUnmapped _ _ => "glint_shader::schema"
| .methodsClash _ _ => "glint_shader::gen"
| .payloadDropped _ _ => "glint_lib::shader"
| .directoryRead _ _ => "glint_gen::pair"
| .pathFailed _ _ => "glint_gen"
| .pairFailed _ _ => "glint_gen"
| .bindingsWritten _ _ => "glint_gen"

/- An event in words. -/
def message : Event → String
| .uniformFound _ => "uniform"
| .attributeFound _ => "vertex attribute"
| .scanned _ _ => "scanned shader source"
| .nothingDeclared _ =>
    "no uniforms or vertex attributes declared"
| .uniformRepeated _ _ => "uniform declared more than once"
| .locationReused _ _ _ => "vertex attribute location reused"
| .typeUnmapped _ _ =>
    "vertex attribute type has no known size, " ++
      "later offsets will be wrong"
| .methodsClash _ clash =>
    "`" ++ clash.first ++ "` and `" ++ clash.second ++
      "` generate the same method"
| .payloadDropped _ (.uniform _ _) =>
    "no shader backend, dropping uniform"
| .payloadDropped _ (.pointer _) =>
    "no shader backend, dropping attribute pointer"
| .directoryRead _ _ => "discovered shaders"
| .pathFailed _ failure => failure.message
| .pairFailed _ failure => failure.message
| .bindingsWritten _ _ => "wrote bindings"

/- The fields of an event, in order. -/
def fields : Event → List (String × FieldValue)
| .uniformFound declared =>
    [("type_token", .text declared.typeToken),
      ("name", .text declared.name),
      ("is_array", .flag declared.isArray)]
| .attributeFound declared =>
    [("location", .number declared.location.toNat),
      ("type_token", .text declared.typeToken),
      ("name", .text declared.name)]
| .scanned uniforms attributes =>
    [("uniforms", .number uniforms),
      ("attributes", .number attributes)]
| .nothingDeclared shader => [("shader", .text shader)]
| .uniformRepeated shader declared =>
    [("shader", .text shader),
      ("uniform", .shown declared.name)]
| .locationReused shader previous declared =>
    [("shader", .text shader),
      ("location", .number declared.location.toNat),
      ("previous", .text previous),
      ("attribute", .shown declared.name)]
| .typeUnmapped shader declared =>
    [("shader", .text shader),
      ("attribute", .shown declared.name),
      ("type_token", .shown declared.typeToken)]
| .methodsClash className clash =>
    [("class", .shown className),
      ("method", .shown clash.method)]
| .payloadDropped program (.uniform name _) =>
    [("shader", .shown program), ("uniform", .text name)]
| .payloadDropped program (.pointer pointer) =>
    [("shader", .shown program),
      ("location", .number pointer.location.toNat)]
| .directoryRead directory pairs =>
    [("dir", .shown directory.text), ("pairs", .number pairs)]
| .pathFailed path _ => [("path", .shown path.text)]
| .pairFailed shader _ => [("shader", .shown shader)]
| .bindingsWritten shader output =>
    [("shader", .shown shader),
      ("output", .shown output.text)]

/-
  An event as a line of the log. Its words are shielded, as
  they may quote what was typed.
-/
def line (event : Event) : String :=
  event.level.name ++ " " ++ event.target ++ ": " ++
    Text.shielded event.message ++
    String.join
      (event.fields.map fun field =>
        " " ++ field.1 ++ "=" ++ field.2.written)

end Event

end ShaderBindings

------------------------------------------------------------
-- Logged Computations
------------------------------------------------------------

namespace ShaderBindings

/-
  A computation that logs events and then ends with a value
  or an error. The events stay when it ends with an error.
-/
structure Logged (ε α : Type) where
  events : List Event
  result : Except ε α
deriving Repr

namespace Logged

variable {ε α β : Type}

/- End with a value. -/
def done (value : α) : Logged ε α where
  events := []
  result := .ok value

/- End with an error. -/
def fail (error : ε) : Logged ε α where
  events := []
  result := .error error

/- Log an event. -/
def note (event : Event) : Logged ε Unit where
  events := [event]
  result := .ok ()

/- Log events. -/
def noteAll (events : List Event) : Logged ε Unit where
  events := events
  result := .ok ()

/- End with a value or an error that is already known. -/
def ofExcept (result : Except ε α) : Logged ε α where
  events := []
  result := result

/- Continue with the value, unless there is an error. -/
def andThen
    (first : Logged ε α)
    (next : α → Logged ε β) : Logged ε β :=
  match first.result with
  | .ok value =>
      { events := first.events ++ (next value).events
        result := (next value).result }
  | .error error =>
      { events := first.events
        result := .error error }

instance : Monad (Logged ε) where
  pure := done
  bind := andThen

end Logged

end ShaderBindings
