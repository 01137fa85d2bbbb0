import ShaderBindings.Binding
import ShaderBindings.Proofs.Code.Lexemes
import ShaderBindings.Proofs.Text.Template

/-
  Code of a class read back. A reader takes lexemes from the
  front of code. The reader of a class knows what functions
  may be in it, and reads the body of each as what the body
  spells: the one instance, the shader, calls of the shader
  with their arguments, or calls of other functions.

  Nothing here depends on how the code came about, and what
  is no code of a class is not read at all.

  Key definitions include:
    * `Reader`
    * `Reader.many`
    * `Reader.pointer`
    * `Reader.method`
    * `Binding.ofCode?`
-/

------------------------------------------------------------
-- Readers
------------------------------------------------------------

namespace ShaderBindings

namespace Code

/- What stands behind a row of lexemes. -/
def behindRow? :
    List Lexeme → List Lexeme → Option (List Lexeme)
| [], rest => some rest
| _ :: _, [] => none
| lexeme :: row, other :: rest =>
    if lexeme = other then behindRow? row rest else none

/- A reader takes lexemes from the front, or it fails. -/
abbrev Reader :=
  StateT (List Lexeme) Option

namespace Reader

variable {α : Type}

/- A fixed piece of code. -/
def fixed (code : String) : Reader Unit :=
  fun rest =>
    (behindRow? (lexemes code) rest).map fun more =>
      ((), more)

/- A fixed piece of code is skipped if it stands there. -/
def skips (code : String) : Reader Bool :=
  fun rest =>
    match behindRow? (lexemes code) rest with
    | some more => some (true, more)
    | none => some (false, rest)

/- Any word. -/
def word : Reader String :=
  fun rest =>
    match rest with
    | .word chars :: more => some (String.ofList chars, more)
    | _ => none

/- The text of a literal. -/
def literal : Reader String :=
  fun rest =>
    match rest with
    | .literal chars :: more =>
        some (String.ofList chars, more)
    | _ => none

/- A number in decimal digits. -/
def number : Reader UInt32 := do
  let digits := (← word).toList
  let value := Nat.ofDigitChars 10 digits 0
  guard (digits.all Char.isDigit ∧ value < 2 ^ 32)
  return UInt32.ofNat value

/-
  Items up to a fixed piece of code, with at most as many as
  the fuel.
-/
def manyWithin
    (stop : String)
    (item : Reader α) : Nat → Reader (List α)
| 0 => do
    fixed stop
    return []
| fuel + 1 => do
    if ← skips stop then
      return []
    else
      let first ← item
      let others ← manyWithin stop item fuel
      return first :: others

/-
  Items up to a fixed piece of code. Every item takes a
  lexeme, so there cannot be more of them than lexemes.
-/
def many
    (stop : String)
    (item : Reader α) : Reader (List α) :=
  fun rest => manyWithin stop item rest.length rest

end Reader

end Code

end ShaderBindings

------------------------------------------------------------
-- Methods
------------------------------------------------------------

namespace ShaderBindings

open Upload

namespace Code

namespace Reader

def ident : Reader Ident := do
  return ⟨← word⟩

def hostType : Reader HostType := do
  return ⟨← word⟩

def pointerFormat : Reader PointerFormat := do
  if ← skips "AttribFormat::Float" then
    return .float
  else if ← skips "AttribFormat::Int" then
    return .int
  else
    fixed "AttribFormat::Unmapped"
    return .unmapped

/- The arguments that configure an attribute. -/
def pointer : Reader AttributePointer := do
  let location ← number
  fixed ","
  let components ← number
  fixed ","
  let format ← pointerFormat
  fixed ","
  let stride ← number
  fixed ","
  let offset ← number
  return { location, components, format, stride, offset }

/- A call of another method of the class. -/
def ownCall : Reader Ident := do
  fixed "self."
  let method ← ident
  fixed "();"
  return method

/- The array whose elements are named by a template. -/
def arrayOf (template : String) : String :=
  String.ofList
    (template.toList.take (template.toList.length - 5))

/- A call of a setter of the shader with a value. -/
def setting (hostType : HostType) (byValue : Bool) :
    Reader Body := do
  fixed "self.shader."
  let setter ← ident
  fixed "("
  let uniform ← literal
  fixed ", value);"
  fixed "\x7d"
  return .set setter uniform hostType byValue

/-
  A loop over the elements of a slice, with a call of a
  setter of the shader under a name with the index in it.
-/
def settingEach (hostType : HostType) : Reader Body := do
  fixed "for (i, value) in values.iter().enumerate()"
  fixed "\x7b"
  fixed "self.shader."
  let setter ← ident
  fixed "(&format!("
  let template ← literal
  fixed "),"
  let byValue ← skips "*"
  fixed "value);"
  fixed "\x7d \x7d"
  let uniform := arrayOf template
  guard (Text.elementTemplate uniform = template)
  return .setEach setter uniform hostType byValue

/-
  What stands behind the name of a public function: its
  parameters, what it returns, and its body.
-/
def body (className : Ident) : Reader Body := do
  if ← skips "() -> &'static Self \x7b" then
    fixed "static INSTANCE: std::sync::OnceLock<"
    let held ← word
    guard (held = className.text)
    fixed "> = std::sync::OnceLock::new();"
    fixed "INSTANCE.get_or_init(Self::new)"
    fixed "\x7d"
    return .shareInstance
  else if ← skips "(&self) -> &Shader \x7b" then
    fixed "&self.shader"
    fixed "\x7d"
    return .lendShader
  else if ← skips "(&self) \x7b" then
    if ← skips "self.shader.vertex_attrib_pointer(" then
      let found ← pointer
      fixed ");"
      fixed "\x7d"
      return .configure found
    else
      return .callEach (← many "\x7d" ownCall)
  else if ← skips "(&self, value:" then
    let byReference ← skips "&"
    let type ← hostType
    fixed ") \x7b"
    setting type !byReference
  else
    fixed "(&self, values: &["
    let type ← hostType
    fixed "]) \x7b"
    settingEach type

/- A function of a class. -/
def method (className : Ident) : Reader Method := do
  if ← skips "fn" then
    let name ← ident
    fixed "() -> Self \x7b"
    fixed "Self \x7b shader: Shader::new("
    let program ← literal
    fixed ") \x7d"
    fixed "\x7d"
    return { name, body := .makeShader program }
  else
    fixed "pub fn"
    let name ← ident
    return { name, body := ← body className }

end Reader

end Code

end ShaderBindings

------------------------------------------------------------
-- Classes
------------------------------------------------------------

namespace ShaderBindings

namespace Code

namespace Reader

/- A name of a path, with the colons behind it. -/
def segment : Reader String := do
  let name ← word
  fixed "::"
  return name

/- The path of which everything in its prelude is imported. -/
def runtimePath : Reader RuntimePath := do
  let rooted ← skips "::"
  let names ← many "*;" segment
  guard (names.getLast? = some "prelude")
  return {
    rooted
    segments := names.dropLast
    generic := false }

/- A class in its module. -/
def binding : Reader Binding := do
  fixed "pub mod"
  let module ← ident
  fixed "\x7b use"
  let runtime ← runtimePath
  fixed "pub struct"
  let className ← ident
  fixed "\x7b shader: Shader \x7d impl"
  let extended ← word
  guard (extended = className.text)
  fixed "\x7b"
  let methods ← many "\x7d \x7d" (method className)
  return { module, runtime, className, methods }

end Reader

end Code

/- The class that code is the code of. -/
def Binding.ofCode? (code : String) : Option Binding :=
  match Code.Reader.binding (Code.lexemes code) with
  | some (binding, []) => some binding
  | _ => none

end ShaderBindings
