import ShaderBindings.Code.RuntimePath
import ShaderBindings.Interface
import ShaderBindings.UniformType

/-
  A binding: the class that is generated for an interface,
  as a list of methods whose bodies are calls. It is made
  before any code is written, so that what the methods do
  can be read without reading code.

  Key definitions include:
    * `BindingOptions`
    * `Body`
    * `Method`
    * `Binding`
    * `Binding.attributeMethod`
    * `Binding.aggregateMethod`
    * `Binding.uniformMethod`
    * `Binding.ofInterface`
-/

------------------------------------------------------------
-- Methods
------------------------------------------------------------

namespace ShaderBindings

open Code
open Upload

/-
  What a method does:
    * make the shader of the class,
    * return the one instance of the class,
    * return the shader of the instance,
    * configure one vertex attribute,
    * call other methods of the class,
    * set a uniform to a value,
    * set the elements of a uniform to values.
-/
inductive Body where
| makeShader (program : String)
| shareInstance
| lendShader
| configure (pointer : AttributePointer)
| callEach (methods : List Ident)
| set
    (setter : Ident) (uniform : String)
    (hostType : HostType) (byValue : Bool)
| setEach
    (setter : Ident) (uniform : String)
    (hostType : HostType) (byValue : Bool)
deriving DecidableEq, Repr

/- A method of a class. -/
structure Method where
  name : Ident
  body : Body
deriving DecidableEq, Repr

/-
  A class in its module, with the path that the names of the
  runtime are imported from.
-/
structure Binding where
  module : Ident
  runtime : RuntimePath
  className : Ident
  methods : List Method
deriving DecidableEq, Repr

/-
  The names that do not depend on the shader: the module of
  the class and the path of the runtime, as they are given.
-/
structure BindingOptions where
  module : String
  runtime : String
deriving DecidableEq, Repr

namespace BindingOptions

/- The names that are used when none are given. -/
def standard : BindingOptions where
  module := "shaders"
  runtime := "glint_lib"

end BindingOptions

end ShaderBindings

------------------------------------------------------------
-- Methods of an Interface
------------------------------------------------------------

namespace ShaderBindings

open Code
open Upload

namespace Binding

/- A text as an identifier. -/
def ident (text : String) :
    Except GenerationError Ident :=
  match Ident.ofString? text with
  | some name => .ok name
  | none => .error (.invalidIdent text)

/- A text as a path of the runtime. -/
def runtimePath (text : String) :
    Except GenerationError RuntimePath :=
  match RuntimePath.ofString? text with
  | some path => .ok path
  | none => .error (.invalidIdent text)

/- A text as a type of the host. -/
def hostType (text : String) :
    Except GenerationError HostType :=
  match HostType.ofString? text with
  | some type => .ok type
  | none => .error (.invalidIdent text)

/- The methods that every class has. -/
def constructors (program : String) : List Method := [
  { name := ⟨"new"⟩, body := .makeShader program },
  { name := ⟨"instance"⟩, body := .shareInstance },
  { name := ⟨"shader"⟩, body := .lendShader }]

/- Where the data of a placed attribute is found. -/
def pointerOf
    (stride : UInt32)
    (entry : LayoutEntry) : AttributePointer where
  location := entry.declared.location
  components := entry.declared.type.componentCount
  format := entry.declared.type.format
  stride := stride
  offset := entry.offset

/- The method that configures one attribute. -/
def attributeMethod
    (stride : UInt32)
    (entry : LayoutEntry) :
    Except GenerationError Method := do
  let name ←
    ident (MethodName.attributeSetter entry.declared.name)
  return { name, body := .configure (pointerOf stride entry) }

/-
  The method that configures all attributes, when there are
  any.
-/
def aggregateMethod
    (entries : List LayoutEntry) :
    Except GenerationError (List Method) :=
  if entries.isEmpty then
    .ok []
  else do
    let methods ← entries.mapM fun entry =>
      ident (MethodName.attributeSetter entry.declared.name)
    let name ← ident MethodName.aggregateSetter
    return [{ name, body := .callEach methods }]

/- The method that sets one uniform. -/
def uniformMethod
    (declared : Uniform) :
    Except GenerationError Method := do
  let type := UniformType.ofToken declared.typeToken
  let name ← ident (MethodName.uniformSetter declared.name)
  let setter ← ident (MethodName.uniformSetter type.accessor)
  let host ← hostType type.hostType
  let body :=
    if declared.isArray then
      Body.setEach setter declared.name host type.byValue
    else
      Body.set setter declared.name host type.byValue
  return { name, body }

/-
  The methods of an interface: those of every class, one for
  each attribute, one for all attributes together, and one
  for each uniform.
-/
def methodsOf
    (interface : Interface) :
    Except GenerationError (List Method) := do
  let layout := VertexLayout.ofAttributes interface.attributes
  let single ←
    layout.entries.mapM (attributeMethod layout.stride)
  let aggregate ← aggregateMethod layout.entries
  let uniform ← interface.uniforms.mapM uniformMethod
  return constructors interface.baseName ++ single ++
    aggregate ++ uniform

end Binding

end ShaderBindings

------------------------------------------------------------
-- Bindings of an Interface
------------------------------------------------------------

namespace ShaderBindings

open Code

namespace Binding

/- The warning about methods that share a name, if any do. -/
def clashEvents (interface : Interface) : List Event :=
  match
    MethodClash.find? interface.uniforms interface.attributes
  with
  | some clash => [.methodsClash interface.className clash]
  | none => []

/-
  A word that cannot stand in front of the body of a class,
  although it is an identifier.
-/
def isWritableClass (name : Ident) : Bool :=
  HostType.isTypeWord name.text

/- The code of a binding can be read back. -/
def isWritable (binding : Binding) : Bool :=
  binding.runtime.isImportable &&
    isWritableClass binding.className

/- The binding of an interface. -/
def ofInterface
    (options : BindingOptions)
    (interface : Interface) :
    Logged GenerationError Binding := do
  let module ← Logged.ofExcept (ident options.module)
  let runtime ← Logged.ofExcept (runtimePath options.runtime)
  let className ← Logged.ofExcept (ident interface.className)
  Logged.noteAll (clashEvents interface)
  let methods ← Logged.ofExcept (methodsOf interface)
  let binding := { module, runtime, className, methods }
  if isWritable binding then
    return binding
  else
    Logged.fail .unwritable

end Binding

end ShaderBindings
