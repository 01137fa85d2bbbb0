import ShaderBindings.Binding
import ShaderBindings.Proofs.Upload.Primitive

/-
  What happens when a method of a class is called. The body
  of a method is read as the calls on the shader that it
  spells, and a call of another method of the class as the
  calls that this one spells. A body that calls the shader in
  a way that the shader cannot be called in spells nothing.

  Key definitions include:
    * `Argument`
    * `Body.calls?`
    * `Binding.method?`
    * `Binding.calls?`
    * `Binding.shader?`
    * `Binding.deliveries?`

  Key theorems include:
    * `Binding.method?_of_mem`
    * `Binding.deliveries?_of_calls?`
-/

------------------------------------------------------------
-- Calls That Are Spelled
------------------------------------------------------------

namespace ShaderBindings

open Code
open Upload

/- What a method of a class is called with. -/
inductive Argument where
| nothing
| value (value : HostValue)
| values (values : List HostValue)
deriving DecidableEq, Repr

namespace Body

/-
  The call of a setter with a value. It is one only when the
  shader has that setter for values of that type, and takes
  them in that way.
-/
def forward?
    (setter : Ident)
    (hostType : HostType)
    (byValue : Bool)
    (name : String)
    (value : HostValue) : Option Call :=
  if value.primitive = ⟨setter.text, hostType.text, byValue⟩
  then
    some (value.call name)
  else
    none

/-
  The call of a setter with an element of an array, under
  the name that the template of the array leads to.
-/
def forwardElement?
    (setter : Ident)
    (hostType : HostType)
    (byValue : Bool)
    (array : String)
    (item : HostValue × Nat) : Option Call :=
  match
    Text.filled? item.2 (Text.elementTemplate array).toList
  with
  | some name =>
      forward? setter hostType byValue (String.ofList name)
        item.1
  | none => none

/- The calls on the shader that a body spells itself. -/
def calls? : Body → Argument → Option (List Call)
| .configure pointer, .nothing =>
    some [.vertexAttribPointer pointer]
| .set setter uniform hostType byValue, .value value =>
    (forward? setter hostType byValue uniform value).map
      fun call => [call]
| .setEach setter uniform hostType byValue, .values values =>
    values.zipIdx.mapM
      (forwardElement? setter hostType byValue uniform)
| _, _ => none

end Body

end ShaderBindings

------------------------------------------------------------
-- Calls of a Method
------------------------------------------------------------

namespace ShaderBindings

open Code
open Upload

namespace Binding

/- The method with a name. -/
def method?
    (binding : Binding)
    (name : String) : Option Method :=
  binding.methods.find? fun method =>
    method.name.text == name

/- The calls that a method spells when the class calls it. -/
def ownCalls?
    (binding : Binding)
    (name : Ident) : Option (List Call) :=
  match binding.method? name.text with
  | some method => method.body.calls? .nothing
  | none => none

/- The calls on the shader when a method is called. -/
def calls?
    (binding : Binding)
    (name : String)
    (argument : Argument) : Option (List Call) :=
  match binding.method? name with
  | none => none
  | some method =>
      match method.body, argument with
      | .callEach methods, .nothing =>
          (methods.mapM binding.ownCalls?).map List.flatten
      | body, argument => body.calls? argument

/-
  The shader that the instance of a class holds. It has no
  backend of its own.
-/
def shader?
    {β : Type}
    (binding : Binding) : Option (Shader β) :=
  match binding.method? "new" with
  | some method =>
      match method.body with
      | .makeShader program =>
          some { name := program, backend := none }
      | _ => none
  | none => none

/-
  What backends receive when a method of the instance of a
  class is called.
-/
def deliveries?
    {β : Type}
    (installed : Option β)
    (binding : Binding)
    (name : String)
    (argument : Argument) :
    Option (List (Delivery β)) := do
  let shader ← binding.shader?
  let calls ← binding.calls? name argument
  return calls.flatMap (shader.perform installed)

/- A method whose name no other has is found by its name. -/
theorem method?_of_mem
    {binding : Binding}
    {method : Method}
    (hNodup :
      (binding.methods.map fun method =>
        method.name.text).Nodup)
    (hMethod : method ∈ binding.methods) :
    binding.method? method.name.text = some method := by
  unfold method?
  revert hNodup hMethod
  induction binding.methods with
  | nil =>
      intro _ hMethod
      cases hMethod
  | cons first rest ih =>
      intro hNodup hMethod
      rw [List.map_cons, List.nodup_cons] at hNodup
      rcases List.mem_cons.mp hMethod with rfl | hRest
      · simp
      · have hDiffers :
            first.name.text ≠ method.name.text := by
          intro hSame
          apply hNodup.1
          rw [hSame]
          exact List.mem_map_of_mem hRest
        rw [List.find?_cons_of_neg (by simpa using hDiffers)]
        exact ih hNodup.2 hRest

/- Deliveries are those of the calls, one after the other. -/
theorem deliveries?_of_calls?
    {β : Type}
    {installed : Option β}
    {binding : Binding}
    {shader : Shader β}
    {name : String}
    {argument : Argument}
    {calls : List Call}
    (hShader : binding.shader? = some shader)
    (hCalls : binding.calls? name argument = some calls) :
    binding.deliveries? installed name argument =
      some (calls.flatMap (shader.perform installed)) := by
  unfold deliveries?
  rw [hShader, hCalls]
  rfl

end Binding

end ShaderBindings
