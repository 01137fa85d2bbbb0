/-
  The two kinds of declaration that a binding is made from:
  uniforms, which are set by name, and vertex attributes,
  which are configured by location.

  Key definitions include:
    * `Uniform`
    * `Attribute`
    * `Declarations`
-/

------------------------------------------------------------
-- Declarations
------------------------------------------------------------

namespace ShaderBindings

/-
  A uniform: the word that names its type, its own name, and
  whether it is an array. The size of an array is not kept.
-/
structure Uniform where
  typeToken : String
  name : String
  isArray : Bool
deriving DecidableEq, Repr

/-
  A vertex attribute: its location, the word that names its
  type, and its own name.
-/
structure Attribute where
  location : UInt32
  typeToken : String
  name : String
deriving DecidableEq, Repr

/- What a shader declares, each kind in source order. -/
structure Declarations where
  uniforms : List Uniform
  attributes : List Attribute
deriving DecidableEq, Repr

namespace Declarations

/- Nothing is declared. -/
def isEmpty (found : Declarations) : Bool :=
  found.uniforms.isEmpty && found.attributes.isEmpty

end Declarations

end ShaderBindings
