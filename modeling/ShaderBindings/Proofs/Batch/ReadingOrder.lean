import ShaderBindings.Proofs.Batch.OnDisk
import ShaderBindings.Proofs.Declaration.Seam

/-
  The two orders of reading a pair. When both files of a pair
  end with a semicolon or a closing brace, white space apart,
  it does not matter to their declarations which file is read
  first: those of each file are found on their own, and only
  change places.

  Key definitions include:
    * `ShaderPair.swapped`
    * `Session.SwapsDeclarations`

  Key theorems include:
    * `Session.swapsDeclarations_of_sealed`
    * `ofSource_sealed_append`
-/

------------------------------------------------------------
-- Pairs the Other Way Round
------------------------------------------------------------

namespace ShaderBindings

/- A pair that starts from the other one of its files. -/
def ShaderPair.swapped (pair : ShaderPair) : ShaderPair :=
  { pair with primary := pair.partner, partner := pair.primary }

namespace Session

open Declarations

/-
  Both orders of reading a pair find the declarations of the
  one text and of the other, in the order of reading.
-/
structure SwapsDeclarations
    (session : Session)
    (pair : ShaderPair)
    (first second : String) : Prop where
  straight :
    ∃ source,
      ((pair.readSource : StateM Session _).run session).1 =
          .ok source ∧
        ofSource source = ofSource first ++ ofSource second
  swapped :
    ∃ source,
      ((pair.swapped.readSource : StateM Session _).run
            session).1 =
          .ok source ∧
        ofSource source = ofSource second ++ ofSource first

/- Sealed texts are read in either order. -/
theorem swapsDeclarations_of_sealed
    {session : Session}
    {pair : ShaderPair}
    {first second : String}
    (hFirst : Sealed first.toList)
    (hSecond : Sealed second.toList)
    (hPrimary : session.disk.readText pair.primary = .ok first)
    (hPartner :
      session.disk.readText pair.partner = .ok second) :
    session.SwapsDeclarations pair first second where
  straight := by
    refine ⟨first ++ second, ?_, ofSource_append hFirst second⟩
    rw [run_readSource]
    exact Disk.source_eq_ok_iff.mpr
      ⟨first, second, hPrimary, hPartner, rfl⟩
  swapped := by
    refine ⟨second ++ first, ?_, ofSource_append hSecond first⟩
    rw [run_readSource]
    exact Disk.source_eq_ok_iff.mpr
      ⟨second, first, hPartner, hPrimary, rfl⟩

end Session

end ShaderBindings

------------------------------------------------------------
-- Scanning One Text behind Another
------------------------------------------------------------

namespace ShaderBindings

/-
  What is found in a sealed text with another text behind it
  is what is found in the one and then in the other. If both
  are sealed and are the files of a pair, both orders of
  reading the pair find the same declarations.
-/
theorem ofSource_sealed_append
    (first second : String)
    (hFirst : Sealed first.toList) :
    (Declarations.ofSource (first ++ second)).uniforms =
        (Declarations.ofSource first).uniforms ++
          (Declarations.ofSource second).uniforms ∧
      (Declarations.ofSource (first ++ second)).attributes =
        (Declarations.ofSource first).attributes ++
          (Declarations.ofSource second).attributes ∧
      (Sealed second.toList →
        ∀ (session : Session) (pair : ShaderPair),
          session.disk.readText pair.primary = .ok first →
            session.disk.readText pair.partner = .ok second →
              session.SwapsDeclarations pair first second) := by
  rw [Declarations.ofSource_append hFirst second]
  refine ⟨rfl, rfl, ?_⟩
  intro hSecond session pair hPrimary hPartner
  exact Session.swapsDeclarations_of_sealed hFirst hSecond
    hPrimary hPartner

/- The vertex shader of a pool. -/
def poolVertex : String :=
  "layout(location = 0) in vec3 at; uniform mat4 model;" ++
    "void main() \x7b gl_Position = model * at; \x7d\n"

/- The fragment shader of a pool. -/
def poolFragment : String :=
  "uniform vec4 tint; // uniform float\n" ++
    "uniform int depth;\t"

/- The files of a pool. -/
def poolSession : Session :=
  let files : List (Path × Entry) := [
    (⟨"pool.vert"⟩, .file poolVertex.toUTF8),
    (⟨"pool.frag"⟩, .file poolFragment.toUTF8)]
  Session.start (Disk.ofFiles ["shore"] files) ""

/- The pair of a pool. -/
def poolPair : ShaderPair where
  baseName := "pool"
  primary := ⟨"pool.vert"⟩
  partner := ⟨"pool.frag"⟩

/- What the vertex shader of a pool declares. -/
def poolVertexFound : Declarations where
  uniforms := [⟨"mat4", "model", false⟩]
  attributes := [⟨0, "vec3", "at"⟩]

/- What the fragment shader of a pool declares. -/
def poolFragmentFound : Declarations where
  uniforms := [⟨"vec4", "tint", false⟩, ⟨"int", "depth", false⟩]
  attributes := []

/-
  The files of a pool lead to the two orders of reading it,
  and both orders find the four declarations, those of each
  file in a block.
-/
theorem ofSource_pool_append :
    ShaderPair.ofFile ⟨"pool.vert"⟩ = .ok poolPair ∧
      ShaderPair.ofFile ⟨"pool.frag"⟩ =
        .ok poolPair.swapped ∧
      Sealed poolVertex.toList ∧
      Sealed poolFragment.toList ∧
      poolSession.disk.readText poolPair.primary =
        .ok poolVertex ∧
      poolSession.disk.readText poolPair.partner =
        .ok poolFragment ∧
      Declarations.ofSource poolVertex = poolVertexFound ∧
      Declarations.ofSource poolFragment =
        poolFragmentFound ∧
      (Declarations.ofSource
          (poolVertex ++ poolFragment)).uniforms = [
        ⟨"mat4", "model", false⟩,
        ⟨"vec4", "tint", false⟩,
        ⟨"int", "depth", false⟩] ∧
      (Declarations.ofSource
          (poolVertex ++ poolFragment)).attributes =
        [⟨0, "vec3", "at"⟩] ∧
      (Declarations.ofSource
          (poolFragment ++ poolVertex)).uniforms = [
        ⟨"vec4", "tint", false⟩,
        ⟨"int", "depth", false⟩,
        ⟨"mat4", "model", false⟩] ∧
      (Declarations.ofSource
          (poolFragment ++ poolVertex)).attributes =
        [⟨0, "vec3", "at"⟩] ∧
      poolSession.SwapsDeclarations poolPair poolVertex
        poolFragment := by
  have hVertex : Sealed poolVertex.toList := by
    decide +kernel
  have hFragment : Sealed poolFragment.toList := by
    decide +kernel
  have hPrimary :
      poolSession.disk.readText poolPair.primary =
        .ok poolVertex := by
    decide +kernel
  have hPartner :
      poolSession.disk.readText poolPair.partner =
        .ok poolFragment := by
    decide +kernel
  have hVertexFound :
      Declarations.ofSource poolVertex = poolVertexFound := by
    decide +kernel
  have hFragmentFound :
      Declarations.ofSource poolFragment =
        poolFragmentFound := by
    decide +kernel
  rcases ofSource_sealed_append poolVertex poolFragment hVertex
    with ⟨hUniforms, hAttributes, hSwaps⟩
  rcases ofSource_sealed_append poolFragment poolVertex
      hFragment with
    ⟨hOtherUniforms, hOtherAttributes, _⟩
  rw [hVertexFound, hFragmentFound] at hUniforms hAttributes
  rw [hVertexFound, hFragmentFound] at hOtherUniforms
  rw [hVertexFound, hFragmentFound] at hOtherAttributes
  exact
    ⟨rfl, rfl, hVertex, hFragment, hPrimary, hPartner,
      hVertexFound, hFragmentFound, hUniforms, hAttributes,
      hOtherUniforms, hOtherAttributes,
      hSwaps hFragment poolSession poolPair hPrimary hPartner⟩

end ShaderBindings
