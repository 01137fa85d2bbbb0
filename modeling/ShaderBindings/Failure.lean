import ShaderBindings.MethodName
import ShaderBindings.Path
import ShaderBindings.Text.Quoted

/-
  What can go wrong: with the declarations of a shader, with
  the names in the generated code, with files, and with the
  pairing of files. Every cause has one wording.

  Key definitions include:
    * `GenerationError`
    * `GenerationError.message`
    * `FileFault`
    * `FileFault.message`
    * `PairError`
    * `PairError.message`
    * `Failure`
    * `Failure.message`
-/

------------------------------------------------------------
-- Errors of Generation
------------------------------------------------------------

namespace ShaderBindings

/- Why no bindings can be generated. -/
inductive GenerationError where
| invalidName (name : String)
| unmappedAttributeType (name : String) (typeToken : String)
| duplicateUniform (name : String)
| duplicateLocation (location : UInt32) (name : String)
| duplicateMethod (clash : MethodClash)
| invalidIdent (text : String)
| unwritable
deriving DecidableEq, Repr

namespace GenerationError

/- The error in words. -/
def message : GenerationError → String
| .invalidName name =>
    "invalid shader base name " ++ Text.quoted name ++
      ": the binding class name needs a non-empty base name"
| .unmappedAttributeType name typeToken =>
    "vertex attribute `" ++ name ++
      "` has unmapped type `" ++ typeToken ++ "`"
| .duplicateUniform name =>
    "uniform `" ++ name ++ "` is declared more than once"
| .duplicateLocation location name =>
    "vertex attribute `" ++ name ++ "` reuses location " ++
      toString location.toNat
| .duplicateMethod clash =>
    "`" ++ clash.first ++ "` and `" ++ clash.second ++
      "` both generate method `" ++ clash.method ++ "`"
| .invalidIdent text =>
    "`" ++ text ++
      "` cannot be used as a name in generated code"
| .unwritable =>
    "generated bindings failed to parse"

end GenerationError

end ShaderBindings

------------------------------------------------------------
-- Faults of Files
------------------------------------------------------------

namespace ShaderBindings

/- Why a file or a directory cannot be used. -/
inductive FileFault where
| notFound
| exists
| notDirectory
| isDirectory
| nameTooLong
| nullInName
| notText
| other (text : String)
deriving DecidableEq, Repr

namespace FileFault

/- The fault in words. -/
def message : FileFault → String
| .notFound => "No such file or directory (os error 2)"
| .exists => "File exists (os error 17)"
| .notDirectory => "Not a directory (os error 20)"
| .isDirectory => "Is a directory (os error 21)"
| .nameTooLong => "File name too long (os error 36)"
| .nullInName =>
    "file name contained an unexpected NUL byte"
| .notText => "stream did not contain valid UTF-8"
| .other text => text

end FileFault

end ShaderBindings

------------------------------------------------------------
-- Errors of Pairing
------------------------------------------------------------

namespace ShaderBindings

/- Why a file has no place in a pair of shaders. -/
inductive PairError where
| missingPartner (shader : Path) (expected : Path)
| unsupportedExtension (path : Path)
deriving DecidableEq, Repr

namespace PairError

/- The error in words. -/
def message : PairError → String
| .missingPartner shader expected =>
    shader.text ++ " has no paired shader, expected " ++
      expected.text
| .unsupportedExtension path =>
    path.text ++ " is not a .vert or .frag shader"

end PairError

end ShaderBindings

------------------------------------------------------------
-- Failures of the Command
------------------------------------------------------------

namespace ShaderBindings

/- Why an input of the command fails. -/
inductive Failure where
| pair (error : PairError)
| reading (path : Path) (fault : FileFault)
| readingDirectory (path : Path) (fault : FileFault)
| generating (path : Path) (error : GenerationError)
| creating (path : Path) (fault : FileFault)
| writing (path : Path) (fault : FileFault)
deriving DecidableEq, Repr

namespace Failure

/- What was being done, without the cause. -/
def context : Failure → String
| .pair error => error.message
| .reading path _ => "reading " ++ path.text
| .readingDirectory path _ =>
    "reading directory " ++ path.text
| .generating path _ =>
    "generating bindings for " ++ path.text
| .creating path _ => "creating " ++ path.text
| .writing path _ => "writing " ++ path.text

/- The cause of a failure, when it has one of its own. -/
def cause? : Failure → Option String
| .pair _ => none
| .reading _ fault => some fault.message
| .readingDirectory _ fault => some fault.message
| .generating _ error => some error.message
| .creating _ fault => some fault.message
| .writing _ fault => some fault.message

/- The failure in words, with its cause. -/
def message (failure : Failure) : String :=
  match failure.cause? with
  | some cause => failure.context ++ ": " ++ cause
  | none => failure.context

end Failure

end ShaderBindings
