import ShaderBundle.Path
import ShaderBundle.Program.Basic
/-!
# Faults

Why an operation on a bundle has no result. Each cause carries what a message needs to say about it,
and the wording stands in one place.
-/

namespace ShaderBundle

/-- The causes of failure. -/
inductive Fault where
  /-- A text is no path. -/
  | path (cause : PathFault)
  /-- A file was wanted at a path that no folder holds; only the root is such. -/
  | noParent (path : Path)
  /-- A file was wanted that is not among those loaded. -/
  | notLoaded (path : Path)
  /-- Files include each other in a circle; the last path of the trail repeats an earlier one. -/
  | circularInclude (trail : List Path)
  /-- The substitutes of a program end without a built-in one. -/
  | brokenChain (program stoppedAt : Program)
  /-- There is no folder for shaders at the given place. -/
  | noShaderFolder (place : Text)
deriving DecidableEq

namespace Fault

/-- The pieces of what a message says of the cause. -/
def wording : Fault → List String
  | .path cause => [cause.message]
  | .noParent p => [toString p, " has no parent directory"]
  | .notLoaded p => [toString p, " is not present in the include graph"]
  | .circularInclude trail => ["circular include: ", " -> ".intercalate (trail.map toString)]
  | .brokenChain program stoppedAt =>
    ["fallback chain of ", program.label, " stops at ", stoppedAt.label, ", which has no built-in program"]
  | .noShaderFolder place => ["no shaders directory in ", String.ofList place.quoted]

/-- What a message says of the cause. -/
def message (cause : Fault) : String := String.join cause.wording

end Fault

end ShaderBundle
