import ShaderBundle.Disk.Basic
import ShaderBundle.Fault
import ShaderBundle.Stage
/-!
# Where loading starts

The files from which a bundle is loaded are the stage files that lie in its folder for shaders or in a
folder right inside that one.
-/

namespace ShaderBundle.Disk

/-- The folder for shaders. -/
def shaders : Path := Path.root.child ⟨"shaders".toList, by decide⟩

/-- Whether there is a file at a path, and its name is that of a stage file. -/
def isStageFile (d : Disk) (p : Path) : Bool :=
  (p.name?.any fun name => (Stage.ofFileName? name.text).isSome) && d.isFile p

/-- The stage files that something in the folder for shaders stands for: itself, or those right inside
it. -/
def seedsAt (d : Disk) (p : Path) : List Path :=
  if d.isFolder p then (d.inside p).filter d.isStageFile
  else if d.isStageFile p then [p]
  else []

/-- The stage files of the bundle, by the names in the folder for shaders. -/
def seeds (d : Disk) : Except Fault (List Path) :=
  if d.isFolder shaders then .ok ((d.inside shaders).flatMap d.seedsAt)
  else .error (.noShaderFolder (shaders.below d.place))

end ShaderBundle.Disk
