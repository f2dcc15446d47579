import ShaderBundle.Flat.Expansion
import ShaderBundle.Shader
/-!
# Looking up a program

A program is looked up by its name in a list of folders, and the first that provides it wins. To provide
it, a folder needs files for the two main stages that loaded, and both must have content once they are
flattened: a file left empty does not hide a good one in a later folder.
-/

namespace ShaderBundle

/-- What a folder with files for both main stages of a program has to offer. -/
inductive Offer where
  /-- One of the two files has no line. -/
  | emptyStage
  /-- One of the two texts is empty. -/
  | invalid (shader : Shader)
  /-- One of the two texts has nothing but blank lines and markers. -/
  | blank (shader : Shader)
  /-- The program. -/
  | usable (shader : Shader)
deriving DecidableEq

namespace Offer

/-- The shader, if the offer is good. -/
def shader? : Offer → Option Shader
  | .usable shader => some shader
  | _ => none

/-- What is reported of the offer. -/
def records (name : Text) (folder : Path) : Offer → List Record
  | .emptyStage => [.emptyStage name folder]
  | .invalid shader => shader.records ++ [.invalidSource name folder]
  | .blank shader => shader.records ++ [.blankSource name folder]
  | .usable shader => shader.records ++ [.found name folder]

end Offer

namespace Library

/-- The file of the given name in a folder, if it loaded. -/
def fileIn? (lib : Library) (folder : Path) (name : Text) : Option SourceFile :=
  (folder.join name).toOption.bind lib.find?

/-- The flat text of the file of the given name in a folder, if it loaded and has a line. -/
def stageIn? (lib : Library) (markers : Bool) (folder : Path) (name : Text) : Option Text :=
  (lib.fileIn? folder name).bind fun file =>
    if file.isEmpty then none else some ((lib.flatten file).textWith markers)

/-- The texts of a program's stages in a folder, given those of its main stages. -/
def assemble (lib : Library) (markers : Bool) (folder : Path) (name : Text) (vertex pixel : Text) :
    Shader where
  name := name
  vertex := vertex
  pixel := pixel
  geometry? := lib.stageIn? markers folder (Stage.geometry.fileName name)
  hull? := lib.stageIn? markers folder (Stage.hull.fileName name)
  domain? := lib.stageIn? markers folder (Stage.domain.fileName name)
  compute? := lib.stageIn? markers folder (Stage.compute.fileName name)
  variants := passLetters.filterMap fun letter =>
    (lib.stageIn? markers folder (Stage.compute.fileName (name ++ ['_', letter]))).map fun text =>
      (letter, text)

/-- What a folder has to offer for a program; none if it lacks a file for a main stage. -/
def offerIn? (lib : Library) (markers : Bool) (name : Text) (folder : Path) : Option Offer := do
  let vertex ← lib.fileIn? folder (Stage.vertex.fileName name)
  let pixel ← lib.fileIn? folder (Stage.pixel.fileName name)
  if vertex.isEmpty || pixel.isEmpty then return .emptyStage
  let shader := lib.assemble markers folder name
    ((lib.flatten vertex).textWith markers) ((lib.flatten pixel).textWith markers)
  if !shader.isValid then return .invalid shader
  if !shader.isSubstantial then return .blank shader
  return .usable shader

/-- The offers of the folders, in order, up to the first good one. -/
def offers (lib : Library) (markers : Bool) (name : Text) : List Path → List (Path × Offer)
  | [] => []
  | folder :: folders =>
    match lib.offerIn? markers name folder with
    | none => offers lib markers name folders
    | some offer =>
      (folder, offer) :: if offer.shader?.isSome then [] else offers lib markers name folders

/-- Looks a program up in a list of folders. -/
def search (lib : Library) (markers : Bool) (folders : List Path) (name : Text) :
    Journaled (Option Shader) :=
  let offers := lib.offers markers name folders
  ⟨offers.findSome? fun (_, offer) => offer.shader?,
    offers.flatMap fun (folder, offer) => offer.records name folder⟩

end Library

end ShaderBundle
