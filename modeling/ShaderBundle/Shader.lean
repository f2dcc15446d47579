import ShaderBundle.Flat.Marker
import ShaderBundle.Journal
import ShaderBundle.Program.Builtin
import ShaderBundle.RenderState.Setting
/-!
# Shaders

A shader is a program with the flat texts of its stages. It always has a vertex and a pixel stage; its
rendering state is what the comments of those two ask for, the pixel stage having the last word.
-/

namespace ShaderBundle

/-- The texts of a program's stages. -/
structure Shader where
  /-- The name by which the program was looked up. -/
  name : Text
  /-- The vertex stage. -/
  vertex : Text
  /-- The pixel stage. -/
  pixel : Text
  /-- The geometry stage. -/
  geometry? : Option Text := none
  /-- The hull stage. -/
  hull? : Option Text := none
  /-- The domain stage. -/
  domain? : Option Text := none
  /-- The compute stage. -/
  compute? : Option Text := none
  /-- The further compute passes by their letters, in the order of their dispatch. -/
  variants : List (Char × Text) := []
deriving DecidableEq

namespace Shader

/-- The text of a stage. -/
def stage? (s : Shader) : Stage → Option Text
  | .vertex => some s.vertex
  | .pixel => some s.pixel
  | .geometry => s.geometry?
  | .hull => s.hull?
  | .domain => s.domain?
  | .compute => s.compute?

/-- The rendering state that the shader asks for. -/
def state (s : Shader) : RenderState := RenderState.ofSources [s.vertex, s.pixel]

/-- Whether neither main stage is empty. -/
def isValid (s : Shader) : Bool := s.vertex ≠ [] && s.pixel ≠ []

/-- Whether a line of a text counts as content: it is not blank and not a marker. -/
def isContent (line : Text) : Bool :=
  line.trim ≠ [] && !Marker.word.isPrefixOf line.trim

/-- Whether a text has a line that counts as content. -/
def hasContent (t : Text) : Bool := t.lines.any isContent

/-- Whether both main stages have content. -/
def isSubstantial (s : Shader) : Bool := hasContent s.vertex && hasContent s.pixel

/-- Whether the shader has a geometry stage. -/
def hasGeometry (s : Shader) : Bool := s.geometry?.isSome

/-- Whether the shader has the two stages that tessellation needs. -/
def hasTessellation (s : Shader) : Bool := s.hull?.isSome && s.domain?.isSome

/-- Whether the shader has a compute pass. -/
def hasCompute (s : Shader) : Bool := s.compute?.isSome || !s.variants.isEmpty

/-- What is reported of putting the shader together. -/
def records (s : Shader) : List Record :=
  (RenderState.malformed [s.vertex, s.pixel]).map Record.malformed ++
    match s.hull?, s.domain? with
    | some _, none => [.loneTessellation s.name "hull"]
    | none, some _ => [.loneTessellation s.name "domain"]
    | _, _ => []

end Shader

/-- The shader of a built-in program. -/
def Builtin.shader (b : Builtin) : Shader where
  name := b.program.stem
  vertex := b.vertex
  pixel := b.pixel

end ShaderBundle
