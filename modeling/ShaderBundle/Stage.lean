import ShaderBundle.Text.Basic
/-!
# Stages

The stages of the pipeline that a program has a file for, told apart by the end of the file's name.
-/

namespace ShaderBundle

/-- A stage of the pipeline. -/
inductive Stage where
  | vertex
  | pixel
  | geometry
  | hull
  | domain
  | compute
deriving DecidableEq

namespace Stage

/-- Every stage, in the order of listings. -/
def all : List Stage := [.vertex, .pixel, .geometry, .hull, .domain, .compute]

/-- The ending of the names of the stage's files, as it is written. -/
def extension : Stage → String
  | .vertex => ".vs.hlsl"
  | .pixel => ".ps.hlsl"
  | .geometry => ".gs.hlsl"
  | .hull => ".hs.hlsl"
  | .domain => ".ds.hlsl"
  | .compute => ".cs.hlsl"

/-- What the names of the stage's files end with. -/
def ending (s : Stage) : Text := s.extension.toList

/-- The name by which listings speak of the stage. -/
def label : Stage → String
  | .vertex => "Vertex"
  | .pixel => "Pixel"
  | .geometry => "Geometry"
  | .hull => "Hull"
  | .domain => "Domain"
  | .compute => "Compute"

/-- The stage that a file of the given name is for. -/
def ofFileName? (name : Text) : Option Stage :=
  all.find? fun s => s.ending.isSuffixOf name

/-- The name of a program's file for the stage. -/
def fileName (s : Stage) (stem : Text) : Text := stem ++ s.ending

end Stage

/-- The letters of the further compute passes of a program, in the order of their dispatch. -/
def passLetters : List Char :=
  ['a', 'b', 'c', 'd', 'e', 'f', 'g', 'h', 'i', 'j', 'k', 'l', 'm', 'n', 'o', 'p', 'q', 'r', 's',
    't', 'u', 'v', 'w', 'x', 'y', 'z']

end ShaderBundle
