import ShaderBundle.Number.Binary32
import ShaderBundle.Text.Basic
/-!
# Rendering state

What a program asks of the pipeline: the targets it draws to, how its output is blended, which tests
pixels have to pass, and the formats of targets.
-/

namespace ShaderBundle

/-- What a colour is multiplied by when it is blended. -/
inductive BlendFactor where
  | zero
  | one
  | srcColor
  | oneMinusSrcColor
  | dstColor
  | oneMinusDstColor
  | srcAlpha
  | oneMinusSrcAlpha
  | dstAlpha
  | oneMinusDstAlpha
  | srcAlphaSaturate
deriving DecidableEq

/-- How a program's output is combined with what was drawn before. -/
inductive Blend where
  /-- It replaces it. -/
  | off
  /-- Both are multiplied by factors, apart for colour and alpha, and added. -/
  | factors (source destination sourceAlpha destinationAlpha : BlendFactor)
deriving DecidableEq

namespace Blend

/-- The output covers what was drawn before as far as it is opaque. -/
def alpha : Blend := .factors .srcAlpha .oneMinusSrcAlpha .one .oneMinusSrcAlpha

/-- The output is added. -/
def add : Blend := .factors .one .one .one .one

/-- What was drawn before is multiplied by the output. -/
def multiply : Blend := .factors .dstColor .zero .dstAlpha .zero

end Blend

/-- How two values are compared by a test. -/
inductive Comparison where
  | never
  | less
  | equal
  | lessEqual
  | greater
  | notEqual
  | greaterEqual
  | always
deriving DecidableEq

/-- Which faces are not drawn. -/
inductive Culling where
  | none
  | front
  | back
deriving DecidableEq

/-- Which pixels are kept by their alpha. -/
inductive AlphaTest where
  /-- All. -/
  | off
  /-- Those that compare so to the reference. -/
  | against (comparison : Comparison) (reference : Binary32)
deriving DecidableEq

/-- The rendering state that a program asks for. -/
structure RenderState where
  /-- The targets that the pixel stage writes, in the order of its outputs. -/
  targets : List UInt32 := [0]
  /-- Whether the program names its targets. -/
  namesTargets : Bool := false
  /-- How output is blended. -/
  blend? : Option Blend := none
  /-- The depth test. -/
  depthTest? : Option Comparison := none
  /-- Which faces are culled. -/
  culling? : Option Culling := none
  /-- Whether depth is written. -/
  depthWrite? : Option Bool := none
  /-- The alpha test. -/
  alphaTest? : Option AlphaTest := none
  /-- The formats of targets, ascending by target, each target once. -/
  formats : List (UInt32 × Text) := []
deriving DecidableEq

end ShaderBundle
