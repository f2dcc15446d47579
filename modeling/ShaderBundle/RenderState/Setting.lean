import ShaderBundle.RenderState.Basic
import ShaderBundle.RenderState.Comment
import ShaderBundle.Number.Decimal
/-!
# Settings

A directive comment whose value can be read is a setting of the rendering state. Of several settings of
one thing the last counts. Render targets have two keys, of which `RENDERTARGETS` goes before
`DRAWBUFFERS`, wherever the two stand.
-/

namespace ShaderBundle

/-- One setting of the rendering state. -/
inductive Setting where
  /-- The targets, one digit each. -/
  | drawBuffers (targets : List UInt32)
  /-- The targets, in a list. -/
  | renderTargets (targets : List UInt32)
  /-- The blending. -/
  | blend (mode : Blend)
  /-- The depth test. -/
  | depthTest (comparison : Comparison)
  /-- The faces to cull. -/
  | cullFace (faces : Culling)
  /-- Whether depth is written. -/
  | depthWrite (enabled : Bool)
  /-- The alpha test. -/
  | alphaTest (test : AlphaTest)
  /-- The format of a target. -/
  | format (target : UInt32) (name : Text)
deriving DecidableEq

/-- The meaning of a word in a table of upper-case words; the case of ASCII letters does not count. -/
def meaning? {α : Type} (table : List (String × α)) (t : Text) : Option α :=
  table.findSome? fun (word, meaning) => if word.toList = Text.upper t then some meaning else none

/-- The names of blend factors. -/
def BlendFactor.words : List (String × BlendFactor) :=
  [("ZERO", .zero), ("ONE", .one),
    ("SRC_COLOR", .srcColor), ("ONE_MINUS_SRC_COLOR", .oneMinusSrcColor),
    ("INV_SRC_COLOR", .oneMinusSrcColor),
    ("DST_COLOR", .dstColor), ("ONE_MINUS_DST_COLOR", .oneMinusDstColor),
    ("INV_DST_COLOR", .oneMinusDstColor),
    ("SRC_ALPHA", .srcAlpha), ("ONE_MINUS_SRC_ALPHA", .oneMinusSrcAlpha),
    ("INV_SRC_ALPHA", .oneMinusSrcAlpha),
    ("DST_ALPHA", .dstAlpha), ("ONE_MINUS_DST_ALPHA", .oneMinusDstAlpha),
    ("INV_DST_ALPHA", .oneMinusDstAlpha),
    ("SRC_ALPHA_SATURATE", .srcAlphaSaturate), ("SRC_ALPHA_SAT", .srcAlphaSaturate)]

/-- The names of usual blends. -/
def Blend.words : List (String × Blend) :=
  [("OFF", .off), ("NONE", .off), ("ALPHA", .alpha), ("ADD", .add), ("ADDITIVE", .add),
    ("MULTIPLY", .multiply)]

/-- The names of comparisons; a test that is off always passes. -/
def Comparison.words : List (String × Comparison) :=
  [("NEVER", .never), ("LESS", .less), ("EQUAL", .equal), ("LEQUAL", .lessEqual),
    ("LESS_EQUAL", .lessEqual), ("GREATER", .greater), ("NOTEQUAL", .notEqual),
    ("NOT_EQUAL", .notEqual), ("GEQUAL", .greaterEqual), ("GREATER_EQUAL", .greaterEqual),
    ("ALWAYS", .always), ("OFF", .always)]

/-- The names of faces to cull. -/
def Culling.words : List (String × Culling) :=
  [("NONE", .none), ("OFF", .none), ("FRONT", .front), ("BACK", .back)]

/-- The words for yes and no. -/
def switchWords : List (String × Bool) :=
  [("TRUE", true), ("ON", true), ("1", true), ("FALSE", false), ("OFF", false), ("0", false)]

/-- Reads a blend: the name of one, or four factors. -/
def Blend.ofText? (t : Text) : Option Blend :=
  match t.words with
  | [name] => meaning? Blend.words name
  | [a, b, c, d] => do
    let source ← meaning? BlendFactor.words a
    let destination ← meaning? BlendFactor.words b
    let sourceAlpha ← meaning? BlendFactor.words c
    let destinationAlpha ← meaning? BlendFactor.words d
    return .factors source destination sourceAlpha destinationAlpha
  | _ => none

/-- Reads an alpha test: the word for none, or a comparison and its reference. -/
def AlphaTest.ofText? (t : Text) : Option AlphaTest :=
  match t.words with
  | [word] => if Text.upper word = "OFF".toList then some .off else none
  | [comparison, reference] => do
    let comparison ← meaning? Comparison.words comparison
    let reference ← Binary32.ofText? reference
    return .against comparison reference
  | _ => none

namespace Setting

/-- Reads the number of a target. -/
def target? (t : Text) : Option UInt32 :=
  (Text.unsigned? (UInt32.size - 1) t).map UInt32.ofNat

/-- Reads targets written as one digit each. -/
def digitTargets? (t : Text) : Option (List UInt32) :=
  if t = [] then none else t.mapM fun digit => target? [digit]

/-- Reads targets written with commas between them. -/
def listedTargets? (t : Text) : Option (List UInt32) :=
  (t.splitOn ',').mapM fun piece => target? (Text.trim piece)

/-- Reads a target and, after the first colon, its format. -/
def format? (t : Text) : Option (UInt32 × Text) := do
  let target ← target? (Text.trim (t.takeWhile (· ≠ ':')))
  let name ← [':'].isPrefixOf? (t.dropWhile (· ≠ ':'))
  if Text.trim name = [] then none else some (target, Text.trim name)

/-- Reads the value of a directive; none for one that is malformed. -/
def ofComment? (c : Comment) : Option Setting :=
  match c.key with
  | .drawBuffers => (digitTargets? c.value).map .drawBuffers
  | .renderTargets => (listedTargets? c.value).map .renderTargets
  | .blend => (Blend.ofText? c.value).map .blend
  | .depthTest => (meaning? Comparison.words c.value).map .depthTest
  | .cullFace => (meaning? Culling.words c.value).map .cullFace
  | .depthWrite => (meaning? switchWords c.value).map .depthWrite
  | .alphaTest => (AlphaTest.ofText? c.value).map .alphaTest
  | .format => (format? c.value).map fun (target, name) => .format target name

/-- The formats with that of one target set. -/
def putFormat (target : UInt32) (name : Text) : List (UInt32 × Text) → List (UInt32 × Text)
  | [] => [(target, name)]
  | (other, otherName) :: rest =>
    if target < other then (target, name) :: (other, otherName) :: rest
    else if target = other then (target, name) :: rest
    else (other, otherName) :: putFormat target name rest

end Setting

/-- A rendering state while its settings are read. The targets of the two keys are kept apart until all are
read, since it does not matter which key comes last. -/
structure Draft where
  /-- What the settings come to so far, without the targets. -/
  state : RenderState := {}
  /-- The targets named by digits, if any were. -/
  digits? : Option (List UInt32) := none
  /-- The targets named in a list, if any were. -/
  listed? : Option (List UInt32) := none
deriving DecidableEq

namespace Draft

/-- Puts a setting in, in the place of an earlier one of the same thing. -/
def put (draft : Draft) : Setting → Draft
  | .drawBuffers targets => { draft with digits? := some targets }
  | .renderTargets targets => { draft with listed? := some targets }
  | .blend mode => { draft with state.blend? := some mode }
  | .depthTest comparison => { draft with state.depthTest? := some comparison }
  | .cullFace faces => { draft with state.culling? := some faces }
  | .depthWrite enabled => { draft with state.depthWrite? := some enabled }
  | .alphaTest test => { draft with state.alphaTest? := some test }
  | .format target name =>
    { draft with state.formats := Setting.putFormat target name draft.state.formats }

/-- The state once all settings are read. -/
def finish (draft : Draft) : RenderState :=
  match draft.listed?.or draft.digits? with
  | some targets => { draft.state with targets := targets, namesTargets := true }
  | none => draft.state

end Draft

namespace RenderState

/-- The rendering state that some settings ask for. -/
def ofSettings (settings : List Setting) : RenderState := (settings.foldl Draft.put {}).finish

/-- The directive comments of several sources, source by source. -/
def comments (sources : List Text) : List Comment := sources.flatMap Comment.scan

/-- The rendering state that several sources ask for; later sources override earlier ones. -/
def ofSources (sources : List Text) : RenderState :=
  ofSettings ((comments sources).filterMap Setting.ofComment?)

/-- The directive comments of several sources that are malformed. -/
def malformed (sources : List Text) : List Comment :=
  (comments sources).filter fun c => (Setting.ofComment? c).isNone

end RenderState

end ShaderBundle
