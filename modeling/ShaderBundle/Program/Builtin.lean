import ShaderBundle.Program.Basic
import ShaderBundle.Journal
/-!
# Built-in programs

Two programs come with the engine: one for plain colour, one for a single texture. They stand in for
a program that a bundle leaves out, as far as the program's family allows it.
-/

namespace ShaderBundle

/-- A program that comes with the engine. -/
structure Builtin where
  /-- The program it is. -/
  program : Program
  /-- Its vertex stage. -/
  vertex : Text
  /-- Its pixel stage. -/
  pixel : Text
deriving DecidableEq

namespace Builtin

/-- The text with the given lines, each ended by a line feed. -/
def ofLines (ls : List String) : Text := Text.unlines (ls.map String.toList)

/-- Plain colour. -/
def basic : Builtin where
  program := .basic
  vertex := ofLines
    ["cbuffer CameraConstants : register(b0)",
    "\x7b",
    "    float4x4 worldToClip;",
    "\x7d;",
    "",
    "struct VSInput",
    "\x7b",
    "    float3 position : POSITION;",
    "    float4 color    : COLOR;",
    "\x7d;",
    "",
    "struct VSOutput",
    "\x7b",
    "    float4 position : SV_Position;",
    "    float4 color    : COLOR;",
    "\x7d;",
    "",
    "VSOutput main(VSInput input)",
    "\x7b",
    "    VSOutput output;",
    "    output.position = mul(worldToClip, float4(input.position, 1.0));",
    "    output.color = input.color;",
    "    return output;",
    "\x7d"]
  pixel := ofLines
    ["/* RENDERTARGETS:0 */",
    "",
    "struct PSInput",
    "\x7b",
    "    float4 position : SV_Position;",
    "    float4 color    : COLOR;",
    "\x7d;",
    "",
    "float4 main(PSInput input) : SV_Target0",
    "\x7b",
    "    if (input.color.a < 0.1)",
    "    \x7b",
    "        discard;",
    "    \x7d",
    "    return input.color;",
    "\x7d"]

/-- Colour times a texture. -/
def textured : Builtin where
  program := .textured
  vertex := ofLines
    ["cbuffer CameraConstants : register(b0)",
    "\x7b",
    "    float4x4 worldToClip;",
    "\x7d;",
    "",
    "struct VSInput",
    "\x7b",
    "    float3 position : POSITION;",
    "    float4 color    : COLOR;",
    "    float2 uv       : TEXCOORD0;",
    "\x7d;",
    "",
    "struct VSOutput",
    "\x7b",
    "    float4 position : SV_Position;",
    "    float4 color    : COLOR;",
    "    float2 uv       : TEXCOORD0;",
    "\x7d;",
    "",
    "VSOutput main(VSInput input)",
    "\x7b",
    "    VSOutput output;",
    "    output.position = mul(worldToClip, float4(input.position, 1.0));",
    "    output.color = input.color;",
    "    output.uv = input.uv;",
    "    return output;",
    "\x7d"]
  pixel := ofLines
    ["/* RENDERTARGETS:0 */",
    "",
    "Texture2D gtexture : register(t0);",
    "SamplerState gsampler : register(s0);",
    "",
    "struct PSInput",
    "\x7b",
    "    float4 position : SV_Position;",
    "    float4 color    : COLOR;",
    "    float2 uv       : TEXCOORD0;",
    "\x7d;",
    "",
    "float4 main(PSInput input) : SV_Target0",
    "\x7b",
    "    float4 color = gtexture.Sample(gsampler, input.uv) * input.color;",
    "    if (color.a < 0.1)",
    "    \x7b",
    "        discard;",
    "    \x7d",
    "    return color;",
    "\x7d"]

end Builtin

namespace Program

/-- The built-in form of a program. -/
def builtin? : Program → Option Builtin
  | .basic => some .basic
  | .textured => some .textured
  | _ => none

/-- Whether a built-in program may stand in: never for shadows and the final picture, and not for the
plainest program, which is where the others end. -/
def mayBeReplaced (p : Program) : Bool :=
  p.family ≠ .shadow && p.family ≠ .final && p ≠ .basic

/--
The built-in program that stands in for one that is left out: the first of its substitutes that has a
built-in form. It is a fault of the table if a program may be replaced and no substitute has one.
-/
def replacement? (p : Program) : Except Fault (Option Builtin) :=
  if p.mayBeReplaced then
    match p.chain.tail.findSome? builtin? with
    | some b => .ok (some b)
    | none => .error (.brokenChain p (p.chain.getLastD p))
  else .ok none

/-- The same where work goes on without one: a fault of the table is reported, and nothing stands in. -/
def standIn? (p : Program) : Journaled (Option Builtin) :=
  match p.replacement? with
  | .ok builtin? => pure builtin?
  | .error cause => do
    Journaled.report (.fault cause)
    return none

/-- What stands in for a program is what replaces it, if that is no fault. -/
theorem value_standIn? (p : Program) : p.standIn?.value = p.replacement?.toOption.join := by
  rw [standIn?]
  cases p.replacement? <;> rfl

end Program

end ShaderBundle
