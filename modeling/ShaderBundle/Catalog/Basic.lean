import ShaderBundle.Catalog.PassTables
import ShaderBundle.Catalog.Search
/-!
# Catalogs

A catalog holds the shaders that a bundle provides for one dimension: those of single programs, and
those of the slots of pass arrays. For a program that it lacks, the chain of substitutes is tried, and
in the end a built-in program.
-/

namespace ShaderBundle

/-- The shaders of one dimension. -/
structure Catalog where
  /-- The name of the dimension. -/
  dimension : Text
  /-- The single programs, in the order of listings. -/
  programs : List (Program × Shader)
  /-- The tables of the pass arrays. -/
  tables : PassTables
deriving DecidableEq

/-- Where the shader for a program is from. -/
inductive Resolution where
  /-- The bundle provides it, as the program itself or as one of its substitutes. -/
  | provided (program : Program) (shader : Shader)
  /-- It is built in. -/
  | builtin (b : Builtin)
deriving DecidableEq

/-- How much a catalog holds. -/
structure Census where
  /-- The number of single programs. -/
  programs : Nat
  /-- The number of filled slots. -/
  passes : Nat
  /-- How many of them all have a geometry stage. -/
  withGeometry : Nat
  /-- How many have both tessellation stages. -/
  withTessellation : Nat
  /-- How many have a compute pass. -/
  withCompute : Nat
deriving DecidableEq

namespace Catalog

/-- The shader of a single program. -/
def get? (c : Catalog) (program : Program) : Option Shader := c.programs.lookup program

/-- Whether the catalog holds a single program. -/
def contains (c : Catalog) (program : Program) : Bool := (c.get? program).isSome

/-- The first along a program's chain of substitutes that the catalog holds. -/
def withSubstitute? (c : Catalog) (program : Program) : Option (Program × Shader) :=
  program.chain.findSome? fun candidate => (c.get? candidate).map fun shader => (candidate, shader)

/-- The shader for a program: the bundle's own, or a built-in one where the program may be replaced. -/
def resolve (c : Catalog) (program : Program) : Journaled (Option Resolution) :=
  match c.withSubstitute? program with
  | some (provider, shader) => pure (some (.provided provider shader))
  | none => do
    let builtin? ← program.standIn?
    return builtin?.map .builtin

/-- The shader in a slot of an array. -/
def getPass? (c : Catalog) (array : PassArray) (slot : Nat) : Option Shader := c.tables.get? array slot

/-- The filled slots of an array, in order. -/
def slots (c : Catalog) (array : PassArray) : List (Nat × Shader) :=
  (c.tables.lookup array).toList.flatMap PassTable.filled

/-- The filled slots of all arrays, array by array. -/
def passes (c : Catalog) : List ((PassArray × Nat) × Shader) :=
  PassArray.all.flatMap fun array => (c.slots array).map fun (slot, shader) => ((array, slot), shader)

/-- The single programs whose shader has two main stages that are not empty, with their shaders. -/
def validPrograms (c : Catalog) : List (Program × Shader) :=
  c.programs.filter fun (_, shader) => shader.isValid

/-- Those programs alone. -/
def valid (c : Catalog) : List Program := c.validPrograms.map Prod.fst

/-- Every shader that the catalog holds. -/
def shaders (c : Catalog) : List Shader :=
  c.programs.map Prod.snd ++ c.tables.flatMap fun (_, table) => table.shaders

/-- Counts what the catalog holds. -/
def census (c : Catalog) : Census where
  programs := c.programs.length
  passes := c.shaders.length - c.programs.length
  withGeometry := c.shaders.countP Shader.hasGeometry
  withTessellation := c.shaders.countP Shader.hasTessellation
  withCompute := c.shaders.countP Shader.hasCompute

/-- The slots of every array, with their names. -/
def slotNames : List ((PassArray × Nat) × Text) :=
  PassArray.all.flatMap fun array =>
    (List.range PassArray.slotCount).filterMap fun slot =>
      (array.slotName? slot).map fun name => ((array, slot), name)

/-- Those of the given things whose name is provided by one of the folders, with their shaders. -/
def gather {α : Type} (lib : Library) (markers : Bool) (folders : List Path) :
    List (α × Text) → Journaled (List (α × Shader))
  | [] => pure []
  | (key, name) :: rest => do
    let shader? ← lib.search markers folders name
    let others ← gather lib markers folders rest
    return (shader?.map fun shader => (key, shader)).toList ++ others

/-- Looks up every program and every slot in a list of folders. -/
def load (dimension : Text) (lib : Library) (folders : List Path) (markers : Bool) :
    Journaled Catalog := do
  let programs ← gather lib markers folders (Program.all.map fun p => (p, p.stem))
  let passes ← gather lib markers folders slotNames
  let catalog : Catalog := ⟨dimension, programs, PassTables.fillAll [] passes⟩
  Journaled.report (.cataloged dimension catalog.census.programs catalog.census.passes)
  return catalog

end Catalog

end ShaderBundle
