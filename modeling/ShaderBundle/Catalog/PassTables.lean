import ShaderBundle.PassArray
import ShaderBundle.Shader
/-!
# Tables of pass arrays

Each pass array has a place for every slot. Most arrays of a bundle are empty, so an array is given its table
when its first slot is filled.
-/

namespace ShaderBundle

/-- The slots of a pass array in order, each with its shader if it is filled. -/
abbrev PassTable := Vector (Option Shader) PassArray.slotCount

/-- The tables of the pass arrays, in the order in which they were made. -/
abbrev PassTables := List (PassArray × PassTable)

namespace PassTable

/-- The table where no slot is filled. -/
def empty : PassTable := .replicate PassArray.slotCount none

/-- The filled slots, in order. -/
def filled (table : PassTable) : List (Nat × Shader) :=
  table.toList.zipIdx.filterMap fun (shader?, slot) => shader?.map fun shader => (slot, shader)

/-- The shaders of the filled slots. -/
def shaders (table : PassTable) : List Shader := table.toList.filterMap id

end PassTable

namespace PassTables

/-- Fills a slot of an array, which is given a table first if it has none. -/
def fill (array : PassArray) (slot : Nat) (shader : Shader) : PassTables → PassTables
  | [] => [(array, PassTable.empty.setIfInBounds slot (some shader))]
  | (other, table) :: rest =>
    if other = array then (other, table.setIfInBounds slot (some shader)) :: rest
    else (other, table) :: fill array slot shader rest

/-- Fills the given slots one after the other. -/
def fillAll (tables : PassTables) (entries : List ((PassArray × Nat) × Shader)) : PassTables :=
  entries.foldl (fun tables entry => tables.fill entry.1.1 entry.1.2 entry.2) tables

/-- The shader in a slot of an array. -/
def get? (tables : PassTables) (array : PassArray) (slot : Nat) : Option Shader :=
  (tables.lookup array).bind fun table => table[slot]?.join

end PassTables

end ShaderBundle
