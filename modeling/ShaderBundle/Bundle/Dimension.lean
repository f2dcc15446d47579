import ShaderBundle.Text.Basic
/-!
# Dimension names

The engine names a dimension by a namespace and a name in it; a bundle names it by a folder. The three
dimensions that every world has are given folders by number, any other dimension the folder of its name.
-/

namespace ShaderBundle

/-- The engine's name of a dimension. -/
structure DimensionId where
  /-- The namespace. -/
  space : Text
  /-- The name in the namespace. -/
  name : Text
deriving DecidableEq

namespace DimensionId

/-- The namespace of what belongs to the game itself. -/
def ownSpace : String := "minecraft"

/-- The folders of the dimensions that every world has, by their names. -/
def ownFolders : List (String × String) :=
  [("overworld", "world0"), ("the_nether", "world-1"), ("the_end", "world1")]

/-- Reads a name, in which a colon ends the namespace; without a colon it belongs to the game itself. -/
def ofText (t : Text) : DimensionId :=
  match t.dropWhile (· ≠ ':') with
  | _ :: name => ⟨t.takeWhile (· ≠ ':'), name⟩
  | [] => ⟨ownSpace.toList, t⟩

/-- The name as it is written. -/
def text (d : DimensionId) : Text := d.space ++ ':' :: d.name

/-- The folder that a bundle gives to the dimension. -/
def folderName (d : DimensionId) : Text :=
  let own? := ownFolders.find? fun (name, _) => d = ⟨ownSpace.toList, name.toList⟩
  (own?.map fun (_, folder) => folder.toList).getD d.name

end DimensionId

end ShaderBundle
