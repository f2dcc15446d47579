import ShaderBundle.Library.Basic
import ShaderBundle.Text.Order
import ShaderBundle.Unvisited
/-!
# Include cycles

A library is sound if its files do not include each other in a circle. The search goes depth first
from every file in the order of paths and follows the lines of each file in order; a file from which
all ways have been followed without meeting the trail is clear and is not entered again. Includes of
files that did not load lead nowhere.
-/

namespace ShaderBundle.Library

/-- The paths of the files that loaded. -/
def paths (lib : Library) : List Path :=
  lib.files.map SourceFile.path

/-- A path at which a file is found is a path of the library. -/
theorem mem_paths_of_find?_eq_some {lib : Library} {path : Path} {file : SourceFile}
    (found : lib.find? path = some file) : path ∈ lib.paths := by
  obtain ⟨listed, same⟩ := mem_of_find?_eq_some found
  exact same ▸ List.mem_map_of_mem listed

/--
Looks for a cycle along the includes `targets` of the last file of the trail, which is kept from its
end to its start. Either the way around a cycle is found, or every target is clear and is added to
those that are.
-/
def searchFrom (lib : Library) (trail clear : List Path) : List Path → Except (List Path) (List Path)
  | [] => .ok clear
  | target :: targets =>
    match _found : lib.find? target with
    | none => searchFrom lib trail clear targets
    | some file =>
      if _met : target ∈ trail then .error (target :: trail).reverse
      else if target ∈ clear then searchFrom lib trail clear targets
      else match searchFrom lib (target :: trail) clear file.targets with
        | .error cycle => .error cycle
        | .ok clear => searchFrom lib trail (target :: clear) targets
termination_by targets => (unvisited lib.paths trail, targets.length)
decreasing_by
  · exact Prod.Lex.right _ (by simp)
  · exact Prod.Lex.right _ (by simp)
  · exact Prod.Lex.left _ _ (unvisited_cons_lt (mem_paths_of_find?_eq_some _found) _met)
  · exact Prod.Lex.right _ (by simp)

/-- The way to and around an include cycle, if there is one: from the first file in the order of paths
from which one can be reached, up to the first file met again. -/
def cycle? (lib : Library) : Option (List Path) :=
  match lib.searchFrom [] [] (sortByKey Path.text lib.paths) with
  | .error cycle => some cycle
  | .ok _ => none

end ShaderBundle.Library
