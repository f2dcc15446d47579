import Mathlib.Logic.Relation
import ShaderBundle.Library.Cycle
/-!
# The include relation

The files of a library form a graph: a file leads to the files that its lines include, as far as they
loaded. What cycles, flattening and the order of flattened lines have to say is said about this relation
and the paths along it.
-/

namespace ShaderBundle

open Relation (ReflTransGen)

/-- A file includes what its lines include. -/
theorem SourceFile.mem_targets_iff {file : SourceFile} {target : Path} :
    target ∈ file.targets ↔ ∃ line ∈ file.lines, line.target? = some target :=
  List.mem_filterMap

namespace Library

/-- The paths of a library are those at which a file is found. -/
theorem mem_paths_iff {lib : Library} {path : Path} :
    path ∈ lib.paths ↔ ∃ file, lib.find? path = some file := by
  constructor
  · intro listed
    obtain ⟨file, loaded, rfl⟩ := List.mem_map.1 listed
    exact Option.isSome_iff_exists.1 (List.find?_isSome.2 ⟨file, loaded, by simp⟩)
  · rintro ⟨file, found⟩
    exact mem_paths_of_find?_eq_some found

/-- Nothing is found at the other paths. -/
theorem find?_eq_none_iff {lib : Library} {path : Path} : lib.find? path = none ↔ path ∉ lib.paths := by
  rw [mem_paths_iff, not_exists]
  exact Option.eq_none_iff_forall_ne_some

/-- One file of the library includes another. -/
def Includes (lib : Library) (p q : Path) : Prop :=
  ∃ file, lib.find? p = some file ∧ q ∈ file.targets ∧ q ∈ lib.paths

/-- What includes a file is a file of the library. -/
theorem Includes.source_mem {lib : Library} {p q : Path} (included : lib.Includes p q) : p ∈ lib.paths := by
  obtain ⟨file, found, _⟩ := included
  exact mem_paths_of_find?_eq_some found

/-- What is included is a file of the library. -/
theorem Includes.target_mem {lib : Library} {p q : Path} (included : lib.Includes p q) : q ∈ lib.paths := by
  obtain ⟨_, _, _, listed⟩ := included
  exact listed

/-- Following includes between files of the library leads from one path to another, in any number of
steps. -/
abbrev Reaches (lib : Library) (p q : Path) : Prop := ReflTransGen lib.Includes p q

end Library

end ShaderBundle
