import ShaderBundle.SourceFile
/-!
# Libraries

A library is what reading a bundle's files came to: the files that loaded, and the paths that did not,
each with the reason.
-/

namespace ShaderBundle

/-- The outcome of reading one path. -/
structure Reading where
  /-- The path that was read. -/
  path : Path
  /-- The file there, or why it did not load. -/
  outcome : Except String SourceFile

/-- The files that loaded and the paths that failed. -/
structure Library where
  /-- The files that loaded, in the order of reading. -/
  files : List SourceFile
  /-- The paths that failed to load, each with the reason, in the order of reading. -/
  failures : List (Path × String)

namespace Library

/-- The file at a path, if it loaded. -/
def find? (lib : Library) (path : Path) : Option SourceFile :=
  lib.files.find? fun file => file.path = path

/-- What `find?` returns is a file of the library, and lies at the path. -/
theorem mem_of_find?_eq_some {lib : Library} {path : Path} {file : SourceFile}
    (found : lib.find? path = some file) : file ∈ lib.files ∧ file.path = path :=
  ⟨List.mem_of_find?_eq_some found, by simpa using List.find?_some found⟩

/-- Sorts the outcomes of reading into files and failures. -/
def ofReadings (readings : List Reading) : Library where
  files := readings.filterMap fun reading => reading.outcome.toOption
  failures := readings.filterMap fun reading =>
    match reading.outcome with
    | .ok _ => none
    | .error reason => some (reading.path, reason)

/-- The number of paths read. -/
def size (lib : Library) : Nat := lib.files.length + lib.failures.length

end Library

end ShaderBundle
