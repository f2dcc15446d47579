import ShaderBundle.Disk.Basic
import ShaderBundle.Reader
/-!
# Reading from a disk

A disk is a reader of its files. It knows finitely many paths, those of the files in its tree.
-/

namespace ShaderBundle

namespace Entry

/-- The ways down to the files of a tree. -/
def files : Entry → List (List Segment)
  | .file _ => [[]]
  | .folder content => content.attach.flatMap fun ⟨(name, e), _⟩ => (files e).map (name :: ·)
decreasing_by
  have := List.sizeOf_lt_of_mem ‹_›
  simp at this ⊢
  omega

/-- A way down that ends at a file is one of the listed ways. -/
theorem mem_files_of_walk {e : Entry} {names : List Segment} {bytes : ByteArray}
    (found : e.walk names = .ok (.file bytes)) : names ∈ e.files := by
  induction names generalizing e with
  | nil =>
    simp only [walk, Except.ok.injEq] at found
    simp [found, files]
  | cons name rest ih =>
    cases e with
    | file old => simp [walk] at found
    | folder content =>
      simp only [walk] at found
      split at found
      · cases found
      · split at found
        · cases found
        · next e at_name =>
          have listed : (name, e) ∈ content := by
            obtain ⟨before, behind, rfl, _⟩ := List.lookup_eq_some_iff.1 at_name
            simp
          rw [files]
          simp only [List.mem_flatMap, List.mem_attach, true_and, Subtype.exists, Prod.exists]
          exact ⟨name, e, listed, List.mem_map_of_mem (ih found)⟩

end Entry

namespace Disk

/-- A path that can be read leads to a file of the tree. -/
theorem mem_files_of_readLines {d : Disk} {p : Path} {ls : List Text}
    (found : d.readLines p = .ok ls) : p.segments ∈ d.top.files := by
  unfold readLines at found
  split at found
  · cases found
  · cases found
  · next bytes at_path =>
    simp only [entryAt] at at_path
    split at at_path
    · cases at_path
    · split at at_path
      · cases at_path
      · exact Entry.mem_files_of_walk at_path

/-- The disk as a reader. -/
def reader (d : Disk) : Reader where
  read p := (d.readLines p).mapError DiskFault.message
  known := d.top.files.map Path.mk
  mem_known := by
    intro p ls found
    cases read : d.readLines p with
    | error cause =>
      rw [read] at found
      cases found
    | ok lines =>
      exact List.mem_map.2 ⟨p.segments, mem_files_of_readLines read, rfl⟩

end Disk

end ShaderBundle
