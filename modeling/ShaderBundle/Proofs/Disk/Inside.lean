import ShaderBundle.Disk.Reader
import ShaderBundle.Proofs.Path.Written
import ShaderBundle.Proofs.Text.ByteOrder
import ShaderBundle.Proofs.Text.Lines
import Mathlib
/-!
# What lies inside a folder

The system finds what is at a path by going down from the bundle's folder. So whatever it finds lies in a
folder that it finds as well, and is listed there; the limits on the length of a place leave no gap, since
the place of the folder is the shorter one. A file has lines exactly if its bytes are UTF-8.
-/

namespace ShaderBundle

/-- The bytes of two texts add up. -/
theorem Text.byteCount_append (s t : Text) : byteCount (s ++ t) = byteCount s + byteCount t := by
  induction s with
  | nil => rw [List.nil_append, byteCount, Nat.zero_add]
  | cons c s ih => rw [List.cons_append, byteCount, byteCount, ih, Nat.add_assoc]

namespace Entry

/-- Going down to a name leads to what the folder above has by it. -/
theorem walk_concat_eq_ok_iff {e found : Entry} {names : List Segment} {name : Segment} :
    e.walk (names ++ [name]) = .ok found ↔ ∃ content, e.walk names = .ok (.folder content) ∧
      name.text.byteCount ≤ longestSegment ∧ content.lookup name = some found := by
  induction names generalizing e with
  | nil =>
    cases e with
    | file bytes => simp [walk]
    | folder content =>
      simp only [List.nil_append, walk]
      by_cases long : longestSegment < name.text.byteCount
      · simp [long]
      · have short : name.text.byteCount ≤ longestSegment := by omega
        cases listed : content.lookup name with
        | none => simp [long, listed]
        | some child => simp [long, listed, short]
  | cons first rest ih =>
    cases e with
    | file bytes => simp [walk]
    | folder content =>
      rw [List.cons_append, walk, walk]
      by_cases long : longestSegment < first.text.byteCount
      · simp [long]
      · rw [if_neg long, if_neg long]
        cases content.lookup first with
        | none => simp
        | some child => exact ih

/-- The names in a folder are those that it has something by. -/
theorem mem_names_of_lookup {content : List (Segment × Entry)} {name : Segment} {e : Entry}
    (listed : content.lookup name = some e) : name ∈ (folder content).names := by
  rw [names, mem_sortByKey Segment.text_injective]
  obtain ⟨before, behind, rfl, _⟩ := List.lookup_eq_some_iff.1 listed
  simp

end Entry

namespace Disk

variable {d : Disk} {p : Path} {name : Segment} {e : Entry}

/-- The system finds what going down leads to, unless it cannot take the place. -/
theorem entryAt_eq_ok_iff :
    d.entryAt p = .ok e ↔ '\x00' ∉ p.below d.place ∧ (p.below d.place).byteCount ≤ longestPlace ∧
      d.top.walk p.segments = .ok e := by
  rw [entryAt]
  by_cases nul : '\x00' ∈ p.below d.place
  · simp [nul]
  · by_cases long : longestPlace < (p.below d.place).byteCount
    · have beyond : ¬ (p.below d.place).byteCount ≤ longestPlace := by omega
      simp [nul, long, beyond]
    · have fits : (p.below d.place).byteCount ≤ longestPlace := by omega
      simp [nul, long, fits]

/-- What the system finds inside a folder, that folder has by its name. -/
theorem exists_folder_of_child (lies : d.entryAt (p.child name) = .ok e) :
    ∃ content, d.entryAt p = .ok (.folder content) ∧ content.lookup name = some e := by
  obtain ⟨clean, fits, found⟩ := entryAt_eq_ok_iff.1 lies
  obtain ⟨content, above, _, listed⟩ := Entry.walk_concat_eq_ok_iff.1 found
  -- the place of the folder is the beginning of the longer one, so no limit stops the system there
  obtain ⟨rest, longer⟩ := Path.prefix_putBehind (p.below d.place) name.text
  rw [Path.below_child, ← longer] at clean fits
  have clean' : '\x00' ∉ p.below d.place := fun inside => clean (List.mem_append_left _ inside)
  have fits' : (p.below d.place).byteCount ≤ longestPlace := by
    rw [Text.byteCount_append] at fits
    omega
  exact ⟨content, entryAt_eq_ok_iff.2 ⟨clean', fits', above⟩, listed⟩

/-- What the system finds inside a folder is listed there. -/
theorem mem_inside_of_child (lies : d.entryAt (p.child name) = .ok e) : p.child name ∈ d.inside p := by
  obtain ⟨content, above, listed⟩ := exists_folder_of_child lies
  rw [inside, above]
  exact List.mem_map_of_mem (Entry.mem_names_of_lookup listed)

/-- What is listed in a folder lies inside it. -/
theorem exists_child_of_mem_inside {q : Path} (listed : q ∈ d.inside p) : ∃ name, q = p.child name := by
  rw [inside] at listed
  split at listed
  · obtain ⟨name, _, rfl⟩ := List.mem_map.1 listed
    exact ⟨name, rfl⟩
  · exact absurd listed List.not_mem_nil

/-- There is a folder where the system finds one. -/
theorem isFolder_eq_true_iff : d.isFolder p = true ↔ ∃ content, d.entryAt p = .ok (.folder content) := by
  rw [isFolder]
  cases d.entryAt p with
  | error cause => simp
  | ok e => cases e <;> simp [Entry.isFolder]

/-- There is a file where the system finds one. -/
theorem isFile_eq_true_iff : d.isFile p = true ↔ ∃ bytes, d.entryAt p = .ok (.file bytes) := by
  rw [isFile]
  cases d.entryAt p with
  | error cause => simp
  | ok e => cases e <;> simp [Entry.isFolder]

/-- What is a file is no folder. -/
theorem isFolder_eq_false_of_isFile (file : d.isFile p = true) : d.isFolder p = false := by
  obtain ⟨bytes, lies⟩ := isFile_eq_true_iff.1 file
  rw [isFolder, lies]
  rfl

/-- Only from a file are lines read. -/
theorem isFile_of_read {ls : List Text} (read : d.reader.read p = .ok ls) : d.isFile p = true := by
  rw [isFile_eq_true_iff]
  change (d.readLines p).mapError DiskFault.message = .ok ls at read
  rw [readLines] at read
  split at read
  · contradiction
  · contradiction
  · next bytes lies => exact ⟨bytes, lies⟩

/-- The lines of a file on a disk are those of its text. -/
theorem read_of_file {bytes : ByteArray} {text : String} (lies : d.entryAt p = .ok (.file bytes))
    (decoded : String.fromUTF8? bytes = some text) :
    d.reader.read p = .ok (Text.lines text.toList) := by
  show (d.readLines p).mapError DiskFault.message = _
  rw [readLines, lies]
  dsimp only
  rw [decoded]
  rfl

/-- No line that is read has a line feed in it. -/
theorem newline_not_mem_of_read {ls : List Text} (read : d.reader.read p = .ok ls) : ∀ l ∈ ls, '\n' ∉ l := by
  obtain ⟨bytes, lies⟩ := isFile_eq_true_iff.1 (isFile_of_read read)
  change (d.readLines p).mapError DiskFault.message = .ok ls at read
  rw [readLines, lies] at read
  dsimp only at read
  split at read
  · contradiction
  · obtain rfl := Except.ok.inj read
    exact fun l listed => Text.newline_not_mem_of_mem_lines listed

/-- From a file lines are read if its bytes are UTF-8. -/
theorem exists_read_of_file_iff {bytes : ByteArray} (lies : d.entryAt p = .ok (.file bytes)) :
    (∃ ls, d.reader.read p = .ok ls) ↔ bytes.IsValidUTF8 := by
  show (∃ ls, (d.readLines p).mapError DiskFault.message = .ok ls) ↔ _
  rw [readLines, lies]
  by_cases valid : bytes.IsValidUTF8
  · simp [String.fromUTF8?, valid, Except.mapError]
  · simp [String.fromUTF8?, valid, Except.mapError]

end Disk

end ShaderBundle
