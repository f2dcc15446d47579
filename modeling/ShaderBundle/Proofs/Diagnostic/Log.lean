import ShaderBundle.Proofs.Diagnostic.Relocation
/-!
# Logs of several lines

What becomes of a line does not depend on the lines around it: two logs that are put together are relocated
each by itself. In a line one location is moved at most. The path that is written in its place is the only
new text beside a numeral, so a log keeps its number of lines unless the name of a file breaks one.
-/

namespace ShaderBundle.FlatSource

variable {s : FlatSource} {t : Text}

/-- The line is what it was, or the one location that it starts with is moved to the origin of its line, with
the column and all that follows left as they are. -/
inductive IsMovedOnce (s : FlatSource) (t : Text) : Text → Prop where
  /-- Nothing is changed. -/
  | kept : IsMovedOnce s t t
  /-- One location is moved. -/
  | moved {file w : Text} {l : Location} {n k : Nat} {path : Path} (named : Location.IsFileName file)
    (stands : l.IsWritten w) (whole : t = file ++ w) (denotes : l.line.Denotes n)
    (origin : s.origin? n = some (path, k)) :
    IsMovedOnce s t (path.text ++ Location.written l.style (Text.decimal k) l.column l.rest)

/-- A file that is the origin of a line is that of a stretch. -/
theorem exists_stretch_of_origin? {n k : Nat} {path : Path} (origin : s.origin? n = some (path, k)) :
    ∃ stretch ∈ s.stretches, stretch.file = path := by
  cases n with
  | zero => cases origin
  | succ n =>
    rw [origin?_succ] at origin
    obtain ⟨place, here, same⟩ := Option.map_eq_some_iff.1 origin
    obtain ⟨stretch, made, inside⟩ := List.mem_flatMap.1 (List.mem_of_getElem? here)
    obtain ⟨index, _, rfl⟩ := List.mem_map.1 inside
    exact ⟨stretch, made, (Prod.mk.inj same).1⟩

/-- In a line that is relocated, one location is moved at most. -/
theorem isMovedOnce_relocateLine (s : FlatSource) (t : Text) : s.IsMovedOnce t (s.relocateLine t) := by
  cases read : Location.ofLine? t with
  | none =>
    rw [relocateLine_of_absent s read]
    exact .kept
  | some l =>
    by_cases inside : ∃ n, l.line.Denotes n ∧ (s.origin? n).isSome = true
    · obtain ⟨n, denotes, isSome⟩ := inside
      obtain ⟨⟨path, k⟩, origin⟩ := Option.isSome_iff_exists.1 isSome
      obtain ⟨file, w, named, stands, whole⟩ := Location.exists_of_ofLine? read
      rw [relocateLine_of_origin? read denotes origin]
      exact .moved named stands whole denotes origin
    · have outside : ∀ n, l.line.Denotes n → n = 0 ∨ s.lineCount < n := by
        intro n denotes
        have beyond := mt isSome_origin?_iff.2 fun isSome => inside ⟨n, denotes, isSome⟩
        omega
      rw [relocateLine_of_outside read outside]
      exact .kept

/-- Where at most one location is moved, a line stays one line, unless the name of a file breaks it. -/
theorem IsMovedOnce.newline_not_mem {out : Text} (once : s.IsMovedOnce t out)
    (named : ∀ stretch ∈ s.stretches, '\n' ∉ stretch.file.text) (unbroken : '\n' ∉ t) : '\n' ∉ out := by
  cases once with
  | kept => exact unbroken
  | @moved file w l n k path _ stands whole _ origin =>
    obtain ⟨stretch, made, rfl⟩ := exists_stretch_of_origin? origin
    obtain ⟨front, _, rfl, _⟩ := stands.exists_front
    have unbroken' : '\n' ∉ l.rest := fun inside => unbroken (by rw [whole]; simp [inside])
    have stands' := Location.isWritten_written (Text.isDigits_decimal k) stands.2.1 l.style l.rest
    rw [List.mem_append, not_or]
    exact ⟨named stretch made, stands'.newline_not_mem unbroken'⟩

/-- Two logs, one behind the other, are relocated each by itself. The induction is on the lines of the first. -/
theorem relocate_append (s : FlatSource) (log more : Text) :
    s.relocate (log ++ '\n' :: more) = s.relocate log ++ '\n' :: s.relocate more := by
  by_cases broken : '\n' ∈ log
  · obtain ⟨first, rest, split, unbroken⟩ := List.eq_append_cons_of_mem broken
    have shorter : rest.length < log.length := by
      rw [split, List.length_append, List.length_cons]
      omega
    have onward := relocate_append s rest more
    rw [split, List.append_assoc, List.cons_append, s.relocate_line_append unbroken, onward,
      s.relocate_line_append unbroken, List.append_assoc, List.cons_append]
  · rw [s.relocate_line_append broken, s.relocate_line broken]
termination_by log.length

/-- How logs are relocated that have several lines. -/
structure IsLinewise (s : FlatSource) : Prop where
  /-- Two logs, one behind the other with a line feed between, are relocated each by itself. -/
  append : ∀ log more, s.relocate (log ++ '\n' :: more) = s.relocate log ++ '\n' :: s.relocate more
  /-- Each line of a log is relocated as it is without the others. -/
  lines : ∀ log, s.relocate log = ['\n'].intercalate ((log.splitOn '\n').map s.relocate)
  /-- A single line is moved to the origin that its location has, and one location at most. -/
  once : ∀ t, '\n' ∉ t → s.IsRelocated t (s.relocate t) ∧ s.IsMovedOnce t (s.relocate t)
  /-- If no name of a file has a line feed, the lines of a log become as many lines, one each. -/
  counted : (∀ stretch ∈ s.stretches, '\n' ∉ stretch.file.text) → ∀ log,
    (s.relocate log).splitOn '\n' = (log.splitOn '\n').map s.relocate ∧
      ((s.relocate log).splitOn '\n').length = (log.splitOn '\n').length

/-- Every log is relocated line by line. -/
theorem isLinewise (s : FlatSource) : s.IsLinewise := by
  have alone (log : Text) : (log.splitOn '\n').map s.relocate = (log.splitOn '\n').map s.relocateLine :=
    List.map_congr_left fun t listed => s.relocate_line (Text.newline_not_mem_of_mem_splitOn listed)
  constructor
  case append => exact s.relocate_append
  case lines =>
    intro log
    rw [alone, s.relocate_eq]
  case once =>
    intro t unbroken
    rw [s.relocate_line unbroken]
    exact ⟨s.isRelocated_relocateLine t, s.isMovedOnce_relocateLine t⟩
  case counted =>
    intro named log
    have apart : (s.relocate log).splitOn '\n' = (log.splitOn '\n').map s.relocate := by
      rw [alone, s.relocate_eq]
      apply List.splitOn_intercalate
      · intro out listed
        obtain ⟨t, inside, rfl⟩ := List.mem_map.1 listed
        have unbroken := Text.newline_not_mem_of_mem_splitOn inside
        exact (s.isMovedOnce_relocateLine t).newline_not_mem named unbroken
      · exact mt List.map_eq_nil_iff.1 (List.splitOn_ne_nil '\n' log)
    exact ⟨apart, by rw [apart, List.length_map]⟩

end ShaderBundle.FlatSource
