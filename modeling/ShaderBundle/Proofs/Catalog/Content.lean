import ShaderBundle.Proofs.Flat.Marked
import ShaderBundle.Shader
/-!
# What has content

Whether a flat text has content is decided by the lines that flattening keeps, and so by the files that
are reached. Markers are no content, and the carriage return that may end a line makes no difference to
it, so a text has content with markers exactly if it has content without.
-/

namespace ShaderBundle

namespace Shader

/-- A line is content if something is left of it after trimming that does not start like a marker. -/
theorem isContent_iff {t : Text} :
    isContent t = true ↔ t.trim ≠ [] ∧ ¬ Marker.word <+: t.trim := by
  rw [isContent, Bool.and_eq_true, Bool.not_eq_true', ← Bool.not_eq_true, List.isPrefixOf_iff_prefix,
    decide_eq_true_eq]

/-- A marker is no content. -/
theorem isContent_text (m : Marker) : isContent m.text = false := by
  have starts : Marker.word <+: m.text := by
    rw [Marker.text, List.append_assoc, List.append_assoc]
    exact List.prefix_append Marker.word _
  rw [← Bool.not_eq_true, isContent_iff]
  exact fun content => content.2 (Marker.word_prefix_trim starts)

/-- Content does not depend on the carriage return that may end a line. -/
theorem isContent_dropReturn (t : Text) : isContent t.dropReturn = isContent t := by
  rw [isContent, isContent, Text.trim_dropReturn]

/-- A text that is made of lines has content if one of them is content. -/
theorem hasContent_unlines {ls : List Text} (unbroken : ∀ l ∈ ls, '\n' ∉ l) :
    hasContent (Text.unlines ls) = ls.any isContent := by
  have content : isContent ∘ Text.dropReturn = isContent := funext isContent_dropReturn
  rw [hasContent, Text.lines_unlines_of_unbroken unbroken, List.any_map, content]

/-- For that, no line feed may stand in that line; the others do not matter. -/
theorem hasContent_unlines_of_mem {ls : List Text} {l : Text} (listed : l ∈ ls) (unbroken : '\n' ∉ l)
    (content : isContent l = true) : hasContent (Text.unlines ls) = true := by
  have whole : l.splitOn '\n' = [l] := List.splitOn_eq_singleton unbroken
  rw [hasContent, Text.lines_unlines, List.any_flatMap, List.any_eq_true]
  refine ⟨l, listed, ?_⟩
  rw [whole, List.map_singleton, List.any_cons, isContent_dropReturn, content, Bool.true_or]

/-- The empty text has no content. -/
theorem ne_nil_of_hasContent {t : Text} (content : hasContent t = true) : t ≠ [] := by
  rintro rfl
  contradiction

end Shader

namespace Library

variable {lib : Library} {path : Path} {file : SourceFile}

/-- A file of the library is live if a file reached from it keeps a line that is not blank and does not
start like a marker. -/
def IsLive (lib : Library) (path : Path) : Prop :=
  path ∈ lib.paths ∧ ∃ f file line, lib.Reaches path f ∧ lib.find? f = some file ∧ line ∈ file.lines ∧
    lib.IsKept line ∧ line.text.trim ≠ [] ∧ ¬ Marker.word <+: line.text.trim

/-- A file is live if flattening yields content. -/
theorem any_isContent_expand (found : lib.find? path = some file) :
    ((lib.expand file).map fun l => l.line.text).any Shader.isContent = true ↔ lib.IsLive path := by
  rw [List.any_map, List.any_eq_true]
  refine (exists_mem_expand_iff found fun line => Shader.isContent line.text = true).trans ?_
  simp only [Shader.isContent_iff, IsLive, mem_paths_of_find?_eq_some found, true_and]

/-- The lines with markers have content if the lines without them do. -/
theorem any_isContent_markedLines (lib : Library) (file : SourceFile) :
    (lib.flatten file).markedLines.any Shader.isContent =
      ((lib.expand file).map fun l => l.line.text).any Shader.isContent := by
  have same (s : Stretch) (root : Path) :
      (s.markedLines root).any Shader.isContent = s.lines.any Shader.isContent := by
    rw [Stretch.markedLines]
    split
    · rfl
    · rw [List.any_cons, Shader.isContent_text, Bool.false_or]
  rw [← Stretch.flatMap_lines_ofLines, FlatSource.markedLines, List.any_flatMap, List.any_flatMap]
  simp only [same]
  rfl

/-- With markers or without, the text of a flattened file has content if the file is live. -/
theorem hasContent_textWith (unbroken : lib.IsUnbroken) (written : ∀ p ∈ lib.paths, '\n' ∉ p.text)
    (found : lib.find? path = some file) (markers : Bool) :
    Shader.hasContent ((lib.flatten file).textWith markers) = true ↔ lib.IsLive path := by
  rw [← any_isContent_expand found, FlatSource.textWith]
  cases markers with
  | false =>
    rw [if_neg Bool.false_ne_true, text_flatten_eq_unlines,
      Shader.hasContent_unlines (forall_mem_expand ('\n' ∉ ·) unbroken found)]
  | true =>
    rw [if_pos rfl, FlatSource.markedText_eq_unlines,
      Shader.hasContent_unlines (newline_not_mem_markedLines unbroken written found),
      any_isContent_markedLines]

/-- The lines without markers are among those with them. -/
theorem mem_markedLines_of_mem_expand {l : PlacedLine} (yielded : l ∈ lib.expand file) :
    l.line.text ∈ (lib.flatten file).markedLines := by
  have standing : l.line.text ∈ (Stretch.ofLines (lib.expand file)).flatMap Stretch.lines := by
    rw [Stretch.flatMap_lines_ofLines]
    exact List.mem_map_of_mem yielded
  obtain ⟨s, made, listed⟩ := List.mem_flatMap.1 standing
  refine List.mem_flatMap.2 ⟨s, made, ?_⟩
  rw [Stretch.markedLines]
  split
  · exact listed
  · exact List.mem_cons_of_mem _ listed

/-- A live file has content, whatever characters stand in the names that its markers hold. -/
theorem hasContent_textWith_of_isLive (unbroken : lib.IsUnbroken) (found : lib.find? path = some file)
    (markers : Bool) (live : lib.IsLive path) :
    Shader.hasContent ((lib.flatten file).textWith markers) = true := by
  obtain ⟨text, yielded, content⟩ := List.any_eq_true.1 ((any_isContent_expand found).2 live)
  have whole : '\n' ∉ text := forall_mem_expand ('\n' ∉ ·) unbroken found text yielded
  rw [FlatSource.textWith]
  cases markers with
  | false =>
    rw [if_neg Bool.false_ne_true, text_flatten_eq_unlines]
    exact Shader.hasContent_unlines_of_mem yielded whole content
  | true =>
    obtain ⟨l, kept, rfl⟩ := List.mem_map.1 yielded
    rw [if_pos rfl, FlatSource.markedText_eq_unlines]
    exact Shader.hasContent_unlines_of_mem (mem_markedLines_of_mem_expand kept) whole content

/-- A live file has a line. -/
theorem lines_ne_nil_of_isLive (found : lib.find? path = some file) (live : lib.IsLive path) :
    file.lines ≠ [] := by
  intro nothing
  have yielded := (any_isContent_expand found).2 live
  have placed : file.placed = [] := by rw [SourceFile.placed, nothing]; rfl
  rw [expand_eq_inlineFrom, placed, inlineFrom] at yielded
  contradiction

end Library

end ShaderBundle
