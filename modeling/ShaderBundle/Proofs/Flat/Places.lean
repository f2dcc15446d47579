import ShaderBundle.Flat.Basic
import Mathlib.Data.List.Basic
/-!
# Where flattened lines are from

A stretch stands for the lines of one file from its start on, as many as it has. Read so, the stretches
that are made of placed lines give back these lines: their places, and their texts, in order. Nothing
gets lost where one stretch ends and the next begins.
-/

namespace ShaderBundle

/-- The place of a line: its file and its index there. -/
def PlacedLine.place (l : PlacedLine) : Path × Nat := (l.file, l.index)

/-- A line's place together with its text. -/
def PlacedLine.entry (l : PlacedLine) : Path × Nat × Text := (l.file, l.index, l.line.text)

namespace Stretch

/-- The places that the stretch stands for. -/
def places (s : Stretch) : List (Path × Nat) :=
  (List.range' s.start s.size).map fun index => (s.file, index)

/-- The lines of the stretch, each with its file and its index there. -/
def entries (s : Stretch) : List (Path × Nat × Text) :=
  (s.lines.zipIdx s.start).map fun (text, index) => (s.file, index, text)

/-- The places and the lines of a stretch agree. -/
theorem map_entries (s : Stretch) : s.entries.map (fun entry => (entry.1, entry.2.1)) = s.places := by
  have indices := List.zipIdx_map_snd s.start s.lines
  calc
    s.entries.map (fun entry => (entry.1, entry.2.1))
        = (s.lines.zipIdx s.start).map (fun line => (s.file, line.2)) := by
          rw [entries, List.map_map]
          rfl
    _ = ((s.lines.zipIdx s.start).map Prod.snd).map fun index => (s.file, index) := by
          rw [List.map_map]
          rfl
    _ = s.places := by rw [indices, places, size]

/-- A line that is put in front comes first, whether it starts a stretch or not. -/
theorem flatMap_entries_cons (l : PlacedLine) (stretches : List Stretch) :
    (cons l stretches).flatMap entries = l.entry :: stretches.flatMap entries := by
  cases stretches with
  | nil => rfl
  | cons s rest =>
    rw [cons]
    split
    · next joined =>
      obtain ⟨sameFile, next⟩ := joined
      simp only [List.flatMap_cons, entries, List.zipIdx_cons, List.map_cons, List.cons_append, next,
        sameFile]
      rfl
    · rfl

/-- The stretches made of some lines have these lines, in order. -/
theorem flatMap_entries_ofLines (ls : List PlacedLine) :
    (ofLines ls).flatMap entries = ls.map PlacedLine.entry := by
  induction ls with
  | nil => rfl
  | cons l ls ih =>
    rw [List.map_cons, ← ih]
    exact flatMap_entries_cons l (ofLines ls)

/-- The stretches made of some lines stand for the places of these lines, in order. -/
theorem flatMap_places_ofLines (ls : List PlacedLine) :
    (ofLines ls).flatMap places = ls.map PlacedLine.place := by
  have read : (ofLines ls).flatMap places =
      ((ofLines ls).flatMap entries).map fun entry => (entry.1, entry.2.1) := by
    rw [List.map_flatMap]
    exact List.flatMap_congr fun s _ => (map_entries s).symm
  rw [read, flatMap_entries_ofLines, List.map_map]
  rfl

/-- The texts of a stretch's entries are its lines. -/
theorem map_text_entries (s : Stretch) : s.entries.map (fun entry => entry.2.2) = s.lines := by
  rw [entries, List.map_map]
  exact List.zipIdx_map_fst s.start s.lines

/-- The text of a stretch is that of its lines. -/
theorem text_eq_unlines (s : Stretch) : s.text = Text.unlines (s.entries.map fun entry => entry.2.2) := by
  rw [map_text_entries, text]

end Stretch

namespace FlatSource

/-- The places that the source's lines are from, in order. -/
def places (s : FlatSource) : List (Path × Nat) := s.stretches.flatMap Stretch.places

/-- The source's lines in order, each with its file and its index there. -/
def entries (s : FlatSource) : List (Path × Nat × Text) := s.stretches.flatMap Stretch.entries

/-- The text without markers is that of the source's lines, each ended by a line feed. -/
theorem text_eq_unlines (s : FlatSource) : s.text = Text.unlines (s.entries.map fun entry => entry.2.2) := by
  rw [text, entries, Text.unlines, List.map_flatMap, List.flatMap_assoc]
  exact List.flatMap_congr fun stretch _ => stretch.text_eq_unlines

end FlatSource

end ShaderBundle
