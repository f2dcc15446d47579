import ShaderBundle.SourceFile
import ShaderBundle.Flat.Marker
/-!
# Flat sources

A compiler sees one text per stage, in which the includes have been replaced by what they include. A
flat source is that text with its origins: stretches of lines, each taken without a gap from one file.
-/

namespace ShaderBundle

/-- A line with its place: the file, and the index of the line there, counted from zero. -/
structure PlacedLine where
  /-- The file that the line is from. -/
  file : Path
  /-- The index of the line in the file. -/
  index : Nat
  /-- The line. -/
  line : SourceLine
deriving DecidableEq

/-- The lines of a file with their places. -/
def SourceFile.placed (f : SourceFile) : List PlacedLine :=
  f.lines.zipIdx.map fun (line, index) => ⟨f.path, index, line⟩

/-- Lines that follow each other in one file. -/
structure Stretch where
  /-- The file that the lines are from. -/
  file : Path
  /-- The index of the first line in the file. -/
  start : Nat
  /-- The texts of the lines. -/
  lines : List Text
deriving DecidableEq

namespace Stretch

/-- The number of lines. -/
def size (s : Stretch) : Nat := s.lines.length

/-- The text of the lines, each ended by a line feed. -/
def text (s : Stretch) : Text := Text.unlines s.lines

/-- What tells a compiler where the stretch is from. -/
def marker (s : Stretch) : Marker := ⟨s.start + 1, s.file.text⟩

/-- Puts a line in front: into the first stretch if that goes on where the line ends, else alone. -/
def cons (l : PlacedLine) : List Stretch → List Stretch
  | [] => [⟨l.file, l.index, [l.line.text]⟩]
  | s :: rest =>
    if s.file = l.file ∧ s.start = l.index + 1 then ⟨l.file, l.index, l.line.text :: s.lines⟩ :: rest
    else ⟨l.file, l.index, [l.line.text]⟩ :: s :: rest

/-- The longest stretches that make up the lines. -/
def ofLines (ls : List PlacedLine) : List Stretch := ls.foldr cons []

/-- The file and the line, counted from one, of the line at an index of the stretches' text. -/
def origin? : List Stretch → Nat → Option (Path × Nat)
  | [], _ => none
  | s :: rest, index =>
    if index < s.size then some (s.file, s.start + index + 1) else origin? rest (index - s.size)

end Stretch

/-- A file with its includes replaced by what they include. -/
structure FlatSource where
  /-- The file. -/
  root : Path
  /-- The lines in order, by where they are from. -/
  stretches : List Stretch
deriving DecidableEq

namespace FlatSource

/-- The number of lines. -/
def lineCount (s : FlatSource) : Nat := (s.stretches.flatMap Stretch.lines).length

/-- The text without markers. -/
def text (s : FlatSource) : Text := s.stretches.flatMap Stretch.text

/-- The text with a marker before each stretch, except where the file itself starts. -/
def markedText (s : FlatSource) : Text :=
  s.stretches.flatMap fun stretch =>
    if stretch.file = s.root ∧ stretch.start = 0 then stretch.text
    else stretch.marker.text ++ '\n' :: stretch.text

/-- The text, with markers or without. -/
def textWith (s : FlatSource) (markers : Bool) : Text :=
  if markers then s.markedText else s.text

/-- The file and line that a line of the text is from. Both lines are counted from one. -/
def origin? (s : FlatSource) (line : Nat) : Option (Path × Nat) :=
  if line = 0 then none else Stretch.origin? s.stretches (line - 1)

end FlatSource

end ShaderBundle
