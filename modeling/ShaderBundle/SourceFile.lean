import ShaderBundle.Path
import ShaderBundle.Text.Blank
/-!
# Source files

A source file is the list of its lines, each with the file it includes if it includes one. Targets are
written relative to the folder that holds the file.
-/

namespace ShaderBundle

/-- A line of a source file. -/
structure SourceLine where
  /-- The line as written. -/
  text : Text
  /-- The file that the line includes. -/
  target? : Option Path
deriving DecidableEq

namespace SourceLine

/-- The text without one double quote at its start and one at its end. -/
def unquote (t : Text) : Text :=
  let opened := (['"'].isPrefixOf? t).getD t
  (['"'].isSuffixOf? opened).getD opened

/-- The word with which an include line starts. -/
def includeWord : Text := ['#', 'i', 'n', 'c', 'l', 'u', 'd', 'e']

/-- What a line asks to include, if it is an include line. -/
def written? (t : Text) : Option Text :=
  (includeWord.isPrefixOf? t.trim).map fun rest => unquote (Text.trim rest)

/-- Reads a line of a file in the given folder. An include line that names nothing is plain text. -/
def ofText (folder : Path) (t : Text) : SourceLine where
  text := t
  target? := (written? t).bind fun target => (folder.join target).toOption

end SourceLine

/-- A file that has been read. -/
structure SourceFile where
  /-- Where the file lies. -/
  path : Path
  /-- Its lines in order. -/
  lines : List SourceLine
deriving DecidableEq

namespace SourceFile

/-- The lines without the byte order mark that the first may start with. -/
def dropMark : List Text → List Text
  | ('\ufeff' :: first) :: rest => first :: rest
  | ls => ls

/-- The file with the given lines; the root is no file, for want of a folder that holds it. -/
def ofLines? (path : Path) (ls : List Text) : Option SourceFile :=
  path.parent?.map fun folder => ⟨path, (dropMark ls).map (SourceLine.ofText folder)⟩

/-- Whether the file has no line. -/
def isEmpty (f : SourceFile) : Bool := f.lines.isEmpty

/-- The file that a line, counted from zero, includes. -/
def includeAt? (f : SourceFile) (index : Nat) : Option Path :=
  f.lines[index]?.bind SourceLine.target?

/-- The include lines by their index, each with the file it includes. -/
def includes (f : SourceFile) : List (Nat × Path) :=
  f.lines.zipIdx.filterMap fun (line, index) => line.target?.map fun target => (index, target)

/-- The files that the file includes, in the order of its lines, with repetitions. -/
def targets (f : SourceFile) : List Path :=
  f.lines.filterMap SourceLine.target?

end SourceFile

end ShaderBundle
