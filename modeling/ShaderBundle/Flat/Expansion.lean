import ShaderBundle.Fault
import ShaderBundle.Flat.Basic
import ShaderBundle.Library.Cycle
/-!
# Flattening

Flattening a file of a library replaces each include line by the lines of the included file, which are
flattened in turn: while that goes on, the file that includes it waits. A file appears once: a further
include of it disappears. An include of a file that did not load stays as it is, so that the compiler
complains about it in its place.
-/

namespace ShaderBundle

/-- A file that flattening is in the middle of. -/
structure Frame where
  /-- The file. -/
  file : SourceFile
  /-- The index of the line to go on with. -/
  next : Nat

namespace Frame

/-- The frame at the start of a file. -/
def start (file : SourceFile) : Frame := ⟨file, 0⟩

/-- The line to go on with, unless the file has ended. -/
def line? (frame : Frame) : Option SourceLine := frame.file.lines[frame.next]?

/-- The frame after that line. -/
def advance (frame : Frame) : Frame := ⟨frame.file, frame.next + 1⟩

/-- The number of steps that the frames are good for: one for each line, and one for each end. -/
def steps : List Frame → Nat
  | [] => 0
  | frame :: below => (frame.file.lines.length - frame.next + 1) + steps below

/-- Going past a line uses up a step. -/
theorem steps_advance_lt {frame : Frame} {line : SourceLine} (here : frame.line? = some line)
    (below : List Frame) : steps (frame.advance :: below) < steps (frame :: below) := by
  obtain ⟨inside, _⟩ := List.getElem?_eq_some_iff.1 here
  simp only [steps, advance]
  omega

/-- Leaving a file uses up a step. -/
theorem steps_lt_cons (frame : Frame) (below : List Frame) : steps below < steps (frame :: below) := by
  simp only [steps]
  omega

end Frame

namespace Library

/-- Entering a file for the first time leaves fewer to enter. -/
theorem unvisited_enter_lt {lib : Library} {entered : List Path} {target : Path} {file : SourceFile}
    (found : lib.find? target = some file) (fresh : target ∉ entered) :
    unvisited lib.paths (target :: entered) < unvisited lib.paths entered :=
  unvisited_cons_lt (mem_paths_of_find?_eq_some found) fresh

/--
Flattens what is left of the files in the frames, the innermost first, where the files in `entered` have
been entered before. An included file is entered by a frame of its own, and the frame of the file that
includes it waits below.
-/
def expandFrom (lib : Library) (entered : List Path) : List Frame → List PlacedLine
  | [] => []
  | frame :: below =>
    match _here : frame.line? with
    | none => expandFrom lib entered below
    | some line =>
      match line.target? with
      | none => ⟨frame.file.path, frame.next, line⟩ :: expandFrom lib entered (frame.advance :: below)
      | some target =>
        if _fresh : target ∈ entered then expandFrom lib entered (frame.advance :: below)
        else match _found : lib.find? target with
          | none => ⟨frame.file.path, frame.next, line⟩ :: expandFrom lib entered (frame.advance :: below)
          | some file => expandFrom lib (target :: entered) (.start file :: frame.advance :: below)
termination_by frames => (unvisited lib.paths entered, Frame.steps frames)
decreasing_by
  · exact Prod.Lex.right _ (Frame.steps_lt_cons frame below)
  · exact Prod.Lex.right _ (Frame.steps_advance_lt _here below)
  · exact Prod.Lex.right _ (Frame.steps_advance_lt _here below)
  · exact Prod.Lex.right _ (Frame.steps_advance_lt _here below)
  · exact Prod.Lex.left _ _ (unvisited_enter_lt _found _fresh)

/-- The lines of a file after flattening. -/
def expand (lib : Library) (file : SourceFile) : List PlacedLine :=
  lib.expandFrom [file.path] [.start file]

/-- A file after flattening. -/
def flatten (lib : Library) (file : SourceFile) : FlatSource :=
  ⟨file.path, Stretch.ofLines (lib.expand file)⟩

/-- The file at a path after flattening. -/
def flattenAt (lib : Library) (path : Path) : Except Fault FlatSource :=
  match lib.find? path with
  | none => .error (.notLoaded path)
  | some file => .ok (lib.flatten file)

/-- The texts of several files, each flattened by itself; the first that did not load is the fault. -/
def textsOf (lib : Library) (markers : Bool) (paths : List Path) : Except Fault (List (Path × Text)) :=
  paths.mapM fun path => (lib.flattenAt path).map fun source => (path, source.textWith markers)

end Library

end ShaderBundle
