import ShaderBundle.Flat.Inlining
import ShaderBundle.Proofs.Flat.Places
/-!
# The walk and the recursion

Flattening is done by a walk that keeps a frame for each file that it is in the middle of, and is described
by a recursion into the included file, which threads the files entered so far. The walk goes through what
is left of its innermost frame as the recursion does, and then goes on with the frames below and the files
entered by then. So the stretches that it leaves hold the lines that the recursion yields, in the same
order.
-/

namespace ShaderBundle

namespace Frame

/-- The lines that are left in the frame. -/
def ahead (frame : Frame) : List PlacedLine := frame.file.placed.drop frame.next

/-- All lines are left at the start of a file. -/
theorem ahead_start (file : SourceFile) : (start file).ahead = file.placed := List.drop_zero

/-- The place of a line in its file. -/
theorem getElem?_placed (file : SourceFile) (index : Nat) :
    file.placed[index]? = file.lines[index]?.map fun line => ⟨file.path, index, line⟩ := by
  rw [SourceFile.placed, List.getElem?_map, List.getElem?_zipIdx, Option.map_map, Nat.zero_add]
  rfl

/-- Where no line is left, the file has ended. -/
theorem line?_of_ahead_eq_nil {frame : Frame} (ended : frame.ahead = []) : frame.line? = none := by
  have first : frame.ahead[0]? = none := by rw [ended, List.getElem?_nil]
  rw [ahead, List.getElem?_drop, Nat.add_zero, getElem?_placed, Option.map_eq_none_iff] at first
  exact first

/-- The first line that is left is the one to go on with, and the others are left after it. -/
theorem line?_of_ahead_eq_cons {frame : Frame} {l : PlacedLine} {rest : List PlacedLine}
    (left : frame.ahead = l :: rest) :
    ∃ line, frame.line? = some line ∧ l = ⟨frame.file.path, frame.next, line⟩ ∧
      frame.advance.ahead = rest := by
  have first : frame.ahead[0]? = some l := by rw [left, List.getElem?_cons_zero]
  rw [ahead, List.getElem?_drop, Nat.add_zero, getElem?_placed] at first
  obtain ⟨line, here, rfl⟩ := Option.map_eq_some_iff.1 first
  refine ⟨line, here, rfl, ?_⟩
  calc
    frame.advance.ahead = frame.ahead.drop 1 := List.drop_drop.symm
    _ = rest := by rw [left, List.drop_one, List.tail_cons]

end Frame

namespace Library

section Steps

variable {lib : Library} {entered : List Path} {frame : Frame} {below : List Frame} {line : SourceLine}
variable {target : Path}

/-- At its end, a file is left. -/
theorem expandFrom_of_ended (ended : frame.line? = none) :
    lib.expandFrom entered (frame :: below) = lib.expandFrom entered below := by
  rw [expandFrom]
  grind

/-- A line that is no include is yielded. -/
theorem expandFrom_of_plain (here : frame.line? = some line) (plain : line.target? = none) :
    lib.expandFrom entered (frame :: below) =
      ⟨frame.file.path, frame.next, line⟩ :: lib.expandFrom entered (frame.advance :: below) := by
  rw [expandFrom]
  grind

/-- An include of a file that was entered before disappears. -/
theorem expandFrom_of_old (here : frame.line? = some line) (aims : line.target? = some target)
    (old : target ∈ entered) :
    lib.expandFrom entered (frame :: below) = lib.expandFrom entered (frame.advance :: below) := by
  rw [expandFrom]
  grind

/-- An include of a file that did not load is yielded. -/
theorem expandFrom_of_absent (here : frame.line? = some line) (aims : line.target? = some target)
    (fresh : target ∉ entered) (absent : lib.find? target = none) :
    lib.expandFrom entered (frame :: below) =
      ⟨frame.file.path, frame.next, line⟩ :: lib.expandFrom entered (frame.advance :: below) := by
  rw [expandFrom]
  grind

/-- Any other include enters a file, and the file that includes it waits after the include. -/
theorem expandFrom_of_fresh {file : SourceFile} (here : frame.line? = some line)
    (aims : line.target? = some target) (fresh : target ∉ entered) (found : lib.find? target = some file) :
    lib.expandFrom entered (frame :: below) =
      lib.expandFrom (target :: entered) (.start file :: frame.advance :: below) := by
  rw [expandFrom]
  grind

end Steps

/-- The walk yields what the recursion makes of the innermost frame, and goes on with the frames below and
the files entered by then. -/
theorem expandFrom_cons (lib : Library) (entered : List Path) (frame : Frame) (below : List Frame) :
    lib.expandFrom entered (frame :: below) =
      (lib.inlineFrom entered frame.ahead).lines ++
        lib.expandFrom (lib.inlineFrom entered frame.ahead).entered below := by
  generalize left : frame.ahead = ls
  -- The induction is on the recursion: the walk resumes a frame that waits when more files are entered.
  fun_induction inlineFrom lib entered ls generalizing frame below with
  | case1 entered =>
    have ended := Frame.line?_of_ahead_eq_nil left
    rw [expandFrom_of_ended ended, List.nil_append]
  | case2 entered l rest plain out ih =>
    obtain ⟨line, here, rfl, onward⟩ := Frame.line?_of_ahead_eq_cons left
    rw [expandFrom_of_plain here plain, ih frame.advance below onward]
    rfl
  | case3 entered l rest target aims old ih =>
    obtain ⟨line, here, rfl, onward⟩ := Frame.line?_of_ahead_eq_cons left
    rw [expandFrom_of_old here aims old, ih frame.advance below onward]
  | case4 entered l rest target aims fresh absent out ih =>
    obtain ⟨line, here, rfl, onward⟩ := Frame.line?_of_ahead_eq_cons left
    rw [expandFrom_of_absent here aims fresh absent, ih frame.advance below onward]
    rfl
  | case5 entered l rest target aims fresh file found inner outer into beyond =>
    obtain ⟨line, here, rfl, onward⟩ := Frame.line?_of_ahead_eq_cons left
    rw [expandFrom_of_fresh here aims fresh found, into (.start file) (frame.advance :: below)
      (Frame.ahead_start file), beyond frame.advance below onward, List.append_assoc]

/-- The walk through a file and the recursion into it yield the same lines. -/
theorem expand_eq_inlineFrom (lib : Library) (file : SourceFile) :
    lib.expand file = (lib.inlineFrom [file.path] file.placed).lines := by
  have walked := lib.expandFrom_cons [file.path] (.start file) []
  rw [Frame.ahead_start] at walked
  rw [expand, walked, expandFrom, List.append_nil]

/-- The stretches of a flattened file hold the lines of the walk. -/
theorem entries_flatten_eq_map_expand (lib : Library) (file : SourceFile) :
    (lib.flatten file).entries = (lib.expand file).map PlacedLine.entry :=
  Stretch.flatMap_entries_ofLines (lib.expand file)

/-- The stretches of a flattened file hold the lines of the recursion. -/
theorem entries_flatten (lib : Library) (file : SourceFile) :
    (lib.flatten file).entries = (lib.inlineFrom [file.path] file.placed).lines.map PlacedLine.entry := by
  rw [entries_flatten_eq_map_expand, expand_eq_inlineFrom]

/-- The text of a flattened file is that of the lines of the recursion. -/
theorem text_flatten (lib : Library) (file : SourceFile) :
    (lib.flatten file).text =
      Text.unlines ((lib.inlineFrom [file.path] file.placed).lines.map fun l => l.line.text) := by
  rw [FlatSource.text_eq_unlines, entries_flatten, List.map_map]
  rfl

/-- Flattening the file at a path yields the lines that the recursion into it yields when that file alone
counts as entered, in the same order, and its text is theirs, each ended by a line feed. A path at which
no file loaded is refused, whether its lines or its text is asked for. -/
theorem flattenAt_eq_inlineFrom (lib : Library) (path : Path) :
    match lib.find? path with
    | some file => ∃ source, lib.flattenAt path = .ok source ∧ source.root = path ∧
        source.entries = (lib.inlineFrom [path] file.placed).lines.map PlacedLine.entry ∧
        source.text = Text.unlines ((lib.inlineFrom [path] file.placed).lines.map fun l => l.line.text)
    | none => lib.flattenAt path = .error (.notLoaded path) ∧
        ∀ markers, (lib.flattenAt path).map (FlatSource.textWith · markers) = .error (.notLoaded path) := by
  cases found : lib.find? path with
  | none =>
    have refused : lib.flattenAt path = .error (.notLoaded path) := by
      rw [flattenAt, found]
    refine ⟨refused, fun markers => ?_⟩
    rw [refused]
    rfl
  | some file =>
    obtain ⟨_, rfl⟩ := mem_of_find?_eq_some found
    refine ⟨lib.flatten file, ?_, rfl, entries_flatten lib file, text_flatten lib file⟩
    rw [flattenAt, found]

end Library

end ShaderBundle
