import ShaderBundle.Proofs.Flat.Marked
/-!
# Runs of flattened lines

The stretches of a flattened file are runs: none is empty, and none goes on where the one before it ends, so
each is as long as it can be. Some lines can be cut into runs in one way only. So whatever puts lines
together, looking only at the end or at the front of what it has, comes to the same stretches, as long as it
leaves nothing out and joins what can be joined.
-/

namespace ShaderBundle

namespace Stretch

/-- The second stretch goes on in the same file right where the first one ends. -/
def GoesOn (s t : Stretch) : Prop := t.file = s.file ∧ t.start = s.start + s.size

/-- Stretches that are as long as they can be. -/
structure AreRuns (stretches : List Stretch) : Prop where
  /-- Each has a line. -/
  filled : ∀ s ∈ stretches, 1 ≤ s.size
  /-- None goes on where the one before it ends. -/
  apart : stretches.IsChain fun s t => ¬ s.GoesOn t

variable {s t : Stretch} {stretches others : List Stretch}

/-- The entry of a line of a stretch. -/
theorem getElem?_entries (s : Stretch) (i : Nat) :
    s.entries[i]? = s.lines[i]?.map fun text => (s.file, s.start + i, text) := by
  rw [entries, List.getElem?_map, List.getElem?_zipIdx, Option.map_map]
  rfl

/-- Runs without the first of them are runs. -/
theorem AreRuns.tail (runs : AreRuns (s :: stretches)) : AreRuns stretches where
  filled := fun t listed => runs.filled t (List.mem_cons_of_mem s listed)
  apart := runs.apart.tail

/-- The first entry of some runs is where the first of them starts. -/
theorem AreRuns.exists_head (runs : AreRuns (s :: stretches)) :
    ∃ text, ((s :: stretches).flatMap entries)[0]? = some (s.file, s.start, text) := by
  have filled : 0 < s.lines.length := runs.filled s List.mem_cons_self
  have first : s.lines[0]? = some s.lines[0] := List.getElem?_eq_getElem filled
  refine ⟨s.lines[0], ?_⟩
  rw [List.flatMap_cons, List.getElem?_append_left (by rw [length_entries]; exact filled),
    getElem?_entries, first]
  rfl

/-- A run that starts where a stretch does is no shorter, if the same lines follow. -/
theorem AreRuns.size_le (runs : AreRuns (s :: stretches)) (file : s.file = t.file)
    (start : s.start = t.start)
    (same : (s :: stretches).flatMap entries = (t :: others).flatMap entries) : t.size ≤ s.size := by
  by_contra shorter
  have inside : s.size < t.lines.length := Nat.lt_of_not_le shorter
  -- The line behind the run is still one of the stretch, so what follows the run goes on where it ends.
  have behind : (stretches.flatMap entries)[0]? = some (t.file, t.start + s.size, t.lines[s.size]) := by
    calc
      (stretches.flatMap entries)[0]? = ((s :: stretches).flatMap entries)[s.size]? := by
            rw [List.flatMap_cons, List.getElem?_append_right (by rw [length_entries]; exact Nat.le_refl _),
              length_entries]
            simp [size]
      _ = ((t :: others).flatMap entries)[s.size]? := by rw [same]
      _ = some (t.file, t.start + s.size, t.lines[s.size]) := by
            rw [List.flatMap_cons, List.getElem?_append_left (by rw [length_entries]; exact inside),
              getElem?_entries, List.getElem?_eq_getElem inside]
            rfl
  cases stretches with
  | nil => simp at behind
  | cons next rest =>
    obtain ⟨text, head⟩ := runs.tail.exists_head
    rw [head] at behind
    have parts := Prod.mk.inj (Option.some.inj behind)
    have goesOn : s.GoesOn next := by
      constructor
      · rw [file]
        exact parts.1
      · rw [start]
        exact (Prod.mk.inj parts.2).1
    exact (List.isChain_cons_cons.1 runs.apart).1 goesOn

/-- Lines can be cut into runs in one way only. -/
theorem AreRuns.eq_of_entries (runs : AreRuns stretches) (runs' : AreRuns others)
    (same : stretches.flatMap entries = others.flatMap entries) : stretches = others := by
  induction stretches generalizing others with
  | nil =>
    cases others with
    | nil => rfl
    | cons t others =>
      obtain ⟨text, head⟩ := runs'.exists_head
      rw [← same] at head
      cases head
  | cons s stretches ih =>
    cases others with
    | nil =>
      obtain ⟨text, head⟩ := runs.exists_head
      rw [same] at head
      cases head
    | cons t others =>
      obtain ⟨text, head⟩ := runs.exists_head
      obtain ⟨text', head'⟩ := runs'.exists_head
      rw [same, head'] at head
      have parts := Prod.mk.inj (Option.some.inj head)
      have file : s.file = t.file := parts.1.symm
      have start : s.start = t.start := (Prod.mk.inj parts.2).1.symm
      have long : t.size ≤ s.size := runs.size_le file start same
      have short : s.size ≤ t.size := runs'.size_le file.symm start.symm same.symm
      have length : s.entries.length = t.entries.length := by
        rw [length_entries, length_entries]
        exact Nat.le_antisymm short long
      rw [List.flatMap_cons, List.flatMap_cons] at same
      obtain ⟨here, onward⟩ := List.append_inj same length
      have lines : s.lines = t.lines := by rw [← map_text_entries, here, map_text_entries]
      have first : s = t := by
        cases s
        cases t
        congr
      rw [first, ih runs.tail runs'.tail onward]

/-- A line that is put in front of runs makes runs. -/
theorem AreRuns.cons (runs : AreRuns stretches) (l : PlacedLine) : AreRuns (Stretch.cons l stretches) where
  filled := size_pos_cons l stretches runs.filled
  apart := by
    cases stretches with
    | nil => exact .singleton _
    | cons first rest =>
      rw [Stretch.cons]
      split
      case isTrue joined =>
        cases rest with
        | nil => exact .singleton _
        | cons next rest =>
          obtain ⟨stops, apart⟩ := List.isChain_cons_cons.1 runs.apart
          refine List.isChain_cons_cons.2 ⟨fun goesOn => stops ?_, apart⟩
          obtain ⟨file, start⟩ := goesOn
          refine ⟨file.trans joined.1.symm, ?_⟩
          simp only [size, List.length_cons] at start ⊢
          omega
      case isFalse apart =>
        exact List.isChain_cons_cons.2 ⟨apart, runs.apart⟩

/-- The stretches made of some lines are runs. -/
theorem areRuns_ofLines (ls : List PlacedLine) : AreRuns (ofLines ls) := by
  induction ls with
  | nil => exact ⟨by simp [ofLines], .nil⟩
  | cons l ls ih => exact ih.cons l

end Stretch

namespace Library

variable {lib : Library} {path : Path} {file : SourceFile}

/-- A line of a flattened file is a line that the file at its place keeps there. -/
theorem exists_kept_of_mem_entries (found : lib.find? path = some file) {f : Path} {i : Nat} {t : Text}
    (listed : (f, i, t) ∈ (lib.flatten file).entries) :
    ∃ other line, lib.find? f = some other ∧ other.lines[i]? = some line ∧ line.text = t ∧ lib.IsKept line := by
  rw [entries_flatten_eq_map_expand] at listed
  obtain ⟨l, yielded, same⟩ := List.mem_map.1 listed
  obtain ⟨_, other, at_file, at_index, stays⟩ := mem_keptAt_iff.1 ((mem_expand_iff found).1 yielded).2
  cases same
  exact ⟨other, l.line, at_file, at_index, rfl, stays⟩

/-- The lines of a stretch of a flattened file are kept by one file, where they follow each other. -/
theorem exists_keeps_of_mem_stretches (found : lib.find? path = some file) {s : Stretch}
    (made : s ∈ (lib.flatten file).stretches) :
    ∃ other, lib.find? s.file = some other ∧ ∀ i, (inside : i < s.size) →
      ∃ line, other.lines[s.start + i]? = some line ∧ line.text = s.lines[i] ∧ lib.IsKept line := by
  -- Each line of the stretch is kept by the file; that it is the same file for all of them is in the place.
  have kept : ∀ i, (inside : i < s.size) → ∃ other line, lib.find? s.file = some other ∧
      other.lines[s.start + i]? = some line ∧ line.text = s.lines[i] ∧ lib.IsKept line := by
    intro i inside
    apply exists_kept_of_mem_entries found
    have entry : (s.file, s.start + i, s.lines[i]) ∈ s.entries := by
      apply List.mem_of_getElem?
      rw [Stretch.getElem?_entries, List.getElem?_eq_getElem inside]
      rfl
    exact List.mem_flatMap.2 ⟨s, made, entry⟩
  have filled : 0 < s.size := (Stretch.areRuns_ofLines _).filled s made
  obtain ⟨other, _, at_file, _⟩ := kept 0 filled
  refine ⟨other, at_file, fun i inside => ?_⟩
  obtain ⟨same, line, at_file', at_index, text, stays⟩ := kept i inside
  obtain rfl : other = same := Option.some.inj (at_file.symm.trans at_file')
  exact ⟨line, at_index, text, stays⟩

/-- The stretches of a flattened file are copied from the files that they are from. -/
theorem exists_copied_of_mem_stretches (found : lib.find? path = some file) {s : Stretch}
    (made : s ∈ (lib.flatten file).stretches) :
    ∃ other, lib.find? s.file = some other ∧ s.start + s.size ≤ other.lines.length ∧
      s.lines = ((other.lines.drop s.start).take s.size).map SourceLine.text ∧
      ∀ line ∈ (other.lines.drop s.start).take s.size, lib.IsKept line := by
  obtain ⟨other, at_file, here⟩ := exists_keeps_of_mem_stretches found made
  have filled : 1 ≤ s.size := (Stretch.areRuns_ofLines _).filled s made
  have bound : s.start + s.size ≤ other.lines.length := by
    obtain ⟨last, at_last, _⟩ := here (s.size - 1) (by omega)
    have inside := (List.getElem?_eq_some_iff.1 at_last).1
    omega
  have length : ((other.lines.drop s.start).take s.size).length = s.size := by
    rw [List.length_take, List.length_drop]
    omega
  refine ⟨other, at_file, bound, ?_, ?_⟩
  · apply List.ext_getElem
    · rw [List.length_map, length, Stretch.size]
    · intro i inside _
      obtain ⟨line, at_index, text, _⟩ := here i inside
      have found := (List.getElem?_eq_some_iff.1 at_index).2
      rw [List.getElem_map, List.getElem_take, List.getElem_drop, found, text]
  · intro line listed
    obtain ⟨i, inside, rfl⟩ := List.getElem_of_mem listed
    obtain ⟨line, at_index, _, stays⟩ := here i (by omega)
    have found := (List.getElem?_eq_some_iff.1 at_index).2
    rw [List.getElem_take, List.getElem_drop, found]
    exact stays

/-- A flat source whose lines are those of its file, flattened, and are cut into stretches as long as they can
be. -/
structure IsCutIntoRuns (lib : Library) (source : FlatSource) : Prop where
  /-- The stretches leave nothing out, repeat nothing and keep the order: their lines, each with its place, are
  those that the recursion into the file yields when that file alone counts as entered. -/
  whole : ∃ file, lib.find? source.root = some file ∧
    source.entries = (lib.inlineFrom [source.root] file.placed).lines.map PlacedLine.entry
  /-- Each stretch has a line. -/
  filled : ∀ s ∈ source.stretches, 1 ≤ s.size
  /-- The stretch lies inside its file, its text is the lines of the file there, each ended by a line feed,
  and each of these lines is kept. -/
  copied : ∀ s ∈ source.stretches, ∃ file, lib.find? s.file = some file ∧
    s.start + s.size ≤ file.lines.length ∧
    s.text = Text.unlines (((file.lines.drop s.start).take s.size).map SourceLine.text) ∧
    ∀ line ∈ (file.lines.drop s.start).take s.size, lib.IsKept line
  /-- No stretch goes on where the one before it ends. -/
  apart : source.stretches.IsChain fun s t => ¬ s.GoesOn t
  /-- Only the first stretch can start the file that was flattened. -/
  starts_first : ∀ s ∈ source.stretches.tail, ¬ (s.file = source.root ∧ s.start = 0)
  /-- The lines of the source can be cut so in one way only. -/
  only : ∀ stretches, Stretch.AreRuns stretches →
    stretches.flatMap Stretch.entries = source.entries → stretches = source.stretches

/-- The lines of a flattened file are cut into the longest stretches of lines that follow each other in one
file, each of which is an exact copy. -/
theorem flattenAt_isCutIntoRuns (lib : Library) (root : Path) (loaded : root ∈ lib.paths) :
    ∃ source, lib.flattenAt root = .ok source ∧ source.root = root ∧ lib.IsCutIntoRuns source := by
  obtain ⟨file, found⟩ := mem_paths_iff.1 loaded
  have lies : file.path = root := (mem_of_find?_eq_some found).2
  have runs : Stretch.AreRuns (lib.flatten file).stretches := Stretch.areRuns_ofLines _
  refine ⟨lib.flatten file, by rw [flattenAt, found], lies, ?_⟩
  constructor
  case whole =>
    have at_root : lib.find? file.path = some file := by rw [lies, found]
    exact ⟨file, at_root, entries_flatten lib file⟩
  case filled => exact runs.filled
  case copied =>
    intro s made
    obtain ⟨other, at_file, bound, lines, kept⟩ := exists_copied_of_mem_stretches found made
    exact ⟨other, at_file, bound, by rw [Stretch.text, lines], kept⟩
  case apart => exact runs.apart
  case starts_first =>
    rw [show (lib.flatten file).root = root from lies]
    exact not_start_of_mem_tail found
  case only => exact fun stretches runs' same => runs'.eq_of_entries runs same

/-- A library of a file that includes a path at which nothing loaded, an empty file and itself. -/
def looped : Library :=
  let place (name : Char) : Path := Path.root.follow [name]
  { files := [
      ⟨place 'a', [⟨['0'], none⟩, ⟨['1'], none⟩, ⟨['2'], some (place 'x')⟩, ⟨['3'], some (place 'b')⟩,
        ⟨['4'], some (place 'a')⟩, ⟨['5'], none⟩]⟩,
      ⟨place 'b', []⟩]
    failures := [(place 'x', "no such file")] }

/-- In this library an include that failed belongs to a run; those of an empty file and of the file itself leave
a gap. -/
theorem flattenAt_isCutIntoRuns_looped :
    Path.root.follow ['a'] ∈ looped.paths ∧
      ∃ source, looped.flattenAt (Path.root.follow ['a']) = .ok source ∧
        source.root = Path.root.follow ['a'] ∧ looped.IsCutIntoRuns source :=
  have loaded : Path.root.follow ['a'] ∈ looped.paths := by decide +kernel
  ⟨loaded, flattenAt_isCutIntoRuns looped (Path.root.follow ['a']) loaded⟩

example : (looped.flattenAt (Path.root.follow ['a'])).map FlatSource.stretches =
    .ok [⟨Path.root.follow ['a'], 0, [['0'], ['1'], ['2']]⟩, ⟨Path.root.follow ['a'], 5, [['5']]⟩] := by
  cbv

end Library

end ShaderBundle
