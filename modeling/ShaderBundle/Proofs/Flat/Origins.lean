import ShaderBundle.Proofs.Flat.Coverage
import ShaderBundle.Proofs.Library.Crawl
import ShaderBundle.Proofs.Text.Lines
/-!
# Origins of flattened lines

The search for the origin of a line goes through the stretches and counts their lines off. It finds what
stands at that index when the places of all stretches are written one after the other, so the map of lines
and the text agree: the line that the text has there is the line that the file has at the origin.
-/

namespace ShaderBundle

namespace Stretch

/-- The search finds the place at the index, with its line counted from one. -/
theorem origin?_eq (stretches : List Stretch) (index : Nat) :
    origin? stretches index =
      (stretches.flatMap places)[index]?.map fun place => (place.1, place.2 + 1) := by
  induction stretches generalizing index with
  | nil => rfl
  | cons s rest ih =>
    have size : s.places.length = s.size := by simp [places]
    rw [origin?, List.flatMap_cons]
    by_cases here : index < s.size
    · rw [if_pos here, List.getElem?_append_left (by omega), places, List.getElem?_map,
        List.getElem?_range' here]
      simp
    · rw [if_neg here, List.getElem?_append_right (by omega), ih, size]

/-- A stretch has an entry for each of its lines. -/
theorem length_entries (s : Stretch) : s.entries.length = s.lines.length := by
  simp [entries]

end Stretch

namespace FlatSource

/-- The origin of a line is its place, with the line counted from one. -/
theorem origin?_succ (source : FlatSource) (n : Nat) :
    source.origin? (n + 1) = source.places[n]?.map fun place => (place.1, place.2 + 1) := by
  rw [origin?, if_neg (Nat.succ_ne_zero n), Nat.add_sub_cancel, Stretch.origin?_eq, places]

/-- Two lines have different origins if no place comes twice. -/
theorem eq_of_origin?_eq {source : FlatSource} (distinct : source.places.Nodup) {m n : Nat}
    {origin : Path × Nat} (at_m : source.origin? m = some origin) (at_n : source.origin? n = some origin) :
    m = n := by
  cases m with
  | zero => cases at_m
  | succ m =>
    cases n with
    | zero => cases at_n
    | succ n =>
      rw [origin?_succ] at at_m at_n
      obtain ⟨place, here, rfl⟩ := Option.map_eq_some_iff.1 at_m
      obtain ⟨place', here', same⟩ := Option.map_eq_some_iff.1 at_n
      obtain ⟨same_file, same_line⟩ := Prod.mk.inj same
      have bound : m < source.places.length := (List.getElem?_eq_some_iff.1 here).1
      have again : m = n := by
        apply (List.getElem?_inj bound distinct).1
        rw [here, here', Prod.ext same_file (Nat.succ.inj same_line)]
      rw [again]

end FlatSource

/-- A reader of files held in memory has the lines that the table lists. -/
theorem Reader.mem_of_read_ofTable {table : List (Path × Except String (List Text))}
    {absent : Path → String} {path : Path} {ls : List Text}
    (read : (ofTable table absent).read path = .ok ls) : (path, .ok ls) ∈ table := by
  cases found : table.lookup path with
  | none => simp [ofTable, found] at read
  | some answer =>
    obtain rfl : answer = .ok ls := by simpa [ofTable, found] using read
    obtain ⟨before, behind, rfl, _⟩ := List.lookup_eq_some_iff.1 found
    simp

/-- Dropping the byte order mark breaks no line. -/
theorem SourceFile.newline_not_mem_dropMark {ls : List Text} (unbroken : ∀ l ∈ ls, '\n' ∉ l) :
    ∀ l ∈ dropMark ls, '\n' ∉ l := by
  fun_cases dropMark ls with
  | case1 first rest =>
    obtain ⟨marked, others⟩ := List.forall_mem_cons.1 unbroken
    exact List.forall_mem_cons.2 ⟨fun inside => marked (List.mem_cons_of_mem _ inside), others⟩
  | case2 => exact unbroken

namespace Library

/-- No line of the library's files has a line feed in it. -/
def IsUnbroken (lib : Library) : Prop := ∀ file ∈ lib.files, ∀ line ∈ file.lines, '\n' ∉ line.text

/-- The lines of a file that was read are as unbroken as the lines that were supplied. -/
theorem isUnbroken_of_build {s : Supplier} {starts : List Path} {lib : Library}
    (built : build s starts = .ok lib)
    (unbroken : ∀ asked path ls, s.answer asked path = .ok ls → ∀ l ∈ ls, '\n' ∉ l) : lib.IsUnbroken := by
  obtain rfl := eq_of_build_eq_ok built
  intro file listed line here
  obtain ⟨reading, read, outcome⟩ := mem_files_ofReadings_iff.1 listed
  obtain ⟨earlier, later, split⟩ := List.append_of_mem read
  have loaded := (s.crawls_crawlFrom [] starts).outcome_eq split
  rw [outcome] at loaded
  obtain ⟨ls, answered, made⟩ := SourceFile.ofAnswer_eq_ok_iff.1 loaded.symm
  obtain ⟨folder, _, rfl⟩ := Option.map_eq_some_iff.1 made
  obtain ⟨t, inside, rfl⟩ := List.mem_map.1 here
  exact SourceFile.newline_not_mem_dropMark (unbroken _ _ ls answered) t inside

variable {lib : Library} {path : Path} {file : SourceFile}

/-- What holds of every line of the library's files holds of the lines of a flattened file. -/
theorem forall_mem_expand (holds : Text → Prop)
    (all : ∀ file ∈ lib.files, ∀ line ∈ file.lines, holds line.text) (found : lib.find? path = some file) :
    ∀ t ∈ (lib.expand file).map (fun l => l.line.text), holds t := by
  intro t listed
  obtain ⟨l, yielded, rfl⟩ := List.mem_map.1 listed
  obtain ⟨_, other, at_file, at_index, _⟩ := mem_keptAt_iff.1 ((mem_expand_iff found).1 yielded).2
  exact all other (mem_of_find?_eq_some at_file).1 l.line (List.mem_of_getElem? at_index)

/-- The text of a flattened file is made of its lines. -/
theorem text_flatten_eq_unlines (lib : Library) (file : SourceFile) :
    (lib.flatten file).text = Text.unlines ((lib.expand file).map fun l => l.line.text) := by
  rw [text_flatten, expand_eq_inlineFrom]

/-- The lines of the text of a flattened file are those that flattening yields. -/
theorem endedLines_text_flatten (unbroken : lib.IsUnbroken) (found : lib.find? path = some file) :
    (lib.flatten file).text.endedLines = (lib.expand file).map fun l => l.line.text := by
  rw [text_flatten_eq_unlines, Text.endedLines_unlines (forall_mem_expand ('\n' ∉ ·) unbroken found)]

/-- A flattened file counts the lines that flattening yields. -/
theorem lineCount_flatten (lib : Library) (file : SourceFile) :
    (lib.flatten file).lineCount = (lib.expand file).length := by
  have entries : (lib.flatten file).entries.length = (lib.expand file).length := by
    rw [entries_flatten_eq_map_expand, List.length_map]
  rw [← entries, FlatSource.lineCount, FlatSource.entries, List.length_flatMap, List.length_flatMap]
  simp only [Stretch.length_entries]

/-- The origin of a line is the place that flattening yields it with. -/
theorem origin?_flatten (lib : Library) (file : SourceFile) (n : Nat) :
    (lib.flatten file).origin? (n + 1) = (lib.expand file)[n]?.map fun l => (l.file, l.index + 1) := by
  rw [FlatSource.origin?_succ, places_flatten, List.getElem?_map, Option.map_map]
  rfl

/-- The map of lines of a flat source agrees with its text. -/
structure MapsLines (lib : Library) (source : FlatSource) : Prop where
  /-- The text is made of lines that are each ended by a line feed. -/
  ended : source.text = Text.unlines source.text.endedLines
  /-- There are as many lines as are counted. -/
  counted : source.text.endedLines.length = source.lineCount
  /-- Each line has an origin in a file of the library, and is the line of that file there. -/
  origin : ∀ n, 1 ≤ n → n ≤ source.lineCount → ∃ f k file line,
    source.origin? n = some (f, k) ∧ lib.find? f = some file ∧ 1 ≤ k ∧ k ≤ file.lines.length ∧
      file.lines[k - 1]? = some line ∧ source.text.endedLines[n - 1]? = some line.text
  /-- Two lines have different origins. -/
  distinct : ∀ m n origin, source.origin? m = some origin → source.origin? n = some origin → m = n
  /-- There is no origin outside the text. -/
  outside : ∀ n, n = 0 ∨ source.lineCount < n → source.origin? n = none

/-- The map of lines of a flattened file agrees with its text. -/
theorem mapsLines_flatten (unbroken : lib.IsUnbroken) (found : lib.find? path = some file) :
    lib.MapsLines (lib.flatten file) where
  ended := by rw [endedLines_text_flatten unbroken found, text_flatten_eq_unlines]
  counted := by rw [endedLines_text_flatten unbroken found, lineCount_flatten, List.length_map]
  origin := by
    intro n first last
    obtain ⟨n, rfl⟩ := Nat.exists_eq_add_of_le' first
    rw [lineCount_flatten] at last
    have at_n : (lib.expand file)[n]? = some (lib.expand file)[n] := List.getElem?_eq_getElem last
    have kept := ((mem_expand_iff found).1 (List.getElem_mem last)).2
    obtain ⟨_, other, at_file, at_index, _⟩ := mem_keptAt_iff.1 kept
    have bound := (List.getElem?_eq_some_iff.1 at_index).1
    refine ⟨_, _, other, _, ?_, at_file, Nat.le_add_left 1 _, bound, at_index, ?_⟩
    · rw [origin?_flatten, at_n, Option.map_some]
    · rw [endedLines_text_flatten unbroken found, Nat.add_sub_cancel, List.getElem?_map, at_n,
        Option.map_some]
  distinct := fun _ _ _ at_m at_n => FlatSource.eq_of_origin?_eq (nodup_places_flatten found) at_m at_n
  outside := by
    rintro n (rfl | behind)
    · rfl
    · rw [lineCount_flatten] at behind
      obtain ⟨n, rfl⟩ := Nat.exists_eq_add_of_lt behind
      rw [origin?_flatten, List.getElem?_eq_none (by omega), Option.map_none]

/-- In a library that was built from lines without line feeds, the map of lines of a flattened file agrees
with its text. -/
theorem build_flattenAt_mapsLines (s : Supplier) (starts : List Path) (lib : Library)
    (unbroken : ∀ asked path ls, s.answer asked path = .ok ls → ∀ l ∈ ls, '\n' ∉ l)
    (built : build s starts = .ok lib) (root : Path) (loaded : root ∈ lib.paths) :
    ∃ source, lib.flattenAt root = .ok source ∧ lib.MapsLines source := by
  obtain ⟨file, found⟩ := mem_paths_iff.1 loaded
  refine ⟨lib.flatten file, by rw [flattenAt, found], ?_⟩
  exact mapsLines_flatten (isUnbroken_of_build built unbroken) found

/-- A reader of a file that includes a second one twice, which starts with an include of an empty file. -/
def nested : Reader :=
  Reader.ofTable
    [(Path.root.follow ['x'], .ok ["float a;".toList, "#include y".toList, "#include y".toList,
        "float b;".toList]),
      (Path.root.follow ['y'], .ok ["#include z".toList, "float c;".toList]),
      (Path.root.follow ['z'], .ok [])]
    fun _ => "no such file"

/-- Its lines are mapped, across the include that is dropped and the file that is empty. -/
theorem build_flattenAt_mapsLines_nested :
    let lib := ofReadings (nested.crawl [Path.root.follow ['x']])
    (∀ asked path ls, nested.supplier.answer asked path = .ok ls → ∀ l ∈ ls, '\n' ∉ l) ∧
      build nested [Path.root.follow ['x']] = .ok lib ∧ Path.root.follow ['x'] ∈ lib.paths ∧
      ∃ source, lib.flattenAt (Path.root.follow ['x']) = .ok source ∧ lib.MapsLines source := by
  intro lib
  have unbroken : ∀ asked path ls, nested.supplier.answer asked path = .ok ls → ∀ l ∈ ls, '\n' ∉ l := by
    intro asked path ls answered
    change nested.read path = .ok ls at answered
    have listed := Reader.mem_of_read_ofTable answered
    simp only [List.mem_cons, List.not_mem_nil, or_false, Prod.mk.injEq, Except.ok.injEq] at listed
    obtain ⟨_, rfl⟩ | ⟨_, rfl⟩ | ⟨_, rfl⟩ := listed <;> decide
  have straight : (ofReadings (nested.crawl [Path.root.follow ['x']])).cycle? = none := by cbv
  have built : build nested [Path.root.follow ['x']] = .ok lib := build_eq_ok_iff.2 ⟨rfl, straight⟩
  have listed : (ofReadings (nested.crawl [Path.root.follow ['x']])).paths =
    [Path.root.follow ['x'], Path.root.follow ['y'], Path.root.follow ['z']] := by cbv
  have loaded : Path.root.follow ['x'] ∈ lib.paths := by
    show _ ∈ (ofReadings (nested.crawl [Path.root.follow ['x']])).paths
    rw [listed]
    exact List.mem_cons_self
  exact ⟨unbroken, built, loaded, build_flattenAt_mapsLines nested _ lib unbroken built _ loaded⟩

end Library

end ShaderBundle
