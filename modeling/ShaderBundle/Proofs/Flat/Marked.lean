import ShaderBundle.Proofs.Flat.Origins
/-!
# Texts with markers

A compiler that reads a text with markers keeps the place of the next line: a marker sets it, and a line
of code moves it on by one line. In this way it finds each line at its origin. Within a stretch the lines
follow each other in their file, and each stretch comes after a marker, except one that starts the file
that was flattened. There is at most one such stretch, and it comes first, where a compiler starts.
-/

namespace ShaderBundle

namespace Marker

/-- A marker starts with its word, also after trimming. -/
theorem word_prefix_trim {t : Text} (begins : word <+: t) : word <+: t.trim := by
  apply Text.prefix_trim begins
  · rintro c ⟨⟩
    decide
  · rintro c ⟨⟩
    decide

/-- A line that does not start with the word after trimming is no marker. -/
theorem ofText?_eq_none {t : Text} (unmarked : ¬ word <+: t.trim) : ofText? t = none := by
  cases begins : (word ++ [' ']).isPrefixOf? t with
  | none => rw [ofText?, begins]; rfl
  | some rest =>
    have starts : word <+: t := by
      rw [← List.append_eq_of_isPrefixOf?_eq_some begins, List.append_assoc]
      exact List.prefix_append word _
    exact absurd (word_prefix_trim starts) unmarked

/-- A marker has no line feed if the name of its file has none. -/
theorem newline_not_mem_text {m : Marker} (written : '\n' ∉ m.file) : '\n' ∉ m.text := by
  have digits : '\n' ∉ Text.decimal m.line := fun listed => by
    have := Text.isDigit_of_mem_decimal listed
    contradiction
  simp [text, word, digits, written]

/-- The place of the next line is the place of the following one after a line of code. -/
theorem locate_append {code : List Text} (plain : ∀ t ∈ code, ofText? t = none) (rest : List Text)
    (index : Nat) (file : Text) :
    locate ⟨index + 1, file⟩ (code ++ rest) =
      (code.zipIdx index).map (fun line => (⟨line.2 + 1, file⟩, line.1)) ++
        locate ⟨index + code.length + 1, file⟩ rest := by
  induction code generalizing index with
  | nil => rfl
  | cons t code ih =>
    obtain ⟨first, others⟩ := List.forall_mem_cons.1 plain
    have onward := ih others (index + 1)
    rw [List.cons_append, locate, first]
    simp only [onward, List.zipIdx_cons, List.map_cons, List.cons_append, List.length_cons]
    rw [Nat.add_right_comm index 1, Nat.add_assoc index]

/-- A marker sets the place of the next line. -/
theorem locate_text_cons (next m : Marker) (rest : List Text) : locate next (m.text :: rest) = locate m rest := by
  rw [locate, ofText?_text]

end Marker

namespace Stretch

/-- The lines of the stretch in a text with markers for the flattened file `root`. -/
def markedLines (root : Path) (s : Stretch) : List Text :=
  if s.file = root ∧ s.start = 0 then s.lines else s.marker.text :: s.lines

/-- The lines of the stretch, each with its place. -/
def located (s : Stretch) : List (Marker × Text) :=
  s.entries.map fun entry => (⟨entry.2.1 + 1, entry.1.text⟩, entry.2.2)

/-- Where the place of the next line is the start of a stretch, the lines of the stretch are located, and
what follows is read from the place behind the stretch. -/
theorem locate_lines_append (s : Stretch) (plain : ∀ t ∈ s.lines, Marker.ofText? t = none)
    (rest : List Text) :
    Marker.locate s.marker (s.lines ++ rest) =
      s.located ++ Marker.locate ⟨s.start + s.lines.length + 1, s.file.text⟩ rest := by
  rw [marker, Marker.locate_append plain, located, entries, List.map_map]
  rfl

/-- Stretches that each follow a marker are located wherever they are read from. -/
theorem locate_flatMap_markedLines (root : Path) (stretches : List Stretch)
    (plain : ∀ s ∈ stretches, ∀ t ∈ s.lines, Marker.ofText? t = none)
    (marked : ∀ s ∈ stretches, ¬ (s.file = root ∧ s.start = 0)) (next : Marker) :
    Marker.locate next (stretches.flatMap (markedLines root)) = stretches.flatMap located := by
  induction stretches generalizing next with
  | nil => rfl
  | cons s rest ih =>
    obtain ⟨first, others⟩ := List.forall_mem_cons.1 plain
    obtain ⟨follows, onward⟩ := List.forall_mem_cons.1 marked
    rw [List.flatMap_cons, List.flatMap_cons, markedLines, if_neg follows, List.cons_append,
      Marker.locate_text_cons, locate_lines_append s first, ih others onward]

/-- Stretches are located from the start of the flattened file on, if only the first can start there. -/
theorem locate_flatMap_markedLines_of_tail (root : Path) (stretches : List Stretch)
    (plain : ∀ s ∈ stretches, ∀ t ∈ s.lines, Marker.ofText? t = none)
    (marked : ∀ s ∈ stretches.tail, ¬ (s.file = root ∧ s.start = 0)) :
    Marker.locate ⟨1, root.text⟩ (stretches.flatMap (markedLines root)) = stretches.flatMap located := by
  cases stretches with
  | nil => rfl
  | cons s rest =>
    by_cases starts : s.file = root ∧ s.start = 0
    · obtain ⟨first, others⟩ := List.forall_mem_cons.1 plain
      have here : (⟨1, root.text⟩ : Marker) = s.marker := by rw [marker, starts.1, starts.2]
      rw [List.flatMap_cons, List.flatMap_cons, markedLines, if_pos starts, here,
        locate_lines_append s first, locate_flatMap_markedLines root rest others marked]
    · exact locate_flatMap_markedLines root (s :: rest) plain
        (List.forall_mem_cons.2 ⟨starts, marked⟩) _

/-- A line that is put in front leaves no stretch empty. -/
theorem size_pos_cons (l : PlacedLine) (stretches : List Stretch) (filled : ∀ s ∈ stretches, 0 < s.size) :
    ∀ s ∈ cons l stretches, 0 < s.size := by
  have alone : 0 < (⟨l.file, l.index, [l.line.text]⟩ : Stretch).size := Nat.one_pos
  cases stretches with
  | nil => exact List.forall_mem_cons.2 ⟨alone, filled⟩
  | cons first rest =>
    rw [cons.eq_def]
    dsimp only
    split
    · exact List.forall_mem_cons.2 ⟨Nat.succ_pos _, (List.forall_mem_cons.1 filled).2⟩
    · exact List.forall_mem_cons.2 ⟨alone, filled⟩

/-- A stretch that is made of lines has a line, so it stands for the place where it starts. -/
theorem start_mem_places {ls : List PlacedLine} {s : Stretch} (made : s ∈ ofLines ls) :
    (s.file, s.start) ∈ s.places := by
  have filled : ∀ s ∈ ofLines ls, 0 < s.size := by
    clear made
    induction ls with
    | nil => exact fun s made => absurd made List.not_mem_nil
    | cons l ls ih => exact size_pos_cons l (ofLines ls) ih
  have first : s.start ∈ List.range' s.start s.size := by
    rw [List.mem_range'_1]
    have := filled s made
    omega
  exact List.mem_map_of_mem first

/-- The stretches made of some lines have the texts of these lines, in order. -/
theorem flatMap_lines_ofLines (ls : List PlacedLine) :
    (ofLines ls).flatMap lines = ls.map fun l => l.line.text := by
  calc
    (ofLines ls).flatMap lines = ((ofLines ls).flatMap entries).map (fun entry => entry.2.2) := by
          rw [List.map_flatMap]
          exact List.flatMap_congr fun s _ => (map_text_entries s).symm
    _ = ls.map fun l => l.line.text := by
          rw [flatMap_entries_ofLines, List.map_map]
          rfl

end Stretch

namespace FlatSource

/-- The lines of the text with markers, markers among them. -/
def markedLines (s : FlatSource) : List Text := s.stretches.flatMap (Stretch.markedLines s.root)

/-- The text with markers is made of these lines. -/
theorem markedText_eq_unlines (s : FlatSource) : s.markedText = Text.unlines s.markedLines := by
  rw [markedText, markedLines, Text.unlines, List.flatMap_assoc]
  refine List.flatMap_congr fun stretch _ => ?_
  rw [Stretch.markedLines]
  split
  · rfl
  · rw [List.flatMap_cons, List.append_assoc]
    rfl

/-- The lines of code that a compiler finds in the text with markers, each with the place that it keeps. -/
def located (s : FlatSource) : List (Marker × Text) :=
  Marker.locate ⟨1, s.root.text⟩ s.markedText.endedLines

/-- A compiler that reads the text with markers finds the lines of the text without them, at their
origins. -/
structure IsLocated (s : FlatSource) : Prop where
  /-- The text with markers is made of lines that are each ended by a line feed. -/
  ended : s.markedText = Text.unlines s.markedText.endedLines
  /-- The lines of code are the lines of the text without markers. -/
  code : s.located.map Prod.snd = s.text.endedLines
  /-- Each is found at its origin. -/
  place : ∀ n, (s.located[n]?).map Prod.fst =
    (s.origin? (n + 1)).map fun origin => ⟨origin.2, origin.1.text⟩

end FlatSource

namespace Library

variable {lib : Library} {path : Path} {file : SourceFile}

/-- A line that is kept is the first that some lines yield, if it is the first of them. -/
theorem lines_inlineFrom_of_isKept {entered : List Path} {l : PlacedLine} (rest : List PlacedLine)
    (loaded : ∀ p ∈ entered, p ∈ lib.paths) (stays : lib.IsKept l.line) :
    (lib.inlineFrom entered (l :: rest)).lines = l :: (lib.inlineFrom entered rest).lines := by
  rw [inlineFrom]
  split
  · rfl
  · next target aims =>
    have absent : target ∉ lib.paths := (isKept_iff_of_aims aims).1 stays
    split
    · next old => exact absurd (loaded target old) absent
    · split
      · rfl
      · next file found => exact absurd (mem_paths_of_find?_eq_some found) absent

/-- Where the start of the flattened file is kept, flattening starts with it. -/
theorem head?_places_flatten (found : lib.find? path = some file)
    (listed : (path, 0) ∈ (lib.flatten file).places) :
    (lib.flatten file).places.head? = some (path, 0) := by
  rw [places_flatten] at listed ⊢
  obtain ⟨l, yielded, same⟩ := List.mem_map.1 listed
  obtain ⟨rfl, first⟩ := Prod.mk.inj same
  obtain ⟨_, other, at_path, at_index, stays⟩ := mem_keptAt_iff.1 ((mem_expand_iff found).1 yielded).2
  obtain rfl : file = other := Option.some.inj (found.symm.trans at_path)
  have lies := (mem_of_find?_eq_some found).2
  have at_start : file.placed[0]? = some l := by
    rw [first] at at_index
    rw [Frame.getElem?_placed, at_index, Option.map_some, lies, ← first]
  cases placed : file.placed with
  | nil => rw [placed] at at_start; cases at_start
  | cons l' rest =>
    obtain rfl : l' = l := by rw [placed] at at_start; exact Option.some.inj at_start
    have loaded : ∀ p ∈ [file.path], p ∈ lib.paths := by
      simpa [lies] using mem_paths_of_find?_eq_some found
    rw [expand_eq_inlineFrom, placed, lines_inlineFrom_of_isKept rest loaded stays, ← same]
    rfl

/-- Only the first stretch can start the flattened file. -/
theorem not_start_of_mem_tail (found : lib.find? path = some file) :
    ∀ s ∈ (lib.flatten file).stretches.tail, ¬ (s.file = path ∧ s.start = 0) := by
  have distinct := nodup_places_flatten found
  have starts := head?_places_flatten found
  have made : ∀ s ∈ (lib.flatten file).stretches, (s.file, s.start) ∈ s.places :=
    fun s listed => Stretch.start_mem_places listed
  rw [FlatSource.places] at distinct starts
  intro s later
  cases split : (lib.flatten file).stretches with
  | nil => simp [split] at later
  | cons first rest =>
    rw [split] at distinct starts later made
    rw [List.flatMap_cons] at distinct starts
    rintro ⟨rfl, start⟩
    have again : (s.file, 0) ∈ rest.flatMap Stretch.places :=
      List.mem_flatMap.2 ⟨s, later, start ▸ made s (List.mem_cons_of_mem first later)⟩
    have head := starts (List.mem_append_right _ again)
    have filled : first.places ≠ [] := List.ne_nil_of_mem (made first List.mem_cons_self)
    rw [List.head?_append_of_ne_nil _ filled] at head
    have apart := (List.nodup_append.1 distinct).2.2
    exact apart _ (List.mem_of_mem_head? head) _ again rfl

/-- What holds of every line of the library's files holds of the lines of each stretch. -/
theorem forall_mem_lines (holds : Text → Prop)
    (all : ∀ file ∈ lib.files, ∀ line ∈ file.lines, holds line.text) (found : lib.find? path = some file) :
    ∀ s ∈ (lib.flatten file).stretches, ∀ t ∈ s.lines, holds t := by
  intro s made t listed
  have yielded : t ∈ (lib.expand file).map fun l => l.line.text := by
    rw [← Stretch.flatMap_lines_ofLines]
    exact List.mem_flatMap.2 ⟨s, made, listed⟩
  exact forall_mem_expand holds all found t yielded

/-- Each stretch is from a file of the library. -/
theorem file_mem_paths (found : lib.find? path = some file) :
    ∀ s ∈ (lib.flatten file).stretches, s.file ∈ lib.paths := by
  intro s made
  have place : (s.file, s.start) ∈ (lib.flatten file).places :=
    List.mem_flatMap.2 ⟨s, made, Stretch.start_mem_places made⟩
  rw [places_flatten] at place
  obtain ⟨l, yielded, same⟩ := List.mem_map.1 place
  obtain ⟨_, other, at_file, _⟩ := mem_keptAt_iff.1 ((mem_expand_iff found).1 yielded).2
  have from_file : l.file = s.file := (Prod.mk.inj same).1
  exact from_file ▸ mem_paths_of_find?_eq_some at_file

/-- The lines of a flattened file with its markers have no line feed in them. -/
theorem newline_not_mem_markedLines (unbroken : lib.IsUnbroken) (written : ∀ p ∈ lib.paths, '\n' ∉ p.text)
    (found : lib.find? path = some file) : ∀ t ∈ (lib.flatten file).markedLines, '\n' ∉ t := by
  intro t listed
  obtain ⟨s, made, inside⟩ := List.mem_flatMap.1 listed
  have plain : ∀ t ∈ s.lines, '\n' ∉ t := forall_mem_lines ('\n' ∉ ·) unbroken found s made
  rw [Stretch.markedLines] at inside
  split at inside
  · exact plain t inside
  · rcases List.mem_cons.1 inside with rfl | code
    · exact Marker.newline_not_mem_text (written s.file (file_mem_paths found s made))
    · exact plain t code

/-- A compiler finds each line that flattening yields at the place that it is yielded with. -/
theorem located_flatten (unbroken : lib.IsUnbroken) (written : ∀ p ∈ lib.paths, '\n' ∉ p.text)
    (unmarked : ∀ file ∈ lib.files, ∀ line ∈ file.lines, ¬ Marker.word <+: line.text.trim)
    (found : lib.find? path = some file) :
    (lib.flatten file).located =
      (lib.expand file).map fun l => (⟨l.index + 1, l.file.text⟩, l.line.text) := by
  have lines : (lib.flatten file).markedText.endedLines = (lib.flatten file).markedLines := by
    rw [FlatSource.markedText_eq_unlines]
    exact Text.endedLines_unlines (newline_not_mem_markedLines unbroken written found)
  have plain : ∀ s ∈ (lib.flatten file).stretches, ∀ t ∈ s.lines, Marker.ofText? t = none :=
    forall_mem_lines (Marker.ofText? · = none)
      (fun f listed line here => Marker.ofText?_eq_none (unmarked f listed line here)) found
  have marked : ∀ s ∈ (lib.flatten file).stretches.tail, ¬ (s.file = (lib.flatten file).root ∧ s.start = 0) := by
    rw [show (lib.flatten file).root = path from (mem_of_find?_eq_some found).2]
    exact not_start_of_mem_tail found
  calc
    (lib.flatten file).located = (lib.flatten file).stretches.flatMap Stretch.located := by
          rw [FlatSource.located, lines]
          exact Stretch.locate_flatMap_markedLines_of_tail _ _ plain marked
    _ = (lib.flatten file).entries.map fun entry => (⟨entry.2.1 + 1, entry.1.text⟩, entry.2.2) := by
          rw [FlatSource.entries, List.map_flatMap]
          rfl
    _ = (lib.expand file).map fun l => (⟨l.index + 1, l.file.text⟩, l.line.text) := by
          rw [entries_flatten_eq_map_expand, List.map_map]
          rfl

/-- A compiler that reads a flattened file with its markers finds the lines of the file flattened without
them, each at its origin, unless a line feed stands inside a line or a path, or a line starts like a
marker. -/
theorem flattenAt_isLocated (lib : Library) (unbroken : lib.IsUnbroken)
    (written : ∀ p ∈ lib.paths, '\n' ∉ p.text)
    (unmarked : ∀ file ∈ lib.files, ∀ line ∈ file.lines, ¬ Marker.word <+: line.text.trim)
    (root : Path) (loaded : root ∈ lib.paths) :
    ∃ source, lib.flattenAt root = .ok source ∧ source.root = root ∧ source.IsLocated := by
  obtain ⟨file, found⟩ := mem_paths_iff.1 loaded
  have located := located_flatten unbroken written unmarked found
  refine ⟨lib.flatten file, by rw [flattenAt, found], (mem_of_find?_eq_some found).2, ?_⟩
  constructor
  case ended =>
    rw [FlatSource.markedText_eq_unlines,
      Text.endedLines_unlines (newline_not_mem_markedLines unbroken written found)]
  case code =>
    rw [located, endedLines_text_flatten unbroken found, List.map_map]
    rfl
  case place =>
    intro n
    rw [located, origin?_flatten, List.getElem?_map, Option.map_map, Option.map_map]
    rfl

/-- In this library a file starts with an include and ends with one that failed, and each line is found at its
origin. -/
theorem flattenAt_isLocated_diamond :
    diamond.IsUnbroken ∧ (∀ p ∈ diamond.paths, '\n' ∉ p.text) ∧
      (∀ file ∈ diamond.files, ∀ line ∈ file.lines, ¬ Marker.word <+: line.text.trim) ∧
      Path.root.follow ['a'] ∈ diamond.paths ∧
      ∃ source, diamond.flattenAt (Path.root.follow ['a']) = .ok source ∧
        source.root = Path.root.follow ['a'] ∧ source.IsLocated := by
  have unbroken : diamond.IsUnbroken := by
    unfold IsUnbroken
    decide +kernel
  have written : ∀ p ∈ diamond.paths, '\n' ∉ p.text := by decide +kernel
  have unmarked : ∀ file ∈ diamond.files, ∀ line ∈ file.lines, ¬ Marker.word <+: line.text.trim := by
    decide +kernel
  have loaded : Path.root.follow ['a'] ∈ diamond.paths := by decide +kernel
  exact ⟨unbroken, written, unmarked, loaded,
    flattenAt_isLocated diamond unbroken written unmarked _ loaded⟩

example : (diamond.flattenAt (Path.root.follow ['a'])).map FlatSource.markedLines =
    .ok ["#line 2 \"/b\"".toList, ['5'], "#line 2 \"/a\"".toList, ['1'], "#line 4 \"/a\"".toList, ['3']] := by
  cbv

end Library

end ShaderBundle
