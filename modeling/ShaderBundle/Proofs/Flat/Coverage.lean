import ShaderBundle.Proofs.Flat.Recursion
import ShaderBundle.Proofs.Library.Includes
import Mathlib.Data.List.Nodup
/-!
# What flattening covers

Flattening enters each file of the include closure once and no other, and a file that is entered leaves
each of its lines once, except those that include a file of the library. Both are said of the recursion
first: of the files that it has entered by its end, and of its lines as a rearrangement of what these
files keep.
-/

namespace ShaderBundle

open Relation (ReflTransGen)

/-- The lines of a file with their places. -/
theorem SourceFile.mem_placed_iff {file : SourceFile} {l : PlacedLine} :
    l ∈ file.placed ↔ l.file = file.path ∧ file.lines[l.index]? = some l.line := by
  rw [placed, List.mem_map]
  constructor
  · rintro ⟨⟨line, index⟩, at_index, rfl⟩
    exact ⟨rfl, List.mk_mem_zipIdx_iff_getElem?.1 at_index⟩
  · obtain ⟨path, index, line⟩ := l
    rintro ⟨rfl, at_index⟩
    exact ⟨(line, index), List.mk_mem_zipIdx_iff_getElem?.2 at_index, rfl⟩

namespace Library

/-- The line stays in a flattened text: it includes no file of the library. -/
def IsKept (lib : Library) (line : SourceLine) : Prop := ∀ target ∈ line.target?, target ∉ lib.paths

instance (lib : Library) (line : SourceLine) : Decidable (lib.IsKept line) :=
  inferInstanceAs (Decidable (∀ target ∈ line.target?, target ∉ lib.paths))

/-- A line that is no include stays. -/
theorem isKept_of_plain {lib : Library} {line : SourceLine} (plain : line.target? = none) :
    lib.IsKept line := by
  intro target aims
  rw [plain] at aims
  cases aims

/-- An include line stays exactly if its target is no file of the library. -/
theorem isKept_iff_of_aims {lib : Library} {line : SourceLine} {target : Path}
    (aims : line.target? = some target) : lib.IsKept line ↔ target ∉ lib.paths := by
  rw [IsKept, aims]
  simp

/-- The lines that the file at a path keeps. -/
def keptAt (lib : Library) (path : Path) : List PlacedLine :=
  (lib.find? path).toList.flatMap fun file => file.placed.filter fun l => lib.IsKept l.line

/-- What is kept at the path of a file is what the file keeps. -/
theorem keptAt_of_find? {lib : Library} {path : Path} {file : SourceFile}
    (found : lib.find? path = some file) :
    lib.keptAt path = file.placed.filter fun l => lib.IsKept l.line := by
  rw [keptAt, found]
  exact List.flatMap_singleton _ file

/-- The placed lines of a file aim at the files that it includes. -/
theorem includes_of_mem_placed {lib : Library} {path target : Path} {file : SourceFile} {l : PlacedLine}
    (found : lib.find? path = some file) (listed : l ∈ file.placed) (aims : l.line.target? = some target)
    (loaded : target ∈ lib.paths) : lib.Includes path target := by
  have here : l.line ∈ file.lines := List.mem_of_getElem? (SourceFile.mem_placed_iff.1 listed).2
  exact ⟨file, found, SourceFile.mem_targets_iff.2 ⟨l.line, here, aims⟩, loaded⟩

/-- Each include of a file is a placed line of it. -/
theorem exists_placed_of_includes {lib : Library} {path target : Path} {file : SourceFile}
    (found : lib.find? path = some file) (included : lib.Includes path target) :
    ∃ l ∈ file.placed, l.line.target? = some target := by
  obtain ⟨same, at_path, listed, _⟩ := included
  obtain rfl : file = same := Option.some.inj (found.symm.trans at_path)
  obtain ⟨line, here, aims⟩ := SourceFile.mem_targets_iff.1 listed
  obtain ⟨index, at_index⟩ := List.getElem?_of_mem here
  exact ⟨⟨file.path, index, line⟩, SourceFile.mem_placed_iff.2 ⟨rfl, at_index⟩, aims⟩

/-- The recursion enters no file twice. -/
theorem nodup_entered_inlineFrom (lib : Library) (entered : List Path) (ls : List PlacedLine)
    (distinct : entered.Nodup) : (lib.inlineFrom entered ls).entered.Nodup := by
  fun_induction inlineFrom lib entered ls with
  | case1 entered => exact distinct
  | case2 entered l rest plain out ih => exact ih distinct
  | case3 entered l rest target aims old ih => exact ih distinct
  | case4 entered l rest target aims fresh absent out ih => exact ih distinct
  | case5 entered l rest target aims fresh file found inner outer into beyond =>
    exact beyond (into (List.nodup_cons.2 ⟨fresh, distinct⟩))

/-- What holds of the files entered before and of the files that the lines include, and is handed on by
includes, holds of every file that the recursion enters. -/
theorem forall_entered_inlineFrom (lib : Library) (holds : Path → Prop)
    (handedOn : ∀ p q, holds p → lib.Includes p q → holds q) (entered : List Path) (ls : List PlacedLine)
    (before : ∀ p ∈ entered, holds p)
    (included : ∀ l ∈ ls, ∀ target, l.line.target? = some target → target ∈ lib.paths → holds target) :
    ∀ p ∈ (lib.inlineFrom entered ls).entered, holds p := by
  fun_induction inlineFrom lib entered ls with
  | case1 entered => exact before
  | case2 entered l rest plain out ih =>
    exact ih before fun l' listed => included l' (List.mem_cons_of_mem l listed)
  | case3 entered l rest target aims old ih =>
    exact ih before fun l' listed => included l' (List.mem_cons_of_mem l listed)
  | case4 entered l rest target aims fresh absent out ih =>
    exact ih before fun l' listed => included l' (List.mem_cons_of_mem l listed)
  | case5 entered l rest target aims fresh file found inner outer into beyond =>
    have enters : holds target :=
      included l List.mem_cons_self target aims (mem_paths_of_find?_eq_some found)
    have inside : ∀ p ∈ inner.entered, holds p := by
      refine into (List.forall_mem_cons.2 ⟨enters, before⟩) fun l' listed further aims' loaded => ?_
      exact handedOn target further enters (includes_of_mem_placed found listed aims' loaded)
    exact beyond inside fun l' listed => included l' (List.mem_cons_of_mem l listed)

/-- Every file of the library that the lines include has been entered by the end. -/
theorem mem_entered_of_target (lib : Library) (entered : List Path) (ls : List PlacedLine) :
    ∀ l ∈ ls, ∀ target, l.line.target? = some target → target ∈ lib.paths →
      target ∈ (lib.inlineFrom entered ls).entered := by
  fun_induction inlineFrom lib entered ls with
  | case1 entered => exact fun l listed => absurd listed List.not_mem_nil
  | case2 entered l rest plain out ih =>
    refine List.forall_mem_cons.2 ⟨fun target aims => ?_, ih⟩
    rw [plain] at aims
    cases aims
  | case3 entered l rest aim aims old ih =>
    refine List.forall_mem_cons.2 ⟨fun target aims' loaded => ?_, ih⟩
    obtain rfl : aim = target := Option.some.inj (aims.symm.trans aims')
    exact (lib.inlineFrom entered rest).kept old
  | case4 entered l rest aim aims fresh absent out ih =>
    refine List.forall_mem_cons.2 ⟨fun target aims' loaded => ?_, ih⟩
    obtain rfl : aim = target := Option.some.inj (aims.symm.trans aims')
    exact absurd loaded (find?_eq_none_iff.1 absent)
  | case5 entered l rest aim aims fresh file found inner outer into beyond =>
    refine List.forall_mem_cons.2 ⟨fun target aims' loaded => ?_, beyond⟩
    obtain rfl : aim = target := Option.some.inj (aims.symm.trans aims')
    exact outer.kept (inner.kept List.mem_cons_self)

/-- A file that the recursion enters has what it includes entered by the end. -/
theorem mem_entered_of_includes (lib : Library) (entered : List Path) (ls : List PlacedLine) :
    ∀ p ∈ (lib.inlineFrom entered ls).entered, p ∉ entered → ∀ q, lib.Includes p q →
      q ∈ (lib.inlineFrom entered ls).entered := by
  fun_induction inlineFrom lib entered ls with
  | case1 entered => exact fun p listed new => absurd listed new
  | case2 entered l rest plain out ih => exact ih
  | case3 entered l rest target aims old ih => exact ih
  | case4 entered l rest target aims fresh absent out ih => exact ih
  | case5 entered l rest target aims fresh file found inner outer into beyond =>
    intro p listed new q included
    by_cases inside : p ∈ inner.entered
    · refine outer.kept ?_
      by_cases same : p = target
      · subst same
        obtain ⟨l', listed', aims'⟩ := exists_placed_of_includes found included
        exact mem_entered_of_target lib (p :: entered) file.placed l' listed' q aims' included.target_mem
      · exact into p inside (by simp [same, new]) q included
    · exact beyond p listed inside q included

/-- Up to order, the recursion yields what its lines keep and what the files keep that it enters. -/
theorem inlineFrom_perm (lib : Library) (entered : List Path) (ls : List PlacedLine)
    (loaded : ∀ p ∈ entered, p ∈ lib.paths) :
    ∃ fresh, (lib.inlineFrom entered ls).entered = fresh ++ entered ∧
      (lib.inlineFrom entered ls).lines.Perm
        (ls.filter (fun l => lib.IsKept l.line) ++ fresh.flatMap lib.keptAt) := by
  fun_induction inlineFrom lib entered ls with
  | case1 entered => exact ⟨[], rfl, List.Perm.nil⟩
  | case2 entered l rest plain out ih =>
    obtain ⟨fresh, ends, yields⟩ := ih loaded
    have stays : lib.IsKept l.line := isKept_of_plain plain
    refine ⟨fresh, ends, ?_⟩
    rw [List.filter_cons_of_pos (by simpa using stays)]
    exact yields.cons l
  | case3 entered l rest target aims old ih =>
    obtain ⟨fresh, ends, yields⟩ := ih loaded
    have goes : ¬ lib.IsKept l.line := fun stays => (isKept_iff_of_aims aims).1 stays (loaded target old)
    refine ⟨fresh, ends, ?_⟩
    rw [List.filter_cons_of_neg (by simpa using goes)]
    exact yields
  | case4 entered l rest target aims fresh absent out ih =>
    obtain ⟨fresh, ends, yields⟩ := ih loaded
    have stays : lib.IsKept l.line := (isKept_iff_of_aims aims).2 (find?_eq_none_iff.1 absent)
    refine ⟨fresh, ends, ?_⟩
    rw [List.filter_cons_of_pos (by simpa using stays)]
    exact yields.cons l
  | case5 entered l rest target aims fresh file found inner outer into beyond =>
    have enters : target ∈ lib.paths := mem_paths_of_find?_eq_some found
    have goes : ¬ lib.IsKept l.line := fun stays => (isKept_iff_of_aims aims).1 stays enters
    have loaded' : ∀ p ∈ target :: entered, p ∈ lib.paths := List.forall_mem_cons.2 ⟨enters, loaded⟩
    have inside : ∀ p ∈ inner.entered, p ∈ lib.paths :=
      forall_entered_inlineFrom lib (· ∈ lib.paths) (fun _ _ _ included => included.target_mem)
        (target :: entered) file.placed loaded' fun _ _ _ _ listed => listed
    obtain ⟨first, ends, yields⟩ := into loaded'
    obtain ⟨second, ends', yields'⟩ := beyond inside
    refine ⟨second ++ (first ++ [target]), ?_, ?_⟩
    · rw [ends', ends]
      simp
    · rw [List.filter_cons_of_neg (by simpa using goes)]
      refine (yields.append yields').trans ?_
      rw [← keptAt_of_find? found, List.perm_iff_count]
      intro x
      simp only [List.count_append, List.flatMap_append, List.flatMap_singleton]
      omega

/-- From a file, the recursion enters the files that are reached from it along includes. -/
theorem mem_entered_iff_reaches {lib : Library} {path : Path} {file : SourceFile}
    (found : lib.find? path = some file) (p : Path) :
    p ∈ (lib.inlineFrom [path] file.placed).entered ↔ lib.Reaches path p := by
  constructor
  · refine forall_entered_inlineFrom lib (lib.Reaches path) (fun _ _ => ReflTransGen.tail) [path]
      file.placed (by simp [ReflTransGen.refl]) ?_ p
    intro l listed target aims loaded
    exact .single (includes_of_mem_placed found listed aims loaded)
  · intro reached
    induction reached with
    | refl => exact (lib.inlineFrom [path] file.placed).kept List.mem_cons_self
    | @tail q r _ included ih =>
      by_cases same : q = path
      · subst same
        obtain ⟨l, listed, aims⟩ := exists_placed_of_includes found included
        exact mem_entered_of_target lib [q] file.placed l listed r aims included.target_mem
      · exact mem_entered_of_includes lib [path] file.placed q ih (by simpa using same) r included

/-- A line that the file at a path keeps is from that file, and stands there at its index. -/
theorem mem_keptAt_iff {lib : Library} {path : Path} {l : PlacedLine} :
    l ∈ lib.keptAt path ↔ path = l.file ∧
      ∃ file, lib.find? l.file = some file ∧ file.lines[l.index]? = some l.line ∧ lib.IsKept l.line := by
  constructor
  · intro kept
    obtain ⟨file, found, kept⟩ := List.mem_flatMap.1 kept
    obtain ⟨here, stays⟩ := List.mem_filter.1 kept
    obtain ⟨from_file, at_index⟩ := SourceFile.mem_placed_iff.1 here
    have found := Option.mem_toList.1 found
    have lies : path = l.file := (mem_of_find?_eq_some found).2.symm.trans from_file.symm
    exact ⟨lies, file, lies ▸ found, at_index, by simpa using stays⟩
  · rintro ⟨rfl, file, found, at_index, stays⟩
    have lies := (mem_of_find?_eq_some found).2.symm
    rw [keptAt_of_find? found]
    exact List.mem_filter.2 ⟨SourceFile.mem_placed_iff.2 ⟨lies, at_index⟩, by simpa using stays⟩

/-- The places of the lines that the file at a path keeps. -/
theorem mem_places_keptAt_iff {lib : Library} {path f : Path} {i : Nat} :
    (f, i) ∈ (lib.keptAt path).map PlacedLine.place ↔ path = f ∧
      ∃ file line, lib.find? f = some file ∧ file.lines[i]? = some line ∧ lib.IsKept line := by
  constructor
  · intro listed
    obtain ⟨l, kept, same⟩ := List.mem_map.1 listed
    obtain ⟨here, file, found, at_index, stays⟩ := mem_keptAt_iff.1 kept
    obtain ⟨rfl, rfl⟩ := Prod.mk.inj same
    exact ⟨here, file, l.line, found, at_index, stays⟩
  · rintro ⟨here, file, line, found, at_index, stays⟩
    exact List.mem_map.2 ⟨⟨f, i, line⟩, mem_keptAt_iff.2 ⟨here, file, found, at_index, stays⟩, rfl⟩

/-- A file keeps no line twice. -/
theorem nodup_places_keptAt (lib : Library) (path : Path) :
    ((lib.keptAt path).map PlacedLine.place).Nodup := by
  cases found : lib.find? path with
  | none => simp [keptAt, found]
  | some file =>
    rw [keptAt_of_find? found]
    refine List.Nodup.sublist (List.Sublist.map _ List.filter_sublist) ?_
    have places : file.placed.map PlacedLine.place =
        (List.range' 0 file.lines.length).map fun index => (file.path, index) := by
      rw [← List.zipIdx_map_snd 0 file.lines, List.map_map, SourceFile.placed, List.map_map]
      rfl
    rw [places]
    exact (List.nodup_range' 1).map fun _ _ same => (Prod.mk.inj same).2

/-- The lines of a flattened file, up to order: of each file entered, what that file keeps. -/
theorem expand_perm {lib : Library} {path : Path} {file : SourceFile} (found : lib.find? path = some file) :
    (lib.expand file).Perm ((lib.inlineFrom [path] file.placed).entered.flatMap lib.keptAt) := by
  have loaded : ∀ p ∈ [path], p ∈ lib.paths := by
    simpa using mem_paths_of_find?_eq_some found
  obtain ⟨fresh, ends, yields⟩ := inlineFrom_perm lib [path] file.placed loaded
  have read : lib.expand file = (lib.inlineFrom [path] file.placed).lines := by
    rw [expand_eq_inlineFrom, (mem_of_find?_eq_some found).2]
  rw [read, ends, List.flatMap_append, List.flatMap_singleton, keptAt_of_find? found]
  exact yields.trans List.perm_append_comm

/-- A flattened file has the lines that are kept in the files reached from it. -/
theorem mem_expand_iff {lib : Library} {path : Path} {file : SourceFile}
    (found : lib.find? path = some file) {l : PlacedLine} :
    l ∈ lib.expand file ↔ lib.Reaches path l.file ∧ l ∈ lib.keptAt l.file := by
  rw [(expand_perm found).mem_iff, List.mem_flatMap]
  constructor
  · rintro ⟨p, enters, kept⟩
    obtain rfl : p = l.file := (mem_keptAt_iff.1 kept).1
    exact ⟨(mem_entered_iff_reaches found _).1 enters, kept⟩
  · rintro ⟨reached, kept⟩
    exact ⟨l.file, (mem_entered_iff_reaches found _).2 reached, kept⟩

/-- A flattened file has a line of some kind if a file reached from it keeps one. -/
theorem exists_mem_expand_iff {lib : Library} {path : Path} {file : SourceFile}
    (found : lib.find? path = some file) (kind : SourceLine → Prop) :
    (∃ l ∈ lib.expand file, kind l.line) ↔ ∃ f other line, lib.Reaches path f ∧ lib.find? f = some other ∧
      line ∈ other.lines ∧ lib.IsKept line ∧ kind line := by
  constructor
  · rintro ⟨l, yielded, holds⟩
    obtain ⟨reached, kept⟩ := (mem_expand_iff found).1 yielded
    obtain ⟨_, other, at_file, at_index, stays⟩ := mem_keptAt_iff.1 kept
    exact ⟨l.file, other, l.line, reached, at_file, List.mem_of_getElem? at_index, stays, holds⟩
  · rintro ⟨f, other, line, reached, at_file, here, stays, holds⟩
    obtain ⟨index, at_index⟩ := List.getElem?_of_mem here
    refine ⟨⟨f, index, line⟩, (mem_expand_iff found).2 ⟨reached, ?_⟩, holds⟩
    exact mem_keptAt_iff.2 ⟨rfl, other, at_file, at_index, stays⟩

/-- The places of a flattened file are those of its lines. -/
theorem places_flatten (lib : Library) (file : SourceFile) :
    (lib.flatten file).places = (lib.expand file).map PlacedLine.place :=
  Stretch.flatMap_places_ofLines (lib.expand file)

/-- The places of a flattened file, up to order: of each file entered, what that file keeps. -/
theorem places_flatten_perm {lib : Library} {path : Path} {file : SourceFile}
    (found : lib.find? path = some file) :
    (lib.flatten file).places.Perm ((lib.inlineFrom [path] file.placed).entered.flatMap
      fun p => (lib.keptAt p).map PlacedLine.place) := by
  rw [places_flatten, ← List.map_flatMap]
  exact (expand_perm found).map PlacedLine.place

/-- No place comes twice in a flattened file. -/
theorem nodup_places_flatten {lib : Library} {path : Path} {file : SourceFile}
    (found : lib.find? path = some file) : (lib.flatten file).places.Nodup := by
  have entered := nodup_entered_inlineFrom lib [path] file.placed (List.nodup_singleton path)
  rw [(places_flatten_perm found).nodup_iff, List.nodup_flatMap]
  refine ⟨fun p _ => nodup_places_keptAt lib p, entered.imp fun differ => ?_⟩
  rintro ⟨f, i⟩ left right
  have same := (mem_places_keptAt_iff.1 left).1.trans (mem_places_keptAt_iff.1 right).1.symm
  exact differ same

/-- Flattening loses nothing and repeats nothing. The places that a flattened file's stretches stand for
are pairwise different, and they are all places of lines that are kept in the files reached from it. -/
theorem flattenAt_covers (lib : Library) (path : Path) (loaded : path ∈ lib.paths) :
    ∃ source, lib.flattenAt path = .ok source ∧ source.places.Nodup ∧
      ∀ f i, (f, i) ∈ source.places ↔ lib.Reaches path f ∧
        ∃ file line, lib.find? f = some file ∧ file.lines[i]? = some line ∧ lib.IsKept line := by
  obtain ⟨file, found⟩ := mem_paths_iff.1 loaded
  refine ⟨lib.flatten file, by rw [flattenAt, found], nodup_places_flatten found, ?_⟩
  intro f i
  rw [(places_flatten_perm found).mem_iff, List.mem_flatMap]
  constructor
  · rintro ⟨p, enters, listed⟩
    obtain ⟨rfl, kept⟩ := mem_places_keptAt_iff.1 listed
    exact ⟨(mem_entered_iff_reaches found p).1 enters, kept⟩
  · rintro ⟨reached, kept⟩
    exact ⟨f, (mem_entered_iff_reaches found f).2 reached, mem_places_keptAt_iff.2 ⟨rfl, kept⟩⟩

/-- A library in which two files include a third that is empty, one of them is included twice, and one
include aims at a path where nothing loaded. -/
def diamond : Library :=
  let place (name : Char) : Path := Path.root.follow [name]
  let aim (text : Char) (name : Char) : SourceLine := ⟨[text], some (place name)⟩
  { files := [
      ⟨place 'a', [aim '0' 'b', ⟨['1'], none⟩, aim '2' 'c', aim '3' 'x']⟩,
      ⟨place 'b', [aim '4' 'd', ⟨['5'], none⟩]⟩,
      ⟨place 'c', [aim '6' 'd', aim '7' 'b']⟩,
      ⟨place 'd', []⟩]
    failures := [(place 'x', "no such file")] }

/-- In this library nothing is lost and nothing repeated, although two files are reached in two ways. -/
theorem flattenAt_covers_diamond :
    Path.root.follow ['a'] ∈ diamond.paths ∧
      ∃ source, diamond.flattenAt (Path.root.follow ['a']) = .ok source ∧ source.places.Nodup ∧
        ∀ f i, (f, i) ∈ source.places ↔ diamond.Reaches (Path.root.follow ['a']) f ∧
          ∃ file line, diamond.find? f = some file ∧ file.lines[i]? = some line ∧ diamond.IsKept line :=
  have loaded : Path.root.follow ['a'] ∈ diamond.paths := by decide +kernel
  ⟨loaded, flattenAt_covers diamond (Path.root.follow ['a']) loaded⟩

example : (diamond.flattenAt (Path.root.follow ['a'])).map FlatSource.places =
    .ok [(Path.root.follow ['b'], 1), (Path.root.follow ['a'], 1), (Path.root.follow ['a'], 3)] := by
  cbv

end Library

end ShaderBundle
