import ShaderBundle.Proofs.Flat.Coverage
import ShaderBundle.Proofs.Library.Cycle
/-!
# Included lines come first

Where no file includes itself along any way, whatever an include line stands for comes before the lines
after it, also when the include disappears because its file was entered before. A file is settled when
everything that is reached from it has left its lines. At each moment of the recursion a file that was
entered either waits, in which case it leads to the file that the recursion is in, or is settled. An
include can only lead to the second kind, for otherwise the files would include each other in a circle.
-/

namespace ShaderBundle

open Relation (ReflTransGen TransGen)

/-- The lines of a file have ascending indices. -/
theorem SourceFile.pairwise_placed (file : SourceFile) :
    file.placed.Pairwise fun l l' => l.index < l'.index := by
  have indices : file.placed.map PlacedLine.index = List.range' 0 file.lines.length := by
    rw [← List.zipIdx_map_snd 0 file.lines, placed, List.map_map]
    rfl
  have ascending : (file.placed.map PlacedLine.index).Pairwise (· < ·) := by
    rw [indices]
    exact List.pairwise_lt_range'
  exact List.pairwise_map.1 ascending

namespace Library

variable {lib : Library} {entered : List Path} {done : List PlacedLine} {path target : Path}
variable {file : SourceFile}

/-- Everything that is reached from the path has left its lines among those that are done. -/
def IsSettled (lib : Library) (done : List PlacedLine) (path : Path) : Prop :=
  ∀ p, lib.Reaches path p → lib.keptAt p ⊆ done

/-- More lines unsettle nothing. -/
theorem IsSettled.append (settled : lib.IsSettled done path) (more : List PlacedLine) :
    lib.IsSettled (done ++ more) path :=
  fun p reached => List.Subset.trans (settled p reached) (List.subset_append_left done more)

/-- A file is settled once it has left its lines and what it includes is settled. -/
theorem isSettled_of_includes (own : lib.keptAt path ⊆ done)
    (onward : ∀ q, lib.Includes path q → lib.IsSettled done q) : lib.IsSettled done path := by
  intro p reached
  rcases reached.cases_head with rfl | ⟨q, included, further⟩
  · exact own
  · exact onward q included p further

/-- The recursion is in the file at `path`: the files in `entered` have been entered and the lines in
`done` have been yielded. -/
structure IsAt (lib : Library) (entered : List Path) (done : List PlacedLine) (path : Path) : Prop where
  /-- The files entered are files of the library. -/
  loaded : ∀ p ∈ entered, p ∈ lib.paths
  /-- A file that was entered waits for the one that the recursion is in, or is settled. -/
  waits_or_settled : ∀ p ∈ entered, lib.Reaches p path ∨ lib.IsSettled done p

/-- An include leads to no file that waits. -/
theorem IsAt.isSettled_of_mem (here : lib.IsAt entered done path)
    (straight : ∀ p, ¬ TransGen lib.Includes p p) (included : lib.Includes path target)
    (old : target ∈ entered) : lib.IsSettled done target := by
  rcases here.waits_or_settled target old with waits | settled
  · exact absurd (TransGen.tail' waits included) (straight target)
  · exact settled

/-- The recursion goes into a file that the one it is in includes. -/
theorem IsAt.enter (here : lib.IsAt entered done path) (included : lib.Includes path target) :
    lib.IsAt (target :: entered) done target where
  loaded := List.forall_mem_cons.2 ⟨included.target_mem, here.loaded⟩
  waits_or_settled := by
    refine List.forall_mem_cons.2 ⟨Or.inl .refl, fun p old => ?_⟩
    rcases here.waits_or_settled p old with waits | settled
    · exact Or.inl (waits.tail included)
    · exact Or.inr settled

/-- A file is settled at its end, if whatever was entered inside it is. -/
theorem IsAt.isSettled_of_inlined (here : lib.IsAt (target :: entered) done target)
    (straight : ∀ p, ¬ TransGen lib.Includes p p) (found : lib.find? target = some file)
    (inside : ∀ p ∈ (lib.inlineFrom (target :: entered) file.placed).entered, p ∈ target :: entered ∨
      lib.IsSettled (done ++ (lib.inlineFrom (target :: entered) file.placed).lines) p) :
    lib.IsSettled (done ++ (lib.inlineFrom (target :: entered) file.placed).lines) target := by
  apply isSettled_of_includes
  · obtain ⟨fresh, _, yields⟩ := inlineFrom_perm lib (target :: entered) file.placed here.loaded
    rw [keptAt_of_find? found]
    intro l kept
    exact List.mem_append_right _ (yields.mem_iff.2 (List.mem_append_left _ kept))
  · intro q included
    obtain ⟨l, listed, aims⟩ := exists_placed_of_includes found included
    have enters := mem_entered_of_target lib (target :: entered) _ l listed q aims included.target_mem
    rcases inside q enters with old | settled
    · exact (here.isSettled_of_mem straight included old).append _
    · exact settled

/-- Another line leaves the recursion where it is. -/
theorem IsAt.append (here : lib.IsAt entered done path) (more : List PlacedLine) :
    lib.IsAt entered (done ++ more) path where
  loaded := here.loaded
  waits_or_settled := by
    intro p listed
    rcases here.waits_or_settled p listed with waits | settled
    · exact Or.inl waits
    · exact Or.inr (settled.append more)

/-- At the end of a file that is included, whatever was not entered before is settled. -/
theorem IsAt.old_or_settled (here : lib.IsAt entered done path)
    (straight : ∀ p, ¬ TransGen lib.Includes p p) (included : lib.Includes path target)
    (found : lib.find? target = some file)
    (inside : ∀ p ∈ (lib.inlineFrom (target :: entered) file.placed).entered, p ∈ target :: entered ∨
      lib.IsSettled (done ++ (lib.inlineFrom (target :: entered) file.placed).lines) p) :
    ∀ p ∈ (lib.inlineFrom (target :: entered) file.placed).entered, p ∈ entered ∨
      lib.IsSettled (done ++ (lib.inlineFrom (target :: entered) file.placed).lines) p := by
  intro p listed
  rcases inside p listed with before | settled
  · rcases List.mem_cons.1 before with rfl | old
    · exact Or.inr ((here.enter included).isSettled_of_inlined straight found inside)
    · exact Or.inl old
  · exact Or.inr settled

/-- The recursion comes back from a file that is settled by then. -/
theorem IsAt.leave (here : lib.IsAt entered done path) (straight : ∀ p, ¬ TransGen lib.Includes p p)
    (included : lib.Includes path target) (found : lib.find? target = some file)
    (inside : ∀ p ∈ (lib.inlineFrom (target :: entered) file.placed).entered, p ∈ target :: entered ∨
      lib.IsSettled (done ++ (lib.inlineFrom (target :: entered) file.placed).lines) p) :
    lib.IsAt (lib.inlineFrom (target :: entered) file.placed).entered
      (done ++ (lib.inlineFrom (target :: entered) file.placed).lines) path where
  loaded := forall_entered_inlineFrom lib (· ∈ lib.paths) (fun _ _ _ includes => includes.target_mem)
    (target :: entered) file.placed (here.enter included).loaded fun _ _ _ _ listed => listed
  waits_or_settled := by
    intro p listed
    rcases here.old_or_settled straight included found inside p listed with old | settled
    · exact (here.append _).waits_or_settled p old
    · exact Or.inr settled

/-- The files that some lines of a file enter are settled by the end of these lines. -/
theorem isSettled_of_mem_inlineFrom (straight : ∀ p, ¬ TransGen lib.Includes p p) (entered : List Path)
    (ls : List PlacedLine) (done : List PlacedLine) (path : Path) (file : SourceFile)
    (found : lib.find? path = some file) (part : ls ⊆ file.placed) (here : lib.IsAt entered done path) :
    ∀ p ∈ (lib.inlineFrom entered ls).entered, p ∈ entered ∨
      lib.IsSettled (done ++ (lib.inlineFrom entered ls).lines) p := by
  fun_induction inlineFrom lib entered ls generalizing done path file with
  | case1 entered => exact fun p listed => Or.inl listed
  | case2 entered l rest plain out ih =>
    have onward := ih (done ++ [l]) path file found (List.subset_of_cons_subset part) (here.append [l])
    rwa [List.append_assoc] at onward
  | case3 entered l rest target aims old ih =>
    exact ih done path file found (List.subset_of_cons_subset part) here
  | case4 entered l rest target aims fresh absent out ih =>
    have onward := ih (done ++ [l]) path file found (List.subset_of_cons_subset part) (here.append [l])
    rwa [List.append_assoc] at onward
  | case5 entered l rest target aims fresh child loaded inner outer into beyond =>
    have listed : l ∈ file.placed := part List.mem_cons_self
    have included : lib.Includes path target :=
      includes_of_mem_placed found listed aims (mem_paths_of_find?_eq_some loaded)
    have inside := into done target child loaded (List.Subset.refl _) (here.enter included)
    have back := here.leave straight included loaded inside
    have after := beyond _ path file found (List.subset_of_cons_subset part) back
    rw [List.append_assoc] at after
    intro p enters
    rcases after p enters with before | settled
    · rcases here.old_or_settled straight included loaded inside p before with old | settled
      · exact Or.inl old
      · rw [← List.append_assoc]
        exact Or.inr (settled.append _)
    · exact Or.inr settled

/-- The file of the library that the line includes, if it does include one, is settled. -/
def HasSettled (lib : Library) (done : List PlacedLine) (l : PlacedLine) : Prop :=
  ∀ target, l.line.target? = some target → target ∈ lib.paths → lib.IsSettled done target

/-- Whatever the earlier lines of the same file include is settled. -/
def IsDue (lib : Library) (done : List PlacedLine) (l : PlacedLine) : Prop :=
  ∀ file, lib.find? l.file = some file → ∀ l' ∈ file.placed, l'.index < l.index → lib.HasSettled done l'

/-- After the lines that are done, each of the lines comes when it is due. -/
def InOrder (lib : Library) (done : List PlacedLine) : List PlacedLine → Prop
  | [] => True
  | l :: rest => lib.IsDue done l ∧ lib.InOrder (done ++ [l]) rest

/-- Lines in order may be followed by lines that are in order after them. -/
theorem inOrder_append {first second : List PlacedLine} :
    lib.InOrder done (first ++ second) ↔ lib.InOrder done first ∧ lib.InOrder (done ++ first) second := by
  induction first generalizing done with
  | nil => simp [InOrder]
  | cons l first ih => simp [InOrder, ih, and_assoc]

/-- A line that includes no file of the library has nothing to settle. -/
theorem hasSettled_of_isKept {l : PlacedLine} (stays : lib.IsKept l.line) : lib.HasSettled done l :=
  fun target aims loaded => absurd loaded (stays target aims)

/-- A line that includes a settled file has settled what it includes. -/
theorem hasSettled_of_aims {l : PlacedLine} (aims : l.line.target? = some target)
    (settled : lib.IsSettled done target) : lib.HasSettled done l := by
  intro other aims' _
  obtain rfl : target = other := Option.some.inj (aims.symm.trans aims')
  exact settled

/-- More lines are passed when the next one is, and nothing is unsettled meanwhile. -/
theorem forall_hasSettled_concat {passed : List PlacedLine} {l : PlacedLine} (more : List PlacedLine)
    (early : ∀ l' ∈ passed, lib.HasSettled done l') (last : lib.HasSettled (done ++ more) l) :
    ∀ l' ∈ passed ++ [l], lib.HasSettled (done ++ more) l' := by
  intro l' listed
  rcases List.mem_append.1 listed with before | here
  · exact fun target aims loaded => (early l' before target aims loaded).append more
  · rw [List.mem_singleton.1 here]
    exact last

/-- The next line of a file is due once the lines passed have settled what they include. -/
theorem isDue_of_passed (found : lib.find? path = some file) {passed rest : List PlacedLine}
    {l : PlacedLine} (split : file.placed = passed ++ l :: rest)
    (early : ∀ l' ∈ passed, lib.HasSettled done l') : lib.IsDue done l := by
  intro other at_path l' listed lower
  have here : l ∈ file.placed := by simp [split]
  have from_file : l.file = path :=
    (SourceFile.mem_placed_iff.1 here).1.trans (mem_of_find?_eq_some found).2
  obtain rfl : file = other := Option.some.inj (found.symm.trans (from_file ▸ at_path))
  have ascending := file.pairwise_placed
  rw [split] at listed ascending
  rcases List.mem_append.1 listed with before | behind
  · exact early l' before
  · -- the lines from this one on have no smaller index
    rcases List.mem_cons.1 behind with rfl | later
    · omega
    · have higher := (List.pairwise_cons.1 (List.pairwise_append.1 ascending).2.1).1 l' later
      omega

/-- The lines of a file are yielded in order, once the lines passed have settled what they include. -/
theorem inOrder_inlineFrom (straight : ∀ p, ¬ TransGen lib.Includes p p) (entered : List Path)
    (ls : List PlacedLine) (done : List PlacedLine) (path : Path) (file : SourceFile)
    (found : lib.find? path = some file) (passed : List PlacedLine) (split : file.placed = passed ++ ls)
    (early : ∀ l ∈ passed, lib.HasSettled done l) (here : lib.IsAt entered done path) :
    lib.InOrder done (lib.inlineFrom entered ls).lines := by
  fun_induction inlineFrom lib entered ls generalizing done path file passed with
  | case1 entered => trivial
  | case2 entered l rest plain out ih =>
    have due := isDue_of_passed found split early
    have after := forall_hasSettled_concat [l] early (hasSettled_of_isKept (isKept_of_plain plain))
    exact ⟨due, ih _ path file found (passed ++ [l]) (by simp [split]) after (here.append [l])⟩
  | case3 entered l rest target aims old ih =>
    have included : lib.Includes path target :=
      includes_of_mem_placed found (by simp [split]) aims (here.loaded target old)
    -- the include disappears; its file cannot be one that waits, so nothing of it is still to come
    have settled := here.isSettled_of_mem straight included old
    have after := forall_hasSettled_concat [] early
      (hasSettled_of_aims aims (by simpa using settled))
    rw [List.append_nil] at after
    exact ih done path file found (passed ++ [l]) (by simp [split]) after here
  | case4 entered l rest target aims fresh absent out ih =>
    have due := isDue_of_passed found split early
    have stays : lib.IsKept l.line := (isKept_iff_of_aims aims).2 (find?_eq_none_iff.1 absent)
    have after := forall_hasSettled_concat [l] early (hasSettled_of_isKept stays)
    exact ⟨due, ih _ path file found (passed ++ [l]) (by simp [split]) after (here.append [l])⟩
  | case5 entered l rest target aims fresh child loaded inner outer into beyond =>
    have included : lib.Includes path target :=
      includes_of_mem_placed found (by simp [split]) aims (mem_paths_of_find?_eq_some loaded)
    have below := here.enter included
    have inside := isSettled_of_mem_inlineFrom straight _ _ done target child loaded
      (List.Subset.refl _) below
    have settled := below.isSettled_of_inlined straight loaded inside
    have first := into done target child loaded [] rfl (by simp) below
    have after := forall_hasSettled_concat _ early (hasSettled_of_aims aims settled)
    have second := beyond _ path file found (passed ++ [l]) (by simp [split]) after
      (here.leave straight included loaded inside)
    exact inOrder_append.2 ⟨first, second⟩

/-- The lines of a flattened file are in order, if no file includes itself along any way. -/
theorem inOrder_expand (straight : ∀ p, ¬ TransGen lib.Includes p p)
    (found : lib.find? path = some file) : lib.InOrder [] (lib.expand file) := by
  have start : lib.IsAt [path] [] path := by
    constructor
    · simpa using mem_paths_of_find?_eq_some found
    · simpa using Or.inl ReflTransGen.refl
  rw [expand_eq_inlineFrom, (mem_of_find?_eq_some found).2]
  exact inOrder_inlineFrom straight [path] file.placed [] path file found [] rfl (by simp) start

/-- Each of some lines in order is due after the lines before it. -/
theorem isDue_of_getElem? {ls : List PlacedLine} {l : PlacedLine} {n : Nat} (ordered : lib.InOrder done ls)
    (at_n : ls[n]? = some l) : lib.IsDue (done ++ ls.take n) l := by
  induction ls generalizing done n with
  | nil => simp at at_n
  | cons first ls ih =>
    obtain ⟨due, behind⟩ := ordered
    cases n with
    | zero =>
      obtain rfl : first = l := by simpa using at_n
      simpa using due
    | succ n =>
      have later := ih behind (by simpa using at_n)
      simpa using later

/-- What stands among the first of some elements that are pairwise different stands nowhere else. -/
theorem lt_of_mem_take {places : List (Path × Nat)} (distinct : places.Nodup) {place : Path × Nat}
    {m n : Nat} (at_m : places[m]? = some place) (early : place ∈ places.take n) : m < n := by
  obtain ⟨m', before, at_m'⟩ := List.mem_take_iff_getElem.1 early
  have bound : m < places.length := (List.getElem?_eq_some_iff.1 at_m).1
  have again : m = m' := by
    apply (List.getElem?_inj bound distinct).1
    rw [at_m, List.getElem?_eq_getElem (by omega), at_m']
  omega

/-- In a library that was built, whatever an include line stands for comes before the lines after it. For
each line that includes a file of the library, the lines that flattening has of that file, and of every
file reached from it, come before those of the including file that have a greater index. -/
theorem build_flattenAt_includes_first (s : Supplier) (starts : List Path) (lib : Library)
    (built : build s starts = .ok lib) (root : Path) (loaded : root ∈ lib.paths) :
    ∃ source, lib.flattenAt root = .ok source ∧
      ∀ (f g h : Path) (file : SourceFile) (line : SourceLine) (i j k : Nat),
        lib.find? f = some file → file.lines[i]? = some line → line.target? = some g → g ∈ lib.paths →
        lib.Reaches g h → i < k → ∀ m n : Nat,
          source.places[m]? = some (h, j) → source.places[n]? = some (f, k) → m < n := by
  obtain ⟨file, found⟩ := mem_paths_iff.1 loaded
  refine ⟨lib.flatten file, by rw [flattenAt, found], ?_⟩
  intro f g h including line i j k at_f at_i aims inside reached later m n at_m at_n
  refine lt_of_mem_take (nodup_places_flatten found) at_m ?_
  rw [places_flatten] at at_m at_n ⊢
  rw [List.getElem?_map] at at_n
  obtain ⟨l, here, same⟩ := Option.map_eq_some_iff.1 at_n
  obtain ⟨rfl, rfl⟩ := Prod.mk.inj same
  have due := isDue_of_getElem? (inOrder_expand (not_transGen_of_build built) found) here
  have settled : lib.IsSettled ((lib.expand file).take n) g := by
    have lies := (mem_of_find?_eq_some at_f).2.symm
    have listed : ⟨l.file, i, line⟩ ∈ including.placed := SourceFile.mem_placed_iff.2 ⟨lies, at_i⟩
    exact due including at_f _ listed later g aims inside
  obtain ⟨l', listed, same⟩ := List.mem_map.1 (List.mem_of_getElem? at_m)
  obtain ⟨rfl, rfl⟩ := Prod.mk.inj same
  rw [← List.map_take]
  exact List.mem_map_of_mem (settled l'.file reached ((mem_expand_iff found).1 listed).2)

/-- A reader of a file that includes two others, of which the first includes the second already. -/
def repeated : Reader :=
  Reader.ofTable
    [(Path.root.follow ['x'], .ok ["#include a".toList, "#include b".toList, "float x;".toList]),
      (Path.root.follow ['a'], .ok ["float a0;".toList, "#include b".toList, "float a1;".toList]),
      (Path.root.follow ['b'], .ok ["float b;".toList])]
    fun _ => "no such file"

/-- The second include of the file is dropped, and what it stands for comes before the line after it all the
same. -/
theorem build_flattenAt_includes_first_repeated :
    let lib := ofReadings (repeated.crawl [Path.root.follow ['x']])
    let x : SourceFile := ⟨Path.root.follow ['x'],
      [⟨"#include a".toList, some (Path.root.follow ['a'])⟩,
        ⟨"#include b".toList, some (Path.root.follow ['b'])⟩, ⟨"float x;".toList, none⟩]⟩
    build repeated [Path.root.follow ['x']] = .ok lib ∧ lib.find? (Path.root.follow ['x']) = some x ∧
      Path.root.follow ['b'] ∈ lib.paths ∧
      (lib.flattenAt (Path.root.follow ['x'])).map FlatSource.places =
        .ok [(Path.root.follow ['a'], 0), (Path.root.follow ['b'], 0), (Path.root.follow ['a'], 2),
          (Path.root.follow ['x'], 2)] ∧
      ∃ source, lib.flattenAt (Path.root.follow ['x']) = .ok source ∧
        ∀ m n : Nat, source.places[m]? = some (Path.root.follow ['b'], 0) →
          source.places[n]? = some (Path.root.follow ['x'], 2) → m < n := by
  intro lib x
  have straight : (ofReadings (repeated.crawl [Path.root.follow ['x']])).cycle? = none := by cbv
  have built : build repeated [Path.root.follow ['x']] = .ok lib := build_eq_ok_iff.2 ⟨rfl, straight⟩
  have at_x : (ofReadings (repeated.crawl [Path.root.follow ['x']])).find? (Path.root.follow ['x']) =
    some x := by cbv
  have listed : (ofReadings (repeated.crawl [Path.root.follow ['x']])).paths =
    [Path.root.follow ['x'], Path.root.follow ['a'], Path.root.follow ['b']] := by cbv
  have at_b : Path.root.follow ['b'] ∈ lib.paths := by
    show _ ∈ (ofReadings (repeated.crawl [Path.root.follow ['x']])).paths
    rw [listed]
    simp
  have places : ((ofReadings (repeated.crawl [Path.root.follow ['x']])).flattenAt
      (Path.root.follow ['x'])).map FlatSource.places =
    .ok [(Path.root.follow ['a'], 0), (Path.root.follow ['b'], 0), (Path.root.follow ['a'], 2),
      (Path.root.follow ['x'], 2)] := by cbv
  refine ⟨built, at_x, at_b, places, ?_⟩
  obtain ⟨source, flat, ordered⟩ := build_flattenAt_includes_first repeated _ lib built _
    (mem_paths_of_find?_eq_some at_x)
  refine ⟨source, flat, ?_⟩
  exact ordered _ _ _ x ⟨"#include b".toList, some (Path.root.follow ['b'])⟩ 1 0 2 at_x rfl rfl at_b .refl
    (by decide)

end Library

end ShaderBundle
