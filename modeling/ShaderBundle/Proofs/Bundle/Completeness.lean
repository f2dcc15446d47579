import ShaderBundle.Proofs.Bundle.Requests
import ShaderBundle.Proofs.Catalog.Agreement
/-!
# Nothing on the disk is missed

What loading starts with and what a catalog looks for are found in two ways: the one by listing folders, the
other by putting names of folders and of programs together. They cover each other. A stage file in a folder
where a catalog looks is one of the starts, so a path that a catalog looks at and that the crawl did not ask
for has nothing to load, and starting with more files would change no catalog.
-/

namespace ShaderBundle

namespace Disk

variable {d : Disk} {starts : List Path} {folder : Path} {name : Segment} {bytes : ByteArray}

/-- Inside a folder there is a file to load if its bytes are UTF-8. -/
theorem exists_load_of_file_iff (lies : d.entryAt (folder.child name) = .ok (.file bytes)) :
    (∃ file, d.reader.load (folder.child name) = .ok file) ↔ bytes.IsValidUTF8 := by
  rw [Reader.exists_load_eq_ok_iff, exists_read_of_file_iff lies]
  exact and_iff_right (folder.child_ne_root name)

/-- A stage file in a folder of the right kind is one of the starts. -/
theorem mem_seeds_of_file (found : d.seeds = .ok starts) (near : IsProgramFolder folder)
    (stage : (Stage.ofFileName? name.text).isSome = true)
    (lies : d.entryAt (folder.child name) = .ok (.file bytes)) : folder.child name ∈ starts := by
  have file : d.isFile (folder.child name) = true := isFile_eq_true_iff.2 ⟨bytes, lies⟩
  exact (mem_seeds_iff found).2 ⟨isStageFile_child_iff.2 ⟨stage, file⟩, folder, name, near, rfl⟩

/-- The crawl from the starts asked for every stage file that such a folder can have, unless there is none
to load. -/
theorem coversStages_asked (found : d.seeds = .ok starts) (near : IsProgramFolder folder) :
    Library.CoversStages {p | p ∈ d.reader.asked starts ∨ ¬ ∃ file, d.reader.load p = .ok file} folder := by
  intro name stage
  by_cases loads : ∃ file, d.reader.load (folder.child name) = .ok file
  · obtain ⟨ls, read⟩ := (Reader.exists_load_eq_ok_iff.1 loads).2
    obtain ⟨bytes, lies⟩ := isFile_eq_true_iff.1 (isFile_of_read read)
    have start := mem_seeds_of_file found near stage lies
    exact Or.inl ((d.reader.isLeast_asked starts).1.starts_mem _ start)
  · exact Or.inr loads

end Disk

namespace Bundle

variable {b : Bundle} {d : Disk}

/-- On a disk that does not change, every moment has that disk. -/
theorem firstAsked?_eq_of_same {requests : List Request} {dimension : Text} {d' : Disk}
    (asked : b.firstAsked? (requests.map fun request => (d, request)) dimension = some d') : d' = d := by
  obtain ⟨entry, found, rfl⟩ := Option.map_eq_some_iff.1 asked
  obtain ⟨request, _, rfl⟩ := List.mem_map.1 (List.mem_of_find?_eq_some found)
  rfl

/-- On a disk that does not change, the catalog of a dimension is always the one that is made anew, if none
was kept at first. -/
theorem value_perform_catalog (nothing : b.catalogs = []) (requests : List Request) (dimension : Text) :
    ((b.after (requests.map fun request => (d, request))).perform d (.catalog dimension)).value.1 =
      .catalog (b.makeCatalog d dimension).value := by
  have past := lookup_after_of_nil nothing (requests.map fun request => (d, request)) dimension
  cases asked : b.firstAsked? (requests.map fun request => (d, request)) dimension with
  | some d' =>
    rw [asked, firstAsked?_eq_of_same asked, Option.map_some] at past
    rw [perform_of_kept rfl past, Journaled.value_pure]
  | none =>
    rw [asked, Option.map_none] at past
    rw [answer_perform_of_new rfl past, makeCatalog_after]

/-- What a bundle has of the stage files on a disk. -/
structure IsComplete (b : Bundle) (d : Disk) : Prop where
  /-- A stage file in a folder where a catalog looks is a file of the library if its bytes are UTF-8, and a
  failure otherwise. -/
  holds : ∀ dimension folder name bytes, folder ∈ b.searchFolders d dimension →
    (Stage.ofFileName? name.text).isSome = true → d.entryAt (folder.child name) = .ok (.file bytes) →
    (folder.child name ∈ b.library.paths ↔ bytes.IsValidUTF8) ∧
      (folder.child name ∈ b.library.failures.map Prod.fst ↔ ¬ bytes.IsValidUTF8)
  /-- While the disk stays as it is, and whatever was asked for before, the catalog of a dimension is the one
  that is looked up in any library that was built from the same starts and more. -/
  enough : ∀ starts others lib, d.seeds = .ok starts → (∀ p ∈ starts, p ∈ others) →
    Library.build d.reader others = .ok lib → ∀ (requests : List Request) (dimension : Text),
    ((b.after (requests.map fun request => (d, request))).perform d (.catalog dimension)).value.1 =
      .catalog (Catalog.load dimension lib (b.searchFolders d dimension) b.options.markers).value

/-- A bundle that was loaded misses none of the stage files on the disk that a catalog looks for. -/
theorem isComplete_of_load (d : Disk) (options : Options) (b : Bundle)
    (loaded : (load d options).value = .ok b) : b.IsComplete d := by
  obtain ⟨starts, found, built, _, nothing⟩ := load_eq_ok_iff.1 loaded
  have library : b.library = .ofReadings (d.reader.crawl starts) := Library.eq_of_build_eq_ok built
  constructor
  case holds =>
    intro dimension folder name bytes listed stage lies
    have near := isProgramFolder_of_mem_searchFolders listed
    have start := Disk.mem_seeds_of_file found near stage lies
    have asked : folder.child name ∈ d.reader.asked starts :=
      (d.reader.isLeast_asked starts).1.starts_mem _ start
    rw [library, Library.mem_paths_crawl_iff asked, Library.mem_failed_crawl_iff asked,
      Disk.exists_load_of_file_iff lies]
    exact ⟨Iff.rfl, Iff.rfl⟩
  case enough =>
    intro starts' others lib found' more built' requests dimension
    have same : starts' = starts := Except.ok.inj (found'.symm.trans found)
    have library' : lib = .ofReadings (d.reader.crawl others) := Library.eq_of_build_eq_ok built'
    rw [same] at more
    have agree := Library.agreesOn_crawl_of_subset more (r := d.reader)
    have covers : ∀ folder ∈ b.searchFolders d dimension, Library.CoversStages _ folder :=
      fun folder listed => Disk.coversStages_asked found (isProgramFolder_of_mem_searchFolders listed)
    have catalogs := agree.load_eq covers dimension b.options.markers
    rw [value_perform_catalog nothing requests dimension, value_makeCatalog, library', ← catalogs, ← library]

/-- In the inner folder the file of one stage is a failure and that of another is a file, and a catalog is
the same with a file from outside the folder for shaders among the starts. -/
theorem isComplete_twofold :
    let inner : Path := Disk.shaders.follow "world0".toList
    let geometry : Segment := ⟨"final.gs.hlsl".toList, by decide⟩
    let vertex : Segment := ⟨"final.vs.hlsl".toList, by decide⟩
    let starts : List Path := Path.root.follow "common".toList :: Disk.stagesOfTwofold
    let lib : Library := .ofReadings (Disk.twofold.reader.crawl starts)
    (load .twofold {}).value = .ok twofold ∧ twofold.IsComplete .twofold ∧
      inner ∈ twofold.searchFolders .twofold "world0".toList ∧
      Disk.twofold.entryAt (inner.child geometry) = .ok (.file ⟨#[0xff]⟩) ∧
      inner.child geometry ∈ twofold.library.failures.map Prod.fst ∧
      Disk.twofold.entryAt (inner.child vertex) = .ok (.file ⟨#[0x31, 0x0a]⟩) ∧
      inner.child vertex ∈ twofold.library.paths ∧
      Library.build Disk.twofold.reader starts = .ok lib ∧
      ((twofold.after ([.isValid].map fun request => (.twofold, request))).perform .twofold
          (.catalog "world0".toList)).value.1 =
        .catalog (Catalog.load "world0".toList lib [inner, Disk.shaders] twofold.options.markers).value := by
  intro inner geometry vertex starts lib
  have complete := isComplete_of_load .twofold {} twofold load_twofold
  have folders : twofold.searchFolders .twofold "world0".toList = [inner, Disk.shaders] := rfl
  have listed : inner ∈ twofold.searchFolders .twofold "world0".toList := by
    rw [folders]
    exact List.mem_cons_self
  have at_geometry : Disk.twofold.entryAt ((Disk.shaders.follow "world0".toList).child
    ⟨"final.gs.hlsl".toList, by decide⟩) = .ok (.file ⟨#[0xff]⟩) := rfl
  have at_vertex : Disk.twofold.entryAt ((Disk.shaders.follow "world0".toList).child
    ⟨"final.vs.hlsl".toList, by decide⟩) = .ok (.file ⟨#[0x31, 0x0a]⟩) := rfl
  have fails := (complete.holds _ inner geometry _ listed (by decide) at_geometry).2.2 (by decide)
  have loads := (complete.holds _ inner vertex _ listed (by decide) at_vertex).1.2 (by decide)
  have straight : (Library.ofReadings (Disk.twofold.reader.crawl
    (Path.root.follow "common".toList :: Disk.stagesOfTwofold))).cycle? = none := by cbv
  have built : Library.build Disk.twofold.reader starts = .ok lib := Library.build_eq_ok_iff.2 ⟨rfl, straight⟩
  have enough := complete.enough _ starts lib Disk.seeds_twofold
    (fun p listed => List.mem_cons_of_mem _ listed) built [.isValid] "world0".toList
  rw [folders] at enough
  exact ⟨load_twofold, complete, listed, at_geometry, fails, at_vertex, loads, built, enough⟩

end Bundle

end ShaderBundle
