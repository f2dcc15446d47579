import ShaderBundle.Bundle.Basic
import ShaderBundle.Proofs.Catalog.Provision
import ShaderBundle.Proofs.Disk.Inside
/-!
# Loading a bundle

A bundle is loaded from the stage files that lie in the folder for shaders or right inside a folder there.
A catalog is looked up in folders of the same kind only, since the name of such a folder is a single
segment, whatever texts the dimension and the options are.
-/

namespace ShaderBundle

namespace Disk

variable {d : Disk} {starts : List Path}

/-- The folder for shaders, or one right inside it. -/
def IsProgramFolder (folder : Path) : Prop := folder = shaders ∨ ∃ name, folder = shaders.child name

/-- A stage file is a file that has the name of one. -/
theorem isStageFile_child_iff {folder : Path} {name : Segment} :
    d.isStageFile (folder.child name) = true ↔
      (Stage.ofFileName? name.text).isSome = true ∧ d.isFile (folder.child name) = true := by
  rw [isStageFile, Path.name?_child, Bool.and_eq_true]
  rfl

/-- Loading starts with the stage files right inside the folder for shaders and right inside the folders
there. -/
theorem mem_seeds_iff (found : d.seeds = .ok starts) {p : Path} :
    p ∈ starts ↔ d.isStageFile p = true ∧ ∃ folder name, IsProgramFolder folder ∧ p = folder.child name := by
  rw [seeds] at found
  split at found
  case isFalse => contradiction
  obtain rfl := Except.ok.inj found
  rw [List.mem_flatMap]
  constructor
  · rintro ⟨q, listed, stands⟩
    obtain ⟨name, rfl⟩ := exists_child_of_mem_inside listed
    rw [seedsAt] at stands
    split_ifs at stands with folder file
    · obtain ⟨within, stage⟩ := List.mem_filter.1 stands
      obtain ⟨name', rfl⟩ := exists_child_of_mem_inside within
      exact ⟨stage, _, name', Or.inr ⟨name, rfl⟩, rfl⟩
    · rw [List.mem_singleton.1 stands]
      exact ⟨file, shaders, name, Or.inl rfl, rfl⟩
    · exact absurd stands List.not_mem_nil
  · rintro ⟨stage, folder, name, near, rfl⟩
    have file : d.isFile (folder.child name) = true := (isStageFile_child_iff.1 stage).2
    obtain ⟨bytes, lies⟩ := isFile_eq_true_iff.1 file
    have within := mem_inside_of_child lies
    rcases near with rfl | ⟨name', rfl⟩
    · refine ⟨shaders.child name, within, ?_⟩
      rw [seedsAt, isFolder_eq_false_of_isFile file, stage]
      simp
    · obtain ⟨content, above, _⟩ := exists_folder_of_child lies
      have folder : d.isFolder (shaders.child name') = true := isFolder_eq_true_iff.2 ⟨content, above⟩
      refine ⟨shaders.child name', mem_inside_of_child above, ?_⟩
      rw [seedsAt, if_pos folder]
      exact List.mem_filter.2 ⟨within, stage⟩

end Disk

namespace Bundle

variable {d : Disk} {options : Options} {b : Bundle}

/-- A bundle that is loaded has the library that is reached from the stage files, and no catalog yet. -/
theorem load_eq_ok_iff :
    (load d options).value = .ok b ↔ ∃ starts, d.seeds = .ok starts ∧
      Library.build d.reader starts = .ok b.library ∧ b.options = options ∧ b.catalogs = [] := by
  rw [load]
  cases found : d.seeds with
  | error cause => simp
  | ok starts =>
    have crawled : Library.build d.reader starts = (Library.ofReadings (d.reader.crawl starts)).checked := rfl
    cases checked : (Library.ofReadings (d.reader.crawl starts)).checked with
    | error cause => simp [crawled, checked]
    | ok lib =>
      obtain ⟨options', lib', catalogs⟩ := b
      simp only [crawled, checked, Except.ok.injEq, Bundle.mk.injEq, exists_eq_left']
      constructor
      · rintro ⟨rfl, rfl, rfl⟩
        exact ⟨rfl, rfl, rfl⟩
      · rintro ⟨rfl, rfl, rfl⟩
        exact ⟨rfl, rfl, rfl⟩

/-- No line of a bundle that is loaded has a line feed in it. -/
theorem isUnbroken_of_load (loaded : (load d options).value = .ok b) : b.library.IsUnbroken := by
  obtain ⟨_, _, built, _, _⟩ := load_eq_ok_iff.1 loaded
  exact Library.isUnbroken_of_build built fun _ _ _ read => Disk.newline_not_mem_of_read read

/-- A catalog that is made holds what is looked up in the folders of its dimension. -/
theorem value_makeCatalog (b : Bundle) (d : Disk) (dimension : Text) :
    (b.makeCatalog d dimension).value =
      (Catalog.load dimension b.library (b.searchFolders d dimension) b.options.markers).value :=
  Journaled.value_bind _ _

/-- A text names a folder on every system if it can name one here and holds no backslash. -/
theorem isPlainName_iff {t : Text} : isPlainName t = true ↔ IsSegment t ∧ '\\' ∉ t := by
  simp only [isPlainName, IsSegment, Bool.and_eq_true, decide_eq_true_eq, Bool.not_eq_true',
    List.contains_eq_mem, decide_eq_false_iff_not]
  constructor
  · rintro ⟨⟨⟨⟨filled, single⟩, double⟩, noSlash⟩, noBackslash⟩
    exact ⟨⟨filled, single, double, noSlash⟩, noBackslash⟩
  · rintro ⟨⟨filled, single, double, noSlash⟩, noBackslash⟩
    exact ⟨⟨⟨⟨filled, single⟩, double⟩, noSlash⟩, noBackslash⟩

/-- The folder of a name lies right inside the folder for shaders, if it is there and the name holds no
backslash. -/
theorem folderNamed?_eq_some_iff {t : Text} {folder : Path} :
    folderNamed? d t = some folder ↔ ∃ name : Segment, name.text = t ∧ '\\' ∉ t ∧
      folder = Disk.shaders.child name ∧ d.isFolder folder = true := by
  rw [folderNamed?]
  by_cases plain : isPlainName t = true
  · obtain ⟨segment, noBackslash⟩ := isPlainName_iff.1 plain
    rw [if_pos plain, Path.join_of_isSegment Disk.shaders segment]
    show (some (Disk.shaders.child ⟨t, segment⟩)).filter d.isFolder = some folder ↔ _
    rw [Option.filter_eq_some_iff]
    constructor
    · rintro ⟨same, there⟩
      exact ⟨⟨t, segment⟩, rfl, noBackslash, (Option.some.inj same).symm, there⟩
    · rintro ⟨name, rfl, _, rfl, there⟩
      exact ⟨rfl, there⟩
  · rw [if_neg plain]
    constructor
    · intro found
      contradiction
    · rintro ⟨name, rfl, noBackslash, _⟩
      exact absurd (isPlainName_iff.2 ⟨name.isSegment, noBackslash⟩) plain

/-- A folder that is found by its name lies right inside the folder for shaders. -/
theorem isProgramFolder_of_folderNamed? {name : Text} {folder : Path}
    (found : folderNamed? d name = some folder) : Disk.IsProgramFolder folder := by
  obtain ⟨segment, _, _, inside, _⟩ := folderNamed?_eq_some_iff.1 found
  exact Or.inr ⟨segment, inside⟩

/-- A catalog is looked up in the folder for shaders and in folders right inside it. -/
theorem isProgramFolder_of_mem_searchFolders {dimension : Text} {folder : Path}
    (listed : folder ∈ b.searchFolders d dimension) : Disk.IsProgramFolder folder := by
  simp only [searchFolders, List.mem_append, List.mem_filter, List.mem_singleton,
    Option.mem_toList] at listed
  rcases listed with (own | ⟨shared, _⟩) | rfl
  · exact isProgramFolder_of_folderNamed? own
  · exact isProgramFolder_of_folderNamed? shared
  · exact Or.inl rfl

end Bundle

namespace Disk

/-- A disk with one program in the folder for shaders and in a folder there, where the file of a third stage
is not UTF-8, and with a file next to the folder for shaders. -/
def twofold : Disk where
  place := "pack".toList
  top :=
    let files : List (String × ByteArray) :=
      [("shaders/final.vs.hlsl", ⟨#[0x31, 0x0a]⟩), ("shaders/final.ps.hlsl", ⟨#[0x32, 0x0a]⟩),
        ("shaders/world0/final.vs.hlsl", ⟨#[0x31, 0x0a]⟩), ("shaders/world0/final.ps.hlsl", ⟨#[0x32, 0x0a]⟩),
        ("shaders/world0/final.gs.hlsl", ⟨#[0xff]⟩), ("common", ⟨#[0x33]⟩)]
    files.foldl (fun e file => e.write file.2 (Path.root.follow file.1.toList).segments) (.folder [])

/-- The stage files on that disk. -/
def stagesOfTwofold : List Path :=
  [shaders.follow "final.ps.hlsl".toList, shaders.follow "final.vs.hlsl".toList,
    shaders.follow "world0/final.gs.hlsl".toList, shaders.follow "world0/final.ps.hlsl".toList,
    shaders.follow "world0/final.vs.hlsl".toList]

/-- They are what loading starts with. -/
theorem seeds_twofold : twofold.seeds = .ok stagesOfTwofold := by cbv

end Disk

namespace Bundle

/-- The bundle on that disk. -/
def twofold : Bundle := ⟨{}, .ofReadings (Disk.twofold.reader.crawl Disk.stagesOfTwofold), []⟩

/-- The bundle loads, with the folder for a dimension and with a file that is not UTF-8. -/
theorem load_twofold : (load .twofold {}).value = .ok twofold := by
  have straight : (Library.ofReadings (Disk.twofold.reader.crawl Disk.stagesOfTwofold)).cycle? = none := by
    cbv
  have built : Library.build Disk.twofold.reader Disk.stagesOfTwofold = .ok twofold.library :=
    Library.build_eq_ok_iff.2 ⟨rfl, straight⟩
  exact load_eq_ok_iff.2 ⟨_, Disk.seeds_twofold, built, rfl, rfl⟩

end Bundle

end ShaderBundle
