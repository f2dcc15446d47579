import ShaderBundle.Proofs.Bundle.Requests
import ShaderBundle.Proofs.Catalog.Agreement
import ShaderBundle.Proofs.Catalog.Presence
/-!
# Where a catalog is looked up

The folders of a search are named by two texts that may be anything, that of the dimension and that of the
shared folder. A text is taken only if it is a single segment without a backslash, and if the folder of that name
is there. So the search never leaves the folder for shaders and the folders right inside it, and neither does any
shader of any catalog that a bundle ever answers with.
-/

namespace ShaderBundle

namespace Library

/-- Every text of the shader is that of a stage file right inside the folder. -/
structure IsTakenFrom (lib : Library) (markers : Bool) (folder : Path) (shader : Shader) : Prop where
  /-- That of a stage. -/
  stage : ∀ stage text, shader.stage? stage = some text → ∃ file : Segment,
    (Stage.ofFileName? file.text).isSome = true ∧ lib.IsStageText markers (folder.child file) text
  /-- That of a lettered compute pass. -/
  variant : ∀ letter text, (letter, text) ∈ shader.variants → ∃ file : Segment,
    (Stage.ofFileName? file.text).isSome = true ∧ lib.IsStageText markers (folder.child file) text

variable {lib : Library} {markers : Bool} {folder : Path} {name : Text} {shader : Shader}

/-- A program whose name holds no slash is taken from the folder that has it. -/
theorem IsAssembled.isTakenFrom (assembled : lib.IsAssembled markers folder name shader) (plain : '/' ∉ name) :
    lib.IsTakenFrom markers folder shader := by
  have lies (stage : Stage) {name text : Text} (plain : '/' ∉ name)
      (stands : lib.IsStageText markers (folder.follow (stage.fileName name)) text) : ∃ file : Segment,
      (Stage.ofFileName? file.text).isSome = true ∧ lib.IsStageText markers (folder.child file) text := by
    let file : Segment := ⟨stage.fileName name, stage.isSegment_fileName plain⟩
    have inside : folder.follow (stage.fileName name) = folder.child file := folder.follow_text file
    rw [inside] at stands
    exact ⟨file, stage.isSome_ofFileName?_fileName name, stands⟩
  constructor
  case stage =>
    intro stage text present
    exact lies stage plain ((assembled.stage stage text).1 present)
  case variant =>
    intro letter text listed
    obtain ⟨known, stands⟩ := (assembled.variant letter text).1 listed
    exact lies .compute (slash_not_mem_variant plain known) stands

end Library

namespace Bundle

variable {b : Bundle} {d : Disk} {dimension : Text} {folder : Path} {own? shared? : Option Path}

/-- The folders that are searched before the one for shaders: the dimension's own and the shared one, each
once. -/
def namedFolders (own? shared? : Option Path) : List Path :=
  own?.toList ++ shared?.toList.filter (· ∉ own?.toList)

/-- They are the two, as far as these are there. -/
theorem mem_namedFolders_iff :
    folder ∈ namedFolders own? shared? ↔ own? = some folder ∨ shared? = some folder := by
  simp only [namedFolders, List.mem_append, List.mem_filter, Option.mem_toList, decide_eq_true_eq]
  by_cases own : own? = some folder
  · simp [own]
  · simp [own]

/-- There are two at most. -/
theorem length_namedFolders_le (own? shared? : Option Path) : (namedFolders own? shared?).length ≤ 2 := by
  have single (folder? : Option Path) : folder?.toList.length ≤ 1 := by cases folder? <;> simp
  have own := single own?
  have shared : (shared?.toList.filter (· ∉ own?.toList)).length ≤ 1 :=
    (List.length_filter_le _ _).trans (single shared?)
  rw [namedFolders, List.length_append]
  omega

/-- They differ, since the shared folder is left out where it is the dimension's own. -/
theorem nodup_namedFolders (own? shared? : Option Path) : (namedFolders own? shared?).Nodup := by
  have single (folder? : Option Path) : folder?.toList.Nodup := by cases folder? <;> simp
  refine List.nodup_append.2 ⟨single own?, (single shared?).filter _, ?_⟩
  rintro first own other shared rfl
  have left : first ∉ own?.toList := of_decide_eq_true (List.mem_filter.1 shared).2
  exact left own

/-- The dimension's own folder comes first. -/
theorem head?_namedFolders (own : own? = some folder) (shared? : Option Path) :
    (namedFolders own? shared?).head? = some folder := by
  rw [namedFolders, own]
  rfl

/-- The folder for shaders is searched behind them. -/
theorem searchFolders_eq (b : Bundle) (d : Disk) (dimension : Text) :
    b.searchFolders d dimension =
      namedFolders (folderNamed? d dimension) (folderNamed? d b.options.programFolder) ++ [Disk.shaders] := rfl

/-- What the folders are that are searched for a dimension on a disk. -/
structure IsSearchList (options : Options) (d : Disk) (dimension : Text) (folders : List Path) : Prop where
  /-- There are one to three. -/
  length : 1 ≤ folders.length ∧ folders.length ≤ 3
  /-- They differ. -/
  nodup : folders.Nodup
  /-- The last is the folder for shaders. -/
  last : folders.getLast? = some Disk.shaders
  /-- The others are the folders right inside it that are there and have the name of the dimension or of the
  shared folder, as far as no separator stands in that. -/
  others : ∀ folder, folder ∈ folders.dropLast ↔ ∃ name : Segment, folder = Disk.shaders.child name ∧
    (name.text = dimension ∨ name.text = options.programFolder) ∧ '/' ∉ name.text ∧ '\\' ∉ name.text ∧
    d.isFolder folder = true
  /-- The one that has the name of the dimension comes first. -/
  first : ∀ name : Segment, name.text = dimension → Disk.shaders.child name ∈ folders →
    folders.head? = some (Disk.shaders.child name)

/-- For every dimension and every shared folder, and whatever the disk is, the folders searched are such. -/
theorem isSearchList_searchFolders (b : Bundle) (d : Disk) (dimension : Text) :
    IsSearchList b.options d dimension (b.searchFolders d dimension) := by
  rw [searchFolders_eq]
  have others (folder : Path) :
      folder ∈ namedFolders (folderNamed? d dimension) (folderNamed? d b.options.programFolder) ↔
        ∃ name : Segment, folder = Disk.shaders.child name ∧
          (name.text = dimension ∨ name.text = b.options.programFolder) ∧ '/' ∉ name.text ∧ '\\' ∉ name.text ∧
          d.isFolder folder = true := by
    rw [mem_namedFolders_iff, folderNamed?_eq_some_iff, folderNamed?_eq_some_iff]
    constructor
    · rintro (⟨name, rfl, plain, inside, there⟩ | ⟨name, same, plain, inside, there⟩)
      · exact ⟨name, inside, Or.inl rfl, name.isSegment.2.2.2, plain, there⟩
      · exact ⟨name, inside, Or.inr same, name.isSegment.2.2.2, same ▸ plain, there⟩
    · rintro ⟨name, inside, rfl | same, _, plain, there⟩
      · exact Or.inl ⟨name, rfl, plain, inside, there⟩
      · exact Or.inr ⟨name, same, same ▸ plain, inside, there⟩
  constructor
  case length =>
    have short := length_namedFolders_le (folderNamed? d dimension) (folderNamed? d b.options.programFolder)
    rw [List.length_append, List.length_singleton]
    omega
  case nodup =>
    refine List.nodup_append.2 ⟨nodup_namedFolders _ _, List.nodup_singleton _, ?_⟩
    rintro folder listed _ last rfl
    obtain ⟨name, inside, _⟩ := (others folder).1 listed
    rw [List.mem_singleton.1 last] at inside
    exact Path.child_ne_self Disk.shaders name inside.symm
  case last => exact List.getLast?_concat
  case others =>
    intro folder
    rw [List.dropLast_concat]
    exact others folder
  case first =>
    intro name same listed
    rcases List.mem_append.1 listed with named | last
    · obtain ⟨name', inside, _, _, plain, there⟩ := (others _).1 named
      obtain rfl : name = name' := Path.child_injective Disk.shaders inside
      have own : folderNamed? d dimension = some (Disk.shaders.child name) :=
        folderNamed?_eq_some_iff.2 ⟨name, same, same ▸ plain, rfl, there⟩
      rw [List.head?_append, head?_namedFolders own, Option.some_or]
    · exact absurd (List.mem_singleton.1 last) (Path.child_ne_self Disk.shaders name)

/-- Where the shaders of a catalog are from. -/
structure IsTakenInside (c : Catalog) (lib : Library) (markers : Bool) : Prop where
  /-- A program is taken from the folder for shaders or from one right inside it. -/
  program : ∀ p shader, c.get? p = some shader →
    ∃ folder, Disk.IsProgramFolder folder ∧ lib.IsTakenFrom markers folder shader
  /-- So is what fills a slot. -/
  pass : ∀ array slot shader, c.getPass? array slot = some shader →
    ∃ folder, Disk.IsProgramFolder folder ∧ lib.IsTakenFrom markers folder shader

/-- What is looked up in the folders of a search is taken from the folder for shaders or from one right inside
it. -/
theorem isTakenInside_makeCatalog (b : Bundle) (d : Disk) (dimension : Text) :
    IsTakenInside (b.makeCatalog d dimension).value b.library b.options.markers := by
  have taken {name : Text} {shader : Shader} (relative : IsRelative name) (plain : '/' ∉ name)
      (found : (b.library.search b.options.markers (b.searchFolders d dimension) name).value = some shader) :
      ∃ folder, Disk.IsProgramFolder folder ∧ b.library.IsTakenFrom b.options.markers folder shader := by
    obtain ⟨folder, listed, offered⟩ := Library.exists_shader?_of_search found
    have assembled := Library.isAssembled_of_shader? relative offered
    exact ⟨folder, isProgramFolder_of_mem_searchFolders listed, assembled.isTakenFrom plain⟩
  rw [value_makeCatalog]
  constructor
  case program =>
    intro p shader found
    rw [Catalog.get?_load] at found
    exact taken p.isRelative_stem p.slash_not_mem_stem found
  case pass =>
    intro array slot shader found
    rw [Catalog.getPass?_load] at found
    obtain ⟨name, named, searched⟩ := Option.bind_eq_some_iff.1 found
    exact taken (PassArray.isRelative_slotName named) (PassArray.slash_not_mem_slotName named) searched

/-- What a bundle looks at after a history of requests, whatever the disk is at each of them. -/
structure LooksInside (b : Bundle) (history : List (Disk × Request)) : Prop where
  /-- The folders that are searched for a dimension are well formed. -/
  folders : ∀ d dimension, IsSearchList b.options d dimension ((b.after history).searchFolders d dimension)
  /-- A catalog that a request is answered with holds nothing from elsewhere. -/
  catalogs : ∀ d request c, ((b.after history).perform d request).value.1 = .catalog c →
    IsTakenInside c b.library b.options.markers

/-- A bundle that was loaded looks at the folder for shaders and at folders right inside it, whatever texts name
the dimension and the shared folder, and whatever becomes of the disk. -/
theorem looksInside_of_load (d : Disk) (options : Options) (b : Bundle)
    (loaded : (load d options).value = .ok b) (history : List (Disk × Request)) : b.LooksInside history := by
  obtain ⟨_, _, _, _, nothing⟩ := load_eq_ok_iff.1 loaded
  constructor
  case folders =>
    intro d dimension
    rw [← b.options_after history]
    exact (b.after history).isSearchList_searchFolders d dimension
  case catalogs =>
    intro d request c answered
    obtain ⟨d', dimension, rfl⟩ := exists_makeCatalog_of_answer nothing answered
    exact b.isTakenInside_makeCatalog d' dimension

/-- The dimension is named by texts that would lead out of the folder for shaders, or down to a file. -/
theorem looksInside_twofold :
    (load .twofold {}).value = .ok twofold ∧
      twofold.LooksInside [(.twofold, .catalog "..".toList), (.empty [], .freshCatalog "/shaders/world0".toList),
        (.twofold, .catalogFor ⟨"other".toList, "world0/final.vs.hlsl".toList⟩)] :=
  ⟨load_twofold, looksInside_of_load .twofold {} twofold load_twofold _⟩

end Bundle

end ShaderBundle
