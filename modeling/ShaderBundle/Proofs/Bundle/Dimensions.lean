import ShaderBundle.Proofs.Bundle.Folders
/-!
# Folders that are set apart for dimensions

Such folders are found by listing the folder for shaders, and a catalog finds them again by their names. Listing
takes every name that starts with `world`. A search refuses a name with a backslash, which some systems read as a
separator, though here it stands for itself. So every folder that is listed comes first in the search for the
dimension of its name, except one with a backslash in its name, which no search ever looks at.
-/

namespace ShaderBundle

namespace Bundle

variable {b : Bundle} {d : Disk} {name : Segment}

/-- What is listed are the names of the folders right inside the folder for shaders that start with the word. -/
theorem mem_dimensionFolders_iff {t : Text} :
    t ∈ (dimensionFolders d).value ↔ ∃ name : Segment, name.text = t ∧ "world".toList <+: t ∧
      d.isFolder (Disk.shaders.child name) = true := by
  rw [dimensionFolders]
  constructor
  · intro listed
    split at listed
    · obtain ⟨name, passed, rfl⟩ := List.mem_map.1 listed
      have checks := Bool.and_eq_true_iff.1 (List.mem_filter.1 passed).2
      exact ⟨name, rfl, List.isPrefixOf_iff_prefix.1 checks.2, checks.1⟩
    · exact absurd listed List.not_mem_nil
    · exact absurd listed List.not_mem_nil
  · rintro ⟨name, rfl, starts, there⟩
    obtain ⟨_, lies⟩ := Disk.isFolder_eq_true_iff.1 there
    obtain ⟨content, above, entry⟩ := Disk.exists_folder_of_child lies
    have passed : (d.isFolder (Disk.shaders.child name) && "world".toList.isPrefixOf name.text) = true := by
      rw [there, List.isPrefixOf_iff_prefix.2 starts, Bool.and_self]
    rw [above]
    exact List.mem_map_of_mem (List.mem_filter.2 ⟨Entry.mem_names_of_lookup entry, passed⟩)

/-- The folder of the name has an effect on the catalog of the dimension of that name. -/
structure IsEffective (b : Bundle) (d : Disk) (name : Segment) : Prop where
  /-- The folder is searched first. -/
  first : (b.searchFolders d name.text).head? = some (Disk.shaders.child name)
  /-- A program for which the folder is usable is taken from it. -/
  program : ∀ p, b.library.IsUsable (Program.stem p) (Disk.shaders.child name) →
    ∃ shader, (b.makeCatalog d name.text).value.get? p = some shader ∧
      b.library.IsAssembled b.options.markers (Disk.shaders.child name) p.stem shader
  /-- So is what fills a slot. -/
  pass : ∀ array slot stem, PassArray.slotName? array slot = some stem →
    b.library.IsUsable stem (Disk.shaders.child name) →
    ∃ shader, (b.makeCatalog d name.text).value.getPass? array slot = some shader ∧
      b.library.IsAssembled b.options.markers (Disk.shaders.child name) stem shader

/-- A folder that is searched first has an effect. -/
theorem isEffective_of_head? (unbroken : b.library.IsUnbroken)
    (first : (b.searchFolders d name.text).head? = some (Disk.shaders.child name)) : b.IsEffective d name := by
  obtain ⟨behind, folders⟩ := List.head?_eq_some_iff.1 first
  constructor
  case first => exact first
  case program =>
    intro p usable
    rw [value_makeCatalog, Catalog.get?_load, folders]
    exact Library.exists_search_of_isUsable unbroken p.isRelative_stem _ behind usable
  case pass =>
    intro array slot stem named usable
    rw [value_makeCatalog, Catalog.getPass?_load, named, Option.bind_some, folders]
    exact Library.exists_search_of_isUsable unbroken (PassArray.isRelative_slotName named) _ behind usable

/-- The folder of a name without a backslash is searched first for the dimension of that name, if it is there. -/
theorem head?_searchFolders (plain : '\\' ∉ name.text) (there : d.isFolder (Disk.shaders.child name) = true) :
    (b.searchFolders d name.text).head? = some (Disk.shaders.child name) := by
  have own : folderNamed? d name.text = some (Disk.shaders.child name) :=
    folderNamed?_eq_some_iff.2 ⟨name, rfl, plain, rfl, there⟩
  rw [searchFolders_eq, List.head?_append, head?_namedFolders own, Option.some_or]

/-- The folder of a name with a backslash is never searched. -/
theorem not_mem_searchFolders (slanted : '\\' ∈ name.text) (b : Bundle) (d : Disk) (dimension : Text) :
    Disk.shaders.child name ∉ b.searchFolders d dimension := by
  rw [searchFolders_eq, List.mem_append, mem_namedFolders_iff, List.mem_singleton]
  have refused (t : Text) : folderNamed? d t ≠ some (Disk.shaders.child name) := by
    intro found
    obtain ⟨name', rfl, plain, inside, _⟩ := folderNamed?_eq_some_iff.1 found
    obtain rfl : name = name' := Path.child_injective Disk.shaders inside
    exact plain slanted
  rintro ((own | shared) | last)
  · exact refused dimension own
  · exact refused b.options.programFolder shared
  · exact Path.child_ne_self Disk.shaders name last

/-- What becomes of a folder that is listed for a dimension. -/
structure IsSetApart (b : Bundle) (d : Disk) (name : Segment) : Prop where
  /-- It is there. -/
  there : d.isFolder (Disk.shaders.child name) = true
  /-- It has an effect if there is no backslash in its name. -/
  effective : '\\' ∉ name.text → b.IsEffective d name
  /-- Otherwise it is not searched for any dimension. -/
  unsearched : '\\' ∈ name.text → ∀ dimension, Disk.shaders.child name ∉ b.searchFolders d dimension

/-- Every folder that is listed for a dimension has an effect on any bundle that was loaded, as long as there is
no backslash in its name. -/
theorem isSetApart_of_load (d₀ : Disk) (options : Options) (b : Bundle)
    (loaded : (load d₀ options).value = .ok b) (d : Disk) :
    ∀ t ∈ (dimensionFolders d).value, ∃ name : Segment, name.text = t ∧ b.IsSetApart d name := by
  intro t listed
  obtain ⟨name, rfl, _, there⟩ := mem_dimensionFolders_iff.1 listed
  refine ⟨name, rfl, ?_⟩
  constructor
  case there => exact there
  case effective =>
    intro plain
    exact isEffective_of_head? (isUnbroken_of_load loaded) (head?_searchFolders plain there)
  case unsearched =>
    intro slanted dimension
    exact not_mem_searchFolders slanted b d dimension

/-- The only folder listed is one that has an effect. -/
theorem isSetApart_twofold :
    let name : Segment := ⟨"world0".toList, by decide⟩
    (load .twofold {}).value = .ok twofold ∧ (dimensionFolders .twofold).value = [name.text] ∧
      twofold.IsEffective .twofold name := by
  intro name
  have listed : (dimensionFolders .twofold).value = [name.text] := by cbv
  obtain ⟨name', same, found⟩ := isSetApart_of_load .twofold {} twofold load_twofold .twofold name.text
    (by rw [listed]; exact List.mem_singleton_self _)
  obtain rfl : name' = name := Segment.text_injective same
  exact ⟨load_twofold, listed, found.effective (by decide)⟩

end Bundle

namespace Disk

/-- A folder with a backslash in its name. -/
def slantedFolder : Path := shaders.child ⟨"world\\x".toList, by decide⟩

/-- A disk with one program, in that folder. -/
def slanted : Disk where
  place := "pack".toList
  top :=
    let files : List (Path × ByteArray) :=
      [(slantedFolder.follow "final.vs.hlsl".toList, ⟨#[0x31, 0x0a]⟩),
        (slantedFolder.follow "final.ps.hlsl".toList, ⟨#[0x32, 0x0a]⟩)]
    files.foldl (fun e file => e.write file.2 file.1.segments) (.folder [])

end Disk

namespace Bundle

/-- The bundle on that disk. -/
def slanted : Bundle where
  options := {}
  library := {
    files := [⟨Disk.slantedFolder.follow "final.ps.hlsl".toList, [⟨['2'], none⟩]⟩,
      ⟨Disk.slantedFolder.follow "final.vs.hlsl".toList, [⟨['1'], none⟩]⟩]
    failures := [] }
  catalogs := []

/-- The bundle loads. -/
theorem load_slanted : (load .slanted {}).value = .ok slanted := by
  have seeds : Disk.slanted.seeds = .ok [Disk.slantedFolder.follow "final.ps.hlsl".toList,
      Disk.slantedFolder.follow "final.vs.hlsl".toList] := by cbv
  have built : Library.build Disk.slanted.reader [Disk.slantedFolder.follow "final.ps.hlsl".toList,
      Disk.slantedFolder.follow "final.vs.hlsl".toList] = .ok slanted.library := by cbv
  exact load_eq_ok_iff.2 ⟨_, seeds, built, rfl, rfl⟩

/-- Its folder with a backslash in the name is usable for a program. -/
theorem isUsable_slanted : slanted.library.IsUsable Program.final.stem Disk.slantedFolder := by
  have vertex : slanted.library.find? (Disk.slantedFolder.follow (Stage.vertex.fileName Program.final.stem)) =
      some ⟨Disk.slantedFolder.follow "final.vs.hlsl".toList, [⟨['1'], none⟩]⟩ := by cbv
  have pixel : slanted.library.find? (Disk.slantedFolder.follow (Stage.pixel.fileName Program.final.stem)) =
      some ⟨Disk.slantedFolder.follow "final.ps.hlsl".toList, [⟨['2'], none⟩]⟩ := by cbv
  exact ⟨(Library.any_isContent_expand vertex).1 (by cbv), (Library.any_isContent_expand pixel).1 (by cbv)⟩

/-- A folder with a backslash in its name is listed, and its files are loaded, but it has no effect: the program
that it is usable for is missing from the catalog of the dimension of its name. -/
theorem not_isEffective_slanted :
    let name : Segment := ⟨"world\\x".toList, by decide⟩
    (load .slanted {}).value = .ok slanted ∧ (dimensionFolders .slanted).value = [name.text] ∧
      slanted.library.IsUsable Program.final.stem (Disk.shaders.child name) ∧
      slanted.searchFolders .slanted name.text = [Disk.shaders] ∧
      (slanted.makeCatalog .slanted name.text).value.get? .final = none ∧
      ¬ slanted.IsEffective .slanted name := by
  intro name
  have listed : (dimensionFolders .slanted).value = [name.text] := by cbv
  have folders : slanted.searchFolders .slanted name.text = [Disk.shaders] := rfl
  have missing : (slanted.makeCatalog .slanted name.text).value.get? .final = none := by
    rw [value_makeCatalog, Catalog.get?_load, folders]
    cbv
  refine ⟨load_slanted, listed, isUsable_slanted, folders, missing, fun effective => ?_⟩
  obtain ⟨shader, found, _⟩ := effective.program .final isUsable_slanted
  exact absurd (missing.symm.trans found).symm (Option.some_ne_none shader)

end Bundle

end ShaderBundle
