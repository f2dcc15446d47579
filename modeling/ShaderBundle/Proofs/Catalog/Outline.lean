import ShaderBundle.Proofs.Catalog.Load
/-!
# Catalogs with markers and without

Markers change the texts of shaders and nothing else of a catalog. Which folder provides a program is
decided by what the files have of their own, and so is which further stages and passes it has. What a
catalog says apart from texts is its outline, and the two catalogs that are loaded from the same folders,
with markers and without, have the same outline.
-/

namespace ShaderBundle

/-- The shader without its texts: its name, and which stages and passes it has. -/
def Shader.outline (s : Shader) : Shader where
  name := s.name
  vertex := []
  pixel := []
  geometry? := s.geometry?.map fun _ => []
  hull? := s.hull?.map fun _ => []
  domain? := s.domain?.map fun _ => []
  compute? := s.compute?.map fun _ => []
  variants := s.variants.map fun variant => (variant.1, [])

/-- Where a shader is from, without its texts. -/
def Resolution.outline : Resolution → Resolution
  | .provided program shader => .provided program shader.outline
  | .builtin b => .builtin b

namespace Library

variable {lib : Library} {markers : Bool} {folder : Path} {name : Text} {folders : List Path}

/-- The folder that a program of the given name is taken from. -/
def provider? (lib : Library) (markers : Bool) (folders : List Path) (name : Text) : Option Path :=
  (lib.offers markers name folders).findSome? fun (folder, offer) => offer.shader?.map fun _ => folder

/-- What is found for a name, with markers and without, is from one folder and has one outline. -/
inductive IsFromOneFolder (lib : Library) (folders : List Path) (name : Text) :
    Option Shader → Option Shader → Prop where
  /-- No folder provides the name. -/
  | absent : lib.provider? true folders name = none → lib.provider? false folders name = none →
      IsFromOneFolder lib folders name none none
  /-- One folder provides the name, and both shaders are the program as that folder has it. -/
  | found (folder : Path) (marked plain : Shader) :
      lib.provider? true folders name = some folder → lib.provider? false folders name = some folder →
      lib.IsAssembled true folder name marked → lib.IsAssembled false folder name plain →
      marked.outline = plain.outline → IsFromOneFolder lib folders name (some marked) (some plain)

/-- A program is taken from the first folder with a good offer. -/
theorem provider?_eq (lib : Library) (markers : Bool) (folders : List Path) (name : Text) :
    lib.provider? markers folders name = folders.findSome? fun folder =>
      ((lib.offerIn? markers name folder).bind Offer.shader?).map fun _ => folder := by
  rw [provider?]
  induction folders with
  | nil => rfl
  | cons folder rest ih =>
    rw [offers, List.findSome?_cons]
    cases lib.offerIn? markers name folder with
    | none => exact ih
    | some offer =>
      dsimp only
      rw [List.findSome?_cons, Option.bind_some]
      cases good : offer.shader? with
      | none => exact ih
      | some shader => rfl

/-- What is looked up for a name is what the folder offers that it is taken from. -/
theorem value_search_eq_bind_provider? (lib : Library) (markers : Bool) (folders : List Path) (name : Text) :
    (lib.search markers folders name).value =
      (lib.provider? markers folders name).bind fun folder =>
        (lib.offerIn? markers name folder).bind Offer.shader? := by
  rw [value_search, provider?_eq]
  induction folders with
  | nil => rfl
  | cons folder rest ih =>
    rw [List.findSome?_cons, List.findSome?_cons]
    cases good : (lib.offerIn? markers name folder).bind Offer.shader? with
    | none => exact ih
    | some shader => exact good.symm

/-- Whether a stage is there does not depend on markers. -/
theorem map_stageIn? (lib : Library) (folder : Path) (name : Text) :
    (lib.stageIn? true folder name).map (fun _ => ([] : Text)) =
      (lib.stageIn? false folder name).map fun _ => [] := by
  rw [stageIn?, stageIn?]
  cases lib.fileIn? folder name with
  | none => rfl
  | some file =>
    rw [Option.bind_some, Option.bind_some]
    split
    · rfl
    · rfl

/-- Which compute variants are there does not depend on markers. -/
theorem map_variants (lib : Library) (folder : Path) (name : Text) (letters : List Char) :
    (letters.filterMap fun letter => (lib.stageIn? true folder
      (Stage.compute.fileName (name ++ ['_', letter]))).map fun text => (letter, text)).map
        (fun variant => (variant.1, ([] : Text))) =
    (letters.filterMap fun letter => (lib.stageIn? false folder
      (Stage.compute.fileName (name ++ ['_', letter]))).map fun text => (letter, text)).map
        fun variant => (variant.1, []) := by
  rw [List.map_filterMap, List.map_filterMap]
  refine List.filterMap_congr fun letter _ => ?_
  have same := congrArg (Option.map (Prod.mk letter))
    (lib.map_stageIn? folder (Stage.compute.fileName (name ++ ['_', letter])))
  rw [Option.map_map, Option.map_map] at same
  rw [Option.map_map, Option.map_map]
  exact same

/-- What is assembled has an outline that does not depend on markers. -/
theorem outline_assemble (lib : Library) (folder : Path) (name vertex pixel vertex' pixel' : Text) :
    (lib.assemble true folder name vertex pixel).outline =
      (lib.assemble false folder name vertex' pixel').outline := by
  simp only [Shader.outline, assemble, map_stageIn?, map_variants]

section Lookup

variable (unbroken : lib.IsUnbroken) (written : ∀ p ∈ lib.paths, '\n' ∉ p.text)
variable (relative : IsRelative name)

include unbroken written relative

/-- A folder has a good offer with markers exactly if it has one without, and the two have one outline. -/
theorem map_outline_offerIn? (folder : Path) :
    ((lib.offerIn? true name folder).bind Offer.shader?).map Shader.outline =
      ((lib.offerIn? false name folder).bind Offer.shader?).map Shader.outline := by
  by_cases usable : lib.IsUsable name folder
  · obtain ⟨vertex, at_vertex⟩ := mem_paths_iff.1 usable.1.1
    obtain ⟨pixel, at_pixel⟩ := mem_paths_iff.1 usable.2.1
    have filled : (vertex.isEmpty || pixel.isEmpty) = false := by
      simp [SourceFile.isEmpty, lines_ne_nil_of_isLive at_vertex usable.1,
        lines_ne_nil_of_isLive at_pixel usable.2]
    have substantial (markers : Bool) :=
      (isSubstantial_assemble_iff unbroken written markers at_vertex at_pixel).2 usable
    rw [shader?_offerIn? relative at_vertex at_pixel rfl, if_pos ⟨filled, substantial true⟩,
      shader?_offerIn? relative at_vertex at_pixel rfl, if_pos ⟨filled, substantial false⟩,
      Option.map_some, Option.map_some, outline_assemble]
  · rw [shader?_offerIn?_of_not_isUsable unbroken written relative true usable,
      shader?_offerIn?_of_not_isUsable unbroken written relative false usable]

/-- A program is taken from the same folder with markers and without. -/
theorem provider?_true_eq (folders : List Path) :
    lib.provider? true folders name = lib.provider? false folders name := by
  have offered (folder : Path) :
      ((lib.offerIn? true name folder).bind Offer.shader?).map (fun _ => folder) =
        ((lib.offerIn? false name folder).bind Offer.shader?).map fun _ => folder := by
    have same := congrArg (Option.map fun _ => folder) (map_outline_offerIn? unbroken written relative folder)
    rw [Option.map_map, Option.map_map] at same
    exact same
  rw [provider?_eq, provider?_eq]
  simp only [offered]

/-- What is looked up for a name is from one folder and has one outline. -/
theorem isFromOneFolder_search (folders : List Path) :
    lib.IsFromOneFolder folders name (lib.search true folders name).value
      (lib.search false folders name).value := by
  have provided := provider?_true_eq unbroken written relative folders
  rw [value_search_eq_bind_provider?, value_search_eq_bind_provider?, provided]
  cases at_plain : lib.provider? false folders name with
  | none => exact .absent (provided.trans at_plain) at_plain
  | some folder =>
    rw [Option.bind_some, Option.bind_some]
    have outlined := map_outline_offerIn? unbroken written relative folder
    cases good : (lib.offerIn? false name folder).bind Offer.shader? with
    | none =>
      rw [provider?_eq, List.findSome?_eq_some_iff] at at_plain
      obtain ⟨_, other, _, _, offered, _⟩ := at_plain
      obtain ⟨_, at_other, rfl⟩ := Option.map_eq_some_iff.1 offered
      rw [good] at at_other
      contradiction
    | some plain =>
      rw [good, Option.map_some] at outlined
      obtain ⟨marked, offered, same⟩ := Option.map_eq_some_iff.1 outlined
      rw [offered]
      exact .found folder marked plain (provided.trans at_plain) at_plain
        (isAssembled_of_offerIn? unbroken written relative offered).2
        (isAssembled_of_offerIn? unbroken written relative good).2 same

end Lookup

/-- The two have one outline, as far as something is found. -/
theorem IsFromOneFolder.map_outline {marked? plain? : Option Shader}
    (from_one : lib.IsFromOneFolder folders name marked? plain?) :
    marked?.map Shader.outline = plain?.map Shader.outline := by
  cases from_one with
  | absent => rfl
  | found _ _ _ _ _ _ _ same => exact congrArg some same

end Library

namespace Catalog

variable {lib : Library} {folders : List Path}

/-- The entries of a table with their shaders' outlines. -/
def outlines {α : Type} (entries : List (α × Shader)) : List (α × Shader) :=
  entries.map fun entry => (entry.1, entry.2.outline)

/-- The catalog without the texts of its shaders. -/
def outline (c : Catalog) : Catalog where
  dimension := c.dimension
  programs := outlines c.programs
  tables := c.tables.mapShaders Shader.outline

/-- A program of the outline is the outline of the program. -/
theorem get?_outline (c : Catalog) (program : Program) :
    c.outline.get? program = (c.get? program).map Shader.outline :=
  lookup_map_value Shader.outline c.programs program

/-- The outline holds the same programs. -/
theorem contains_outline (c : Catalog) (program : Program) :
    c.outline.contains program = c.contains program := by
  rw [contains, contains, get?_outline, Option.isSome_map]

/-- In the outline the same program of a chain is the first that is held. -/
theorem withSubstitute?_outline (c : Catalog) (program : Program) :
    c.outline.withSubstitute? program =
      (c.withSubstitute? program).map fun found => (found.1, found.2.outline) := by
  rw [withSubstitute?, withSubstitute?]
  induction program.chain with
  | nil => rfl
  | cons candidate rest ih =>
    rw [List.findSome?_cons, List.findSome?_cons, get?_outline]
    cases c.get? candidate with
    | none => exact ih
    | some shader => rfl

/-- The outline has the same slots filled, with the outlines of their shaders. -/
theorem slots_outline (c : Catalog) (array : PassArray) :
    c.outline.slots array = outlines (c.slots array) := by
  have found : c.outline.tables.lookup array =
      (c.tables.lookup array).map (Vector.map (Option.map Shader.outline)) := lookup_map_value _ c.tables array
  rw [slots, slots, found]
  cases c.tables.lookup array with
  | none => rfl
  | some table =>
    simp only [Option.map_some, Option.toList_some, List.flatMap_singleton]
    exact table.filled_map Shader.outline

/-- The outline holds the outlines of the shaders. -/
theorem shaders_outline (c : Catalog) : c.outline.shaders = c.shaders.map Shader.outline := by
  have held (table : PassTable) : PassTable.shaders (table.map (Option.map Shader.outline)) =
      table.shaders.map Shader.outline := by
    rw [← PassTable.map_snd_filled, ← PassTable.map_snd_filled, PassTable.filled_map, List.map_map, List.map_map]
    rfl
  simp only [shaders, outline, outlines, PassTables.mapShaders, List.map_append, List.map_map, List.flatMap_map,
    List.map_flatMap, held]
  rfl

/-- The outline resolves a program to the same program, provided or built in. -/
theorem resolve_outline (c : Catalog) (program : Program) :
    (c.outline.resolve program).value = (c.resolve program).value.map Resolution.outline := by
  rw [resolve, resolve, withSubstitute?_outline]
  cases c.withSubstitute? program with
  | some found => rfl
  | none =>
    simp only [Option.map_none, Journaled.value_bind, Journaled.value_pure]
    cases program.standIn?.value with
    | none => rfl
    | some b => rfl

/-- The outline counts the same: what is counted is which stages are there, and not their texts. -/
theorem census_outline (c : Catalog) : c.outline.census = c.census := by
  have geometry : Shader.hasGeometry ∘ Shader.outline = Shader.hasGeometry := by
    funext s
    simp [Shader.hasGeometry, Shader.outline]
  have tessellation : Shader.hasTessellation ∘ Shader.outline = Shader.hasTessellation := by
    funext s
    simp [Shader.hasTessellation, Shader.outline]
  have compute : Shader.hasCompute ∘ Shader.outline = Shader.hasCompute := by
    funext s
    simp [Shader.hasCompute, Shader.outline]
  have programs : c.outline.programs.length = c.programs.length := List.length_map _
  simp only [census, shaders_outline, programs, List.length_map, List.countP_map, geometry, tessellation, compute]

/-- What is gathered has outlines that do not depend on markers. -/
theorem outlines_gather {α : Type} (unbroken : lib.IsUnbroken) (written : ∀ p ∈ lib.paths, '\n' ∉ p.text)
    {keyed : List (α × Text)} (relative : ∀ entry ∈ keyed, IsRelative entry.2) :
    outlines (gather lib true folders keyed).value = outlines (gather lib false folders keyed).value := by
  rw [value_gather, value_gather, outlines, outlines, List.map_filterMap, List.map_filterMap]
  refine List.filterMap_congr fun entry listed => ?_
  have found := (Library.isFromOneFolder_search unbroken written (relative entry listed) folders).map_outline
  have keyed := congrArg (Option.map fun shader => (entry.1, shader)) found
  rw [Option.map_map, Option.map_map] at keyed ⊢
  exact keyed

/-- Two catalogs of the same folders, with markers and without, that differ in the texts of their shaders
alone. -/
structure AgreeUpToMarkers (lib : Library) (folders : List Path) (marked plain : Catalog) : Prop where
  /-- A program is in both or in neither, from one folder, with the same stages and passes. -/
  program : ∀ p : Program, lib.IsFromOneFolder folders p.stem (marked.get? p) (plain.get? p)
  /-- So is a slot. -/
  pass : ∀ (array : PassArray) slot name, array.slotName? slot = some name →
    lib.IsFromOneFolder folders name (marked.getPass? array slot) (plain.getPass? array slot)
  /-- Without the texts they are the same. -/
  outline_eq : marked.outline = plain.outline
  /-- They hold as much. -/
  census_eq : marked.census = plain.census
  /-- They hold the same programs. -/
  contains_eq : ∀ p, marked.contains p = plain.contains p
  /-- The same program stands in for a program. -/
  withSubstitute_eq : ∀ p, (marked.withSubstitute? p).map Prod.fst = (plain.withSubstitute? p).map Prod.fst
  /-- The same slots of an array are filled. -/
  slots_eq : ∀ array, (marked.slots array).map Prod.fst = (plain.slots array).map Prod.fst
  /-- A program is resolved to the same program, provided or built in. -/
  resolve_eq : ∀ p, (marked.resolve p).value.map Resolution.outline =
    (plain.resolve p).value.map Resolution.outline

/-- A catalog has one outline, whether it is loaded with markers or without. -/
theorem outline_load (lib : Library) (unbroken : lib.IsUnbroken) (written : ∀ p ∈ lib.paths, '\n' ∉ p.text)
    (dimension : Text) (folders : List Path) :
    (load dimension lib folders true).value.outline = (load dimension lib folders false).value.outline := by
  have stems : ∀ entry ∈ Program.all.map fun p => (p, p.stem), IsRelative entry.2 := by
    intro entry listed
    obtain ⟨p, _, rfl⟩ := List.mem_map.1 listed
    exact p.isRelative_stem
  have names : ∀ entry ∈ slotNames, IsRelative entry.2 := by
    intro entry listed
    exact PassArray.isRelative_slotName (mem_slotNames_iff.1 listed)
  have passes : outlines (gather lib true folders slotNames).value =
      outlines (gather lib false folders slotNames).value := outlines_gather unbroken written names
  rw [value_load, value_load, outline, outline, outlines_gather unbroken written stems,
    PassTables.mapShaders_fillAll, PassTables.mapShaders_fillAll]
  exact congrArg (Catalog.mk _ _ ∘ PassTables.fillAll []) passes

/-- In a library without line feeds in its lines and paths, a catalog that is loaded with markers has the
same programs and slots as one that is loaded without, from the same folders and with the same stages. -/
theorem load_agreeUpToMarkers (lib : Library) (unbroken : lib.IsUnbroken)
    (written : ∀ p ∈ lib.paths, '\n' ∉ p.text) (dimension : Text) (folders : List Path) :
    AgreeUpToMarkers lib folders (load dimension lib folders true).value
      (load dimension lib folders false).value := by
  have outlined := outline_load lib unbroken written dimension folders
  constructor
  case program =>
    intro p
    rw [get?_load, get?_load]
    exact Library.isFromOneFolder_search unbroken written p.isRelative_stem folders
  case pass =>
    intro array slot name named
    rw [getPass?_load, getPass?_load, named]
    exact Library.isFromOneFolder_search unbroken written (PassArray.isRelative_slotName named) folders
  case outline_eq => exact outlined
  case census_eq => rw [← census_outline, outlined, census_outline]
  case contains_eq =>
    intro p
    rw [← contains_outline, outlined, contains_outline]
  case withSubstitute_eq =>
    intro p
    have same := congrArg (Option.map Prod.fst) (congrArg (withSubstitute? · p) outlined)
    simp only [withSubstitute?_outline, Option.map_map] at same
    exact same
  case slots_eq =>
    intro array
    have same := congrArg (List.map Prod.fst) (congrArg (slots · array) outlined)
    simp only [slots_outline, outlines, List.map_map] at same
    exact same
  case resolve_eq =>
    intro p
    rw [← resolve_outline, outlined, resolve_outline]

/-- In this library a text has a marker in the one catalog and none in the other, and the two agree in all but
that. -/
theorem load_agreeUpToMarkers_layered :
    layered.IsUnbroken ∧ (∀ p ∈ layered.paths, '\n' ∉ p.text) ∧
      AgreeUpToMarkers layered [Path.root.follow "world0".toList, Path.root]
        (load ['w'] layered [Path.root.follow "world0".toList, Path.root] true).value
        (load ['w'] layered [Path.root.follow "world0".toList, Path.root] false).value := by
  have unbroken : layered.IsUnbroken := by
    unfold Library.IsUnbroken
    decide +kernel
  have written : ∀ p ∈ layered.paths, '\n' ∉ p.text := by decide +kernel
  exact ⟨unbroken, written, load_agreeUpToMarkers layered unbroken written ['w'] _⟩

end Catalog

end ShaderBundle
