import ShaderBundle.Proofs.Catalog.Content
import ShaderBundle.Proofs.Keyed
import ShaderBundle.Proofs.Path.Written
import ShaderBundle.Catalog.Basic
/-!
# What a list of folders provides

A program is provided by the first folder of a list in which the files of both main stages are live. The
three checks that a folder has to pass come down to that: a live file has a line, and its flat text is not
empty and has content, with markers or without. What is provided has the texts of that folder alone.
-/

namespace ShaderBundle

/-- The names of a program's files are relative if its own name is. -/
theorem IsRelative.fileName {name : Text} (relative : IsRelative name) (stage : Stage) :
    IsRelative (stage.fileName name) := relative.append stage.ending

/-- The stems of programs are relative names. -/
theorem Program.isRelative_stem (p : Program) : IsRelative p.stem := by
  cases p <;> exact ⟨_, _, rfl, by decide⟩

/-- The names of slots are relative. -/
theorem PassArray.isRelative_slotName {array : PassArray} {slot : Nat} {name : Text}
    (named : array.slotName? slot = some name) : IsRelative name := by
  have stem : IsRelative array.stem := by cases array <;> exact ⟨_, _, rfl, by decide⟩
  rcases slotName?_eq_some_iff.1 named with ⟨_, rfl⟩ | ⟨_, _, rfl⟩
  · exact stem
  · exact stem.append _

namespace Library

variable {lib : Library} {markers : Bool} {folder : Path} {name : Text} {folders : List Path}

/-- The files of both main stages of a program are live in the folder. -/
def IsUsable (lib : Library) (name : Text) (folder : Path) : Prop :=
  lib.IsLive (folder.follow (Stage.vertex.fileName name)) ∧
    lib.IsLive (folder.follow (Stage.pixel.fileName name))

/-- At the path there is a file with a line, and the text is what it is flattened to. -/
def IsStageText (lib : Library) (markers : Bool) (path : Path) (text : Text) : Prop :=
  (∃ file, lib.find? path = some file ∧ file.lines ≠ []) ∧
    ∃ source, lib.flattenAt path = .ok source ∧ source.textWith markers = text

/-- The shader is the program of the given name as the folder has it. -/
structure IsAssembled (lib : Library) (markers : Bool) (folder : Path) (name : Text) (shader : Shader) :
    Prop where
  /-- The shader has the name. -/
  name_eq : shader.name = name
  /-- Each stage has the text of the folder's file for it, and is missing exactly if that is. -/
  stage : ∀ stage text, shader.stage? stage = some text ↔
    lib.IsStageText markers (folder.follow (Stage.fileName stage name)) text
  /-- So has each lettered compute pass. -/
  variant : ∀ letter text, (letter, text) ∈ shader.variants ↔ letter ∈ passLetters ∧
    lib.IsStageText markers (folder.follow (Stage.compute.fileName (name ++ ['_', letter]))) text
  /-- The letters come in the order of dispatch, each once. -/
  dispatched : (shader.variants.map Prod.fst).Sublist passLetters

/-- What is found for a name is the program as the first usable folder has it, and nothing if no folder is
usable. -/
structure Provides (lib : Library) (markers : Bool) (folders : List Path) (name : Text)
    (shader? : Option Shader) : Prop where
  /-- Something is found exactly if a folder is usable. -/
  isSome_iff : shader?.isSome = true ↔ ∃ folder ∈ folders, lib.IsUsable name folder
  /-- What is found is what the first usable folder has. -/
  first : ∀ shader, shader? = some shader → ∃ before folder behind,
    folders = before ++ folder :: behind ∧ (∀ other ∈ before, ¬ lib.IsUsable name other) ∧
      lib.IsUsable name folder ∧ lib.IsAssembled markers folder name shader

/-- The file of a relative name lies where the name leads. -/
theorem fileIn?_of_isRelative (lib : Library) (folder : Path) (relative : IsRelative name) :
    lib.fileIn? folder name = lib.find? (folder.follow name) := by
  rw [fileIn?, Path.join_of_isRelative folder relative]
  rfl

/-- At the path of a file, the text of a stage is what the file is flattened to, if it has a line. -/
theorem isStageText_iff {path : Path} {file : SourceFile} (found : lib.find? path = some file) (text : Text) :
    lib.IsStageText markers path text ↔ file.lines ≠ [] ∧ (lib.flatten file).textWith markers = text := by
  simp [IsStageText, flattenAt, found]

/-- A stage is looked up as the text of its file. -/
theorem stageIn?_eq_some_iff (relative : IsRelative name) (text : Text) :
    lib.stageIn? markers folder name = some text ↔
      lib.IsStageText markers (folder.follow name) text := by
  rw [stageIn?, fileIn?_of_isRelative lib folder relative]
  cases found : lib.find? (folder.follow name) with
  | none => simp [IsStageText, found]
  | some file =>
    rw [isStageText_iff found, Option.bind_some, SourceFile.isEmpty]
    by_cases empty : file.lines = []
    · simp [empty]
    · simp [empty]

/-- A shader with content in both main stages is valid. -/
theorem isValid_of_isSubstantial {shader : Shader} (substantial : shader.isSubstantial = true) :
    shader.isValid = true := by
  rw [Shader.isSubstantial, Bool.and_eq_true] at substantial
  have vertex := Shader.ne_nil_of_hasContent substantial.1
  have pixel := Shader.ne_nil_of_hasContent substantial.2
  simp [Shader.isValid, vertex, pixel]

/-- With files for both main stages, a folder's offer is good if both have a line and the shader that is
assembled from them has content. -/
theorem shader?_offerIn? (relative : IsRelative name) {vertex pixel : SourceFile} {shader : Shader}
    (at_vertex : lib.find? (folder.follow (Stage.vertex.fileName name)) = some vertex)
    (at_pixel : lib.find? (folder.follow (Stage.pixel.fileName name)) = some pixel)
    (assembled : lib.assemble markers folder name ((lib.flatten vertex).textWith markers)
      ((lib.flatten pixel).textWith markers) = shader) :
    (lib.offerIn? markers name folder).bind Offer.shader? =
      if (vertex.isEmpty || pixel.isEmpty) = false ∧ shader.isSubstantial = true then some shader
      else none := by
  have vertexIn : lib.fileIn? folder (Stage.vertex.fileName name) = some vertex := by
    rw [fileIn?_of_isRelative lib folder (relative.fileName .vertex), at_vertex]
  have pixelIn : lib.fileIn? folder (Stage.pixel.fileName name) = some pixel := by
    rw [fileIn?_of_isRelative lib folder (relative.fileName .pixel), at_pixel]
  rw [offerIn?, vertexIn, pixelIn]
  simp only [Option.bind_eq_bind, Option.bind_some, assembled]
  -- the check for empty texts never decides: it passes whatever has content
  cases (vertex.isEmpty || pixel.isEmpty) with
  | true => rfl
  | false =>
    cases substantial : shader.isSubstantial with
    | true =>
      rw [isValid_of_isSubstantial substantial]
      rfl
    | false =>
      cases shader.isValid with
      | true => rfl
      | false => rfl

/-- What is assembled from the files of both main stages is the program as the folder has it. -/
theorem isAssembled_assemble (relative : IsRelative name) {vertex pixel : SourceFile}
    (at_vertex : lib.find? (folder.follow (Stage.vertex.fileName name)) = some vertex)
    (at_pixel : lib.find? (folder.follow (Stage.pixel.fileName name)) = some pixel)
    (vertex_filled : vertex.lines ≠ []) (pixel_filled : pixel.lines ≠ []) :
    lib.IsAssembled markers folder name (lib.assemble markers folder name
      ((lib.flatten vertex).textWith markers) ((lib.flatten pixel).textWith markers)) where
  name_eq := rfl
  stage := by
    intro stage text
    cases stage with
    | vertex => simp [isStageText_iff at_vertex, vertex_filled, assemble, Shader.stage?]
    | pixel => simp [isStageText_iff at_pixel, pixel_filled, assemble, Shader.stage?]
    | geometry => exact stageIn?_eq_some_iff (relative.fileName .geometry) text
    | hull => exact stageIn?_eq_some_iff (relative.fileName .hull) text
    | domain => exact stageIn?_eq_some_iff (relative.fileName .domain) text
    | compute => exact stageIn?_eq_some_iff (relative.fileName .compute) text
  variant := by
    intro letter text
    rw [← stageIn?_eq_some_iff ((relative.append _).fileName .compute), assemble, List.mem_filterMap]
    constructor
    · rintro ⟨other, listed, found⟩
      obtain ⟨other_text, at_letter, same⟩ := Option.map_eq_some_iff.1 found
      obtain ⟨rfl, rfl⟩ := Prod.mk.inj same
      exact ⟨listed, at_letter⟩
    · rintro ⟨listed, at_letter⟩
      exact ⟨letter, listed, by rw [at_letter, Option.map_some]⟩
  dispatched := by
    have letters := sublist_filterMap_keys id
      (fun letter => lib.stageIn? markers folder (Stage.compute.fileName (name ++ ['_', letter]))) passLetters
    rwa [List.map_id] at letters

/-- A good offer is assembled from files for both main stages, which have lines and content. -/
theorem exists_assemble_of_shader? (relative : IsRelative name) {shader : Shader}
    (offered : (lib.offerIn? markers name folder).bind Offer.shader? = some shader) :
    ∃ vertex pixel, lib.find? (folder.follow (Stage.vertex.fileName name)) = some vertex ∧
      lib.find? (folder.follow (Stage.pixel.fileName name)) = some pixel ∧ vertex.lines ≠ [] ∧ pixel.lines ≠ [] ∧
      shader.isSubstantial = true ∧ lib.assemble markers folder name ((lib.flatten vertex).textWith markers)
        ((lib.flatten pixel).textWith markers) = shader := by
  obtain ⟨offer, offers, _⟩ := Option.bind_eq_some_iff.1 offered
  rw [offerIn?] at offers
  obtain ⟨vertex, vertexIn, others⟩ := Option.bind_eq_some_iff.1 offers
  obtain ⟨pixel, pixelIn, _⟩ := Option.bind_eq_some_iff.1 others
  have at_vertex := (fileIn?_of_isRelative lib folder (relative.fileName .vertex)).symm.trans vertexIn
  have at_pixel := (fileIn?_of_isRelative lib folder (relative.fileName .pixel)).symm.trans pixelIn
  rw [shader?_offerIn? relative at_vertex at_pixel rfl] at offered
  split at offered
  · next good =>
    obtain rfl := Option.some.inj offered
    have filled : vertex.lines ≠ [] ∧ pixel.lines ≠ [] := by simpa [SourceFile.isEmpty] using good.1
    exact ⟨vertex, pixel, at_vertex, at_pixel, filled.1, filled.2, good.2, rfl⟩
  · cases offered

/-- A good offer is the program as the folder has it. -/
theorem isAssembled_of_shader? (relative : IsRelative name) {shader : Shader}
    (offered : (lib.offerIn? markers name folder).bind Offer.shader? = some shader) :
    lib.IsAssembled markers folder name shader := by
  obtain ⟨vertex, pixel, at_vertex, at_pixel, vertex_filled, pixel_filled, _, rfl⟩ :=
    exists_assemble_of_shader? relative offered
  exact isAssembled_assemble relative at_vertex at_pixel vertex_filled pixel_filled

/-- What is looked up for a name is what the first folder with a good offer offers. -/
theorem value_search (lib : Library) (markers : Bool) (folders : List Path) (name : Text) :
    (lib.search markers folders name).value =
      folders.findSome? fun folder => (lib.offerIn? markers name folder).bind Offer.shader? := by
  rw [search]
  induction folders with
  | nil => rfl
  | cons folder rest ih =>
    rw [offers, List.findSome?_cons]
    cases lib.offerIn? markers name folder with
    | none => exact ih
    | some offer =>
      dsimp only
      rw [List.findSome?_cons, Option.bind_some]
      -- the offers end with the first good one, and nothing behind it is looked at
      cases good : offer.shader? with
      | none => exact ih
      | some shader => rfl

/-- What is looked up is a good offer of one of the folders. -/
theorem exists_shader?_of_search {shader : Shader}
    (found : (lib.search markers folders name).value = some shader) :
    ∃ folder ∈ folders, (lib.offerIn? markers name folder).bind Offer.shader? = some shader := by
  rw [value_search] at found
  exact List.exists_of_findSome?_eq_some found

/-- What is looked up has the name that it is looked up by, and content in both main stages. -/
theorem isSubstantial_of_search (relative : IsRelative name) {shader : Shader}
    (found : (lib.search markers folders name).value = some shader) :
    shader.name = name ∧ shader.isSubstantial = true := by
  obtain ⟨folder, _, offered⟩ := exists_shader?_of_search found
  obtain ⟨_, _, _, _, _, _, substantial, _⟩ := exists_assemble_of_shader? relative offered
  exact ⟨(isAssembled_of_shader? relative offered).name_eq, substantial⟩

section Lookup

variable (unbroken : lib.IsUnbroken) (written : ∀ p ∈ lib.paths, '\n' ∉ p.text)
variable (relative : IsRelative name)

include unbroken

/-- A usable folder has a good offer. -/
theorem shader?_offerIn?_of_isUsable (relative : IsRelative name) (markers : Bool)
    (usable : lib.IsUsable name folder) :
    ∃ shader, (lib.offerIn? markers name folder).bind Offer.shader? = some shader := by
  obtain ⟨vertex, at_vertex⟩ := mem_paths_iff.1 usable.1.1
  obtain ⟨pixel, at_pixel⟩ := mem_paths_iff.1 usable.2.1
  have vertex_filled := lines_ne_nil_of_isLive at_vertex usable.1
  have pixel_filled := lines_ne_nil_of_isLive at_pixel usable.2
  have vertex_content := hasContent_textWith_of_isLive unbroken at_vertex markers usable.1
  have pixel_content := hasContent_textWith_of_isLive unbroken at_pixel markers usable.2
  have substantial : (lib.assemble markers folder name ((lib.flatten vertex).textWith markers)
      ((lib.flatten pixel).textWith markers)).isSubstantial = true :=
    Bool.and_eq_true_iff.2 ⟨vertex_content, pixel_content⟩
  rw [shader?_offerIn? relative at_vertex at_pixel rfl, if_pos]
  · exact ⟨_, rfl⟩
  · simp [SourceFile.isEmpty, vertex_filled, pixel_filled, substantial]

/-- If the first folder is usable, what is found is the program as that folder has it. -/
theorem exists_search_of_isUsable (relative : IsRelative name) (markers : Bool) (behind : List Path)
    (usable : lib.IsUsable name folder) :
    ∃ shader, (lib.search markers (folder :: behind) name).value = some shader ∧
      lib.IsAssembled markers folder name shader := by
  obtain ⟨shader, offered⟩ := shader?_offerIn?_of_isUsable unbroken relative markers usable
  refine ⟨shader, ?_, isAssembled_of_shader? relative offered⟩
  rw [value_search, List.findSome?_cons, offered]

include written

/-- A shader that is assembled has content exactly if the folder is usable. -/
theorem isSubstantial_assemble_iff (markers : Bool) {vertex pixel : SourceFile}
    (at_vertex : lib.find? (folder.follow (Stage.vertex.fileName name)) = some vertex)
    (at_pixel : lib.find? (folder.follow (Stage.pixel.fileName name)) = some pixel) :
    (lib.assemble markers folder name ((lib.flatten vertex).textWith markers)
      ((lib.flatten pixel).textWith markers)).isSubstantial = true ↔ lib.IsUsable name folder := by
  rw [Shader.isSubstantial, Bool.and_eq_true, IsUsable,
    ← hasContent_textWith unbroken written at_vertex markers,
    ← hasContent_textWith unbroken written at_pixel markers]
  rfl

include relative

/-- Any other folder offers nothing. -/
theorem shader?_offerIn?_of_not_isUsable (markers : Bool) (unusable : ¬ lib.IsUsable name folder) :
    (lib.offerIn? markers name folder).bind Offer.shader? = none := by
  cases at_vertex : lib.find? (folder.follow (Stage.vertex.fileName name)) with
  | none =>
    have missing : lib.fileIn? folder (Stage.vertex.fileName name) = none := by
      rw [fileIn?_of_isRelative lib folder (relative.fileName .vertex), at_vertex]
    rw [offerIn?, missing]
    rfl
  | some vertex =>
    cases at_pixel : lib.find? (folder.follow (Stage.pixel.fileName name)) with
    | none =>
      have missing : lib.fileIn? folder (Stage.pixel.fileName name) = none := by
        rw [fileIn?_of_isRelative lib folder (relative.fileName .pixel), at_pixel]
      rw [offerIn?, missing]
      cases lib.fileIn? folder (Stage.vertex.fileName name) with
      | none => rfl
      | some _ => rfl
    | some pixel =>
      rw [shader?_offerIn? relative at_vertex at_pixel rfl, if_neg]
      rintro ⟨_, substantial⟩
      exact unusable ((isSubstantial_assemble_iff unbroken written markers at_vertex at_pixel).1 substantial)

/-- Only a usable folder has a good offer, and what it offers is the program as it has it. -/
theorem isAssembled_of_offerIn? {shader : Shader}
    (offered : (lib.offerIn? markers name folder).bind Offer.shader? = some shader) :
    lib.IsUsable name folder ∧ lib.IsAssembled markers folder name shader := by
  refine ⟨?_, isAssembled_of_shader? relative offered⟩
  by_contra unusable
  rw [shader?_offerIn?_of_not_isUsable unbroken written relative markers unusable] at offered
  contradiction

/-- Looking a name up provides the program that the first usable folder has. -/
theorem provides_search (folders : List Path) :
    lib.Provides markers folders name (lib.search markers folders name).value where
  isSome_iff := by
    rw [value_search, List.findSome?_isSome_iff]
    constructor
    · rintro ⟨folder, listed, good⟩
      obtain ⟨shader, offered⟩ := Option.isSome_iff_exists.1 good
      exact ⟨folder, listed, (isAssembled_of_offerIn? unbroken written relative offered).1⟩
    · rintro ⟨folder, listed, usable⟩
      obtain ⟨shader, offered⟩ := shader?_offerIn?_of_isUsable unbroken relative markers usable
      exact ⟨folder, listed, Option.isSome_iff_exists.2 ⟨shader, offered⟩⟩
  first := by
    intro shader found
    rw [value_search, List.findSome?_eq_some_iff] at found
    obtain ⟨before, folder, behind, listed, offered, passed⟩ := found
    refine ⟨before, folder, behind, listed, ?_, isAssembled_of_offerIn? unbroken written relative offered⟩
    intro other ahead usable
    obtain ⟨earlier, at_other⟩ := shader?_offerIn?_of_isUsable unbroken relative markers usable
    rw [passed other ahead] at at_other
    contradiction

/-- A folder that is not usable may stand anywhere in the list. -/
theorem value_search_insert (before behind : List Path) (unusable : ¬ lib.IsUsable name folder) :
    (lib.search markers (before ++ folder :: behind) name).value =
      (lib.search markers (before ++ behind) name).value := by
  have nothing := shader?_offerIn?_of_not_isUsable unbroken written relative markers unusable
  rw [value_search, value_search, List.findSome?_append, List.findSome?_append, List.findSome?_cons, nothing]

end Lookup

end Library

end ShaderBundle
