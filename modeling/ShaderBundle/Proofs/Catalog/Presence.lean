import ShaderBundle.Proofs.Catalog.Views
/-!
# Stages without text

Both main stages of a shader have text, for its folder would not be usable without. Of the other stages and
the lettered compute passes it is only asked that their files have a line, before anything is included. Such a
stage has text exactly if a file that is reached from its own keeps a line; if all that its lines do is include
what is empty, then it is there and counted, with no text.
-/

namespace ShaderBundle

/-- Whatever stage and pass the shader has, it has a text for it. -/
structure Shader.IsFilled (s : Shader) : Prop where
  /-- The text of a stage is not empty. -/
  stage : ∀ stage text, s.stage? stage = some text → text ≠ []
  /-- Nor is the text of a lettered compute pass. -/
  variant : ∀ letter text, (letter, text) ∈ s.variants → text ≠ []

namespace Library

variable {lib : Library} {markers : Bool} {folder path : Path} {name : Text} {file : SourceFile}

/-- At the path there is a file with a line. -/
def HasLine (lib : Library) (path : Path) : Prop := ∃ file, lib.find? path = some file ∧ file.lines ≠ []

/-- A file that is reached from the path keeps a line. -/
def KeepsLine (lib : Library) (path : Path) : Prop :=
  ∃ f file line, lib.Reaches path f ∧ lib.find? f = some file ∧ line ∈ file.lines ∧ lib.IsKept line

/-- Flattening yields a line if one is kept. -/
theorem expand_ne_nil_iff (found : lib.find? path = some file) :
    lib.expand file ≠ [] ↔ lib.KeepsLine path := by
  have kept := exists_mem_expand_iff found fun _ => True
  simp only [and_true] at kept
  rw [KeepsLine, ← kept]
  exact ⟨List.exists_mem_of_ne_nil _, fun ⟨l, yielded⟩ => List.ne_nil_of_mem yielded⟩

/-- Markers are written for stretches alone, so where no line is yielded there is none. -/
theorem markedLines_eq_nil_iff (lib : Library) (file : SourceFile) :
    (lib.flatten file).markedLines = [] ↔ lib.expand file = [] := by
  constructor
  · intro nothing
    have lineless : (Stretch.ofLines (lib.expand file)).flatMap Stretch.lines = [] := by
      refine List.flatMap_eq_nil_iff.2 fun s made => ?_
      have unmarked : s.markedLines file.path = [] := List.flatMap_eq_nil_iff.1 nothing s made
      rw [Stretch.markedLines] at unmarked
      split at unmarked
      · exact unmarked
      · cases unmarked
    rw [Stretch.flatMap_lines_ofLines] at lineless
    exact List.map_eq_nil_iff.1 lineless
  · intro nothing
    rw [FlatSource.markedLines, flatten, nothing]
    rfl

/-- With markers or without, a flattened file has text if a line is kept. -/
theorem textWith_ne_nil_iff (found : lib.find? path = some file) (markers : Bool) :
    (lib.flatten file).textWith markers ≠ [] ↔ lib.KeepsLine path := by
  rw [← expand_ne_nil_iff found, FlatSource.textWith]
  cases markers with
  | false =>
    rw [if_neg Bool.false_ne_true, text_flatten_eq_unlines, Ne, Text.unlines_eq_nil_iff, List.map_eq_nil_iff]
  | true =>
    rw [if_pos rfl, FlatSource.markedText_eq_unlines, Ne, Text.unlines_eq_nil_iff, markedLines_eq_nil_iff]

/-- A stage that is there has text if a line is kept. -/
theorem IsStageText.ne_nil_iff {text : Text} (stands : lib.IsStageText markers path text) :
    text ≠ [] ↔ lib.KeepsLine path := by
  obtain ⟨file, found, _⟩ := stands.1
  obtain ⟨_, rfl⟩ := (isStageText_iff found text).1 stands
  exact textWith_ne_nil_iff found markers

/-- There is a text for a stage if its file has a line, whether or not a line is kept. -/
theorem exists_isStageText_iff (lib : Library) (markers : Bool) (path : Path) :
    (∃ text, lib.IsStageText markers path text) ↔ lib.HasLine path := by
  constructor
  · rintro ⟨_, hasLine, _⟩
    exact hasLine
  · rintro ⟨file, found, hasLine⟩
    exact ⟨_, (isStageText_iff found _).2 ⟨hasLine, rfl⟩⟩

/-- Which stages a shader has that a folder provides for a name, and which of their texts are empty. -/
structure IsTexted (lib : Library) (folder : Path) (name : Text) (shader : Shader) : Prop where
  /-- Both main stages have text. -/
  main : shader.vertex ≠ [] ∧ shader.pixel ≠ []
  /-- A stage is there if the folder's file for it has a line. -/
  stage_present : ∀ stage, (∃ text, shader.stage? stage = some text) ↔
    lib.HasLine (folder.follow (Stage.fileName stage name))
  /-- It has text if a line is kept that is reached from that file. -/
  stage_filled : ∀ stage text, shader.stage? stage = some text →
    (text ≠ [] ↔ lib.KeepsLine (folder.follow (Stage.fileName stage name)))
  /-- A lettered compute pass is there if the folder's file for it has a line. -/
  variant_present : ∀ letter, (∃ text, (letter, text) ∈ shader.variants) ↔ letter ∈ passLetters ∧
    lib.HasLine (folder.follow (Stage.compute.fileName (name ++ ['_', letter])))
  /-- It has text if a line is kept that is reached from that file. -/
  variant_filled : ∀ letter text, (letter, text) ∈ shader.variants →
    (text ≠ [] ↔ lib.KeepsLine (folder.follow (Stage.compute.fileName (name ++ ['_', letter]))))

/-- A good offer has text for both main stages, and for the others where lines are kept. -/
theorem isTexted_of_shader? (relative : IsRelative name) {shader : Shader}
    (offered : (lib.offerIn? markers name folder).bind Offer.shader? = some shader) :
    lib.IsTexted folder name shader := by
  obtain ⟨_, _, _, _, _, _, substantial, _⟩ := exists_assemble_of_shader? relative offered
  have assembled := isAssembled_of_shader? relative offered
  constructor
  case main =>
    rw [Shader.isSubstantial, Bool.and_eq_true] at substantial
    exact ⟨Shader.ne_nil_of_hasContent substantial.1, Shader.ne_nil_of_hasContent substantial.2⟩
  case stage_present =>
    intro stage
    simp only [assembled.stage, exists_isStageText_iff]
  case stage_filled =>
    intro stage text present
    exact ((assembled.stage stage text).1 present).ne_nil_iff
  case variant_present =>
    intro letter
    simp only [assembled.variant, exists_and_left, exists_isStageText_iff]
  case variant_filled =>
    intro letter text listed
    exact ((assembled.variant letter text).1 listed).2.ne_nil_iff

/-- Where every file with a line reaches one that is kept, what a folder provides has all its texts. -/
theorem IsAssembled.isFilled {shader : Shader} (assembled : lib.IsAssembled markers folder name shader)
    (keeps : ∀ path, lib.HasLine path → lib.KeepsLine path) : shader.IsFilled := by
  have filled {path : Path} {text : Text} (stands : lib.IsStageText markers path text) : text ≠ [] :=
    stands.ne_nil_iff.2 (keeps path stands.1)
  constructor
  case stage =>
    intro stage text present
    exact filled ((assembled.stage stage text).1 present)
  case variant =>
    intro letter text listed
    exact filled ((assembled.variant letter text).1 listed).2

end Library

namespace Catalog

variable {lib : Library} {markers : Bool} {folders : List Path} {shader : Shader}

/-- Which texts are empty in a catalog. -/
structure IsTexted (c : Catalog) (lib : Library) (folders : List Path) : Prop where
  /-- The texts of a program are those of a folder. -/
  program : ∀ p shader, (p, shader) ∈ c.programs → ∃ folder ∈ folders, lib.IsTexted folder p.stem shader
  /-- So are those of a slot. -/
  pass : ∀ array slot shader, ((array, slot), shader) ∈ c.passes →
    ∃ name, PassArray.slotName? array slot = some name ∧ ∃ folder ∈ folders, lib.IsTexted folder name shader
  /-- No text is empty if every file with a line reaches one that is kept. -/
  filled : (∀ path, lib.HasLine path → lib.KeepsLine path) → ∀ shader ∈ c.shaders, shader.IsFilled

/-- In every catalog that is loaded, both main stages have text, and any other stage or pass has text exactly
if a file that is reached from its own keeps a line. -/
theorem load_isTexted (lib : Library) (dimension : Text) (folders : List Path) (markers : Bool) :
    (load dimension lib folders markers).value.IsTexted lib folders := by
  have keyed := load_isKeyed dimension lib folders markers
  have pass {array : PassArray} {slot : Nat} {shader : Shader}
      (found : (load dimension lib folders markers).value.getPass? array slot = some shader) :
      ∃ name, array.slotName? slot = some name ∧ (lib.search markers folders name).value = some shader := by
    rw [getPass?_load] at found
    exact Option.bind_eq_some_iff.1 found
  constructor
  case program =>
    intro p shader listed
    have found := keyed.mem_programs_iff.1 listed
    rw [get?_load] at found
    obtain ⟨folder, here, offered⟩ := Library.exists_shader?_of_search found
    exact ⟨folder, here, Library.isTexted_of_shader? p.isRelative_stem offered⟩
  case pass =>
    intro array slot shader listed
    obtain ⟨name, named, found⟩ := pass (mem_passes_iff.1 listed)
    obtain ⟨folder, here, offered⟩ := Library.exists_shader?_of_search found
    exact ⟨name, named, folder, here, Library.isTexted_of_shader? (PassArray.isRelative_slotName named) offered⟩
  case filled =>
    intro keeps shader listed
    have looked : ∃ name, IsRelative name ∧ (lib.search markers folders name).value = some shader := by
      rcases keyed.mem_shaders_iff.1 listed with ⟨p, single⟩ | ⟨array, slot, filled⟩
      · rw [get?_load] at single
        exact ⟨p.stem, p.isRelative_stem, single⟩
      · obtain ⟨name, named, found⟩ := pass filled
        exact ⟨name, PassArray.isRelative_slotName named, found⟩
    obtain ⟨name, relative, found⟩ := looked
    obtain ⟨folder, _, offered⟩ := Library.exists_shader?_of_search found
    exact (Library.isAssembled_of_shader? relative offered).isFilled keeps

/-- A geometry stage is counted where one is there, with text or without. -/
theorem withGeometry_pos_iff {c : Catalog} :
    0 < c.census.withGeometry ↔ ∃ shader ∈ c.shaders, shader.hasGeometry = true :=
  List.countP_pos_iff

/-- A reader of a program whose geometry stage only includes an empty file. -/
def hollow : Reader :=
  let place (name : String) : Path := Path.root.follow name.toList
  Reader.ofTable
    [(place "final.vs.hlsl", .ok [['v']]),
      (place "final.ps.hlsl", .ok [['p']]),
      (place "final.gs.hlsl", .ok ["#include \"c\"".toList]),
      (place "c", .ok [])]
    fun _ => "no such file"

/-- The library of that program. -/
def hollowLibrary : Library :=
  let place (name : String) : Path := Path.root.follow name.toList
  { files := [
      ⟨place "final.vs.hlsl", [⟨['v'], none⟩]⟩,
      ⟨place "final.ps.hlsl", [⟨['p'], none⟩]⟩,
      ⟨place "final.gs.hlsl", [⟨"#include \"c\"".toList, some (place "c")⟩]⟩,
      ⟨place "c", []⟩]
    failures := [] }

/-- A geometry stage without text is there, and is counted. -/
theorem load_geometry_hollow :
    Library.build hollow (["final.vs.hlsl", "final.ps.hlsl", "final.gs.hlsl"].map
        fun name => Path.root.follow name.toList) = .ok hollowLibrary ∧
      ∀ markers, ∃ shader, (load ['w'] hollowLibrary [Path.root] markers).value.get? .final = some shader ∧
        shader.geometry? = some [] ∧ shader.hasGeometry = true ∧
        0 < (load ['w'] hollowLibrary [Path.root] markers).value.census.withGeometry := by
  have built : Library.build hollow (["final.vs.hlsl", "final.ps.hlsl", "final.gs.hlsl"].map
      fun name => Path.root.follow name.toList) = .ok hollowLibrary := by
    cbv
  have vertex : hollowLibrary.IsLive (Path.root.follow (Stage.vertex.fileName Program.final.stem)) := by
    have found : hollowLibrary.find? (Path.root.follow (Stage.vertex.fileName Program.final.stem)) =
        some ⟨Path.root.follow "final.vs.hlsl".toList, [⟨['v'], none⟩]⟩ := by cbv
    exact (Library.any_isContent_expand found).1 (by cbv)
  have pixel : hollowLibrary.IsLive (Path.root.follow (Stage.pixel.fileName Program.final.stem)) := by
    have found : hollowLibrary.find? (Path.root.follow (Stage.pixel.fileName Program.final.stem)) =
        some ⟨Path.root.follow "final.ps.hlsl".toList, [⟨['p'], none⟩]⟩ := by cbv
    exact (Library.any_isContent_expand found).1 (by cbv)
  have unbroken : hollowLibrary.IsUnbroken := by
    unfold Library.IsUnbroken
    decide +kernel
  refine ⟨built, fun markers => ?_⟩
  obtain ⟨shader, offered⟩ :=
    Library.shader?_offerIn?_of_isUsable unbroken Program.final.isRelative_stem markers ⟨vertex, pixel⟩
  have assembled := Library.isAssembled_of_shader? Program.final.isRelative_stem offered
  have found : (load ['w'] hollowLibrary [Path.root] markers).value.get? .final = some shader := by
    rw [get?_load, Library.value_search, List.findSome?_cons, offered]
  have geometry : shader.geometry? = some [] := by
    have included : hollowLibrary.find? (Path.root.follow (Stage.geometry.fileName Program.final.stem)) =
        some ⟨Path.root.follow "final.gs.hlsl".toList,
          [⟨"#include \"c\"".toList, some (Path.root.follow ['c'])⟩]⟩ := by cbv
    refine (assembled.stage .geometry []).2 ((Library.isStageText_iff included []).2 ⟨List.cons_ne_nil _ _, ?_⟩)
    cases markers with
    | false => cbv
    | true => cbv
  have present : shader.hasGeometry = true := by rw [Shader.hasGeometry, geometry]; rfl
  have held : shader ∈ (load ['w'] hollowLibrary [Path.root] markers).value.shaders :=
    (load_isKeyed _ _ _ _).mem_shaders_iff.2 (Or.inl ⟨.final, found⟩)
  exact ⟨shader, found, geometry, present, withGeometry_pos_iff.2 ⟨shader, held, present⟩⟩

end Catalog

end ShaderBundle
