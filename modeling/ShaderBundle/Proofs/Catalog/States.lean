import ShaderBundle.Proofs.Catalog.Outline
import ShaderBundle.Proofs.Flat.Directives
/-!
# Markers and rendering states

A shader asks for the same rendering state with markers as without, as long as no directive of its two main
stages is interrupted by a marker. An include in the middle of a directive does interrupt it, even an include
that stands for nothing, and the name of a file can itself read as a directive.
-/

namespace ShaderBundle

namespace Library

variable {lib : Library} {markers : Bool} {folder path : Path} {name : Text}

/-- No directive in the file at the path is interrupted by a marker. -/
def IsUninterruptedAt (lib : Library) (path : Path) : Prop :=
  ∀ source, lib.flattenAt path = .ok source → source.IsUninterrupted

/-- The texts of a stage, with markers and without, have the same directives if none is interrupted. -/
theorem scan_eq_of_isStageText {marked plain : Text} (uninterrupted : lib.IsUninterruptedAt path)
    (at_marked : lib.IsStageText true path marked) (at_plain : lib.IsStageText false path plain) :
    Comment.scan marked = Comment.scan plain := by
  obtain ⟨file, found, _⟩ := at_marked.1
  have flattened : lib.flattenAt path = .ok (lib.flatten file) := by rw [flattenAt, found]
  obtain ⟨_, rfl⟩ := (isStageText_iff found marked).1 at_marked
  obtain ⟨_, rfl⟩ := (isStageText_iff found plain).1 at_plain
  exact scan_markedText_flatten found (uninterrupted _ flattened)

/-- What a folder has for a program asks for one rendering state, with markers and without, if no directive
of its main stages is interrupted. -/
theorem state_eq_of_isAssembled {marked plain : Shader}
    (vertex : lib.IsUninterruptedAt (folder.follow (Stage.vertex.fileName name)))
    (pixel : lib.IsUninterruptedAt (folder.follow (Stage.pixel.fileName name)))
    (with_markers : lib.IsAssembled true folder name marked)
    (without : lib.IsAssembled false folder name plain) : marked.state = plain.state := by
  have vertices : Comment.scan marked.vertex = Comment.scan plain.vertex :=
    scan_eq_of_isStageText vertex ((with_markers.stage .vertex _).1 rfl) ((without.stage .vertex _).1 rfl)
  have pixels : Comment.scan marked.pixel = Comment.scan plain.pixel :=
    scan_eq_of_isStageText pixel ((with_markers.stage .pixel _).1 rfl) ((without.stage .pixel _).1 rfl)
  have comments : RenderState.comments [marked.vertex, marked.pixel] =
      RenderState.comments [plain.vertex, plain.pixel] := by
    simp only [RenderState.comments, List.flatMap_cons, vertices, pixels]
  rw [Shader.state, Shader.state, RenderState.ofSources, RenderState.ofSources, comments]

/-- Where a folder provides a name, it has a good offer, which is what is looked up. -/
theorem exists_value_search (relative : IsRelative name) {folders : List Path}
    (provides : lib.provider? markers folders name = some folder) :
    ∃ shader, (lib.search markers folders name).value = some shader ∧
      lib.IsAssembled markers folder name shader := by
  rw [value_search_eq_bind_provider?, provides, Option.bind_some]
  rw [provider?_eq, List.findSome?_eq_some_iff] at provides
  obtain ⟨_, other, _, _, offered, _⟩ := provides
  obtain ⟨shader, good, rfl⟩ := Option.map_eq_some_iff.1 offered
  exact ⟨shader, good, isAssembled_of_shader? relative good⟩

/-- What a single folder has for a name asks for what the texts of its main stages ask for. -/
theorem map_state_value_search (relative : IsRelative name) {vertex pixel : SourceFile} {vertices pixels : Text}
    (at_vertex : lib.find? (folder.follow (Stage.vertex.fileName name)) = some vertex)
    (at_pixel : lib.find? (folder.follow (Stage.pixel.fileName name)) = some pixel)
    (filled : (vertex.isEmpty || pixel.isEmpty) = false)
    (vertex_text : (lib.flatten vertex).textWith markers = vertices)
    (pixel_text : (lib.flatten pixel).textWith markers = pixels)
    (content : Shader.hasContent vertices = true ∧ Shader.hasContent pixels = true) :
    ((lib.search markers [folder] name).value).map Shader.state =
      some (RenderState.ofSources [vertices, pixels]) := by
  have substantial : (lib.assemble markers folder name vertices pixels).isSubstantial = true := by
    rw [Shader.isSubstantial, Bool.and_eq_true]
    exact content
  have offered := @shader?_offerIn? lib markers folder name relative vertex pixel _ at_vertex at_pixel rfl
  rw [vertex_text, pixel_text, if_pos ⟨filled, substantial⟩] at offered
  rw [value_search, List.findSome?_cons, offered]
  rfl

/-- If one folder provides a name with markers and without, and no directive of its two main stages is
interrupted there, then something is found in both cases and asks for the same rendering state. -/
def KeepsState (lib : Library) (folders : List Path) (name : Text) (marked? plain? : Option Shader) : Prop :=
  ∀ folder, lib.provider? true folders name = some folder → lib.provider? false folders name = some folder →
    lib.IsUninterruptedAt (folder.follow (Stage.vertex.fileName name)) →
    lib.IsUninterruptedAt (folder.follow (Stage.pixel.fileName name)) →
    ∃ marked plain, marked? = some marked ∧ plain? = some plain ∧ marked.state = plain.state

/-- What is looked up for a name keeps its state. -/
theorem keepsState_search (relative : IsRelative name) (folders : List Path) :
    lib.KeepsState folders name (lib.search true folders name).value
      (lib.search false folders name).value := by
  intro folder provides provides' vertex pixel
  obtain ⟨marked, found, with_markers⟩ := exists_value_search relative provides
  obtain ⟨plain, found', without⟩ := exists_value_search relative provides'
  exact ⟨marked, plain, found, found', state_eq_of_isAssembled vertex pixel with_markers without⟩

end Library

namespace Catalog

/-- Programs and slots that come from one folder keep their rendering states, unless a directive is
interrupted. -/
structure KeepsStates (lib : Library) (folders : List Path) (marked plain : Catalog) : Prop where
  /-- A program keeps its state. -/
  program : ∀ p : Program, lib.KeepsState folders p.stem (marked.get? p) (plain.get? p)
  /-- A slot keeps its state. -/
  pass : ∀ (array : PassArray) slot name, array.slotName? slot = some name →
    lib.KeepsState folders name (marked.getPass? array slot) (plain.getPass? array slot)
  /-- What has a line feed in no line and no path comes from one folder. -/
  oneFolder : lib.IsUnbroken → (∀ p ∈ lib.paths, '\n' ∉ p.text) → ∀ name, IsRelative name →
    lib.provider? true folders name = lib.provider? false folders name

/-- A program or slot that a catalog takes from one folder, whether it is loaded with markers or without,
asks for the same rendering state in both cases, if no directive of its two main stages is interrupted. -/
theorem load_keepsStates (lib : Library) (dimension : Text) (folders : List Path) :
    KeepsStates lib folders (load dimension lib folders true).value
      (load dimension lib folders false).value where
  program p := by
    rw [get?_load, get?_load]
    exact Library.keepsState_search p.isRelative_stem folders
  pass array slot name named := by
    rw [getPass?_load, getPass?_load, named]
    exact Library.keepsState_search (PassArray.isRelative_slotName named) folders
  oneFolder unbroken written _ relative := Library.provider?_true_eq unbroken written relative folders

/-- A library of a program whose pixel stage includes a file before it has a directive. -/
def directed : Library :=
  let place (name : String) : Path := Path.root.follow name.toList
  { files := [
      ⟨place "final.vs.hlsl", [⟨['v'], none⟩]⟩,
      ⟨place "final.ps.hlsl", [⟨"#include \"c\"".toList, some (place "c")⟩, ⟨"/* BLEND:off */".toList, none⟩]⟩,
      ⟨place "c", [⟨['x'], none⟩]⟩]
    failures := [] }

/-- In this library a marker stands before the directive, and the state is the same with it and without. -/
theorem load_keepsStates_directed :
    ∃ marked plain, (load ['w'] directed [Path.root] true).value.get? .final = some marked ∧
      (load ['w'] directed [Path.root] false).value.get? .final = some plain ∧
      marked.state = plain.state := by
  have provides (markers : Bool) :
      directed.provider? markers [Path.root] Program.final.stem = some Path.root := by
    cases markers <;> cbv
  have vertex : directed.IsUninterruptedAt (Path.root.follow (Stage.vertex.fileName Program.final.stem)) := by
    have evaluated : directed.flattenAt (Path.root.follow (Stage.vertex.fileName Program.final.stem)) =
        .ok ⟨Path.root.follow "final.vs.hlsl".toList,
          [] ++ [⟨Path.root.follow "final.vs.hlsl".toList, 0, [['v']]⟩]⟩ := by
      cbv
    intro source flattened
    obtain rfl := Except.ok.inj (evaluated.symm.trans flattened)
    exact FlatSource.isUninterrupted_of_last (by decide +kernel) (by decide +kernel)
  have pixel : directed.IsUninterruptedAt (Path.root.follow (Stage.pixel.fileName Program.final.stem)) := by
    have evaluated : directed.flattenAt (Path.root.follow (Stage.pixel.fileName Program.final.stem)) =
        .ok ⟨Path.root.follow "final.ps.hlsl".toList, [⟨Path.root.follow ['c'], 0, [['x']]⟩] ++
          [⟨Path.root.follow "final.ps.hlsl".toList, 1, ["/* BLEND:off */".toList]⟩]⟩ := by
      cbv
    intro source flattened
    obtain rfl := Except.ok.inj (evaluated.symm.trans flattened)
    exact FlatSource.isUninterrupted_of_last (by decide +kernel) (by decide +kernel)
  exact (load_keepsStates directed ['w'] [Path.root]).program .final Path.root (provides true) (provides false)
    vertex pixel

/-- A reader of two programs. One has an include of an empty file in the middle of a directive; the other
includes a file whose name reads as a directive. -/
def interrupted : Reader :=
  let place (name : String) : Path := Path.root.follow name.toList
  Reader.ofTable
    [(place "final.vs.hlsl", .ok [['v']]),
      (place "final.ps.hlsl", .ok ["/* BLEND:".toList, "#include \"c\"".toList, "off */".toList]),
      (place "c", .ok []),
      (place "shadow.vs.hlsl", .ok [['v']]),
      (place "shadow.ps.hlsl", .ok ["#include \"a/* BLEND:off */b\"".toList]),
      (place "a/* BLEND:off */b", .ok [['x']])]
    fun _ => "no such file"

/-- The library of those two programs. -/
def interruptedLibrary : Library :=
  let place (name : String) : Path := Path.root.follow name.toList
  { files := [
      ⟨place "final.vs.hlsl", [⟨['v'], none⟩]⟩,
      ⟨place "final.ps.hlsl",
        [⟨"/* BLEND:".toList, none⟩, ⟨"#include \"c\"".toList, some (place "c")⟩, ⟨"off */".toList, none⟩]⟩,
      ⟨place "shadow.vs.hlsl", [⟨['v'], none⟩]⟩,
      ⟨place "shadow.ps.hlsl",
        [⟨"#include \"a/* BLEND:off */b\"".toList, some (place "a/* BLEND:off */b")⟩]⟩,
      ⟨place "c", []⟩,
      ⟨place "a/* BLEND:off */b", [⟨['x'], none⟩]⟩]
    failures := [] }

/-- Markers may take a directive away, and may bring one. -/
theorem load_state_interrupted :
    Library.build interrupted (["final.vs.hlsl", "final.ps.hlsl", "shadow.vs.hlsl", "shadow.ps.hlsl"].map
        fun name => Path.root.follow name.toList) = .ok interruptedLibrary ∧
      interruptedLibrary.IsUnbroken ∧
      ((load ['w'] interruptedLibrary [Path.root] false).value.get? .final).map Shader.state =
        some { blend? := some .off } ∧
      ((load ['w'] interruptedLibrary [Path.root] true).value.get? .final).map Shader.state = some {} ∧
      ((load ['w'] interruptedLibrary [Path.root] false).value.get? .shadow).map Shader.state = some {} ∧
      ((load ['w'] interruptedLibrary [Path.root] true).value.get? .shadow).map Shader.state =
        some { blend? := some .off } := by
  have built : Library.build interrupted
      (["final.vs.hlsl", "final.ps.hlsl", "shadow.vs.hlsl", "shadow.ps.hlsl"].map
        fun name => Path.root.follow name.toList) = .ok interruptedLibrary := by
    cbv
  have unbroken : interruptedLibrary.IsUnbroken := by
    unfold Library.IsUnbroken
    decide +kernel
  have whole : RenderState.ofSources ["v\n".toList, "/* BLEND:\noff */\n".toList] = { blend? := some .off } := by
    decide +kernel
  -- with its marker, the value of the directive is two lines long
  have torn : RenderState.ofSources
      ["v\n".toList, "/* BLEND:\n#line 3 \"/final.ps.hlsl\"\noff */\n".toList] = {} := by
    decide +kernel
  have bare : RenderState.ofSources ["v\n".toList, "x\n".toList] = {} := by
    decide +kernel
  -- the marker names the included file, and the directive is in the name
  have named : RenderState.ofSources
      ["v\n".toList, "#line 1 \"/a/* BLEND:off */b\"\nx\n".toList] = { blend? := some .off } := by
    decide +kernel
  refine ⟨built, unbroken, ?_, ?_, ?_, ?_⟩
  · rw [get?_load, ← whole]
    exact Library.map_state_value_search Program.final.isRelative_stem rfl rfl rfl (by cbv) (by cbv) (by cbv)
  · rw [get?_load, ← torn]
    exact Library.map_state_value_search Program.final.isRelative_stem rfl rfl rfl (by cbv) (by cbv) (by cbv)
  · rw [get?_load, ← bare]
    exact Library.map_state_value_search Program.shadow.isRelative_stem rfl rfl rfl (by cbv) (by cbv) (by cbv)
  · rw [get?_load, ← named]
    exact Library.map_state_value_search Program.shadow.isRelative_stem rfl rfl rfl (by cbv) (by cbv) (by cbv)

end Catalog

end ShaderBundle
