import ShaderBundle.Proofs.Catalog.Load
import ShaderBundle.Proofs.Flat.Locality
/-!
# What a catalog depends on

A catalog looks at the stage files of its folders, at what flattening these leads to, and at nothing else of
a library. Two libraries that have the same there come to the same catalog, and to the same records of the
work on it.
-/

namespace ShaderBundle

namespace Stage

/-- The name of a program's file can name a file, if no slash stands in the program's name. -/
theorem isSegment_fileName (stage : Stage) {stem : Text} (plain : '/' ∉ stem) :
    IsSegment (stage.fileName stem) := by
  have long : (stage.fileName stem).length = stem.length + 8 := by
    cases stage <;> exact List.length_append
  have noSlash : '/' ∉ stage.ending := by cases stage <;> decide
  have differs (t : Text) (short : t.length < 8) : stage.fileName stem ≠ t := by
    intro same
    rw [same] at long
    omega
  have noSlash' : '/' ∉ stage.fileName stem := by
    rw [fileName, List.mem_append]
    exact not_or.2 ⟨plain, noSlash⟩
  exact ⟨differs [] (by decide), differs ['.'] (by decide), differs ['.', '.'] (by decide), noSlash'⟩

/-- The name of a program's file is that of a stage file. -/
theorem isSome_ofFileName?_fileName (stage : Stage) (stem : Text) :
    (ofFileName? (stage.fileName stem)).isSome = true := by
  have listed : stage ∈ all := by cases stage <;> decide
  have ends : stage.ending.isSuffixOf (stage.fileName stem) = true :=
    List.isSuffixOf_iff_suffix.2 (List.suffix_append stem stage.ending)
  exact List.find?_isSome.2 ⟨stage, listed, ends⟩

end Stage

/-- No slash stands in the stem of a program. -/
theorem Program.slash_not_mem_stem (p : Program) : '/' ∉ p.stem := by
  cases p <;> decide

/-- No slash stands in a number in decimal. -/
theorem Text.slash_not_mem_decimal (n : Nat) : '/' ∉ decimal n := by
  intro inside
  exact absurd (isDigit_of_mem_decimal inside) (by decide)

/-- No slash stands in the name of a slot. -/
theorem PassArray.slash_not_mem_slotName {array : PassArray} {slot : Nat} {name : Text}
    (named : array.slotName? slot = some name) : '/' ∉ name := by
  have stem : '/' ∉ array.stem := by cases array <;> decide
  rcases slotName?_eq_some_iff.1 named with ⟨_, rfl⟩ | ⟨_, _, rfl⟩
  · exact stem
  · rw [List.mem_append]
    exact not_or.2 ⟨stem, Text.slash_not_mem_decimal slot⟩

/-- No slash stands in the name of a further compute pass. -/
theorem slash_not_mem_variant {name : Text} (plain : '/' ∉ name) {letter : Char}
    (listed : letter ∈ passLetters) : '/' ∉ name ++ ['_', letter] := by
  have differs : letter ≠ '/' := by
    rintro rfl
    exact absurd listed (by decide)
  simp [plain, differs.symm]

namespace Library

/-- The paths of all stage files that a folder can have are among the given ones. -/
def CoversStages (paths : Set Path) (folder : Path) : Prop :=
  ∀ name : Segment, (Stage.ofFileName? name.text).isSome = true → folder.child name ∈ paths

variable {lib other : Library} {paths : Set Path} {folder : Path} {folders : List Path} {name : Text}

/-- The file of a program lies right inside the folder. -/
theorem fileIn?_fileName (lib : Library) (folder : Path) (stage : Stage) (plain : '/' ∉ name) :
    lib.fileIn? folder (stage.fileName name) =
      lib.find? (folder.child ⟨stage.fileName name, stage.isSegment_fileName plain⟩) := by
  rw [fileIn?, Path.join_of_isSegment folder (stage.isSegment_fileName plain)]
  rfl

namespace AgreesOn

/-- Libraries that agree on a path flatten the file there alike. -/
theorem flatten_eq (agree : lib.AgreesOn other paths) {path : Path} (inside : path ∈ paths)
    {file : SourceFile} (found : lib.find? path = some file) : lib.flatten file = other.flatten file := by
  have found' : other.find? path = some file := (agree.same path inside).symm.trans found
  have same := agree.flattenAt_eq inside
  rw [flattenAt, flattenAt, found, found'] at same
  exact Except.ok.inj same

section Folder

variable (agree : lib.AgreesOn other paths) (covers : CoversStages paths folder)

include agree covers

/-- They have the same file of a program in a folder whose stage files they agree on, and flatten it
alike. -/
theorem fileIn?_eq (stage : Stage) (plain : '/' ∉ name) :
    lib.fileIn? folder (stage.fileName name) = other.fileIn? folder (stage.fileName name) ∧
      ∀ file, other.fileIn? folder (stage.fileName name) = some file →
        lib.flatten file = other.flatten file := by
  rw [fileIn?_fileName lib folder stage plain, fileIn?_fileName other folder stage plain]
  have inside := covers ⟨stage.fileName name, stage.isSegment_fileName plain⟩
    (stage.isSome_ofFileName?_fileName name)
  have same := agree.same _ inside
  exact ⟨same, fun file found => agree.flatten_eq inside (same.trans found)⟩

/-- They have the same text for a stage there. -/
theorem stageIn?_eq (markers : Bool) (stage : Stage) (plain : '/' ∉ name) :
    lib.stageIn? markers folder (stage.fileName name) =
      other.stageIn? markers folder (stage.fileName name) := by
  have ⟨same, alike⟩ := agree.fileIn?_eq covers stage plain
  rw [stageIn?, stageIn?, same]
  cases found : other.fileIn? folder (stage.fileName name) with
  | none => rfl
  | some file => rw [Option.bind_some, Option.bind_some, alike file found]

/-- They assemble the same shader there. -/
theorem assemble_eq (markers : Bool) (plain : '/' ∉ name) (vertex pixel : Text) :
    lib.assemble markers folder name vertex pixel = other.assemble markers folder name vertex pixel := by
  have variants : (passLetters.filterMap fun letter =>
        (lib.stageIn? markers folder (Stage.compute.fileName (name ++ ['_', letter]))).map fun text =>
          (letter, text)) =
      passLetters.filterMap fun letter =>
        (other.stageIn? markers folder (Stage.compute.fileName (name ++ ['_', letter]))).map fun text =>
          (letter, text) := by
    apply List.filterMap_congr
    intro letter listed
    rw [agree.stageIn?_eq covers markers .compute (slash_not_mem_variant plain listed)]
  rw [assemble, assemble, variants]
  simp only [agree.stageIn?_eq covers markers _ plain]

/-- They have the same to offer for a program there. -/
theorem offerIn?_eq (markers : Bool) (plain : '/' ∉ name) :
    lib.offerIn? markers name folder = other.offerIn? markers name folder := by
  have ⟨same, alike⟩ := agree.fileIn?_eq covers .vertex plain
  have ⟨same', alike'⟩ := agree.fileIn?_eq covers .pixel plain
  rw [offerIn?, offerIn?, same, same']
  cases found : other.fileIn? folder (Stage.vertex.fileName name) with
  | none => rfl
  | some vertex =>
    cases found' : other.fileIn? folder (Stage.pixel.fileName name) with
    | none => rfl
    | some pixel =>
      have assembled : lib.assemble markers folder name ((lib.flatten vertex).textWith markers)
            ((lib.flatten pixel).textWith markers) =
          other.assemble markers folder name ((other.flatten vertex).textWith markers)
            ((other.flatten pixel).textWith markers) := by
        rw [alike vertex found, alike' pixel found', agree.assemble_eq covers markers plain]
      simp only [Option.bind_eq_bind, Option.bind_some, assembled]

end Folder

section Folders

variable (agree : lib.AgreesOn other paths) (covers : ∀ folder ∈ folders, CoversStages paths folder)

include agree covers

/-- In a list of such folders they come across the same offers. -/
theorem search_eq (markers : Bool) (plain : '/' ∉ name) :
    lib.search markers folders name = other.search markers folders name := by
  have same : lib.offers markers name folders = other.offers markers name folders := by
    induction folders with
    | nil => rfl
    | cons folder rest ih =>
      have split := List.forall_mem_cons.1 covers
      rw [offers, offers, agree.offerIn?_eq split.1 markers plain, ih split.2]
  rw [search, search, same]

/-- They gather the same shaders for names without a slash. -/
theorem gather_eq {α : Type} (markers : Bool) {keyed : List (α × Text)}
    (plain : ∀ entry ∈ keyed, '/' ∉ entry.2) :
    Catalog.gather lib markers folders keyed = Catalog.gather other markers folders keyed := by
  induction keyed with
  | nil => rfl
  | cons entry rest ih =>
    have split := List.forall_mem_cons.1 plain
    rw [Catalog.gather, Catalog.gather, agree.search_eq covers markers split.1, ih split.2]

/-- They come to the same catalog, and to the same records. -/
theorem load_eq (dimension : Text) (markers : Bool) :
    Catalog.load dimension lib folders markers = Catalog.load dimension other folders markers := by
  have programs : ∀ entry ∈ Program.all.map fun p => (p, p.stem), '/' ∉ entry.2 := by
    intro entry listed
    obtain ⟨p, _, rfl⟩ := List.mem_map.1 listed
    exact p.slash_not_mem_stem
  have slots : ∀ entry ∈ Catalog.slotNames, '/' ∉ entry.2 := by
    intro entry listed
    exact PassArray.slash_not_mem_slotName (Catalog.mem_slotNames_iff.1 listed)
  rw [Catalog.load, Catalog.load, agree.gather_eq covers markers programs,
    agree.gather_eq covers markers slots]

end Folders

end AgreesOn

end Library

end ShaderBundle
