import ShaderBundle.Proofs.Bundle.Loading
import ShaderBundle.Proofs.Catalog.Agreement
import ShaderBundle.Proofs.Library.Starts
/-!
# Which bundles are refused

Loading a bundle fails for want of a folder for shaders, or because files that it wants include each other in a
circle, and for nothing else. What it wants is decided by the disk: the stage files where a catalog may look,
and whatever they ask for in any number of steps. Something that is wanted and has no text is kept as a
failure; it asks for nothing, so it closes no circle.
-/

namespace ShaderBundle

open Relation (ReflTransGen TransGen)

/-- A file is for a stage exactly if it is named after a program and the stage. -/
theorem Stage.isSome_ofFileName?_iff {name : Text} :
    (ofFileName? name).isSome = true ↔ ∃ stage stem, name = fileName stage stem := by
  constructor
  · intro found
    obtain ⟨stage, named⟩ := Option.isSome_iff_exists.1 found
    have ends := List.find?_some named
    obtain ⟨stem, split⟩ := List.isSuffixOf_iff_suffix.1 ends
    exact ⟨stage, stem, split.symm⟩
  · rintro ⟨stage, stem, rfl⟩
    exact stage.isSome_ofFileName?_fileName stem

namespace Library

section Crawled

variable {r : Reader} {starts : List Path} {p q : Path}

/-- One file of a crawled library includes another if it was asked for, asks for the other, and that one
loads. -/
theorem includes_crawl_iff :
    (ofReadings (r.crawl starts)).Includes p q ↔
      p ∈ r.asked starts ∧ r.AimsAt p q ∧ ∃ file, r.load q = .ok file := by
  constructor
  · rintro ⟨file, found, included, listed⟩
    obtain ⟨asked, loaded⟩ := find?_crawl_eq_some_iff.1 found
    exact ⟨asked, ⟨file, loaded, included⟩, (mem_paths_crawl.1 listed).2⟩
  · rintro ⟨asked, ⟨file, loaded, included⟩, loads⟩
    have asked' := (r.isLeast_asked starts).1.targets_mem p asked file loaded q included
    exact ⟨file, find?_crawl_eq_some_iff.2 ⟨asked, loaded⟩, included, mem_paths_crawl.2 ⟨asked', loads⟩⟩

/-- A way from a path that was asked for to one that loads leads along files of the crawled library. -/
theorem transGen_includes_crawl (asked : p ∈ r.asked starts) (loads : ∃ file, r.load q = .ok file)
    (way : TransGen r.AimsAt p q) : TransGen (ofReadings (r.crawl starts)).Includes p q := by
  induction way using TransGen.head_induction_on with
  | single aims => exact .single (includes_crawl_iff.2 ⟨asked, aims, loads⟩)
  | @head p next aims onward ih =>
    obtain ⟨file, loaded, included⟩ := aims
    have asked' := (r.isLeast_asked starts).1.targets_mem p asked file loaded next included
    -- the next file loads, since it asks for something
    obtain ⟨_, ⟨file', loaded', _⟩, _⟩ := TransGen.head'_iff.1 onward
    have step := includes_crawl_iff.2 ⟨asked, ⟨file, loaded, included⟩, file', loaded'⟩
    exact TransGen.head step (ih asked')

/-- A cycle is found exactly if a path that was asked for leads back to itself. -/
theorem exists_cycle?_crawl_iff :
    (∃ trail, (ofReadings (r.crawl starts)).cycle? = some trail) ↔
      ∃ p ∈ r.asked starts, TransGen r.AimsAt p p := by
  constructor
  · rintro ⟨trail, found⟩
    obtain ⟨_, first, _, ⟨p, _, cycle⟩, _⟩ := isLasso_of_cycle?_eq_some found
    obtain ⟨next, included, _⟩ := TransGen.head'_iff.1 cycle
    refine ⟨p, (includes_crawl_iff.1 included).1, ?_⟩
    exact TransGen.mono (fun _ _ included => (includes_crawl_iff.1 included).2.1) _ _ cycle
  · rintro ⟨p, asked, cycle⟩
    obtain ⟨_, ⟨file, loaded, _⟩, _⟩ := TransGen.head'_iff.1 cycle
    have around := transGen_includes_crawl asked ⟨file, loaded⟩ cycle
    exact Option.ne_none_iff_exists'.1 fun none => not_leadsAround_of_cycle?_eq_none none p ⟨p, .refl, around⟩

end Crawled

end Library

namespace Disk

variable {d : Disk} {starts : List Path} {p q : Path}

/-- There is a folder for shaders. -/
def HasShaders (d : Disk) : Prop := ∃ content, d.entryAt shaders = .ok (.folder content)

/-- A path leads to a file in the folder for shaders, or right inside a folder there, that is named after a
program and a stage. -/
def IsStart (d : Disk) (p : Path) : Prop :=
  ∃ folder name stage stem bytes, IsProgramFolder folder ∧ p = folder.child name ∧
    name.text = Stage.fileName stage stem ∧ d.entryAt p = .ok (.file bytes)

/-- A path is wanted: it is a start, or a file that is wanted asks for it. -/
def Wants (d : Disk) (p : Path) : Prop := d.reader.Reaches {q | d.IsStart q} p

/-- Files that are wanted include each other in a circle. -/
def HasCycle (d : Disk) : Prop := ∃ p, d.Wants p ∧ TransGen d.reader.AimsAt p p

/-- There is a file at a path, and its bytes are UTF-8. -/
def HasText (d : Disk) (p : Path) : Prop :=
  ∃ bytes, d.entryAt p = .ok (.file bytes) ∧ bytes.IsValidUTF8

/-- What may be wrong with a path that is included: the system finds nothing there, or finds a folder, the path
is the root, or there is a file that is not UTF-8 or is empty. -/
def IsDefective (d : Disk) (p : Path) : Prop :=
  (∃ cause, d.entryAt p = .error cause) ∨ (∃ content, d.entryAt p = .ok (.folder content)) ∨ p = Path.root ∨
    ∃ bytes, d.entryAt p = .ok (.file bytes) ∧ (¬ bytes.IsValidUTF8 ∨ bytes.size = 0)

/-- What loading a bundle comes to. -/
structure IsVerdict (d : Disk) (options : Options) (outcome : Except Fault Bundle) : Prop where
  /-- The folder for shaders is missed, at its place, exactly if there is none. -/
  noShaderFolder_iff : ∀ place, outcome = .error (.noShaderFolder place) ↔
    ¬ d.HasShaders ∧ place = shaders.below d.place
  /-- Otherwise, a circle is reported exactly if there is one among the files that are wanted. -/
  circularInclude_iff : (∃ trail, outcome = .error (.circularInclude trail)) ↔ d.HasShaders ∧ d.HasCycle
  /-- Otherwise there is a bundle. -/
  ok_iff : (∃ b, outcome = .ok b) ↔ d.HasShaders ∧ ¬ d.HasCycle
  /-- The bundle has the options that it was loaded with. -/
  options_eq : ∀ b, outcome = .ok b → b.options = options
  /-- Its files are what is wanted and has text. -/
  mem_paths_iff : ∀ b, outcome = .ok b → ∀ p, p ∈ b.library.paths ↔ d.Wants p ∧ d.HasText p
  /-- Its failures are the rest of what is wanted. -/
  mem_failures_iff : ∀ b, outcome = .ok b →
    ∀ p, p ∈ b.library.failures.map Prod.fst ↔ d.Wants p ∧ ¬ d.HasText p
  /-- Nothing with such a defect is blamed for a circle. -/
  not_blamed : ∀ trail, outcome = .error (.circularInclude trail) → ∀ p ∈ trail, ¬ d.IsDefective p
  /-- A file of the bundle that is no start is included by another file of the bundle. -/
  included : ∀ b, outcome = .ok b → ∀ p ∈ b.library.paths, ¬ d.IsStart p →
    ∃ q ∈ b.library.paths, b.library.Includes q p

/-- Without a folder for shaders there are no starts. -/
theorem seeds_of_not_hasShaders (lacks : ¬ d.HasShaders) :
    d.seeds = .error (.noShaderFolder (shaders.below d.place)) := by
  rw [seeds, if_neg (isFolder_eq_true_iff.not.2 lacks)]

/-- With a folder for shaders, loading starts with its stage files. -/
theorem exists_seeds_of_hasShaders (has : d.HasShaders) :
    ∃ starts, d.seeds = .ok starts ∧ {q | q ∈ starts} = {q | d.IsStart q} := by
  have found : d.seeds = .ok ((d.inside shaders).flatMap d.seedsAt) := by
    rw [seeds, if_pos (isFolder_eq_true_iff.2 has)]
  refine ⟨_, found, Set.ext fun p => (mem_seeds_iff found).trans ?_⟩
  constructor
  · rintro ⟨stage, folder, name, near, rfl⟩
    obtain ⟨named, file⟩ := isStageFile_child_iff.1 stage
    obtain ⟨kind, stem, spelled⟩ := Stage.isSome_ofFileName?_iff.1 named
    obtain ⟨bytes, lies⟩ := isFile_eq_true_iff.1 file
    exact ⟨folder, name, kind, stem, bytes, near, rfl, spelled, lies⟩
  · rintro ⟨folder, name, kind, stem, bytes, near, rfl, spelled, lies⟩
    have named := Stage.isSome_ofFileName?_iff.2 ⟨kind, stem, spelled⟩
    exact ⟨isStageFile_child_iff.2 ⟨named, isFile_eq_true_iff.2 ⟨bytes, lies⟩⟩, folder, name, near, rfl⟩

/-- Next to the folder for shaders, the root is a folder as well. -/
theorem exists_root_of_hasShaders (has : d.HasShaders) :
    ∃ content, d.entryAt Path.root = .ok (.folder content) := by
  obtain ⟨_, lies⟩ := has
  obtain ⟨content, above, _⟩ := exists_folder_of_child lies
  exact ⟨content, above⟩

/-- A file loads exactly if it has text. -/
theorem exists_load_iff_hasText (has : d.HasShaders) :
    (∃ file, d.reader.load p = .ok file) ↔ d.HasText p := by
  rw [Reader.exists_load_eq_ok_iff]
  constructor
  · rintro ⟨_, ls, read⟩
    obtain ⟨bytes, lies⟩ := isFile_eq_true_iff.1 (isFile_of_read read)
    exact ⟨bytes, lies, (exists_read_of_file_iff lies).1 ⟨ls, read⟩⟩
  · rintro ⟨bytes, lies, valid⟩
    refine ⟨?_, (exists_read_of_file_iff lies).2 valid⟩
    rintro rfl
    obtain ⟨content, folder⟩ := exists_root_of_hasShaders has
    cases lies.symm.trans folder

/-- No line is read from an empty file. -/
theorem eq_nil_of_read_of_empty {bytes : ByteArray} {ls : List Text}
    (lies : d.entryAt p = .ok (.file bytes)) (empty : bytes.size = 0) (read : d.reader.read p = .ok ls) :
    ls = [] := by
  have nothing : d.reader.read p = .ok [] := by
    show (d.readLines p).mapError DiskFault.message = .ok []
    rw [readLines, lies, ByteArray.size_eq_zero_iff.1 empty]
    rfl
  exact Except.ok.inj (read.symm.trans nothing)

/-- Something with a defect asks for nothing. -/
theorem not_aimsAt_of_isDefective (defective : d.IsDefective p) : ¬ d.reader.AimsAt p q := by
  rintro ⟨file, loaded, included⟩
  obtain ⟨ls, read, made⟩ := SourceFile.ofAnswer_eq_ok_iff.1 loaded
  obtain ⟨bytes, lies⟩ := isFile_eq_true_iff.1 (isFile_of_read read)
  rcases defective with ⟨cause, missing⟩ | ⟨content, folder⟩ | rfl | ⟨bytes', lies', broken | empty⟩
  · cases lies.symm.trans missing
  · cases lies.symm.trans folder
  · rw [SourceFile.ofLines?_eq_none_iff.2 rfl] at made
    contradiction
  · exact broken ((exists_read_of_file_iff lies').1 ⟨ls, read⟩)
  · rw [eq_nil_of_read_of_empty lies' empty read] at made
    obtain ⟨folder, _, rfl⟩ := Option.map_eq_some_iff.1 made
    exact absurd included List.not_mem_nil

section Wanted

variable (same : {q | q ∈ starts} = {q | d.IsStart q})
include same

/-- What is wanted is what the crawl from the starts asks for. -/
theorem wants_iff_mem_asked : d.Wants p ↔ p ∈ d.reader.asked starts := by
  rw [Wants, ← same, Reader.mem_asked_iff_reaches]

/-- Files that are wanted include each other in a circle exactly if the crawl comes to such files. -/
theorem hasCycle_iff_exists_cycle? :
    d.HasCycle ↔ ∃ trail, (Library.ofReadings (d.reader.crawl starts)).cycle? = some trail := by
  rw [Library.exists_cycle?_crawl_iff]
  exact exists_congr fun p => and_congr_left fun _ => wants_iff_mem_asked same

end Wanted

end Disk

namespace Bundle

variable {d : Disk} {options : Options} {starts : List Path}

/-- Without starts there is no bundle. -/
theorem load_of_seeds_eq_error {cause : Fault} (found : d.seeds = .error cause) :
    (load d options).value = .error cause := by
  rw [load, found]
  rfl

/-- From its starts, a bundle is loaded as its library is built. -/
theorem load_of_seeds_eq_ok (found : d.seeds = .ok starts) :
    (load d options).value = (Library.build d.reader starts).map fun lib => ⟨options, lib, []⟩ := by
  have crawled : Library.build d.reader starts = (Library.ofReadings (d.reader.crawl starts)).checked := rfl
  rw [load, found, crawled]
  dsimp only
  cases (Library.ofReadings (d.reader.crawl starts)).checked with
  | error cause => rfl
  | ok lib => rfl

/-- Without a folder for shaders, the verdict is that it is missing. -/
theorem isVerdict_of_not_hasShaders (lacks : ¬ d.HasShaders) :
    d.IsVerdict options (.error (.noShaderFolder (Disk.shaders.below d.place))) where
  noShaderFolder_iff place := by simp [lacks, eq_comm]
  circularInclude_iff := by simp [lacks]
  ok_iff := by simp [lacks]
  options_eq := by simp
  mem_paths_iff := by simp
  mem_failures_iff := by simp
  not_blamed := by simp
  included := by simp

/-- If a cycle is found in what the crawl came to, the verdict is that there is one. -/
theorem isVerdict_of_cycle (has : d.HasShaders) (same : {q | q ∈ starts} = {q | d.IsStart q})
    {trail : List Path} (found : (Library.ofReadings (d.reader.crawl starts)).cycle? = some trail) :
    d.IsVerdict options (.error (.circularInclude trail)) where
  noShaderFolder_iff place := by simp [has]
  circularInclude_iff := by
    have cycle : d.HasCycle := (Disk.hasCycle_iff_exists_cycle? same).2 ⟨trail, found⟩
    simp [has, cycle]
  ok_iff := by
    have cycle : d.HasCycle := (Disk.hasCycle_iff_exists_cycle? same).2 ⟨trail, found⟩
    simp [cycle]
  options_eq := by simp
  mem_paths_iff := by simp
  mem_failures_iff := by simp
  not_blamed := by
    rintro trail' reported p listed defective
    cases reported
    have lasso := (Library.isLasso_of_cycle?_eq_some found).1
    obtain ⟨q, included⟩ := lasso.exists_includes listed
    exact Disk.not_aimsAt_of_isDefective defective (Library.includes_crawl_iff.1 included).2.1
  included := by simp

/-- If none is found, the verdict is a bundle of what the crawl came to. -/
theorem isVerdict_of_straight (has : d.HasShaders) (same : {q | q ∈ starts} = {q | d.IsStart q})
    (straight : (Library.ofReadings (d.reader.crawl starts)).cycle? = none) :
    d.IsVerdict options (.ok ⟨options, .ofReadings (d.reader.crawl starts), []⟩) := by
  have cycle : ¬ d.HasCycle := by
    rw [Disk.hasCycle_iff_exists_cycle? same, straight]
    rintro ⟨trail, found⟩
    contradiction
  constructor
  case noShaderFolder_iff => simp [has]
  case circularInclude_iff => simp [cycle]
  case ok_iff => simp [has, cycle]
  case options_eq =>
    rintro b made
    obtain rfl := Except.ok.inj made
    rfl
  case mem_paths_iff =>
    rintro b made p
    obtain rfl := Except.ok.inj made
    rw [Library.mem_paths_crawl, Disk.exists_load_iff_hasText has, Disk.wants_iff_mem_asked same]
  case mem_failures_iff =>
    rintro b made p
    obtain rfl := Except.ok.inj made
    rw [Library.mem_failed_crawl, Disk.exists_load_iff_hasText has, Disk.wants_iff_mem_asked same]
  case not_blamed => simp
  case included =>
    rintro b made p listed later
    obtain rfl := Except.ok.inj made
    obtain ⟨asked, loads⟩ := Library.mem_paths_crawl.1 listed
    obtain ⟨start, first, way⟩ := (Disk.wants_iff_mem_asked same).2 asked
    rcases way.cases_tail with rfl | ⟨q, onward, aims⟩
    · exact absurd first later
    · have asked' : q ∈ d.reader.asked starts := (Disk.wants_iff_mem_asked same).1 ⟨start, first, onward⟩
      have included := Library.includes_crawl_iff.2 ⟨asked', aims, loads⟩
      exact ⟨q, included.source_mem, included⟩

/-- Loading a bundle is refused for want of a folder for shaders, or for files in a circle among those that
are wanted, and otherwise comes to a bundle of what is wanted. -/
theorem load_isVerdict (d : Disk) (options : Options) : d.IsVerdict options (load d options).value := by
  by_cases has : d.HasShaders
  · obtain ⟨starts, found, same⟩ := Disk.exists_seeds_of_hasShaders has
    have built : Library.build d.reader starts = (Library.ofReadings (d.reader.crawl starts)).checked := rfl
    rw [load_of_seeds_eq_ok found, built, Library.checked]
    cases cycle : (Library.ofReadings (d.reader.crawl starts)).cycle? with
    | some trail => exact isVerdict_of_cycle has same cycle
    | none => exact isVerdict_of_straight has same cycle
  · rw [load_of_seeds_eq_error (Disk.seeds_of_not_hasShaders has)]
    exact isVerdict_of_not_hasShaders has

end Bundle

end ShaderBundle
