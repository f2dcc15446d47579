import ShaderBundle.Proofs.Catalog.Load
/-!
# The views of a catalog

A catalog is read in several ways: by a program or by a slot, array by array, as the list of its valid programs,
and by counting. Programs and arrays are each listed once, so every way of reading it sees the same shaders, each
of them once.
-/

namespace ShaderBundle

namespace Catalog

variable {c : Catalog} {array : PassArray} {slot : Nat} {shader : Shader}

/-- The filled slots of an array are those that have a shader. -/
theorem mem_slots_iff : (slot, shader) ∈ c.slots array ↔ c.getPass? array slot = some shader := by
  rw [slots, getPass?, PassTables.get?]
  cases c.tables.lookup array with
  | none => simp
  | some table =>
    rw [Option.toList_some, List.flatMap_singleton, Option.bind_some]
    exact PassTable.mem_filled_iff

/-- They come in order. -/
theorem pairwise_slots (c : Catalog) (array : PassArray) : (c.slots array).Pairwise fun a b => a.1 < b.1 := by
  rw [slots]
  cases c.tables.lookup array with
  | none => exact .nil
  | some table =>
    rw [Option.toList_some, List.flatMap_singleton]
    exact table.pairwise_filled

/-- The filled slots of all arrays are those that have a shader. -/
theorem mem_passes_iff {key : PassArray × Nat} :
    (key, shader) ∈ c.passes ↔ c.getPass? key.1 key.2 = some shader := by
  rw [← mem_slots_iff, passes, List.mem_flatMap]
  constructor
  · rintro ⟨array, _, listed⟩
    obtain ⟨entry, filled, same⟩ := List.mem_map.1 listed
    cases same
    exact filled
  · intro filled
    exact ⟨key.1, key.1.mem_all, List.mem_map.2 ⟨(key.2, shader), filled, rfl⟩⟩

/-- No slot is listed twice. -/
theorem nodup_passes (c : Catalog) : (c.passes.map Prod.fst).Nodup := by
  apply nodup_flatMap_keys (by decide)
  case own =>
    intro array entry listed
    obtain ⟨_, _, rfl⟩ := List.mem_map.1 listed
    rfl
  case distinct =>
    intro array
    rw [List.map_map]
    exact List.pairwise_map.2 ((c.pairwise_slots array).imp fun less same =>
      Nat.ne_of_lt less (congrArg Prod.snd same))

/-- The filled slots of all arrays have the shaders of the tables. -/
theorem map_snd_passes (c : Catalog) : c.passes.map Prod.snd =
    (PassArray.all.filterMap fun array => (c.tables.lookup array).map fun table => (array, table)).flatMap
      fun entry => entry.2.shaders := by
  rw [passes, List.map_flatMap]
  induction PassArray.all with
  | nil => rfl
  | cons array rest ih =>
    have own : ((c.slots array).map fun entry => ((array, entry.1), entry.2)).map Prod.snd =
        (c.slots array).map Prod.snd := List.map_map
    rw [List.flatMap_cons, ih, List.filterMap_cons]
    rw [own, slots]
    cases c.tables.lookup array with
    | none => rfl
    | some table =>
      rw [Option.toList_some, List.flatMap_singleton, PassTable.map_snd_filled]
      rfl

/-- Neither a program nor an array is listed twice. -/
structure IsKeyed (c : Catalog) : Prop where
  /-- No program is. -/
  programs : (c.programs.map Prod.fst).Nodup
  /-- No array has two tables. -/
  tables : (c.tables.map Prod.fst).Nodup

/-- In every catalog that is loaded, this is so. -/
theorem load_isKeyed (dimension : Text) (lib : Library) (folders : List Path) (markers : Bool) :
    (load dimension lib folders markers).value.IsKeyed := by
  rw [value_load]
  constructor
  case programs => exact nodup_stems.sublist (sublist_keys_gather _)
  case tables =>
    apply PassTables.nodup_fillAll
    exact List.nodup_nil

/-- The programs listed are those that have a shader. -/
theorem IsKeyed.mem_programs_iff (keyed : c.IsKeyed) {p : Program} :
    (p, shader) ∈ c.programs ↔ c.get? p = some shader :=
  mem_iff_lookup_eq_some keyed.programs

/-- The shaders counted are those of the programs and of the filled slots. -/
theorem IsKeyed.perm_shaders (keyed : c.IsKeyed) :
    c.shaders.Perm (c.programs.map Prod.snd ++ c.passes.map Prod.snd) := by
  rw [map_snd_passes]
  exact ((PassTables.perm_filterMap_lookup keyed.tables).flatMap_right _).append_left _

/-- Every shader counted is that of a program or of a slot. -/
theorem IsKeyed.mem_shaders_iff (keyed : c.IsKeyed) :
    shader ∈ c.shaders ↔ (∃ p, c.get? p = some shader) ∨ ∃ array slot, c.getPass? array slot = some shader := by
  simp [keyed.perm_shaders.mem_iff, keyed.mem_programs_iff, mem_passes_iff]

/-- How many shaders of a kind there are, by the programs and the slots that they are for. -/
noncomputable def number (c : Catalog) (kind : Shader → Bool) : Nat :=
  {p : Program | ∃ shader, c.get? p = some shader ∧ kind shader = true}.ncard +
    {key : PassArray × Nat | ∃ shader, c.getPass? key.1 key.2 = some shader ∧ kind shader = true}.ncard

/-- Counting the shaders of a kind counts each program and each slot that has one. -/
theorem IsKeyed.countP_shaders (keyed : c.IsKeyed) (kind : Shader → Bool) :
    c.shaders.countP kind = c.number kind := by
  rw [keyed.perm_shaders.countP_eq, List.countP_append, List.countP_map, List.countP_map]
  have programs := countP_eq_ncard keyed.programs kind
  have passes := countP_eq_ncard c.nodup_passes kind
  simp only [keyed.mem_programs_iff] at programs
  simp only [mem_passes_iff] at passes
  exact congrArg₂ (· + ·) programs passes

/-- All programs of a catalog are counted. -/
theorem IsKeyed.census_programs (keyed : c.IsKeyed) : c.census.programs = {p | c.contains p = true}.ncard := by
  have counted := countP_eq_ncard keyed.programs fun _ => true
  rw [List.countP_true] at counted
  refine counted.trans (congrArg Set.ncard (Set.ext fun p => ?_))
  show (∃ shader, (p, shader) ∈ c.programs ∧ true = true) ↔ (c.get? p).isSome = true
  rw [Option.isSome_iff_exists]
  exact exists_congr fun shader => (and_iff_left rfl).trans keyed.mem_programs_iff

/-- So are the filled slots of all arrays. -/
theorem IsKeyed.census_passes (keyed : c.IsKeyed) :
    c.census.passes = (PassArray.all.map fun array => (c.slots array).length).sum := by
  have together := keyed.perm_shaders.length_eq
  rw [List.length_append, List.length_map, List.length_map, passes, List.length_flatMap] at together
  simp only [List.length_map] at together
  exact Nat.sub_eq_of_eq_add' together

/-- Whichever way a catalog is read, the same shaders are seen. -/
structure ViewsAgree (c : Catalog) : Prop where
  /-- A program's shader has its stem for a name, and content in both main stages. -/
  program : ∀ p shader, c.get? p = some shader →
    shader.name = Program.stem p ∧ shader.isValid = true ∧ shader.isSubstantial = true
  /-- A slot's shader has the slot's name, and content in both main stages. -/
  pass : ∀ array slot shader, c.getPass? array slot = some shader →
    array.slotName? slot = some shader.name ∧ shader.isValid = true ∧ shader.isSubstantial = true
  /-- The valid programs are all programs that have a shader, in their order. -/
  validPrograms_eq : c.validPrograms =
    Program.all.filterMap fun p => (c.get? p).map fun shader => (p, shader)
  /-- The filled slots of an array are those that have a shader. -/
  mem_slots : ∀ array slot shader, (slot, shader) ∈ c.slots array ↔ c.getPass? array slot = some shader
  /-- They come in order, each once. -/
  slots_ascending : ∀ array, (c.slots array).Pairwise fun entry entry' => entry.1 < entry'.1
  /-- No slot behind the last one has a shader. -/
  beyond : ∀ array slot, PassArray.slotCount ≤ slot → c.getPass? array slot = none
  /-- The programs counted are those that the catalog contains. -/
  programs_eq : c.census.programs = {p | c.contains p = true}.ncard
  /-- The passes counted are the filled slots of all arrays. -/
  passes_eq : c.census.passes = (PassArray.all.map fun array => (c.slots array).length).sum
  /-- Each stage is counted once for every program and every slot whose shader has it. -/
  withGeometry_eq : c.census.withGeometry = c.number Shader.hasGeometry
  withTessellation_eq : c.census.withTessellation = c.number Shader.hasTessellation
  withCompute_eq : c.census.withCompute = c.number Shader.hasCompute

/-- In every catalog that is loaded, the ways of reading it agree. -/
theorem load_viewsAgree (dimension : Text) (lib : Library) (folders : List Path) (markers : Bool) :
    (load dimension lib folders markers).value.ViewsAgree := by
  have keyed := load_isKeyed dimension lib folders markers
  have program (p : Program) (shader : Shader)
      (found : (load dimension lib folders markers).value.get? p = some shader) :
      shader.name = p.stem ∧ shader.isValid = true ∧ shader.isSubstantial = true := by
    rw [get?_load] at found
    obtain ⟨named, substantial⟩ := Library.isSubstantial_of_search p.isRelative_stem found
    exact ⟨named, Library.isValid_of_isSubstantial substantial, substantial⟩
  constructor
  case program => exact program
  case pass =>
    intro array slot shader found
    rw [getPass?_load] at found
    obtain ⟨name, named, searched⟩ := Option.bind_eq_some_iff.1 found
    obtain ⟨rfl, substantial⟩ := Library.isSubstantial_of_search (PassArray.isRelative_slotName named) searched
    exact ⟨named, Library.isValid_of_isSubstantial substantial, substantial⟩
  case validPrograms_eq =>
    have valid : ∀ entry ∈ (load dimension lib folders markers).value.programs, entry.2.isValid = true :=
      fun entry listed => (program entry.1 entry.2 (keyed.mem_programs_iff.1 listed)).2.1
    rw [validPrograms, List.filter_eq_self.2 valid]
    simp only [get?_load]
    rw [value_load, value_gather, List.filterMap_map]
    rfl
  case mem_slots => exact fun array slot shader => mem_slots_iff
  case slots_ascending => exact fun array => pairwise_slots _ array
  case beyond => exact fun array slot behind => PassTables.get?_of_le behind _ array
  case programs_eq => exact keyed.census_programs
  case passes_eq => exact keyed.census_passes
  case withGeometry_eq => exact keyed.countP_shaders Shader.hasGeometry
  case withTessellation_eq => exact keyed.countP_shaders Shader.hasTessellation
  case withCompute_eq => exact keyed.countP_shaders Shader.hasCompute

end Catalog

end ShaderBundle
