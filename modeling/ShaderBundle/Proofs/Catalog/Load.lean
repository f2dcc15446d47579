import ShaderBundle.Proofs.Catalog.PassTables
import ShaderBundle.Proofs.Catalog.Provision
/-!
# What a catalog holds

A catalog has a shader for a program, or for a slot of an array, exactly if one of the folders is usable
for its name, and then the first such folder decides about all its stages. The others decide nothing, so
a folder that is not usable for a name may be put anywhere into the list.
-/

namespace ShaderBundle

/-- Every program is listed. -/
theorem Program.mem_all (p : Program) : p ∈ all := by
  cases p <;> decide

/-- The slots that have a name are those below the number of slots. -/
theorem PassArray.lt_of_slotName? {array : PassArray} {slot : Nat} {name : Text}
    (named : array.slotName? slot = some name) : slot < slotCount := by
  rcases slotName?_eq_some_iff.1 named with ⟨rfl, _⟩ | ⟨_, inside, _⟩
  · decide
  · exact inside

namespace Catalog

variable {lib : Library} {markers : Bool} {folders : List Path}

/-- The slots are listed with their names. -/
theorem mem_slotNames_iff {array : PassArray} {slot : Nat} {name : Text} :
    ((array, slot), name) ∈ slotNames ↔ array.slotName? slot = some name := by
  rw [slotNames, List.mem_flatMap]
  constructor
  · rintro ⟨other, _, listed⟩
    obtain ⟨at_slot, _, named⟩ := List.mem_filterMap.1 listed
    obtain ⟨written, found, same⟩ := Option.map_eq_some_iff.1 named
    obtain ⟨same_slot, rfl⟩ := Prod.mk.inj same
    obtain ⟨rfl, rfl⟩ := Prod.mk.inj same_slot
    exact found
  · intro named
    refine ⟨array, array.mem_all, List.mem_filterMap.2 ⟨slot, ?_, by rw [named, Option.map_some]⟩⟩
    exact List.mem_range.2 (PassArray.lt_of_slotName? named)

/-- What is gathered is what is looked up for the names, in their order. -/
theorem value_gather {α : Type} (lib : Library) (markers : Bool) (folders : List Path)
    (keyed : List (α × Text)) :
    (gather lib markers folders keyed).value = keyed.filterMap fun entry =>
      (lib.search markers folders entry.2).value.map fun shader => (entry.1, shader) := by
  induction keyed with
  | nil => rfl
  | cons entry rest ih =>
    have gathered : (gather lib markers folders (entry :: rest)).value =
        ((lib.search markers folders entry.2).value.map fun shader => (entry.1, shader)).toList ++
          (gather lib markers folders rest).value := rfl
    rw [gathered, ih, List.filterMap_cons]
    cases (lib.search markers folders entry.2).value with
    | none => rfl
    | some shader => rfl

/-- What is gathered comes under the given keys, in their order. -/
theorem sublist_keys_gather {α : Type} (keyed : List (α × Text)) :
    ((gather lib markers folders keyed).value.map Prod.fst).Sublist (keyed.map Prod.fst) := by
  rw [value_gather]
  exact sublist_filterMap_keys Prod.fst (fun entry => (lib.search markers folders entry.2).value) keyed

/-- What is gathered was looked up under its name. -/
theorem mem_gather_iff {α : Type} {key : α} {keyed : List (α × Text)} {shader : Shader} :
    (key, shader) ∈ (gather lib markers folders keyed).value ↔
      ∃ name, (key, name) ∈ keyed ∧ (lib.search markers folders name).value = some shader := by
  rw [value_gather, List.mem_filterMap]
  constructor
  · rintro ⟨⟨other, name⟩, entered, found⟩
    obtain ⟨_, searched, same⟩ := Option.map_eq_some_iff.1 found
    obtain ⟨rfl, rfl⟩ := Prod.mk.inj same
    exact ⟨name, entered, searched⟩
  · rintro ⟨name, entered, searched⟩
    exact ⟨(key, name), entered, by rw [searched, Option.map_some]⟩

/-- Where no key comes twice, a key is given what is looked up for its name. -/
theorem lookup_gather {α : Type} [BEq α] [LawfulBEq α] {keyed : List (α × Text)}
    (distinct : (keyed.map Prod.fst).Nodup) (key : α) :
    (gather lib markers folders keyed).value.lookup key =
      (keyed.lookup key).bind fun name => (lib.search markers folders name).value := by
  refine Option.ext fun shader => ?_
  rw [← mem_iff_lookup_eq_some (distinct.sublist (sublist_keys_gather keyed)), mem_gather_iff,
    Option.bind_eq_some_iff]
  simp only [mem_iff_lookup_eq_some distinct]

/-- No program is listed twice. -/
theorem nodup_stems : ((Program.all.map fun p => (p, p.stem)).map Prod.fst).Nodup := by decide

/-- No slot is listed twice. -/
theorem nodup_slotNames : (slotNames.map Prod.fst).Nodup := by
  apply nodup_flatMap_keys (by decide)
  case own =>
    intro array entry listed
    obtain ⟨slot, _, named⟩ := List.mem_filterMap.1 listed
    obtain ⟨name, _, rfl⟩ := Option.map_eq_some_iff.1 named
    rfl
  case distinct =>
    intro array
    have numbered := List.nodup_range (n := PassArray.slotCount)
    exact (numbered.map (Prod.mk_right_injective array)).sublist (sublist_filterMap_keys _ array.slotName? _)

/-- A catalog has what is gathered for the programs and for the slots. -/
theorem value_load (dimension : Text) (lib : Library) (folders : List Path) (markers : Bool) :
    (load dimension lib folders markers).value =
      ⟨dimension, (gather lib markers folders (Program.all.map fun p => (p, p.stem))).value,
        PassTables.fillAll [] (gather lib markers folders slotNames).value⟩ := by
  rw [load]
  simp only [Journaled.value_bind]
  rfl

/-- A program is given what is looked up for its stem. -/
theorem get?_load (dimension : Text) (program : Program) :
    (load dimension lib folders markers).value.get? program =
      (lib.search markers folders program.stem).value := by
  have listed : (program, program.stem) ∈ Program.all.map fun p => (p, p.stem) :=
    List.mem_map.2 ⟨program, program.mem_all, rfl⟩
  rw [value_load, get?, lookup_gather nodup_stems, (mem_iff_lookup_eq_some nodup_stems).1 listed, Option.bind_some]

/-- A slot is given what is looked up for its name. -/
theorem getPass?_load (dimension : Text) (array : PassArray) (slot : Nat) :
    (load dimension lib folders markers).value.getPass? array slot =
      (array.slotName? slot).bind fun name => (lib.search markers folders name).value := by
  have listed : slotNames.lookup (array, slot) = array.slotName? slot := Option.ext fun name => by
    rw [← mem_iff_lookup_eq_some nodup_slotNames, mem_slotNames_iff]
  have inside : ∀ entry ∈ (gather lib markers folders slotNames).value, entry.1.2 < PassArray.slotCount := by
    intro entry gathered
    obtain ⟨name, named, _⟩ := mem_gather_iff.1 gathered
    exact PassArray.lt_of_slotName? (mem_slotNames_iff.1 named)
  rw [value_load, getPass?, PassTables.get?_fillAll (nodup_slotNames.sublist (sublist_keys_gather _)) inside,
    lookup_gather nodup_slotNames, listed]
  exact Option.or_none

/-- For every program and every slot, the catalog holds what the folders provide for its name. -/
structure IsProvided (c : Catalog) (lib : Library) (markers : Bool) (folders : List Path) : Prop where
  /-- A program is provided by its stem. -/
  program : ∀ p : Program, lib.Provides markers folders p.stem (c.get? p)
  /-- A slot is provided by its name. -/
  pass : ∀ (array : PassArray) slot name, array.slotName? slot = some name →
    lib.Provides markers folders name (c.getPass? array slot)
  /-- A slot that the array does not have is not filled. -/
  unnamed : ∀ (array : PassArray) slot, array.slotName? slot = none → c.getPass? array slot = none

/-- Two catalogs hold the same wherever the folder is not usable for the name. -/
structure AgreeApartFrom (lib : Library) (folder : Path) (c d : Catalog) : Prop where
  /-- They hold the same for a program. -/
  program : ∀ p : Program, ¬ lib.IsUsable p.stem folder → c.get? p = d.get? p
  /-- They hold the same for a slot. -/
  pass : ∀ (array : PassArray) slot name, array.slotName? slot = some name →
    ¬ lib.IsUsable name folder → c.getPass? array slot = d.getPass? array slot

/-- A catalog holds for every program and every slot what the first usable folder provides. A folder that
is not usable for a name may be put anywhere into the list without changing what is held for that name. -/
theorem load_isProvided (lib : Library) (unbroken : lib.IsUnbroken)
    (written : ∀ p ∈ lib.paths, '\n' ∉ p.text) (dimension : Text) (folders : List Path) (markers : Bool) :
    (load dimension lib folders markers).value.IsProvided lib markers folders ∧
      ∀ before folder behind, folders = before ++ folder :: behind →
        AgreeApartFrom lib folder (load dimension lib folders markers).value
          (load dimension lib (before ++ behind) markers).value := by
  refine ⟨⟨?program, ?pass, ?unnamed⟩, ?inserted⟩
  case program =>
    intro p
    rw [get?_load]
    exact Library.provides_search unbroken written p.isRelative_stem folders
  case pass =>
    intro array slot name named
    rw [getPass?_load, named]
    exact Library.provides_search unbroken written (PassArray.isRelative_slotName named) folders
  case unnamed =>
    intro array slot unnamed
    rw [getPass?_load, unnamed]
    rfl
  case inserted =>
    rintro before folder behind rfl
    constructor
    · intro p unusable
      rw [get?_load, get?_load]
      exact Library.value_search_insert unbroken written p.isRelative_stem before behind unusable
    · intro array slot name named unusable
      have relative := PassArray.isRelative_slotName named
      rw [getPass?_load, getPass?_load, named]
      exact Library.value_search_insert unbroken written relative before behind unusable

/-- A library with one program in two folders. In the one further down a main stage is blank; in the other
it only includes a file. -/
def layered : Library :=
  let place (name : String) : Path := Path.root.follow name.toList
  { files := [
      ⟨place "world0/final.vs.hlsl", [⟨[' '], none⟩]⟩,
      ⟨place "world0/final.ps.hlsl", [⟨['1'], none⟩]⟩,
      ⟨place "world0/final.gs.hlsl", [⟨['2'], none⟩]⟩,
      ⟨place "final.vs.hlsl", [⟨['3'], some (place "common")⟩]⟩,
      ⟨place "final.ps.hlsl", [⟨['4'], none⟩]⟩,
      ⟨place "common", [⟨['5'], none⟩]⟩]
    failures := [] }

/-- In this library the folder whose main stage is blank changes nothing, although it comes first. -/
theorem load_isProvided_layered :
    layered.IsUnbroken ∧ (∀ p ∈ layered.paths, '\n' ∉ p.text) ∧
      (load ['w'] layered [Path.root.follow "world0".toList, Path.root] true).value.IsProvided layered true
        [Path.root.follow "world0".toList, Path.root] ∧
      AgreeApartFrom layered (Path.root.follow "world0".toList)
        (load ['w'] layered [Path.root.follow "world0".toList, Path.root] true).value
        (load ['w'] layered [Path.root] true).value := by
  have unbroken : layered.IsUnbroken := by
    unfold Library.IsUnbroken
    decide +kernel
  have written : ∀ p ∈ layered.paths, '\n' ∉ p.text := by decide +kernel
  obtain ⟨provided, inserted⟩ := load_isProvided layered unbroken written ['w']
    [Path.root.follow "world0".toList, Path.root] true
  exact ⟨unbroken, written, provided, inserted [] _ _ rfl⟩

example : (layered.search true [Path.root.follow "world0".toList, Path.root] "final".toList).value =
    some ⟨"final".toList, "#line 1 \"/common\"\n5\n".toList, "4\n".toList, none, none, none, none, []⟩ := by
  cbv

end Catalog

end ShaderBundle
