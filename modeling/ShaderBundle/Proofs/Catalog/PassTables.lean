import ShaderBundle.Catalog.PassTables
import ShaderBundle.Proofs.Keyed
/-!
# Reading tables of passes

A slot holds what was put there last, and filling a slot changes no other one. No array is given two tables, so
the tables taken one after the other hold the same shaders as those that are looked up array by array.
-/

namespace ShaderBundle

variable {slot : Nat} {shader : Shader}

namespace PassTable

/-- The filled slots are those that have a shader. -/
theorem mem_filled_iff {table : PassTable} : (slot, shader) ∈ table.filled ↔ table[slot]?.join = some shader := by
  rw [filled, List.mem_filterMap, Option.join_eq_some_iff, ← Vector.getElem?_toList]
  constructor
  · rintro ⟨⟨shader?, index⟩, listed, found⟩
    obtain ⟨_, rfl, same⟩ := Option.map_eq_some_iff.1 found
    obtain ⟨rfl, rfl⟩ := Prod.mk.inj same
    exact List.mem_zipIdx_iff_getElem?.1 listed
  · intro found
    exact ⟨(some shader, slot), List.mem_zipIdx_iff_getElem?.2 found, rfl⟩

/-- They come in order. -/
theorem pairwise_filled (table : PassTable) : table.filled.Pairwise fun a b => a.1 < b.1 := by
  have numbered : table.toList.zipIdx.Pairwise fun a b => a.2 < b.2 := by
    apply List.pairwise_map.1
    rw [List.zipIdx_map_snd]
    exact List.pairwise_lt_range'
  refine numbered.filterMap _ fun a b less first found next found' => ?_
  obtain ⟨_, _, rfl⟩ := Option.map_eq_some_iff.1 found
  obtain ⟨_, _, rfl⟩ := Option.map_eq_some_iff.1 found'
  exact less

/-- They hold the shaders of the table. -/
theorem map_snd_filled (table : PassTable) : table.filled.map Prod.snd = table.shaders := by
  calc
    table.filled.map Prod.snd = table.toList.zipIdx.filterMap Prod.fst := by
          rw [filled, List.map_filterMap]
          refine List.filterMap_congr fun entry _ => ?_
          rw [Option.map_map]
          exact Option.map_id'
    _ = table.shaders := by
          rw [shaders, ← List.zipIdx_map_fst 0 table.toList, List.filterMap_map, List.zipIdx_map_fst]
          rfl

/-- If the shaders are replaced one by one, the same slots are filled. -/
theorem filled_map (f : Shader → Shader) (table : PassTable) :
    filled (table.map (Option.map f)) = table.filled.map fun entry => (entry.1, f entry.2) := by
  rw [filled, filled, Vector.toList_map, List.zipIdx_map, List.filterMap_map, List.map_filterMap]
  refine List.filterMap_congr fun entry _ => ?_
  rw [Function.comp_apply, Option.map_map]
  exact Option.map_map _ _ _

/-- An empty table has no shader. -/
theorem getElem?_empty (slot : Nat) : (empty[slot]?).join = none := by
  rw [empty, Vector.getElem?_replicate]
  split
  · rfl
  · rfl

/-- A slot that the table has holds what is put there, and the others hold what they held before. -/
theorem join_getElem?_set (table : PassTable) (inside : slot < PassArray.slotCount) (shader : Shader) (place : Nat) :
    ((table.setIfInBounds slot (some shader))[place]?).join =
      if place = slot then some shader else (table[place]?).join := by
  by_cases same : place = slot
  · subst same
    rw [if_pos rfl, Vector.getElem?_setIfInBounds_self_of_lt inside, Option.join_some]
  · rw [if_neg same, Vector.getElem?_setIfInBounds_ne (Ne.symm same)]

end PassTable

namespace PassTables

variable {tables : PassTables}

/-- After a slot is filled, its array has a table with that slot filled, and any other array has what it had. -/
theorem lookup_fill (tables : PassTables) (array : PassArray) (slot : Nat) (shader : Shader) (other : PassArray) :
    (tables.fill array slot shader).lookup other =
      if other = array then some (((tables.lookup array).getD .empty).setIfInBounds slot (some shader))
      else tables.lookup other := by
  fun_induction fill array slot shader tables with
  | case1 => rw [lookup_cons]; rfl
  | case2 table rest =>
    rw [lookup_cons, lookup_cons, lookup_cons, if_pos rfl]
    split
    · rfl
    · rfl
  | case3 first table rest differs ih =>
    rw [lookup_cons, lookup_cons, lookup_cons, ih, if_neg (Ne.symm differs)]
    by_cases same : other = first
    · subst same
      rw [if_pos rfl, if_neg differs, if_pos rfl]
    · rw [if_neg same, if_neg same]

/-- Filling a slot that the array has changes that slot and no other. -/
theorem get?_fill (inside : slot < PassArray.slotCount) (tables : PassTables) (array : PassArray) (shader : Shader)
    (other : PassArray) (place : Nat) :
    (tables.fill array slot shader).get? other place =
      if (other, place) = (array, slot) then some shader else tables.get? other place := by
  rw [get?, get?, lookup_fill]
  by_cases same : other = array
  · subst same
    rw [if_pos rfl, Option.bind_some, PassTable.join_getElem?_set _ inside]
    cases tables.lookup other with
    | none => simp [PassTable.getElem?_empty]
    | some table => simp
  · simp [same]

/-- A slot that no array has is not filled. -/
theorem get?_of_le (beyond : PassArray.slotCount ≤ slot) (tables : PassTables) (array : PassArray) :
    tables.get? array slot = none := by
  rw [get?]
  cases tables.lookup array with
  | none => rfl
  | some table => rw [Option.bind_some, Vector.getElem?_eq_none beyond, Option.join_none]

/-- The arrays that have a table are those that had one, and the one whose slot is filled. -/
theorem mem_keys_fill (tables : PassTables) (array : PassArray) (slot : Nat) (shader : Shader) (other : PassArray) :
    other ∈ (tables.fill array slot shader).map Prod.fst ↔ other = array ∨ other ∈ tables.map Prod.fst := by
  fun_induction fill array slot shader tables with
  | case1 => simp
  | case2 table rest => simp
  | case3 first table rest differs ih =>
    rw [List.map_cons, List.mem_cons, ih, List.map_cons, List.mem_cons]
    exact or_left_comm

/-- No array is given a second table. -/
theorem nodup_fill (distinct : (tables.map Prod.fst).Nodup) (array : PassArray) (slot : Nat) (shader : Shader) :
    ((tables.fill array slot shader).map Prod.fst).Nodup := by
  fun_induction fill array slot shader tables with
  | case1 => exact List.nodup_singleton array
  | case2 table rest => exact distinct
  | case3 first table rest differs ih =>
    obtain ⟨new, distinct⟩ := List.nodup_cons.1 distinct
    refine List.nodup_cons.2 ⟨fun listed => ?_, ih distinct⟩
    rcases (mem_keys_fill rest array slot shader first).1 listed with same | old
    · exact differs same
    · exact new old

/-- However many slots are filled, none is. -/
theorem nodup_fillAll (distinct : (tables.map Prod.fst).Nodup) (entries : List ((PassArray × Nat) × Shader)) :
    ((tables.fillAll entries).map Prod.fst).Nodup := by
  induction entries generalizing tables with
  | nil => exact distinct
  | cons entry rest ih => exact ih (nodup_fill distinct _ _ _)

/-- If none of the slots filled comes twice, and they are slots that the arrays have, then each holds what was put
there, and the others hold what they held before. -/
theorem get?_fillAll {entries : List ((PassArray × Nat) × Shader)} (distinct : (entries.map Prod.fst).Nodup)
    (inside : ∀ entry ∈ entries, entry.1.2 < PassArray.slotCount) (tables : PassTables) (array : PassArray)
    (slot : Nat) :
    (tables.fillAll entries).get? array slot = (entries.lookup (array, slot)).or (tables.get? array slot) := by
  induction entries generalizing tables with
  | nil => rfl
  | cons entry rest ih =>
    obtain ⟨new, distinct⟩ := List.nodup_cons.1 distinct
    obtain ⟨here, inside⟩ := List.forall_mem_cons.1 inside
    have onward := ih distinct inside (tables.fill entry.1.1 entry.1.2 entry.2)
    rw [fillAll, List.foldl_cons, ← fillAll, onward, get?_fill here, lookup_cons]
    by_cases same : (array, slot) = entry.1
    · -- the slot is not filled once more, so what is put there now stays
      have later : rest.lookup (array, slot) = none := by
        rw [List.lookup_eq_none_iff]
        exact fun other listed => bne_iff_ne.2 fun again => new (same ▸ again ▸ List.mem_map_of_mem listed)
      rw [if_pos same, if_pos same, later]
      rfl
    · rw [if_neg same, if_neg same]

/-- The tables with their shaders replaced one by one. -/
def mapShaders (f : Shader → Shader) (tables : PassTables) : PassTables :=
  tables.map fun (array, table) => (array, table.map (Option.map f))

/-- It makes no difference whether a shader is replaced before it is put into a table or afterwards. -/
theorem mapShaders_fill (f : Shader → Shader) (tables : PassTables) (array : PassArray) (slot : Nat)
    (shader : Shader) :
    (tables.fill array slot shader).mapShaders f = (tables.mapShaders f).fill array slot (f shader) := by
  fun_induction fill array slot shader tables with
  | case1 => simp [mapShaders, fill, PassTable.empty, Vector.map_setIfInBounds]
  | case2 table rest => simp [mapShaders, fill, Vector.map_setIfInBounds]
  | case3 first table rest differs ih =>
    have behind : mapShaders f ((first, table) :: rest) =
        (first, table.map (Option.map f)) :: mapShaders f rest := rfl
    rw [behind, fill, if_neg differs, ← ih]
    rfl

/-- The same holds of all shaders that are put into the tables. -/
theorem mapShaders_fillAll (f : Shader → Shader) (tables : PassTables)
    (entries : List ((PassArray × Nat) × Shader)) :
    (tables.fillAll entries).mapShaders f =
      (tables.mapShaders f).fillAll (entries.map fun entry => (entry.1, f entry.2)) := by
  induction entries generalizing tables with
  | nil => rfl
  | cons entry rest ih =>
    rw [fillAll, List.foldl_cons, ← fillAll, ih, mapShaders_fill]
    rfl

/-- Taken one after the other, the tables are those that the arrays have. -/
theorem perm_filterMap_lookup (distinct : (tables.map Prod.fst).Nodup) :
    tables.Perm (PassArray.all.filterMap fun array => (tables.lookup array).map fun table => (array, table)) := by
  have arrays : PassArray.all.Nodup := by decide
  refine (List.perm_ext_iff_of_nodup distinct.of_map ?_).2 ?_
  · exact List.Nodup.of_map Prod.fst
      ((List.map_id PassArray.all ▸ arrays).sublist (sublist_filterMap_keys id (List.lookup · tables) PassArray.all))
  · rintro ⟨array, table⟩
    rw [mem_iff_lookup_eq_some distinct, List.mem_filterMap]
    constructor
    · intro found
      exact ⟨array, array.mem_all, by rw [found, Option.map_some]⟩
    · rintro ⟨other, _, found⟩
      obtain ⟨_, at_other, same⟩ := Option.map_eq_some_iff.1 found
      obtain ⟨rfl, rfl⟩ := Prod.mk.inj same
      exact at_other

end PassTables

end ShaderBundle
