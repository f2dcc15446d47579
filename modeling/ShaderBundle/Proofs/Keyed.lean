import Mathlib.Data.Set.Card
/-!
# Entries by key

A table is written as a list of entries, each with a key and a value. Where no key comes twice, an entry that is
listed is the one that is found under its key, and entries can be counted by their keys.
-/

namespace ShaderBundle

variable {α β γ : Type}

/-- A look-up sees the first entry first. -/
theorem lookup_cons [BEq α] [LawfulBEq α] [DecidableEq α] (key : α) (entry : α × β) (entries : List (α × β)) :
    (entry :: entries).lookup key = if key = entry.1 then some entry.2 else entries.lookup key := by
  rw [List.lookup_cons]
  by_cases same : key = entry.1
  · rw [if_pos same, beq_iff_eq.2 same]
  · rw [if_neg same, beq_eq_false_iff_ne.2 same]

/-- If the values are replaced one by one, so is what is found under a key. -/
theorem lookup_map_value [BEq α] (f : β → γ) (entries : List (α × β)) (key : α) :
    (entries.map fun entry => (entry.1, f entry.2)).lookup key = (entries.lookup key).map f := by
  induction entries with
  | nil => rfl
  | cons entry rest ih =>
    rw [List.map_cons, List.lookup_cons, List.lookup_cons]
    cases key == entry.1 with
    | true => rfl
    | false => exact ih

/-- Where no key comes twice, the entries listed are those that are found under their keys. -/
theorem mem_iff_lookup_eq_some [BEq α] [LawfulBEq α] {entries : List (α × β)}
    (distinct : (entries.map Prod.fst).Nodup) {key : α} {value : β} :
    (key, value) ∈ entries ↔ entries.lookup key = some value := by
  rw [List.lookup_eq_some_iff]
  constructor
  · intro listed
    obtain ⟨before, behind, rfl⟩ := List.append_of_mem listed
    refine ⟨before, behind, rfl, fun entry inside => ?_⟩
    rw [List.map_append, List.map_cons] at distinct
    have apart := (List.nodup_append.1 distinct).2.2 entry.1 (List.mem_map_of_mem inside) key List.mem_cons_self
    exact bne_iff_ne.2 apart.symm
  · rintro ⟨before, behind, rfl, _⟩
    exact List.mem_append_right before List.mem_cons_self

/-- What is found for some things comes under their keys, in their order. -/
theorem sublist_filterMap_keys (key : γ → α) (found? : γ → Option β) (things : List γ) :
    ((things.filterMap fun x => (found? x).map fun value => (key x, value)).map Prod.fst).Sublist
      (things.map key) := by
  induction things with
  | nil => exact .slnil
  | cons x rest ih =>
    rw [List.filterMap_cons, List.map_cons]
    cases found? x with
    | none => exact ih.cons (key x)
    | some value => exact ih.cons_cons (key x)

/-- Where entries are listed group by group, under keys that tell the group, no key comes twice if none does in a
group and no two groups are the same. -/
theorem nodup_flatMap_keys {groups : List α} (apart : groups.Nodup) {entries : α → List ((α × γ) × β)}
    (own : ∀ group, ∀ entry ∈ entries group, entry.1.1 = group)
    (distinct : ∀ group, ((entries group).map Prod.fst).Nodup) : ((groups.flatMap entries).map Prod.fst).Nodup := by
  rw [List.map_flatMap]
  refine List.nodup_flatMap.2 ⟨fun group _ => distinct group, ?_⟩
  refine apart.imp fun {first other} differs key inFirst inOther => ?_
  obtain ⟨entry, listed, rfl⟩ := List.mem_map.1 inFirst
  obtain ⟨entry', listed', same⟩ := List.mem_map.1 inOther
  exact differs ((own first entry listed).symm.trans (same ▸ own other entry' listed'))

/-- Where no key comes twice, there are as many entries of a kind as there are keys that have one. -/
theorem countP_eq_ncard [DecidableEq α] {entries : List (α × β)} (distinct : (entries.map Prod.fst).Nodup)
    (kind : β → Bool) :
    entries.countP (fun entry => kind entry.2) =
      {key | ∃ value, (key, value) ∈ entries ∧ kind value = true}.ncard := by
  let keys := (entries.filter fun entry => kind entry.2).map Prod.fst
  have once : keys.Nodup := distinct.sublist (List.filter_sublist.map Prod.fst)
  have same : {key | ∃ value, (key, value) ∈ entries ∧ kind value = true} = (keys.toFinset : Set α) := by
    ext key
    simp [keys]
  rw [same, Set.ncard_coe_finset, List.toFinset_card_of_nodup once, List.length_map, List.countP_eq_length_filter]

end ShaderBundle
