import ShaderBundle.Proofs.Path.Canonical
/-!
# Joining paths

The operations on a path do with its names what they should do with a list. A text that is joined to a path
leads on from its names part by part, so it makes no difference whether two texts are joined one after the
other or with a slash between them. Two dots take the last name back, and a path is put together again from
the folder that holds it and its name. Resolving a text is joining it to one of the two.
-/

namespace ShaderBundle.Path

variable {p folder : Path} {t : Text}

/-- A folder holds what lies right inside it. -/
theorem parent?_child (folder : Path) (name : Segment) : (folder.child name).parent? = some folder := by
  rw [parent?, if_neg (child_ne_root folder name), up_child]

/-- A path with a parent lies right inside it. -/
theorem eq_child_of_parent? {name : Segment} (held : p.parent? = some folder) (named : p.name? = some name) :
    p = folder.child name := by
  rcases p.eq_root_or_child with rfl | ⟨folder', name', rfl⟩
  · contradiction
  · rw [parent?_child] at held
    rw [name?_child] at named
    rw [Option.some.inj held, Option.some.inj named]

/-- Two dots lead to the folder that holds the path, and from the root nowhere. -/
theorem follow_dots (p : Path) : p.follow ['.', '.'] = p.up := by
  have single : '/' ∉ ['.', '.'] := by decide
  rw [follow, List.splitOn_eq_singleton single, List.foldl_cons, List.foldl_nil, step, if_pos rfl]

/-- Where a text starts from when it is joined to a path: at the root after a leading slash. -/
def joinBase (p : Path) (t : Text) : Path := if t.head? = some '/' then root else p

/-- A text that is not empty is followed from where it starts. -/
theorem join_of_ne_nil (p : Path) (filled : t ≠ []) : p.join t = .ok ((p.joinBase t).follow t) := by
  obtain ⟨c, rest, rfl⟩ := List.exists_cons_of_ne_nil filled
  by_cases slash : c = '/'
  · subst slash
    rw [joinBase, List.head?_cons, if_pos rfl, follow_slash]
    rfl
  · have other : (c :: rest).head? ≠ some '/' := by simpa using slash
    rw [joinBase, if_neg other]
    exact p.join_of_isRelative ⟨c, rest, rfl, slash⟩

/-- What follows behind a slash does not change where a text starts. -/
theorem joinBase_append (p : Path) (filled : t ≠ []) (more : Text) :
    p.joinBase (t ++ more) = p.joinBase t := by
  rw [joinBase, joinBase, List.head?_append_of_ne_nil _ filled]

/-- The operations on a path do with its names what they should do with a list. -/
structure ActsOnNames (p : Path) : Prop where
  /-- A text that is not empty is joined part by part: to the names of the path, or to none after a leading
  slash. Parts that are empty or a dot are passed over, and two dots take the last name back. -/
  join_names : ∀ t, t ≠ [] → ∃ q, p.join t = .ok q ∧
    q.names = (t.splitOn '/').foldl Written.keep (if t.head? = some '/' then [] else p.names)
  /-- Only the empty text cannot be joined. -/
  join_error : ∀ t cause, p.join t = .error cause ↔ t = [] ∧ cause = .empty
  /-- Two texts are joined one after the other as they are with a slash between them, unless the second starts
  at the root. -/
  join_join : ∀ s t, s ≠ [] → t ≠ [] → t.head? ≠ some '/' →
    ∃ q, p.join s = .ok q ∧ q.join t = p.join (s ++ '/' :: t)
  /-- Two dots lead to the parent, and from the root to the root. -/
  join_dots : p.join ['.', '.'] = .ok (p.parent?.getD root)
  /-- A path other than the root is its name, joined to its parent. -/
  parent_join_name : p ≠ root → ∃ folder name, p.parent? = some folder ∧ p.name? = some name ∧
    folder.join name.text = .ok p
  /-- The path is the parent of what a single name leads to. -/
  parent_of_join : ∀ t, t ≠ [] → t ≠ ['.'] → t ≠ ['.', '.'] → '/' ∉ t →
    ∃ q, p.join t = .ok q ∧ q.parent? = some p
  /-- Where the last name has a dot behind its first character, a text is resolved as it is joined to the
  parent, faults included. -/
  resolve_file : ∀ folder name, p.parent? = some folder → p.name? = some name → '.' ∈ name.text.tail →
    ∀ t, p.resolve t = folder.join t
  /-- Where it has none, and at the root, a text is resolved as it is joined to the path. -/
  resolve_folder : (∀ name, p.name? = some name → '.' ∉ name.text.tail) → ∀ t, p.resolve t = p.join t
  /-- Each operation leads from the text of the path to the text of where it leads from the path. -/
  move_text : ∀ m, Written.move p.text m = (p.move m).map text

/-- The operations on every path do with its names what they should do with a list. -/
theorem actsOnNames (p : Path) : p.ActsOnNames := by
  constructor
  case join_names =>
    intro t filled
    refine ⟨_, p.join_of_ne_nil filled, ?_⟩
    rw [names_follow, joinBase]
    split
    · rfl
    · rfl
  case join_error =>
    intro t cause
    cases t with
    | nil =>
      have refused : p.join [] = .error .empty := rfl
      rw [refused]
      exact ⟨fun same => ⟨rfl, (Except.error.inj same).symm⟩, fun same => by rw [same.2]⟩
    | cons c rest =>
      rw [p.join_of_ne_nil (List.cons_ne_nil c rest)]
      simp
  case join_join =>
    intro s t filled filled' relative
    refine ⟨_, p.join_of_ne_nil filled, ?_⟩
    rw [join_of_ne_nil _ filled', joinBase, if_neg relative, join_of_ne_nil p (by simp),
      joinBase_append p filled, follow_append]
  case join_dots =>
    rw [p.join_of_ne_nil (List.cons_ne_nil _ _), getD_parent?]
    exact congrArg Except.ok p.follow_dots
  case parent_join_name =>
    intro inside
    obtain ⟨folder, name, rfl⟩ := p.eq_root_or_child.resolve_left inside
    exact ⟨folder, name, parent?_child folder name, name?_child folder name,
      folder.join_of_isSegment name.isSegment⟩
  case parent_of_join =>
    intro t filled single dots noSlash
    exact ⟨_, p.join_of_isSegment ⟨filled, single, dots, noSlash⟩, parent?_child p _⟩
  case resolve_file =>
    intro folder name held named dotted t
    have file : (folder.child name).looksLikeFile = true := by
      rw [looksLikeFile_child, List.contains_iff_mem]
      exact dotted
    rw [eq_child_of_parent? held named, resolve_eq, if_pos file, up_child]
  case resolve_folder =>
    intro undotted t
    have plain : ¬ p.looksLikeFile = true := by
      rcases p.eq_root_or_child with rfl | ⟨folder, name, rfl⟩
      · decide
      · rw [looksLikeFile_child, List.contains_iff_mem]
        exact undotted name (name?_child folder name)
    rw [resolve_eq, if_neg plain]
  case move_text => exact p.move_text

/-- Two dots that are joined in the middle climb above the path that the first text was joined to. -/
example : ((root.follow "shaders/lib".toList).join "../..//x/../..".toList).map text = .ok "/".toList := by
  decide +kernel

end ShaderBundle.Path
