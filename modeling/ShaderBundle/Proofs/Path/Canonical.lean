import ShaderBundle.Proofs.Path.Written
import ShaderBundle.Proofs.Text.Lines
import Mathlib.Data.List.Basic
import Mathlib.Data.List.Induction
import Mathlib.Data.List.TakeWhile
/-!
# Canonical paths

Whatever is done with a path can be done with its text alone: the text is cut at its slashes, the parts are
taken one by one, and what is left of them is joined again. A path and its text go through such moves side by
side, so a text that any row of moves leads to is written in the one way in which that path is written, and
two written paths lead to the same place exactly if the same parts are left of them. Since no part that is
left leads upwards, a path leads from the bundle's folder down, wherever this folder is.
-/

namespace ShaderBundle

/-- What can be done to come to a path. -/
inductive Move where
  /-- Starts again at the root. -/
  | root
  /-- Starts again with a text that is read from the root. -/
  | parse (t : Text)
  /-- Goes to the folder that holds the path. -/
  | parent
  /-- Goes where a text leads from the path as a folder. -/
  | join (t : Text)
  /-- Goes where a text leads from the path, which is taken for a file or a folder by its looks. -/
  | resolve (t : Text)

namespace Path

/-- The texts of the segments, from the root down. -/
def names (p : Path) : List Text := p.segments.map Segment.text

/-- Where a move leads from the path, if it leads anywhere. -/
def move (p : Path) : Move → Option Path
  | .root => some root
  | .parse t => (parse t).toOption
  | .parent => p.parent?
  | .join t => (p.join t).toOption
  | .resolve t => (p.resolve t).toOption

/-- Where a row of moves leads; one that leads nowhere is passed over. -/
def after (p : Path) (moves : List Move) : Path :=
  moves.foldl (fun p m => (p.move m).getD p) p

end Path

/-! ## The same moves on texts -/

namespace Written

/-- Takes one more part of a written path: an empty part and a single dot change nothing, and two dots take
back the last of the parts that were kept, if there is one. -/
def keep (kept : List Text) (part : Text) : List Text :=
  if part = [] ∨ part = ['.'] then kept
  else if part = ['.', '.'] then kept.dropLast
  else kept ++ [part]

/-- What is left of the parts of a written path. -/
def reduced (t : Text) : List Text := (t.splitOn '/').foldl keep []

/-- Parts written as a path: joined with slashes, behind a slash. -/
def rooted (parts : List Text) : Text := '/' :: ['/'].intercalate parts

/-- What stands before the last slash. -/
def beforeSlash (t : Text) : Text := (t.reverse.dropWhile (· ≠ '/')).tail.reverse

/-- What stands behind the last slash. -/
def behindSlash (t : Text) : Text := (t.reverse.takeWhile (· ≠ '/')).reverse

/-- Reads a text from the root. -/
def parse? (t : Text) : Option Text :=
  if t.head? = some '/' then some (rooted (reduced t)) else none

/-- The text of the folder that holds a path: what stands before its last slash, or the slash alone. -/
def parent? (t : Text) : Option Text :=
  if t = ['/'] then none
  else if beforeSlash t = [] then some ['/']
  else some (beforeSlash t)

/-- Puts a text behind a path and reads the whole from the root. -/
def join? (t s : Text) : Option Text :=
  if s = [] then none
  else if s.head? = some '/' then parse? s
  else some (rooted (reduced (t ++ '/' :: s)))

/-- Whether a dot stands behind the last slash of a path, after one other character at least. -/
def looksLikeFile (t : Text) : Bool := t ≠ ['/'] && (behindSlash t).tail.contains '.'

/-- Puts a text behind a path or behind its folder, by the looks of the path. -/
def resolve? (t s : Text) : Option Text :=
  if s.head? = some '/' then parse? s
  else if looksLikeFile t then join? ((parent? t).getD ['/']) s
  else join? t s

/-- Where a move leads from a written path, if it leads anywhere. -/
def move (t : Text) : Move → Option Text
  | .root => some ['/']
  | .parse s => parse? s
  | .parent => parent? t
  | .join s => join? t s
  | .resolve s => resolve? t s

/-- Where a row of moves leads from a written path; one that leads nowhere is passed over. -/
def after (t : Text) (moves : List Move) : Text :=
  moves.foldl (fun t m => (move t m).getD t) t

/-- The names in a place: what stands between its slashes, as far as something does. -/
def names (place : Text) : List Text := (place.splitOn '/').filter (· ≠ [])

/-- The names on both sides of a slash are those of the two sides. -/
theorem names_append (s t : Text) : names (s ++ '/' :: t) = names s ++ names t := by
  rw [names, List.splitOn_append_cons_self, List.filter_append]
  rfl

/-- A segment is its one name. -/
theorem names_segment (name : Segment) : names name.text = [name.text] := by
  obtain ⟨filled, _, _, noSlash⟩ := name.isSegment
  rw [names, List.splitOn_eq_singleton noSlash]
  exact List.filter_cons_of_pos (by simpa using filled)

/-- Putting a segment behind a place adds its name, whether a slash goes between the two or not. -/
theorem names_putBehind (place : Text) (name : Segment) :
    names (Path.putBehind place name.text) = names place ++ [name.text] := by
  rw [Path.putBehind]
  split
  next bare =>
    rcases bare with rfl | slash
    · rw [List.nil_append, names_segment]
      rfl
    · obtain ⟨front, rfl⟩ := List.getLast?_eq_some_iff.1 slash
      have whole : front ++ ['/'] ++ name.text = front ++ '/' :: name.text := by simp
      have closed : names (front ++ ['/']) = names front ++ names [] := names_append front []
      rw [whole, names_append, names_segment, closed]
      simp [names]
  next => rw [names_append, names_segment]

/-- On the way back from the end of a text without a slash, none is met. -/
theorem ne_slash_of_mem_reverse {t : Text} (noSlash : '/' ∉ t) :
    ∀ c ∈ t.reverse, decide (c ≠ '/') = true := by
  intro c listed
  rw [decide_eq_true_eq]
  rintro rfl
  exact noSlash (List.mem_reverse.1 listed)

/-- Before the last slash stands what comes before it. -/
theorem beforeSlash_append (s : Text) {t : Text} (noSlash : '/' ∉ t) : beforeSlash (s ++ '/' :: t) = s := by
  have back : (s ++ '/' :: t).reverse = t.reverse ++ '/' :: s.reverse := by simp
  rw [beforeSlash, back, List.dropWhile_append_of_pos (ne_slash_of_mem_reverse noSlash)]
  simp

/-- Behind the last slash stands what comes behind it. -/
theorem behindSlash_append (s : Text) {t : Text} (noSlash : '/' ∉ t) : behindSlash (s ++ '/' :: t) = t := by
  have back : (s ++ '/' :: t).reverse = t.reverse ++ '/' :: s.reverse := by simp
  rw [behindSlash, back, List.takeWhile_append_of_pos (ne_slash_of_mem_reverse noSlash)]
  simp

/-- Parts that are each written behind a slash are a written path, if there are any. -/
theorem flatMap_slash {part : Text} {parts : List Text} :
    (part :: parts).flatMap ('/' :: ·) = rooted (part :: parts) := by
  induction parts generalizing part with
  | nil => rw [rooted, List.intercalate_singleton, List.flatMap_singleton]
  | cons next parts ih =>
    rw [List.flatMap_cons, ih, rooted, rooted, List.intercalate_cons_cons]
    simp

end Written

/-! ## A path and its text -/

namespace Path

open Written (keep reduced rooted)

/-- One more part leads where it does on texts. -/
theorem names_step (p : Path) {part : Text} (noSlash : '/' ∉ part) :
    (p.step part).names = keep p.names part := by
  rw [step, keep]
  by_cases back : part = ['.', '.']
  · have moves : ¬ (part = [] ∨ part = ['.']) := by simp [back]
    rw [if_pos back, if_neg moves, if_pos back, names, names, up, List.map_dropLast]
  · rw [if_neg back, if_neg back]
    by_cases idle : part = [] ∨ part = ['.']
    · have none : Segment.ofText? part = none := by
        apply dif_neg
        rintro ⟨filled, single, _⟩
        exact idle.elim filled single
      rw [if_pos idle, none]
    · obtain ⟨filled, single⟩ := not_or.1 idle
      have found : Segment.ofText? part = some ⟨part, filled, single, back, noSlash⟩ := dif_pos _
      rw [if_neg idle, found]
      exact List.map_append

/-- Following a text leads where its parts do. -/
theorem names_follow (p : Path) (t : Text) : (p.follow t).names = (t.splitOn '/').foldl keep p.names := by
  have single : ∀ part ∈ t.splitOn '/', '/' ∉ part := fun part listed => Text.not_mem_of_mem_splitOn listed
  rw [follow]
  generalize t.splitOn '/' = parts at single
  induction parts generalizing p with
  | nil => rfl
  | cons part parts ih =>
    obtain ⟨first, later⟩ := List.forall_mem_cons.1 single
    rw [List.foldl_cons, List.foldl_cons, ih (p.step part) later, names_step p first]

/-- The names of what a text leads to from the root are what is left of its parts. -/
theorem names_follow_root (t : Text) : (root.follow t).names = reduced t := names_follow root t

/-- A path is told by its names. -/
theorem names_injective : Function.Injective names := by
  intro p q same
  have segments : p.segments = q.segments := List.map_injective_iff.2 Segment.text_injective same
  cases p
  cases q
  cases segments
  rfl

/-- A path is written as its names, behind a slash and joined with slashes. -/
theorem text_eq_rooted (p : Path) : p.text = rooted p.names := by
  obtain ⟨segments⟩ := p
  cases segments with
  | nil => rfl
  | cons first rest =>
    have inside : (⟨first :: rest⟩ : Path) ≠ root := by simp [root]
    have written : (first :: rest).flatMap (fun name => '/' :: name.text) =
        ((first :: rest).map Segment.text).flatMap ('/' :: ·) := (List.flatMap_map ..).symm
    rw [text, if_neg inside, written]
    exact Written.flatMap_slash

/-- From the root, the text of a path leads to it. -/
theorem follow_root_text (p : Path) : root.follow p.text = p := by
  have read := parse_text p
  rw [text_eq_rooted, rooted, parse] at read
  rw [text_eq_rooted, rooted, follow_slash]
  exact Except.ok.inj read

/-- What is read from the root is read so on texts, and nothing else is. -/
theorem map_text_parse (t : Text) : (parse t).toOption.map text = Written.parse? t := by
  rw [Written.parse?]
  cases t with
  | nil => rfl
  | cons c rest =>
    by_cases slash : c = '/'
    · subst slash
      have read : parse ('/' :: rest) = .ok (root.follow ('/' :: rest)) := by rw [parse, follow_slash]
      rw [List.head?_cons, if_pos rfl, read, ← names_follow_root, ← text_eq_rooted]
      rfl
    · have refused : parse (c :: rest) = .error (.notRooted (c :: rest)) := by
        rw [parse]
        intro tail same
        exact slash (List.cons.inj same).1
      have other : (c :: rest).head? ≠ some '/' := by simpa using slash
      rw [if_neg other, refused]
      rfl

/-- The last name of a path stands behind the last slash of its text. -/
theorem text_child (folder : Path) (name : Segment) :
    (folder.child name).text = (folder.segments.flatMap fun name => '/' :: name.text) ++ '/' :: name.text := by
  rw [text, if_neg (child_ne_root folder name), child, List.flatMap_append, List.flatMap_singleton]

/-- A path is the root, or lies inside a folder. -/
theorem eq_root_or_child (p : Path) : p = root ∨ ∃ folder name, p = child folder name := by
  obtain ⟨segments⟩ := p
  rcases List.eq_nil_or_concat segments with rfl | ⟨init, last, rfl⟩
  · exact Or.inl rfl
  · exact Or.inr ⟨⟨init⟩, last, by rw [child, List.concat_eq_append]⟩

/-- The folder that holds a path is found in its text. -/
theorem map_text_parent (p : Path) : p.parent?.map text = Written.parent? p.text := by
  rcases p.eq_root_or_child with rfl | ⟨folder, name, rfl⟩
  · rfl
  · have inside := child_ne_root folder name
    have noSlash : '/' ∉ name.text := name.isSegment.2.2.2
    have longer : (folder.child name).text ≠ ['/'] := fun same => inside (text_injective same)
    have front := Written.beforeSlash_append (folder.segments.flatMap fun name => '/' :: name.text) noSlash
    rw [← text_child] at front
    rw [parent?, if_neg inside, up_child, Option.map_some, Written.parent?, if_neg longer, front]
    by_cases top : folder = root
    · rw [top]
      rfl
    · have written : folder.text = folder.segments.flatMap fun name => '/' :: name.text := by
        rw [text, if_neg top]
      have filled : folder.text ≠ [] := by
        rw [text_eq_rooted]
        exact List.cons_ne_nil _ _
      rw [← written, if_neg filled]

/-- Where a text leads from a folder is found by putting it behind the text of the folder. -/
theorem map_text_join (p : Path) (t : Text) : (p.join t).toOption.map text = Written.join? p.text t := by
  cases t with
  | nil => rfl
  | cons c rest =>
    rw [Written.join?, if_neg (List.cons_ne_nil c rest)]
    by_cases slash : c = '/'
    · subst slash
      rw [List.head?_cons, if_pos rfl, ← map_text_parse]
      rfl
    · have other : (c :: rest).head? ≠ some '/' := by simpa using slash
      have whole : root.follow (p.text ++ '/' :: c :: rest) = p.follow (c :: rest) := by
        rw [follow_append, follow_root_text]
      rw [if_neg other, p.join_of_isRelative ⟨c, rest, rfl, slash⟩, ← names_follow_root, whole, ← text_eq_rooted]
      rfl

/-- The last dot of a text is not its first character if there is a dot behind the first character. -/
theorem one_lt_length_lastDot_iff {t : Text} :
    1 < (t.reverse.dropWhile (· ≠ '.')).length ↔ '.' ∈ t.tail := by
  by_cases dotted : '.' ∈ t
  · -- the text is cut at its last dot
    obtain ⟨back, front, cut, last⟩ := List.eq_append_cons_of_mem (List.mem_reverse.2 dotted)
    have whole : t = front.reverse ++ '.' :: back.reverse := by
      rw [← List.reverse_reverse t, cut]
      simp
    have passed : ∀ c ∈ back, decide (c ≠ '.') = true := by
      intro c inside
      rw [decide_eq_true_eq]
      rintro rfl
      exact last inside
    have left : t.reverse.dropWhile (· ≠ '.') = '.' :: front := by
      rw [cut, List.dropWhile_append_of_pos passed]
      exact List.dropWhile_cons_of_neg (by simp)
    rw [left, whole]
    cases front using List.reverseRecOn with
    | nil => simp [last]
    | append_singleton front c => simp
  · have behind : '.' ∉ t.tail := fun inside => dotted (List.mem_of_mem_tail inside)
    have nothing : t.reverse.dropWhile (· ≠ '.') = [] := by
      apply List.dropWhile_eq_nil_iff.2
      intro c inside
      rw [decide_eq_true_eq]
      rintro rfl
      exact dotted (List.mem_reverse.1 inside)
    rw [nothing]
    simp [behind]

/-- A path looks like a file if its last name has a dot behind its first character. -/
theorem looksLikeFile_child (folder : Path) (name : Segment) :
    (folder.child name).looksLikeFile = name.text.tail.contains '.' := by
  rw [looksLikeFile, name?_child, Option.any_some, Bool.eq_iff_iff, decide_eq_true_eq, List.contains_iff_mem]
  exact one_lt_length_lastDot_iff

/-- A path looks like a file by what stands behind its last slash. -/
theorem looksLikeFile_text (p : Path) : Written.looksLikeFile p.text = p.looksLikeFile := by
  rcases p.eq_root_or_child with rfl | ⟨folder, name, rfl⟩
  · rfl
  · have noSlash : '/' ∉ name.text := name.isSegment.2.2.2
    have longer : (folder.child name).text ≠ ['/'] := fun same => child_ne_root folder name (text_injective same)
    have behind := Written.behindSlash_append (folder.segments.flatMap fun name => '/' :: name.text) noSlash
    rw [← text_child] at behind
    rw [Written.looksLikeFile, behind, looksLikeFile_child, decide_eq_true longer, Bool.true_and]

/-- The folder that holds a path is where the path leads without its last segment; the root stays. -/
theorem getD_parent? (p : Path) : p.parent?.getD root = p.up := by
  rw [parent?]
  by_cases top : p = root
  · rw [top]
    rfl
  · rw [if_neg top]
    rfl

/-- A text leads from a path as from a folder: from the one that holds the path if that looks like a file, and
else from the path itself. -/
theorem resolve_eq (p : Path) (t : Text) :
    p.resolve t = if p.looksLikeFile then p.up.join t else p.join t := by
  cases t with
  | nil => rw [resolve, getD_parent?]; simp
  | cons c rest =>
    by_cases slash : c = '/'
    · subst slash
      rw [resolve]
      split
      · rfl
      · rfl
    · rw [resolve, getD_parent?]
      intro tail same
      exact slash (List.cons.inj same).1

/-- Where a text leads from a path that is taken for a file or a folder is found on texts. -/
theorem map_text_resolve (p : Path) (t : Text) :
    (p.resolve t).toOption.map text = Written.resolve? p.text t := by
  have folder : (Written.parent? p.text).getD ['/'] = p.up.text := by
    rw [← map_text_parent, ← getD_parent?]
    exact Option.getD_map text root p.parent?
  have rooted (q : Path) (slash : t.head? = some '/') : Written.join? q.text t = Written.parse? t := by
    have filled : t ≠ [] := by
      rintro rfl
      contradiction
    rw [Written.join?, if_neg filled, if_pos slash]
  rw [Written.resolve?, looksLikeFile_text, folder, resolve_eq]
  by_cases slash : t.head? = some '/'
  · rw [if_pos slash]
    split
    · rw [map_text_join, rooted p.up slash]
    · rw [map_text_join, rooted p slash]
  · rw [if_neg slash]
    split
    · exact map_text_join p.up t
    · exact map_text_join p t

/-- A move leads from a path and from its text to the same place. -/
theorem move_text (p : Path) (m : Move) : Written.move p.text m = (p.move m).map text := by
  cases m with
  | root => rfl
  | parse t => exact (map_text_parse t).symm
  | parent => exact p.map_text_parent.symm
  | join t => exact (p.map_text_join t).symm
  | resolve t => exact (p.map_text_resolve t).symm

/-- So does a row of moves. -/
theorem after_text (p : Path) (moves : List Move) : Written.after p.text moves = (p.after moves).text := by
  induction moves generalizing p with
  | nil => rfl
  | cons m moves ih =>
    have first : (Written.move p.text m).getD p.text = ((p.move m).getD p).text := by
      rw [move_text, Option.getD_map]
    rw [Written.after, List.foldl_cons, first]
    exact ih _

/-! ## Confinement -/

/-- A path with one way of being written, which leads from the bundle's folder down. -/
structure IsConfined (p : Path) : Prop where
  /-- The path is written as its names, behind a slash and joined with slashes. -/
  written : p.text = rooted p.names
  /-- No name is empty, a dot or two dots, or holds a slash. -/
  plain : ∀ name ∈ p.names, IsSegment name
  /-- The path reads back from its text. -/
  readsBack : parse p.text = .ok p
  /-- On a disk, the place of the path begins as that of the bundle's folder, and the names in the one are
  those in the other, followed by those of the path. -/
  inside : ∀ top, top <+: p.below top ∧ Written.names (p.below top) = Written.names top ++ p.names

/-- The place of a path is found by putting its names, one by one, behind that of the bundle's folder. -/
theorem names_below (p : Path) (top : Text) :
    top <+: p.below top ∧ Written.names (p.below top) = Written.names top ++ p.names := by
  obtain ⟨segments⟩ := p
  induction segments using List.reverseRecOn with
  | nil => exact ⟨List.prefix_rfl, (List.append_nil _).symm⟩
  | append_singleton init last ih =>
    have onward : (⟨init ++ [last]⟩ : Path).below top = putBehind ((⟨init⟩ : Path).below top) last.text :=
      below_child top ⟨init⟩ last
    have longer : (⟨init ++ [last]⟩ : Path).names = (⟨init⟩ : Path).names ++ [last.text] := List.map_append
    rw [onward, Written.names_putBehind, ih.2, longer, List.append_assoc]
    exact ⟨ih.1.trans (prefix_putBehind _ _), rfl⟩

/-- Every path is confined, whatever row of moves has led to it and whatever texts the moves were made with;
the same moves made on texts lead to its text. Two texts are read from the root as the same path exactly if
the same parts are left of them. -/
theorem isConfined_after :
    (∀ (p : Path) (moves : List Move),
      (p.after moves).IsConfined ∧ Written.after p.text moves = (p.after moves).text) ∧
    ∀ s t : Text, ∃ p q, parse ('/' :: s) = .ok p ∧ parse ('/' :: t) = .ok q ∧
      (p = q ↔ reduced ('/' :: s) = reduced ('/' :: t)) := by
  constructor
  · intro p moves
    have plain : ∀ name ∈ (p.after moves).names, IsSegment name := by
      intro name listed
      obtain ⟨segment, _, rfl⟩ := List.mem_map.1 listed
      exact segment.isSegment
    exact ⟨⟨text_eq_rooted _, plain, parse_text _, names_below _⟩, after_text p moves⟩
  · intro s t
    have read (t : Text) : parse ('/' :: t) = .ok (root.follow ('/' :: t)) := by rw [parse, follow_slash]
    refine ⟨_, _, read s, read t, ?_⟩
    rw [← names_follow_root, ← names_follow_root]
    exact names_injective.eq_iff.symm

/-- From a file, two dots lead to the folder above its own, and no further than to the root. -/
example : (root.after [.parse "//shaders/./a.hlsl".toList, .resolve "../../lib".toList]).text =
    "/lib".toList := by decide +kernel

end Path

end ShaderBundle
