import ShaderBundle.Path
import Mathlib.Logic.Function.Basic
/-!
# Written paths

Following a written path goes part by part: what stands before a slash is followed first. So a path reads
back from the text that it is written as, and two paths are written differently.
-/

namespace ShaderBundle

/-- A segment reads back from its text. -/
theorem Segment.ofText?_text (name : Segment) : ofText? name.text = some name := by
  rw [ofText?, dif_pos name.isSegment]

/-- A segment is told by its text. -/
theorem Segment.text_injective : Function.Injective Segment.text := by
  rintro ⟨text, _⟩ ⟨text', _⟩ same
  cases same
  rfl

/-- A name that leads from a folder to something below it: it is not empty and starts with no slash. -/
def IsRelative (name : Text) : Prop := ∃ c rest, name = c :: rest ∧ c ≠ '/'

/-- A name stays relative if something is written behind it. -/
theorem IsRelative.append {name : Text} (relative : IsRelative name) (ending : Text) :
    IsRelative (name ++ ending) := by
  obtain ⟨c, rest, rfl, differs⟩ := relative
  exact ⟨c, rest ++ ending, rfl, differs⟩

/-- A text that can name a file is relative. -/
theorem IsSegment.isRelative {t : Text} (segment : IsSegment t) : IsRelative t := by
  obtain ⟨filled, _, _, noSlash⟩ := segment
  cases t with
  | nil => contradiction
  | cons c rest =>
    have differs : c ≠ '/' := fun same => noSlash (by rw [same]; exact List.mem_cons_self)
    exact ⟨c, rest, rfl, differs⟩

namespace Path

/-- What lies inside a folder is not the root. -/
theorem child_ne_root (folder : Path) (name : Segment) : folder.child name ≠ root := by
  intro same
  have none : folder.segments ++ [name] = [] := congrArg segments same
  exact List.cons_ne_nil _ _ (List.append_eq_nil_iff.1 none).2

/-- The last segment of what lies inside a folder is its name. -/
theorem name?_child (folder : Path) (name : Segment) : (folder.child name).name? = some name :=
  List.getLast?_concat

/-- What lies inside a folder is told by its name. -/
theorem child_injective (folder : Path) : Function.Injective folder.child := by
  intro name name' same
  have named := congrArg name? same
  rw [name?_child, name?_child] at named
  exact Option.some.inj named

/-- What lies inside a folder is not the folder. -/
theorem child_ne_self (folder : Path) (name : Segment) : folder.child name ≠ folder := by
  intro same
  have longer := congrArg (fun p : Path => p.segments.length) same
  simp [child] at longer

/-- Without its name, what lies inside a folder is the folder. -/
theorem up_child (folder : Path) (name : Segment) : (folder.child name).up = folder := by
  rw [up, child, List.dropLast_concat]

/-- A segment leads into the folder of its name. -/
theorem step_text (p : Path) (name : Segment) : p.step name.text = p.child name := by
  obtain ⟨_, _, notUp, _⟩ := name.isSegment
  rw [step, if_neg notUp, Segment.ofText?_text]

/-- The empty text leads nowhere. -/
theorem follow_nil (p : Path) : p.follow [] = p := rfl

/-- A segment's text is a single part. -/
theorem follow_text (p : Path) (name : Segment) : p.follow name.text = p.child name := by
  obtain ⟨_, _, _, noSlash⟩ := name.isSegment
  rw [follow, List.splitOn_eq_singleton noSlash, List.foldl_cons, List.foldl_nil, step_text]

/-- What stands before a slash is followed first. -/
theorem follow_append (p : Path) (s t : Text) : p.follow (s ++ '/' :: t) = (p.follow s).follow t := by
  rw [follow, List.splitOn_append_cons_self, List.foldl_append]
  rfl

/-- A leading slash changes nothing. -/
theorem follow_slash (p : Path) (t : Text) : p.follow ('/' :: t) = p.follow t :=
  follow_append p [] t

/-- A relative name is followed from the folder. -/
theorem join_of_isRelative (folder : Path) {name : Text} (relative : IsRelative name) :
    folder.join name = .ok (folder.follow name) := by
  obtain ⟨c, rest, rfl, differs⟩ := relative
  rw [join]
  · exact fun h => by cases h
  · intro t same
    exact differs (List.cons.inj same).1

/-- A text that can name a file leads from a folder to what lies right inside it. -/
theorem join_of_isSegment (folder : Path) {t : Text} (segment : IsSegment t) :
    folder.join t = .ok (folder.child ⟨t, segment⟩) := by
  rw [join_of_isRelative folder segment.isRelative]
  exact congrArg Except.ok (folder.follow_text ⟨t, segment⟩)

/-- Segments that are each written after a slash are followed one after the other. -/
theorem follow_flatMap (p : Path) (names : List Segment) :
    p.follow (names.flatMap fun name => '/' :: name.text) = ⟨p.segments ++ names⟩ := by
  induction names generalizing p with
  | nil =>
    rw [List.flatMap_nil, follow_nil, List.append_nil]
  | cons name rest ih =>
    rw [List.flatMap_cons, List.cons_append, follow_slash]
    cases rest with
    | nil =>
      rw [List.flatMap_nil, List.append_nil, follow_text]
      rfl
    | cons next behind =>
      have onward := ih (p.child name)
      rw [List.flatMap_cons, List.cons_append] at onward ⊢
      rw [follow_append, follow_text, ← follow_slash, onward, child, List.append_assoc]
      rfl

/-- A path reads back from the text that it is written as. -/
theorem parse_text (p : Path) : parse p.text = .ok p := by
  obtain ⟨names⟩ := p
  have followed := follow_flatMap root names
  cases names with
  | nil => rfl
  | cons name rest =>
    have inside : (⟨name :: rest⟩ : Path) ≠ root := by simp [root]
    rw [List.flatMap_cons, List.cons_append, follow_slash] at followed
    rw [text, if_neg inside, List.flatMap_cons, List.cons_append, parse, followed]
    rfl

/-- Two paths are written differently. -/
theorem text_injective : Function.Injective text := by
  intro p q same
  have read := (parse_text p).symm.trans (same ▸ parse_text q)
  exact Except.ok.inj read

/-- A name is put behind a place, with or without a slash. -/
theorem prefix_putBehind (place name : Text) : place <+: putBehind place name := by
  rw [putBehind]
  split
  · exact List.prefix_append place name
  · exact List.prefix_append place ('/' :: name)

/-- The name of what lies inside a folder is put behind the folder's place. -/
theorem below_child (top : Text) (folder : Path) (name : Segment) :
    (folder.child name).below top = putBehind (folder.below top) name.text := by
  rw [below, child, List.foldl_append, List.foldl_cons, List.foldl_nil]
  rfl

end Path

end ShaderBundle
