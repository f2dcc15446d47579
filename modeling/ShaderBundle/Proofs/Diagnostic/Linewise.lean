import ShaderBundle.Proofs.Diagnostic.Location
import ShaderBundle.Proofs.Text.Lines
/-!
# Logs line by line

A location is read from a single line: neither the name of its file nor its digits and marks are a line feed,
so what stands behind the end of the line makes no difference to what is read. And behind a location no
other is looked for before the next line starts. So going through a log comes to relocating each of its lines
by itself.
-/

namespace ShaderBundle

/-- A text in which a mark does not stand ends before that mark, wherever it is the start of a longer one. -/
theorem Text.exists_append_of_append_cons {mark : Char} {front rest t more : Text} (apart : mark ∉ front)
    (whole : t ++ mark :: more = front ++ rest) :
    ∃ behind, t = front ++ behind ∧ rest = behind ++ mark :: more := by
  rcases List.append_eq_append_iff.1 whole with ⟨between, longer, cut⟩ | ⟨behind, shorter, cut⟩
  · cases between with
    | nil => exact ⟨[], by rw [longer]; simp, by simpa using cut.symm⟩
    | cons c between =>
      obtain rfl : mark = c := (List.cons.inj cut).1
      exact absurd (by rw [longer]; simp) apart
  · exact ⟨behind, shorter, cut⟩

/-- The characters that stand between the numbers of a location. -/
def LocationStyle.marks : LocationStyle → Text
  | .colons => [':']
  | .parentheses => ['(', ',', '-', ')']

namespace Location

variable {t w : Text} {l : Location}

/-- The location with more text behind it. -/
def followedBy (l : Location) (more : Text) : Location := { l with rest := l.rest ++ more }

/-- Between the numbers of a location there are its marks. -/
theorem mem_of_mem_written {style : LocationStyle} {line column : Text} {c : Char}
    (inside : c ∈ written style line column []) : c ∈ line ∨ c ∈ column ∨ c ∈ style.marks := by
  cases style with
  | colons =>
    simp only [written, LocationStyle.marks, List.cons_append, List.mem_cons, List.mem_append] at inside ⊢
    tauto
  | parentheses =>
    simp only [written, LocationStyle.marks, List.cons_append, List.mem_cons, List.mem_append] at inside ⊢
    tauto

/-- A location is written with digits and marks alone, and anything may follow it. -/
theorem IsWritten.exists_front (stands : l.IsWritten w) :
    ∃ front, (∀ c ∈ front, Text.isDecimalDigit c = true ∨ c ∈ l.style.marks) ∧ w = front ++ l.rest ∧
      ∀ rest, IsWritten { l with rest := rest } (front ++ rest) := by
  obtain ⟨run, run', further, may, same⟩ := stands
  have behind (rest : Text) : written l.style l.line (l.column ++ further) rest =
      written l.style l.line (l.column ++ further) [] ++ rest := by
    cases l.style with
    | colons => simp [written]
    | parentheses => simp [written]
  have optional : ∀ c ∈ further, Text.isDecimalDigit c = true ∨ c ∈ l.style.marks := by
    rcases may with rfl | ⟨style, column, run'', rfl⟩
    · exact List.forall_mem_nil _
    · rw [style]
      exact List.forall_mem_cons.2 ⟨Or.inr (by decide), fun c inside => Or.inl (run''.2 c inside)⟩
  refine ⟨written l.style l.line (l.column ++ further) [], ?_, by rw [same, behind], fun rest => ?_⟩
  · intro c inside
    rcases mem_of_mem_written inside with line | column | mark
    · exact Or.inl (run.2 c line)
    · exact (List.mem_append.1 column).elim (fun column => Or.inl (run'.2 c column)) (optional c)
    · exact Or.inr mark
  · exact ⟨run, run', further, may, (behind rest).symm⟩

/-- What follows a location may go on. -/
theorem IsWritten.followedBy (stands : l.IsWritten w) (more : Text) :
    (l.followedBy more).IsWritten (w ++ more) := by
  obtain ⟨front, _, rfl, anyhow⟩ := stands.exists_front
  rw [List.append_assoc]
  exact anyhow _

/-- A location ends before a character that is neither a digit nor one of its marks. -/
theorem IsWritten.exists_of_append {mark : Char} {more : Text} (stands : l.IsWritten (w ++ mark :: more))
    (noDigit : Text.isDecimalDigit mark = false) (noMark : mark ∉ l.style.marks) :
    ∃ l' : Location, l'.IsWritten w ∧ l = l'.followedBy (mark :: more) := by
  obtain ⟨front, made, whole, anyhow⟩ := stands.exists_front
  have apart : mark ∉ front := by
    intro inside
    rcases made mark inside with digit | listed
    · rw [noDigit] at digit
      contradiction
    · exact noMark listed
  obtain ⟨behind, rfl, rest⟩ := Text.exists_append_of_append_cons apart whole
  exact ⟨{ l with rest := behind }, anyhow behind, by rw [Location.followedBy, ← rest]⟩

/-- A line feed is neither a digit nor a mark. -/
theorem newline_not_mem_marks (style : LocationStyle) : '\n' ∉ style.marks := by
  cases style with
  | colons => decide
  | parentheses => decide

/-- A location is written within a line. -/
theorem IsWritten.newline_not_mem (stands : l.IsWritten w) (unbroken : '\n' ∉ l.rest) : '\n' ∉ w := by
  obtain ⟨front, made, rfl, _⟩ := stands.exists_front
  rw [List.mem_append]
  rintro (inside | inside)
  · exact (made '\n' inside).elim (by decide) (newline_not_mem_marks l.style)
  · exact unbroken inside

/-- Whether a name with a location is read does not depend on the lines that follow. -/
theorem ofNamed?_append_newline (t more : Text) :
    ofNamed? (t ++ '\n' :: more) = (ofNamed? t).map fun l => l.followedBy ('\n' :: more) := by
  apply Option.ext
  intro l
  rw [Option.map_eq_some_iff]
  constructor
  · intro read
    obtain ⟨name, w, plain, stands, whole⟩ := exists_of_ofNamed? read
    obtain ⟨_, _, unbroken⟩ := isPlain_iff.1 plain
    obtain ⟨w', rfl, rfl⟩ := Text.exists_append_of_append_cons unbroken whole
    obtain ⟨l', stands', rfl⟩ := stands.exists_of_append (by decide) (newline_not_mem_marks l.style)
    exact ⟨l', ofNamed?_append plain stands', rfl⟩
  · rintro ⟨l, read, rfl⟩
    obtain ⟨name, w, plain, stands, rfl⟩ := exists_of_ofNamed? read
    rw [List.append_assoc]
    exact ofNamed?_append plain (stands.followedBy _)

/-- Nor does whether a drive is read. -/
theorem pastDrive?_append_newline (t more : Text) :
    pastDrive? (t ++ '\n' :: more) = (pastDrive? t).map (· ++ '\n' :: more) := by
  apply Option.ext
  intro rest
  rw [Option.map_eq_some_iff, pastDrive?_eq_some_iff]
  constructor
  · rintro ⟨letter, alpha, whole⟩
    have unbroken : '\n' ∉ [letter, ':'] := by simp [ne_of_isAlpha alpha]
    obtain ⟨behind, rfl, rest⟩ := Text.exists_append_of_append_cons unbroken whole
    exact ⟨behind, pastDrive?_eq_some_iff.2 ⟨letter, alpha, rfl⟩, rest.symm⟩
  · rintro ⟨rest, passed, rfl⟩
    obtain ⟨letter, alpha, rfl⟩ := pastDrive?_eq_some_iff.1 passed
    exact ⟨letter, alpha, rfl⟩

/-- The location that a line starts with does not depend on the lines that follow. -/
theorem ofLine?_append_newline (t more : Text) :
    ofLine? (t ++ '\n' :: more) = (ofLine? t).map fun l => l.followedBy ('\n' :: more) := by
  rw [ofLine?, ofLine?, pastDrive?_append_newline, ofNamed?_append_newline, Option.map_or]
  cases pastDrive? t with
  | none => rfl
  | some rest => rw [Option.map_some, Option.bind_some, Option.bind_some, ofNamed?_append_newline]

/-- What follows a location ends the line. -/
theorem exists_append_rest (read : ofLine? t = some l) : ∃ front, t = front ++ l.rest := by
  obtain ⟨name, w, _, stands, rfl⟩ := exists_of_ofLine? read
  obtain ⟨front, _, rfl, _⟩ := stands.exists_front
  exact ⟨name ++ front, (List.append_assoc ..).symm⟩

end Location

namespace FlatSource

variable {s : FlatSource} {t more : Text} {l : Location}

/-- A line of a log, relocated by itself. -/
def relocateLine (s : FlatSource) (t : Text) : Text :=
  match Location.ofLine? t with
  | some l => s.replacement l t ++ l.rest
  | none => t

/-- What is written in place of a location does not depend on what follows. -/
theorem replacement_followedBy (s : FlatSource) (l : Location) (t more : Text) :
    s.replacement (l.followedBy more) (t ++ more) = s.replacement l t := by
  have sizes : (t ++ more).length - (l.rest ++ more).length = t.length - l.rest.length := by
    rw [List.length_append, List.length_append, Nat.add_sub_add_right]
  rw [replacement, replacement, Location.followedBy, sizes,
    List.take_append_of_le_length (Nat.sub_le _ _)]
  rfl

/-- Within a line a character stays, and behind a line feed a line starts. -/
theorem relocateFrom_false_cons (s : FlatSource) (c : Char) (t : Text) :
    s.relocateFrom false (c :: t) = c :: s.relocateFrom (c == '\n') t := by
  rw [relocateFrom]
  rfl

/-- Within a line nothing is relocated. -/
theorem relocateFrom_false_append (s : FlatSource) (unbroken : '\n' ∉ t) (more : Text) :
    s.relocateFrom false (t ++ more) = t ++ s.relocateFrom false more := by
  induction t with
  | nil => rfl
  | cons c t ih =>
    have differs : c ≠ '\n' := fun same => unbroken (same ▸ List.mem_cons_self)
    have behind : '\n' ∉ t := fun inside => unbroken (List.mem_cons_of_mem c inside)
    have inside : (c == '\n') = false := beq_false_of_ne differs
    rw [List.cons_append, relocateFrom_false_cons, inside, ih behind, List.cons_append]

/-- At the start of a line, a location gives way to its replacement, and the search goes on behind it. -/
theorem relocate_of_ofLine? (s : FlatSource) (read : Location.ofLine? t = some l) :
    s.relocate t = s.replacement l t ++ s.relocateFrom false l.rest := by
  cases t with
  | nil => cases read
  | cons c t =>
    rw [relocate, relocateFrom]
    split
    · next found =>
      obtain rfl := Option.some.inj (found.symm.trans read)
      rfl
    · next absent =>
      rw [if_pos rfl, read] at absent
      cases absent

/-- Without a location there, nothing is relocated up to the next line. -/
theorem relocate_of_ofLine?_eq_none (s : FlatSource) (absent : Location.ofLine? t = none) :
    s.relocate t = s.relocateFrom false t := by
  cases t with
  | nil =>
    rw [relocate, relocateFrom, relocateFrom]
  | cons c t =>
    rw [relocate, relocateFrom, relocateFrom_false_cons]
    split
    · next found =>
      rw [if_pos rfl, absent] at found
      cases found
    · rfl

/-- A log of one line is relocated as the line is. -/
theorem relocate_line (s : FlatSource) (unbroken : '\n' ∉ t) : s.relocate t = s.relocateLine t := by
  have ends {t : Text} (unbroken : '\n' ∉ t) : s.relocateFrom false t = t := by
    have scanned := s.relocateFrom_false_append unbroken []
    rwa [List.append_nil, relocateFrom, List.append_nil] at scanned
  rw [relocateLine]
  cases read : Location.ofLine? t with
  | none => rw [s.relocate_of_ofLine?_eq_none read, ends unbroken]
  | some l =>
    obtain ⟨front, whole⟩ := Location.exists_append_rest read
    have unbroken' : '\n' ∉ l.rest := fun inside => unbroken (by rw [whole]; simp [inside])
    rw [s.relocate_of_ofLine? read, ends unbroken']

/-- The first line of a log is relocated by itself, and the search starts again behind it. -/
theorem relocate_line_append (s : FlatSource) (unbroken : '\n' ∉ t) (more : Text) :
    s.relocate (t ++ '\n' :: more) = s.relocateLine t ++ '\n' :: s.relocate more := by
  have onward {t : Text} (unbroken : '\n' ∉ t) :
      s.relocateFrom false (t ++ '\n' :: more) = t ++ '\n' :: s.relocate more := by
    rw [s.relocateFrom_false_append unbroken, relocateFrom_false_cons]
    rfl
  have local_read := Location.ofLine?_append_newline t more
  rw [relocateLine]
  cases read : Location.ofLine? t with
  | none =>
    rw [read, Option.map_none] at local_read
    rw [s.relocate_of_ofLine?_eq_none local_read, onward unbroken]
  | some l =>
    rw [read, Option.map_some] at local_read
    obtain ⟨front, whole⟩ := Location.exists_append_rest read
    have unbroken' : '\n' ∉ l.rest := fun inside => unbroken (by rw [whole]; simp [inside])
    rw [s.relocate_of_ofLine? local_read, replacement_followedBy, Location.followedBy, onward unbroken',
      List.append_assoc]

/-- Lines that are put together with line feeds are relocated one by one. -/
theorem relocate_intercalate (s : FlatSource) {ls : List Text} (filled : ls ≠ [])
    (unbroken : ∀ l ∈ ls, '\n' ∉ l) :
    s.relocate (['\n'].intercalate ls) = ['\n'].intercalate (ls.map s.relocateLine) := by
  induction ls with
  | nil => contradiction
  | cons l ls ih =>
    obtain ⟨first, others⟩ := List.forall_mem_cons.1 unbroken
    cases ls with
    | nil =>
      rw [List.map_singleton, List.intercalate_singleton, List.intercalate_singleton, s.relocate_line first]
    | cons l' ls =>
      have rest := ih (List.cons_ne_nil l' ls) others
      rw [List.map_cons] at rest
      rw [List.map_cons, List.map_cons, List.intercalate_cons_cons, List.intercalate_cons_cons, ← rest,
        List.append_assoc, List.singleton_append, s.relocate_line_append first, List.append_assoc,
        List.singleton_append]

/-- A log is relocated line by line. -/
theorem relocate_eq (s : FlatSource) (log : Text) :
    s.relocate log = ['\n'].intercalate ((log.splitOn '\n').map s.relocateLine) := by
  have lines := s.relocate_intercalate (List.splitOn_ne_nil '\n' log)
    fun l listed => Text.newline_not_mem_of_mem_splitOn listed
  rwa [List.intercalate_splitOn] at lines

end FlatSource

end ShaderBundle
