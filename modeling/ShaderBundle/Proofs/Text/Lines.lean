import ShaderBundle.Text.Blank
import Mathlib.Data.List.Basic
/-!
# Lines of a text

Lines without a line feed can be put into one text and read back from it. The text keeps nothing else
apart: a reader that takes a carriage return off the end of each line sees the same blank lines and the
same beginnings after trimming. The other way round, the lines of a text make up the text again, with each
line ended by a line feed alone.
-/

namespace ShaderBundle.Text

/-- The lines of a text that a line feed ends, as they stand. -/
def endedLines (t : Text) : List Text := (t.splitOn '\n').dropLast

/-- The character that a text is split at is left in none of the pieces. -/
theorem not_mem_of_mem_splitOn {separator : Char} {t piece : Text} (listed : piece ∈ t.splitOn separator) :
    separator ∉ piece := by
  -- The text is cut at any place where the character stands; the pieces are those of the two parts.
  by_cases broken : separator ∈ t
  · obtain ⟨front, back, split⟩ := List.append_of_mem broken
    have size : t.length = front.length + (back.length + 1) := by
      rw [split, List.length_append, List.length_cons]
    rw [split, List.splitOn_append_cons_self, List.mem_append] at listed
    rcases listed with inFront | inBack
    · exact not_mem_of_mem_splitOn inFront
    · exact not_mem_of_mem_splitOn inBack
  · rw [List.splitOn_eq_singleton broken, List.mem_singleton] at listed
    rw [listed]
    exact broken
termination_by t.length
decreasing_by
  · omega
  · omega

/-- No line feed is left in the pieces that a text is split into at its line feeds. -/
theorem newline_not_mem_of_mem_splitOn {t piece : Text} (listed : piece ∈ t.splitOn '\n') :
    '\n' ∉ piece :=
  not_mem_of_mem_splitOn listed

/-- Lines make up a text, unless there are none. -/
theorem unlines_eq_nil_iff {ls : List Text} : unlines ls = [] ↔ ls = [] := by
  cases ls with
  | nil => simp [unlines]
  | cons l ls => simp [unlines]

/-- Lines that are each ended by a line feed come apart there, and nothing follows the last one. -/
theorem splitOn_unlines {ls : List Text} (unbroken : ∀ l ∈ ls, '\n' ∉ l) :
    (unlines ls).splitOn '\n' = ls ++ [[]] := by
  induction ls with
  | nil => rfl
  | cons l ls ih =>
    obtain ⟨first, rest⟩ := List.forall_mem_cons.1 unbroken
    have text : unlines (l :: ls) = l ++ '\n' :: unlines ls := by simp [unlines]
    rw [text, List.splitOn_append_cons_self, List.splitOn_eq_singleton first, ih rest]
    rfl

/-- Lines read back from the text that they are put into. -/
theorem endedLines_unlines {ls : List Text} (unbroken : ∀ l ∈ ls, '\n' ∉ l) :
    endedLines (unlines ls) = ls := by
  rw [endedLines, splitOn_unlines unbroken, List.dropLast_concat]

/-- The lines of a text are those in front of a line feed and those behind it. -/
theorem lines_append_newline_cons (front rest : Text) :
    lines (front ++ '\n' :: rest) = (front.splitOn '\n').map dropReturn ++ lines rest := by
  have behind := List.splitOn_ne_nil '\n' rest
  rw [lines, lines, List.splitOn_append_cons_self, List.dropLast_append_of_ne_nil behind,
    List.getLast?_append_of_ne_nil _ behind, List.map_append, List.append_assoc]

/-- Texts that are put into one as lines read back as theirs, each up to the carriage return that may end it. -/
theorem lines_unlines (ls : List Text) :
    lines (unlines ls) = ls.flatMap fun l => (l.splitOn '\n').map dropReturn := by
  induction ls with
  | nil => rfl
  | cons l ls ih =>
    have text : unlines (l :: ls) = l ++ '\n' :: unlines ls := by simp [unlines]
    rw [text, lines_append_newline_cons, ih, List.flatMap_cons]

/-- Lines without a line feed read back one by one. -/
theorem lines_unlines_of_unbroken {ls : List Text} (unbroken : ∀ l ∈ ls, '\n' ∉ l) :
    lines (unlines ls) = ls.map dropReturn := by
  rw [lines_unlines, List.map_eq_flatMap]
  exact List.flatMap_congr fun l listed => by rw [List.splitOn_eq_singleton (unbroken l listed)]; rfl

/-- A character is taken off the start of a text where it is there. -/
theorem getD_isPrefixOf?_eq_iff {c : Char} {t x : Text} :
    ([c].isPrefixOf? t).getD t = x ↔ t = c :: x ∨ t = x ∧ t.head? ≠ some c := by
  cases t with
  | nil => simp [List.isPrefixOf?]
  | cons d t =>
    by_cases same : d = c
    · subst same
      simp [List.isPrefixOf?]
    · simp [List.isPrefixOf?, same, Ne.symm same]

/-- A character is taken off the end of a text where it is there. -/
theorem getD_isSuffixOf?_eq_iff {c : Char} {t x : Text} :
    ([c].isSuffixOf? t).getD t = x ↔ t = x ++ [c] ∨ t = x ∧ t.getLast? ≠ some c := by
  -- the end of a text is the start of its reverse
  have mirrored : ([c].isSuffixOf? t).getD t = (([c].isPrefixOf? t.reverse).getD t.reverse).reverse := by
    rw [List.isSuffixOf?, List.reverse_singleton]
    cases [c].isPrefixOf? t.reverse with
    | none => exact (List.reverse_reverse t).symm
    | some rest => rfl
  rw [mirrored, List.reverse_eq_iff, getD_isPrefixOf?_eq_iff, List.reverse_inj, List.head?_reverse,
    List.reverse_eq_cons_iff, List.reverse_reverse]

/-- A text is what is left without a carriage return at its end, and the carriage return if there is one. -/
theorem eq_dropReturn_concat (t : Text) :
    t = dropReturn t ++ ['\r'] ∨ t = dropReturn t ∧ t.getLast? ≠ some '\r' :=
  getD_isSuffixOf?_eq_iff.1 rfl

/-- No line of a text has a line feed in it. -/
theorem newline_not_mem_of_mem_lines {t l : Text} (listed : l ∈ lines t) : '\n' ∉ l := by
  rcases List.mem_append.1 listed with ended | last
  · obtain ⟨piece, inside, rfl⟩ := List.mem_map.1 ended
    have whole := newline_not_mem_of_mem_splitOn (List.dropLast_subset _ inside)
    rcases eq_dropReturn_concat piece with returned | ⟨bare, _⟩
    · exact fun feed => whole (returned ▸ List.mem_append_left _ feed)
    · exact bare ▸ whole
  · have piece := Option.mem_toList.1 (List.mem_filter.1 last).1
    exact newline_not_mem_of_mem_splitOn (List.mem_of_getLast? piece)

/-- The text without the carriage returns that stand right before a line feed: each pair of the two is a line
feed alone. -/
def bareFeeds : Text → Text
  | [] => []
  | c :: t => if c = '\r' ∧ t.head? = some '\n' then bareFeeds t else c :: bareFeeds t

/-- The text with a line feed at its end, unless it is empty. -/
def ended (t : Text) : Text :=
  if t = [] ∨ t.getLast? = some '\n' then t else t ++ ['\n']

/-- A text without a line feed is one line, as it stands, unless it is empty. -/
theorem lines_of_newline_not_mem {t : Text} (unbroken : '\n' ∉ t) : lines t = [t].filter (· ≠ []) := by
  rw [lines, List.splitOn_eq_singleton unbroken]
  rfl

/-- Where no pair begins, a text is replaced behind its beginning only. -/
theorem bareFeeds_append {front : Text} (unbroken : '\n' ∉ front) (more : Text)
    (apart : front.getLast? = some '\r' → more.head? ≠ some '\n') :
    bareFeeds (front ++ more) = front ++ bareFeeds more := by
  induction front with
  | nil => rfl
  | cons c front ih =>
    have behind : '\n' ∉ front := List.not_mem_of_not_mem_cons unbroken
    have single : ¬ (c = '\r' ∧ (front ++ more).head? = some '\n') := by
      rintro ⟨rfl, follows⟩
      by_cases last : front = []
      · subst last
        exact apart rfl follows
      · rw [List.head?_append_of_ne_nil _ last] at follows
        exact behind (List.mem_of_mem_head? follows)
    have onward : front.getLast? = some '\r' → more.head? ≠ some '\n' := by
      intro ends
      apply apart
      rw [List.getLast?_cons, ends]
      rfl
    rw [List.cons_append, bareFeeds, if_neg single, ih behind onward]
    rfl

/-- A line feed that no carriage return comes before stays. -/
theorem bareFeeds_newline_cons (rest : Text) : bareFeeds ('\n' :: rest) = '\n' :: bareFeeds rest := by
  rw [bareFeeds, if_neg (fun pair => by cases pair.1)]

/-- The first pair of a text ends its first line. -/
theorem bareFeeds_append_newline_cons {first : Text} (unbroken : '\n' ∉ first) (rest : Text) :
    bareFeeds (first ++ '\n' :: rest) = dropReturn first ++ '\n' :: bareFeeds rest := by
  have ends := eq_dropReturn_concat first
  generalize dropReturn first = line at ends
  rcases ends with rfl | ⟨rfl, bare⟩
  · have plain : '\n' ∉ line := fun listed => unbroken (List.mem_append_left _ listed)
    have pair : bareFeeds ('\r' :: '\n' :: rest) = '\n' :: bareFeeds rest := by
      rw [bareFeeds, if_pos ⟨rfl, rfl⟩, bareFeeds_newline_cons]
    rw [List.append_assoc, List.singleton_append, bareFeeds_append plain _ (fun _ => by simp), pair]
  · rw [bareFeeds_append unbroken _ (fun ends => absurd ends bare), bareFeeds_newline_cons]

/-- What stands before a line feed makes no difference to the end of a text. -/
theorem ended_append_newline_cons (first rest : Text) :
    ended (first ++ '\n' :: rest) = first ++ '\n' :: ended rest := by
  by_cases empty : rest = []
  · subst empty
    rw [ended, if_pos (.inr List.getLast?_concat)]
    rfl
  · have last : (first ++ '\n' :: rest).getLast? = rest.getLast? := by
      rw [← List.singleton_append, ← List.append_assoc, List.getLast?_append_of_ne_nil _ empty]
    have filled : first ++ '\n' :: rest ≠ [] := by simp
    simp only [ended, last, empty, filled, false_or]
    split
    · rfl
    · rw [List.append_assoc, List.cons_append]

/-- The lines of a text make it up again, with a line feed in place of each pair and with one at the end. -/
theorem unlines_lines (t : Text) : unlines (lines t) = ended (bareFeeds t) := by
  by_cases broken : '\n' ∈ t
  · obtain ⟨first, rest, split, unbroken⟩ := List.eq_append_cons_of_mem broken
    have onward := unlines_lines rest
    rw [split, lines_append_newline_cons, List.splitOn_eq_singleton unbroken, List.map_singleton,
      List.singleton_append, bareFeeds_append_newline_cons unbroken, ended_append_newline_cons, ← onward, unlines,
      List.flatMap_cons, List.append_assoc]
    rfl
  · have same : bareFeeds t = t := by
      have whole := bareFeeds_append broken [] (fun _ => by simp)
      rwa [List.append_nil, bareFeeds, List.append_nil] at whole
    have last : t.getLast? ≠ some '\n' := fun ends => broken (List.mem_of_mem_getLast? ends)
    rw [lines_of_newline_not_mem broken, same, ended]
    by_cases empty : t = []
    · subst empty
      rfl
    · have kept : [t].filter (· ≠ []) = [t] := List.filter_cons_of_pos (by simpa using empty)
      rw [if_neg (by simp [empty, last]), kept, unlines, List.flatMap_singleton]
termination_by t.length
decreasing_by
  rw [split, List.length_append, List.length_cons]
  omega

/-- A carriage return that is no part of a pair stays, before one and at the end of the text. -/
example : ended (bareFeeds "a\r\r\n\r\nb\r".toList) = "a\r\n\nb\r\n".toList := by decide

/-- A blank at the end is trimmed. -/
theorem trim_concat {c : Char} (blank : isBlank c = true) (t : Text) : trim (t ++ [c]) = trim t := by
  have ends (s : Text) : trimEnd (s ++ [c]) = trimEnd s := by
    rw [trimEnd, List.reverse_append, List.reverse_singleton, List.singleton_append,
      List.dropWhile_cons_of_pos blank, trimEnd]
  rw [trim, trim, trimStart, trimStart, List.dropWhile_append]
  split
  · next nothing =>
    rw [List.isEmpty_iff.1 nothing, List.dropWhile_cons_of_pos blank]
    rfl
  · exact ends _

/-- The carriage return that may end a line is trimmed. -/
theorem trim_dropReturn (t : Text) : trim (dropReturn t) = trim t := by
  have ends := eq_dropReturn_concat t
  generalize dropReturn t = line at ends
  rcases ends with rfl | ⟨rfl, _⟩
  · exact (trim_concat (by decide) line).symm
  · rfl

/-- A text without blanks to take off stays as it is. -/
theorem dropWhile_isBlank_of_head? {t : Text} (first : ∀ c ∈ t.head?, isBlank c = false) :
    t.dropWhile isBlank = t := by
  cases t with
  | nil => rfl
  | cons c t =>
    have plain : isBlank c = false := first c rfl
    exact List.dropWhile_cons_of_neg (by simp [plain])

/-- A text keeps a beginning that has no blank at its ends. -/
theorem prefix_trim {word t : Text} (begins : word <+: t) (first : ∀ c ∈ word.head?, isBlank c = false)
    (last : ∀ c ∈ word.getLast?, isBlank c = false) : word <+: trim t := by
  obtain ⟨rest, rfl⟩ := begins
  by_cases empty : word = []
  · rw [empty]
    exact List.nil_prefix
  · have starts : trimStart (word ++ rest) = word ++ rest := by
      apply dropWhile_isBlank_of_head?
      rw [List.head?_append_of_ne_nil _ empty]
      exact first
    have stays : word.reverse.dropWhile isBlank = word.reverse := by
      apply dropWhile_isBlank_of_head?
      rw [List.head?_reverse]
      exact last
    rw [trim, starts, trimEnd, List.reverse_append, List.dropWhile_append, stays]
    split
    · exact ⟨[], by rw [List.append_nil, List.reverse_reverse]⟩
    · rw [List.reverse_append, List.reverse_reverse]
      exact List.prefix_append word _

end ShaderBundle.Text
