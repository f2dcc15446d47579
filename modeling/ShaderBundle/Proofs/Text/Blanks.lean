import ShaderBundle.Proofs.Text.Lines
import Mathlib.Data.List.TakeWhile
/-!
# Blanks around texts and words

Blanks that are put around a text are trimmed, and blanks that are put between words part them again. Both
laws hold for any number of blanks, as long as the text, or the word, has none at its ends.
-/

namespace ShaderBundle.Text

variable {t b : Text}

/-- A text of blanks alone. -/
def AllBlank (t : Text) : Prop := ∀ c ∈ t, isBlank c = true

instance (t : Text) : Decidable (AllBlank t) := List.decidableBAll (fun c => isBlank c = true) t

/-- A text that neither starts nor ends with a blank. -/
structure IsTrimmed (t : Text) : Prop where
  /-- It does not start with a blank. -/
  first : ∀ c ∈ t.head?, isBlank c = false
  /-- It does not end with one. -/
  last : ∀ c ∈ t.getLast?, isBlank c = false

/-- A text without any blank. -/
def IsSolid (t : Text) : Prop := ∀ c ∈ t, isBlank c = false

instance (t : Text) : Decidable (IsSolid t) := List.decidableBAll (fun c => isBlank c = false) t

/-- A text without any blank is trimmed. -/
theorem IsSolid.isTrimmed (solid : IsSolid t) : IsTrimmed t where
  first c at_start := solid c (List.mem_of_mem_head? at_start)
  last c at_end := solid c (List.mem_of_mem_getLast? at_end)

/-- A text in which something trimmed comes first and last is trimmed. -/
theorem IsTrimmed.append {front back : Text} (middle : Text) (starts : IsTrimmed front) (ends : IsTrimmed back)
    (front_filled : front ≠ []) (back_filled : back ≠ []) : IsTrimmed (front ++ middle ++ back) where
  first c at_start := by
    rw [List.append_assoc, List.head?_append_of_ne_nil _ front_filled] at at_start
    exact starts.first c at_start
  last c at_end := by
    rw [List.getLast?_append_of_ne_nil _ back_filled] at at_end
    exact ends.last c at_end

/-- Blanks are blanks from the end as well. -/
theorem AllBlank.reverse (blank : AllBlank b) : AllBlank b.reverse :=
  fun c listed => blank c (List.mem_reverse.1 listed)

/-- Blanks behind blanks are blanks. -/
theorem AllBlank.append {b' : Text} (blank : AllBlank b) (blank' : AllBlank b') : AllBlank (b ++ b') :=
  fun c listed => (List.mem_append.1 listed).elim (blank c) (blank' c)

/-- Blanks at the start are dropped up to the first other character. -/
theorem dropWhile_isBlank_append (blank : AllBlank b) (first : ∀ c ∈ t.head?, isBlank c = false) :
    (b ++ t).dropWhile isBlank = t := by
  rw [List.dropWhile_append_of_pos blank, dropWhile_isBlank_of_head? first]

/-- Blanks at the start are trimmed. -/
theorem trimStart_append (blank : AllBlank b) (first : ∀ c ∈ t.head?, isBlank c = false) :
    trimStart (b ++ t) = t := dropWhile_isBlank_append blank first

/-- Blanks at the end are trimmed. -/
theorem trimEnd_append (blank : AllBlank b) (last : ∀ c ∈ t.getLast?, isBlank c = false) :
    trimEnd (t ++ b) = t := by
  have ends : ∀ c ∈ t.reverse.head?, isBlank c = false := by rwa [List.head?_reverse]
  rw [trimEnd, List.reverse_append, dropWhile_isBlank_append blank.reverse ends, List.reverse_reverse]

/-- Blanks around a trimmed text are trimmed. -/
theorem trim_append {b' : Text} (blank : AllBlank b) (blank' : AllBlank b') (trimmed : IsTrimmed t) :
    trim (b ++ t ++ b') = t := by
  by_cases empty : t = []
  · subst empty
    have all := blank.append blank'
    rw [List.append_nil, trim, ← List.append_nil (b ++ b'), trimStart_append all (fun c none => by cases none)]
    rfl
  · have first : ∀ c ∈ (t ++ b').head?, isBlank c = false := by
      rw [List.head?_append_of_ne_nil _ empty]
      exact trimmed.first
    rw [trim, List.append_assoc, trimStart_append blank first, trimEnd_append blank' trimmed.last]

/-- What is left of a text after trimming its start is its end. -/
theorem exists_allBlank_append_trimStart (t : Text) : ∃ b, AllBlank b ∧ t = b ++ trimStart t :=
  ⟨t.takeWhile isBlank, fun _ => List.mem_takeWhile_imp, List.takeWhile_append_dropWhile.symm⟩

/-- Trimming the start of a text that is not blank does not reach behind it. -/
theorem trimStart_append_of_ne_nil (filled : trimStart t ≠ []) (more : Text) :
    trimStart (t ++ more) = trimStart t ++ more := by
  rw [trimStart, List.dropWhile_append, ← trimStart, if_neg (by simpa using filled)]

/-- A word that blanks part from what follows is the first of the words. -/
theorem words_append {word rest : Text} (solid : IsSolid word) (filled : word ≠ []) (blank : AllBlank b)
    (apart : b ≠ []) : words (word ++ b ++ rest) = word :: words rest := by
  cases b with
  | nil => contradiction
  | cons c b =>
    obtain ⟨first, others⟩ := List.forall_mem_cons.1 blank
    -- between two blanks stands an empty piece, which is no word
    have skipped : ((b ++ rest).splitOnP isBlank).filter (· ≠ []) = words rest := by
      clear blank apart
      induction b with
      | nil => rfl
      | cons c' b ih =>
        obtain ⟨second, more⟩ := List.forall_mem_cons.1 others
        rw [List.cons_append, ← List.nil_append (c' :: (b ++ rest)), List.splitOnP_append_cons _ _ second,
          List.filter_append, ih more]
        rfl
    rw [words, List.append_assoc, List.cons_append, List.splitOnP_append_cons _ _ first,
      List.splitOnP_eq_singleton solid, List.filter_append, skipped]
    simp [filled]

/-- A word alone is the only word. -/
theorem words_of_isSolid {word : Text} (solid : IsSolid word) (filled : word ≠ []) : words word = [word] := by
  rw [words, List.splitOnP_eq_singleton solid]
  simp [filled]

end ShaderBundle.Text
