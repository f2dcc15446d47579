import ShaderBundle.Proofs.Flat.Marked
import ShaderBundle.Proofs.RenderState.Scanning
/-!
# Directives in flat texts

A marker that is put into a text goes between two stretches. If each directive ends in the stretch in which
it starts, and no marker has the start or the end of a comment in the name of its file, the text has the same
directives with markers as without. A directive that lies across the end of a stretch takes the marker there
into its value.
-/

namespace ShaderBundle

/-- Two characters that no part of a marker but the name of its file has stand next to each other in the
name. -/
theorem Marker.pair_infix_file {m : Marker} {x y : Char} (inside : [x, y] <:+: m.text ++ ['\n'])
    (not_digit : x.isDigit = false) (not_before : x ∉ word ++ [' ', '"'])
    (not_behind : x ≠ '\n' ∧ y ≠ '"') : [x, y] <:+: m.file := by
  have parts : m.text ++ ['\n'] =
      (word ++ ' ' :: Text.decimal m.line ++ [' ', '"']) ++ (m.file ++ ['"', '\n']) := by
    simp [text]
  have front : x ∉ word ++ ' ' :: Text.decimal m.line ++ [' ', '"'] := by
    simp only [List.mem_append, List.mem_cons, not_or] at not_before ⊢
    refine ⟨⟨not_before.1, not_before.2.1, fun digit => ?_⟩, not_before.2⟩
    rw [Text.isDigit_of_mem_decimal digit] at not_digit
    contradiction
  have quote : x ≠ '"' := fun same => not_before (by rw [same]; decide)
  rw [parts] at inside
  rcases Text.pair_infix_append inside with inFront | inBack | ⟨last, _⟩
  · exact absurd (inFront.mem List.mem_cons_self) front
  · rcases Text.pair_infix_append inBack with inFile | inEnd | ⟨_, first⟩
    · exact inFile
    · have listed : x ∈ ['"', '\n'] := inEnd.mem List.mem_cons_self
      simp [quote, not_behind.1] at listed
    · exact absurd (Option.some.inj first).symm not_behind.2
  · exact absurd (List.mem_of_getLast? last) front

/-- A text that is made of lines ends with a line feed. -/
theorem Text.eq_newline_of_mem_getLast?_unlines {ls : List Text} {c : Char}
    (last : c ∈ (unlines ls).getLast?) : c = '\n' := by
  cases ls using List.reverseRecOn with
  | nil => cases last
  | append_singleton ls l =>
    have split : unlines (ls ++ [l]) = unlines ls ++ l ++ ['\n'] := by simp [unlines]
    rw [split, List.getLast?_concat] at last
    exact (Option.some.inj last).symm

namespace Stretch

open Comment (opening closing IsContained IsApart)

variable {root : Path} {stretches : List Stretch}

/-- The text of the stretch in a text with markers for the flattened file `root`. -/
def markedText (root : Path) (s : Stretch) : Text :=
  if s.file = root ∧ s.start = 0 then s.text else s.marker.text ++ ['\n'] ++ s.text

/-- The name of the stretch's file has neither the start nor the end of a comment in it. -/
def IsWellNamed (s : Stretch) : Prop := ¬ opening <:+: s.file.text ∧ ¬ closing <:+: s.file.text

instance (s : Stretch) : Decidable s.IsWellNamed := inferInstanceAs (Decidable (_ ∧ _))

/-- A stretch ends with a line feed, so it joins nothing to what follows it. -/
theorem ne_getLast?_text (s : Stretch) {c : Char} (differs : c ≠ '\n') : s.text.getLast? ≠ some c :=
  fun last => differs (Text.eq_newline_of_mem_getLast?_unlines last)

/-- The marker of a well-named stretch has no start of a comment. -/
theorem IsWellNamed.not_opening {s : Stretch} (named : s.IsWellNamed) :
    ¬ opening <:+: s.marker.text ++ ['\n'] :=
  fun inside => named.1 (Marker.pair_infix_file inside (by decide) (by decide) (by decide))

/-- The marker of a well-named stretch has no end of a comment. -/
theorem IsWellNamed.not_closing {s : Stretch} (named : s.IsWellNamed) :
    ¬ closing <:+: s.marker.text ++ ['\n'] :=
  fun inside => named.2 (Marker.pair_infix_file inside (by decide) (by decide) (by decide))

/-- Markers bring no end of a comment with them. -/
theorem closing_infix_of_marked (named : ∀ s ∈ stretches, s.IsWellNamed)
    (found : closing <:+: stretches.flatMap (markedText root)) : closing <:+: stretches.flatMap text := by
  induction stretches with
  | nil => exact found
  | cons s rest ih =>
    obtain ⟨first, others⟩ := List.forall_mem_cons.1 named
    have inText : closing <:+: s.text ++ rest.flatMap (markedText root) →
        closing <:+: s.text ++ rest.flatMap text := by
      intro here
      rcases Text.pair_infix_append here with front | back | ⟨star, _⟩
      · exact front.trans (List.prefix_append _ _).isInfix
      · exact (ih others back).trans (List.suffix_append _ _).isInfix
      · exact absurd star (s.ne_getLast?_text (by decide))
    rw [List.flatMap_cons, markedText] at found
    rw [List.flatMap_cons]
    split at found
    · exact inText found
    · rw [List.append_assoc] at found
      rcases Text.pair_infix_append found with inMarker | here | ⟨star, _⟩
      · exact absurd inMarker first.not_closing
      · exact inText here
      · exact absurd (List.getLast?_concat.symm.trans star) (by decide)

/-- A directive that starts in a stretch ends in it also if what follows the stretch has markers. -/
theorem isContained_marked {s : Stretch} (named : ∀ s ∈ stretches, s.IsWellNamed)
    (marked : ∀ s ∈ stretches, ¬ (s.file = root ∧ s.start = 0))
    (contained : IsContained s.text (stretches.flatMap text)) :
    IsContained s.text (stretches.flatMap (markedText root)) := by
  intro opened here none
  have none' := contained opened here none
  rw [Comment.ofOpened?_eq_none_iff] at none none' ⊢
  intro key head body heads split closes
  obtain ⟨inside, rfl, rfl⟩ : ∃ inside, opened = head ++ inside ∧
      body = inside ++ stretches.flatMap (markedText root) := by
    rcases List.append_eq_append_iff.1 split with ⟨beyond, rfl, behind⟩ | whole
    · -- a head that goes on behind the stretch would have the first sign of a marker in it
      cases beyond with
      | nil => exact ⟨[], by rw [List.append_nil, List.append_nil], behind.symm⟩
      | cons x beyond =>
        have hash : x = '#' := by
          cases stretches with
          | nil => cases behind
          | cons s' rest =>
            rw [List.flatMap_cons, markedText, if_neg (marked s' List.mem_cons_self)] at behind
            exact (List.cons.inj behind).1.symm
        exact absurd (by rw [hash]; simp) heads.hash_not_mem
    · exact whole
  rcases Text.pair_infix_append closes with inStretch | later | ⟨star, _⟩
  · exact none key head inside heads rfl inStretch
  · have later' := (closing_infix_of_marked named later).trans (List.suffix_append inside _).isInfix
    exact none' key head _ heads (List.append_assoc _ _ _) later'
  · have last : (head ++ inside).getLast? = some '*' := List.mem_getLast?_append_of_mem_getLast? star
    obtain ⟨before, same⟩ := (List.suffix_append opening (head ++ inside)).trans here
    have ends : s.text.getLast? = some '*' := by
      rw [← same]
      exact List.mem_getLast?_append_of_mem_getLast? last
    exact s.ne_getLast?_text (by decide) ends

/-- The text with markers is scanned stretch by stretch. -/
theorem scan_flatMap_markedText (named : ∀ s ∈ stretches, s.IsWellNamed)
    (marked : ∀ s ∈ stretches.tail, ¬ (s.file = root ∧ s.start = 0))
    (contained : ∀ s behind, s :: behind <:+ stretches → IsContained s.text (behind.flatMap text)) :
    Comment.scan (stretches.flatMap (markedText root)) = stretches.flatMap fun s => Comment.scan s.text := by
  induction stretches with
  | nil => exact Comment.scan.eq_1
  | cons s rest ih =>
    obtain ⟨first, others⟩ := List.forall_mem_cons.1 named
    have apart : IsApart s.text (rest.flatMap (markedText root)) := {
      contained := isContained_marked others marked (contained s rest List.suffix_rfl)
      seam := fun joined => s.ne_getLast?_text (by decide) joined.1 }
    have onward := ih others (fun s listed => marked s (List.mem_of_mem_tail listed))
      fun s behind ends => contained s behind (ends.trans (List.suffix_cons _ _))
    have here : Comment.scan (s.text ++ rest.flatMap (markedText root)) =
        Comment.scan s.text ++ rest.flatMap fun s => Comment.scan s.text := by
      rw [Comment.scan_append apart, onward]
    rw [List.flatMap_cons, List.flatMap_cons, markedText]
    split
    · exact here
    · have last : ¬ ((s.marker.text ++ ['\n']).getLast? = some '/' ∧
          (s.text ++ rest.flatMap (markedText root)).head? = some '*') :=
        fun joined => absurd (List.getLast?_concat.symm.trans joined.1) (by decide)
      rw [List.append_assoc, Comment.scan_append (Comment.isApart_of_not_opening first.not_opening last),
        Comment.scan_eq_nil first.not_opening, List.nil_append]
      exact here

/-- The text without markers is scanned stretch by stretch. -/
theorem scan_flatMap_text
    (contained : ∀ s behind, s :: behind <:+ stretches → IsContained s.text (behind.flatMap text)) :
    Comment.scan (stretches.flatMap text) = stretches.flatMap fun s => Comment.scan s.text := by
  induction stretches with
  | nil => exact Comment.scan.eq_1
  | cons s rest ih =>
    have apart : IsApart s.text (rest.flatMap text) := {
      contained := contained s rest List.suffix_rfl
      seam := fun joined => s.ne_getLast?_text (by decide) joined.1 }
    rw [List.flatMap_cons, List.flatMap_cons, Comment.scan_append apart,
      ih fun s behind ends => contained s behind (ends.trans (List.suffix_cons _ _))]

end Stretch

/-- Markers do not come between the start and the end of a directive, and bring no comment with them. -/
structure FlatSource.IsUninterrupted (s : FlatSource) : Prop where
  /-- No stretch is from a file with the start or the end of a comment in its name. -/
  named : ∀ stretch ∈ s.stretches, stretch.IsWellNamed
  /-- In the text without markers, a directive that starts in a stretch ends in it. -/
  contained : ∀ stretch behind, stretch :: behind <:+ s.stretches →
    Comment.IsContained stretch.text (behind.flatMap Stretch.text)

/-- Nothing is interrupted if all comments start in the last stretch. -/
theorem FlatSource.isUninterrupted_of_last {root : Path} {front : List Stretch} {last : Stretch}
    (named : ∀ stretch ∈ front ++ [last], stretch.IsWellNamed)
    (plain : ∀ stretch ∈ front, ¬ Comment.opening <:+: stretch.text) :
    IsUninterrupted ⟨root, front ++ [last]⟩ where
  named := named
  contained stretch behind ends opened here none := by
    obtain ⟨before, split⟩ := ends
    cases behind using List.reverseRecOn with
    | nil => rwa [List.flatMap_nil, List.append_nil]
    | append_singleton behind _ =>
      rw [← List.cons_append, ← List.append_assoc] at split
      obtain rfl := List.append_inj_left' split rfl
      have opens : Comment.opening <:+: stretch.text :=
        (List.prefix_append Comment.opening opened).isInfix.trans here.isInfix
      exact absurd opens (plain stretch (by simp))

namespace Library

variable {lib : Library} {path : Path} {file : SourceFile}

/-- A flattened file that is not interrupted has the same directives with markers as without. -/
theorem scan_markedText_flatten (found : lib.find? path = some file)
    (uninterrupted : (lib.flatten file).IsUninterrupted) :
    Comment.scan (lib.flatten file).markedText = Comment.scan (lib.flatten file).text := by
  have root : (lib.flatten file).root = path := (mem_of_find?_eq_some found).2
  have marked : ∀ s ∈ (lib.flatten file).stretches.tail, ¬ (s.file = path ∧ s.start = 0) :=
    not_start_of_mem_tail found
  have text : (lib.flatten file).markedText =
      (lib.flatten file).stretches.flatMap (Stretch.markedText path) := by
    rw [FlatSource.markedText, root]
    refine List.flatMap_congr fun s _ => ?_
    rw [Stretch.markedText, List.append_assoc]
    rfl
  rw [text, FlatSource.text, Stretch.scan_flatMap_markedText uninterrupted.named marked
    uninterrupted.contained, Stretch.scan_flatMap_text uninterrupted.contained]

end Library

end ShaderBundle
