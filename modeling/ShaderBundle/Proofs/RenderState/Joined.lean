import ShaderBundle.Proofs.RenderState.Scanning
import ShaderBundle.Shader
/-!
# Joined sources

Sources can be put together into one, with a line feed between them, and ask for the same as before, as long
as none of them leaves a comment open. Whatever starts in the first then ends in it: a head of a directive
cannot run over the end of a comment, and so the body of a directive is closed where its comment is.
-/

namespace ShaderBundle

namespace Comment

variable {front opened : Text}

/-- A text that leaves no comment open: each start of a comment in it has an end of a comment behind it, which
does not share the star of the start. -/
def IsClosed (t : Text) : Prop := ∀ opened, opening ++ opened <:+ t → closing <:+: opened

/-- It is enough to look at each end of the text. -/
theorem isClosed_iff {t : Text} :
    IsClosed t ↔ ∀ ending ∈ t.tails, opening <+: ending → closing <:+: ending.drop opening.length := by
  constructor
  · intro closed ending listed starts
    obtain ⟨opened, rfl⟩ := starts
    rw [List.drop_left]
    exact closed opened ((List.mem_tails _ _).1 listed)
  · intro closed opened here
    have ends := closed _ ((List.mem_tails _ _).2 here) (List.prefix_append opening opened)
    rwa [List.drop_left] at ends

instance (t : Text) : Decidable (IsClosed t) := decidable_of_iff' _ isClosed_iff

/-- Where a comment has an end and no directive is read, none is read with more text behind it either. -/
theorem ofOpened?_append_eq_none (none : ofOpened? opened = none) (closes : closing <:+: opened)
    (more : Text) : ofOpened? (opened ++ more) = Option.none := by
  rw [ofOpened?_eq_none_iff] at none ⊢
  intro key head body heads split _
  have star : '*' ∉ head := heads.star_not_mem
  rcases List.append_eq_append_iff.1 split with ⟨beyond, rfl, _⟩ | ⟨inside, rfl, rfl⟩
  · -- the head would have to go on behind the end of the comment
    have inHead : closing <:+: opened ++ beyond := closes.trans (List.prefix_append opened beyond).isInfix
    exact star (inHead.mem List.mem_cons_self)
  · rcases Text.pair_infix_append closes with inHead | inBody | ⟨last, _⟩
    · exact star (inHead.mem List.mem_cons_self)
    · exact none key head inside heads rfl inBody
    · exact star (List.mem_of_getLast? last)

/-- A text that leaves no comment open is apart from what follows it on a new line. -/
theorem IsClosed.isApart (closed : IsClosed front) (back : Text) : IsApart front ('\n' :: back) where
  contained opened here none := ofOpened?_append_eq_none none (closed opened here) _
  seam joined := absurd joined.2 (by simp)

/-- Behind a text that leaves no comment open, a new line is scanned by itself. -/
theorem IsClosed.scan_append (closed : IsClosed front) (back : Text) :
    scan (front ++ '\n' :: back) = scan front ++ scan back := by
  have passed : ¬ opening <+: '\n' :: back := by
    rintro ⟨rest, same⟩
    exact absurd (List.cons.inj same).1 (by decide)
  rw [Comment.scan_append (closed.isApart back), scan_cons passed]

end Comment

namespace RenderState

/-- Where a source leaves no comment open, it can be joined to the next one. No directive is found, lost or
altered where the two meet, so the sources around them do not matter, and neither does it for a shader whether
its two main stages are read one by one or as one text. -/
theorem ofSources_joined {front : Text} (closed : Comment.IsClosed front) (back : Text)
    (before behind : List Text) :
    comments (before ++ front :: back :: behind) = comments (before ++ (front ++ '\n' :: back) :: behind) ∧
    malformed (before ++ front :: back :: behind) = malformed (before ++ (front ++ '\n' :: back) :: behind) ∧
    ofSources (before ++ front :: back :: behind) = ofSources (before ++ (front ++ '\n' :: back) :: behind) ∧
    ∀ shader : Shader, shader.vertex = front → shader.pixel = back →
      shader.state = ofSources [front ++ '\n' :: back] := by
  have found (before behind : List Text) : comments (before ++ front :: back :: behind) =
      comments (before ++ (front ++ '\n' :: back) :: behind) := by
    simp only [comments, List.flatMap_append, List.flatMap_cons, closed.scan_append, List.append_assoc]
  have state (before behind : List Text) : ofSources (before ++ front :: back :: behind) =
      ofSources (before ++ (front ++ '\n' :: back) :: behind) := by
    rw [ofSources, ofSources, found]
  refine ⟨found before behind, ?_, state before behind, ?_⟩
  · rw [malformed, malformed, found]
  · intro shader vertex pixel
    rw [Shader.state, vertex, pixel]
    exact state [] []

/-- The cut goes through what would open a comment, in a text with comments inside of comments, between sources
that leave one open. -/
theorem ofSources_joined_nested :
    let front := "/*/ BLEND:add */ /*/*CULLFACE:\nback*/ /".toList
    let back := "* DEPTHTEST:less */ /*BLEND: off*/".toList
    let before := ["/*BLEND:".toList]
    let behind := ["*/".toList]
    Comment.IsClosed front ∧
      comments (before ++ front :: back :: behind) = comments (before ++ (front ++ '\n' :: back) :: behind) ∧
      malformed (before ++ front :: back :: behind) = malformed (before ++ (front ++ '\n' :: back) :: behind) ∧
      ofSources (before ++ front :: back :: behind) = ofSources (before ++ (front ++ '\n' :: back) :: behind) ∧
      ∀ shader : Shader, shader.vertex = front → shader.pixel = back →
        shader.state = ofSources [front ++ '\n' :: back] := by
  intro front back before behind
  have closed : Comment.IsClosed front := by decide +kernel
  exact ⟨closed, ofSources_joined closed back before behind⟩

/-- A comment that is left open may become a directive when its end follows in the next source. -/
example : ofSources ["/*BLEND:off".toList, "*/".toList] = {} ∧
    ofSources ["/*BLEND:off\n*/".toList] = { blend? := some .off } := by
  decide +kernel

end RenderState

end ShaderBundle
