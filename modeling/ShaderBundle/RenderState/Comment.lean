import ShaderBundle.Text.Blank
/-!
# Directive comments

Authors ask for rendering state in comments of the form `/* KEY: value */`. This file finds them in a
source, from left to right and without overlap. A value ends before the first end of a comment, however
many lines it spans. Blanks around the key and the value do not count.
-/

namespace ShaderBundle

/-- The keys of directive comments. -/
inductive Key where
  | drawBuffers
  | renderTargets
  | blend
  | depthTest
  | cullFace
  | depthWrite
  | alphaTest
  | format
deriving DecidableEq

namespace Key

/-- Every key. -/
def all : List Key :=
  [.drawBuffers, .renderTargets, .blend, .depthTest, .cullFace, .depthWrite, .alphaTest, .format]

/-- The key as it is written. -/
def word : Key → String
  | .drawBuffers => "DRAWBUFFERS"
  | .renderTargets => "RENDERTARGETS"
  | .blend => "BLEND"
  | .depthTest => "DEPTHTEST"
  | .cullFace => "CULLFACE"
  | .depthWrite => "DEPTHWRITE"
  | .alphaTest => "ALPHATEST"
  | .format => "FORMAT"

/-- The key that a text starts with, and what follows it. -/
def leading? (t : Text) : Option (Key × Text) :=
  all.findSome? fun key => (key.word.toList.isPrefixOf? t).map fun rest => (key, rest)

end Key

/-- A directive comment. -/
structure Comment where
  /-- The key. -/
  key : Key
  /-- The value, without blanks around it. -/
  value : Text
deriving DecidableEq

namespace Comment

/-- What stands before the first end of a comment, and what follows that end. -/
def closed? : Text → Option (Text × Text)
  | '*' :: '/' :: rest => some ([], rest)
  | c :: t => (closed? t).map fun (inside, rest) => (c :: inside, rest)
  | [] => none

/-- Reads a directive after the start of a comment, up to the comment's end. -/
def ofOpened? (t : Text) : Option (Comment × Text) := do
  let (key, t) ← Key.leading? (Text.trimStart t)
  let t ← [':'].isPrefixOf? (Text.trimStart t)
  let (inside, rest) ← closed? (Text.trimStart t)
  return (⟨key, Text.trimEnd inside⟩, rest)

/-- Trimming makes no text longer. -/
theorem length_trimStart_le (t : Text) : (Text.trimStart t).length ≤ t.length :=
  (List.dropWhile_sublist _).length_le

/-- What follows a known beginning is no longer than the text. -/
theorem length_le_of_isPrefixOf? {beginning t rest : Text} (found : beginning.isPrefixOf? t = some rest) :
    rest.length ≤ t.length := by
  induction beginning generalizing t with
  | nil =>
    obtain rfl : t = rest := Option.some.inj found
    exact Nat.le_refl _
  | cons c beginning ih =>
    cases t with
    | nil => cases found
    | cons d t =>
      have onward : (if c == d then beginning.isPrefixOf? t else none) = some rest := found
      split at onward
      · exact Nat.le_succ_of_le (ih onward)
      · cases onward

/-- What follows the end of a comment is shorter than the text. -/
theorem length_closed?_lt {t inside rest : Text} (found : closed? t = some (inside, rest)) :
    rest.length < t.length := by
  fun_induction closed? t generalizing inside with
  | case1 r =>
    cases found
    simp only [List.length_cons]
    omega
  | case2 c t _ ih =>
    obtain ⟨⟨inner, behind⟩, at_tail, same⟩ := Option.map_eq_some_iff.1 found
    cases same
    exact Nat.lt_succ_of_lt (ih at_tail)
  | case3 => simp at found

/-- Reading a directive uses up a part of the text. -/
theorem length_ofOpened?_lt {t rest : Text} {comment : Comment}
    (found : ofOpened? t = some (comment, rest)) : rest.length < t.length := by
  simp only [ofOpened?, Option.bind_eq_bind, Option.bind_eq_some_iff, Option.pure_def,
    Option.some.injEq, Prod.mk.injEq, Prod.exists] at found
  obtain ⟨key, afterKey, leading, afterColon, colon, inside, behind, closing, _, same⟩ := found
  obtain ⟨candidate, _, start⟩ := List.exists_of_findSome?_eq_some leading
  obtain ⟨_, start, pair⟩ := Option.map_eq_some_iff.1 start
  cases pair
  subst same
  have h₁ := length_closed?_lt closing
  have h₂ := length_trimStart_le afterColon
  have h₃ := length_le_of_isPrefixOf? colon
  have h₄ := length_trimStart_le afterKey
  have h₅ := length_le_of_isPrefixOf? start
  have h₆ := length_trimStart_le t
  omega

/-- The directive comments of a source, in order. -/
def scan : Text → List Comment
  | [] => []
  | '/' :: '*' :: t =>
    match _found : ofOpened? t with
    | some (comment, rest) => comment :: scan rest
    | none => scan ('*' :: t)
  | _ :: t => scan t
termination_by t => t.length
decreasing_by
  · have := length_ofOpened?_lt _found
    simp; omega
  · simp
  · simp

end Comment

end ShaderBundle
