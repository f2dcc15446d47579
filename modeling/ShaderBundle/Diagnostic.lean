import ShaderBundle.Flat.Basic
/-!
# Compiler diagnostics

A compiler that was given a flat text names lines of that text. Its log is gone through from left to right:
where a line starts with a location, in one of the two usual styles, the location is rewritten to name the
line that the author wrote, and the search goes on behind it.
-/

namespace ShaderBundle

/-- How a location is written. -/
inductive LocationStyle where
  /-- As in `file:line:column:`. -/
  | colons
  /-- As in `file(line,column)`, where a further column may follow after a hyphen. -/
  | parentheses
deriving DecidableEq

/-- A location at the start of a line of a log, without its file. -/
structure Location where
  /-- How it is written. -/
  style : LocationStyle
  /-- The digits of the line. -/
  line : Text
  /-- The digits of the column. -/
  column : Text
  /-- What follows the location. -/
  rest : Text
deriving DecidableEq

namespace Location

/-- The decimal digits at the start of a text, at least one, and what follows them. -/
def digits? (t : Text) : Option (Text × Text) :=
  let digits := t.takeWhile Text.isDecimalDigit
  if digits = [] then none else some (digits, t.dropWhile Text.isDecimalDigit)

/-- What follows the given mark. -/
def past? (mark : Char) : Text → Option Text
  | c :: rest => if c = mark then some rest else none
  | [] => none

/-- Reads `line:column:`. -/
def ofColons? (t : Text) : Option Location := do
  let (line, t) ← digits? t
  let t ← past? ':' t
  let (column, t) ← digits? t
  let rest ← past? ':' t
  return ⟨.colons, line, column, rest⟩

/-- What follows a further column, where one is written. -/
def pastFurtherColumn? (t : Text) : Option Text :=
  match past? '-' t with
  | none => some t
  | some t => (digits? t).map Prod.snd

/-- Reads `line,column)`, with a further column or none. -/
def ofParentheses? (t : Text) : Option Location := do
  let (line, t) ← digits? t
  let t ← past? ',' t
  let (column, t) ← digits? t
  let t ← pastFurtherColumn? t
  let rest ← past? ')' t
  return ⟨.parentheses, line, column, rest⟩

/-- Reads a location whose file is named up to the first colon or opening parenthesis, which has to stand
on the same line. -/
def ofNamed? (t : Text) : Option Location :=
  match t.dropWhile fun c => c ≠ ':' && c ≠ '(' && c ≠ '\n' with
  | ':' :: rest => ofColons? rest
  | '(' :: rest => ofParentheses? rest
  | _ => none

/-- What follows the letter of a drive and its colon. -/
def pastDrive? : Text → Option Text
  | letter :: ':' :: rest => if letter.isAlpha then some rest else none
  | _ => none

/-- Reads the location that a line starts with, whatever lines follow. A drive is taken for part of the
file's name if the rest of the line allows it. -/
def ofLine? (t : Text) : Option Location :=
  ((pastDrive? t).bind ofNamed?).or (ofNamed? t)

/-- What is written in place of the location, for the given file and line. A further column is left out. -/
def moved (l : Location) (file : Path) (line : Nat) : Text :=
  match l.style with
  | .colons => file.text ++ ':' :: Text.decimal line ++ ':' :: l.column ++ [':']
  | .parentheses => file.text ++ '(' :: Text.decimal line ++ ',' :: l.column ++ [')']

/-- Reading digits makes no text longer. -/
theorem length_digits?_le {t digits rest : Text} (found : digits? t = some (digits, rest)) :
    rest.length ≤ t.length := by
  rw [digits?] at found
  split at found
  · cases found
  · cases found
    exact (List.dropWhile_sublist _).length_le

/-- Reading a mark uses it up. -/
theorem length_past?_lt {mark : Char} {t rest : Text} (found : past? mark t = some rest) :
    rest.length < t.length := by
  cases t with
  | nil => cases found
  | cons c t =>
    rw [past?] at found
    split at found
    · cases found
      exact Nat.lt_succ_self _
    · cases found

/-- Reading a further column, or none, makes no text longer. -/
theorem length_pastFurtherColumn?_le {t rest : Text} (found : pastFurtherColumn? t = some rest) :
    rest.length ≤ t.length := by
  rw [pastFurtherColumn?] at found
  split at found
  · cases found
    exact Nat.le_refl _
  · next hyphen =>
    obtain ⟨⟨digits, behind⟩, digits_found, same⟩ := Option.map_eq_some_iff.1 found
    cases same
    exact Nat.le_trans (length_digits?_le digits_found) (Nat.le_of_lt (length_past?_lt hyphen))

/-- Reading a line and a column between colons uses up a part of the text. -/
theorem length_rest_ofColons?_lt {t : Text} {l : Location} (found : ofColons? t = some l) :
    l.rest.length < t.length := by
  simp only [ofColons?, Option.bind_eq_bind, Option.bind_eq_some_iff, Option.pure_def,
    Option.some.injEq, Prod.exists] at found
  obtain ⟨_, t₁, line, t₂, colon, _, t₃, column, t₄, colon', same⟩ := found
  subst same
  have h₁ := length_digits?_le line
  have h₂ := length_past?_lt colon
  have h₃ := length_digits?_le column
  have h₄ := length_past?_lt colon'
  show t₄.length < t.length
  omega

/-- Reading a line and a column in parentheses uses up a part of the text. -/
theorem length_rest_ofParentheses?_lt {t : Text} {l : Location} (found : ofParentheses? t = some l) :
    l.rest.length < t.length := by
  simp only [ofParentheses?, Option.bind_eq_bind, Option.bind_eq_some_iff, Option.pure_def,
    Option.some.injEq, Prod.exists] at found
  obtain ⟨_, t₁, line, t₂, comma, _, t₃, column, t₄, further, t₅, closing, same⟩ := found
  subst same
  have h₁ := length_digits?_le line
  have h₂ := length_past?_lt comma
  have h₃ := length_digits?_le column
  have h₄ := length_pastFurtherColumn?_le further
  have h₅ := length_past?_lt closing
  show t₅.length < t.length
  omega

/-- Reading a location behind the name of a file uses up a part of the text. -/
theorem length_rest_ofNamed?_lt {t : Text} {l : Location} (found : ofNamed? t = some l) :
    l.rest.length < t.length := by
  have passed : (t.dropWhile fun c => c ≠ ':' && c ≠ '(' && c ≠ '\n').length ≤ t.length :=
    (List.dropWhile_sublist _).length_le
  rw [ofNamed?] at found
  split at found
  · next mark =>
    have behind := length_rest_ofColons?_lt found
    rw [mark, List.length_cons] at passed
    omega
  · next mark =>
    have behind := length_rest_ofParentheses?_lt found
    rw [mark, List.length_cons] at passed
    omega
  · cases found

/-- Reading a location uses up a part of the text. -/
theorem length_rest_lt {t : Text} {l : Location} (found : ofLine? t = some l) :
    l.rest.length < t.length := by
  rw [ofLine?] at found
  rcases Option.or_eq_some_iff.1 found with behind | ⟨_, whole⟩
  · obtain ⟨rest, drive, named⟩ := Option.bind_eq_some_iff.1 behind
    have shorter : rest.length < t.length := by
      unfold pastDrive? at drive
      split at drive
      · split at drive
        · cases drive
          simp only [List.length_cons]
          omega
        · cases drive
      · cases drive
    exact Nat.lt_trans (length_rest_ofNamed?_lt named) shorter
  · exact length_rest_ofNamed?_lt whole

end Location

namespace FlatSource

/-- What is written in place of a location that the given text starts with: the location moved to the origin
of its line, if the flat text has that line, and else what stands there. -/
def replacement (s : FlatSource) (location : Location) (t : Text) : Text :=
  match (Text.numeral? location.line).bind s.origin? with
  | some (file, line) => location.moved file line
  | none => t.take (t.length - location.rest.length)

/-- Relocates what is left of a log, which starts a line or not. -/
def relocateFrom (s : FlatSource) (startsLine : Bool) : Text → Text
  | [] => []
  | c :: t =>
    match _found : if startsLine then Location.ofLine? (c :: t) else none with
    | some location => s.replacement location (c :: t) ++ relocateFrom s false location.rest
    | none => c :: relocateFrom s (c == '\n') t
termination_by t => t.length
decreasing_by
  · split at _found
    · exact Location.length_rest_lt _found
    · cases _found
  · exact Nat.lt_succ_self _

/-- A log with the location that a line starts with, if the flat text has its line, moved to the origin of that
line. -/
def relocate (s : FlatSource) (log : Text) : Text := s.relocateFrom true log

end FlatSource

end ShaderBundle
