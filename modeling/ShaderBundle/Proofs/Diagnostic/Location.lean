import ShaderBundle.Diagnostic
import Mathlib.Data.List.TakeWhile
/-!
# How locations are written

A location is the name of a file and, behind it, a line and a column with the marks of one of the two
styles. The reader of locations finds exactly what is written in this way. The colon behind the letter of a
drive is part of the name where the rest of the line allows it, so the one name that could be read in two
ways is a single letter.
-/

namespace ShaderBundle

namespace Text

/-- A run of decimal digits, of whatever script. -/
def IsDigits (t : Text) : Prop := t ≠ [] ∧ ∀ c ∈ t, isDecimalDigit c = true

/-- An ASCII digit is a decimal digit. -/
theorem isDecimalDigit_of_isDigit {c : Char} (digit : c.isDigit = true) : isDecimalDigit c = true := by
  have bounds : 0x30 ≤ c.toNat ∧ c.toNat ≤ 0x39 := by
    simpa [Char.isDigit, Char.le_def, UInt32.le_iff_toNat_le] using digit
  refine List.any_eq_true.2 ⟨0x30, List.mem_cons_self, ?_⟩
  simp only [Bool.and_eq_true, decide_eq_true_eq]
  omega

/-- A number in decimal is a run of digits. -/
theorem isDigits_decimal (n : Nat) : IsDigits (decimal n) :=
  ⟨decimal_ne_nil n, fun _ inside => isDecimalDigit_of_isDigit (isDigit_of_mem_decimal inside)⟩

end Text

namespace Location

variable {t rest : Text} {l : Location}

/-- A text without a colon, an opening parenthesis and a line feed. -/
def IsPlain (t : Text) : Prop := ∀ c ∈ t, c ≠ ':' ∧ c ≠ '(' ∧ c ≠ '\n'

/-- A text that can name the file of a location. The letter of a drive may come first, with its colon. -/
def IsFileName (t : Text) : Prop :=
  IsPlain t ∨ ∃ letter rest, t = letter :: ':' :: rest ∧ letter.isAlpha = true ∧ IsPlain rest

/-- A text is plain if none of the three marks stands in it. -/
theorem isPlain_iff : IsPlain t ↔ ':' ∉ t ∧ '(' ∉ t ∧ '\n' ∉ t := by
  constructor
  · intro plain
    exact ⟨fun inside => (plain _ inside).1 rfl, fun inside => (plain _ inside).2.1 rfl,
      fun inside => (plain _ inside).2.2 rfl⟩
  · rintro ⟨colon, parenthesis, newline⟩ c inside
    exact ⟨fun same => colon (same ▸ inside), fun same => parenthesis (same ▸ inside),
      fun same => newline (same ▸ inside)⟩

/-- A letter is no mark. -/
theorem ne_of_isAlpha {mark letter : Char} (alpha : letter.isAlpha = true) (noLetter : mark.isAlpha = false) :
    mark ≠ letter := by
  rintro rfl
  rw [noLetter] at alpha
  contradiction

/-- A line and a column with the marks of a style, and what follows them. -/
def written (style : LocationStyle) (line column rest : Text) : Text :=
  match style with
  | .colons => ':' :: line ++ ':' :: column ++ ':' :: rest
  | .parentheses => '(' :: line ++ ',' :: column ++ ')' :: rest

/-- What may be written behind a column: in parentheses, a hyphen and a further column. -/
def IsFurther (style : LocationStyle) (t : Text) : Prop :=
  t = [] ∨ style = .parentheses ∧ ∃ column, Text.IsDigits column ∧ t = '-' :: column

/-- The text is the location, as it is written behind the name of the file. -/
def IsWritten (l : Location) (t : Text) : Prop :=
  Text.IsDigits l.line ∧ Text.IsDigits l.column ∧ ∃ further, IsFurther l.style further ∧
    t = written l.style l.line (l.column ++ further) l.rest

/-- A line and a column with the marks of a style are a location. -/
theorem isWritten_written {line column : Text} (run : Text.IsDigits line) (run' : Text.IsDigits column)
    (style : LocationStyle) (rest : Text) :
    IsWritten ⟨style, line, column, rest⟩ (written style line column rest) :=
  ⟨run, run', [], Or.inl rfl, by rw [List.append_nil]⟩

/-- The digits that are read are a run that goes on as long as it can. -/
theorem digits?_eq_some_iff {digits : Text} :
    digits? t = some (digits, rest) ↔
      t = digits ++ rest ∧ Text.IsDigits digits ∧ ∀ c ∈ rest.head?, Text.isDecimalDigit c = false := by
  rw [digits?]
  constructor
  · intro read
    split_ifs at read with none
    obtain ⟨rfl, rfl⟩ := Prod.mk.inj (Option.some.inj read)
    refine ⟨List.takeWhile_append_dropWhile.symm, ⟨none, fun c => List.mem_takeWhile_imp⟩, fun c first => ?_⟩
    have stops := List.head?_dropWhile_not Text.isDecimalDigit t
    rw [Option.mem_def.1 first] at stops
    exact stops
  · rintro ⟨rfl, ⟨filled, inside⟩, stops⟩
    have ends : rest.takeWhile Text.isDecimalDigit = [] ∧ rest.dropWhile Text.isDecimalDigit = rest := by
      cases rest with
      | nil => exact ⟨rfl, rfl⟩
      | cons c rest =>
        have other : Text.isDecimalDigit c = false := stops c rfl
        simp [other]
    rw [List.takeWhile_append_of_pos inside, List.dropWhile_append_of_pos inside, ends.1, ends.2,
      List.append_nil]
    exact if_neg filled

/-- Digits are read up to a mark that is none. -/
theorem digits?_append_cons {digits : Text} {mark : Char} (run : Text.IsDigits digits)
    (other : Text.isDecimalDigit mark = false) (rest : Text) :
    digits? (digits ++ mark :: rest) = some (digits, mark :: rest) := by
  rw [digits?_eq_some_iff]
  refine ⟨rfl, run, fun c first => ?_⟩
  obtain rfl := Option.some.inj first
  exact other

/-- A mark is passed where it stands. -/
theorem past?_eq_some_iff {mark : Char} : past? mark t = some rest ↔ t = mark :: rest := by
  cases t with
  | nil => simp [past?]
  | cons c t => simp [past?]

/-- A mark is read where it stands first. -/
theorem past?_cons (mark : Char) (rest : Text) : past? mark (mark :: rest) = some rest :=
  past?_eq_some_iff.2 rfl

/-- A location between colons is read where one is written. -/
theorem ofColons?_eq_some_iff :
    ofColons? t = some l ↔ l.style = .colons ∧ l.IsWritten (':' :: t) := by
  obtain ⟨style, line, column, rest⟩ := l
  constructor
  · intro read
    rw [ofColons?] at read
    obtain ⟨⟨line', t₁⟩, first, read⟩ := Option.bind_eq_some_iff.1 read
    obtain ⟨t₂, colon, read⟩ := Option.bind_eq_some_iff.1 read
    obtain ⟨⟨column', t₃⟩, second, read⟩ := Option.bind_eq_some_iff.1 read
    obtain ⟨t₄, colon', read⟩ := Option.bind_eq_some_iff.1 read
    cases read
    obtain ⟨rfl, run, _⟩ := digits?_eq_some_iff.1 first
    obtain rfl := past?_eq_some_iff.1 colon
    obtain ⟨rfl, run', _⟩ := digits?_eq_some_iff.1 second
    obtain rfl := past?_eq_some_iff.1 colon'
    exact ⟨rfl, run, run', [], Or.inl rfl, by simp [written]⟩
  · rintro ⟨rfl, run, run', further, none | ⟨other, _⟩, same⟩
    · rw [none, List.append_nil, written, List.append_assoc] at same
      obtain rfl := (List.cons.inj same).2
      have colon : Text.isDecimalDigit ':' = false := by decide
      simp [ofColons?, digits?_append_cons run colon, digits?_append_cons run' colon, past?_cons]
    · contradiction

/-- What may follow a column is passed, and it is no part of the column. -/
theorem pastFurtherColumn?_eq_some_iff :
    pastFurtherColumn? t = some (')' :: rest) ↔
      ∃ further, IsFurther .parentheses further ∧ t = further ++ ')' :: rest := by
  rw [pastFurtherColumn?]
  cases hyphen : past? '-' t with
  | none =>
    constructor
    · intro read
      exact ⟨[], Or.inl rfl, Option.some.inj read⟩
    · rintro ⟨further, rfl | ⟨_, column, _, rfl⟩, rfl⟩
      · rfl
      · rw [List.cons_append, past?_cons] at hyphen
        contradiction
  | some t' =>
    obtain rfl := past?_eq_some_iff.1 hyphen
    constructor
    · intro read
      obtain ⟨⟨column, behind⟩, second, rfl⟩ := Option.map_eq_some_iff.1 read
      obtain ⟨rfl, run, _⟩ := digits?_eq_some_iff.1 second
      exact ⟨'-' :: column, Or.inr ⟨rfl, column, run, rfl⟩, rfl⟩
    · rintro ⟨further, rfl | ⟨_, column, run, rfl⟩, same⟩
      · exact absurd (List.cons.inj same).1 (by decide)
      · have onward : t' = column ++ ')' :: rest := (List.cons.inj same).2
        show (digits? t').map Prod.snd = _
        rw [onward, digits?_append_cons run (by decide)]
        rfl

/-- A column is read up to what may follow it. -/
theorem digits?_append_further {column further : Text} (run : Text.IsDigits column)
    (may : IsFurther .parentheses further) (rest : Text) :
    digits? (column ++ (further ++ ')' :: rest)) = some (column, further ++ ')' :: rest) := by
  rcases may with rfl | ⟨_, _, _, rfl⟩
  · exact digits?_append_cons run (by decide) rest
  · exact digits?_append_cons run (by decide) _

/-- A location between parentheses is read where one is written. -/
theorem ofParentheses?_eq_some_iff :
    ofParentheses? t = some l ↔ l.style = .parentheses ∧ l.IsWritten ('(' :: t) := by
  obtain ⟨style, line, column, rest⟩ := l
  constructor
  · intro read
    rw [ofParentheses?] at read
    obtain ⟨⟨line', t₁⟩, first, read⟩ := Option.bind_eq_some_iff.1 read
    obtain ⟨t₂, comma, read⟩ := Option.bind_eq_some_iff.1 read
    obtain ⟨⟨column', t₃⟩, second, read⟩ := Option.bind_eq_some_iff.1 read
    obtain ⟨t₄, passed, read⟩ := Option.bind_eq_some_iff.1 read
    obtain ⟨t₅, closed, read⟩ := Option.bind_eq_some_iff.1 read
    cases read
    obtain ⟨rfl, run, _⟩ := digits?_eq_some_iff.1 first
    obtain rfl := past?_eq_some_iff.1 comma
    obtain ⟨rfl, run', _⟩ := digits?_eq_some_iff.1 second
    obtain rfl := past?_eq_some_iff.1 closed
    obtain ⟨further, may, rfl⟩ := pastFurtherColumn?_eq_some_iff.1 passed
    exact ⟨rfl, run, run', further, may, by simp [written]⟩
  · rintro ⟨rfl, run, run', further, may, same⟩
    rw [written, List.append_assoc] at same
    obtain rfl := (List.cons.inj same).2
    have comma : Text.isDecimalDigit ',' = false := by decide
    have passed : pastFurtherColumn? (further ++ ')' :: rest) = some (')' :: rest) :=
      pastFurtherColumn?_eq_some_iff.2 ⟨further, may, rfl⟩
    simp [ofParentheses?, digits?_append_cons run comma, past?_cons, digits?_append_further run' may, passed]

/-- What is written behind the name of a file starts with one of the two marks that end the name. -/
theorem IsWritten.exists_eq_cons {w : Text} (stands : l.IsWritten w) :
    (∃ t, w = ':' :: t ∧ ofColons? t = some l) ∨ ∃ t, w = '(' :: t ∧ ofParentheses? t = some l := by
  have ⟨_, _, further, _, same⟩ := stands
  cases style : l.style with
  | colons =>
    have starts : ∃ t, w = ':' :: t := ⟨_, by rw [same, style]; rfl⟩
    obtain ⟨t, rfl⟩ := starts
    exact Or.inl ⟨t, rfl, ofColons?_eq_some_iff.2 ⟨style, stands⟩⟩
  | parentheses =>
    have starts : ∃ t, w = '(' :: t := ⟨_, by rw [same, style]; rfl⟩
    obtain ⟨t, rfl⟩ := starts
    exact Or.inr ⟨t, rfl, ofParentheses?_eq_some_iff.2 ⟨style, stands⟩⟩

/-- A colon ends a plain name. -/
theorem ofNamed?_append_colon {name : Text} (plain : IsPlain name) (rest : Text) :
    ofNamed? (name ++ ':' :: rest) = ofColons? rest := by
  have passed : ∀ c ∈ name, (c ≠ ':' && c ≠ '(' && c ≠ '\n') = true := by
    intro c inside
    simpa [and_assoc] using plain c inside
  rw [ofNamed?, List.dropWhile_append_of_pos passed]
  rfl

/-- So does an opening parenthesis. -/
theorem ofNamed?_append_paren {name : Text} (plain : IsPlain name) (rest : Text) :
    ofNamed? (name ++ '(' :: rest) = ofParentheses? rest := by
  have passed : ∀ c ∈ name, (c ≠ ':' && c ≠ '(' && c ≠ '\n') = true := by
    intro c inside
    simpa [and_assoc] using plain c inside
  rw [ofNamed?, List.dropWhile_append_of_pos passed]
  rfl

/-- Behind a plain name, what is written is read. -/
theorem ofNamed?_append {name w : Text} (plain : IsPlain name) (stands : l.IsWritten w) :
    ofNamed? (name ++ w) = some l := by
  rcases stands.exists_eq_cons with ⟨t, rfl, read⟩ | ⟨t, rfl, read⟩
  · rw [ofNamed?_append_colon plain, read]
  · rw [ofNamed?_append_paren plain, read]

/-- What is read is written behind a plain name. -/
theorem exists_of_ofNamed? (read : ofNamed? t = some l) :
    ∃ name w, IsPlain name ∧ l.IsWritten w ∧ t = name ++ w := by
  have plain : IsPlain (t.takeWhile fun c => c ≠ ':' && c ≠ '(' && c ≠ '\n') := by
    intro c inside
    simpa [and_assoc] using List.mem_takeWhile_imp inside
  rw [ofNamed?] at read
  refine ⟨_, _, plain, ?_, List.takeWhile_append_dropWhile.symm⟩
  split at read
  · next mark => rw [mark]; exact (ofColons?_eq_some_iff.1 read).2
  · next mark => rw [mark]; exact (ofParentheses?_eq_some_iff.1 read).2
  · contradiction

/-- The letter of a drive is passed with its colon. -/
theorem pastDrive?_eq_some_iff :
    pastDrive? t = some rest ↔ ∃ letter, letter.isAlpha = true ∧ t = letter :: ':' :: rest := by
  unfold pastDrive?
  split
  case h_1 letter rest' =>
    by_cases alpha : letter.isAlpha = true
    · rw [if_pos alpha]
      constructor
      · intro same
        exact ⟨letter, alpha, by rw [Option.some.inj same]⟩
      · rintro ⟨_, _, same⟩
        rw [(List.cons.inj (List.cons.inj same).2).2]
    · rw [if_neg alpha]
      constructor
      · intro none
        contradiction
      · rintro ⟨letter', alpha', same⟩
        rw [(List.cons.inj same).1] at alpha
        contradiction
  case h_2 other =>
    constructor
    · intro none
      contradiction
    · rintro ⟨letter, _, rfl⟩
      exact absurd rfl (other letter rest)

/-- No drive is passed in a plain name, unless it is one letter and a colon follows. -/
theorem pastDrive?_append_cons {name : Text} {mark : Char} (plain : IsPlain name)
    (noLetter : mark.isAlpha = false)
    (wide : mark = ':' → ∀ letter : Char, letter.isAlpha = true → name ≠ [letter]) (rest : Text) :
    pastDrive? (name ++ mark :: rest) = none := by
  apply Option.eq_none_iff_forall_ne_some.2
  intro behind passed
  obtain ⟨letter, alpha, same⟩ := pastDrive?_eq_some_iff.1 passed
  match name with
  | [] => exact ne_of_isAlpha alpha noLetter (List.cons.inj same).1
  | [c] =>
    have colon : mark = ':' := (List.cons.inj (List.cons.inj same).2).1
    exact wide colon letter alpha (by rw [(List.cons.inj same).1])
  | c :: c' :: name =>
    have colon : c' = ':' := (List.cons.inj (List.cons.inj same).2).1
    exact (plain c' (by simp)).1 colon

/-- A location is read where one is written behind the name of a file, unless that is a single letter. -/
theorem ofLine?_append {name w : Text} (named : IsFileName name)
    (wide : ∀ letter : Char, letter.isAlpha = true → name ≠ [letter]) (stands : l.IsWritten w) :
    ofLine? (name ++ w) = some l := by
  rcases named with plain | ⟨letter, rest, rfl, alpha, plain⟩
  · have noDrive : pastDrive? (name ++ w) = none := by
      rcases stands.exists_eq_cons with ⟨t, rfl, _⟩ | ⟨t, rfl, _⟩
      · exact pastDrive?_append_cons plain (by decide) (fun _ => wide) t
      · exact pastDrive?_append_cons plain (by decide) (fun _ => wide) t
    rw [ofLine?, noDrive]
    exact ofNamed?_append plain stands
  · have passed : pastDrive? (letter :: ':' :: rest ++ w) = some (rest ++ w) :=
      pastDrive?_eq_some_iff.2 ⟨letter, alpha, rfl⟩
    have read : ofNamed? (rest ++ w) = some l := ofNamed?_append plain stands
    rw [ofLine?, passed, Option.bind_some, read]
    rfl

/-- A location that is read is written behind the name of a file. -/
theorem exists_of_ofLine? (read : ofLine? t = some l) :
    ∃ name w, IsFileName name ∧ l.IsWritten w ∧ t = name ++ w := by
  rcases Option.or_eq_some_iff.1 read with behind | ⟨_, whole⟩
  · obtain ⟨rest, passed, found⟩ := Option.bind_eq_some_iff.1 behind
    obtain ⟨letter, alpha, rfl⟩ := pastDrive?_eq_some_iff.1 passed
    obtain ⟨name, w, plain, stands, rfl⟩ := exists_of_ofNamed? found
    exact ⟨letter :: ':' :: name, w, Or.inr ⟨letter, name, rfl, alpha, plain⟩, stands, rfl⟩
  · obtain ⟨name, w, plain, stands, rfl⟩ := exists_of_ofNamed? whole
    exact ⟨name, w, Or.inl plain, stands, rfl⟩

end Location

end ShaderBundle
