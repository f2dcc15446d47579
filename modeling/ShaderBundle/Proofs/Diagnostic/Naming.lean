import ShaderBundle.Proofs.Diagnostic.Relocation
/-!
# What a compiled file may be called

A log names the file that the compiler was given, which is none that the author wrote, and that name should
not matter. It does not as long as it has no opening parenthesis. A parenthesis ends the name as a colon does,
so a location between colons that is written behind such a name is not looked at: the line stays as it is, or,
should the name itself go on as a location between parentheses, that one is moved.
-/

namespace ShaderBundle

namespace Location

variable {name front more : Text} {l : Location}

/-- A name that a compiled file may have, of at least two characters: a text on one line in which a colon
stands only behind the letter of a drive. -/
inductive IsCompiledName : Text → Prop where
  /-- A name without a drive. -/
  | plain {name : Text} (long : 2 ≤ name.length) (apart : ':' ∉ name) (unbroken : '\n' ∉ name) :
    IsCompiledName name
  /-- A name behind a drive. -/
  | drive {letter : Char} {name : Text} (alpha : letter.isAlpha = true) (filled : name ≠ [])
    (apart : ':' ∉ name) (unbroken : '\n' ∉ name) : IsCompiledName (letter :: ':' :: name)

/-- A name of a compiled file is on one line. -/
theorem IsCompiledName.newline_not_mem (named : IsCompiledName name) : '\n' ∉ name := by
  cases named with
  | plain _ _ unbroken => exact unbroken
  | drive alpha _ _ unbroken => simp [ne_of_isAlpha alpha, unbroken]

/-- A name of a compiled file names the file of a location if it has no opening parenthesis. -/
theorem IsCompiledName.isFileName (named : IsCompiledName name) (bare : '(' ∉ name) :
    IsFileName name ∧ ∀ letter : Char, letter.isAlpha = true → name ≠ [letter] := by
  cases named with
  | plain long apart unbroken =>
    refine ⟨Or.inl (isPlain_iff.2 ⟨apart, bare, unbroken⟩), ?_⟩
    rintro letter _ rfl
    rw [List.length_singleton] at long
    omega
  | @drive letter name alpha filled apart unbroken =>
    have bare' : '(' ∉ name := fun inside => bare (by simp [inside])
    refine ⟨Or.inr ⟨letter, name, rfl, alpha, isPlain_iff.2 ⟨apart, bare', unbroken⟩⟩, ?_⟩
    intro other _ same
    cases same

/-- Up to its first opening parenthesis, a name of a compiled file names the file of a location. -/
theorem IsCompiledName.of_append (named : IsCompiledName (front ++ '(' :: more)) (first : '(' ∉ front) :
    IsFileName front := by
  generalize whole : front ++ '(' :: more = name at named
  cases named with
  | plain _ apart unbroken =>
    subst whole
    simp only [List.mem_append, not_or] at apart unbroken
    exact Or.inl (isPlain_iff.2 ⟨apart.1, first, unbroken.1⟩)
  | @drive letter name alpha _ apart unbroken =>
    have unbracketed : '(' ∉ [letter, ':'] := by simp [ne_of_isAlpha alpha]
    obtain ⟨front, rfl, rfl⟩ := Text.exists_append_of_append_cons unbracketed whole
    simp only [List.mem_append, not_or] at apart unbroken first
    exact Or.inr ⟨letter, front, rfl, alpha, isPlain_iff.2 ⟨apart.1, first.2, unbroken.1⟩⟩

/-- No location between colons is read past a parenthesis. -/
theorem ofColons?_append_paren (apart : ':' ∉ name) (more : Text) : ofColons? (name ++ '(' :: more) = none := by
  apply Option.eq_none_iff_forall_ne_some.2
  intro l read
  obtain ⟨style, run, _, further, _, same⟩ := ofColons?_eq_some_iff.1 read
  rw [style, written, List.append_assoc] at same
  have unbracketed : '(' ∉ l.line := fun inside => absurd (run.2 _ inside) (by decide)
  obtain ⟨behind, rfl, rest⟩ := Text.exists_append_of_append_cons unbracketed (List.cons.inj same).2
  -- the colon behind the line would be in the name, or the parenthesis itself
  cases behind with
  | nil => exact absurd (List.cons.inj rest).1 (by decide)
  | cons c behind =>
    obtain rfl : ':' = c := (List.cons.inj rest).1
    exact apart (by simp)

/-- Behind the name of a file, a parenthesis leaves only the style with parentheses. -/
theorem ofLine?_append_paren (named : IsFileName front) (more : Text) :
    ofLine? (front ++ '(' :: more) = ofParentheses? more := by
  rcases named with plain | ⟨letter, name, rfl, alpha, plain⟩
  · have noDrive : pastDrive? (front ++ '(' :: more) = none :=
      pastDrive?_append_cons plain (by decide) (fun colon => absurd colon (by decide)) more
    rw [ofLine?, noDrive]
    exact ofNamed?_append_paren plain more
  · have passed : pastDrive? (letter :: ':' :: name ++ '(' :: more) = some (name ++ '(' :: more) :=
      pastDrive?_eq_some_iff.2 ⟨letter, alpha, rfl⟩
    have single : IsPlain [letter] := isPlain_iff.2 (by simp [ne_of_isAlpha alpha])
    have noColons : ofNamed? (letter :: ':' :: name ++ '(' :: more) = none :=
      (ofNamed?_append_colon single _).trans (ofColons?_append_paren (isPlain_iff.1 plain).1 more)
    rw [ofLine?, passed, Option.bind_some, noColons, Option.or_none]
    exact ofNamed?_append_paren plain more

/-- A location that is written from an opening parenthesis on is read behind it. -/
theorem IsWritten.ofParentheses?_eq (stands : l.IsWritten ('(' :: more)) : ofParentheses? more = some l := by
  rcases stands.exists_eq_cons with ⟨t, same, _⟩ | ⟨t, same, read⟩
  · exact absurd (List.cons.inj same).1 (by decide)
  · rw [(List.cons.inj same).2, read]

/-- A location between parentheses ends before a colon. -/
theorem isWritten_of_ofParentheses? {rest : Text} (read : ofParentheses? (more ++ ':' :: rest) = some l) :
    ∃ l' : Location, l'.IsWritten ('(' :: more) ∧ l = l'.followedBy (':' :: rest) := by
  obtain ⟨style, stands⟩ := ofParentheses?_eq_some_iff.1 read
  exact IsWritten.exists_of_append stands (by decide) (by rw [style]; decide)

end Location

namespace FlatSource

open Location

variable {s : FlatSource} {n k : Nat} {path : Path} {column rest : Text}

/-- How the lines are relocated that name a compiled file, a line of the flat text and a column, between
colons. The line and the column are the same, and so is what follows; the names differ. -/
structure IsNamedFreely (s : FlatSource) (n : Nat) (column rest : Text) (path : Path) (k : Nat) : Prop where
  /-- With any name that has no opening parenthesis, the location is moved to the same place. -/
  moved : ∀ name, IsCompiledName name → '(' ∉ name →
    s.relocate (name ++ written .colons (Text.decimal n) column rest) =
      path.text ++ written .colons (Text.decimal k) column rest
  /-- With a name that has one, the line stays as it is, unless a location is written from there on. -/
  kept : ∀ front more, IsCompiledName (front ++ '(' :: more) → '(' ∉ front →
    (∀ l : Location, ¬ l.IsWritten ('(' :: more)) →
    s.relocate (front ++ '(' :: more ++ written .colons (Text.decimal n) column rest) =
      front ++ '(' :: more ++ written .colons (Text.decimal n) column rest
  /-- If the name goes on as a location, that one is moved. -/
  mistaken : ∀ front more (l : Location) m path' k', IsCompiledName (front ++ '(' :: more) → '(' ∉ front →
    l.IsWritten ('(' :: more) → l.line.Denotes m → s.origin? m = some (path', k') →
    s.relocate (front ++ '(' :: more ++ written .colons (Text.decimal n) column rest) =
      path'.text ++ written l.style (Text.decimal k') l.column
        (l.rest ++ written .colons (Text.decimal n) column rest)

/-- The name of the compiled file does not matter to where a location between colons is moved, unless it has
an opening parenthesis. -/
theorem exists_isNamedFreely (s : FlatSource) {n : Nat} {column rest : Text} (first : 1 ≤ n)
    (last : n ≤ s.lineCount) (filled : column ≠ []) (digits : ∀ c ∈ column, c.isDigit = true)
    (unbroken : '\n' ∉ rest) :
    ∃ path k, s.origin? n = some (path, k) ∧ s.IsNamedFreely n column rest path k := by
  obtain ⟨⟨path, k⟩, origin⟩ := Option.isSome_iff_exists.1 (isSome_origin?_iff.2 ⟨first, last⟩)
  have denotes : (Text.decimal n).Denotes n := Text.numeral?_eq_some_iff.1 (Text.numeral?_decimal n)
  have run : Text.IsDigits column := ⟨filled, fun c inside => Text.isDecimalDigit_of_isDigit (digits c inside)⟩
  have stands := isWritten_written (Text.isDigits_decimal n) run .colons rest
  have single {name : Text} (named : IsCompiledName name) :
      '\n' ∉ name ++ written .colons (Text.decimal n) column rest := by
    rw [List.mem_append, not_or]
    exact ⟨named.newline_not_mem, stands.newline_not_mem unbroken⟩
  refine ⟨path, k, origin, ?moved, ?kept, ?mistaken⟩
  case moved =>
    intro name named bare
    obtain ⟨fileName, wide⟩ := named.isFileName bare
    rw [s.relocate_line (single named)]
    exact relocateLine_of_origin? (ofLine?_append fileName wide stands) denotes origin
  case kept =>
    intro front more named bare unwritten
    rw [s.relocate_line (single named)]
    apply relocateLine_of_absent
    rw [List.append_assoc, List.cons_append, ofLine?_append_paren (named.of_append bare)]
    apply Option.eq_none_iff_forall_ne_some.2
    intro l read
    obtain ⟨l', stands', _⟩ := isWritten_of_ofParentheses? read
    exact unwritten l' stands'
  case mistaken =>
    intro front more l m path' k' named bare stands' denotes' origin'
    have read : ofLine? (front ++ '(' :: more ++ written .colons (Text.decimal n) column rest) =
        some (l.followedBy (written .colons (Text.decimal n) column rest)) := by
      rw [List.append_assoc, List.cons_append, ofLine?_append_paren (named.of_append bare)]
      exact (stands'.followedBy _).ofParentheses?_eq
    rw [s.relocate_line (single named)]
    exact relocateLine_of_origin? read denotes' origin'

/-- What a file of a single line is flattened to. -/
def oneLine : FlatSource := ⟨Path.root.follow ['a'], [⟨Path.root.follow ['a'], 0, [['x']]⟩]⟩

/-- That holds of its first line. -/
theorem exists_isNamedFreely_oneLine :
    1 ≤ oneLine.lineCount ∧ (∀ c ∈ ['2'], c.isDigit = true) ∧
      ∃ path k, oneLine.origin? 1 = some (path, k) ∧ oneLine.IsNamedFreely 1 ['2'] [' ', 'e'] path k := by
  have counted : 1 ≤ oneLine.lineCount := Nat.le_refl 1
  have digits : ∀ c ∈ ['2'], c.isDigit = true := List.forall_mem_singleton.2 rfl
  exact ⟨counted, digits, oneLine.exists_isNamedFreely (Nat.le_refl 1) counted (by decide) digits (by decide)⟩

/-- A location is moved behind one name of the compiled file and not behind another, which has a parenthesis. -/
theorem relocate_parenthesized_name :
    Library.build (Reader.ofTable [(Path.root.follow ['a'], .ok [['x']])] fun _ => "no such file")
        [Path.root.follow ['a']] = .ok ⟨[⟨Path.root.follow ['a'], [⟨['x'], none⟩]⟩], []⟩ ∧
      Library.flattenAt ⟨[⟨Path.root.follow ['a'], [⟨['x'], none⟩]⟩], []⟩ (Path.root.follow ['a']) = .ok oneLine ∧
      oneLine.origin? 1 = some (Path.root.follow ['a'], 1) ∧
      IsCompiledName "p.hlsl".toList ∧ IsCompiledName "C:\\Program Files (x86)\\p.hlsl".toList ∧
      oneLine.relocate "p.hlsl:1:2: e".toList = "/a:1:2: e".toList ∧
      oneLine.relocate "C:\\Program Files (x86)\\p.hlsl:1:2: e".toList =
        "C:\\Program Files (x86)\\p.hlsl:1:2: e".toList := by
  have plain : IsCompiledName "p.hlsl".toList := .plain (by decide) (by decide) (by decide)
  have drive : IsCompiledName "C:\\Program Files (x86)\\p.hlsl".toList :=
    .drive (by decide) (by decide) (by decide) (by decide)
  exact ⟨by cbv, by cbv, rfl, plain, drive, by cbv, by cbv⟩

end FlatSource

end ShaderBundle
